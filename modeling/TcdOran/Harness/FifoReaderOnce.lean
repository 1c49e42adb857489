import TcdOran.Harness.FifoReader

/-! What holds of every run of the FIFO readers: a binding is consumed and its actuator run at most
once. -/
namespace TcdOran.Harness
open TcdOran.Lib Python

/-! ### What the events say -/

def ReaderEvent.reader : ReaderEvent → ReaderId
  | .token id _ | .performed id _ _ | .validated id _ _ | .consumed id _ | .actuated id _ _ => id

def ReaderEvent.line? (id : ReaderId) : ReaderEvent → Option (List ℕ)
  | .token k line => if k = id then some line else none
  | _ => none

def ReaderEvent.consumedIndex? : ReaderEvent → Option TransitionIndex
  | .consumed _ index => some index
  | _ => none

def ReaderEvent.actuatedIndex? : ReaderEvent → Option TransitionIndex
  | .actuated _ index _ => some index
  | _ => none

def ReaderEvent.actuatedBy? (id : ReaderId) : ReaderEvent → Option TransitionIndex
  | .actuated k index _ => if k = id then some index else none
  | _ => none

/-- The last line that a process has read. -/
def lastLine (id : ReaderId) (tr : List ReaderEvent) : Option (List ℕ) :=
  (tr.filterMap (ReaderEvent.line? id)).getLast?

/-- The transitions that a process has executed, in order. -/
def actuations (id : ReaderId) (tr : List ReaderEvent) : List TransitionIndex :=
  tr.filterMap (ReaderEvent.actuatedBy? id)

/-- The bindings are consumed and executed exactly once at most. -/
structure ExactlyOnce (tr : List ReaderEvent) (s : ReaderState) : Prop where
  consumed : (tr.filterMap ReaderEvent.consumedIndex?).Nodup
  actuated : (tr.filterMap ReaderEvent.actuatedIndex?).Nodup
  validated : ∀ id index b b', .validated id index b ∈ tr → .validated id index b' ∈ tr → b = b'
  behindConsume : ∀ before id index ratioText after,
    tr = before ++ .actuated id index ratioText :: after → .consumed id index ∈ before
  boundRatio : ∀ before id index ratioText after,
    tr = before ++ .actuated id index ratioText :: after →
      ∃ b, .validated id index b ∈ before ∧ ratioText = intText b.ratio
  behindTrigger : ∀ before id index op after, tr = before ++ .performed id index op :: after →
    lastLine id before = some triggerToken
  consecutive : ∀ id p, s.processes id = some p →
    ∃ n, actuations id tr = List.range' p.initial n ∧ 1 ≤ p.initial ∧ p.initial + n ≤ 7

/-! ### What one step does -/

def ReaderPc.binding? : ReaderPc → Option RatioBinding
  | .checkConsumed b | .linkMarker b | .syncLinked b | .unlinkBinding b | .syncUnlinked b
  | .startActuator b | .awaitActuator b => some b
  | _ => none

/-- Behind the link, up to the end of the actuator. -/
def ReaderPc.holdsMarker : ReaderPc → Bool
  | .syncLinked _ | .unlinkBinding _ | .syncUnlinked _ | .startActuator _ | .awaitActuator _ => true
  | _ => false

/-- How far a process is with its transition. -/
def ReaderPc.rank : ReaderPc → ℕ
  | .readToken => 0
  | .checkMarker => 1
  | .statBinding => 2
  | .readBinding => 3
  | .checkConsumed _ => 4
  | .linkMarker _ => 5
  | .syncLinked _ => 6
  | .unlinkBinding _ => 7
  | .syncUnlinked _ => 8
  | .startActuator _ => 9
  | .awaitActuator _ => 10
  | .ended _ | .crashed => 11

/-- What a step of a process does behind its token. -/
inductive ReaderMove (files : ReaderFiles) (id : ReaderId) (p : ReaderProcess) (op : ReaderOp) :
    ReaderStep → Prop
  | stop (error : String) :
      ReaderMove files id p op (files, p.stop error, [.performed id p.next op])
  | advance (files' : ReaderFiles) (p' : ReaderProcess) : files'.consumed = files.consumed →
      p'.initial = p.initial → p'.next = p.next → p'.pc.op ≠ none →
      p.pc.rank < p'.pc.rank → p'.pc.rank < 10 → p'.pc.binding? = p.pc.binding? →
      p'.pc.holdsMarker = p.pc.holdsMarker →
      ReaderMove files id p op (files', p', [.performed id p.next op])
  | validated (b : RatioBinding) : p.pc = .readBinding →
      ReaderMove files id p op (files, { p with pc := .checkConsumed b },
        [.performed id p.next op, .validated id p.next b])
  | linked (b : RatioBinding) : p.pc = .linkMarker b → files.consumed p.next = none →
      files.binding p.next ≠ none →
      ReaderMove files id p op (files.link p.next, { p with pc := .syncLinked b },
        [.performed id p.next op, .consumed id p.next])
  | actuated (b : RatioBinding) : p.pc = .startActuator b →
      ReaderMove files id p op (files, { p with pc := .awaitActuator b },
        [.performed id p.next op, .actuated id p.next (intText b.ratio)])
  | completed (b : RatioBinding) : p.pc = .awaitActuator b →
      ReaderMove files id p op (files, { p with
        pc := .readToken
        next := p.next + 1 }, [.performed id p.next op])

section
variable {lib : ReaderLibrary} {files : ReaderFiles} {id : ReaderId} {p : ReaderProcess} {ok : Bool}
  {nowUtc returncode : ℤ} {move : ReaderStep} {op : ReaderOp}

/-- A step with the event of its call in front. -/
def withOp (id : ReaderId) (p : ReaderProcess) (op : ReaderOp) (move : ReaderStep) : ReaderStep :=
  (move.1, move.2.1, .performed id p.next op :: move.2.2)

theorem move_stop {error : String} (h : some (readerStop files p error) = some move) :
    ReaderMove files id p op (withOp id p op move) := by
  obtain rfl := Option.some.inj h
  exact .stop error

theorem move_goto {files' : ReaderFiles} {pc : ReaderPc}
    (h : some (readerGoto files' p pc) = some move) (hconsumed : files'.consumed = files.consumed)
    (hop : pc.op ≠ none) (hrank : p.pc.rank < pc.rank) (hlast : pc.rank < 10)
    (hbinding : pc.binding? = p.pc.binding?) (hholds : pc.holdsMarker = p.pc.holdsMarker) :
    ReaderMove files id p op (withOp id p op move) := by
  obtain rfl := Option.some.inj h
  exact .advance files' _ hconsumed rfl rfl hop hrank hlast hbinding hholds

theorem loadBindingStep_move (h : loadBindingStep lib files id p ok nowUtc = some move) :
    ReaderMove files id p op (withOp id p op move) := by
  unfold loadBindingStep at h
  split at h
  case h_1 hpc =>
    split at h
    · exact move_stop h
    · split at h
      · exact move_stop h
      · apply move_goto h rfl <;>
          simp [hpc, ReaderPc.op, ReaderPc.rank, ReaderPc.binding?, ReaderPc.holdsMarker]
  case h_2 hpc =>
    split at h
    · exact move_stop h
    · split at h
      · exact move_stop h
      · split at h
        · exact move_stop h
        · exact move_stop h
        · apply move_goto h rfl <;>
            simp [hpc, ReaderPc.op, ReaderPc.rank, ReaderPc.binding?, ReaderPc.holdsMarker]
  case h_3 hpc =>
    split at h
    · exact move_stop h
    · split at h
      · exact move_stop h
      · split at h
        · exact move_stop h
        · next binding _ =>
          obtain rfl := Option.some.inj h
          exact .validated binding hpc
  case h_4 => cases h

theorem consumeBindingStep_move (h : consumeBindingStep files id p ok = some move) :
    ReaderMove files id p op (withOp id p op move) := by
  unfold consumeBindingStep at h
  split at h
  case h_1 hpc =>
    split at h
    · exact move_stop h
    · split at h
      · exact move_stop h
      · apply move_goto h rfl <;>
          simp [hpc, ReaderPc.op, ReaderPc.rank, ReaderPc.binding?, ReaderPc.holdsMarker]
  case h_2 b hpc =>
    split at h
    · exact move_stop h
    · next hfree =>
      split at h
      · exact move_stop h
      · next hpresent =>
        obtain rfl := Option.some.inj h
        exact .linked b hpc (not_ne_iff.mp hfree) (not_or.mp hpresent).1
  case h_3 hpc =>
    split at h
    · exact move_stop h
    · apply move_goto h rfl <;>
        simp [hpc, ReaderPc.op, ReaderPc.rank, ReaderPc.binding?, ReaderPc.holdsMarker]
  case h_4 hpc =>
    split at h
    · exact move_stop h
    · have hconsumed : (files.unlink p.next).consumed = files.consumed := rfl
      apply move_goto h hconsumed <;>
        simp [hpc, ReaderPc.op, ReaderPc.rank, ReaderPc.binding?, ReaderPc.holdsMarker]
  case h_5 hpc =>
    split at h
    · exact move_stop h
    · obtain rfl := Option.some.inj h
      apply ReaderMove.advance <;>
        simp [hpc, ReaderPc.op, ReaderPc.rank, ReaderPc.binding?, ReaderPc.holdsMarker]
  case h_6 => cases h

theorem actuatorStep_move (h : actuatorStep files id p ok returncode = some move) :
    ReaderMove files id p op (withOp id p op move) := by
  unfold actuatorStep at h
  split at h
  case h_1 b hpc =>
    split at h
    · exact move_stop h
    · obtain rfl := Option.some.inj h
      exact .actuated b hpc
  case h_2 b hpc =>
    split at h
    · exact move_stop h
    · split at h
      · exact move_stop h
      · obtain rfl := Option.some.inj h
        exact .completed b hpc
  case h_3 => cases h

theorem readerStep_move (h : readerStep lib files id p ok nowUtc returncode = some move) :
    ∃ op, p.pc.op = some op ∧ ReaderMove files id p op move := by
  unfold readerStep at h
  simp only [Option.bind_eq_bind, Option.bind_eq_some_iff] at h
  obtain ⟨op, hop, inner, hinner, h⟩ := h
  obtain rfl := Option.some.inj h
  refine ⟨op, hop, ?_⟩
  show ReaderMove files id p op (withOp id p op inner)
  rcases hload : loadBindingStep lib files id p ok nowUtc with _ | move
  · rcases hconsume : consumeBindingStep files id p ok with _ | move
    · rw [hload, hconsume] at hinner
      exact actuatorStep_move hinner
    · rw [hload, hconsume] at hinner
      obtain rfl := Option.some.inj hinner
      exact consumeBindingStep_move hconsume
  · rw [hload] at hinner
    obtain rfl := Option.some.inj hinner
    exact loadBindingStep_move hload

end

/-- What a step of the machine changes. -/
inductive ReaderChange (s : ReaderState) : ReaderState → List ReaderEvent → Prop
  | start (id : ReaderId) (p : ReaderProcess) : s.processes id = none → p.pc = .readToken →
      p.next = p.initial → 1 ≤ p.initial → p.initial ≤ 6 → ReaderChange s (s.set id p) []
  | token (id : ReaderId) (p : ReaderProcess) (line : List ℕ) : s.processes id = some p →
      p.pc = .readToken → ReaderChange s (s.set id (tokenStep p line)) [.token id line]
  | move (id : ReaderId) (p p' : ReaderProcess) (op : ReaderOp) (files : ReaderFiles)
      (es : List ReaderEvent) : s.processes id = some p → p.pc.op = some op →
      ReaderMove s.files id p op (files, p', es) → ReaderChange s ({ s with files }.set id p') es
  | crash (id : ReaderId) (p : ReaderProcess) : s.processes id = some p →
      ReaderChange s (s.set id { p with pc := .crashed }) []
  | place (index : TransitionIndex) (file : BindingFile) :
      ReaderChange s { s with files := s.files.place index file } []

section
variable {lib : ReaderLibrary} {s s' : ReaderState} {a : ReaderAction} {es : List ReaderEvent}

theorem readerChange (h : readerMachine lib s a = some (s', es)) : ReaderChange s s' es := by
  unfold readerMachine at h
  cases a with
  | start id experimentId runId startedUtc initial ok =>
    simp only [Option.bind_eq_bind, Option.bind_eq_some_iff, Option.guard_eq_some'] at h
    obtain ⟨-, hnone, p, hp, h⟩ := h
    obtain ⟨rfl, rfl⟩ := Prod.mk.inj (Option.some.inj h)
    unfold startReader at hp
    split at hp
    · next hvalid =>
      obtain rfl := Option.some.inj hp
      obtain ⟨-, -, -, hlow, hhigh⟩ := hvalid
      apply ReaderChange.start id _ (Option.isNone_iff_eq_none.mp hnone) rfl rfl
      · show 1 ≤ initial.toNat
        omega
      · show initial.toNat ≤ 6
        omega
    · cases hp
  | token id line =>
    simp only [Option.bind_eq_bind, Option.bind_eq_some_iff, Option.guard_eq_some'] at h
    obtain ⟨p, hp, -, hpc, h⟩ := h
    obtain ⟨rfl, rfl⟩ := Prod.mk.inj (Option.some.inj h)
    exact .token id p line hp hpc
  | step id ok nowUtc returncode =>
    simp only [Option.bind_eq_bind, Option.bind_eq_some_iff] at h
    obtain ⟨p, hp, ⟨files, p', events⟩, hstep, h⟩ := h
    obtain ⟨rfl, rfl⟩ := Prod.mk.inj (Option.some.inj h)
    obtain ⟨op, hop, hmove⟩ := readerStep_move hstep
    exact .move id p p' op files events hp hop hmove
  | crash id =>
    simp only [Option.bind_eq_bind, Option.bind_eq_some_iff] at h
    obtain ⟨p, hp, h⟩ := h
    obtain ⟨rfl, rfl⟩ := Prod.mk.inj (Option.some.inj h)
    exact .crash id p hp
  | place index file =>
    simp only [Option.bind_eq_bind, Option.bind_eq_some_iff] at h
    obtain ⟨-, -, h⟩ := h
    obtain ⟨rfl, rfl⟩ := Prod.mk.inj (Option.some.inj h)
    exact .place index file

end

@[simp] theorem readerSet_self (s : ReaderState) (id : ReaderId) (p : ReaderProcess) :
    (s.set id p).processes id = some p :=
  Function.update_self _ _ _

theorem readerSet_of_ne (s : ReaderState) {id k : ReaderId} (p : ReaderProcess) (h : k ≠ id) :
    (s.set id p).processes k = s.processes k :=
  Function.update_of_ne h _ _

/-! ### What is taken once -/

section
variable {lib : ReaderLibrary} {s s' : ReaderState} {a : ReaderAction} {es : List ReaderEvent}

/-- Markers are never removed. -/
theorem takes_consumed (h : readerMachine lib s a = some (s', es)) :
    Machine.Takes ReaderEvent.consumedIndex? (fun s k => s.files.consumed k ≠ none) s s' es := by
  cases readerChange h with
  | start | token | crash | place => exact .quiet (fun _ h => h) rfl
  | move id p p' op files es _ _ hmove =>
    cases hmove with
    | stop | validated | actuated | completed => exact .quiet (fun _ h => h) rfl
    | advance _ _ hconsumed =>
      apply Machine.Takes.quiet _ rfl
      intro k hk
      show files.consumed k ≠ none
      rwa [hconsumed]
    | linked b _ hfree hpresent =>
      have hkeys : ([.performed id p.next op, .consumed id p.next] : List ReaderEvent).filterMap
        ReaderEvent.consumedIndex? = [p.next] := rfl
      have htaken : (s.files.link p.next).consumed p.next = s.files.binding p.next :=
        Function.update_self _ _ _
      constructor
      · intro k hk
        by_cases hne : k = p.next
        · rw [hne]
          show (s.files.link p.next).consumed p.next ≠ none
          rwa [htaken]
        · show Function.update s.files.consumed p.next (s.files.binding p.next) k ≠ none
          rwa [Function.update_of_ne hne]
      · exact List.nodup_singleton _
      · intro k hk
        rw [hkeys, List.mem_singleton] at hk
        rw [hk]
        exact not_not.mpr hfree
      · intro k hk
        rw [hkeys, List.mem_singleton] at hk
        rw [hk]
        show (s.files.link p.next).consumed p.next ≠ none
        rwa [htaken]

/-- A process that is over, or behind a rank of a transition. -/
def ReaderProcess.Past (p : ReaderProcess) (k : TransitionIndex) (rank : ℕ) : Prop :=
  p.pc.rank = 11 ∨ k < p.next ∨ k = p.next ∧ rank < p.pc.rank

def ReaderPast (rank : ℕ) (s : ReaderState) (key : ReaderId × TransitionIndex) : Prop :=
  ∃ p, s.processes key.1 = some p ∧ p.Past key.2 rank

theorem past_move {files files' : ReaderFiles} {id : ReaderId} {p p' : ReaderProcess}
    {op : ReaderOp} (hop : p.pc.op = some op) (hmove : ReaderMove files id p op (files', p', es))
    {k : TransitionIndex} {rank : ℕ} (h : p.Past k rank) : p'.Past k rank := by
  have hnot : p.pc.rank ≠ 11 := by
    intro heq
    cases hpc : p.pc <;> simp [hpc, ReaderPc.op, ReaderPc.rank] at hop heq
  cases hmove with
  | stop => exact .inl rfl
  | advance _ _ _ _ hnext _ hrank =>
    rcases h with h | h | ⟨h, hlt⟩
    · exact absurd h hnot
    · exact .inr (.inl (hnext ▸ h))
    · exact .inr (.inr ⟨hnext ▸ h, hlt.trans hrank⟩)
  | validated b hpc | linked b hpc | actuated b hpc =>
    rcases h with h | h | ⟨h, hlt⟩
    · exact absurd h hnot
    · exact .inr (.inl h)
    · rw [hpc] at hlt
      exact .inr (.inr ⟨h, hlt.trans (Nat.lt_succ_self _)⟩)
  | completed b hpc =>
    rcases h with h | h | ⟨h, -⟩
    · exact absurd h hnot
    · exact .inr (.inl (h.trans (Nat.lt_succ_self _)))
    · exact .inr (.inl (h ▸ Nat.lt_succ_self _))

theorem past_set {rank : ℕ} {id : ReaderId} {p' : ReaderProcess} {files : ReaderFiles}
    (hp : ∀ p, s.processes id = some p → ∀ k, p.Past k rank → p'.Past k rank)
    (key : ReaderId × TransitionIndex) (h : ReaderPast rank s key) :
    ReaderPast rank (ReaderState.set { s with files } id p') key := by
  obtain ⟨p, hget, hpast⟩ := h
  by_cases hne : key.1 = id
  · refine ⟨p', ?_, hp p (hne ▸ hget) key.2 hpast⟩
    rw [hne]
    exact readerSet_self _ _ _
  · exact ⟨p, (readerSet_of_ne _ _ hne).trans hget, hpast⟩

theorem readerPast_keeps (rank : ℕ) (h : ReaderChange s s' es) (key : ReaderId × TransitionIndex)
    (hpast : ReaderPast rank s key) : ReaderPast rank s' key := by
  cases h with
  | start id p hnone =>
    apply past_set _ key hpast
    intro p hp
    cases hnone.symm.trans hp
  | token id p line hget hpc =>
    apply past_set _ key hpast
    intro q hq k hk
    obtain rfl := Option.some.inj (hget.symm.trans hq)
    have hnext : k < p.next := by
      rcases hk with hk | hk | ⟨-, hk⟩
      · rw [hpc] at hk
        cases hk
      · exact hk
      · rw [hpc] at hk
        exact absurd hk (Nat.not_lt_zero _)
    unfold tokenStep
    split_ifs
    · exact .inl rfl
    · exact .inr (.inl hnext)
    · exact .inl rfl
    · exact .inr (.inl hnext)
  | move id p p' op files es hget hop hmove =>
    apply past_set _ key hpast
    intro q hq k hk
    obtain rfl := Option.some.inj (hget.symm.trans hq)
    exact past_move hop hmove hk
  | crash id p hget =>
    apply past_set _ key hpast
    exact fun _ _ _ _ => .inl rfl
  | place => exact hpast

/-- A key that a process takes with its step from one rank to the next. -/
theorem takes_rank {key : ReaderEvent → Option (ReaderId × TransitionIndex)} {rank : ℕ}
    (h : ReaderChange s s' es) (hes : es.filterMap key = [] ∨ ∃ id p p',
      s.processes id = some p ∧ s'.processes id = some p' ∧ es.filterMap key = [(id, p.next)] ∧
        p.pc.rank = rank ∧ rank < 11 ∧ p'.next = p.next ∧ rank < p'.pc.rank) :
    Machine.Takes key (ReaderPast rank) s s' es := by
  rcases hes with hes | ⟨id, p, p', hget, hget', hes, hrank, hlow, hnext, hafter⟩
  · exact .quiet (readerPast_keeps rank h) hes
  · constructor
    · exact readerPast_keeps rank h
    · rw [hes]
      exact List.nodup_singleton _
    · intro k hk
      rw [hes, List.mem_singleton] at hk
      subst hk
      rintro ⟨q, hq, hpast⟩
      obtain rfl := Option.some.inj (hget.symm.trans hq)
      rcases hpast with hover | hlt | ⟨-, hlt⟩
      · omega
      · exact lt_irrefl _ hlt
      · omega
    · intro k hk
      rw [hes, List.mem_singleton] at hk
      subst hk
      exact ⟨p', hget', .inr (.inr ⟨hnext.symm, hafter⟩)⟩

def ReaderEvent.validatedKey? : ReaderEvent → Option (ReaderId × TransitionIndex)
  | .validated id index _ => some (id, index)
  | _ => none

def ReaderEvent.actuatedKey? : ReaderEvent → Option (ReaderId × TransitionIndex)
  | .actuated id index _ => some (id, index)
  | _ => none

theorem takes_validated (h : readerMachine lib s a = some (s', es)) :
    Machine.Takes ReaderEvent.validatedKey? (ReaderPast 3) s s' es := by
  have hchange := readerChange h
  apply takes_rank hchange
  cases hchange with
  | start | token | crash | place => exact .inl rfl
  | move id p p' op files es hget _ hmove =>
    cases hmove with
    | stop | advance | linked | actuated | completed => exact .inl rfl
    | validated b hpc =>
      right
      refine ⟨id, p, _, hget, readerSet_self _ _ _, rfl, ?_, by decide, rfl, Nat.lt_succ_self 3⟩
      rw [hpc]
      rfl

theorem takes_actuated (h : readerMachine lib s a = some (s', es)) :
    Machine.Takes ReaderEvent.actuatedKey? (ReaderPast 9) s s' es := by
  have hchange := readerChange h
  apply takes_rank hchange
  cases hchange with
  | start | token | crash | place => exact .inl rfl
  | move id p p' op files es hget _ hmove =>
    cases hmove with
    | stop | advance | linked | validated | completed => exact .inl rfl
    | actuated b hpc =>
      right
      refine ⟨id, p, _, hget, readerSet_self _ _ _, rfl, ?_, by decide, rfl, Nat.lt_succ_self 9⟩
      rw [hpc]
      rfl

end

/-! ### The invariant of a process -/

/-- What the events of a run say of a process. -/
structure ProcessInv (tr : List ReaderEvent) (id : ReaderId) (p : ReaderProcess) : Prop where
  trigger : p.pc.op ≠ none → lastLine id tr = some triggerToken
  index : p.pc.op ≠ none → p.next ≤ 6
  initial : 1 ≤ p.initial ∧ p.initial ≤ 6
  binding : ∀ b, p.pc.binding? = some b → .validated id p.next b ∈ tr
  marker : p.pc.holdsMarker = true → .consumed id p.next ∈ tr
  executed : ∃ n, actuations id tr = List.range' p.initial n ∧ p.initial + n ≤ 7 ∧
    (p.pc.rank ≠ 11 → p.initial + n = p.next + if p.pc.rank = 10 then 1 else 0)

section
variable {tr es : List ReaderEvent} {id : ReaderId} {p : ReaderProcess}

theorem filterMap_of_others {κ : Type} {key : ReaderEvent → Option κ}
    (hkey : ∀ e, e.reader ≠ id → key e = none) (h : ∀ e ∈ es, e.reader ≠ id) :
    es.filterMap key = [] := by
  rw [List.filterMap_eq_nil_iff]
  exact fun e he => hkey e (h e he)

theorem line_of_other {e : ReaderEvent} (h : e.reader ≠ id) : e.line? id = none := by
  cases e with
  | token k line => exact if_neg h
  | performed | validated | consumed | actuated => rfl

theorem actuatedBy_of_other {e : ReaderEvent} (h : e.reader ≠ id) : e.actuatedBy? id = none := by
  cases e with
  | actuated k index _ => exact if_neg h
  | performed | validated | consumed | token => rfl

theorem lastLine_append (hnone : es.filterMap (ReaderEvent.line? id) = []) :
    lastLine id (tr ++ es) = lastLine id tr := by
  rw [lastLine, List.filterMap_append, hnone, List.append_nil, lastLine]

theorem actuations_append (hnone : es.filterMap (ReaderEvent.actuatedBy? id) = []) :
    actuations id (tr ++ es) = actuations id tr := by
  rw [actuations, List.filterMap_append, hnone, List.append_nil, actuations]

/-- Events that are no lines and no actuations of a process keep its invariant. -/
theorem ProcessInv.frame (h : ProcessInv tr id p)
    (hline : es.filterMap (ReaderEvent.line? id) = [])
    (hactuated : es.filterMap (ReaderEvent.actuatedBy? id) = []) : ProcessInv (tr ++ es) id p := by
  constructor
  · rw [lastLine_append hline]
    exact h.trigger
  · exact h.index
  · exact h.initial
  · exact fun b hb => List.mem_append_left _ (h.binding b hb)
  · exact fun hm => List.mem_append_left _ (h.marker hm)
  · rw [actuations_append hactuated]
    exact h.executed

/-- A process that is over. -/
theorem ProcessInv.over (h : ProcessInv tr id p) {pc : ReaderPc} (hpc : pc.rank = 11) :
    ProcessInv tr id { p with pc } := by
  have hop : pc.op = none := by
    cases pc <;> simp [ReaderPc.op, ReaderPc.rank] at hpc ⊢
  obtain ⟨n, hn, hle, -⟩ := h.executed
  constructor
  · exact fun h => absurd hop h
  · exact fun h => absurd hop h
  · exact h.initial
  · intro b hb
    cases pc <;> simp [ReaderPc.binding?, ReaderPc.rank] at hpc hb
  · intro hm
    cases pc <;> simp [ReaderPc.holdsMarker, ReaderPc.rank] at hpc hm
  · exact ⟨n, hn, hle, fun hnot => absurd hpc hnot⟩

theorem rank_of_op {pc : ReaderPc} (h : pc.op ≠ none) : pc.rank ≠ 11 := by
  cases pc <;> simp [ReaderPc.op, ReaderPc.rank] at h ⊢

theorem ProcessInv.token (h : ProcessInv tr id p) (hpc : p.pc = .readToken) (line : List ℕ) :
    ProcessInv (tr ++ [.token id line]) id (tokenStep p line) := by
  have hlast : lastLine id (tr ++ [.token id line]) = some line := by
    simp [lastLine, List.filterMap_append, ReaderEvent.line?]
  have hactuations : actuations id (tr ++ [.token id line]) = actuations id tr :=
    actuations_append rfl
  have hread : ProcessInv (tr ++ [.token id line]) id p := by
    constructor
    · exact fun hop => absurd (congrArg ReaderPc.op hpc) hop
    · exact h.index
    · exact h.initial
    · exact fun b hb => List.mem_append_left _ (h.binding b hb)
    · exact fun hm => List.mem_append_left _ (h.marker hm)
    · rw [hactuations]
      exact h.executed
  unfold tokenStep
  split_ifs with hempty hline hindex
  · exact hread.over rfl
  · exact hread
  · exact hread.over rfl
  · obtain ⟨n, hn, hle, hnext⟩ := hread.executed
    rw [hpc] at hnext
    constructor
    · exact fun _ => hlast.trans (congrArg some (not_ne_iff.mp hline))
    · exact fun _ => not_lt.mp hindex
    · exact h.initial
    · exact fun b hb => by cases hb
    · exact fun hm => by cases hm
    · exact ⟨n, hn, hle, fun _ => hnext (by decide)⟩

theorem ProcessInv.move {files files' : ReaderFiles} {p' : ReaderProcess} {op : ReaderOp}
    (h : ProcessInv tr id p) (hop : p.pc.op = some op)
    (hmove : ReaderMove files id p op (files', p', es)) : ProcessInv (tr ++ es) id p' := by
  have hbusy : p.pc.op ≠ none := by simp [hop]
  have hnot : p.pc.rank ≠ 11 := rank_of_op hbusy
  obtain ⟨n, hn, hle, hnext⟩ := h.executed
  replace hnext := hnext hnot
  cases hmove with
  | stop error => exact (h.frame rfl rfl).over rfl
  | advance _ _ _ hinitial hnext' _ hrank hlast hbinding hholds =>
    have hframe := @ProcessInv.frame tr [.performed id p.next op] id p h rfl rfl
    constructor
    · exact fun _ => hframe.trigger hbusy
    · exact fun _ => hnext' ▸ h.index hbusy
    · exact hinitial ▸ h.initial
    · rw [hbinding, hnext']
      exact hframe.binding
    · rw [hholds, hnext']
      exact hframe.marker
    · refine ⟨n, ?_, ?_, fun _ => ?_⟩
      · rw [hinitial, actuations_append rfl, hn]
      · rw [hinitial]
        exact hle
      · rw [hinitial, hnext', if_neg hlast.ne, hnext, if_neg (hrank.trans hlast).ne]
  | validated b hpc =>
    have hframe := @ProcessInv.frame tr [.performed id p.next op, .validated id p.next b] id p h
      rfl rfl
    rw [hpc] at hnext
    constructor
    · exact fun _ => hframe.trigger hbusy
    · exact fun _ => h.index hbusy
    · exact h.initial
    · intro b' hb'
      obtain rfl := Option.some.inj hb'
      exact List.mem_append_right _ (by simp)
    · exact fun hm => by cases hm
    · exact ⟨n, (actuations_append rfl).trans hn, hle, fun _ => hnext⟩
  | linked b hpc =>
    have hframe := @ProcessInv.frame tr [.performed id p.next op, .consumed id p.next] id p h
      rfl rfl
    rw [hpc] at hnext
    constructor
    · exact fun _ => hframe.trigger hbusy
    · exact fun _ => h.index hbusy
    · exact h.initial
    · intro b' hb'
      exact hframe.binding b' (by rw [hpc]; exact hb')
    · exact fun _ => List.mem_append_right _ (by simp)
    · exact ⟨n, (actuations_append rfl).trans hn, hle, fun _ => hnext⟩
  | actuated b hpc =>
    have hindex := h.index hbusy
    rw [hpc] at hnext
    have hlast : lastLine id (tr ++ [.performed id p.next op,
        .actuated id p.next (intText b.ratio)]) = lastLine id tr := lastLine_append rfl
    have hactuations : actuations id (tr ++ [.performed id p.next op,
        .actuated id p.next (intText b.ratio)]) = actuations id tr ++ [p.next] := by
      have hkey : (ReaderEvent.actuated id p.next (intText b.ratio)).actuatedBy? id =
        some p.next := if_pos rfl
      rw [actuations, List.filterMap_append, List.filterMap_cons_none rfl,
        List.filterMap_cons_some hkey]
      rfl
    have hsum : p.initial + n = p.next := hnext
    constructor
    · rw [hlast]
      exact fun _ => h.trigger hbusy
    · exact fun _ => hindex
    · exact h.initial
    · intro b' hb'
      exact List.mem_append_left _ (h.binding b' (by rw [hpc]; exact hb'))
    · exact fun _ => List.mem_append_left _ (h.marker (by rw [hpc]; rfl))
    · refine ⟨n + 1, ?_, ?_, fun _ => ?_⟩
      · rw [hactuations, hn, List.range'_concat, Nat.one_mul, hsum]
      · show p.initial + (n + 1) ≤ 7
        omega
      · show p.initial + (n + 1) = p.next + 1
        omega
  | completed b hpc =>
    rw [hpc] at hnext
    constructor
    · exact fun h => absurd rfl h
    · exact fun h => absurd rfl h
    · exact h.initial
    · exact fun b hb => by cases hb
    · exact fun hm => by cases hm
    · exact ⟨n, (actuations_append rfl).trans hn, hle, fun _ => hnext⟩

end

/-- The invariant of every process; a process that is not started has no events. -/
structure ReaderInv (tr : List ReaderEvent) (s : ReaderState) : Prop where
  process : ∀ id p, s.processes id = some p → ProcessInv tr id p
  absent : ∀ id, s.processes id = none → ∀ e ∈ tr, e.reader ≠ id

section
variable {lib : ReaderLibrary} {s s' : ReaderState} {a : ReaderAction} {tr es : List ReaderEvent}

theorem ReaderInv.set (h : ReaderInv tr s) {id : ReaderId} {p : ReaderProcess} {files : ReaderFiles}
    (hes : ∀ e ∈ es, e.reader = id) (hp : ProcessInv (tr ++ es) id p) :
    ReaderInv (tr ++ es) (ReaderState.set { s with files } id p) := by
  constructor
  · intro k q hq
    by_cases hne : k = id
    · subst hne
      obtain rfl := Option.some.inj ((readerSet_self _ _ _).symm.trans hq)
      exact hp
    · have hother : ∀ e ∈ es, e.reader ≠ k := fun e he heq => hne (heq.symm.trans (hes e he))
      have hold := (readerSet_of_ne _ _ hne).symm.trans hq
      exact (h.process k q hold).frame (filterMap_of_others (fun _ => line_of_other) hother)
        (filterMap_of_others (fun _ => actuatedBy_of_other) hother)
  · intro k hk e he
    have hne : k ≠ id := by
      rintro rfl
      cases (readerSet_self _ _ _).symm.trans hk
    rcases List.mem_append.mp he with he | he
    · exact h.absent k ((readerSet_of_ne _ _ hne).symm.trans hk) e he
    · exact fun heq => hne (heq.symm.trans (hes e he))

theorem move_reader {files : ReaderFiles} {id : ReaderId} {p : ReaderProcess} {op : ReaderOp}
    {move : ReaderStep} (h : ReaderMove files id p op move) : ∀ e ∈ move.2.2, e.reader = id := by
  cases h <;> simp [ReaderEvent.reader]

theorem processInv_started {id : ReaderId} {p : ReaderProcess} (hnone : ∀ e ∈ tr, e.reader ≠ id)
    (hpc : p.pc = .readToken) (hnext : p.next = p.initial) (hlow : 1 ≤ p.initial)
    (hhigh : p.initial ≤ 6) : ProcessInv tr id p := by
  constructor
  · exact fun h => absurd (congrArg ReaderPc.op hpc) h
  · exact fun h => absurd (congrArg ReaderPc.op hpc) h
  · exact ⟨hlow, hhigh⟩
  · intro b hb
    rw [hpc] at hb
    cases hb
  · intro hm
    rw [hpc] at hm
    cases hm
  · refine ⟨0, filterMap_of_others (fun _ => actuatedBy_of_other) hnone, by omega, fun _ => ?_⟩
    rw [hpc, hnext]
    rfl

theorem ReaderInv.step (h : ReaderInv tr s) (hstep : readerMachine lib s a = some (s', es)) :
    ReaderInv (tr ++ es) s' := by
  cases readerChange hstep with
  | start id p hnone hpc hnext hlow hhigh =>
    apply h.set (by simp)
    rw [List.append_nil]
    exact processInv_started (h.absent id hnone) hpc hnext hlow hhigh
  | token id p line hget hpc =>
    apply h.set
    · intro e he
      rw [List.mem_singleton.mp he]
      rfl
    · exact (h.process id p hget).token hpc line
  | move id p p' op files es hget hop hmove =>
    apply h.set (move_reader hmove)
    exact (h.process id p hget).move hop hmove
  | crash id p hget =>
    apply h.set (by simp)
    rw [List.append_nil]
    exact (h.process id p hget).over rfl
  | place index file =>
    rw [List.append_nil]
    exact ⟨h.process, h.absent⟩

theorem ReaderInv.of_run {files : ReaderFiles}
    (h : Machine.Run (readerMachine lib) (readerStart files) tr s) : ReaderInv tr s := by
  refine h.invariant ?_ fun hi hs => hi.step hs
  constructor
  · intro id p hp
    cases hp
  · exact fun _ _ e he => by cases he

/-! ### The events of a step -/

/-- What a process has done in front of a step that consumes or starts the actuator. -/
def StepPrepared (before : List ReaderEvent) : ReaderEvent → Prop
  | .performed id _ _ => lastLine id before = some triggerToken
  | .actuated id index ratioText => .consumed id index ∈ before ∧
      ∃ b, .validated id index b ∈ before ∧ ratioText = intText b.ratio
  | _ => True

theorem StepPrepared.frame {before : List ReaderEvent} {e : ReaderEvent} (h : StepPrepared tr e)
    (hlines : before.filterMap (ReaderEvent.line? e.reader) = []) : StepPrepared (tr ++ before) e := by
  cases e with
  | performed id index op => exact (lastLine_append hlines).trans h
  | actuated id index ratioText =>
    obtain ⟨hconsumed, b, hb, hratio⟩ := h
    exact ⟨List.mem_append_left _ hconsumed, b, List.mem_append_left _ hb, hratio⟩
  | token | validated | consumed => trivial

theorem move_lines {files : ReaderFiles} {id k : ReaderId} {p : ReaderProcess} {op : ReaderOp}
    {move : ReaderStep} (h : ReaderMove files id p op move) :
    ∀ e ∈ move.2.2, e.line? k = none := by
  cases h <;> simp [ReaderEvent.line?]

theorem prepared_move {files : ReaderFiles} {id : ReaderId} {p : ReaderProcess} {op : ReaderOp}
    {move : ReaderStep} (hp : ProcessInv tr id p) (hop : p.pc.op = some op)
    (h : ReaderMove files id p op move) : ∀ e ∈ move.2.2, StepPrepared tr e := by
  have hperformed : StepPrepared tr (.performed id p.next op) := hp.trigger (by simp [hop])
  intro e he
  cases h with
  | stop | advance | completed =>
    rw [List.mem_singleton.mp he]
    exact hperformed
  | validated b | linked b =>
    rcases List.mem_cons.mp he with rfl | he
    · exact hperformed
    · rw [List.mem_singleton.mp he]
      trivial
  | actuated b hpc =>
    rcases List.mem_cons.mp he with rfl | he
    · exact hperformed
    · rw [List.mem_singleton.mp he]
      refine ⟨hp.marker (by rw [hpc]; rfl), b, hp.binding b (by rw [hpc]; rfl), rfl⟩

theorem ReaderInv.prepared (h : ReaderInv tr s) (hstep : readerMachine lib s a = some (s', es))
    {before after : List ReaderEvent} {e : ReaderEvent} (hes : es = before ++ e :: after) :
    StepPrepared (tr ++ before) e := by
  have hmem : e ∈ es := hes ▸ List.mem_append_right _ List.mem_cons_self
  cases readerChange hstep with
  | start | crash | place => cases hmem
  | token id p line =>
    rw [List.mem_singleton.mp hmem]
    trivial
  | move id p p' op files es hget hop hmove =>
    apply (prepared_move (h.process id p hget) hop hmove e hmem).frame
    rw [List.filterMap_eq_nil_iff]
    intro f hf
    apply move_lines hmove
    show f ∈ es
    rw [hes]
    exact List.mem_append_left _ hf

theorem prepared_of_run {files : ReaderFiles}
    (h : Machine.Run (readerMachine lib) (readerStart files) tr s) {before after : List ReaderEvent}
    {e : ReaderEvent} (htr : tr = before ++ e :: after) : StepPrepared before e :=
  Machine.Run.event_property (P := StepPrepared)
    (fun hrun hstep _ _ _ hes => (ReaderInv.of_run hrun).prepared hstep hes) h htr

/-- An actuator run belongs to the process that has consumed the binding. -/
theorem actuatedKey_unique {files : ReaderFiles}
    (h : Machine.Run (readerMachine lib) (readerStart files) tr s) :
    (tr.filterMap ReaderEvent.actuatedIndex?).Nodup := by
  have hkeys : (tr.filterMap ReaderEvent.actuatedKey?).map Prod.snd =
      tr.filterMap ReaderEvent.actuatedIndex? := by
    rw [List.map_filterMap]
    apply List.filterMap_congr
    intro e _
    cases e <;> rfl
  have hconsumed : ∀ key ∈ tr.filterMap ReaderEvent.actuatedKey?, .consumed key.1 key.2 ∈ tr := by
    intro key hkey
    obtain ⟨e, he, hek⟩ := List.mem_filterMap.mp hkey
    cases e with
    | actuated id index ratioText =>
      obtain rfl := Option.some.inj hek
      obtain ⟨before, after, htr⟩ := List.append_of_mem he
      rw [htr]
      exact List.mem_append_left _ (prepared_of_run h htr).1
    | token | performed | validated | consumed => cases hek
  obtain ⟨honce, -⟩ := h.nodup_keys takes_consumed
  obtain ⟨hactuated, -⟩ := h.nodup_keys takes_actuated
  rw [← hkeys]
  apply hactuated.map_on
  rintro ⟨id, k⟩ hk ⟨id', k'⟩ hk' heq
  obtain rfl : k = k' := heq
  have hsame := Machine.eq_of_nodup_keys honce (hconsumed _ hk) (hconsumed _ hk') rfl rfl
  exact congrArg (·, k) (ReaderEvent.consumed.inj hsame).1

/-! ### A trigger with a valid binding -/

/-- The calls of a transition, of which none fails. -/
def transitionScript (id : ReaderId) (nowUtc : ℤ) : List ReaderAction :=
  .token id triggerToken :: List.replicate 10 (.step id true nowUtc 0)

theorem exec_step {id : ReaderId} {p p' : ReaderProcess} {files files' : ReaderFiles} {nowUtc : ℤ}
    {as : List ReaderAction} {tr tr' : List ReaderEvent} (hp : s.processes id = some p)
    (hfiles : s.files = files)
    (h : readerStep lib files id p true nowUtc 0 = some (files', p', es)) (htr : tr = es ++ tr')
    (hrest : ∀ s', s'.processes id = some p' → s'.files = files' →
      ∃ t, Machine.exec (readerMachine lib) s' as = some (tr', t)) :
    ∃ t, Machine.exec (readerMachine lib) s (.step id true nowUtc 0 :: as) = some (tr, t) := by
  have hstep : readerMachine lib s (.step id true nowUtc 0) =
      some (ReaderState.set { s with files := files' } id p', es) := by
    simp only [readerMachine, hp, hfiles, h, Option.bind_eq_bind, Option.bind_some]
    rfl
  obtain ⟨t, ht⟩ := hrest (ReaderState.set { s with files := files' } id p') (readerSet_self _ _ _) rfl
  refine ⟨t, ?_⟩
  simp only [Machine.exec, hstep, ht, Option.bind_eq_bind, Option.bind_some]
  rw [htr]
  rfl

/-- The events of a transition of which no call fails. -/
def transitionTrace (id : ReaderId) (k : TransitionIndex) (b : RatioBinding) : List ReaderEvent :=
  [.performed id k .checkMarker, .performed id k .statBinding, .performed id k .readBinding,
    .validated id k b, .performed id k .checkConsumed, .performed id k .linkMarker, .consumed id k,
    .performed id k .syncLinked, .performed id k .unlinkBinding, .performed id k .syncUnlinked,
    .performed id k .startActuator, .actuated id k (intText b.ratio),
    .performed id k .awaitActuator]

theorem loadBinding_succeeds {files : ReaderFiles} {id : ReaderId} {p : ReaderProcess}
    {b : RatioBinding} {raw : List UInt8} {nowUtc : ℤ}
    (hmarker : pathExists (files.consumed p.next) = false)
    (hfile : files.binding p.next = some ⟨.regular, some raw⟩)
    (hvalid : validateBinding lib p nowUtc raw = .ok b) :
    readerStep lib files id { p with pc := .checkMarker } true nowUtc 0 =
        some (files, { p with pc := .statBinding }, [.performed id p.next .checkMarker]) ∧
      readerStep lib files id { p with pc := .statBinding } true nowUtc 0 =
        some (files, { p with pc := .readBinding }, [.performed id p.next .statBinding]) ∧
      readerStep lib files id { p with pc := .readBinding } true nowUtc 0 =
        some (files, { p with pc := .checkConsumed b },
          [.performed id p.next .readBinding, .validated id p.next b]) := by
  have hread : validateBinding lib { p with pc := .readBinding } nowUtc raw = .ok b := hvalid
  refine ⟨?_, ?_, ?_⟩
  · simp [readerStep, ReaderPc.op, loadBindingStep, hmarker, readerGoto]
  · simp [readerStep, ReaderPc.op, loadBindingStep, hfile, readerGoto]
  · simp [readerStep, ReaderPc.op, loadBindingStep, hfile, hread]

theorem consumeBinding_succeeds {files : ReaderFiles} {id : ReaderId} {p : ReaderProcess}
    (b : RatioBinding) {nowUtc : ℤ} (hmarker : files.consumed p.next = none)
    (hfile : files.binding p.next ≠ none) :
    readerStep lib files id { p with pc := .checkConsumed b } true nowUtc 0 =
        some (files, { p with pc := .linkMarker b }, [.performed id p.next .checkConsumed]) ∧
      readerStep lib files id { p with pc := .linkMarker b } true nowUtc 0 =
        some (files.link p.next, { p with pc := .syncLinked b },
          [.performed id p.next .linkMarker, .consumed id p.next]) ∧
      readerStep lib (files.link p.next) id { p with pc := .syncLinked b } true nowUtc 0 =
        some (files.link p.next, { p with pc := .unlinkBinding b },
          [.performed id p.next .syncLinked]) ∧
      readerStep lib (files.link p.next) id { p with pc := .unlinkBinding b } true nowUtc 0 =
        some ((files.link p.next).unlink p.next, { p with pc := .syncUnlinked b },
          [.performed id p.next .unlinkBinding]) ∧
      readerStep lib ((files.link p.next).unlink p.next) id { p with pc := .syncUnlinked b } true
          nowUtc 0 =
        some ((files.link p.next).unlink p.next, { p with
          pc := .startActuator b
          consumedIds := b.bindingId :: p.consumedIds }, [.performed id p.next .syncUnlinked]) := by
  have hlinked : (files.link p.next).binding p.next ≠ none := hfile
  refine ⟨?_, ?_, ?_, ?_, ?_⟩
  · simp [readerStep, ReaderPc.op, loadBindingStep, consumeBindingStep, hmarker, pathExists,
      readerGoto]
  · simp [readerStep, ReaderPc.op, loadBindingStep, consumeBindingStep, hmarker, hfile]
  · simp [readerStep, ReaderPc.op, loadBindingStep, consumeBindingStep, readerGoto]
  · simp [readerStep, ReaderPc.op, loadBindingStep, consumeBindingStep, hlinked, readerGoto]
  · simp [readerStep, ReaderPc.op, loadBindingStep, consumeBindingStep]

theorem actuator_succeeds {files : ReaderFiles} {id : ReaderId} {p : ReaderProcess}
    (b : RatioBinding) {nowUtc : ℤ} :
    readerStep lib files id { p with pc := .startActuator b } true nowUtc 0 =
        some (files, { p with pc := .awaitActuator b },
          [.performed id p.next .startActuator, .actuated id p.next (intText b.ratio)]) ∧
      readerStep lib files id { p with pc := .awaitActuator b } true nowUtc 0 =
        some (files, { p with
          pc := .readToken
          next := p.next + 1 }, [.performed id p.next .awaitActuator]) := by
  constructor
  · simp [readerStep, ReaderPc.op, loadBindingStep, consumeBindingStep, actuatorStep]
  · simp [readerStep, ReaderPc.op, loadBindingStep, consumeBindingStep, actuatorStep]

/-- A process that reads a trigger while its binding is valid and not consumed runs the actuator. -/
theorem trigger_actuates {id : ReaderId} {p : ReaderProcess} {b : RatioBinding} {raw : List UInt8}
    {nowUtc : ℤ} (hp : s.processes id = some p) (hpc : p.pc = .readToken) (hnext : p.next ≤ 6)
    (hmarker : s.files.consumed p.next = none)
    (hfile : s.files.binding p.next = some ⟨.regular, some raw⟩)
    (hvalid : validateBinding lib p nowUtc raw = .ok b) :
    ∃ t, Machine.exec (readerMachine lib) s (transitionScript id nowUtc) =
      some (.token id triggerToken :: transitionTrace id p.next b, t) := by
  have htoken : readerMachine lib s (.token id triggerToken) =
      some (s.set id { p with pc := .checkMarker }, [.token id triggerToken]) := by
    have hline : tokenStep p triggerToken = { p with pc := .checkMarker } := by
      unfold tokenStep
      rw [if_neg (by decide), if_neg (not_not.mpr rfl), if_neg (not_lt.mpr hnext)]
    simp only [readerMachine, hp, hpc, hline, Option.bind_eq_bind, Option.bind_some, guard_true]
    rfl
  have habsent : pathExists (s.files.consumed p.next) = false := by rw [hmarker]; rfl
  obtain ⟨h₁, h₂, h₃⟩ := @loadBinding_succeeds lib s.files id p b raw nowUtc habsent hfile hvalid
  obtain ⟨h₄, h₅, h₆, h₇, h₈⟩ :=
    @consumeBinding_succeeds lib s.files id p b nowUtc hmarker (by simp [hfile])
  have h₉ := @actuator_succeeds lib ((s.files.link p.next).unlink p.next) id
    { p with consumedIds := b.bindingId :: p.consumedIds } b nowUtc
  have hsteps : ∃ t, Machine.exec (readerMachine lib) (s.set id { p with pc := .checkMarker })
      (List.replicate 10 (.step id true nowUtc 0)) = some (transitionTrace id p.next b, t) := by
    refine exec_step (readerSet_self _ _ _) rfl h₁ rfl fun s₁ hp₁ hf₁ => ?_
    refine exec_step hp₁ hf₁ h₂ rfl fun s₂ hp₂ hf₂ => ?_
    refine exec_step hp₂ hf₂ h₃ rfl fun s₃ hp₃ hf₃ => ?_
    refine exec_step hp₃ hf₃ h₄ rfl fun s₄ hp₄ hf₄ => ?_
    refine exec_step hp₄ hf₄ h₅ rfl fun s₅ hp₅ hf₅ => ?_
    refine exec_step hp₅ hf₅ h₆ rfl fun s₆ hp₆ hf₆ => ?_
    refine exec_step hp₆ hf₆ h₇ rfl fun s₇ hp₇ hf₇ => ?_
    refine exec_step hp₇ hf₇ h₈ rfl fun s₈ hp₈ hf₈ => ?_
    refine exec_step hp₈ hf₈ h₉.1 rfl fun s₉ hp₉ hf₉ => ?_
    exact exec_step hp₉ hf₉ h₉.2 rfl fun t _ _ => ⟨t, rfl⟩
  obtain ⟨t, ht⟩ := hsteps
  refine ⟨t, ?_⟩
  rw [transitionScript, Machine.exec, htoken]
  simp only [Option.bind_eq_bind, Option.bind_some, ht]
  rfl

/-- Whatever the readers, the crashes and the files: each binding is consumed and its actuator run
at most once, by one process, behind its own validation and a trigger. -/
theorem reader_exactly_once {files : ReaderFiles}
    (h : Machine.Run (readerMachine lib) (readerStart files) tr s) : ExactlyOnce tr s := by
  have hinv := ReaderInv.of_run h
  constructor
  · exact (h.nodup_keys takes_consumed).1
  · exact actuatedKey_unique h
  · intro id index b b' hb hb'
    obtain ⟨hvalidated, -⟩ := h.nodup_keys takes_validated
    exact (ReaderEvent.validated.inj (Machine.eq_of_nodup_keys hvalidated hb hb' rfl rfl)).2.2
  · intro before id index ratioText after htr
    exact (prepared_of_run h htr).1
  · intro before id index ratioText after htr
    exact (prepared_of_run h htr).2
  · intro before id index op after htr
    exact prepared_of_run h htr
  · intro id p hp
    obtain ⟨n, hn, hle, -⟩ := (hinv.process id p hp).executed
    exact ⟨n, hn, (hinv.process id p hp).initial.1, hle⟩

end

/-- A binding of the first transition with the ratio 75. -/
def sampleBinding : List ℕ :=
  chars ("\x7b\"schema\":\"sci_oran_prompt12_v2_pretrigger_ratio_binding_v1\",\"binding_id\":\"b1\"," ++
    "\"experiment_id\":\"e\",\"run_id\":\"r\",\"transition_label\":\"T1\",\"transition_index\":1," ++
    "\"requested_ratio_pct\":75,\"created_utc\":\"1970-01-01T00:00:10Z\"\x7d")

def sampleReaderFiles : ReaderFiles where
  binding := Function.update (fun _ => none) 1
    (some ⟨.regular, some (utf8OfCodePoints sampleBinding)⟩)
  consumed := fun _ => none

/-- What `json.loads` makes of the binding. -/
def sampleBindingMembers : List (List ℕ × Json) :=
  [(chars "schema", .str (chars bindingSchema)), (chars "binding_id", .str (chars "b1")),
    (chars "experiment_id", .str (chars "e")), (chars "run_id", .str (chars "r")),
    (chars "transition_label", .str (chars "T1")),
    (chars "transition_index", .num ⟨false, chars "1", [], none⟩),
    (chars "requested_ratio_pct", .num ⟨false, chars "75", [], none⟩),
    (chars "created_utc", .str (chars "1970-01-01T00:00:10Z"))]

def sampleReaderLibrary : ReaderLibrary where
  loads text := if text = sampleBinding then .value (.obj sampleBindingMembers) else .syntaxError
  fromisoformat text :=
    if text = chars "1970-01-01T00:00:10+00:00" then some 10000000 else none

def sampleReader : ReaderProcess := ⟨chars "e", chars "r", 0, 1, 1, [], .readToken⟩

theorem bindingMembers_of_loads {lib : ReaderLibrary} {raw : List UInt8} {text : List ℕ}
    {members : List (List ℕ × Json)} (hraw : codePoints raw = some text)
    (hloads : lib.loads text = .value (.obj members)) : bindingMembers lib raw = .ok members := by
  rw [bindingMembers, hraw, Option.map_some, hloads]

theorem sampleBinding_loads : bindingMembers sampleReaderLibrary (utf8OfCodePoints sampleBinding) =
    .ok sampleBindingMembers := by
  apply bindingMembers_of_loads
  · apply codePoints_utf8OfCodePoints
    intro u hu
    obtain ⟨c, -, rfl⟩ := List.mem_map.mp hu
    rw [Char.ofNat_toNat]
  · simp only [sampleReaderLibrary, if_true]

theorem hasBindingKeys_of_map {members : List (List ℕ × Json)}
    (h : members.map Prod.fst = requiredBindingKeys) : hasBindingKeys members = true := by
  rw [hasBindingKeys, h, Bool.and_eq_true, List.all_eq_true, List.all_eq_true]
  constructor
  · intro member hmember
    exact decide_eq_true (h ▸ List.mem_map_of_mem hmember)
  · exact fun key hkey => decide_eq_true hkey

theorem sampleBinding_valid : validateBinding sampleReaderLibrary sampleReader 20
    (utf8OfCodePoints sampleBinding) = .ok ⟨chars "b1", 75⟩ := by
  have hkeys : hasBindingKeys sampleBindingMembers = true := hasBindingKeys_of_map rfl
  unfold validateBinding
  rw [bind_eq_ok]
  refine ⟨sampleBindingMembers, sampleBinding_loads, ?_⟩
  rw [hkeys]
  decide +kernel

/-- Two readers have been started, and the first has read another line. -/
theorem sampleReaders_run : Machine.exec (readerMachine sampleReaderLibrary)
    (readerStart sampleReaderFiles) [.start 0 (chars "e") (chars "r") 0 1 true,
      .start 1 (chars "e") (chars "r") 0 1 true, .token 0 (chars "GO\n")] =
    some ([.token 0 (chars "GO\n")],
      (((readerStart sampleReaderFiles).set 0 sampleReader).set 1 sampleReader).set 0
        sampleReader) := rfl

theorem reader_exactly_once_sample : ∃ tr s,
    Machine.Run (readerMachine sampleReaderLibrary) (readerStart sampleReaderFiles) tr s ∧
      tr.filterMap ReaderEvent.actuatedKey? = [(1, 1)] ∧ ExactlyOnce tr s := by
  obtain ⟨t, ht⟩ := @trigger_actuates sampleReaderLibrary
    ((((readerStart sampleReaderFiles).set 0 sampleReader).set 1 sampleReader).set 0 sampleReader) 1
    sampleReader ⟨chars "b1", 75⟩ _ 20 rfl rfl (by decide) rfl rfl sampleBinding_valid
  have hrun := (Machine.run_of_exec sampleReaders_run).append_exec ht
  exact ⟨_, t, hrun, rfl, reader_exactly_once hrun⟩

end TcdOran.Harness
