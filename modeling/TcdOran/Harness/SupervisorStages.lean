import TcdOran.Harness.SupervisorGate

/-! When the report of the supervisor accounts for the triggers that it has started: the condition
on what it meets, and the parts of a run with what each adds to the condition. -/
namespace TcdOran.Harness
open TcdOran.Lib Python Attempt

def isTriggerStart : SupervisorEvent → Bool
  | .started (.trigger _) => true
  | _ => false

def isTriggerSuccess : SupervisorEvent → Bool
  | .exited (.trigger _) returncode _ => returncode = 0
  | _ => false

def triggersStarted (events : List SupervisorEvent) : ℕ := events.countP isTriggerStart

def triggersSucceeded (events : List SupervisorEvent) : ℕ := events.countP isTriggerSuccess

/-- The report and the events agree on the triggers. -/
structure Truthful (r : SupervisorReport) (events : List SupervisorEvent) : Prop where
  attempts : r.triggerWriteAttemptCount = triggersStarted events
  successes : r.triggerWriteSuccessCount = triggersSucceeded events
  le_attempts : r.triggerWriteSuccessCount ≤ r.triggerWriteAttemptCount
  attempts_le : r.triggerWriteAttemptCount ≤ r.triggerWriteSuccessCount + 1
  control : r.controlExecuted = "NO" → triggersStarted events = 0

section
variable (o : Surroundings)

def RatioRecorded (k : ℕ) (events : List SupervisorEvent) : Prop :=
  ∃ stdout, .exited (.ratioBind k) 0 (some stdout) ∈ events ∧ ratioBound stdout = true

def TriggerRecorded (k : ℕ) (events : List SupervisorEvent) : Prop :=
  ∃ stdout, .exited (.trigger k) 0 (some stdout) ∈ events

/-- What has to be seen before trigger `k` is started. -/
structure Prepared (before : List SupervisorEvent) (k : ℕ) : Prop where
  gates : ∀ j < k, PassRecorded o j before
  ratios : ∀ j, 1 ≤ j → j ≤ k → RatioRecorded j before
  triggers : ∀ j, 1 ≤ j → j < k → TriggerRecorded j before

def TriggersOrdered (events : List SupervisorEvent) : Prop :=
  ∀ before k after, events = before ++ .started (.trigger k) :: after → Prepared o before k

/-- A report is written, it is truthful, and every trigger was started in its order. -/
structure Accounts (r : Supervised) : Prop where
  written : ∃ report, r.written = some report ∧ Truthful report r.events
  ordered : TriggersOrdered o r.events

/-! ### The condition -/

def RatioHandled (k : ℕ) (transition : Json) : Prop :=
  ∃ argv, item transition "ratio_bind_command" = .ok argv ∧
    (InTime o (.ratioBind k) →
      popenAccepts argv = true ∧ (o.outcome (.ratioBind k)).Handled)

def RatioBound (k : ℕ) : Prop :=
  InTime o (.ratioBind k) ∧ ∃ stdout, o.outcome (.ratioBind k) = .exited 0 (some stdout) ∧
    ratioBound stdout = true

/-- A trigger that is reached is started in time, and the first one does not fail. -/
def TriggerAccountable (k : ℕ) : Prop :=
  InTime o (.trigger k) ∧ (o.outcome (.trigger k)).Handled ∧ (k = 1 → Succeeds o (.trigger k))

def TransitionAccountable (k : ℕ) (transition : Json) (rest : Prop) : Prop :=
  o.trafficRuns k = true → RatioHandled o k transition ∧
    (RatioBound o k → TriggerAccountable o k ∧
      (Succeeds o (.trigger k) → GateHandled o k .post ∧ (GatePasses o k .post → rest)))

def TransitionsAccountable (k : ℕ) (rest : Prop) : List Json → Prop
  | [] => rest
  | transition :: transitions =>
      TransitionAccountable o k transition (TransitionsAccountable (k + 1) rest transitions)

def FinalizationHandled (k : ℕ) : Prop :=
  o.trafficRuns k = true → InTime o .finalization → (o.outcome .finalization).Handled

def TrafficStarts : Prop := ∀ exception, o.outcome .traffic ≠ .notStarted exception

def SequenceAccountable (plan : Json) : Prop :=
  TrafficStarts o ∧ GateHandled o 0 .pre ∧
    (GatePasses o 0 .pre → TransitionsAccountable o 1
      (FinalizationHandled o ((planTransitions plan).length + 1)) (planTransitions plan))

/-- Nothing that the run reaches raises another exception than `SupervisorError`, the time does
not run out in front of a trigger that has been counted, and the first trigger does not fail. -/
def Accountable (plan : Json) (mode : SupervisorMode) (authorizationToken : Option String) :
    Prop :=
  mode = .live → o.enable = some "YES" → authorizationToken = some liveToken →
    SequenceAccountable o plan

end

/-! ### Stages -/

section
variable {o : Surroundings}

theorem PassRecorded.mono {k : ℕ} {es es' : List SupervisorEvent} (h : PassRecorded o k es)
    (hes : ∀ e ∈ es, e ∈ es') : PassRecorded o k es' := by
  obtain ⟨n, stdout, record, gate, hmem, hrest⟩ := h
  exact ⟨n, stdout, record, gate, hes _ hmem, hrest⟩

theorem RatioRecorded.mono {k : ℕ} {es es' : List SupervisorEvent} (h : RatioRecorded k es)
    (hes : ∀ e ∈ es, e ∈ es') : RatioRecorded k es' := by
  obtain ⟨stdout, hmem, hbound⟩ := h
  exact ⟨stdout, hes _ hmem, hbound⟩

theorem TriggerRecorded.mono {k : ℕ} {es es' : List SupervisorEvent} (h : TriggerRecorded k es)
    (hes : ∀ e ∈ es, e ∈ es') : TriggerRecorded k es' := by
  obtain ⟨stdout, hmem⟩ := h
  exact ⟨stdout, hes _ hmem⟩

theorem triggersOrdered_append {es es' : List SupervisorEvent} (h : TriggersOrdered o es)
    (h' : ∀ before k after, es' = before ++ .started (.trigger k) :: after →
      Prepared o (es ++ before) k) : TriggersOrdered o (es ++ es') := by
  intro before k after heq
  rcases List.append_eq_append_iff.mp heq with ⟨mid, rfl, hes'⟩ | ⟨mid, hes, hmid⟩
  · exact h' mid k after hes'
  · cases mid with
    | nil =>
      rw [List.append_nil] at hes
      have hp := h' [] k after hmid.symm
      rwa [List.append_nil, hes] at hp
    | cons e mid =>
      obtain ⟨rfl, -⟩ := List.cons.inj hmid
      exact h before k mid hes

/-- Events without the start of a trigger. -/
theorem TriggersOrdered.quiet {es es' : List SupervisorEvent} (h : TriggersOrdered o es)
    (hquiet : ∀ e ∈ es', isTriggerStart e = false) : TriggersOrdered o (es ++ es') := by
  apply triggersOrdered_append h
  rintro before k after rfl
  have hstart := hquiet (.started (.trigger k)) (by simp)
  cases hstart

/-- Where `n` triggers have succeeded and the gate of phase `n` is next. -/
structure Progress (o : Surroundings) (n : ℕ) (s : SupervisorState) : Prop where
  attempts : s.report.triggerWriteAttemptCount = n
  successes : s.report.triggerWriteSuccessCount = n
  started : triggersStarted s.events = n
  succeeded : triggersSucceeded s.events = n
  control : s.report.controlExecuted = "NO" ↔ n = 0
  ordered : TriggersOrdered o s.events
  gates : ∀ j < n, PassRecorded o j s.events
  ratios : ∀ j, 1 ≤ j → j ≤ n → RatioRecorded j s.events
  triggers : ∀ j, 1 ≤ j → j ≤ n → TriggerRecorded j s.events

theorem Progress.truthful {n : ℕ} {s : SupervisorState} (h : Progress o n s) :
    Truthful s.report s.events := by
  constructor
  · rw [h.attempts, h.started]
  · rw [h.successes, h.succeeded]
  · rw [h.attempts, h.successes]
  · rw [h.attempts, h.successes]
    exact Nat.le_succ n
  · intro hcontrol
    rw [h.started, h.control.mp hcontrol]

/-- A report is written behind a `SupervisorError` only. -/
def EndsTruthful : SupervisorFailure → SupervisorState → Prop
  | .supervisor _ _, s => Truthful s.report s.events
  | .uncaught _, _ => False

def Ended (o : Surroundings) (accountable : Prop) (f : SupervisorFailure) (s : SupervisorState) :
    Prop :=
  TriggersOrdered o s.events ∧ (EndsTruthful f s ↔ accountable)

/-- A part of the run, with the condition that it puts in front of the condition on the rest: where
it ends the run, its end is truthful if and only if the condition holds. -/
def Stage (o : Surroundings) {α : Type} (condition : Prop → Prop) (P : SupervisorState → Prop)
    (x : Supervise α) (Q : SupervisorState → Prop) : Prop :=
  ∀ rest : Prop, Triple P x (fun _ s => Q s ∧ (condition rest ↔ rest)) (Ended o (condition rest))

theorem Stage.bind {α β : Type} {condition condition' : Prop → Prop}
    {P Q R : SupervisorState → Prop} {x : Supervise α} {f : α → Supervise β}
    (hx : Stage o condition P x Q) (hf : ∀ a, Stage o condition' Q (f a) R) :
    Stage o (fun rest => condition (condition' rest)) P (x >>= f) R := by
  intro rest
  apply (hx (condition' rest)).bind
  intro a s hs
  obtain ⟨hQ, hcondition⟩ := hs
  have h := hf a rest s hQ
  rcases houtcome : outcome (f a) s with ⟨e | b, t⟩
  · rw [houtcome] at h
    obtain ⟨hordered, hends⟩ := h
    exact ⟨hordered, hends.trans hcondition.symm⟩
  · rw [houtcome] at h
    obtain ⟨hR, hrest⟩ := h
    exact ⟨hR, hcondition.trans hrest⟩

/-- A stage with the same condition in other words. -/
theorem Stage.congr {α : Type} {condition condition' : Prop → Prop}
    {P Q : SupervisorState → Prop} {x : Supervise α} (h : Stage o condition P x Q)
    (hcondition : ∀ rest, condition rest ↔ condition' rest) : Stage o condition' P x Q := by
  intro rest
  apply (h rest).conseq fun _ hs => hs
  · rintro a s ⟨hQ, hrest⟩
    exact ⟨hQ, (hcondition rest).symm.trans hrest⟩
  · rintro e s ⟨hordered, hends⟩
    exact ⟨hordered, hends.trans (hcondition rest)⟩

/-- A part that only changes the state. -/
theorem stage_modify {P Q : SupervisorState → Prop} {g : SupervisorState → SupervisorState}
    (h : ∀ s, P s → Q (g s)) : Stage o id P (modify g : Supervise PUnit) Q :=
  fun _ => triple_modify fun s hs => ⟨h s hs, Iff.rfl⟩

/-- A part that ends the run with a `SupervisorError` where the condition is free. -/
theorem stage_refused {α : Type} {condition : Prop → Prop} {P Q : SupervisorState → Prop}
    {reason : List ℕ} {rc : ℤ} (hP : ∀ s, P s → Truthful s.report s.events ∧
      TriggersOrdered o s.events) (hcondition : ∀ rest, condition rest) :
    Stage o condition P (supervisorError reason rc : Supervise α) Q := by
  intro rest
  apply triple_throw
  intro s hs
  obtain ⟨htruthful, hordered⟩ := hP s hs
  exact ⟨hordered, iff_of_true htruthful (hcondition rest)⟩

/-- Events that say nothing about a trigger. -/
def Quiet (es : List SupervisorEvent) : Prop :=
  ∀ e ∈ es, isTriggerStart e = false ∧ isTriggerSuccess e = false

theorem quiet_attempted {command : SupervisorCommand} {es : List SupervisorEvent}
    (h : Attempted command es) (hcommand : ∀ k, command ≠ .trigger k) : Quiet es := by
  intro e he
  cases command with
  | trigger k => exact absurd rfl (hcommand k)
  | traffic | stationarity | ratioBind | finalization =>
    rcases mem_attempted h he with rfl | ⟨rc, stdout, rfl⟩ <;> exact ⟨rfl, rfl⟩

theorem quiet_gate {phase : ℕ} {es : List SupervisorEvent} (h : GateEvents phase es) :
    Quiet es := by
  intro e he
  obtain ⟨n, rfl | ⟨rc, stdout, rfl⟩⟩ := h e he <;> exact ⟨rfl, rfl⟩

theorem triggersStarted_quiet {es : List SupervisorEvent} (hes : Quiet es)
    (events : List SupervisorEvent) : triggersStarted (events ++ es) = triggersStarted events := by
  have hnone : triggersStarted es = 0 := by
    rw [triggersStarted, List.countP_eq_zero]
    exact fun e he => by simp [(hes e he).1]
  rw [triggersStarted, List.countP_append]
  exact (congrArg _ hnone).trans (Nat.add_zero _)

theorem triggersSucceeded_quiet {es : List SupervisorEvent} (hes : Quiet es)
    (events : List SupervisorEvent) :
    triggersSucceeded (events ++ es) = triggersSucceeded events := by
  have hnone : triggersSucceeded es = 0 := by
    rw [triggersSucceeded, List.countP_eq_zero]
    exact fun e he => by simp [(hes e he).2]
  rw [triggersSucceeded, List.countP_append]
  exact (congrArg _ hnone).trans (Nat.add_zero _)

variable {n : ℕ} {s : SupervisorState}

theorem Progress.emit (h : Progress o n s) {es : List SupervisorEvent} (hes : Quiet es) :
    Progress o n (s.emit es) := by
  have hmem : ∀ e ∈ s.events, e ∈ (s.emit es).events := fun e => List.mem_append_left _
  constructor
  · exact h.attempts
  · exact h.successes
  · exact (triggersStarted_quiet hes _).trans h.started
  · exact (triggersSucceeded_quiet hes _).trans h.succeeded
  · exact h.control
  · exact h.ordered.quiet fun e he => (hes e he).1
  · exact fun j hj => (h.gates j hj).mono hmem
  · exact fun j hj hjn => (h.ratios j hj hjn).mono hmem
  · exact fun j hj hjn => (h.triggers j hj hjn).mono hmem

/-- The states differ in other fields than those that count triggers. -/
structure SameCounts (s s' : SupervisorState) : Prop where
  attempts : s'.report.triggerWriteAttemptCount = s.report.triggerWriteAttemptCount
  successes : s'.report.triggerWriteSuccessCount = s.report.triggerWriteSuccessCount
  control : s'.report.controlExecuted = s.report.controlExecuted
  events : s'.events = s.events

theorem Progress.same {s' : SupervisorState} (h : Progress o n s) (hsame : SameCounts s s') :
    Progress o n s' := by
  obtain ⟨hattempts, hsuccesses, hcontrol, hevents⟩ := hsame
  constructor
  · exact hattempts.trans h.attempts
  · exact hsuccesses.trans h.successes
  · rw [hevents]
    exact h.started
  · rw [hevents]
    exact h.succeeded
  · rw [hcontrol]
    exact h.control
  · rw [hevents]
    exact h.ordered
  · rw [hevents]
    exact h.gates
  · rw [hevents]
    exact h.ratios
  · rw [hevents]
    exact h.triggers

/-- The gate of phase `n` is passed, and transition `n + 1` is next. -/
def Passed (o : Surroundings) (n : ℕ) (s : SupervisorState) : Prop :=
  Progress o n s ∧ PassRecorded o n s.events

theorem Passed.emit (h : Passed o n s) {es : List SupervisorEvent} (hes : Quiet es) :
    Passed o n (s.emit es) :=
  ⟨h.1.emit hes, h.2.mono fun _ => List.mem_append_left _⟩

theorem Passed.same {s' : SupervisorState} (h : Passed o n s) (hsame : SameCounts s s') :
    Passed o n s' := by
  refine ⟨h.1.same hsame, ?_⟩
  rw [hsame.events]
  exact h.2

theorem stage_gate {argv : Json} (haccepts : popenAccepts argv = true) (n : ℕ)
    (role : PhaseRole) :
    Stage o (fun rest => GateHandled o n role ∧ (GatePasses o n role → rest)) (Progress o n)
      (stationarityGate o argv n role) (Passed o n) := by
  intro rest s hs
  obtain ⟨r, es, hr, hes, hend⟩ := @stationarityGate_end o n role argv haccepts s
  rw [hr]
  have hprogress := hs.emit (quiet_gate hes)
  match r with
  | .ok _ =>
    obtain ⟨hhandled, hpasses, hrecorded⟩ := hend
    refine ⟨⟨hprogress, hrecorded.mono fun e => List.mem_append_right _⟩, ?_⟩
    simp [hhandled, hpasses]
  | .error (.supervisor _ _) =>
    obtain ⟨hhandled, hpasses⟩ := hend
    refine ⟨hprogress.ordered, iff_of_true hprogress.truthful ?_⟩
    exact ⟨hhandled, fun h => absurd h hpasses⟩
  | .error (.uncaught _) => exact ⟨hprogress.ordered, iff_of_false id fun h => hend h.1⟩

theorem item_error {value : Json} {key : String} {e : SupervisorFailure}
    (h : item value key = .error e) : ∃ exception, e = .uncaught exception := by
  unfold item at h
  split at h
  · split at h
    · cases h
    · exact ⟨_, (Except.error.inj h).symm⟩
  · exact ⟨_, (Except.error.inj h).symm⟩

/-- The ratio of transition `n + 1` is bound, and its trigger is next. -/
def Bound (o : Surroundings) (n : ℕ) (s : SupervisorState) : Prop :=
  Passed o n s ∧ RatioRecorded (n + 1) s.events

theorem stage_bindRatio (n : ℕ) (transition : Json) :
    Stage o (fun rest => RatioHandled o (n + 1) transition ∧ (RatioBound o (n + 1) → rest))
      (Passed o n) (bindRatio o (n + 1) transition) (Bound o n) := by
  intro rest s hs
  unfold bindRatio
  simp only
  rw [outcome_bind, outcome_ofExcept]
  cases hitem : item transition "ratio_bind_command" with
  | error e =>
    obtain ⟨exception, rfl⟩ := item_error hitem
    refine ⟨hs.1.ordered, iff_of_false id ?_⟩
    rintro ⟨⟨argv, hargv, -⟩, -⟩
    rw [hitem] at hargv
    cases hargv
  | ok argv =>
    have hhandled (h : InTime o (.ratioBind (n + 1)) →
        popenAccepts argv = true ∧ (o.outcome (.ratioBind (n + 1))).Handled) :
        RatioHandled o (n + 1) transition := ⟨argv, hitem, h⟩
    simp only
    rw [outcome_bind]
    have hend := runCommand_end (o := o) (s := s) (.ratioBind (n + 1)) argv
      (labelText transition ++ chars "_RATIO_BIND_FAILED")
    generalize outcome (runCommand o (.ratioBind (n + 1)) argv
      (labelText transition ++ chars "_RATIO_BIND_FAILED")) s = end' at hend ⊢
    have hquiet {es : List SupervisorEvent} (h : Attempted (.ratioBind (n + 1)) es) :
        Passed o n (s.emit es) := hs.emit (quiet_attempted h fun _ => by simp)
    cases hend with
    | late reason rc hlate =>
      refine ⟨hs.1.ordered, iff_of_true hs.1.truthful ⟨hhandled fun h => absurd h hlate, ?_⟩⟩
      exact fun h => absurd h.1 hlate
    | broken exception es htime hnot hes =>
      refine ⟨(hquiet hes).1.ordered, iff_of_false id ?_⟩
      rintro ⟨⟨argv', hargv, h⟩, -⟩
      obtain rfl := Except.ok.inj (hitem.symm.trans hargv)
      exact hnot (h htime).1 (h htime).2
    | timedOut reason rc htime haccepts hexit =>
      have hpassed := hquiet (.inr (.inl rfl))
      refine ⟨hpassed.1.ordered, iff_of_true hpassed.1.truthful ⟨hhandled fun _ => ?_, ?_⟩⟩
      · simp [haccepts, hexit, CommandOutcome.Handled]
      · rintro ⟨-, stdout, h, -⟩
        rw [hexit] at h
        cases h
    | refused reason rc returncode stdout htime haccepts hrc hexit =>
      have hpassed := hquiet (.inr (.inr ⟨returncode, some stdout, rfl⟩))
      refine ⟨hpassed.1.ordered, iff_of_true hpassed.1.truthful ⟨hhandled fun _ => ?_, ?_⟩⟩
      · simp [haccepts, hexit, CommandOutcome.Handled]
      · rintro ⟨-, stdout', h, -⟩
        rw [hexit] at h
        exact absurd (CommandOutcome.exited.inj h).1 hrc
    | done stdout htime haccepts hexit =>
      have hpassed := hquiet (.inr (.inr ⟨0, some stdout, rfl⟩))
      have hratio : RatioHandled o (n + 1) transition :=
        hhandled fun _ => by simp [haccepts, hexit, CommandOutcome.Handled]
      simp only
      cases hbound : ratioBound stdout with
      | false =>
        refine ⟨hpassed.1.ordered, iff_of_true hpassed.1.truthful ⟨hratio, ?_⟩⟩
        rintro ⟨-, stdout', h, hbound'⟩
        rw [hexit] at h
        obtain rfl : stdout = stdout' := by simpa using h
        rw [hbound] at hbound'
        cases hbound'
      | true =>
        refine ⟨⟨hpassed.same ⟨rfl, rfl, rfl, rfl⟩, stdout, ?_, hbound⟩, ?_⟩
        · exact List.mem_append_right _ (List.mem_cons_of_mem _ List.mem_cons_self)
        · have hbound' : RatioBound o (n + 1) := ⟨htime, stdout, hexit, hbound⟩
          simp [hratio, hbound']

/-- The counts and the order behind an attempt of trigger `n + 1`. -/
theorem Bound.prepared (h : Bound o n s) : Prepared o s.events (n + 1) := by
  obtain ⟨⟨hprogress, hgate⟩, hratio⟩ := h
  constructor
  · intro j hj
    rcases Nat.lt_succ_iff_lt_or_eq.mp hj with hlt | rfl
    · exact hprogress.gates j hlt
    · exact hgate
  · intro j hj hjn
    rcases Nat.le_succ_iff.mp hjn with hle | rfl
    · exact hprogress.ratios j hj hle
    · exact hratio
  · intro j hj hjn
    exact hprogress.triggers j hj (Nat.le_of_lt_succ hjn)

theorem Bound.ordered (h : Bound o n s) {es : List SupervisorEvent}
    (hes : Attempted (.trigger (n + 1)) es) : TriggersOrdered o (s.events ++ es) := by
  have hstart : TriggersOrdered o (s.events ++ [.started (.trigger (n + 1))]) := by
    apply triggersOrdered_append h.1.1.ordered
    intro before k after heq
    cases before with
    | nil =>
      obtain ⟨heq, -⟩ := List.cons.inj heq
      obtain rfl : n + 1 = k := by simpa using heq
      rw [List.append_nil]
      exact h.prepared
    | cons e before => simp at heq
  rcases hes with rfl | rfl | ⟨rc, stdout, rfl⟩
  · rw [List.append_nil]
    exact h.1.1.ordered
  · exact hstart
  · have hexit : TriggersOrdered o ((s.events ++ _) ++ [.exited (.trigger (n + 1)) rc stdout]) :=
      hstart.quiet (by simp [isTriggerStart])
    simpa using hexit

theorem progress_trigger (h : Bound o n s) {stdout : List ℕ} {s' : SupervisorState}
    (hattempts : s'.report.triggerWriteAttemptCount = n + 1)
    (hsuccesses : s'.report.triggerWriteSuccessCount = n + 1)
    (hcontrol : s'.report.controlExecuted = "YES")
    (hevents : s'.events = s.events ++ [.started (.trigger (n + 1)),
      .exited (.trigger (n + 1)) 0 (some stdout)]) :
    Progress o (n + 1) s' := by
  have hmem : ∀ e ∈ s.events, e ∈ s'.events := by
    rw [hevents]
    exact fun e => List.mem_append_left _
  constructor
  · exact hattempts
  · exact hsuccesses
  · have hstarted := h.1.1.started
    rw [triggersStarted] at hstarted ⊢
    rw [hevents, List.countP_append, hstarted]
    rfl
  · have hsucceeded := h.1.1.succeeded
    rw [triggersSucceeded] at hsucceeded ⊢
    rw [hevents, List.countP_append, hsucceeded]
    rfl
  · rw [hcontrol]
    exact iff_of_false (by decide) (Nat.succ_ne_zero n)
  · rw [hevents]
    exact h.ordered (.inr (.inr ⟨0, some stdout, rfl⟩))
  · exact fun j hj => (h.prepared.gates j hj).mono hmem
  · exact fun j hj hjn => (h.prepared.ratios j hj hjn).mono hmem
  · intro j hj hjn
    rcases Nat.le_succ_iff.mp hjn with hle | rfl
    · exact (h.1.1.triggers j hj hle).mono hmem
    · refine ⟨stdout, ?_⟩
      rw [hevents]
      simp

/-- The attempt of the next trigger has been counted in `s'`. -/
structure Counted (n : ℕ) (s s' : SupervisorState) : Prop where
  attempts : s'.report.triggerWriteAttemptCount = n + 1
  successes : s'.report.triggerWriteSuccessCount = n
  control : s'.report.controlExecuted = s.report.controlExecuted
  events : s'.events = s.events

theorem Counted.emit {s' : SupervisorState} (h : Counted n s s') (es : List SupervisorEvent) :
    (s'.emit es).events = s.events ++ es :=
  congrArg (· ++ es) h.events

/-- A started attempt without success is accounted for from the second trigger on. -/
theorem truthful_failed {s' : SupervisorState} (h : Bound o n s) (hcounted : Counted n s s')
    {es : List SupervisorEvent} (hstarted : triggersStarted es = 1)
    (hsucceeded : triggersSucceeded es = 0) :
    Truthful (s'.emit es).report (s'.emit es).events ↔ n ≠ 0 := by
  have hattempts : (s'.emit es).report.triggerWriteAttemptCount = n + 1 := hcounted.attempts
  have hsuccesses : (s'.emit es).report.triggerWriteSuccessCount = n := hcounted.successes
  have hcontrol : (s'.emit es).report.controlExecuted = "NO" ↔ n = 0 := by
    rw [← h.1.1.control, ← hcounted.control]
    rfl
  have hstarted' : triggersStarted (s'.emit es).events = n + 1 := by
    rw [hcounted.emit, triggersStarted, List.countP_append]
    exact congrArg₂ (· + ·) h.1.1.started hstarted
  have hsucceeded' : triggersSucceeded (s'.emit es).events = n := by
    rw [hcounted.emit, triggersSucceeded, List.countP_append]
    exact congrArg₂ (· + ·) h.1.1.succeeded hsucceeded
  constructor
  · intro htruthful hzero
    have hnone := htruthful.control (hcontrol.mpr hzero)
    rw [hstarted'] at hnone
    exact absurd hnone (Nat.succ_ne_zero n)
  · intro hne
    constructor
    · rw [hattempts, hstarted']
    · rw [hsuccesses, hsucceeded']
    · rw [hattempts, hsuccesses]
      exact Nat.le_succ n
    · rw [hattempts, hsuccesses]
    · exact fun hno => absurd (hcontrol.mp hno) hne

/-- A trigger that has failed or was stopped. -/
theorem trigger_failed {s' : SupervisorState} (hs : Bound o n s) (hcounted : Counted n s s')
    {es : List SupervisorEvent} (hes : Attempted (.trigger (n + 1)) es)
    (hstarted : triggersStarted es = 1) (hsucceeded : triggersSucceeded es = 0)
    (htime : InTime o (.trigger (n + 1))) (hhandled : (o.outcome (.trigger (n + 1))).Handled)
    (hfailed : ¬ Succeeds o (.trigger (n + 1))) (reason : List ℕ) (rc : ℤ) (rest : Prop) :
    Ended o (TriggerAccountable o (n + 1) ∧ (Succeeds o (.trigger (n + 1)) → rest))
      (.supervisor reason rc) (s'.emit es) := by
  constructor
  · rw [hcounted.emit]
    exact hs.ordered hes
  · refine (truthful_failed hs hcounted hstarted hsucceeded).trans ⟨fun hne => ?_, ?_⟩
    · refine ⟨⟨htime, hhandled, fun h => ?_⟩, fun h => absurd h hfailed⟩
      exact absurd (Nat.succ.inj h) hne
    · rintro ⟨⟨-, -, hfirst⟩, -⟩ rfl
      exact hfailed (hfirst rfl)

theorem stage_fireTrigger (n : ℕ) {transition argv : Json}
    (hargv : item transition "trigger_command" = .ok argv) (haccepts : popenAccepts argv = true) :
    Stage o (fun rest => TriggerAccountable o (n + 1) ∧ (Succeeds o (.trigger (n + 1)) → rest))
      (Bound o n) (fireTrigger o (n + 1) transition) (Progress o (n + 1)) := by
  intro rest s hs
  unfold fireTrigger
  simp only
  rw [outcome_bind, report, outcome_modify]
  simp only
  rw [outcome_bind, hargv, outcome_ofExcept]
  simp only
  have hcounted : Counted n s { s with report := { s.report with
      triggerWriteAttemptCount := s.report.triggerWriteAttemptCount + 1
      scientificTriggerReplayDecision := "NEVER_AUTOMATICALLY_REPLAY" } } :=
    ⟨congrArg (· + 1) hs.1.1.attempts, hs.1.1.successes, rfl, rfl⟩
  generalize ({ s with report := { s.report with
    triggerWriteAttemptCount := s.report.triggerWriteAttemptCount + 1
    scientificTriggerReplayDecision := "NEVER_AUTOMATICALLY_REPLAY" } } : SupervisorState) = s'
      at hcounted ⊢
  rw [outcome_bind]
  have hend := runCommand_end (o := o) (s := s') (.trigger (n + 1)) argv
    (labelText transition ++ chars "_TRIGGER_FAILED")
  generalize outcome (runCommand o (.trigger (n + 1)) argv
    (labelText transition ++ chars "_TRIGGER_FAILED")) s' = end' at hend ⊢
  cases hend with
  | late reason rc hlate =>
    -- the attempt has been counted, and nothing was started
    constructor
    · rw [hcounted.events]
      exact hs.1.1.ordered
    · refine iff_of_false (fun h : Truthful s'.report s'.events => ?_) fun h => hlate h.1.1
      have hcount := h.attempts
      rw [hcounted.attempts, hcounted.events, hs.1.1.started] at hcount
      exact absurd hcount (Nat.succ_ne_self n)
  | broken exception es htime hnot hes =>
    constructor
    · rw [hcounted.emit]
      exact hs.ordered hes
    · exact iff_of_false id fun h => hnot haccepts h.1.2.1
  | timedOut reason rc htime _ hexit =>
    apply trigger_failed hs hcounted (.inr (.inl rfl)) rfl rfl htime
    · simp [hexit, CommandOutcome.Handled]
    · rintro ⟨stdout, h⟩
      rw [hexit] at h
      cases h
  | refused reason rc returncode stdout htime _ hrc hexit =>
    apply trigger_failed hs hcounted (.inr (.inr ⟨returncode, some stdout, rfl⟩)) rfl _ htime
    · simp [hexit, CommandOutcome.Handled]
    · rintro ⟨stdout', h⟩
      rw [hexit] at h
      exact hrc (CommandOutcome.exited.inj h).1
    · simp [triggersSucceeded, isTriggerSuccess, hrc]
  | done stdout htime _ hexit =>
    have hsucceeds : Succeeds o (.trigger (n + 1)) := ⟨stdout, hexit⟩
    simp only
    rw [report, outcome_modify]
    refine ⟨progress_trigger hs hcounted.attempts ?_ rfl (hcounted.emit _), ?_⟩
    · exact congrArg (· + 1) hcounted.successes
    · have haccountable : TriggerAccountable o (n + 1) :=
        ⟨htime, by simp [hexit, CommandOutcome.Handled], fun _ => hsucceeds⟩
      simp [haccountable, hsucceeds]

/-- What `load_plan` has checked of a transition. -/
structure TransitionAccepted (transition : Json) : Prop where
  trigger : ∃ argv, item transition "trigger_command" = .ok argv ∧ popenAccepts argv = true
  post : ∃ argv, item transition "post_stationarity_command" = .ok argv ∧ popenAccepts argv = true

theorem stage_pure {α : Type} (a : α) (P : SupervisorState → Prop) :
    Stage o id P (pure a : Supervise α) P :=
  fun _ => triple_pure fun _ hs => ⟨hs, Iff.rfl⟩

theorem stage_runTransition (n : ℕ) {transition : Json} (h : TransitionAccepted transition) :
    Stage o (TransitionAccountable o (n + 1) transition) (Passed o n)
      (runTransition o (n + 1) transition) (Passed o (n + 1)) := by
  obtain ⟨⟨trigger, htrigger, hacceptsTrigger⟩, post, hpost, hacceptsPost⟩ := h
  unfold runTransition
  cases hruns : o.trafficRuns (n + 1) with
  | false =>
    intro rest s hs
    refine ⟨hs.1.ordered, iff_of_true hs.1.truthful fun h => ?_⟩
    rw [hruns] at h
    cases h
  | true =>
    have hrest := stage_gate (o := o) hacceptsPost (n + 1) .post
    have hstages := (stage_bindRatio n transition).bind fun _ =>
      (stage_fireTrigger (o := o) n htrigger hacceptsTrigger).bind fun _ => hrest
    simp only [hpost, Attempt.ofExcept, pure_bind]
    apply hstages.congr
    intro rest
    simp [TransitionAccountable, hruns]

/-- The loop over the transitions, by induction on those left. -/
theorem stage_runTransitions {transitions : List Json}
    (h : ∀ transition ∈ transitions, TransitionAccepted transition) (n : ℕ) :
    Stage o (fun rest => TransitionsAccountable o (n + 1) rest transitions) (Passed o n)
      (runTransitions o (n + 1) transitions) (Passed o (n + transitions.length)) := by
  induction transitions generalizing n with
  | nil => exact stage_pure [] _
  | cons transition transitions ih =>
    have hfirst := stage_runTransition (o := o) n (h transition List.mem_cons_self)
    have hrest := ih (fun t ht => h t (List.mem_cons_of_mem _ ht)) (n + 1)
    have hlength : n + 1 + transitions.length = n + (transition :: transitions).length := by
      simp only [List.length_cons]
      omega
    rw [hlength] at hrest
    exact hfirst.bind fun count => hrest.bind fun counts => stage_pure (count :: counts) _

theorem stage_startTraffic {argv : Json} (haccepts : popenAccepts argv = true) :
    Stage o (fun rest => TrafficStarts o ∧ rest) (Progress o 0) (startTraffic o argv)
      (Progress o 0) := by
  intro rest s hs
  unfold startTraffic
  cases houtcome : o.outcome .traffic with
  | notStarted exception =>
    rw [haccepts]
    refine ⟨hs.ordered, iff_of_false id fun h => h.1 exception houtcome⟩
  | timedOut | exited =>
    have hstarts : TrafficStarts o := by
      intro exception h
      rw [houtcome] at h
      cases h
    have hquiet : Quiet [.started .traffic] :=
      @quiet_attempted .traffic _ (.inr (.inl rfl)) fun _ => by simp
    rw [haccepts]
    refine ⟨(hs.emit hquiet).same ⟨rfl, rfl, rfl, rfl⟩, ?_⟩
    simp [hstarts]

theorem Progress.terminate (h : Progress o n s) :
    Progress o n (outcome terminateProcess s).2 := by
  rw [terminateProcess, outcome_modify]
  show Progress o n (if s.traffic then _ else _)
  split
  · have hquiet : Quiet [.trafficTerminated] := by simp [Quiet, isTriggerStart, isTriggerSuccess]
    exact (h.emit hquiet).same ⟨rfl, rfl, rfl, rfl⟩
  · exact h

theorem Passed.terminate (h : Passed o n s) : Passed o n (outcome terminateProcess s).2 := by
  refine ⟨h.1.terminate, h.2.mono fun e he => ?_⟩
  rw [terminateProcess, outcome_modify]
  show e ∈ (if s.traffic then _ else _ : SupervisorState).events
  split
  · exact List.mem_append_left _ he
  · exact he

theorem stage_finalization {argv : Json} (haccepts : popenAccepts argv = true) :
    Stage o (fun rest => InTime o .finalization →
        (o.outcome .finalization).Handled ∧ (Succeeds o .finalization → rest))
      (Passed o n) (runCommand o .finalization argv (chars "FINALIZATION_FAILED"))
      (Passed o n) := by
  intro rest s hs
  have hend := runCommand_end (o := o) (s := s) .finalization argv (chars "FINALIZATION_FAILED")
  generalize outcome (runCommand o .finalization argv (chars "FINALIZATION_FAILED")) s = end'
    at hend ⊢
  have hquiet {es : List SupervisorEvent} (h : Attempted .finalization es) :
      Passed o n (s.emit es) := hs.emit (quiet_attempted h fun _ => by simp)
  cases hend with
  | late reason rc hlate =>
    exact ⟨hs.1.ordered, iff_of_true hs.1.truthful fun h => absurd h hlate⟩
  | broken exception es htime hnot hes =>
    exact ⟨(hquiet hes).1.ordered, iff_of_false id fun h => hnot haccepts (h htime).1⟩
  | timedOut reason rc htime _ hexit =>
    have hpassed := hquiet (.inr (.inl rfl))
    refine ⟨hpassed.1.ordered, iff_of_true hpassed.1.truthful fun _ => ⟨?_, ?_⟩⟩
    · simp [hexit, CommandOutcome.Handled]
    · rintro ⟨stdout, h⟩
      rw [hexit] at h
      cases h
  | refused reason rc returncode stdout htime _ hrc hexit =>
    have hpassed := hquiet (.inr (.inr ⟨returncode, some stdout, rfl⟩))
    refine ⟨hpassed.1.ordered, iff_of_true hpassed.1.truthful fun _ => ⟨?_, ?_⟩⟩
    · simp [hexit, CommandOutcome.Handled]
    · rintro ⟨stdout', h⟩
      rw [hexit] at h
      exact absurd (CommandOutcome.exited.inj h).1 hrc
  | done stdout htime _ hexit =>
    refine ⟨hquiet (.inr (.inr ⟨0, some stdout, rfl⟩)), ?_⟩
    have hsucceeds : Succeeds o .finalization := ⟨stdout, hexit⟩
    simp [htime, hsucceeds, hexit, CommandOutcome.Handled]

theorem stage_finishSequence {plan argv : Json} (k : ℕ)
    (hargv : item plan "finalization_command" = .ok argv) (haccepts : popenAccepts argv = true) :
    Stage o (fun rest => o.trafficRuns k = true → InTime o .finalization →
        (o.outcome .finalization).Handled ∧ (Succeeds o .finalization → rest))
      (Passed o n) (finishSequence o k plan) (Passed o n) := by
  unfold finishSequence
  cases hruns : o.trafficRuns k with
  | false =>
    intro rest s hs
    refine ⟨hs.1.ordered, iff_of_true hs.1.truthful fun h => ?_⟩
    cases h
  | true =>
    simp only [hargv, Attempt.ofExcept, pure_bind]
    have hterminate : Stage o id (Passed o n) terminateProcess (Passed o n) :=
      stage_modify fun _ hs => hs.terminate
    have hpass : Stage o id (Passed o n) (report fun r =>
        { r with supervisorGate := "PASS", failClosedReason := chars "NONE" }) (Passed o n) :=
      stage_modify fun _ hs => hs.same ⟨rfl, rfl, rfl, rfl⟩
    have hstages := hterminate.bind fun _ => (stage_finalization (n := n) haccepts).bind fun _ =>
      hpass.bind fun _ => stage_pure (0 : ℤ) (Passed o n)
    apply hstages.congr
    intro rest
    simp

/-- What `load_plan` has checked of a plan. -/
structure PlanAccepted (plan : Json) : Prop where
  traffic : ∃ argv, item plan "traffic_command" = .ok argv ∧ popenAccepts argv = true
  initial : ∃ argv, item plan "initial_stationarity_command" = .ok argv ∧ popenAccepts argv = true
  finalization : ∃ argv, item plan "finalization_command" = .ok argv ∧ popenAccepts argv = true
  transitions : ∀ transition ∈ planTransitions plan, TransitionAccepted transition

theorem stage_runSequence {plan : Json} (h : PlanAccepted plan) :
    Stage o (fun rest => TrafficStarts o ∧ GateHandled o 0 .pre ∧ (GatePasses o 0 .pre →
        TransitionsAccountable o 1 (o.trafficRuns ((planTransitions plan).length + 1) = true →
          InTime o .finalization → (o.outcome .finalization).Handled ∧
            (Succeeds o .finalization → rest)) (planTransitions plan)))
      (Progress o 0) (runSequence o plan) (Passed o (planTransitions plan).length) := by
  obtain ⟨⟨traffic, htraffic, hacceptsTraffic⟩, ⟨initial, hinitial, hacceptsInitial⟩,
    ⟨final, hfinal, hacceptsFinal⟩, htransitions⟩ := h
  have hloop := stage_runTransitions (o := o) htransitions 0
  simp only [Nat.zero_add] at hloop
  have hextensions (count : ℕ) : Stage o id (Passed o 0)
      (report fun r => { r with preStepExtensionCount := some count }) (Passed o 0) :=
    stage_modify fun _ hs => hs.same ⟨rfl, rfl, rfl, rfl⟩
  have hcounts (counts : List ℕ) : Stage o id (Passed o (planTransitions plan).length)
      (report fun r => { r with postStepExtensionCounts := some counts })
      (Passed o (planTransitions plan).length) :=
    stage_modify fun _ hs => hs.same ⟨rfl, rfl, rfl, rfl⟩
  unfold runSequence
  simp only [htraffic, hinitial, Attempt.ofExcept, pure_bind]
  exact (stage_startTraffic hacceptsTraffic).bind fun _ =>
    (stage_gate hacceptsInitial 0 .pre).bind fun count => (hextensions count).bind fun _ =>
      hloop.bind fun counts => (hcounts counts).bind fun _ =>
        stage_finishSequence _ hfinal hacceptsFinal

/-! ### The plan -/

theorem item_of_get {value argv : Json} {key : String} (h : get value key = .ok argv)
    (hnull : argv ≠ .null) : item value key = .ok argv := by
  unfold get at h
  split at h
  case h_2 => cases h
  case h_1 members =>
    unfold item
    simp only
    cases hlookup : dictLookup members (chars key) with
    | none =>
      rw [hlookup] at h
      exact absurd (Except.ok.inj h).symm hnull
    | some value =>
      rw [hlookup] at h
      exact h

theorem popenAccepts_of_checkCommand {argv : Json} {name : List ℕ}
    (h : checkCommand argv name = .ok ()) : argv ≠ .null ∧ popenAccepts argv = true := by
  unfold checkCommand at h
  split at h
  case h_2 => cases h
  case h_1 items =>
    split at h
    case isFalse => cases h
    case isTrue hitems =>
      refine ⟨by simp, ?_⟩
      have hall := List.all_eq_true.mp hitems.2
      refine decide_eq_true ⟨hitems.1, List.all_eq_true.mpr fun item hitem => ?_⟩
      have htext := hall item hitem
      cases item with
      | str units => rfl
      | null | bool | num | arr | obj => cases htext

/-- A field that `command` has checked. -/
theorem item_of_checked {value argv : Json} {key : String} {name : List ℕ}
    (hget : get value key = .ok argv) (hcheck : checkCommand argv name = .ok ()) :
    ∃ argv, item value key = .ok argv ∧ popenAccepts argv = true := by
  obtain ⟨hnull, haccepts⟩ := popenAccepts_of_checkCommand hcheck
  exact ⟨argv, item_of_get hget hnull, haccepts⟩

theorem transitionAccepted_of_check {index : ℕ} {transition : Json}
    (h : checkTransition index transition = .ok ()) : TransitionAccepted transition := by
  unfold checkTransition at h
  split at h
  case h_2 => cases h
  case h_1 members =>
    rw [bind_eq_ok] at h
    obtain ⟨label, -, h⟩ := h
    obtain ⟨-, h⟩ := require_bind_eq_ok.mp h
    rw [bind_eq_ok] at h
    obtain ⟨trigger, htrigger, h⟩ := h
    obtain ⟨hcheckTrigger, h⟩ := unit_bind_eq_ok.mp h
    rw [bind_eq_ok] at h
    obtain ⟨post, hpost, hcheckPost⟩ := h
    exact ⟨item_of_checked htrigger hcheckTrigger, item_of_checked hpost hcheckPost⟩

theorem transitionAccepted_of_checks {index : ℕ} {transitions : List Json}
    (h : checkTransitions index transitions = .ok ()) :
    ∀ transition ∈ transitions, TransitionAccepted transition := by
  induction transitions generalizing index with
  | nil => exact fun _ ht => by cases ht
  | cons first transitions ih =>
    rw [checkTransitions, bind_eq_ok] at h
    obtain ⟨⟨⟩, hfirst, hrest⟩ := h
    intro transition ht
    rcases List.mem_cons.mp ht with rfl | ht
    · exact transitionAccepted_of_check hfirst
    · exact ih hrest transition ht

theorem planAccepted {loads : List ℕ → Loaded} {file : PlanFile} {plan : Json}
    (h : loadPlan loads file = .ok plan) : PlanAccepted plan := by
  unfold loadPlan at h
  rw [bind_eq_ok] at h
  obtain ⟨plan', -, h⟩ := h
  rw [bind_eq_ok] at h
  obtain ⟨schema, -, h⟩ := h
  obtain ⟨-, h⟩ := require_bind_eq_ok.mp h
  rw [bind_eq_ok] at h
  obtain ⟨traffic, htraffic, h⟩ := h
  obtain ⟨hcheckTraffic, h⟩ := unit_bind_eq_ok.mp h
  rw [bind_eq_ok] at h
  obtain ⟨initial, hinitial, h⟩ := h
  obtain ⟨hcheckInitial, h⟩ := unit_bind_eq_ok.mp h
  rw [bind_eq_ok] at h
  obtain ⟨final, hfinal, h⟩ := h
  obtain ⟨hcheckFinal, h⟩ := unit_bind_eq_ok.mp h
  rw [bind_eq_ok] at h
  obtain ⟨value, htransitions, h⟩ := h
  split at h
  case h_2 => cases h
  case h_1 transitions =>
    obtain ⟨-, h⟩ := require_bind_eq_ok.mp h
    obtain ⟨hchecks, h⟩ := unit_bind_eq_ok.mp h
    obtain rfl := Except.ok.inj h
    have hitem : item plan' "transitions" = .ok (.arr transitions) :=
      item_of_get htransitions (by simp)
    constructor
    · exact item_of_checked htraffic hcheckTraffic
    · exact item_of_checked hinitial hcheckInitial
    · exact item_of_checked hfinal hcheckFinal
    · rw [planTransitions, hitem]
      exact transitionAccepted_of_checks hchecks

end

end TcdOran.Harness
