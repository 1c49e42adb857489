import TcdOran.Harness.RunnerVerdict

/-! The processes that a runner starts, and whether its traps stop them. -/
namespace TcdOran.Harness.RunnerScript
open TcdOran.Lib Command

/-! ### What is promised -/

theorem Child.forall_iff {P : Child → Prop} :
    (P .resource ∧ P .native ∧ P .rtt ∧ P .kpm ∧ P .traffic) ↔ ∀ child, P child := by
  constructor
  · rintro ⟨hresource, hnative, hrtt, hkpm, htraffic⟩ child
    cases child <;> assumption
  · intro h
    exact ⟨h _, h _, h _, h _, h _⟩

instance Child.decidableForall {P : Child → Prop} [DecidablePred P] : Decidable (∀ child, P child) :=
  decidable_of_iff _ Child.forall_iff

/-- The trap on EXIT stops the process. -/
def Vars.covers (v : Vars) : Child → Bool
  | .traffic => v.pids .traffic
  | .kpm => v.kpmActive
  | child => v.stackActive && v.pids child

def Runner.Attended (r : Runner) : Prop :=
  ∀ child, r.children child = .running → r.vars.covers child = true

def Runner.Rested (r : Runner) : Prop :=
  ∀ child, r.children child = .unstarted ∨ r.children child = .exited

/-- At the exit every process has exited or been sent a stop signal, and where COMPLETED is reported
none is left. -/
structure Released (r : Runner) : Prop where
  stopped : ∀ status, r.mode = .ended status → ∀ child, r.children child ≠ .running
  rested : r.Completed → r.Rested

/-- A signal comes where the trap stops every process that runs, in the trap where none runs, and the
trap reaches the container when it stops RTT. -/
def Watched (r : Runner) : RunnerAction → Prop
  | .childExits _ => True
  | .step answer => match r.mode, r.rest, answer with
    | .trap _, c :: _, .signal _ effect =>
        ∀ child, (r.interrupt c effect).children child ≠ .running
    | .trap _, c :: _, .fails _ effect =>
        c = stopStack .rtt → effect = false → r.children .rtt ≠ .running
    | _, c :: _, .signal _ effect => (r.interrupt c effect).Attended
    | _, _, _ => True

instance Runner.decidableAttended (r : Runner) : Decidable r.Attended :=
  inferInstanceAs (Decidable (∀ _, _ → _))

instance (r : Runner) : DecidablePred (Watched r) := by
  refine fun a => RunnerAction.casesOn a (fun answer => ?_) fun _ => .isTrue trivial
  dsimp only [Watched]
  generalize r.mode = mode, r.rest = rest
  refine List.casesOn rest ?_ ?_ <;> refine Mode.casesOn mode ?_ ?_ ?_ ?_ <;>
    refine Answer.casesOn answer ?_ ?_ ?_ <;> intros <;> (dsimp only; infer_instance)

/-! ### Single commands -/

/-- The process that a command stops. -/
def Command.target : Command → Option Child
  | .stop child | .stopStack child | .stopQuietly child => some child
  | _ => none

theorem ChildState.stop_ne_running (state : ChildState) : state.stop ≠ .running := by
  cases state <;> decide

theorem ChildState.signal_ne_running (state : ChildState) : state.signal ≠ .running := by
  cases state <;> decide

/-- What a command leaves at its end, or when it fails or is interrupted. -/
structure Leaves (c : Command) (r r' : Runner) : Prop where
  children : ∀ child, r'.children child = r.children child ∨
    c = spawn child ∧ r'.children child = .running ∨
    c.target = some child ∧
      (r'.children child = (r.children child).stop ∨ r'.children child = (r.children child).signal)
  manifest : r'.manifest = r.manifest ∨ r'.manifest = .begun ∨
    r'.manifest = r.manifest.perform c

section
variable {r r' : Runner} {c : Command} {child : Child} {effect : Bool}

theorem perform_children (r : Runner) (c : Command) (child : Child) :
    (r.perform c).children child = if c = spawn child then .running
      else if c.target = some child then (r.children child).stop else r.children child := by
  cases c with
  | spawn other | stop other | stopStack other | stopQuietly other =>
    by_cases h : child = other
    · subst h
      simp [Runner.perform, Runner.performChild, Runner.setChild, Command.target]
    · simp [Runner.perform, Runner.performChild, Runner.setChild, Command.target, h, Ne.symm h]
  | _ => rfl

theorem leaves_self (c : Command) (r : Runner) : Leaves c r r :=
  ⟨fun _ => .inl rfl, .inl rfl⟩

theorem leaves_perform (r : Runner) (c : Command) : Leaves c r (r.perform c) := by
  refine ⟨?_, .inr (.inr rfl)⟩
  intro child
  rw [perform_children]
  split_ifs with hspawn htarget
  · exact .inr (.inl ⟨hspawn, rfl⟩)
  · exact .inr (.inr ⟨htarget, .inl rfl⟩)
  · exact .inl rfl

theorem leaves_signal (r : Runner) (h : c.target = some child) :
    Leaves c r (r.setChild child (r.children child).signal) := by
  refine ⟨?_, .inl rfl⟩
  intro other
  by_cases hother : other = child
  · subst hother
    exact .inr (.inr ⟨h, .inr (Function.update_self ..)⟩)
  · exact .inl (Function.update_of_ne hother ..)

theorem leaves_interrupt (r : Runner) (c : Command) (effect : Bool) :
    Leaves c r (r.interrupt c effect) := by
  unfold Runner.interrupt
  split
  · exact leaves_self _ r
  · exact leaves_signal r rfl
  · exact leaves_signal r rfl
  · exact leaves_signal r rfl
  · exact leaves_perform r _

theorem leaves_afterFailure (r : Runner) (c : Command) (effect : Bool) :
    Leaves c r (r.afterFailure c effect) := by
  unfold Runner.afterFailure
  split
  · split_ifs
    · exact ⟨fun _ => .inl rfl, .inr (.inl rfl)⟩
    · exact leaves_self _ r
  · exact leaves_self _ r
  · exact leaves_perform r _
  · exact leaves_perform r _
  · exact leaves_perform r _
  · exact leaves_perform r _
  · exact leaves_self _ r

/-- A process runs behind a command that does not start it only where it ran before. -/
theorem Leaves.running (h : Leaves c r r') (hspawn : c ≠ spawn child)
    (hrunning : r'.children child = .running) : r.children child = .running := by
  rcases h.children child with hsame | ⟨hc, -⟩ | ⟨-, hstop | hsignal⟩
  · exact hsame.symm.trans hrunning
  · exact absurd hc hspawn
  · exact absurd (hstop.symm.trans hrunning) (ChildState.stop_ne_running _)
  · exact absurd (hsignal.symm.trans hrunning) (ChildState.signal_ne_running _)

theorem Leaves.rested (h : Leaves c r r') (hspawn : ∀ child, c ≠ spawn child) (hrested : r.Rested) :
    r'.Rested := by
  intro child
  rcases h.children child with hsame | ⟨hc, -⟩ | ⟨-, hstop | hsignal⟩
  · rw [hsame]
    exact hrested child
  · exact absurd hc (hspawn child)
  · rw [hstop]
    rcases hrested child with hbefore | hbefore <;> rw [hbefore]
    · exact .inl rfl
    · exact .inr rfl
  · rw [hsignal]
    rcases hrested child with hbefore | hbefore <;> rw [hbefore]
    · exact .inl rfl
    · exact .inr rfl

theorem Leaves.completed (h : Leaves c r r') (hcompleted : r'.Completed) :
    r.Completed ∨ c = setFinalStatus .completed := by
  obtain ⟨m', hm', hfinal⟩ := hcompleted
  rcases h.manifest with hsame | hbegun | hperform
  · exact .inl ⟨m', hsame.symm.trans hm', hfinal⟩
  · cases hbegun.symm.trans hm'
  · rw [hperform] at hm'
    cases c with
    | setFinalStatus status =>
      right
      cases hfile : r.manifest with
      | absent | begun =>
        rw [hfile] at hm'
        cases hm'
      | whole m =>
        rw [hfile] at hm'
        obtain rfl := ManifestFile.whole.inj hm'
        rw [Option.some.inj hfinal]
    | setLifecycle state =>
      left
      cases hfile : r.manifest with
      | absent | begun =>
        rw [hfile] at hm'
        cases hm'
      | whole m =>
        rw [hfile] at hm'
        obtain rfl := ManifestFile.whole.inj hm'
        exact ⟨m, hfile, hfinal⟩
    | manifestInit =>
      simp only [ManifestFile.perform] at hm'
      split_ifs at hm'
      · obtain rfl := ManifestFile.whole.inj hm'
        cases hfinal
      · exact .inl ⟨m', hm', hfinal⟩
    | _ => exact .inl ⟨m', hm', hfinal⟩

end

/-! ### The prefixes of the script -/

/-- Behind the command the process does not run, where no stop of the loggers has failed. -/
def Command.quiets (stackFailed : Bool) (child : Child) : Command → Bool
  | .waitTraffic => child = .traffic
  | .stop other => other = child
  | .stopStack other => other = child && !stackFailed
  | _ => false

def quietAfter (done : List Command) (stackFailed : Bool) (child : Child) : Bool :=
  done.any (Command.quiets stackFailed child)

/-- Behind `checkStack` no stop of the loggers has failed. -/
def settledAfter (done : List Command) (child : Child) : Bool :=
  quietAfter done (checkStack ∉ done) child

def ManifestFile.isCompleted : ManifestFile → Bool
  | .whole m => m.finalStatus = some .completed
  | _ => false

theorem isCompleted_of_completed {r : Runner} (h : r.Completed) : r.manifest.isCompleted = true := by
  obtain ⟨m, hfile, hfinal⟩ := h
  rw [hfile]
  exact decide_eq_true hfinal

/-- Where a command of the script stands. -/
def Placed (done : List Command) : Command → Prop
  | .spawn child =>
      quietAfter done false child = false ∧ (manifestAfter done).isCompleted = false
  | .startChecks _ started => ∀ child, spawn child ∈ done → child ∈ started
  | .stopStack _ => checkStack ∉ done
  | .setFinalStatus _ => ∀ child, spawn child ∈ done → settledAfter done child = true
  | .passOver _ | .recordPid _ | .setActive _ _ | .setRunCompleted | .waitTraffic => True
  | _ => ∀ child, spawn child ∈ done →
      (varsAfter done).covers child = true ∨ settledAfter done child = true

instance (done : List Command) (c : Command) : Decidable (Placed done c) := by
  cases c with
  | spawn | startChecks | stopStack | setFinalStatus => unfold Placed; infer_instance
  | passOver | recordPid | setActive | setRunCompleted | waitTraffic =>
    exact inferInstanceAs (Decidable True)
  | _ => exact inferInstanceAs (Decidable (∀ _, _ → _))

theorem script_placed (kpmEnabled : Bool) : ∀ done ∈ (script kpmEnabled).inits,
    ∀ c ∈ done.getLast?, Placed done.dropLast c := by
  cases kpmEnabled <;> decide +kernel

theorem script_settled (kpmEnabled : Bool) :
    ∀ child, spawn child ∈ script kpmEnabled → settledAfter (script kpmEnabled) child = true := by
  cases kpmEnabled <;> decide +kernel

section
variable {kpmEnabled stackFailed : Bool} {done rest : List Command} {c : Command} {child : Child}

theorem placed_of_split (h : done ++ c :: rest = script kpmEnabled) : Placed done c := by
  have hplaced := script_placed kpmEnabled (done ++ [c])
    ((List.mem_inits _ _).mpr ⟨rest, by rw [List.append_assoc, ← h]; rfl⟩) c (by simp)
  rwa [List.dropLast_concat] at hplaced

theorem quietAfter_concat : quietAfter (done ++ [c]) stackFailed child =
    (quietAfter done stackFailed child || c.quiets stackFailed child) := by
  simp [quietAfter]

/-- A failed stop takes nothing from the other processes. -/
theorem quietAfter_of_failed (h : quietAfter done true child = true) (stackFailed : Bool) :
    quietAfter done stackFailed child = true := by
  obtain ⟨c, hmem, hquiets⟩ := List.any_eq_true.mp h
  refine List.any_eq_true.mpr ⟨c, hmem, ?_⟩
  cases c with
  | stopStack => simp [Command.quiets] at hquiets
  | waitTraffic | stop => exact hquiets
  | _ => cases hquiets

theorem quietAfter_unfailed (h : quietAfter done stackFailed child = true) :
    quietAfter done false child = true := by
  cases stackFailed with
  | false => exact h
  | true => exact quietAfter_of_failed h false

end

/-! ### The script on its way -/

/-- What holds of a runner behind the commands that it has done. -/
structure Kept (done : List Command) (r : Runner) : Prop where
  vars : r.vars = varsAfter done
  manifest : r.manifest = manifestAfter done
  unstarted : ∀ child, spawn child ∉ done → r.children child = .unstarted
  unsignalled : ∀ child, r.children child ≠ .signalled
  quiet : ∀ child, quietAfter done r.stackFailed child = true → r.children child ≠ .running
  checked : checkStack ∈ done → r.stackFailed = false

section
variable {done rest : List Command} {r r' : Runner} {c : Command} {child : Child} {effect : Bool}

theorem Kept.start (kpmEnabled : Bool) : Kept [] (Runner.start kpmEnabled) := by
  refine ⟨rfl, rfl, fun _ _ => rfl, ?_, ?_, ?_⟩
  · intro child h
    cases h
  · intro child h
    cases h
  · intro h
    cases h

theorem Kept.settled (h : Kept done r) (hsettled : settledAfter done child = true) :
    r.children child ≠ .running := by
  unfold settledAfter at hsettled
  by_cases hchecked : checkStack ∈ done
  · rw [decide_eq_false (not_not_intro hchecked)] at hsettled
    exact h.quiet child (h.checked hchecked ▸ hsettled)
  · rw [decide_eq_true hchecked] at hsettled
    exact h.quiet child (quietAfter_of_failed hsettled r.stackFailed)

theorem Kept.rested (h : Kept done r)
    (hall : ∀ child, spawn child ∈ done → settledAfter done child = true) : r.Rested := by
  intro child
  by_cases hspawned : spawn child ∈ done
  · have hrunning := h.settled (hall child hspawned)
    have hsignalled := h.unsignalled child
    cases hstate : r.children child with
    | unstarted => exact .inl rfl
    | exited => exact .inr rfl
    | running => exact absurd hstate hrunning
    | signalled => exact absurd hstate hsignalled
  · exact .inl (h.unstarted child hspawned)

def Command.endsScript : Command → Bool
  | .passOver _ | .startChecks _ _ | .stopStack _ | .spawn _ | .recordPid _ | .setActive _ _
  | .setRunCompleted | .waitTraffic => false
  | _ => true

/-- A command that may end the script stands where the trap stops every process that runs. -/
theorem Kept.attended (h : Kept done r) (hplaced : Placed done c) (hends : c.endsScript = true) :
    r.Attended := by
  intro child hrunning
  have hspawned : spawn child ∈ done := by
    by_contra hnot
    cases (h.unstarted child hnot).symm.trans hrunning
  have hcovered : (varsAfter done).covers child = true ∨ settledAfter done child = true := by
    cases c with
    | setFinalStatus => exact .inr (hplaced child hspawned)
    | passOver | startChecks | stopStack | spawn | recordPid | setActive | setRunCompleted
    | waitTraffic => cases hends
    | _ => exact hplaced child hspawned
  rcases hcovered with hcovers | hsettled
  · rw [h.vars]
    exact hcovers
  · exact absurd hrunning (h.settled hsettled)

theorem Kept.left_rested (h : Kept done r) (hplaced : Placed done c) (hleaves : Leaves c r r')
    (hrested : r.Completed → r.Rested) (hcompleted : r'.Completed) : r'.Rested := by
  rcases hleaves.completed hcompleted with hbefore | rfl
  · refine hleaves.rested ?_ (hrested hbefore)
    rintro child rfl
    have hfile := isCompleted_of_completed hbefore
    rw [h.manifest, hplaced.2] at hfile
    cases hfile
  · exact hleaves.rested (by simp) (h.rested hplaced)

theorem stackFailed_perform (r : Runner) (c : Command) :
    (r.perform c).stackFailed = r.stackFailed := by
  cases c <;> rfl

/-- A command that succeeds. -/
theorem Kept.perform (h : Kept done r) (hplaced : Placed done c) (hready : r.ready c = true) :
    Kept (done ++ [c]) (r.perform c) := by
  obtain ⟨hvars, hmanifest⟩ := perform_after (c := c) h.vars h.manifest
  refine ⟨hvars, hmanifest, ?_, ?_, ?_, ?_⟩
  · intro child hnot
    obtain ⟨hdone, hc⟩ := not_or.mp (mt List.mem_append.mpr hnot)
    have hspawn : c ≠ spawn child := by
      rintro rfl
      exact hc (List.mem_singleton_self _)
    rw [perform_children, if_neg hspawn, h.unstarted child hdone]
    exact ite_self _
  · intro child
    rw [perform_children]
    split_ifs
    · exact fun h => by cases h
    · have hbefore := h.unsignalled child
      cases hstate : r.children child with
      | signalled => exact absurd hstate hbefore
      | _ => exact fun h => by cases h
    · exact h.unsignalled child
  · intro child hquiet
    rw [stackFailed_perform, quietAfter_concat, Bool.or_eq_true] at hquiet
    rw [perform_children]
    split_ifs with hspawn htarget
    · subst hspawn
      rcases hquiet with hquiet | hquiet
      · exact absurd (quietAfter_unfailed hquiet) (by rw [hplaced.1]; exact Bool.false_ne_true)
      · cases hquiet
    · exact ChildState.stop_ne_running _
    · rcases hquiet with hquiet | hquiet
      · exact h.quiet child hquiet
      · cases c with
        | waitTraffic =>
          obtain rfl := of_decide_eq_true hquiet
          rw [of_decide_eq_true hready]
          exact fun h => by cases h
        | stop other =>
          exact absurd (congrArg some (of_decide_eq_true hquiet)) htarget
        | stopStack other =>
          exact absurd (congrArg some (of_decide_eq_true (Bool.and_eq_true_iff.mp hquiet).1)) htarget
        | _ => cases hquiet
  · intro hchecked
    rw [stackFailed_perform]
    rcases List.mem_append.mp hchecked with hdone | hc
    · exact h.checked hdone
    · obtain rfl := List.mem_singleton.mp hc
      simpa [Runner.ready] using hready

theorem afterFailure_stopStack (r : Runner) (child : Child) (effect : Bool) :
    r.afterFailure (stopStack child) effect = r ∨
      r.afterFailure (stopStack child) effect = r.perform (stopStack child) := by
  cases child <;> cases effect <;> first | exact .inl rfl | exact .inr rfl

/-- A stop of the loggers that fails. -/
theorem Kept.stackFailed (h : Kept done r) (hplaced : Placed done (stopStack child)) :
    Kept (done ++ [stopStack child])
      { r.afterFailure (stopStack child) effect with rest, stackFailed := true } := by
  have hleaves := leaves_afterFailure r (stopStack child) effect
  obtain ⟨-, hvars, hmanifest⟩ := isStop_afterFailure (c := stopStack child) r effect rfl
  obtain ⟨hvars', hmanifest'⟩ := perform_after (c := stopStack child) h.vars h.manifest
  refine ⟨hvars.trans hvars', hmanifest.trans hmanifest', ?_, ?_, ?_, ?_⟩
  · intro other hnot
    have hdone := h.unstarted other (fun hmem => hnot (List.mem_append_left _ hmem))
    rcases hleaves.children other with hsame | ⟨hspawn, -⟩ | ⟨-, hstop | hsignal⟩
    · exact hsame.trans hdone
    · cases hspawn
    · exact hstop.trans (by rw [hdone]; rfl)
    · exact hsignal.trans (by rw [hdone]; rfl)
  · show ∀ other, (r.afterFailure (stopStack child) effect).children other ≠ .signalled
    rcases afterFailure_stopStack r child effect with hsame | hperform
    · rw [hsame]
      exact h.unsignalled
    · rw [hperform]
      exact (h.perform hplaced rfl).unsignalled
  · intro other hquiet
    rw [quietAfter_concat, Bool.or_eq_true] at hquiet
    have hbefore : quietAfter done true other = true := by
      rcases hquiet with hquiet | hquiet
      · exact hquiet
      · simp [Command.quiets] at hquiet
    exact fun hrunning => h.quiet other (quietAfter_of_failed hbefore _)
      (hleaves.running (by simp) hrunning)
  · intro hchecked
    rcases List.mem_append.mp hchecked with hdone | hc
    · exact absurd hdone hplaced
    · cases List.mem_singleton.mp hc

end

/-! ### The invariant -/

/-- What holds of a runner and its processes in every run. -/
inductive Keeping (kpmEnabled : Bool) (r : Runner) : Prop
  | main (done : List Command) : r.mode = .main → done ++ r.rest = script kpmEnabled → Kept done r →
      (r.Completed → r.Rested) → Keeping kpmEnabled r
  | unready (status : ℕ) : r.mode = .failing status → (∀ c ∈ r.rest, c = reportNotReady) →
      r.Attended → (r.Completed → r.Rested) → Keeping kpmEnabled r
  | failing (status : ℕ) (started : List Child) : r.mode = .failing status →
      r.rest = started.map stopQuietly → (∀ child, r.children child = .running → child ∈ started) →
      (r.Completed → r.Rested) → Keeping kpmEnabled r
  | trap (status : ℕ) (stops tail : List Command) : r.mode = .trap status → r.rest = stops ++ tail →
      (∀ c ∈ stops, c.isStop = true) →
      (∀ c ∈ tail, c.isUpdate = true ∧ c ≠ setFinalStatus .completed) →
      (∀ child, r.children child = .running → ∃ c ∈ stops, c.target = some child) →
      (r.Completed → r.Rested) → Keeping kpmEnabled r
  | ended (status : ℕ) : r.mode = .ended status → (∀ child, r.children child ≠ .running) →
      (r.Completed → r.Rested) → Keeping kpmEnabled r

theorem Keeping.released {kpmEnabled : Bool} {r : Runner} (h : Keeping kpmEnabled r) :
    Released r := by
  cases h with
  | main done hmode _ _ hrested | unready status hmode _ _ hrested
  | failing status started hmode _ _ hrested | trap status stops tail hmode _ _ _ _ hrested =>
    exact ⟨fun _ hended => (by cases hmode.symm.trans hended), hrested⟩
  | ended status _ hstopped hrested => exact ⟨fun _ _ => hstopped, hrested⟩

section
variable {kpmEnabled : Bool} {r r' : Runner} {c : Command} {child : Child} {rest : List Command}
  {answer : Answer} {status : ℕ} {effect : Bool}

theorem mem_stops_of_covers (h : r.vars.covers child = true) :
    ∃ c ∈ r.stops, c.target = some child := by
  cases child with
  | traffic =>
    refine ⟨stopQuietly .traffic, ?_, rfl⟩
    simp only [Vars.covers] at h
    simp [Runner.stops, h]
  | kpm =>
    refine ⟨stopQuietly .kpm, ?_, rfl⟩
    simp only [Vars.covers] at h
    simp [Runner.stops, h]
  | resource | native | rtt =>
    obtain ⟨hactive, hpid⟩ := Bool.and_eq_true_iff.mp h
    exact ⟨stopStack _, by simp [Runner.stops, hactive, hpid], rfl⟩

theorem keeping_enterTrap {state : Lifecycle} (hattended : r.Attended)
    (hrested : r.Completed → r.Rested) (hstate : state ≠ .completed) :
    Keeping kpmEnabled (r.enterTrap status state) := by
  refine .trap status r.stops (r.updates state) rfl rfl (stops_isStop r) ?_ ?_ hrested
  · intro c hc
    unfold Runner.updates at hc
    split_ifs at hc
    · simp only [List.mem_cons, List.not_mem_nil, or_false] at hc
      rcases hc with rfl | rfl | rfl
      · exact ⟨rfl, by simp⟩
      · exact ⟨rfl, by simp⟩
      · exact ⟨rfl, fun h => hstate (Command.setFinalStatus.inj h)⟩
    · exact absurd hc List.not_mem_nil
  · exact fun child hrunning => mem_stops_of_covers (hattended child hrunning)

theorem keeping_signal {signal : Signal} (hattended : (r.interrupt c effect).Attended)
    (hrested : (r.interrupt c effect).Completed → (r.interrupt c effect).Rested) :
    Keeping kpmEnabled ((r.interrupt c effect).enterTrap signal.status .interrupted) :=
  keeping_enterTrap hattended hrested (by decide)

theorem endsScript_vars (h : c.endsScript = true) (v : Vars) (child : Child) :
    (v.perform c).covers child = v.covers child := by
  cases c with
  | passOver | startChecks | stopStack | spawn | recordPid | setActive | setRunCompleted
  | waitTraffic => cases h
  | _ => rfl

theorem afterFailure_vars (r : Runner) (c : Command) (effect : Bool) :
    (r.afterFailure c effect).vars = r.vars ∨
      (r.afterFailure c effect).vars = r.vars.perform c := by
  unfold Runner.afterFailure
  split
  · split_ifs <;> exact .inl rfl
  · exact .inl rfl
  · exact .inr rfl
  · exact .inr rfl
  · exact .inr rfl
  · exact .inr rfl
  · exact .inl rfl

theorem attended_afterFailure (h : r.Attended) (hends : c.endsScript = true) :
    (r.afterFailure c effect).Attended := by
  intro child hrunning
  have hspawn : c ≠ spawn child := by
    rintro rfl
    cases hends
  have hcovers := h child ((leaves_afterFailure r c effect).running hspawn hrunning)
  rcases afterFailure_vars r c effect with hvars | hvars
  · rw [hvars]
    exact hcovers
  · rw [hvars, endsScript_vars hends]
    exact hcovers

theorem failMain_keeping {done : List Command} (hmode : r.mode = .main)
    (hscript : done ++ c :: rest = script kpmEnabled) (hkept : Kept done r)
    (hrested : r.Completed → r.Rested) (h : r.failMain c rest status effect = some r') :
    Keeping kpmEnabled r' := by
  have hplaced := placed_of_split hscript
  have hscript' : (done ++ [c]) ++ rest = script kpmEnabled := by
    rw [List.append_assoc]
    exact hscript
  have hleft := hkept.left_rested hplaced (leaves_afterFailure r c effect) hrested
  cases c with
  | passOver call =>
    obtain rfl := Option.some.inj h
    have hnext := hkept.perform hplaced rfl
    exact .main _ hmode hscript' ⟨hnext.vars, hnext.manifest, hnext.unstarted, hnext.unsignalled,
      hnext.quiet, hnext.checked⟩ hrested
  | waitReady =>
    obtain rfl := Option.some.inj h
    exact .unready 0 rfl (fun c hc => List.mem_singleton.mp hc) (hkept.attended hplaced rfl) hrested
  | startChecks child started =>
    obtain rfl := Option.some.inj h
    refine .failing 1 started rfl rfl ?_ hrested
    intro other hrunning
    apply hplaced other
    by_contra hnot
    cases (hkept.unstarted other hnot).symm.trans hrunning
  | stopStack child =>
    obtain rfl := Option.some.inj h
    obtain ⟨hmode', -⟩ := isStop_afterFailure (c := stopStack child) r effect rfl
    exact .main _ (hmode'.trans hmode) hscript' (hkept.stackFailed hplaced) hleft
  | checkStack =>
    simp only [Runner.failMain] at h
    split_ifs at h
    obtain rfl := Option.some.inj h
    exact keeping_enterTrap (hkept.attended hplaced rfl) hrested (by decide)
  | spawn | recordPid | setActive | setRunCompleted | waitTraffic => cases h
  | _ =>
    obtain rfl := Option.some.inj h
    exact keeping_enterTrap (attended_afterFailure (hkept.attended hplaced rfl) rfl) hleft (by decide)

theorem stepMain_keeping {done : List Command} (hmode : r.mode = .main)
    (hscript : done ++ c :: rest = script kpmEnabled) (hkept : Kept done r)
    (hrested : r.Completed → r.Rested)
    (hwatched : ∀ signal effect, answer = .signal signal effect → (r.interrupt c effect).Attended)
    (h : r.stepMain c rest answer = some r') : Keeping kpmEnabled r' := by
  have hplaced := placed_of_split hscript
  cases answer with
  | ok =>
    simp only [Runner.stepMain] at h
    split_ifs at h with hready
    obtain rfl := Option.some.inj h
    have hnext := hkept.perform hplaced hready
    have hscript' : (done ++ [c]) ++ rest = script kpmEnabled := by
      rw [List.append_assoc]
      exact hscript
    have hleft := hkept.left_rested hplaced (leaves_perform r c) hrested
    exact .main _ ((performChild_fields r c).1.trans hmode) hscript'
      ⟨hnext.vars, hnext.manifest, hnext.unstarted, hnext.unsignalled, hnext.quiet, hnext.checked⟩
      hleft
  | fails status effect =>
    simp only [Runner.stepMain] at h
    split_ifs at h
    exact failMain_keeping hmode hscript hkept hrested h
  | signal signal effect =>
    obtain rfl := Option.some.inj h
    exact keeping_signal (hwatched signal effect rfl)
      (hkept.left_rested hplaced (leaves_interrupt r c effect) hrested)

/-- A command in front of the exit or in the trap neither starts a process nor completes the manifest. -/
theorem Leaves.left_rested (hleaves : Leaves c r r') (hspawn : ∀ child, c ≠ spawn child)
    (hfinal : c ≠ setFinalStatus .completed) (hrested : r.Completed → r.Rested)
    (hcompleted : r'.Completed) : r'.Rested :=
  hleaves.rested hspawn (hrested ((hleaves.completed hcompleted).resolve_right hfinal))

theorem unready_keeping (hmode : r.mode = .failing status) (hrest : ∀ c ∈ rest, c = reportNotReady)
    (hattended : r.Attended) (hrested : r.Completed → r.Rested)
    (h : r.stepFailing reportNotReady rest answer = some r') : Keeping kpmEnabled r' := by
  cases answer with
  | ok =>
    obtain rfl := Option.some.inj h
    exact .unready status hmode hrest hattended hrested
  | fails status' effect =>
    simp only [Runner.stepFailing] at h
    split_ifs at h
    obtain rfl := Option.some.inj h
    exact keeping_enterTrap hattended hrested (by decide)
  | signal signal effect =>
    obtain rfl := Option.some.inj h
    cases effect with
    | false => exact keeping_enterTrap hattended hrested (by decide)
    | true => exact keeping_enterTrap hattended hrested (by decide)

theorem failing_keeping {started : List Child} (hmode : r.mode = .failing status)
    (hrunning : ∀ other, r.children other = .running → other ∈ child :: started)
    (hrested : r.Completed → r.Rested)
    (hwatched : ∀ signal effect, answer = .signal signal effect →
      (r.interrupt (stopQuietly child) effect).Attended)
    (h : r.stepFailing (stopQuietly child) (started.map stopQuietly) answer = some r') :
    Keeping kpmEnabled r' := by
  have hleft {left : Runner} (hleaves : Leaves (stopQuietly child) r left) :=
    hleaves.left_rested (by simp) (by simp) hrested
  have hdone := hleft (leaves_perform r _)
  have hperformed (other : Child) (h : (r.perform (stopQuietly child)).children other = .running) :
      other ∈ started := by
    rw [perform_children, if_neg (by simp)] at h
    split_ifs at h with htarget
    · exact absurd h (ChildState.stop_ne_running _)
    · rcases List.mem_cons.mp (hrunning other h) with rfl | hmem
      · exact absurd rfl htarget
      · exact hmem
  cases answer with
  | ok =>
    obtain rfl := Option.some.inj h
    exact .failing status started hmode rfl hperformed hdone
  | fails status' effect =>
    simp only [Runner.stepFailing, reduceCtorEq, reduceIte] at h
    split_ifs at h
    obtain rfl := Option.some.inj h
    cases effect with
    | false => exact .failing status started hmode rfl hperformed hdone
    | true => exact .failing status started hmode rfl hperformed hdone
  | signal signal effect =>
    obtain rfl := Option.some.inj h
    exact keeping_signal (hwatched signal effect rfl) (hleft (leaves_interrupt r _ effect))

theorem afterFailure_mode (r : Runner) (c : Command) (effect : Bool) :
    (r.afterFailure c effect).mode = r.mode := by
  unfold Runner.afterFailure
  split
  · split_ifs <;> rfl
  · rfl
  · exact (performChild_fields r _).1
  · exact (performChild_fields r _).1
  · exact (performChild_fields r _).1
  · exact (performChild_fields r _).1
  · rfl

/-- A stop in the trap that fails has done its work where it reaches the container. -/
theorem running_afterFailure (hstop : c.isStop = true)
    (hcontainer : c = stopStack .rtt → effect = false → r.children .rtt ≠ .running)
    (h : (r.afterFailure c effect).children child = .running) :
    (r.perform c).children child = .running := by
  cases c with
  | stopQuietly other => cases effect <;> exact h
  | stopStack other =>
    cases other with
    | rtt =>
      cases effect with
      | true => exact h
      | false =>
        rw [perform_children, if_neg (by simp)]
        split_ifs with htarget
        · obtain rfl := Option.some.inj htarget
          exact absurd h (hcontainer rfl rfl)
        · exact h
    | resource | native | kpm | traffic => cases effect <;> exact h
  | _ => cases hstop

section
variable {stops tail : List Command}
  (hmode : r.mode = .trap status)
  (htail : ∀ c ∈ tail, c.isUpdate = true ∧ c ≠ setFinalStatus .completed)
  (hrested : r.Completed → r.Rested)
include hmode htail hrested

/-- The next stop of the trap. -/
theorem trap_stop (hstops : ∀ c' ∈ c :: stops, c'.isStop = true)
    (hrunning : ∀ child, r.children child = .running → ∃ c' ∈ c :: stops, c'.target = some child)
    (hsignal : ∀ signal effect, answer = .signal signal effect →
      ∀ child, (r.interrupt c effect).children child ≠ .running)
    (hcontainer : ∀ status effect, answer = .fails status effect → c = stopStack .rtt →
      effect = false → r.children .rtt ≠ .running)
    (h : r.stepTrap c (stops ++ tail) answer = some r') : Keeping kpmEnabled r' := by
  obtain ⟨hstop, hstops⟩ := List.forall_mem_cons.mp hstops
  have hspawn : ∀ child, c ≠ spawn child := by
    rintro child rfl
    cases hstop
  have hfinal : c ≠ setFinalStatus .completed := by
    rintro rfl
    cases hstop
  have hleft (child : Child) (h : (r.perform c).children child = .running) :
      ∃ c' ∈ stops, c'.target = some child := by
    rw [perform_children, if_neg (hspawn child)] at h
    split_ifs at h with htarget
    · exact absurd h (ChildState.stop_ne_running _)
    · obtain ⟨c', hmem, htarget'⟩ := hrunning child h
      rcases List.mem_cons.mp hmem with rfl | hmem
      · exact absurd htarget' htarget
      · exact ⟨c', hmem, htarget'⟩
  cases answer with
  | ok =>
    simp only [Runner.stepTrap] at h
    split_ifs at h
    obtain rfl := Option.some.inj h
    have hrested' := (leaves_perform r c).left_rested hspawn hfinal hrested
    exact .trap status stops tail ((performChild_fields r c).1.trans hmode) rfl hstops htail hleft
      hrested'
  | fails status' effect =>
    simp only [Runner.stepTrap] at h
    split_ifs at h with _ htime
    · subst htime
      cases hstop
    · obtain rfl := Option.some.inj h
      have hrested' := (leaves_afterFailure r c effect).left_rested hspawn hfinal hrested
      exact .trap status stops tail ((afterFailure_mode r c effect).trans hmode) rfl hstops htail
        (fun child h => hleft child (running_afterFailure hstop (hcontainer status' effect rfl) h))
        hrested'
  | signal signal effect =>
    obtain rfl := Option.some.inj h
    have hrested' := (leaves_interrupt r c effect).left_rested hspawn hfinal hrested
    exact .ended signal.status rfl (hsignal signal effect rfl) hrested'

/-- The next update of the trap. -/
theorem trap_update (hupdate : c.isUpdate = true ∧ c ≠ setFinalStatus .completed)
    (hstopped : ∀ child, r.children child ≠ .running)
    (h : r.stepTrap c tail answer = some r') : Keeping kpmEnabled r' := by
  have hspawn : ∀ child, c ≠ spawn child := by
    rintro child rfl
    cases hupdate.1
  have hleft {left : Runner} (hleaves : Leaves c r left) (child : Child) :
      left.children child ≠ .running :=
    fun h => hstopped child (hleaves.running (hspawn child) h)
  have hnext {left : Runner} (hleaves : Leaves c r left) (hmode' : left.mode = r.mode) :
      Keeping kpmEnabled { left with rest := tail } := by
    have hrested' := hleaves.left_rested hspawn hupdate.2 hrested
    exact .trap status [] tail (hmode'.trans hmode) rfl (by simp) htail
      (fun child h => absurd h (hleft hleaves child)) hrested'
  cases answer with
  | ok =>
    simp only [Runner.stepTrap] at h
    split_ifs at h
    obtain rfl := Option.some.inj h
    exact hnext (leaves_perform r c) (performChild_fields r c).1
  | fails status' effect =>
    simp only [Runner.stepTrap] at h
    split_ifs at h
    · obtain rfl := Option.some.inj h
      exact .ended status' rfl hstopped hrested
    · obtain rfl := Option.some.inj h
      exact hnext (leaves_afterFailure r c effect) (afterFailure_mode r c effect)
  | signal signal effect =>
    obtain rfl := Option.some.inj h
    have hleaves := leaves_interrupt r c effect
    have hrested' := hleaves.left_rested hspawn hupdate.2 hrested
    have hstopped' := hleft hleaves
    exact .ended signal.status rfl hstopped' hrested'

end

theorem stepExit_keeping (hattended : r.Attended) (hrested : r.Completed → r.Rested)
    (h : r.stepExit status answer = some r') : Keeping kpmEnabled r' := by
  cases answer with
  | ok =>
    obtain rfl := Option.some.inj h
    exact keeping_enterTrap hattended hrested (by decide)
  | fails => cases h
  | signal signal effect =>
    obtain rfl := Option.some.inj h
    exact keeping_enterTrap hattended hrested (by decide)

theorem stepEnd_keeping (hstopped : ∀ child, r.children child ≠ .running)
    (hrested : r.Completed → r.Rested) (h : r.stepEnd status answer = some r') :
    Keeping kpmEnabled r' := by
  cases answer with
  | ok =>
    obtain rfl := Option.some.inj h
    exact .ended status rfl hstopped hrested
  | fails => cases h
  | signal signal effect =>
    obtain rfl := Option.some.inj h
    exact .ended signal.status rfl hstopped hrested

theorem step_keeping (hkeeping : Keeping kpmEnabled r) (hwatched : Watched r (.step answer))
    (h : r.step answer = some r') : Keeping kpmEnabled r' := by
  unfold Runner.step at h
  unfold Watched at hwatched
  cases hkeeping with
  | main done hmode hscript hkept hrested =>
    cases hrest : r.rest with
    | nil =>
      rw [hmode, hrest] at h
      rw [hrest, List.append_nil] at hscript
      subst hscript
      have hattended : r.Attended := by
        intro child hrunning
        have hspawned : spawn child ∈ script kpmEnabled := by
          by_contra hnot
          cases (hkept.unstarted child hnot).symm.trans hrunning
        exact absurd hrunning (hkept.settled (script_settled kpmEnabled child hspawned))
      exact stepExit_keeping hattended hrested h
    | cons c rest =>
      rw [hmode, hrest] at h hwatched
      rw [hrest] at hscript
      refine stepMain_keeping hmode hscript hkept hrested ?_ h
      rintro signal effect rfl
      exact hwatched
  | unready status hmode hrest hattended hrested =>
    cases hcommands : r.rest with
    | nil =>
      rw [hmode, hcommands] at h
      exact stepExit_keeping hattended hrested h
    | cons c rest =>
      rw [hmode, hcommands] at h
      rw [hcommands] at hrest
      obtain ⟨rfl, hrest'⟩ := List.forall_mem_cons.mp hrest
      exact unready_keeping hmode hrest' hattended hrested h
  | failing status started hmode hrest hrunning hrested =>
    rw [hmode, hrest] at h hwatched
    cases started with
    | nil => exact stepExit_keeping (fun child h => absurd (hrunning child h) List.not_mem_nil) hrested h
    | cons child started =>
      refine failing_keeping hmode hrunning hrested ?_ h
      rintro signal effect rfl
      exact hwatched
  | trap status stops tail hmode hrest hstops htail hrunning hrested =>
    rw [hmode, hrest] at h hwatched
    cases stops with
    | cons c stops =>
      refine trap_stop hmode htail hrested hstops hrunning ?_ ?_ h
      · rintro signal effect rfl
        exact hwatched
      · rintro status effect rfl
        exact hwatched
    | nil =>
      have hstopped : ∀ child, r.children child ≠ .running := by
        intro child h
        obtain ⟨c, hmem, -⟩ := hrunning child h
        cases hmem
      cases tail with
      | nil => exact stepEnd_keeping hstopped hrested h
      | cons c tail =>
        obtain ⟨hupdate, htail⟩ := List.forall_mem_cons.mp htail
        exact trap_update hmode htail hrested hupdate hstopped h
  | ended status hmode =>
    rw [hmode] at h
    cases h

/-- A process exits. -/
theorem exits_keeping (hkeeping : Keeping kpmEnabled r) (hstarted : r.children child ≠ .unstarted) :
    Keeping kpmEnabled (r.setChild child .exited) := by
  have hrunning (other : Child) (h : (r.setChild child .exited).children other = .running) :
      r.children other = .running := by
    by_cases hother : other = child
    · subst hother
      cases (Function.update_self ..).symm.trans h
    · exact (Function.update_of_ne hother ..).symm.trans h
  have hrested (hrested : r.Completed → r.Rested) (hcompleted : r.Completed) :
      (r.setChild child .exited).Rested := by
    intro other
    by_cases hother : other = child
    · subst hother
      exact .inr (Function.update_self ..)
    · have hsame : (r.setChild child .exited).children other = r.children other :=
        Function.update_of_ne hother ..
      rw [hsame]
      exact hrested hcompleted other
  cases hkeeping with
  | main done hmode hscript hkept hbefore =>
    refine .main done hmode hscript ⟨hkept.vars, hkept.manifest, ?_, ?_, ?_, hkept.checked⟩
      (hrested hbefore)
    · intro other hnot
      have hother : other ≠ child := by
        rintro rfl
        exact hstarted (hkept.unstarted other hnot)
      exact (Function.update_of_ne hother ..).trans (hkept.unstarted other hnot)
    · intro other h
      by_cases hother : other = child
      · subst hother
        cases (Function.update_self ..).symm.trans h
      · exact hkept.unsignalled other ((Function.update_of_ne hother ..).symm.trans h)
    · exact fun other hquiet h => hkept.quiet other hquiet (hrunning other h)
  | unready status hmode hrest hattended hbefore =>
    exact .unready status hmode hrest (fun other h => hattended other (hrunning other h))
      (hrested hbefore)
  | failing status started hmode hrest hmem hbefore =>
    exact .failing status started hmode hrest (fun other h => hmem other (hrunning other h))
      (hrested hbefore)
  | trap status stops tail hmode hrest hstops htail hmem hbefore =>
    exact .trap status stops tail hmode hrest hstops htail
      (fun other h => hmem other (hrunning other h)) (hrested hbefore)
  | ended status hmode hstopped hbefore =>
    exact .ended status hmode (fun other h => hstopped other (hrunning other h)) (hrested hbefore)

/-- In every run in which a signal never meets a process that the trap does not stop, a second signal
none that runs, and the trap reaches the container of RTT, no process is left alone. -/
theorem runner_released {tr : List Empty}
    (h : Machine.Run (Machine.restrict runnerMachine Watched) (Runner.start kpmEnabled) tr r) :
    Released r := by
  have hkeeping : Keeping kpmEnabled r := by
    refine h.invariant (I := fun _ r => Keeping kpmEnabled r) ?_ ?_
    · refine .main [] rfl rfl (Kept.start kpmEnabled) ?_
      rintro - child
      exact .inl rfl
    · intro tr r a r' es hkeeping hs
      obtain ⟨hwatched, hs⟩ := Machine.restrict_eq_some.mp hs
      cases a with
      | step answer =>
        obtain ⟨r'', hstep, hpair⟩ := Option.map_eq_some_iff.mp hs
        obtain rfl := (Prod.mk.inj hpair).1
        exact step_keeping hkeeping hwatched hstep
      | childExits child =>
        simp only [runnerMachine] at hs
        split_ifs at hs with hstarted
        obtain ⟨rfl, -⟩ := Prod.mk.inj (Option.some.inj hs)
        exact exits_keeping hkeeping hstarted
  exact hkeeping.released

end

/-! ### Interrupted runs -/

def sampleChildren (r : Runner) : List ChildState :=
  [.resource, .native, .rtt, .kpm, .traffic].map r.children

/-- INT comes while all five processes run. -/
theorem runner_released_sample : ∃ r,
    Machine.Run (Machine.restrict runnerMachine Watched) (Runner.start true) [] r ∧
    (r.mode, sampleChildren r) = (.ended 130, List.replicate 5 .exited) ∧ Released r := by
  have heval : (Machine.exec (fun r a => if decide (Watched r a) then runnerMachine r a else none)
      (Runner.start true) (oks 41 ++ [.step (.signal .int false)] ++ oks 9)).map
        (fun result => (result.2.mode, sampleChildren result.2)) =
      some (.ended 130, List.replicate 5 .exited) := by
    decide +kernel
  obtain ⟨⟨tr, r⟩, hexec, hend⟩ := Option.map_eq_some_iff.mp heval
  cases tr with
  | cons e => cases e
  | nil =>
    have hrun := Machine.run_restrict_of_exec (fun _ _ => of_decide_eq_true) hexec
    exact ⟨r, hrun, hend, runner_released hrun⟩

/-- TERM comes when the resource observer is started and the logger stack is not marked active. -/
theorem interrupted_start_leaves_observer : ¬ ∀ tr r,
    Machine.Run runnerMachine (Runner.start false) tr r → Released r := by
  intro h
  have heval : (Machine.exec runnerMachine (Runner.start false)
      (oks 17 ++ [.step (.signal .term false)] ++ oks 4)).map
        (fun result => (result.2.mode, result.2.children .resource)) =
      some (.ended 143, .running) := by
    decide +kernel
  obtain ⟨⟨tr, r⟩, hexec, hend⟩ := Option.map_eq_some_iff.mp heval
  obtain ⟨hmode, hrunning⟩ := Prod.mk.inj hend
  exact (h tr r (Machine.run_of_exec hexec)).stopped 143 hmode .resource hrunning

end TcdOran.Harness.RunnerScript
