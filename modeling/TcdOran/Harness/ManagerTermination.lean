import TcdOran.Lib.Machine

/-! The chain of terminations behind a failed launcher: `terminate_manager` signals the manager of
prompt12-persistent-prearmed-actuator-provider.py, which takes note of the signal where it next looks
and then terminates its child. The child has a session of its own, so no signal of the launcher
reaches it. -/
namespace TcdOran.Harness.ManagerTermination
open TcdOran.Lib

structure Setup where
  timeoutMs : ℕ
  pollMs : ℕ

/-! ### A termination -/

inductive Signal
  | term
  | kill
  deriving DecidableEq

/-- Where `terminate_manager` or `terminate_exact_process_group` is. -/
inductive Stop
  | polling
  | signalling
  | waiting (deadline : ℕ)
  | killing
  | waitingKilled (deadline : ℕ)
  | done
  deriving DecidableEq

def graceMs : ℕ := 2000

/-- The next step of a termination while the target runs or not, and what it sends. A wait goes on as
long as there is no answer. -/
def Stop.next (now : ℕ) (running : Bool) : Stop → Option (Stop × Option Signal)
  | .polling => some (if running then .signalling else .done, none)
  | .signalling => some (.waiting (now + graceMs), some .term)
  | .waiting deadline =>
      if running then if deadline ≤ now then some (.killing, none) else none
      else some (.done, none)
  | .killing => some (.waitingKilled (now + graceMs), some .kill)
  | .waitingKilled deadline =>
      if running then if deadline ≤ now then some (.done, none) else none
      else some (.done, none)
  | .done => none

/-- A termination is over when the target does not run or has been sent SIGKILL. -/
theorem Stop.done_of_next {now : ℕ} {running : Bool} {stop : Stop} {signal : Option Signal}
    (h : stop.next now running = some (.done, signal)) :
    signal = none ∧ (running = false ∨ ∃ deadline, stop = .waitingKilled deadline) := by
  cases running <;> cases stop <;> simp_all [Stop.next]

theorem Stop.killing_of_next {now : ℕ} {running : Bool} {stop stop' : Stop}
    (h : stop.next now running = some (stop', some .kill)) : stop = .killing := by
  cases running <;> cases stop <;> simp_all [Stop.next]

theorem Stop.next_waitingKilled {now deadline : ℕ} {running : Bool} {stop : Stop}
    {signal : Option Signal} (h : stop.next now running = some (.waitingKilled deadline, signal)) :
    stop = .killing ∧ signal = some .kill := by
  cases running <;> cases stop <;> simp_all [Stop.next]

/-! ### The three processes -/

inductive Child
  | absent
  | alive
  | dead
  deriving DecidableEq

/-- Where `run_provider` is. `stopping` says whether it saw a termination signal or failed of itself. -/
inductive Manager
  /-- Its signal handlers are not installed yet. -/
  | booting
  | preparing
  | identifying
  | checking
  | opening
  | timing
  | sleeping (wake : ℕ)
  | admitting
  | looking
  | dozing (wake : ℕ)
  | stopping (asked : Bool) (stop : Stop)
  | exited
  deriving DecidableEq

inductive Launcher
  | running
  | stopping (stop : Stop)
  deriving DecidableEq

/-- `flag` is `_termination_signal`, `deadline` that of the readiness loop. -/
structure State where
  now : ℕ
  launcher : Launcher
  flag : Bool
  deadline : ℕ
  manager : Manager
  child : Child
  deriving DecidableEq

def initial : State where
  now := 0
  launcher := .running
  flag := false
  deadline := 0
  manager := .booting
  child := .absent

/-- `fail` raises a `ProviderError` or an `OSError`, `uncaught` another exception, such as the
`UnicodeDecodeError` of a `/proc` text. -/
inductive ManagerStep
  | arm
  | startChild
  | fail
  | uncaught
  | identified
  | check
  | tryOpen (ready : Bool)
  | checkDeadline
  | wake
  | publish
  | look
  | stop
  deriving DecidableEq

inductive LauncherStep
  | fail
  | stop
  deriving DecidableEq

inductive Action
  | tick (ms : ℕ)
  | childExit
  | launcher (step : LauncherStep)
  | manager (step : ManagerStep)
  deriving DecidableEq

/-- The manager's handler only takes note of SIGTERM, and a sleep goes on behind it. -/
def State.signalManager (s : State) : Option Signal → State
  | none => s
  | some .term =>
      { s with flag := true, manager := if s.manager = .booting then .exited else s.manager }
  | some .kill => { s with manager := .exited }

/-- A child may ignore SIGTERM; whether it exits is its own step. -/
def State.signalChild (s : State) : Option Signal → State
  | some .kill => { s with child := .dead }
  | _ => s

def launcherStep (s : State) : LauncherStep → Option State
  | .fail =>
      match s.launcher with
      | .running => some { s with launcher := .stopping .polling }
      | .stopping _ => none
  | .stop =>
      match s.launcher with
      | .running => none
      | .stopping stop => do
          let (stop, signal) ← stop.next s.now (s.manager ≠ .exited)
          return { s with launcher := .stopping stop }.signalManager signal

/-- The handlers of `run_provider` terminate the child. -/
def raising (asked : Bool) : Manager := .stopping asked .polling

def managerStep (setup : Setup) (s : State) : ManagerStep → Option State
  | .arm => if s.manager = .booting then some { s with manager := .preparing } else none
  | .startChild =>
      if s.manager = .preparing then some { s with manager := .identifying, child := .alive }
      else none
  | .fail =>
      match s.manager with
      | .preparing | .identifying | .opening | .admitting =>
          some { s with manager := raising false }
      | _ => none
  | .uncaught =>
      match s.manager with
      | .booting | .exited => none
      | _ => some { s with manager := .exited }
  | .identified =>
      if s.manager = .identifying then
        some { s with manager := .checking, deadline := s.now + setup.timeoutMs }
      else none
  | .check =>
      if s.manager = .checking then
        some { s with manager :=
          if s.flag then raising true else if s.child = .alive then .opening else raising false }
      else none
  | .tryOpen ready =>
      if s.manager = .opening then
        some { s with manager := if ready then .admitting else .timing }
      else none
  | .checkDeadline =>
      if s.manager = .timing then
        some { s with manager :=
          if s.deadline ≤ s.now then raising false else .sleeping (s.now + setup.pollMs) }
      else none
  | .wake =>
      match s.manager with
      | .sleeping wake => if wake ≤ s.now then some { s with manager := .checking } else none
      | .dozing wake => if wake ≤ s.now then some { s with manager := .looking } else none
      | _ => none
  | .publish => if s.manager = .admitting then some { s with manager := .looking } else none
  | .look =>
      if s.manager = .looking then
        some { s with manager :=
          if s.child = .alive then if s.flag then raising true else .dozing (s.now + 50)
          else .exited }
      else none
  | .stop =>
      match s.manager with
      | .stopping asked stop => do
          let (stop, signal) ← stop.next s.now (s.child = .alive)
          let s' := s.signalChild signal
          return { s' with manager := if stop = .done then .exited else .stopping asked stop }
      | _ => none

def step (setup : Setup) (s : State) : Action → Option State
  | .tick ms => some { s with now := s.now + ms }
  | .childExit => if s.child = .alive then some { s with child := .dead } else none
  | .launcher step => launcherStep s step
  | .manager step => managerStep setup s step

def machine (setup : Setup) : Machine State Action Unit := fun s a =>
  (step setup s a).map fun s' => (s', [])

/-! ### No child is left -/

/-- The launcher's SIGKILL meets no manager whose child is alive, and the manager has no uncaught
exception while its child is. -/
def Orderly (s : State) (a : Action) : Prop :=
  (a = .launcher .stop → s.launcher = .stopping .killing → s.manager ≠ .exited →
    s.child ≠ .alive) ∧ (a = .manager .uncaught → s.child ≠ .alive)

instance (s : State) (a : Action) : Decidable (Orderly s a) := inferInstanceAs (Decidable (_ ∧ _))

/-- `terminate_manager` has returned, and the manager has exited. -/
structure Over (s : State) : Prop where
  returned : s.launcher = .stopping .done
  exited : s.manager = .exited

/-- What is known of the child where the manager is. -/
def ChildInv (s : State) : Manager → Prop
  | .booting | .preparing => s.child = .absent
  | .stopping _ (.waitingKilled _) | .exited => s.child ≠ .alive
  | _ => True

def Inv (s : State) : Prop := ChildInv s s.manager

section
variable {setup : Setup} {s s' : State}

theorem Inv.launcherStep (hinv : Inv s) {a : LauncherStep} (horderly : Orderly s (.launcher a))
    (h : launcherStep s a = some s') : Inv s' := by
  cases a with
  | fail =>
    simp only [ManagerTermination.launcherStep] at h
    split at h
    · cases h
      exact hinv
    · cases h
  | stop =>
    simp only [ManagerTermination.launcherStep] at h
    split at h
    · cases h
    · next stop hstopping =>
      simp only [Option.bind_eq_bind, Option.bind_eq_some_iff, Option.pure_def,
        Option.some.injEq] at h
      obtain ⟨⟨stop', signal⟩, hnext, rfl⟩ := h
      rcases signal with _ | _ | _
      · exact hinv
      · show ChildInv _ (if s.manager = .booting then .exited else s.manager)
        split
        · next hbooting =>
          have habsent : s.child = .absent := by
            have := hinv
            rwa [Inv, hbooting] at this
          show s.child ≠ .alive
          simp [habsent]
        · exact hinv
      · rw [Stop.killing_of_next hnext] at hstopping
        show s.child ≠ .alive
        by_cases hexited : s.manager = .exited
        · have := hinv
          rwa [Inv, hexited] at this
        · exact horderly.1 rfl hstopping hexited

theorem Inv.managerStep (hinv : Inv s) {a : ManagerStep} (horderly : Orderly s (.manager a))
    (h : managerStep setup s a = some s') : Inv s' := by
  cases a with
  | arm =>
    simp only [ManagerTermination.managerStep, Option.ite_none_right_eq_some, Option.some.injEq] at h
    obtain ⟨hbooting, rfl⟩ := h
    have := hinv
    rwa [Inv, hbooting] at this
  | startChild | identified | publish =>
    simp only [ManagerTermination.managerStep, Option.ite_none_right_eq_some, Option.some.injEq] at h
    obtain ⟨-, rfl⟩ := h
    trivial
  | tryOpen ready | checkDeadline =>
    simp only [ManagerTermination.managerStep, Option.ite_none_right_eq_some, Option.some.injEq] at h
    obtain ⟨-, rfl⟩ := h
    simp only [Inv]
    split_ifs <;> trivial
  | fail =>
    simp only [ManagerTermination.managerStep] at h
    split at h <;> cases h <;> trivial
  | uncaught =>
    simp only [ManagerTermination.managerStep] at h
    split at h <;> cases h
    exact horderly.2 rfl
  | check =>
    simp only [ManagerTermination.managerStep, Option.ite_none_right_eq_some, Option.some.injEq] at h
    obtain ⟨-, rfl⟩ := h
    simp only [Inv]
    split_ifs <;> trivial
  | wake =>
    simp only [ManagerTermination.managerStep] at h
    split at h
    · simp only [Option.ite_none_right_eq_some, Option.some.injEq] at h
      obtain ⟨-, rfl⟩ := h
      trivial
    · simp only [Option.ite_none_right_eq_some, Option.some.injEq] at h
      obtain ⟨-, rfl⟩ := h
      trivial
    · cases h
  | look =>
    simp only [ManagerTermination.managerStep, Option.ite_none_right_eq_some, Option.some.injEq] at h
    obtain ⟨-, rfl⟩ := h
    simp only [Inv]
    split_ifs with halive
    · trivial
    · trivial
    · exact halive
  | stop =>
    simp only [ManagerTermination.managerStep] at h
    split at h
    · next asked stop hstopping =>
      simp only [Option.bind_eq_bind, Option.bind_eq_some_iff, Option.pure_def,
        Option.some.injEq] at h
      obtain ⟨⟨stop', signal⟩, hnext, rfl⟩ := h
      simp only [Inv]
      split_ifs with hdone
      · obtain ⟨rfl, hrunning | ⟨deadline, rfl⟩⟩ := Stop.done_of_next (hdone ▸ hnext)
        · exact of_decide_eq_false hrunning
        · have := hinv
          rwa [Inv, hstopping] at this
      · cases stop' with
        | waitingKilled deadline =>
          obtain ⟨-, rfl⟩ := Stop.next_waitingKilled hnext
          show Child.dead ≠ .alive
          decide
        | _ => trivial
    · cases h

theorem Inv.step (hinv : Inv s) {a : Action} (horderly : Orderly s a)
    (h : step setup s a = some s') : Inv s' := by
  cases a with
  | tick ms =>
    cases h
    exact hinv
  | childExit =>
    simp only [ManagerTermination.step, Option.ite_none_right_eq_some, Option.some.injEq] at h
    obtain ⟨halive, rfl⟩ := h
    have hdead : Child.dead ≠ .alive := by decide
    unfold Inv ChildInv at hinv ⊢
    split at hinv <;> simp_all
  | launcher a => exact hinv.launcherStep horderly h
  | manager a => exact hinv.managerStep horderly h

end

/-- After an orderly run that is over no child is alive. -/
theorem no_child_left (setup : Setup) {tr : List Unit} {s : State}
    (h : Machine.Run (Machine.restrict (machine setup) Orderly) initial tr s) (hover : Over s) :
    s.child ≠ .alive := by
  have hinv : Inv s := by
    have hinitial : Inv initial := rfl
    refine h.invariant (I := fun _ s => Inv s) hinitial ?_
    intro _ s a s' es hinv hs
    obtain ⟨horderly, hs⟩ := Machine.restrict_eq_some.mp hs
    obtain ⟨s₁, hs₁, heq⟩ := Option.map_eq_some_iff.mp hs
    obtain ⟨rfl, -⟩ := Prod.mk.inj heq
    exact hinv.step horderly hs₁
  rwa [Inv, hover.exited] at hinv

/-! ### Which wait ends first -/

/-- `terminate_manager` has sent nothing yet. -/
def Unsignalled : Launcher → Prop
  | .running | .stopping .polling | .stopping .signalling => True
  | _ => False

/-- The manager sees only a signal that has been sent, and the wait of the launcher began before that
of a manager which has seen it. -/
structure DueInv (s : State) : Prop where
  unsignalled : Unsignalled s.launcher → s.flag = false
  asked : ∀ stop, s.manager = .stopping true stop → s.flag = true
  current : ∀ deadline, s.launcher = .stopping (.waiting deadline) → deadline ≤ s.now + graceMs
  due : ∀ deadline later, s.launcher = .stopping (.waiting deadline) →
    s.manager = .stopping true (.waiting later) → deadline ≤ later

@[simp] theorem State.signalManager_launcher (s : State) (signal : Option Signal) :
    (s.signalManager signal).launcher = s.launcher := by
  rcases signal with _ | _ | _ <;> rfl

@[simp] theorem State.signalManager_now (s : State) (signal : Option Signal) :
    (s.signalManager signal).now = s.now := by
  rcases signal with _ | _ | _ <;> rfl

@[simp] theorem State.signalChild_manager (s : State) (signal : Option Signal) :
    (s.signalChild signal).manager = s.manager := by
  rcases signal with _ | _ | _ <;> rfl

theorem Stop.next_waiting {now deadline : ℕ} {running : Bool} {stop : Stop}
    {signal : Option Signal} (h : stop.next now running = some (.waiting deadline, signal)) :
    stop = .signalling ∧ deadline = now + graceMs := by
  cases running <;> cases stop <;> simp_all [Stop.next]

theorem Stop.next_unsignalled {now : ℕ} {running : Bool} {stop stop' : Stop}
    {signal : Option Signal} (h : stop.next now running = some (stop', signal))
    (hstop : Unsignalled (.stopping stop')) : Unsignalled (.stopping stop) ∧ signal = none := by
  cases stop with
  | polling =>
    cases h
    exact ⟨trivial, rfl⟩
  | signalling | killing =>
    cases h
    exact hstop.elim
  | waiting deadline | waitingKilled deadline =>
    simp only [Stop.next] at h
    split_ifs at h <;> cases h <;> exact hstop.elim
  | done => cases h

section
variable {setup : Setup} {s s' : State}

theorem DueInv.launcherStep (hinv : DueInv s) {a : LauncherStep} (h : launcherStep s a = some s') :
    DueInv s' := by
  cases a with
  | fail =>
    simp only [ManagerTermination.launcherStep] at h
    split at h
    · next hrunning =>
      cases h
      have hflag := hinv.unsignalled (by rw [hrunning]; trivial)
      exact ⟨fun _ => hflag, hinv.asked, by simp, by simp⟩
    · cases h
  | stop =>
    simp only [ManagerTermination.launcherStep] at h
    split at h
    · cases h
    · next stop hstopping =>
      simp only [Option.bind_eq_bind, Option.bind_eq_some_iff, Option.pure_def,
        Option.some.injEq] at h
      obtain ⟨⟨stop', signal⟩, hnext, rfl⟩ := h
      refine ⟨fun hunsignalled => ?_, fun asked hasked => ?_, fun deadline hwaiting => ?_,
        fun deadline later hwaiting hlater => ?_⟩
      · rw [State.signalManager_launcher] at hunsignalled
        obtain ⟨hbefore, rfl⟩ := Stop.next_unsignalled hnext hunsignalled
        exact hinv.unsignalled (hstopping ▸ hbefore)
      · rcases signal with _ | _ | _
        · exact hinv.asked asked hasked
        · rfl
        · cases hasked
      · rw [State.signalManager_launcher] at hwaiting
        cases hwaiting
        obtain ⟨-, rfl⟩ := Stop.next_waiting hnext
        simp
      · rw [State.signalManager_launcher] at hwaiting
        cases hwaiting
        obtain ⟨rfl, -⟩ := Stop.next_waiting hnext
        cases hnext
        -- the flag is raised now, so nobody has seen it
        have hflag := hinv.unsignalled (hstopping ▸ trivial)
        simp only [State.signalManager] at hlater
        split at hlater
        · cases hlater
        · simp [hinv.asked _ hlater] at hflag

/-- What a step of the manager leaves, and how it comes to wait for its child. -/
structure ManagerMoves (s s' : State) : Prop where
  now : s'.now = s.now
  launcher : s'.launcher = s.launcher
  flag : s'.flag = s.flag
  asked : ∀ stop, s'.manager = .stopping true stop →
    s.flag = true ∨ ∃ before, s.manager = .stopping true before
  waiting : ∀ later, s'.manager = .stopping true (.waiting later) → later = s.now + graceMs

theorem managerMoves (a : ManagerStep) (h : managerStep setup s a = some s') : ManagerMoves s s' := by
  cases a with
  | arm | startChild | identified | publish =>
    simp only [managerStep, Option.ite_none_right_eq_some, Option.some.injEq] at h
    obtain ⟨-, rfl⟩ := h
    exact ⟨rfl, rfl, rfl, by simp, by simp⟩
  | tryOpen ready | checkDeadline =>
    simp only [managerStep, Option.ite_none_right_eq_some, Option.some.injEq] at h
    obtain ⟨-, rfl⟩ := h
    refine ⟨rfl, rfl, rfl, ?_, ?_⟩ <;> simp only [raising] <;> split_ifs <;> simp
  | fail | uncaught =>
    simp only [managerStep] at h
    split at h <;> cases h <;> exact ⟨rfl, rfl, rfl, by simp [raising], by simp [raising]⟩
  | check | look =>
    simp only [managerStep, Option.ite_none_right_eq_some, Option.some.injEq] at h
    obtain ⟨-, rfl⟩ := h
    refine ⟨rfl, rfl, rfl, ?_, ?_⟩ <;> simp only [raising] <;> split_ifs <;> simp_all
  | wake =>
    simp only [managerStep] at h
    split at h
    · simp only [Option.ite_none_right_eq_some, Option.some.injEq] at h
      obtain ⟨-, rfl⟩ := h
      exact ⟨rfl, rfl, rfl, by simp, by simp⟩
    · simp only [Option.ite_none_right_eq_some, Option.some.injEq] at h
      obtain ⟨-, rfl⟩ := h
      exact ⟨rfl, rfl, rfl, by simp, by simp⟩
    · cases h
  | stop =>
    simp only [managerStep] at h
    split at h
    · next asked stop hstopping =>
      simp only [Option.bind_eq_bind, Option.bind_eq_some_iff, Option.pure_def,
        Option.some.injEq] at h
      obtain ⟨⟨stop', signal⟩, hnext, rfl⟩ := h
      have hsame : (s.signalChild signal).now = s.now ∧
          (s.signalChild signal).launcher = s.launcher ∧ (s.signalChild signal).flag = s.flag := by
        rcases signal with _ | _ | _ <;> exact ⟨rfl, rfl, rfl⟩
      refine ⟨hsame.1, hsame.2.1, hsame.2.2, fun now hnow => ?_, fun later hlater => ?_⟩
      · split_ifs at hnow
        cases hnow
        exact .inr ⟨stop, hstopping⟩
      · split_ifs at hlater
        cases hlater
        exact (Stop.next_waiting hnext).2
    · cases h

theorem DueInv.managerStep (hinv : DueInv s) (hmoves : ManagerMoves s s') : DueInv s' where
  unsignalled hunsignalled := by
    rw [hmoves.flag]
    exact hinv.unsignalled (hmoves.launcher ▸ hunsignalled)
  asked stop hasked := by
    rw [hmoves.flag]
    rcases hmoves.asked stop hasked with hflag | ⟨before, hbefore⟩
    · exact hflag
    · exact hinv.asked before hbefore
  current deadline hwaiting := by
    rw [hmoves.now]
    exact hinv.current deadline (hmoves.launcher ▸ hwaiting)
  due deadline later hwaiting hlater := by
    rw [hmoves.waiting later hlater]
    exact hinv.current deadline (hmoves.launcher ▸ hwaiting)

theorem DueInv.step (hinv : DueInv s) {a : Action} (h : step setup s a = some s') : DueInv s' := by
  cases a with
  | tick ms =>
    cases h
    refine ⟨hinv.unsignalled, hinv.asked, fun deadline hwaiting => ?_, hinv.due⟩
    have hcurrent := hinv.current deadline hwaiting
    simp only
    omega
  | childExit =>
    simp only [ManagerTermination.step, Option.ite_none_right_eq_some, Option.some.injEq] at h
    obtain ⟨-, rfl⟩ := h
    exact ⟨hinv.unsignalled, hinv.asked, hinv.current, hinv.due⟩
  | launcher a => exact hinv.launcherStep h
  | manager a => exact hinv.managerStep (managerMoves a h)

end

/-- The launcher may escalate no later than a manager that waits for its child because of the
launcher's signal. -/
theorem launcher_due_first (setup : Setup) {tr : List Unit} {s : State}
    (h : Machine.Run (machine setup) initial tr s) {deadline later : ℕ}
    (hlauncher : s.launcher = .stopping (.waiting deadline))
    (hmanager : s.manager = .stopping true (.waiting later)) : deadline ≤ later := by
  have hinv : DueInv s := by
    have hinitial : DueInv initial := ⟨fun _ => rfl, by simp [initial], by simp [initial],
      by simp [initial]⟩
    refine h.invariant (I := fun _ s => DueInv s) hinitial ?_
    intro _ s a s' es hinv hs
    obtain ⟨s₁, hs₁, heq⟩ := Option.map_eq_some_iff.mp hs
    obtain ⟨rfl, -⟩ := Prod.mk.inj heq
    exact hinv.step hs₁
  exact hinv.due deadline later hlauncher hmanager

/-! ### Two children that are left and one that is not -/

def setups (pollMs : ℕ) : Setup := ⟨20000, pollMs⟩

/-- The manager starts its child, which is not ready yet, and sleeps. -/
def untilAsleep : List Action :=
  [.manager .arm, .manager .startChild, .manager .identified, .manager .check,
    .manager (.tryOpen false), .manager .checkDeadline, .launcher .fail, .launcher .stop,
    .launcher .stop]

/-- The manager sleeps longer than the launcher waits. -/
def longSleep : List Action :=
  untilAsleep ++ [.tick 2000, .launcher .stop, .launcher .stop, .launcher .stop]

/-- The manager sees the signal after 50 ms, but its child ignores SIGTERM. -/
def stubbornChild : List Action :=
  untilAsleep ++ [.tick 50, .manager .wake, .manager .check, .manager .stop, .manager .stop,
    .tick 1950, .launcher .stop, .launcher .stop, .launcher .stop]

/-- The child exits on SIGTERM. -/
def promptChild : List Action :=
  untilAsleep ++ [.tick 50, .manager .wake, .manager .check, .manager .stop, .manager .stop,
    .childExit, .manager .stop, .launcher .stop]

def overAt (now deadline : ℕ) (child : Child) : State where
  now
  launcher := .stopping .done
  flag := true
  deadline
  manager := .exited
  child

/-- With a poll interval of 3 s the launcher's SIGKILL finds the manager asleep, and with one of 50 ms
it finds it waiting for a child that ignores SIGTERM. -/
theorem children_left :
    Machine.exec (machine (setups 3000)) initial longSleep = some ([], overAt 2000 20000 .alive) ∧
      Machine.exec (machine (setups 50)) initial stubbornChild =
        some ([], overAt 2000 20000 .alive) :=
  ⟨rfl, rfl⟩

theorem run_promptChild :
    Machine.Run (Machine.restrict (machine (setups 50)) Orderly) initial []
      (overAt 50 20000 .dead) := by
  have hexec : Machine.exec
      (fun s a => if decide (Orderly s a) then machine (setups 50) s a else none) initial
      promptChild = some ([], overAt 50 20000 .dead) := by decide
  exact Machine.run_restrict_of_exec (fun _ _ => of_decide_eq_true) hexec

theorem no_child_left_sample : Over (overAt 50 20000 .dead) ∧ (overAt 50 20000 .dead).child ≠ .alive :=
  have hover : Over (overAt 50 20000 .dead) := ⟨rfl, rfl⟩
  ⟨hover, no_child_left (setups 50) run_promptChild hover⟩

end TcdOran.Harness.ManagerTermination
