import TcdOran.Harness.SupervisorAccounting
import TcdOran.Harness.SupervisorTiming

/-! prompt12-six-transition-orchestrator.py: the dry run that plans the transitions from their gates,
and the live run of the supervisor as its refinement. -/
namespace TcdOran.Harness.Orchestration
open TcdOran.Lib Python Attempt

inductive Gate
  | pass | fail
  deriving DecidableEq

structure Transition where
  transitionLabel : String
  fromRatioPct : ℕ
  toRatioPct : ℕ
  fromPrbs : ℕ
  toPrbs : ℕ
  deriving DecidableEq

/-- `EXPECTED_TRANSITIONS`, which the plan of the schema has to equal. -/
def expectedTransitions : Vector Transition 6 := #v[
  ⟨"T1", 25, 50, 13, 26⟩, ⟨"T2", 50, 75, 26, 39⟩, ⟨"T3", 75, 100, 39, 52⟩,
  ⟨"T4", 100, 75, 52, 39⟩, ⟨"T5", 75, 50, 39, 26⟩, ⟨"T6", 50, 25, 26, 13⟩]

/-- The result of `make_control_plan`, its constants aside. -/
structure ControlPlan extends Transition where
  controlIndex : ℕ
  admissionSource : String
  admissionGate : Gate
  deriving DecidableEq

inductive SequenceGate
  | pass | blocked
  deriving DecidableEq

/-- The result of `evaluate_sequence`. -/
structure SequenceResult where
  sequenceGate : SequenceGate
  sequenceComplete : Bool
  admittedControlCount : ℕ
  blockedBeforeControl : Option String
  blockedCompletionPoint : Option String
  blockingGateSource : Option String
  blockingGateValue : Option Gate
  controls : List ControlPlan
  deriving DecidableEq

section
variable (transitionPlan : Vector Transition 6) (initialGate : Gate) (postGates : Vector Gate 6)

def admissionSource (index : Fin 6) : String :=
  if index = 0 then "initial_pre_step_stationarity"
  else "post_" ++ transitionPlan[index - 1].transitionLabel ++ "_stationarity"

def admissionGate (index : Fin 6) : Gate :=
  if index = 0 then initialGate else postGates[index - 1]

/-- The result in front of a control whose gate has not passed. -/
def blockedBefore (admitted : List ControlPlan) (index : Fin 6) : SequenceResult where
  sequenceGate := .blocked
  sequenceComplete := false
  admittedControlCount := admitted.length
  blockedBeforeControl := some transitionPlan[index].transitionLabel
  blockedCompletionPoint := none
  blockingGateSource := some (admissionSource transitionPlan index)
  blockingGateValue := some (admissionGate initialGate postGates index)
  controls := admitted

/-- One pass of the loop. A result in the place of an error is returned at once. -/
def admitControl (admitted : List ControlPlan) (index : Fin 6) :
    Except SequenceResult (List ControlPlan) :=
  if admissionGate initialGate postGates index ≠ .pass then
    .error (blockedBefore transitionPlan initialGate postGates admitted index)
  else .ok (admitted ++ [⟨transitionPlan[index], index + 1, admissionSource transitionPlan index,
    admissionGate initialGate postGates index⟩])

def evaluateSequence : SequenceResult :=
  match (List.finRange 6).foldlM (admitControl transitionPlan initialGate postGates) [] with
  | .error result => result
  | .ok admitted =>
      if postGates[5] ≠ .pass then {
        sequenceGate := .blocked
        sequenceComplete := false
        admittedControlCount := 6
        blockedBeforeControl := none
        blockedCompletionPoint := some "POST_T6_COMPLETION"
        blockingGateSource := some "post_T6_stationarity"
        blockingGateValue := some postGates[5]
        controls := admitted }
      else {
        sequenceGate := .pass
        sequenceComplete := true
        admittedControlCount := 6
        blockedBeforeControl := none
        blockedCompletionPoint := none
        blockingGateSource := none
        blockingGateValue := none
        controls := admitted }

end

/-- The dry run with the gates of the phases: 0 is in front of T1, `k` behind T`k`. -/
def dryRun (gate : ℕ → Gate) : SequenceResult :=
  evaluateSequence expectedTransitions (gate 0) (Vector.ofFn fun i => gate (i + 1))

/-- The control indices of a result. -/
def SequenceResult.admitted (result : SequenceResult) : List ℕ := result.controls.map (·.controlIndex)

section
variable {transitionPlan : Vector Transition 6} {initialGate : Gate} {postGates : Vector Gate 6}

/-- The control of a transition whose gate has passed. -/
def admittedControl (transitionPlan : Vector Transition 6) (index : Fin 6) : ControlPlan :=
  ⟨transitionPlan[index], index + 1, admissionSource transitionPlan index, .pass⟩

theorem admitControl_pass {admitted : List ControlPlan} {index : Fin 6}
    (h : admissionGate initialGate postGates index = .pass) :
    admitControl transitionPlan initialGate postGates admitted index =
      .ok (admitted ++ [admittedControl transitionPlan index]) := by
  unfold admitControl
  simp only [h]
  rfl

/-- The loop stops in front of the first transition whose gate has not passed. -/
theorem admitControls_end (indices : List (Fin 6)) (admitted : List ControlPlan) :
    (∀ i ∈ indices, admissionGate initialGate postGates i = .pass) ∧
      indices.foldlM (admitControl transitionPlan initialGate postGates) admitted =
        .ok (admitted ++ indices.map (admittedControl transitionPlan)) ∨
    ∃ before i after result, indices = before ++ i :: after ∧
      (∀ j ∈ before, admissionGate initialGate postGates j = .pass) ∧
      admissionGate initialGate postGates i ≠ .pass ∧
      indices.foldlM (admitControl transitionPlan initialGate postGates) admitted = .error result ∧
      result.sequenceComplete = false ∧
      result.controls = admitted ++ before.map (admittedControl transitionPlan) := by
  induction indices generalizing admitted with
  | nil => exact .inl ⟨by simp, by simp [pure, Except.pure]⟩
  | cons index indices ih =>
    by_cases hgate : admissionGate initialGate postGates index = .pass
    · rw [List.foldlM_cons, admitControl_pass hgate, ok_bind]
      rcases ih (admitted ++ [admittedControl transitionPlan index]) with
        ⟨hall, hrun⟩ | ⟨before, i, after, result, hsplit, hbefore, hi, hrun, hcomplete, hcontrols⟩
      · refine .inl ⟨List.forall_mem_cons.mpr ⟨hgate, hall⟩, ?_⟩
        rw [hrun, List.append_assoc]
        rfl
      · refine .inr ⟨index :: before, i, after, result, by rw [hsplit]; rfl,
          List.forall_mem_cons.mpr ⟨hgate, hbefore⟩, hi, hrun, hcomplete, ?_⟩
        rw [hcontrols, List.append_assoc]
        rfl
    · refine .inr ⟨[], index, indices, blockedBefore transitionPlan initialGate postGates admitted index,
        rfl, by simp, hgate, ?_, rfl, (List.append_nil _).symm⟩
      rw [List.foldlM_cons, admitControl, if_pos hgate]
      rfl

end

theorem dryRun_gate (gate : ℕ → Gate) (i : Fin 6) :
    admissionGate (gate 0) (Vector.ofFn fun i => gate (i + 1)) i = gate i := by
  fin_cases i <;> rfl

/-- The indices in front of one of `List.finRange` are those below it. -/
theorem finRange_split {n : ℕ} {before after : List (Fin n)} {i : Fin n}
    (h : List.finRange n = before ++ i :: after) :
    before.map Fin.val = List.range i := by
  have hvalues : List.range n = before.map Fin.val ++ (i : ℕ) :: after.map Fin.val := by
    rw [← List.map_coe_finRange_eq_range, h, List.map_append, List.map_cons]
  have hlength := congrArg List.length hvalues
  rw [List.length_range, List.length_append, List.length_map, List.length_cons] at hlength
  have hbound : before.length = i := by
    have hget := congrArg (fun values => values[before.length]?) hvalues
    rw [List.getElem?_range (by omega), List.getElem?_append_right (by rw [List.length_map]),
      List.length_map, Nat.sub_self] at hget
    exact Option.some.inj hget
  have htake := congrArg (List.take before.length) hvalues
  rw [List.take_range, List.take_left' (by rw [List.length_map]), min_eq_left (by omega)] at htake
  rw [← htake, hbound]

/-- The dry run admits the controls up to the first phase whose gate has not passed. -/
theorem dryRun_admitted (gate : ℕ → Gate) : ∃ m ≤ 6, (dryRun gate).admitted = List.range' 1 m ∧
    (∀ j < m, gate j = .pass) ∧ (m < 6 → gate m ≠ .pass) ∧
    ((dryRun gate).sequenceComplete = true ↔ m = 6 ∧ gate 6 = .pass) := by
  have hend := @admitControls_end expectedTransitions (gate 0) (Vector.ofFn fun i => gate (i + 1))
    (List.finRange 6) []
  simp only [dryRun_gate, List.nil_append] at hend
  unfold dryRun evaluateSequence SequenceResult.admitted
  rcases hend with ⟨hall, hrun⟩ | ⟨before, i, after, result, hsplit, hbefore, hi, hrun, hcomplete, hcontrols⟩
  · have hpass (j : ℕ) (hj : j < 6) : gate j = .pass := hall ⟨j, hj⟩ (List.mem_finRange _)
    rw [hrun]
    refine ⟨6, Nat.le_refl 6, ?_, hpass, fun h => absurd h (Nat.lt_irrefl 6), ?_⟩
    · by_cases hlast : gate 6 = .pass <;> simp [hlast] <;> rfl
    · by_cases hlast : gate 6 = .pass <;> simp [hlast]
  · have hvalues := finRange_split hsplit
    rw [hrun]
    refine ⟨i, i.isLt.le, ?_, fun j hj => ?_, fun _ => hi, ?_⟩
    · show result.controls.map (·.controlIndex) = _
      rw [hcontrols, List.map_map, List.range'_eq_map_range, ← hvalues, List.map_map]
      exact List.map_congr_left fun k _ => Nat.add_comm _ _
    · obtain ⟨k, hk, rfl⟩ := List.mem_map.mp (hvalues ▸ List.mem_range.mpr hj)
      exact hbefore k hk
    · rw [hcomplete]
      refine iff_of_false Bool.false_ne_true fun h => ?_
      omega

/-! ### The live run -/

def triggerStart? : SupervisorEvent → Option ℕ
  | .started (.trigger k) => some k
  | _ => none

/-- The triggers that a run has started, in their order. -/
def triggerStarts (events : List SupervisorEvent) : List ℕ := events.filterMap triggerStart?

section
variable (o : Surroundings)

/-- The stationarity gate of a phase passes. -/
def PhasePasses (phase : ℕ) : Prop := GatePasses o phase (phaseRole phase)

/-- Nothing but the gates stands in the way of a live run. -/
structure Undisturbed (plan : Json) (authorizationToken : Option String) : Prop where
  enable : o.enable = some "YES"
  token : authorizationToken = some liveToken
  trafficStarts : TrafficStarts o
  trafficRuns : ∀ k, o.trafficRuns k = true
  binds : ∀ transition ∈ planTransitions plan, ∃ argv,
    item transition "ratio_bind_command" = .ok argv ∧ popenAccepts argv = true
  bound : ∀ k, 1 ≤ k → k ≤ 6 → RatioBound o k
  triggers : ∀ k, 1 ≤ k → k ≤ 6 → InTime o (.trigger k) ∧ Succeeds o (.trigger k)
  finalization : InTime o .finalization ∧ Succeeds o .finalization

/-- The first `n` triggers have been started, each behind the gates in front of it. -/
def Reached (n : ℕ) (s : SupervisorState) : Prop :=
  triggerStarts s.events = List.range' 1 n ∧ ∀ j < n, PhasePasses o j

/-- The run ends. Where nothing else stands in the way, the gate of its phase has not passed. -/
def Stopped (undisturbed : Prop) (s : SupervisorState) : Prop :=
  ∃ n ≤ 6, Reached o n s ∧ (undisturbed → ¬ PhasePasses o n)

/-- The gate of phase `n` has passed, and trigger `n + 1` is next. -/
def Admitted (n : ℕ) (s : SupervisorState) : Prop := Reached o n s ∧ PhasePasses o n

end

section
variable {o : Surroundings} {undisturbed : Prop} {n : ℕ} {s : SupervisorState}

theorem triggerStarts_append (events es : List SupervisorEvent) :
    triggerStarts (events ++ es) = triggerStarts events ++ triggerStarts es :=
  List.filterMap_append

theorem triggerStarts_quiet {es : List SupervisorEvent} (h : Quiet es) : triggerStarts es = [] := by
  refine List.filterMap_eq_nil_iff.mpr fun e he => ?_
  obtain ⟨hstart, -⟩ := h e he
  cases e with
  | started command =>
    cases command with
    | trigger => cases hstart
    | _ => rfl
  | _ => rfl

theorem Reached.emit (h : Reached o n s) {es : List SupervisorEvent} (hes : Quiet es) :
    Reached o n (s.emit es) := by
  refine ⟨?_, h.2⟩
  show triggerStarts (s.events ++ es) = _
  rw [triggerStarts_append, triggerStarts_quiet hes, List.append_nil, h.1]

theorem Reached.same {s' : SupervisorState} (h : Reached o n s) (hevents : s'.events = s.events) :
    Reached o n s' := by
  unfold Reached
  rw [hevents]
  exact h

/-- A disturbance may end the run anywhere. -/
theorem stopped_disturbed (hn : n ≤ 6) (h : Reached o n s) (hnot : ¬ undisturbed) :
    Stopped o undisturbed s := ⟨n, hn, h, fun hu => absurd hu hnot⟩

/-- A gate that passes is handled. -/
theorem gateHandled_of_passes {phase : ℕ} {role : PhaseRole} (h : GatePasses o phase role) :
    GateHandled o phase role := by
  obtain ⟨n, hn, hextends, hobserves, hpasses⟩ := h
  have hstop : ¬ (Observes o phase role n ∧ EvaluationFails o phase n) := fun hfails =>
    not_passes_of_fails hfails.2 hpasses
  obtain ⟨gate, hgate, -⟩ := hpasses
  exact (gateHandled_iff hn hextends hstop).mpr fun _ => handled_of_evaluates hgate

theorem follows_gate {argv : Json} (haccepts : popenAccepts argv = true) (hn : n ≤ 6) :
    Triple (Reached o n) (stationarityGate o argv n (phaseRole n)) (fun _ => Admitted o n)
      (fun _ => Stopped o undisturbed) := by
  intro s hs
  obtain ⟨r, es, hr, hes, hend⟩ := @stationarityGate_end o n (phaseRole n) argv haccepts s
  have hreached := hs.emit (quiet_gate hes)
  rw [hr]
  match r with
  | .ok _ => exact ⟨hreached, hend.2.1⟩
  | .error (.supervisor _ _) => exact ⟨n, hn, hreached, fun _ => hend.2⟩
  | .error (.uncaught _) =>
    exact ⟨n, hn, hreached, fun _ h => hend (gateHandled_of_passes h)⟩

/-- A command that is not a trigger: where it does not succeed, the run is disturbed. -/
theorem follows_command {command : SupervisorCommand} {argv : Json} {reason : List ℕ}
    (hcommand : ∀ k, command ≠ .trigger k) (hn : n ≤ 6)
    (h : undisturbed → popenAccepts argv = true ∧ InTime o command ∧ Succeeds o command) :
    Triple (Admitted o n) (runCommand o command argv reason)
      (fun stdout s => Admitted o n s ∧ o.outcome command = .exited 0 (some stdout))
      (fun _ => Stopped o undisturbed) := by
  intro s hs
  have hend := runCommand_end (o := o) (s := s) command argv reason
  generalize outcome (runCommand o command argv reason) s = end' at hend ⊢
  have hquiet {es : List SupervisorEvent} (h : Attempted command es) : Reached o n (s.emit es) :=
    hs.1.emit (quiet_attempted h hcommand)
  cases hend with
  | late reason rc hlate => exact stopped_disturbed hn hs.1 fun hu => hlate (h hu).2.1
  | broken exception es htime hnot hes =>
    refine stopped_disturbed hn (hquiet hes) fun hu => ?_
    obtain ⟨haccepts, -, stdout, hexit⟩ := h hu
    exact hnot haccepts (by simp [hexit, CommandOutcome.Handled])
  | timedOut reason rc htime _ hexit =>
    refine stopped_disturbed hn (hquiet (.inr (.inl rfl))) fun hu => ?_
    obtain ⟨-, -, stdout, hsucceeds⟩ := h hu
    rw [hexit] at hsucceeds
    cases hsucceeds
  | refused reason rc returncode stdout htime _ hrc hexit =>
    refine stopped_disturbed hn (hquiet (.inr (.inr ⟨returncode, some stdout, rfl⟩))) fun hu => ?_
    obtain ⟨-, -, stdout', hsucceeds⟩ := h hu
    rw [hexit] at hsucceeds
    exact hrc (CommandOutcome.exited.inj hsucceeds).1
  | done stdout htime _ hexit =>
    exact ⟨⟨hquiet (.inr (.inr ⟨0, some stdout, rfl⟩)), hs.2⟩, hexit⟩

theorem Admitted.same {s' : SupervisorState} (h : Admitted o n s) (hevents : s'.events = s.events) :
    Admitted o n s' := ⟨h.1.same hevents, h.2⟩

/-- A trigger behind its gate. -/
theorem Admitted.started (h : Admitted o n s) {es : List SupervisorEvent}
    (hes : triggerStarts es = [n + 1]) : Reached o (n + 1) (s.emit es) := by
  refine ⟨?_, fun j hj => ?_⟩
  · show triggerStarts (s.events ++ es) = _
    rw [triggerStarts_append, h.1.1, hes, List.range'_concat, Nat.one_mul, Nat.add_comm]
  · rcases Nat.lt_succ_iff_lt_or_eq.mp hj with hlt | rfl
    · exact h.1.2 j hlt
    · exact h.2

/-- What a trigger's command adds: nothing, or the next trigger. -/
theorem Admitted.fired (h : Admitted o n s) {es : List SupervisorEvent}
    (hes : Attempted (.trigger (n + 1)) es) :
    Reached o n (s.emit es) ∨ Reached o (n + 1) (s.emit es) := by
  rcases hes with rfl | rfl | ⟨rc, stdout, rfl⟩
  · rw [emit_nil]
    exact .inl h.1
  · exact .inr (h.started rfl)
  · exact .inr (h.started rfl)

theorem follows_bindRatio (hn : n < 6) {transition : Json}
    (hbind : undisturbed → ∃ argv, item transition "ratio_bind_command" = .ok argv ∧
      popenAccepts argv = true)
    (hbound : undisturbed → RatioBound o (n + 1)) :
    Triple (Admitted o n) (bindRatio o (n + 1) transition) (fun _ => Admitted o n)
      (fun _ => Stopped o undisturbed) := by
  have hstopped {s : SupervisorState} (hs : Admitted o n s) (hnot : ¬ undisturbed) :
      Stopped o undisturbed s := stopped_disturbed hn.le hs.1 hnot
  unfold bindRatio
  cases hitem : item transition "ratio_bind_command" with
  | error e =>
    refine triple_throw fun s hs => hstopped hs fun hu => ?_
    obtain ⟨argv, hargv, -⟩ := hbind hu
    rw [hitem] at hargv
    cases hargv
  | ok argv =>
    have hsucceeds (hu : undisturbed) : popenAccepts argv = true ∧
        InTime o (.ratioBind (n + 1)) ∧ Succeeds o (.ratioBind (n + 1)) := by
      obtain ⟨argv', hargv, haccepts⟩ := hbind hu
      obtain ⟨htime, stdout, hexit, -⟩ := hbound hu
      obtain rfl := Except.ok.inj (hitem.symm.trans hargv)
      exact ⟨haccepts, htime, stdout, hexit⟩
    simp only [Attempt.ofExcept, pure_bind]
    refine (follows_command (fun k => by simp) hn.le hsucceeds).bind fun stdout => ?_
    cases hmarker : ratioBound stdout with
    | false =>
      refine triple_throw fun s hs => hstopped hs.1 fun hu => ?_
      obtain ⟨-, stdout', hexit, hmarker'⟩ := hbound hu
      rw [hs.2] at hexit
      obtain rfl := Option.some.inj (CommandOutcome.exited.inj hexit).2
      rw [hmarker] at hmarker'
      cases hmarker'
    | true => exact triple_modify fun s hs => hs.1.same rfl

theorem follows_fireTrigger (hn : n < 6) {transition argv : Json}
    (hargv : item transition "trigger_command" = .ok argv) (haccepts : popenAccepts argv = true)
    (h : undisturbed → InTime o (.trigger (n + 1)) ∧ Succeeds o (.trigger (n + 1))) :
    Triple (Admitted o n) (fireTrigger o (n + 1) transition) (fun _ => Reached o (n + 1))
      (fun _ => Stopped o undisturbed) := by
  unfold fireTrigger
  simp only [hargv, Attempt.ofExcept, pure_bind]
  have hcounted : Triple (Admitted o n) (report fun r => { r with
      triggerWriteAttemptCount := r.triggerWriteAttemptCount + 1
      scientificTriggerReplayDecision := "NEVER_AUTOMATICALLY_REPLAY" })
      (fun _ => Admitted o n) (fun _ => Stopped o undisturbed) :=
    triple_modify fun s hs => hs.same rfl
  refine hcounted.bind fun _ => ?_
  have hcommand : Triple (Admitted o n) (runCommand o (.trigger (n + 1)) argv
      (labelText transition ++ chars "_TRIGGER_FAILED")) (fun _ => Reached o (n + 1))
      (fun _ => Stopped o undisturbed) := by
    intro s hs
    have hend := runCommand_end (o := o) (s := s) (.trigger (n + 1)) argv
      (labelText transition ++ chars "_TRIGGER_FAILED")
    generalize outcome (runCommand o (.trigger (n + 1)) argv
      (labelText transition ++ chars "_TRIGGER_FAILED")) s = end' at hend ⊢
    have hstopped {es : List SupervisorEvent} (hes : Attempted (.trigger (n + 1)) es)
        (hnot : ¬ undisturbed) : Stopped o undisturbed (s.emit es) :=
      (hs.fired hes).elim (stopped_disturbed hn.le · hnot) (stopped_disturbed hn · hnot)
    cases hend with
    | late reason rc hlate => exact stopped_disturbed hn.le hs.1 fun hu => hlate (h hu).1
    | broken exception es htime hnot hes =>
      refine hstopped hes fun hu => ?_
      obtain ⟨-, stdout, hexit⟩ := h hu
      exact hnot haccepts (by simp [hexit, CommandOutcome.Handled])
    | timedOut reason rc htime _ hexit =>
      refine hstopped (.inr (.inl rfl)) fun hu => ?_
      obtain ⟨-, stdout, hsucceeds⟩ := h hu
      rw [hexit] at hsucceeds
      cases hsucceeds
    | refused reason rc returncode stdout htime _ hrc hexit =>
      refine hstopped (.inr (.inr ⟨returncode, some stdout, rfl⟩)) fun hu => ?_
      obtain ⟨-, stdout', hsucceeds⟩ := h hu
      rw [hexit] at hsucceeds
      exact hrc (CommandOutcome.exited.inj hsucceeds).1
    | done stdout htime _ hexit => exact hs.started rfl
  exact hcommand.bind fun stdout => triple_modify fun s hs => hs.same rfl

theorem follows_runTransition (hn : n < 6) {plan transition : Json} {authorizationToken : Option String}
    (haccepted : TransitionAccepted transition) (hmem : transition ∈ planTransitions plan) :
    Triple (Admitted o n) (runTransition o (n + 1) transition) (fun _ => Admitted o (n + 1))
      (fun _ => Stopped o (Undisturbed o plan authorizationToken)) := by
  obtain ⟨⟨trigger, htrigger, hacceptsTrigger⟩, post, hpost, hacceptsPost⟩ := haccepted
  unfold runTransition
  cases hruns : o.trafficRuns (n + 1) with
  | false =>
    refine triple_throw fun s hs => stopped_disturbed hn.le hs.1 fun hu => ?_
    rw [hu.trafficRuns] at hruns
    cases hruns
  | true =>
    simp only [hpost, Attempt.ofExcept, pure_bind]
    refine (follows_bindRatio hn (fun hu => hu.binds transition hmem)
      fun hu => hu.bound (n + 1) (by omega) hn).bind fun _ => ?_
    refine (follows_fireTrigger hn htrigger hacceptsTrigger
      fun hu => hu.triggers (n + 1) (by omega) hn).bind fun _ => ?_
    exact follows_gate hacceptsPost hn

/-- The loop over the transitions, by induction on those left. -/
theorem follows_runTransitions {plan : Json} {authorizationToken : Option String}
    {transitions : List Json} (haccepted : ∀ t ∈ transitions, TransitionAccepted t)
    (hmem : ∀ t ∈ transitions, t ∈ planTransitions plan) :
    ∀ n, n + transitions.length = 6 →
      Triple (Admitted o n) (runTransitions o (n + 1) transitions) (fun _ => Admitted o 6)
        (fun _ => Stopped o (Undisturbed o plan authorizationToken)) := by
  induction transitions with
  | nil =>
    rintro n hn
    obtain rfl : n = 6 := hn
    exact triple_pure fun _ hs => hs
  | cons transition transitions ih =>
    intro n hn
    rw [List.length_cons] at hn
    obtain ⟨hfirst, hrest⟩ := List.forall_mem_cons.mp haccepted
    obtain ⟨hfirstMem, hrestMem⟩ := List.forall_mem_cons.mp hmem
    refine (follows_runTransition (by omega) hfirst hfirstMem).bind fun count => ?_
    refine (ih hrest hrestMem (n + 1) (by omega)).bind fun counts => ?_
    exact triple_pure fun _ hs => hs

theorem follows_terminate {P : SupervisorState → Prop} (hP : ∀ s, P s → P (outcome terminateProcess s).2)
    {E : SupervisorFailure → SupervisorState → Prop} :
    Triple P terminateProcess (fun _ => P) E := fun s hs => hP s hs

theorem Reached.terminate (h : Reached o n s) : Reached o n (outcome terminateProcess s).2 := by
  rw [terminateProcess, outcome_modify]
  by_cases htraffic : s.traffic
  · rw [if_pos htraffic]
    have hquiet : Quiet [.trafficTerminated] := by simp [Quiet, isTriggerStart, isTriggerSuccess]
    exact (h.emit hquiet).same rfl
  · rw [if_neg htraffic]
    exact h

/-- The run has passed every gate, and its report says so. -/
structure Completed (o : Surroundings) (s : SupervisorState) : Prop where
  admitted : Admitted o 6 s
  gate : s.report.supervisorGate = "PASS"

theorem follows_finishSequence {plan : Json} {authorizationToken : Option String}
    (haccepted : PlanAccepted plan) (k : ℕ) :
    Triple (Admitted o 6) (finishSequence o k plan) (fun _ => Completed o)
      (fun _ => Stopped o (Undisturbed o plan authorizationToken)) := by
  obtain ⟨final, hfinal, hacceptsFinal⟩ := haccepted.finalization
  unfold finishSequence
  cases hruns : o.trafficRuns k with
  | false =>
    refine triple_throw fun s hs => stopped_disturbed (Nat.le_refl 6) hs.1 fun hu => ?_
    rw [hu.trafficRuns] at hruns
    cases hruns
  | true =>
    simp only [hfinal, Attempt.ofExcept, pure_bind]
    refine (follows_terminate fun s hs => ⟨hs.1.terminate, hs.2⟩).bind fun _ => ?_
    refine (follows_command (fun k => by simp) (Nat.le_refl 6)
      fun hu => ⟨hacceptsFinal, hu.finalization⟩).bind fun stdout => ?_
    refine Triple.bind (R := fun _ => Completed o) ?_ fun _ => triple_pure fun _ hs => hs
    exact triple_modify fun s hs => ⟨hs.1.same rfl, rfl⟩

theorem Completed.terminate (h : Completed o s) : Completed o (outcome terminateProcess s).2 := by
  refine ⟨⟨h.admitted.1.terminate, h.admitted.2⟩, ?_⟩
  rw [terminateProcess, outcome_modify]
  by_cases htraffic : s.traffic
  · rw [if_pos htraffic]
    exact h.gate
  · rw [if_neg htraffic]
    exact h.gate

theorem Stopped.terminate (h : Stopped o undisturbed s) :
    Stopped o undisturbed (outcome terminateProcess s).2 := by
  obtain ⟨n, hn, hreached, hgate⟩ := h
  exact ⟨n, hn, hreached.terminate, hgate⟩

theorem planTransitions_length {loads : List ℕ → Loaded} {file : PlanFile} {plan : Json}
    (h : loadPlan loads file = .ok plan) : (planTransitions plan).length = 6 := by
  obtain ⟨plan', -, h⟩ := bind_eq_ok.mp h
  obtain ⟨schema, -, h⟩ := bind_eq_ok.mp h
  obtain ⟨-, h⟩ := require_bind_eq_ok.mp h
  obtain ⟨traffic, -, h⟩ := bind_eq_ok.mp h
  obtain ⟨-, h⟩ := unit_bind_eq_ok.mp h
  obtain ⟨initial, -, h⟩ := bind_eq_ok.mp h
  obtain ⟨-, h⟩ := unit_bind_eq_ok.mp h
  obtain ⟨final, -, h⟩ := bind_eq_ok.mp h
  obtain ⟨-, h⟩ := unit_bind_eq_ok.mp h
  obtain ⟨value, htransitions, h⟩ := bind_eq_ok.mp h
  split at h
  case h_2 => cases h
  case h_1 transitions =>
    obtain ⟨hlength, h⟩ := require_bind_eq_ok.mp h
    obtain ⟨-, h⟩ := unit_bind_eq_ok.mp h
    obtain rfl := Except.ok.inj h
    rw [planTransitions, item_of_get htransitions (by simp)]
    exact hlength

theorem follows_startTraffic {argv : Json} (haccepts : popenAccepts argv = true)
    (h : undisturbed → TrafficStarts o) :
    Triple (Reached o 0) (startTraffic o argv) (fun _ => Reached o 0)
      (fun _ => Stopped o undisturbed) := by
  unfold startTraffic
  rw [haccepts]
  cases houtcome : o.outcome .traffic with
  | notStarted exception =>
    exact triple_throw fun s hs => stopped_disturbed (Nat.zero_le 6) hs fun hu =>
      h hu exception houtcome
  | timedOut | exited =>
    refine triple_modify fun s hs => (hs.emit ?_).same rfl
    exact @quiet_attempted .traffic _ (.inr (.inl rfl)) fun _ => by simp

theorem follows_runSequence {plan : Json} {authorizationToken : Option String}
    (haccepted : PlanAccepted plan) (hlength : (planTransitions plan).length = 6) :
    Triple (Reached o 0) (runSequence o plan) (fun _ => Completed o)
      (fun _ => Stopped o (Undisturbed o plan authorizationToken)) := by
  obtain ⟨traffic, htraffic, hacceptsTraffic⟩ := haccepted.traffic
  obtain ⟨initial, hinitial, hacceptsInitial⟩ := haccepted.initial
  unfold runSequence
  simp only [htraffic, hinitial, Attempt.ofExcept, pure_bind]
  refine (follows_startTraffic hacceptsTraffic fun hu => hu.trafficStarts).bind fun _ => ?_
  refine Triple.bind (follows_gate hacceptsInitial (Nat.zero_le 6)) fun extensions => ?_
  have hextensions : Triple (Admitted o 0) (report fun r => { r with
      preStepExtensionCount := some extensions }) (fun _ => Admitted o 0)
      (fun _ => Stopped o (Undisturbed o plan authorizationToken)) :=
    triple_modify fun s hs => hs.same rfl
  refine hextensions.bind fun _ => ?_
  refine (follows_runTransitions haccepted.transitions (fun _ ht => ht) 0 (by omega)).bind
    fun counts => ?_
  have hcounts : Triple (Admitted o 6) (report fun r => { r with
      postStepExtensionCounts := some counts }) (fun _ => Admitted o 6)
      (fun _ => Stopped o (Undisturbed o plan authorizationToken)) :=
    triple_modify fun s hs => hs.same rfl
  exact hcounts.bind fun _ => follows_finishSequence haccepted _

theorem follows_superviseMode {file : PlanFile} {plan : Json}
    (hload : loadPlan o.loads file = .ok plan) (authorizationToken : Option String) :
    Triple (Reached o 0) (superviseMode o file .live authorizationToken) (fun _ => Completed o)
      (fun _ => Stopped o (Undisturbed o plan authorizationToken)) := by
  unfold superviseMode
  simp only [hload, Attempt.ofExcept, pure_bind]
  unfold runLive
  by_cases henable : o.enable = some "YES"
  case neg =>
    rw [if_pos henable]
    exact triple_throw fun s hs => stopped_disturbed (Nat.zero_le 6) hs fun hu => henable hu.enable
  rw [if_neg (not_not.mpr henable)]
  by_cases htoken : authorizationToken = some liveToken
  case neg =>
    rw [if_pos htoken]
    exact triple_throw fun s hs => stopped_disturbed (Nat.zero_le 6) hs fun hu => htoken hu.token
  rw [if_neg (not_not.mpr htoken)]
  exact (follows_runSequence (planAccepted hload) (planTransitions_length hload)).finally
    (fun _ => follows_terminate fun s hs => hs.terminate)
    fun _ => follows_terminate fun s hs => hs.terminate

end

/-- The live run follows the dry run with its gates: the triggers that it starts are in front among
the controls that the dry run admits, and its report passes only where the dry run is complete.
Where nothing but the gates stands in the way, they are the same. -/
theorem live_run_follows_dry_run (o : Surroundings) (file : PlanFile) (plan : Json)
    (authorizationToken : Option String) (gate : ℕ → Gate)
    (hload : loadPlan o.loads file = .ok plan)
    (hgate : ∀ phase, gate phase = .pass ↔ PhasePasses o phase) :
    triggerStarts (supervise o file .live authorizationToken).events <+: (dryRun gate).admitted ∧
    ((∃ report, (supervise o file .live authorizationToken).written = some report ∧
      report.supervisorGate = "PASS") → (dryRun gate).sequenceComplete = true) ∧
    (Undisturbed o plan authorizationToken →
      triggerStarts (supervise o file .live authorizationToken).events = (dryRun gate).admitted ∧
      ((dryRun gate).sequenceComplete = true →
        ∃ report, (supervise o file .live authorizationToken).written = some report ∧
          report.supervisorGate = "PASS")) := by
  obtain ⟨m, hm, hadmitted, hpass, hblocked, hcomplete⟩ := dryRun_admitted gate
  have hstart : Reached o 0 ⟨baseReport .live, [], false⟩ := ⟨rfl, by simp⟩
  have hend := follows_superviseMode hload authorizationToken _ hstart
  rw [hadmitted, hcomplete]
  unfold supervise
  rw [outcome_tryCatch]
  rcases houtcome : outcome (superviseMode o file .live authorizationToken)
    ⟨baseReport .live, [], false⟩ with ⟨r, s⟩
  rw [houtcome] at hend
  match r with
  | .ok rc =>
    obtain ⟨⟨⟨hstarts, hgates⟩, hlast⟩, hreport⟩ := hend
    obtain rfl : m = 6 := by
      by_contra hne
      have hlt : m < 6 := by omega
      exact hblocked hlt ((hgate m).mpr (hgates m hlt))
    have hall : 6 = 6 ∧ gate 6 = .pass := ⟨rfl, (hgate 6).mpr hlast⟩
    exact ⟨⟨[], by rw [List.append_nil]; exact hstarts⟩, fun _ => hall,
      fun _ => ⟨hstarts, fun _ => ⟨_, rfl, hreport⟩⟩⟩
  | .error failure =>
    obtain ⟨n, hn, ⟨hstarts, hgates⟩, hstop⟩ := hend
    have hle : n ≤ m := by
      by_contra hlt
      exact hblocked (by omega) ((hgate m).mpr (hgates m (by omega)))
    have hleads : triggerStarts s.events <+: List.range' 1 m := by
      refine ⟨List.range' (1 + n) (m - n), ?_⟩
      rw [hstarts, List.range'_append_1, Nat.add_sub_cancel' hle]
    have hundisturbed (hu : Undisturbed o plan authorizationToken) :
        triggerStarts s.events = List.range' 1 m ∧ ¬ (m = 6 ∧ gate 6 = .pass) := by
      have hnot : gate n ≠ .pass := fun h => hstop hu ((hgate n).mp h)
      obtain rfl : n = m := by
        by_contra hne
        exact hnot (hpass n (by omega))
      exact ⟨hstarts, fun h => hnot (h.1 ▸ h.2)⟩
    cases failure with
    | supervisor reason rc =>
      refine ⟨hleads, ?_, fun hu => ⟨(hundisturbed hu).1, fun h => absurd h (hundisturbed hu).2⟩⟩
      rintro ⟨report, hwritten, hreport⟩
      obtain rfl := Option.some.inj hwritten
      have hfail : ("FAIL_CLOSED" : String) = "PASS" := hreport
      exact absurd hfail (by decide)
    | uncaught exception =>
      refine ⟨hleads, ?_, fun hu => ⟨(hundisturbed hu).1, fun h => absurd h (hundisturbed hu).2⟩⟩
      rintro ⟨report, hwritten, -⟩
      cases hwritten

/-- What the evaluator answers where the gate behind T3 does not pass. -/
def stallingAnswer (phase : ℕ) : String := if phase = 3 then "FAIL" else "PASS"

def stallingSurroundings : Surroundings :=
  { sampleSurroundings (.exited 0 (some [])) with
    outcome := fun command =>
      match command with
      | .stationarity phase _ =>
          .exited 0 (some (dictText [("output_stationarity_gate", quoted (stallingAnswer phase))]))
      | command => (sampleSurroundings (.exited 0 (some []))).outcome command }

def stallingGate (phase : ℕ) : Gate := if phase = 3 then .fail else .pass

theorem stalling_evaluates (phase n : ℕ) :
    Evaluates stallingSurroundings phase n (.str (chars (stallingAnswer phase))) := by
  refine ⟨_, .obj [(chars "output_stationarity_gate", .str (chars (stallingAnswer phase)))], rfl,
    ?_, ?_⟩
  all_goals
    unfold stallingAnswer
    by_cases hphase : phase = 3
    · rw [if_pos hphase]
      rfl
    · rw [if_neg hphase]
      rfl

theorem stalling_observes (phase : ℕ) : Observes stallingSurroundings phase (phaseRole phase) 0 := by
  have hremaining (reading : ClockReading) : remaining stallingSurroundings reading = 180 := by
    norm_num [remaining, stallingSurroundings, sampleSurroundings, experimentMaxS]
  refine ⟨⟨?_, ?_, ?_⟩, ?_⟩
  · cases phaseRole phase <;> decide
  · rw [hremaining]
    norm_num
  · rw [hremaining]
    cases phaseRole phase <;>
      norm_num [stallingSurroundings, sampleSurroundings, PhaseRole.minimum, preMinS, postMinS]
  · rw [InTime, hremaining]
    norm_num

theorem stallingGate_iff (phase : ℕ) :
    stallingGate phase = .pass ↔ PhasePasses stallingSurroundings phase := by
  have hevaluates (n : ℕ) := stalling_evaluates phase n
  unfold stallingGate
  unfold stallingAnswer at hevaluates
  by_cases hphase : phase = 3
  · rw [if_pos hphase] at hevaluates ⊢
    refine iff_of_false (by decide) ?_
    rintro ⟨n, -, -, -, gate, hgate, hpass⟩
    rw [hgate.unique (hevaluates n)] at hpass
    exact absurd hpass (by decide)
  · rw [if_neg hphase] at hevaluates ⊢
    refine iff_of_true rfl ⟨0, Nat.zero_le _, fun m hm => absurd hm (Nat.not_lt_zero m),
      stalling_observes phase, _, hevaluates 0, by decide⟩

theorem live_run_follows_dry_run_sample : ∃ plan,
    loadPlan stallingSurroundings.loads (.text samplePlan) = .ok plan ∧
    triggerStarts (supervise stallingSurroundings (.text samplePlan) .live (some liveToken)).events <+:
      (dryRun stallingGate).admitted := by
  obtain ⟨plan, hload⟩ := samplePlan_accepted (.exited 0 (some []))
  exact ⟨plan, hload, (live_run_follows_dry_run stallingSurroundings _ plan (some liveToken)
    stallingGate hload stallingGate_iff).1⟩

end TcdOran.Harness.Orchestration
