import TcdOran.Harness.SupervisorStages

/-! The report of the supervisor, over every plan that it accepts and all surroundings. -/
namespace TcdOran.Harness
open TcdOran.Lib Python Attempt

section
variable {o : Surroundings}

theorem progress_start (mode : SupervisorMode) : Progress o 0 ⟨baseReport mode, [], false⟩ := by
  constructor
  · rfl
  · rfl
  · rfl
  · rfl
  · exact iff_of_true rfl rfl
  · intro before k after h
    simp at h
  · exact fun j hj => absurd hj (Nat.not_lt_zero j)
  · exact fun j hj hj0 => absurd (hj.trans hj0) (by decide)
  · exact fun j hj hj0 => absurd (hj.trans hj0) (by decide)

/-- The end of the part of `main` under `try`. -/
def RunEnd (o : Surroundings) (accountable : Prop) (end' : Except SupervisorFailure ℤ × SupervisorState) :
    Prop :=
  TriggersOrdered o end'.2.events ∧
    match end'.1 with
    | .ok _ => Truthful end'.2.report end'.2.events ∧ accountable
    | .error f => EndsTruthful f end'.2 ↔ accountable

theorem runEnd_refused {reason : List ℕ} {rc : ℤ} {s : SupervisorState} {accountable : Prop}
    (hs : Progress o 0 s) (h : accountable) :
    RunEnd o accountable (.error (.supervisor reason rc), s) :=
  ⟨hs.ordered, iff_of_true hs.truthful h⟩

theorem runSequence_end {plan : Json} (h : PlanAccepted plan) {s : SupervisorState}
    (hs : Progress o 0 s) :
    RunEnd o (SequenceAccountable o plan) (outcome (runSequence o plan) s) := by
  have hstage := stage_runSequence (o := o) h True s hs
  have hcondition : (TrafficStarts o ∧ GateHandled o 0 .pre ∧ (GatePasses o 0 .pre →
      TransitionsAccountable o 1 (o.trafficRuns ((planTransitions plan).length + 1) = true →
        InTime o .finalization → (o.outcome .finalization).Handled ∧
          (Succeeds o .finalization → True)) (planTransitions plan))) ↔
      SequenceAccountable o plan := by
    simp only [implies_true, and_true]
    rfl
  rcases houtcome : outcome (runSequence o plan) s with ⟨f | rc, t⟩
  · rw [houtcome] at hstage
    obtain ⟨hordered, hends⟩ := hstage
    exact ⟨hordered, hends.trans hcondition⟩
  · rw [houtcome] at hstage
    obtain ⟨hpassed, haccountable⟩ := hstage
    exact ⟨hpassed.1.ordered, hpassed.1.truthful, hcondition.mp (haccountable.mpr trivial)⟩

/-- Stopping the traffic at the end changes no count. -/
theorem RunEnd.terminate {accountable : Prop} {r : Except SupervisorFailure ℤ}
    {s : SupervisorState} (h : RunEnd o accountable (r, s)) :
    RunEnd o accountable (r, (outcome terminateProcess s).2) := by
  have hquiet : Quiet [.trafficTerminated] := by simp [Quiet, isTriggerStart, isTriggerSuccess]
  obtain ⟨hordered, hend⟩ := h
  rw [terminateProcess, outcome_modify]
  by_cases htraffic : s.traffic
  case neg =>
    rw [if_neg htraffic]
    exact ⟨hordered, hend⟩
  rw [if_pos htraffic]
  have htruthful : Truthful s.report (s.events ++ [.trafficTerminated]) ↔
      Truthful s.report s.events := by
    constructor
    · rintro ⟨hattempts, hsuccesses, hle, hle', hcontrol⟩
      rw [triggersStarted_quiet hquiet] at hattempts hcontrol
      rw [triggersSucceeded_quiet hquiet] at hsuccesses
      exact ⟨hattempts, hsuccesses, hle, hle', hcontrol⟩
    · rintro ⟨hattempts, hsuccesses, hle, hle', hcontrol⟩
      rw [← triggersStarted_quiet hquiet] at hattempts hcontrol
      rw [← triggersSucceeded_quiet hquiet] at hsuccesses
      exact ⟨hattempts, hsuccesses, hle, hle', hcontrol⟩
  refine ⟨hordered.quiet fun e he => (hquiet e he).1, ?_⟩
  cases r with
  | ok => exact ⟨htruthful.mpr hend.1, hend.2⟩
  | error failure =>
    cases failure with
    | supervisor => exact htruthful.trans hend
    | uncaught => exact hend

theorem runLive_end {plan : Json} (h : PlanAccepted plan) (authorizationToken : Option String)
    {s : SupervisorState} (hs : Progress o 0 s) :
    RunEnd o (o.enable = some "YES" → authorizationToken = some liveToken →
      SequenceAccountable o plan) (outcome (runLive o plan authorizationToken) s) := by
  unfold runLive
  by_cases henable : o.enable = some "YES"
  case neg =>
    rw [if_pos henable]
    exact runEnd_refused hs fun h => absurd h henable
  rw [if_neg (not_not.mpr henable)]
  by_cases htoken : authorizationToken = some liveToken
  case neg =>
    rw [if_pos htoken]
    exact runEnd_refused hs fun _ h => absurd h htoken
  rw [if_neg (not_not.mpr htoken)]
  have hterminate (t : SupervisorState) :
      outcome terminateProcess t = (.ok ⟨⟩, (outcome terminateProcess t).2) := rfl
  obtain ⟨hordered, hend⟩ := (runSequence_end h hs).terminate
  show RunEnd o _ (outcome (tryFinally (runSequence o plan) terminateProcess) s)
  rw [outcome_finally, hterminate]
  refine ⟨hordered, ?_⟩
  simp only [henable, htoken, forall_true_left]
  exact hend

theorem superviseMode_end {file : PlanFile} {plan : Json} (h : loadPlan o.loads file = .ok plan)
    (mode : SupervisorMode) (authorizationToken : Option String) :
    RunEnd o (Accountable o plan mode authorizationToken)
      (outcome (superviseMode o file mode authorizationToken) ⟨baseReport mode, [], false⟩) := by
  have hstart := progress_start (o := o) mode
  unfold superviseMode
  rw [outcome_bind, outcome_ofExcept, h]
  simp only
  cases mode with
  | noControl =>
    have hreport : Progress o 0 ⟨{ baseReport .noControl with
        supervisorGate := "PASS"
        failClosedReason := chars "NONE"
        noControlDryRunGate := some "PASS" }, [], false⟩ := hstart.same ⟨rfl, rfl, rfl, rfl⟩
    exact ⟨hreport.ordered, hreport.truthful, fun h => by cases h⟩
  | live =>
    obtain ⟨hordered, hend⟩ := runLive_end (planAccepted h) authorizationToken hstart
    refine ⟨hordered, ?_⟩
    simp only [Accountable, forall_true_left]
    exact hend

/-- With a plan that `load_plan` accepts, the supervisor writes a truthful report behind ordered
triggers exactly where what it meets is accountable. -/
theorem supervisor_accounts_iff (o : Surroundings) (file : PlanFile) (plan : Json)
    (mode : SupervisorMode) (authorizationToken : Option String)
    (h : loadPlan o.loads file = .ok plan) :
    Accounts o (supervise o file mode authorizationToken) ↔
      Accountable o plan mode authorizationToken := by
  have hend := superviseMode_end h mode authorizationToken
  unfold supervise
  rw [outcome_tryCatch]
  rcases houtcome : outcome (superviseMode o file mode authorizationToken)
    ⟨baseReport mode, [], false⟩ with ⟨r, s⟩
  rw [houtcome] at hend
  obtain ⟨hordered, hend⟩ := hend
  match r with
  | .ok rc =>
    obtain ⟨htruthful, haccountable⟩ := hend
    exact iff_of_true ⟨⟨s.report, rfl, htruthful⟩, hordered⟩ haccountable
  | .error (.supervisor reason rc) =>
    refine Iff.trans ?_ hend
    constructor
    · rintro ⟨⟨report, hreport, htruthful⟩, -⟩
      obtain rfl := Option.some.inj hreport
      exact ⟨htruthful.1, htruthful.2, htruthful.3, htruthful.4, htruthful.5⟩
    · intro htruthful
      refine ⟨⟨_, rfl, ?_⟩, hordered⟩
      exact ⟨htruthful.1, htruthful.2, htruthful.3, htruthful.4, htruthful.5⟩
  | .error (.uncaught exception) =>
    refine iff_of_false ?_ hend.mpr
    rintro ⟨⟨report, hreport, -⟩, -⟩
    cases hreport

end

def sampleTransition (label : String) : List ℕ :=
  dictText [("label", quoted label), ("ratio_bind_command", listText [quoted "bind"]),
    ("trigger_command", listText [quoted "fire"]),
    ("post_stationarity_command", listText [quoted "gate"])]

def samplePlan : List ℕ :=
  dictText [("schema", quoted supervisorSchema), ("traffic_command", listText [quoted "traffic"]),
    ("initial_stationarity_command", listText [quoted "gate"]),
    ("finalization_command", listText [quoted "end"]),
    ("transitions", listText (["T1", "T2", "T3", "T4", "T5", "T6"].map sampleTransition))]

/-- Every command succeeds at once, the trigger of T1 as given. -/
def sampleSurroundings (trigger : CommandOutcome) : Surroundings where
  enable := some "YES"
  clock := fun _ => 0
  trafficRuns := fun _ => true
  outcome := fun command =>
    match command with
    | .stationarity _ _ =>
        .exited 0 (some (dictText [("output_stationarity_gate", quoted "PASS")]))
    | .ratioBind _ => .exited 0 (some (chars "RATIO_BOUND=PASS\n"))
    | .trigger 1 => trigger
    | .traffic | .trigger _ | .finalization => .exited 0 (some [])
  loads := plainLoads

/-- The plan is accepted; where the trigger of T1 exits with status 1, the report denies it. -/
theorem samplePlan_run :
    (loadPlan plainLoads (.text samplePlan)).toBool = true ∧
    (supervise (sampleSurroundings (.exited 1 (some []))) (.text samplePlan) .live
      (some liveToken)).written.map (·.controlExecuted) = some "NO" ∧
    triggersStarted (supervise (sampleSurroundings (.exited 1 (some []))) (.text samplePlan) .live
      (some liveToken)).events = 1 := by
  decide +kernel

theorem samplePlan_accepted (trigger : CommandOutcome) :
    ∃ plan, loadPlan (sampleSurroundings trigger).loads (.text samplePlan) = .ok plan := by
  obtain ⟨hok, -⟩ := samplePlan_run
  cases hload : loadPlan plainLoads (.text samplePlan) with
  | ok plan => exact ⟨plan, hload⟩
  | error e =>
    rw [hload] at hok
    cases hok

theorem supervisor_accounts_iff_sample : ∃ plan,
    loadPlan (sampleSurroundings (.exited 0 (some []))).loads (.text samplePlan) = .ok plan ∧
    (Accounts (sampleSurroundings (.exited 0 (some [])))
      (supervise (sampleSurroundings (.exited 0 (some []))) (.text samplePlan) .live
        (some liveToken)) ↔
      Accountable (sampleSurroundings (.exited 0 (some []))) plan .live (some liveToken)) := by
  obtain ⟨plan, hplan⟩ := samplePlan_accepted (.exited 0 (some []))
  exact ⟨plan, hplan, supervisor_accounts_iff _ _ plan _ _ hplan⟩

/-- The trigger of T1 is started and exits with status 1: the report says that no control was
executed. -/
theorem failed_trigger_denied : ∃ plan,
    loadPlan (sampleSurroundings (.exited 1 (some []))).loads (.text samplePlan) = .ok plan ∧
    ¬ Accounts (sampleSurroundings (.exited 1 (some [])))
      (supervise (sampleSurroundings (.exited 1 (some []))) (.text samplePlan) .live
        (some liveToken)) := by
  obtain ⟨plan, hplan⟩ := samplePlan_accepted (.exited 1 (some []))
  refine ⟨plan, hplan, ?_⟩
  rintro ⟨⟨report, hwritten, htruthful⟩, -⟩
  obtain ⟨-, hdenied, hstarted⟩ := samplePlan_run
  rw [hwritten] at hdenied
  have hnone := htruthful.control (Option.some.inj hdenied)
  rw [hstarted] at hnone
  cases hnone

end TcdOran.Harness
