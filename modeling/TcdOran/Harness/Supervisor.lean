import TcdOran.Lib.Attempt
import TcdOran.Lib.Check
import TcdOran.Lib.Python

/-! prompt12-bounded-orchestration-supervisor.py. -/
namespace TcdOran.Harness
open TcdOran.Lib Python

def supervisorSchema : String := "sci_oran_prompt12_bounded_sequence_v1"
def preMinS : ℕ := 11
def postMinS : ℕ := 10
def extensionS : ℕ := 5
def maxExtensions : ℕ := 2
def preMaxS : ℕ := 21
def postMaxS : ℕ := 20
def observationMaxS : ℕ := 141
def experimentMaxS : ℕ := 180
def transitionCount : ℕ := 6
def liveToken : String := "AUTHORISE_PROMPT12_BOUNDED_SEQUENCE_LIVE"

/-- `main` catches `SupervisorError` only. -/
inductive SupervisorFailure
  | supervisor (reason : List ℕ) (rc : ℤ)
  | uncaught (exception : String)
  deriving DecidableEq

inductive SupervisorMode
  | noControl | live
  deriving DecidableEq

/-- Phase 0 is in front of the first trigger, phase `k` behind the trigger of transition `k`. -/
inductive SupervisorCommand
  | traffic
  | stationarity (phase extensions : ℕ)
  | ratioBind (transition : ℕ)
  | trigger (transition : ℕ)
  | finalization
  deriving DecidableEq

/-- How `subprocess.run` ends. The output is missing where it cannot be decoded. -/
inductive CommandOutcome
  | notStarted (exception : String)
  | timedOut
  | exited (returncode : ℤ) (stdout : Option (List ℕ))
  deriving DecidableEq

/-- The calls of `time.monotonic`. -/
inductive ClockReading
  | started
  | phaseStarted (phase : ℕ)
  | observation (phase extensions : ℕ)
  | sleep (phase extensions : ℕ)
  | command (command : SupervisorCommand)

/-- What the supervisor meets outside. `trafficRuns k` is the poll in front of transition `k`, or
behind the last one. -/
structure Surroundings where
  enable : Option String
  clock : ClockReading → ℚ
  trafficRuns : ℕ → Bool
  outcome : SupervisorCommand → CommandOutcome
  loads : List ℕ → Loaded

structure SupervisorReport where
  schema : String
  mode : SupervisorMode
  preStepMaximumDurationS : ℕ
  postStepMaximumDurationS : ℕ
  maxStationarityExtensions : ℕ
  observationBudgetMaximumS : ℕ
  experimentMaximumDurationS : ℕ
  controlExecuted : String
  triggerWriteAttemptCount : ℕ
  triggerWriteSuccessCount : ℕ
  scientificTriggerReplayDecision : String
  supervisorGate : String
  failClosedReason : List ℕ
  noControlDryRunGate : Option String
  preStepExtensionCount : Option ℕ
  postStepExtensionCounts : Option (List ℕ)
  ratioBindStdout : List (List ℕ × List ℕ)
  triggerStdout : List (List ℕ × List ℕ)
  deriving DecidableEq

def baseReport (mode : SupervisorMode) : SupervisorReport where
  schema := supervisorSchema
  mode := mode
  preStepMaximumDurationS := preMaxS
  postStepMaximumDurationS := postMaxS
  maxStationarityExtensions := maxExtensions
  observationBudgetMaximumS := observationMaxS
  experimentMaximumDurationS := experimentMaxS
  controlExecuted := "NO"
  triggerWriteAttemptCount := 0
  triggerWriteSuccessCount := 0
  scientificTriggerReplayDecision := "NOT_APPLICABLE_NO_WRITE_ATTEMPT"
  supervisorGate := "FAIL_CLOSED"
  failClosedReason := chars "NOT_STARTED"
  noControlDryRunGate := none
  preStepExtensionCount := none
  postStepExtensionCounts := none
  ratioBindStdout := []
  triggerStdout := []

/-- A command has been started, or has exited with a status. -/
inductive SupervisorEvent
  | started (command : SupervisorCommand)
  | exited (command : SupervisorCommand) (returncode : ℤ) (stdout : Option (List ℕ))
  | trafficTerminated
  deriving DecidableEq

/-- `traffic` says that the variable of that name holds the process. -/
structure SupervisorState where
  report : SupervisorReport
  events : List SupervisorEvent
  traffic : Bool

abbrev Supervise := Attempt SupervisorState SupervisorFailure

def supervisorError {α : Type} (reason : List ℕ) (rc : ℤ) : Supervise α :=
  throw (.supervisor reason rc)

def uncaught {α : Type} (exception : String) : Supervise α := throw (.uncaught exception)

def SupervisorState.emit (s : SupervisorState) (events : List SupervisorEvent) :
    SupervisorState :=
  { s with events := s.events ++ events }

def emit (events : List SupervisorEvent) : Supervise PUnit := modify fun s => s.emit events

def report (update : SupervisorReport → SupervisorReport) : Supervise PUnit :=
  modify fun s => { s with report := update s.report }

/-! ### The plan -/

/-- `value.get(key)`. -/
def get (value : Json) (key : String) : Except SupervisorFailure Json :=
  match value with
  | .obj members => .ok ((dictLookup members (chars key)).getD .null)
  | _ => .error (.uncaught "AttributeError")

/-- `value[key]` of a dictionary. -/
def item (value : Json) (key : String) : Except SupervisorFailure Json :=
  match value with
  | .obj members =>
    match dictLookup members (chars key) with
    | some value => .ok value
    | none => .error (.uncaught "KeyError")
  | _ => .error (.uncaught "TypeError")

def isNonemptyText : Json → Bool
  | .str units => units ≠ []
  | _ => false

/-- `command`. -/
def checkCommand (value : Json) (name : List ℕ) : Except SupervisorFailure Unit :=
  match value with
  | .arr items =>
      if items ≠ [] ∧ items.all isNonemptyText then .ok ()
      else .error (.supervisor (chars "INVALID_COMMAND:" ++ name) 64)
  | _ => .error (.supervisor (chars "INVALID_COMMAND:" ++ name) 64)

/-- `T{index}`. -/
def transitionLabel (index : ℕ) : List ℕ := chars "T" ++ decimalUnits index

def checkTransition (index : ℕ) (transition : Json) : Except SupervisorFailure Unit :=
  match transition with
  | .obj _ => do
      require (isText (← get transition "label") (transitionLabel index))
        (.supervisor (chars "TRANSITION_ORDER_INVALID:" ++ decimalUnits index) 64)
      checkCommand (← get transition "trigger_command")
        (transitionLabel index ++ chars ".trigger_command")
      checkCommand (← get transition "post_stationarity_command")
        (transitionLabel index ++ chars ".post_stationarity_command")
  | _ => .error (.supervisor (chars "TRANSITION_INVALID:" ++ decimalUnits index) 64)

def checkTransitions (index : ℕ) : List Json → Except SupervisorFailure Unit
  | [] => .ok ()
  | transition :: transitions => do
      checkTransition index transition
      checkTransitions (index + 1) transitions

/-- The plan file as `Path.read_text` finds it. -/
inductive PlanFile
  | unreadable (osError : String)
  | undecodable
  | text (content : List ℕ)

def readPlan (loads : List ℕ → Loaded) : PlanFile → Except SupervisorFailure Json
  | .unreadable osError => .error (.supervisor (chars ("PLAN_READ_FAILED:" ++ osError)) 64)
  | .undecodable => .error (.uncaught "UnicodeDecodeError")
  | .text content =>
    match loads content with
    | .value plan => .ok plan
    | .syntaxError => .error (.supervisor (chars "PLAN_READ_FAILED:JSONDecodeError") 64)
    | .gaveUp => .error (.uncaught "ValueError")

/-- The labels that it compares at the end are those that `checkTransition` has compared. -/
def loadPlan (loads : List ℕ → Loaded) (file : PlanFile) : Except SupervisorFailure Json := do
  let plan ← readPlan loads file
  require (isText (← get plan "schema") (chars supervisorSchema))
    (.supervisor (chars "PLAN_SCHEMA_INVALID") 64)
  checkCommand (← get plan "traffic_command") (chars "traffic_command")
  checkCommand (← get plan "initial_stationarity_command") (chars "initial_stationarity_command")
  checkCommand (← get plan "finalization_command") (chars "finalization_command")
  match ← get plan "transitions" with
  | .arr transitions =>
      require (transitions.length = transitionCount)
        (.supervisor (chars "TRANSITION_COUNT_INVALID") 64)
      checkTransitions 1 transitions
      return plan
  | _ => .error (.supervisor (chars "TRANSITION_COUNT_INVALID") 64)

/-! ### The run -/

inductive PhaseRole
  | pre | post

def PhaseRole.minimum : PhaseRole → ℕ
  | .pre => preMinS
  | .post => postMinS

/-- `phase_limit`. -/
def PhaseRole.phaseLimit : PhaseRole → ℕ
  | .pre => preMaxS
  | .post => postMaxS

def PhaseRole.timeout : PhaseRole → String
  | .pre => "PRE_STEP_TIMEOUT"
  | .post => "POST_STEP_TIMEOUT"

section
variable (o : Surroundings)

/-- `DurationBudget.remaining`; the budget starts with the run. -/
def remaining (reading : ClockReading) : ℚ :=
  experimentMaxS - (o.clock reading - o.clock .started)

def requireRemaining (reading : ClockReading) (reason : String) : Supervise ℚ :=
  if remaining o reading ≤ 0 then supervisorError (chars reason) 124
  else pure (remaining o reading)

def validateExtensionCount (count : ℕ) : Supervise PUnit :=
  if count > maxExtensions then
    supervisorError (chars "MAX_STATIONARITY_EXTENSIONS_EXCEEDED") 125
  else pure ⟨⟩

/-- `time.sleep` has no further effect here. -/
def waitForObservation (target : ℕ) (phase extensions : ℕ) (role : PhaseRole) :
    Supervise PUnit := do
  if target > role.phaseLimit then supervisorError (chars role.timeout) 124
  let elapsed := o.clock (.observation phase extensions) - o.clock (.phaseStarted phase)
  let seconds := max 0 ((target : ℚ) - elapsed)
  let globalRemaining ← requireRemaining o (.sleep phase extensions) "EXPERIMENT_TIMEOUT"
  if seconds > globalRemaining then supervisorError (chars "EXPERIMENT_TIMEOUT") 124

/-- Whether `subprocess` takes the value for an argument vector. -/
def popenAccepts : Json → Bool
  | .str _ => true
  | .arr items =>
      items ≠ [] ∧ items.all fun item => match item with
        | .str _ => true
        | _ => false
  | .obj members => members ≠ []
  | _ => false

/-- `subprocess.run`: the return code and the decoded output. -/
def subprocessRun (command : SupervisorCommand) (argv : Json) (reason : List ℕ) :
    Supervise (ℤ × List ℕ) := do
  if !popenAccepts argv then uncaught "TypeError"
  match o.outcome command with
  | .notStarted exception => uncaught exception
  | .timedOut =>
      emit [.started command]
      supervisorError reason 124
  | .exited returncode stdout =>
      emit [.started command, .exited command returncode stdout]
      match stdout with
      | none => uncaught "UnicodeDecodeError"
      | some stdout => return (returncode, stdout)

/-- `run_command` with the defaults of its last three parameters, which every caller leaves. -/
def runCommand (command : SupervisorCommand) (argv : Json) (reason : List ℕ) :
    Supervise (List ℕ) := do
  let _ ← requireRemaining o (.command command) "EXPERIMENT_TIMEOUT"
  let (returncode, stdout) ← subprocessRun o command argv reason
  if returncode ≠ 0 then
    supervisorError (reason ++ chars ":RC_" ++ intText returncode) returncode
  return stdout

/-- The gate in the output of the evaluator. -/
def evaluatorGate (stdout : List ℕ) : Supervise Json :=
  match o.loads stdout with
  | .syntaxError => supervisorError (chars "STATIONARITY_OUTPUT_INVALID") 65
  | .gaveUp => uncaught "ValueError"
  | .value record => .ofExcept (get record "output_stationarity_gate")

/-- The loop of `stationarity_gate`; `left` is what `extensions` leaves of the maximum. -/
def stationarityLoop (argv : Json) (phase : ℕ) (role : PhaseRole) (left extensions : ℕ) :
    Supervise ℕ := do
  waitForObservation o (role.minimum + extensions * extensionS) phase extensions role
  let stdout ← runCommand o (.stationarity phase extensions) argv
    (chars "STATIONARITY_EVALUATOR_FAILED")
  let gate ← evaluatorGate o stdout
  if isText gate (chars "PASS") then return extensions
  if !isText gate (chars "FAIL") then supervisorError (chars "STATIONARITY_GATE_INVALID") 65
  match left with
  | 0 => supervisorError (chars "MAX_STATIONARITY_EXTENSIONS_EXCEEDED") 125
  | left + 1 => do
      validateExtensionCount (extensions + 1)
      stationarityLoop argv phase role left (extensions + 1)

def stationarityGate (argv : Json) (phase : ℕ) (role : PhaseRole) : Supervise ℕ :=
  stationarityLoop o argv phase role maxExtensions 0

/-- It stops the traffic, unless the variable holds none. -/
def terminateProcess : Supervise PUnit :=
  modify fun s => if s.traffic then { s.emit [.trafficTerminated] with traffic := false } else s

def startTraffic (argv : Json) : Supervise PUnit := do
  if !popenAccepts argv then uncaught "TypeError"
  match o.outcome .traffic with
  | .notStarted exception => uncaught exception
  | _ => modify fun s => { s.emit [.started .traffic] with traffic := true }

/-- The text of `transition['label']`, which `load_plan` has compared. -/
def labelText (transition : Json) : List ℕ :=
  match item transition "label" with
  | .ok (.str units) => units
  | _ => []

def ratioBound (stdout : List ℕ) : Bool :=
  (splitlines (strip stdout)).contains (chars "RATIO_BOUND=PASS")

/-- `run_command` of the ratio binding with the checks around it. -/
def bindRatio (k : ℕ) (transition : Json) : Supervise PUnit := do
  let label := labelText transition
  let argv ← .ofExcept (item transition "ratio_bind_command")
  let stdout ← runCommand o (.ratioBind k) argv (label ++ chars "_RATIO_BIND_FAILED")
  if !ratioBound stdout then
    supervisorError (label ++ chars "_RATIO_BIND_PASS_MARKER_MISSING") 76
  report fun r => { r with ratioBindStdout := r.ratioBindStdout ++ [(label, strip stdout)] }

def fireTrigger (k : ℕ) (transition : Json) : Supervise PUnit := do
  let label := labelText transition
  report fun r => { r with
    triggerWriteAttemptCount := r.triggerWriteAttemptCount + 1
    scientificTriggerReplayDecision := "NEVER_AUTOMATICALLY_REPLAY" }
  let argv ← .ofExcept (item transition "trigger_command")
  let stdout ← runCommand o (.trigger k) argv (label ++ chars "_TRIGGER_FAILED")
  report fun r => { r with
    triggerWriteSuccessCount := r.triggerWriteSuccessCount + 1
    controlExecuted := "YES"
    triggerStdout := r.triggerStdout ++ [(label, strip stdout)] }

/-- The body of the loop over the transitions. -/
def runTransition (k : ℕ) (transition : Json) : Supervise ℕ := do
  if !o.trafficRuns k then supervisorError (chars "TRAFFIC_TERMINATED_BEFORE_TRIGGER") 76
  bindRatio o k transition
  fireTrigger o k transition
  let argv ← .ofExcept (item transition "post_stationarity_command")
  stationarityGate o argv k .post

/-- The extension counts of the transitions from the `k`-th on. -/
def runTransitions (k : ℕ) : List Json → Supervise (List ℕ)
  | [] => return []
  | transition :: transitions => do
      let count ← runTransition o k transition
      let counts ← runTransitions (k + 1) transitions
      return count :: counts

def planTransitions (plan : Json) : List Json :=
  match item plan "transitions" with
  | .ok (.arr transitions) => transitions
  | _ => []

/-- What follows the loop over the transitions. -/
def finishSequence (k : ℕ) (plan : Json) : Supervise ℤ := do
  if !o.trafficRuns k then
    supervisorError (chars "TRAFFIC_TERMINATED_BEFORE_FINALIZATION") 76
  terminateProcess
  let _ ← runCommand o .finalization (← .ofExcept (item plan "finalization_command"))
    (chars "FINALIZATION_FAILED")
  report fun r => { r with supervisorGate := "PASS", failClosedReason := chars "NONE" }
  return 0

/-- What `run_live` does under its `try`. -/
def runSequence (plan : Json) : Supervise ℤ := do
  startTraffic o (← .ofExcept (item plan "traffic_command"))
  let preExtensions ←
    stationarityGate o (← .ofExcept (item plan "initial_stationarity_command")) 0 .pre
  report fun r => { r with preStepExtensionCount := some preExtensions }
  let postCounts ← runTransitions o 1 (planTransitions plan)
  report fun r => { r with postStepExtensionCounts := some postCounts }
  finishSequence o ((planTransitions plan).length + 1) plan

def runLive (plan : Json) (authorizationToken : Option String) : Supervise ℤ := do
  if o.enable ≠ some "YES" then supervisorError (chars "LIVE_CONTROL_NOT_ENABLED") 77
  if authorizationToken ≠ some liveToken then
    supervisorError (chars "LIVE_CONTROL_AUTHORIZATION_TOKEN_INVALID") 77
  tryFinally (runSequence o plan) terminateProcess

/-- What `main` does under its `try`. -/
def superviseMode (file : PlanFile) (mode : SupervisorMode) (authorizationToken : Option String) :
    Supervise ℤ := do
  let plan ← .ofExcept (loadPlan o.loads file)
  match mode with
  | .noControl =>
      report fun r => { r with
        supervisorGate := "PASS"
        failClosedReason := chars "NONE"
        noControlDryRunGate := some "PASS" }
      return 0
  | .live => runLive o plan authorizationToken

def failClosed : SupervisorFailure → Supervise ℤ
  | .supervisor reason rc => do
      report fun r => { r with supervisorGate := "FAIL_CLOSED", failClosedReason := reason }
      return rc
  | .uncaught exception => uncaught exception

/-- What a run leaves: the report that `write_report` has written, if it was called, the exit
status or the exception, and the commands that were run. -/
structure Supervised where
  written : Option SupervisorReport
  exit : Except SupervisorFailure ℤ
  events : List SupervisorEvent

/-- `main`. -/
def supervise (file : PlanFile) (mode : SupervisorMode) (authorizationToken : Option String) :
    Supervised :=
  match Attempt.outcome (tryCatch (superviseMode o file mode authorizationToken) failClosed)
    ⟨baseReport mode, [], false⟩ with
  | (.ok rc, s) => ⟨some s.report, .ok rc, s.events⟩
  | (.error e, s) => ⟨none, .error e, s.events⟩

end

end TcdOran.Harness
