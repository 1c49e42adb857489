import TcdOran.Lib.Attempt
import TcdOran.Lib.PythonDecimal

/-! prompt12-atomic-prestart.py. -/
namespace TcdOran.Harness.AtomicPrestart
open TcdOran.Lib Python

inductive PrestartMode
  | simulate | liveStart
  deriving DecidableEq

def PrestartMode.text : PrestartMode → String
  | simulate => "simulate"
  | liveStart => "live-start"

structure PrestartArgs where
  mode : PrestartMode
  gate : List ℕ
  input : List ℕ
  schema : List ℕ
  policy : List ℕ
  evaluator : List ℕ
  experimentId : List ℕ
  runId : List ℕ
  cutoffUtcNs : Option ℤ
  gateDecisionUtcNs : Option ℤ
  prestartUtcNs : Option ℤ
  actuatorContainer : Option (List ℕ)
  selectedOutput : List ℕ
  stationarityOutput : List ℕ
  gateOutput : List ℕ
  output : List ℕ

structure CompletedProcess where
  returncode : ℤ
  stdout : List ℕ
  stderr : List ℕ

/-- What the executor meets outside; an exception is given by its type. The texts of `inspect` and
of the gate report are given as what is decoded of them. -/
structure PrestartSurroundings where
  isFile : List ℕ → Except String Bool
  pathExists : List ℕ → Except String Bool
  outputMkdir : Except String Unit
  policyText : Except String (List ℕ)
  interlock : Option (List ℕ)
  inspectReturncode : List ℕ → Except String ℤ
  inspectObjects : Except String Json
  executable : List ℕ
  runGate : List (List ℕ) → Except String CompletedProcess
  gateOutputIsFile : Except String Bool
  gateReport : Except String Json
  prestartNs : ℤ
  dockerStartInvokeNs : ℤ
  dockerStart : List ℕ → Except String CompletedProcess
  outputWrite : Except String Unit
  print : List ℕ → Except String Unit

/-! ### The result -/

inductive GateState
  | notEvaluated | pass | fail
  deriving DecidableEq

inductive BlockingReason
  | finalPrecontrolGateFail | staleAtPrestart | staleAtDockerStartInvocation
  | dockerStartFailedAfterSingleInvocation
  deriving DecidableEq

def BlockingReason.text : BlockingReason → String
  | finalPrecontrolGateFail => "FINAL_PRECONTROL_GATE_FAIL"
  | staleAtPrestart => "STALE_AT_PRESTART"
  | staleAtDockerStartInvocation => "STALE_AT_DOCKER_START_INVOCATION"
  | dockerStartFailedAfterSingleInvocation => "DOCKER_START_FAILED_AFTER_SINGLE_INVOCATION"

/-- An instant and the age of the sample then, in milliseconds. -/
structure SampleAge where
  utcNs : ℤ
  ageMs : ℚ

/-- The dictionary `result`; a key that has not been set is `none`, and `some none` is `null`. -/
structure PrestartResult where
  mode : PrestartMode
  experimentId : List ℕ
  runId : List ℕ
  finalGateProcessRc : ℤ
  finalGateAdmission : Json
  latestSampleTimestampUtcNs : ℤ
  gateDecisionUtcNs : ℤ
  maximumAllowedSampleAgeMs : PyDecimal
  prestartFreshnessGate : GateState
  atomicPrestartGate : GateState
  dockerStartInvocationCount : ℤ
  dockerStartExecuted : Bool
  wouldStart : Bool
  blockingReason : Option (Option BlockingReason)
  prestart : Option SampleAge
  gateDecisionToPrestartMs : Option ℚ
  dockerStartInvoke : Option SampleAge
  dockerStart : Option CompletedProcess

/-- `starts` are the containers of the calls of `docker start`, and `output` is the result file once
it has been written completely. -/
structure PrestartState where
  starts : List (List ℕ)
  output : Option PrestartResult

/-- A `PrestartError`, given by its text and what the text ends in, or another exception. -/
inductive PrestartExit
  | prestartError (message : String) (detail : List ℕ)
  | raised (exception : String)

abbrev Prestart := Attempt PrestartState PrestartExit

def prestartError {α : Type} (message : String) (detail : List ℕ) : Prestart α :=
  throw (.prestartError message detail)

def orRaise {α : Type} : Except String α → Prestart α
  | .ok a => pure a
  | .error exception => throw (.raised exception)

def demand (c : Prop) [Decidable c] (message : String) : Prestart PUnit :=
  if c then pure ⟨⟩ else prestartError message []

/-! ### The policy -/

def policyLine (values : List (List ℕ × List ℕ)) (raw : List ℕ) :
    Except PrestartExit (List (List ℕ × List ℕ)) :=
  let line := strip raw
  if line = [] ∨ line.head? = some 35 then .ok values
  else if 61 ∉ line then .error (.prestartError "invalid policy line: " line)
  else
    let key := line.takeWhile (· ≠ 61)
    if (values.lookup key).isSome then .error (.prestartError "duplicate policy key: " key)
    else .ok (values ++ [(key, (line.dropWhile (· ≠ 61)).drop 1)])

/-- The required keys in order. -/
def policyKeys : List String :=
  ["FINAL_GATE_FRESHNESS_PASS_REQUIRED", "FINAL_GATE_MAX_AGE_AT_DOCKER_START_MS",
    "FINAL_GATE_OUTPUT_STATIONARITY_PASS_REQUIRED", "FINAL_GATE_SELECTION"]

/-- `load_policy`, as what the keys are set to. -/
def loadPolicy (text : List ℕ) : Except PrestartExit (String → List ℕ) := do
  let values ← (splitlines text).foldlM policyLine []
  let missing := policyKeys.filter fun key => (values.lookup (chars key)).isNone
  if missing ≠ [] then
    .error (.prestartError "missing policy keys: " ((chars ",").intercalate (missing.map chars)))
  else
    let policy := fun key => (values.lookup (chars key)).getD []
    if policy "FINAL_GATE_SELECTION" ≠ chars "LATEST_50_COMPLETE_CONTIGUOUS_SAMPLES" then
      .error (.prestartError "unexpected final-gate selection policy" [])
    else if policy "FINAL_GATE_OUTPUT_STATIONARITY_PASS_REQUIRED" ≠ chars "YES" then
      .error (.prestartError "stationarity PASS is not mandatory" [])
    else if policy "FINAL_GATE_FRESHNESS_PASS_REQUIRED" ≠ chars "YES" then
      .error (.prestartError "freshness PASS is not mandatory" [])
    else .ok policy

/-- The greatest exponent of a decimal in the default context. -/
def maxExponent : ℤ := 999999

/-- `int(max_age_ms * Decimal("1000000"))`. -/
def maxAgeNsOf : PyDecimal → Except String ℤ
  | .finite ms =>
      let product := dmul defaultPrecision ms 1000000
      if maxExponent < Int.log 10 |product| then .error "Overflow"
      else .ok (if 0 ≤ product then ⌊product⌋ else ⌈product⌉)
  | .infinity _ => .error "OverflowError"
  | .nan => .error "ValueError"
  | .signalingNan => .error "InvalidOperation"

/-- The maximum age in milliseconds and in nanoseconds. -/
structure MaxAge where
  ms : PyDecimal
  ns : ℤ

/-- `Decimal(text)`. -/
def decimalValue (text : List ℕ) : Except String PyDecimal :=
  match decimalOfText text with
  | some value => .ok value
  | none => .error "InvalidOperation"

def maxAgeOf (text : List ℕ) : Except String MaxAge := do
  let ms ← decimalValue text
  let ns ← maxAgeNsOf ms
  return ⟨ms, ns⟩

/-! ### Decoded values -/

/-- `value[key]`. -/
def subscript (value : Json) (key : String) : Except String Json :=
  match value with
  | .obj members =>
      match dictLookup members (chars key) with
      | some item => .ok item
      | none => .error "KeyError"
  | _ => .error "TypeError"

/-- `int(value)`. -/
def intValue (value : Json) : Except String ℤ :=
  match intOf value, value with
  | some n, _ => .ok n
  | none, .str _ => .error "ValueError"
  | none, .num _ => .error "OverflowError"
  | none, _ => .error "TypeError"

/-- `bool(value)`. -/
def truth : Json → Bool
  | .null => false
  | .str units => units ≠ []
  | .arr elements => !elements.isEmpty
  | .obj members => !members.isEmpty
  | value => !equalsInt value 0

structure GateReport where
  latestSampleNs : ℤ
  decisionNs : ℤ
  admission : Json

def gateReportOf (report : Json) : Except String GateReport := do
  let latestSampleNs ← intValue (← subscript report "latest_sample_timestamp_utc_ns")
  let decisionNs ← intValue (← subscript report "decision_utc_ns")
  let admission ← subscript report "precontrol_admission_gate"
  return ⟨latestSampleNs, decisionNs, admission⟩

section
variable (o : PrestartSurroundings) (args : PrestartArgs)

/-! ### Before the gate -/

def requireFile (path : List ℕ) : Prestart PUnit := do
  let isFile ← orRaise (o.isFile path)
  if isFile then pure ⟨⟩ else prestartError "required input missing: " path

def requireAbsent (path : List ℕ) : Prestart PUnit := do
  let present ← orRaise (o.pathExists path)
  if present then prestartError "output already exists: " path else pure ⟨⟩

/-- `objects[0]` behind the check of `len(objects)`. -/
def soleObject (objects : Json) : Prestart Json :=
  let cardinality (n : ℕ) (exception : String) : Prestart Json :=
    if n ≠ 1 then prestartError "unexpected docker inspect cardinality" []
    else throw (.raised exception)
  match objects with
  | .arr [item] => pure item
  | .arr elements => cardinality elements.length "IndexError"
  | .obj members => cardinality (members.map Prod.fst).dedup.length "KeyError"
  | .str units => cardinality units.length "TypeError"
  | _ => throw (.raised "TypeError")

/-- `inspect_live_container`. -/
def inspectLiveContainer (name : List ℕ) : Prestart PUnit := do
  demand (name ≠ []) "live-start requires actuator container"
  demand ((chars "prompt12-siso-actuator-").isPrefixOf name) "unexpected actuator container name"
  let returncode ← orRaise (o.inspectReturncode name)
  demand (returncode = 0) "actuator container inspect failed"
  let objects ← orRaise o.inspectObjects
  let item ← soleObject objects
  let state ← orRaise (subscript item "State")
  let status ← orRaise (subscript state "Status")
  demand (isText status (chars "created") = true) "actuator container is not in created state"
  let running ← orRaise (subscript state "Running")
  demand (truth running = false) "actuator container is already running"
  let restarts ← orRaise (subscript item "RestartCount" >>= intValue)
  demand (restarts = 0) "actuator restart count is not zero"
  let host ← orRaise (subscript item "HostConfig")
  let restartPolicy ← orRaise (subscript host "RestartPolicy" >>= (subscript · "Name"))
  demand (isText restartPolicy (chars "no") = true) "actuator restart policy is not no"

/-- The checks of the paths and of the policy. -/
def loadMaxAge : Prestart MaxAge := do
  [args.gate, args.input, args.schema, args.policy, args.evaluator].forM (requireFile o)
  [args.selectedOutput, args.stationarityOutput, args.gateOutput, args.output].forM (requireAbsent o)
  orRaise o.outputMkdir
  let text ← orRaise o.policyText
  let policy ← Attempt.ofExcept (loadPolicy text)
  orRaise (maxAgeOf (policy "FINAL_GATE_MAX_AGE_AT_DOCKER_START_MS"))

/-! ### The gate -/

def gateCommand : List (List ℕ) :=
  [o.executable, args.gate, chars "--input", args.input, chars "--schema", args.schema,
    chars "--policy", args.policy, chars "--evaluator", args.evaluator,
    chars "--experiment-id", args.experimentId, chars "--run-id", args.runId,
    chars "--selected-output", args.selectedOutput,
    chars "--stationarity-output", args.stationarityOutput, chars "--output", args.gateOutput] ++
  (args.cutoffUtcNs.map fun ns => [chars "--cutoff-utc-ns", intText ns]).getD [] ++
  (args.gateDecisionUtcNs.map fun ns => [chars "--decision-utc-ns", intText ns]).getD []

/-- A line that ends in a number is given by its name. -/
def printLine (line : String) : Prestart PUnit := orRaise (o.print (chars line))

/-- The output of a process is printed, if there is any. -/
def printOutput (text : List ℕ) : Prestart PUnit :=
  if text ≠ [] then orRaise (o.print text) else pure ⟨⟩

/-- The final gate is run, and its report is read. -/
def runFinalGate : Prestart (ℤ × GateReport) := do
  let process ← orRaise (o.runGate (gateCommand o args))
  orRaise (o.print (chars "FINAL_GATE_PROCESS_RC=" ++ intText process.returncode))
  printOutput o process.stdout
  printOutput o process.stderr
  demand (process.returncode ∈ [(0 : ℤ), 10]) "precontrol gate execution failed"
  let isFile ← orRaise o.gateOutputIsFile
  demand (isFile = true) "precontrol gate output missing"
  let report ← orRaise (o.gateReport >>= gateReportOf)
  return (process.returncode, report)

/-! ### The decision -/

/-- `str(Decimal(ns) / Decimal("1000000"))`, as a number. -/
def millis (ns : ℤ) : ℚ := ddiv defaultPrecision ns 1000000

def initialResult (maxAge : MaxAge) (rc : ℤ) (report : GateReport) : PrestartResult where
  mode := args.mode
  experimentId := args.experimentId
  runId := args.runId
  finalGateProcessRc := rc
  finalGateAdmission := report.admission
  latestSampleTimestampUtcNs := report.latestSampleNs
  gateDecisionUtcNs := report.decisionNs
  maximumAllowedSampleAgeMs := maxAge.ms
  prestartFreshnessGate := .notEvaluated
  atomicPrestartGate := .fail
  dockerStartInvocationCount := 0
  dockerStartExecuted := false
  wouldStart := false
  blockingReason := none
  prestart := none
  gateDecisionToPrestartMs := none
  dockerStartInvoke := none
  dockerStart := none

/-- `write_result`, the lines that are printed behind it, and the exit status. -/
def finish (result : PrestartResult) (lines : List String) (rc : ℤ) : Prestart ℤ := do
  orRaise o.outputWrite
  modify fun s => { s with output := some result }
  lines.forM (printLine o)
  return rc

/-- `subprocess.run` of `docker start`. -/
def startContainer (name : List ℕ) : Prestart CompletedProcess := do
  modify fun s => { s with starts := s.starts ++ [name] }
  orRaise (o.dockerStart name)

/-- The part behind the final causal boundary. -/
def invokeDockerStart (maxAge : MaxAge) (report : GateReport) (result : PrestartResult) :
    Prestart ℤ := do
  let age := o.dockerStartInvokeNs - report.latestSampleNs
  let invoked := { result with
    dockerStartInvoke := some ⟨o.dockerStartInvokeNs, millis age⟩ }
  if age < 0 ∨ maxAge.ns < age then
    finish o { invoked with
        prestartFreshnessGate := .fail
        atomicPrestartGate := .fail
        blockingReason := some (some .staleAtDockerStartInvocation) }
      ["ATOMIC_PRESTART_DOCKER_START_AGE_GATE=FAIL", "ATOMIC_PRESTART_START_EXECUTED=NO"] 10
  else do
    let process ← startContainer o (args.actuatorContainer.getD [])
    finish o { invoked with
        dockerStartInvocationCount := 1
        dockerStartExecuted := true
        dockerStart := some process
        blockingReason := some (if process.returncode = 0 then none
          else some .dockerStartFailedAfterSingleInvocation) }
      ["ATOMIC_PRESTART_DOCKER_START_AGE_GATE=PASS",
        "ATOMIC_PRESTART_DOCKER_START_INVOCATION_COUNT=1", "ATOMIC_PRESTART_DOCKER_START_RC",
        "ATOMIC_PRESTART_REPEAT_POLICY=NEVER_REPEAT_AFTER_START_INVOCATION"]
      (if process.returncode = 0 then 0 else 11)

/-- The part of `main` behind the report of the gate. -/
def decideStart (maxAge : MaxAge) (prestartNs rc : ℤ) (report : GateReport) : Prestart ℤ := do
  let result := initialResult args maxAge rc report
  if rc ≠ 0 ∨ ¬ isText report.admission (chars "PASS") = true then
    finish o { result with blockingReason := some (some .finalPrecontrolGateFail) }
      ["ATOMIC_PRESTART_FINAL_GATE=FAIL", "ATOMIC_PRESTART_START_EXECUTED=NO"] 10
  else do
    let age := prestartNs - report.latestSampleNs
    let fresh := 0 ≤ age ∧ age ≤ maxAge.ns
    let evaluated := { result with
      prestart := some ⟨prestartNs, millis age⟩
      gateDecisionToPrestartMs := some (millis (prestartNs - report.decisionNs))
      prestartFreshnessGate := if fresh then GateState.pass else .fail }
    printLine o "ATOMIC_PRESTART_SAMPLE_AGE_MS"
    printLine o "ATOMIC_PRESTART_MAX_ALLOWED_AGE_MS"
    if ¬ fresh then
      finish o { evaluated with blockingReason := some (some .staleAtPrestart) }
        ["ATOMIC_PRESTART_FRESHNESS_GATE=FAIL", "ATOMIC_PRESTART_START_EXECUTED=NO"] 10
    else
      let admitted := { evaluated with
        prestartFreshnessGate := GateState.pass, atomicPrestartGate := .pass }
      match args.mode with
      | .simulate =>
          finish o { admitted with wouldStart := true, blockingReason := some none }
            ["ATOMIC_PRESTART_FRESHNESS_GATE=PASS", "ATOMIC_PRESTART_GATE=PASS",
              "ATOMIC_PRESTART_WOULD_START=YES", "ATOMIC_PRESTART_START_EXECUTED=NO"] 0
      | .liveStart => invokeDockerStart o args maxAge report admitted

def gateAndStart (maxAge : MaxAge) (prestartNs : ℤ) : Prestart ℤ := do
  let (rc, report) ← runFinalGate o args
  decideStart o args maxAge prestartNs rc report

def simulate (maxAge : MaxAge) : Prestart ℤ := do
  demand (args.gateDecisionUtcNs ≠ none) "simulate mode requires --gate-decision-utc-ns"
  match args.prestartUtcNs with
  | none => prestartError "simulate mode requires --prestart-utc-ns" []
  | some prestartNs => do
      demand (args.actuatorContainer = none) "simulate mode forbids actuator container"
      gateAndStart o args maxAge prestartNs

def liveStart (maxAge : MaxAge) : Prestart ℤ := do
  demand (args.gateDecisionUtcNs = none) "live-start forbids synthetic gate time"
  demand (args.prestartUtcNs = none) "live-start forbids synthetic prestart time"
  if o.interlock ≠ some (chars "YES") then do
    printLine o "PROMPT12_LIVE_CONTROL_INTERLOCK=BLOCKED"
    printLine o "REQUIRED_ENV=SCI_ORAN_PROMPT12_LIVE_CONTROL_ENABLE=YES"
    return 77
  else do
    -- The inspection stands in front of the gate, so that no time passes behind it.
    inspectLiveContainer o (args.actuatorContainer.getD [])
    gateAndStart o args maxAge o.prestartNs

def runPrestart : Prestart ℤ := do
  let maxAge ← loadMaxAge o args
  match args.mode with
  | .simulate => simulate o args maxAge
  | .liveStart => liveStart o args maxAge

/-- `main`: the exit status or the exception, and the state at the end. -/
def prestartMain : Except PrestartExit ℤ × PrestartState :=
  Attempt.outcome (runPrestart o args) ⟨[], none⟩

/-- The exit status of the process; an exception that is not caught ends in 1. -/
def exitStatus : ℤ :=
  match (prestartMain o args).1 with
  | .ok rc => rc
  | .error (.prestartError _ _) => 64
  | .error (.raised _) => 1

end

end TcdOran.Harness.AtomicPrestart
