import TcdOran.Lib.Attempt
import TcdOran.Lib.PythonNumber

/-! prompt12-precontrol-trigger-executor.py. -/
namespace TcdOran.Harness
open TcdOran.Lib Python

def controlAuthorizationToken : String := "PROMPT12_T2_EXPLICIT_FIFO_CONTROL"

inductive ExecutorMode
  | noControl | fifo
  deriving DecidableEq

structure ExecutorArgs where
  mode : ExecutorMode
  maxAgeMs : List ℕ
  executorStartUtcNs : Option (List ℕ)
  fifoPath : Option (List ℕ)
  triggerToken : List ℕ
  controlAuthorizationToken : Option (List ℕ)

/-- What `stat` says of the FIFO path. -/
inductive FifoStat
  | osError
  | raises (exception : String)
  | fifo
  | notFifo

/-- `write_text` on the result file. -/
inductive OutputWrite
  | complete
  | notCreated (exception : String)
  | incomplete (exception : String)

/-- What the executor meets outside; an exception is given by its type. `source` is what is read
and decoded of the precontrol file, `none` where that raises. -/
structure ExecutorSurroundings where
  sourceIsFile : Except String Bool
  source : Option Json
  fifoStat : FifoStat
  startNs : ℤ
  triggerStartNs : ℤ
  triggerEndNs : ℤ
  openFifo : Except String Unit
  writeFifo : List UInt8 → Except String ℕ
  closeFifo : Except String Unit
  outputExists : Except String Bool
  outputMkdir : Except String Unit
  outputWrite : OutputWrite
  print : Except String Unit

inductive ResultValue
  | text (value : String)
  | units (value : List ℕ)
  | int (value : ℤ)
  | json (value : Json)

/-- The dictionary `result`; an update is appended, and the last entry of a key counts. -/
abbrev ExecutorResult := List (String × ResultValue)

/-- `fd` says that the variable holds a descriptor, and `output` is the result file once it has
been written completely. -/
structure ExecutorState where
  result : ExecutorResult
  fd : Bool
  writeAttemptCount : ℕ
  writeSuccessCount : ℕ
  fifoWrites : List (List UInt8)
  output : Option ExecutorResult

/-- An early `return fail_closed(..)`, or an exception. -/
inductive ExecutorExit
  | failClosed (reason : String) (rc : ℤ)
  | raised (exception : String)

abbrev Executor := Attempt ExecutorState ExecutorExit

def raised {α : Type} (exception : String) : Executor α := throw (.raised exception)

def orRaise {α : Type} : Except String α → Executor α
  | .ok a => pure a
  | .error exception => raised exception

def closeUnless (c : Prop) [Decidable c] (reason : String) (rc : ℤ) : Executor PUnit :=
  if c then pure ⟨⟩ else throw (.failClosed reason rc)

def orClose {α : Type} (x : Option α) (reason : String) (rc : ℤ) : Executor α :=
  match x with
  | some a => pure a
  | none => throw (.failClosed reason rc)

/-- `result.update(..)`. -/
def update (entries : ExecutorResult) : Executor PUnit :=
  modify fun s => { s with result := s.result ++ entries }

/-! ### The checks -/

/-- `source.get(key)`; a source that is no dictionary has no `get`. -/
def sourceGet (members : List (List ℕ × Json)) (key : String) : Json :=
  (dictLookup members (chars key)).getD .null

/-- The names that the result gives to the fields of the source. -/
def sourceFields : List (String × String) :=
  [("SOURCE_SELECTION", "selection"),
   ("SOURCE_SELECTED_COMPLETE_COUNT", "selected_complete_count"),
   ("SOURCE_WINDOW_BINDING_GATE", "stationarity_window_binding_gate"),
   ("SOURCE_OUTPUT_STATIONARITY_GATE", "output_stationarity_gate"),
   ("SOURCE_FRESHNESS_GATE", "freshness_gate"),
   ("SOURCE_PRECONTROL_ADMISSION_GATE", "precontrol_admission_gate")]

/-- `required_source_pass`. -/
def requiredSourcePass (members : List (List ℕ × Json)) : Bool :=
  isText (sourceGet members "selection") (chars "latest_50_complete_contiguous_samples") &&
  equalsInt (sourceGet members "selected_complete_count") 50 &&
  isText (sourceGet members "stationarity_window_binding_gate") (chars "PASS") &&
  isText (sourceGet members "output_stationarity_gate") (chars "PASS") &&
  isText (sourceGet members "freshness_gate") (chars "PASS") &&
  isText (sourceGet members "precontrol_admission_gate") (chars "PASS")

structure SourceTiming where
  latestSampleNs : ℤ
  decisionNs : ℤ
  maxAgeMs : PyDecimal
  requestedMaxAgeMs : PyDecimal

/-- The conversions under one `try`. -/
def sourceTiming (members : List (List ℕ × Json)) (maxAgeMs : List ℕ) : Option SourceTiming := do
  let latest ← dictLookup members (chars "latest_sample_timestamp_utc_ns")
  let latestSampleNs ← intOf latest
  let decision ← dictLookup members (chars "decision_utc_ns")
  let decisionNs ← intOf decision
  let maximum ← dictLookup members (chars "maximum_allowed_age_ms")
  let sourceMaxAgeMs ← decimalOf maximum
  let requestedMaxAgeMs ← decimalOfText maxAgeMs
  return ⟨latestSampleNs, decisionNs, sourceMaxAgeMs, requestedMaxAgeMs⟩

/-- `left != right` of decimals. -/
def decimalsDiffer (left right : PyDecimal) : Executor Bool :=
  orRaise (match decimalDiffers left right with
    | some differ => .ok differ
    | none => .error "InvalidOperation")

/-- The injected start of the executor, if one is given. -/
def injectedStart (args : ExecutorArgs) : Executor (Option ℤ) :=
  match args.executorStartUtcNs with
  | none => pure none
  | some text => do
      closeUnless (args.mode = .noControl) "EXECUTOR_START_OVERRIDE_FORBIDDEN_IN_FIFO_MODE" 33
      let start ← orClose (intOfText text) "EXECUTOR_START_UTC_NS_ARGUMENT_INVALID" 34
      closeUnless (0 < start) "EXECUTOR_START_UTC_NS_ARGUMENT_INVALID" 34
      return some start

section
variable (o : ExecutorSurroundings) (args : ExecutorArgs)

def statFifo : Executor Bool :=
  match o.fifoStat with
  | .osError => throw (.failClosed "FIFO_PATH_UNAVAILABLE" 29)
  | .raises exception => raised exception
  | .fifo => pure true
  | .notFifo => pure false

def checkControlArguments : Executor PUnit :=
  match args.mode with
  | .noControl =>
      closeUnless (args.fifoPath = none ∧ args.controlAuthorizationToken = none)
        "NO_CONTROL_MODE_REJECTS_CONTROL_ARGUMENTS" 26
  | .fifo => do
      closeUnless (args.controlAuthorizationToken = some (chars controlAuthorizationToken))
        "CONTROL_AUTHORIZATION_TOKEN_INVALID" 27
      closeUnless (args.fifoPath.getD [] ≠ []) "FIFO_PATH_REQUIRED" 28
      let isFifo ← statFifo o
      closeUnless (isFifo = true) "CONTROL_PATH_IS_NOT_FIFO" 30
      closeUnless (10 ∉ args.triggerToken) "TRIGGER_TOKEN_CONTAINS_NEWLINE" 31

/-- `int(requested_max_age_ms * Decimal("1000000"))` behind the check that it is 800. -/
def maxAgeNs : ℤ := 800 * 1000000

/-- The members of a source whose gates have passed. -/
def readSource : Executor (List (List ℕ × Json)) := do
  let isFile ← orRaise o.sourceIsFile
  closeUnless (isFile = true) "PRECONTROL_JSON_MISSING" 20
  let source ← orClose o.source "PRECONTROL_JSON_INVALID" 21
  let members ← orRaise (match source with
    | .obj members => .ok members
    | _ => .error "AttributeError")
  update (sourceFields.map fun (name, key) => (name, .json (sourceGet members key)))
  closeUnless (requiredSourcePass members = true) "SOURCE_PRECONTROL_GATE_NOT_PASS" 22
  return members

def checkAgePolicy (members : List (List ℕ × Json)) : Executor SourceTiming := do
  let timing ← orClose (sourceTiming members args.maxAgeMs) "SOURCE_TIMING_FIELDS_INVALID" 23
  let mismatch ← decimalsDiffer timing.maxAgeMs timing.requestedMaxAgeMs
  closeUnless (mismatch = false) "MAX_AGE_POLICY_MISMATCH" 24
  let nonFrozen ← decimalsDiffer timing.requestedMaxAgeMs (.finite 800)
  closeUnless (nonFrozen = false) "NON_FROZEN_MAX_AGE_NOT_ALLOWED" 25
  return timing

/-- The last checks, against the start of the executor. The texts of the ages are left out of the
result. -/
def checkStart (timing : SourceTiming) (injected : Option ℤ) : Executor PUnit := do
  let startNs := injected.getD o.startNs
  update [("SOURCE_LATEST_SAMPLE_UTC_NS", .int timing.latestSampleNs),
    ("SOURCE_DECISION_UTC_NS", .int timing.decisionNs), ("EXECUTOR_START_UTC_NS", .int startNs),
    ("EXECUTOR_START_TIME_SOURCE",
      .text (if injected.isSome then "EXPLICIT_NO_CONTROL_ARGUMENT" else "SYSTEM_CLOCK"))]
  if startNs < timing.decisionNs then
    update [("EXECUTOR_START_AFTER_SOURCE_DECISION_GATE", .text "FAIL")]
    throw (.failClosed "EXECUTOR_START_PRECEDES_SOURCE_DECISION" 35)
  update [("EXECUTOR_START_AFTER_SOURCE_DECISION_GATE", .text "PASS")]
  let ageNs := startNs - timing.latestSampleNs
  if ageNs < 0 ∨ maxAgeNs < ageNs then
    update [("EXECUTOR_START_SAMPLE_AGE_GATE", .text "FAIL")]
    throw (.failClosed "EXECUTOR_START_SAMPLE_AGE_OUT_OF_BOUNDS" 32)
  update [("EXECUTOR_START_SAMPLE_AGE_GATE", .text "PASS")]

/-- The part of `main` in front of the dry run or the trigger. -/
def checkGates : Executor PUnit := do
  let members ← readSource o
  let timing ← checkAgePolicy args members
  let injected ← injectedStart args
  checkControlArguments o args
  checkStart o timing injected

/-! ### The result file -/

/-- `write_result`. -/
def writeResult : Executor PUnit := do
  if ← orRaise o.outputExists then raised "RuntimeError"
  orRaise o.outputMkdir
  match o.outputWrite with
  | .complete => modify fun s => { s with output := some s.result }
  | .notCreated exception | .incomplete exception => raised exception
  orRaise o.print

/-- `fail_closed`, as the handler of the early returns. -/
def failClosedResult : ExecutorExit → Executor ℤ
  | .failClosed reason rc => do
      update [("EXECUTOR_GATE", .text "FAIL_CLOSED"), ("FAIL_CLOSED_REASON", .text reason),
        ("CONTROL_EXECUTED", .text "NO"), ("TRIGGER_WRITE_ATTEMPT_COUNT", .int 0),
        ("TRIGGER_WRITE_SUCCESS_COUNT", .int 0), ("SCIENTIFIC_TRIGGER_CONSUMED", .text "NO"),
        ("SCIENTIFIC_TRIGGER_REPLAY_DECISION", .text "NOT_APPLICABLE_NO_WRITE_ATTEMPT")]
      writeResult o
      return rc
  | .raised exception => raised exception

def dryRun : Executor ℤ := do
  update [("EXECUTOR_GATE", .text "PASS"), ("CONTROL_EXECUTED", .text "NO"),
    ("TRIGGER_WRITE_ATTEMPT_COUNT", .int 0), ("TRIGGER_WRITE_SUCCESS_COUNT", .int 0),
    ("SCIENTIFIC_TRIGGER_CONSUMED", .text "NO"), ("NO_CONTROL_DRY_RUN_GATE", .text "PASS")]
  writeResult o
  return 0

/-! ### The trigger -/

def payload : Option (List UInt8) := encode (args.triggerToken ++ [10])

/-- `os.write`. -/
def writeFifo (bytes : List UInt8) : Executor ℕ := do
  modify fun s => { s with fifoWrites := s.fifoWrites ++ [bytes] }
  orRaise (o.writeFifo bytes)

/-- What stands under the `try` of the trigger. -/
def submit : Executor PUnit := do
  orRaise o.openFifo
  modify fun s => { s with fd := true }
  let bytes ← orRaise (match payload args with
    | some bytes => .ok bytes
    | none => .error "UnicodeEncodeError")
  modify fun s => { s with writeAttemptCount := 1 }
  let written ← writeFifo o bytes
  if written ≠ bytes.length then raised "RuntimeError"
  modify fun s => { s with writeSuccessCount := 1 }

def exceptionName : ExecutorExit → String
  | .failClosed reason _ => reason
  | .raised exception => exception

def failureEntries (s : ExecutorState) (e : ExecutorExit) : ExecutorResult :=
  let attempted := decide (s.writeAttemptCount ≠ 0)
  [("EXECUTOR_GATE", .text "FAIL_AFTER_AGE_GATE"),
    ("FAIL_CLOSED_REASON", .text ("FIFO_EXECUTION_FAILED:" ++ exceptionName e)),
    ("CONTROL_EXECUTED", .text (if attempted then "UNKNOWN_AFTER_WRITE_ATTEMPT" else "NO")),
    ("TRIGGER_WRITE_ATTEMPT_COUNT", .int s.writeAttemptCount),
    ("TRIGGER_WRITE_SUCCESS_COUNT", .int s.writeSuccessCount),
    ("SCIENTIFIC_TRIGGER_CONSUMED", .text (if attempted then "UNKNOWN" else "NO")),
    ("SCIENTIFIC_TRIGGER_REPLAY_DECISION", .text (if attempted then "NEVER_AUTOMATICALLY_REPLAY"
      else "NOT_APPLICABLE_NO_WRITE_ATTEMPT"))]

/-- The `except` branch of the trigger. -/
def recordFailure (e : ExecutorExit) : Executor ℤ := do
  let s ← MonadState.get
  update (failureEntries s e)
  writeResult o
  return 40

/-- The `finally` branch of the trigger. -/
def closeFifo : Executor PUnit := do
  let s ← MonadState.get
  if s.fd then orRaise o.closeFifo

def successEntries : ExecutorResult :=
  [("TRIGGER_EXECUTOR_END_UTC_NS", .int o.triggerEndNs), ("EXECUTOR_GATE", .text "PASS"),
    ("CONTROL_EXECUTED", .text "YES"), ("TRIGGER_WRITE_ATTEMPT_COUNT", .int 1),
    ("TRIGGER_WRITE_SUCCESS_COUNT", .int 1), ("SCIENTIFIC_TRIGGER_CONSUMED", .text "YES"),
    ("SCIENTIFIC_TRIGGER_REPLAY_DECISION", .text "NEVER_REPEAT")]

def recordSuccess : Executor ℤ := do
  update (successEntries o)
  writeResult o
  return 0

/-- The part of `main` behind the age gate in FIFO mode. -/
def trigger : Executor ℤ := do
  update [("TRIGGER_EXECUTOR_START_UTC_NS", .int o.triggerStartNs)]
  let early ← tryFinally
    (tryCatch (do submit o args; return none) fun e => some <$> recordFailure o e)
    (closeFifo o)
  match early with
  | some rc => return rc
  | none => recordSuccess o

def runExecutor : Executor ℤ := do
  checkGates o args
  match args.mode with
  | .noControl => dryRun o
  | .fifo => trigger o args

def executorStart : ExecutorState where
  result :=
    [("SCHEMA", .text "sci_oran_prompt12_atomic_executor_v1"),
     ("MODE", .text (match args.mode with
       | .noControl => "no-control"
       | .fifo => "fifo")),
     ("MAX_AGE_MS_ARGUMENT", .units args.maxAgeMs),
     ("EXECUTOR_START_UTC_NS_ARGUMENT", .units (args.executorStartUtcNs.getD (chars "NONE"))),
     ("FINAL_RUNTIME_PROBE_AFTER_AGE_GATE", .text "NO"),
     ("DOCKER_EXECUTION_BY_EXECUTOR", .text "NO"), ("GNB_LOG_SCAN_BY_EXECUTOR", .text "NO")]
  fd := false
  writeAttemptCount := 0
  writeSuccessCount := 0
  fifoWrites := []
  output := none

/-- `main`: the exit status or the exception, and the state at the end. -/
def executorMain : Except ExecutorExit ℤ × ExecutorState :=
  Attempt.outcome (tryCatch (runExecutor o args) (failClosedResult o))
    (executorStart args)

end

end TcdOran.Harness
