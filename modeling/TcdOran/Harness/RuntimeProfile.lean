import TcdOran.Harness.ExperimentIdentity
import TcdOran.Harness.ResumeAgreement
import TcdOran.Harness.StationarityAdapter
import TcdOran.Lib.Attempt
import TcdOran.Lib.JsonDocument

/-! prompt12-bounded-runtime-profile-materializer.py: a fresh run directory with the runtime profile,
as the production binding builder reads it. -/
namespace TcdOran.Harness.RuntimeProfile
open TcdOran.Lib Python ProductionBinding Attempt
open Handoff hiding Command

def profileSchema : List ℕ := chars "sci_oran_prompt12_bounded_sequence_runtime_profile_v1"
def admissionSchema : List ℕ := chars "sci_oran_r6_f_portable_runtime_admission_v1"
def controlAuthorizationTokenPlaceholder : List ℕ := chars "@PROMPT12_CONTROL_AUTHORIZATION_TOKEN@"
def timelineToken : List ℕ := chars "@PROMPT12_ACTUATOR_TIMELINE@"
def ratios : List ℕ := [50, 75, 100, 75, 50, 25]

def admissionKeys : List String :=
  ["schema", "host", "python_executable", "python_version", "jsonschema_required",
    "jsonschema_version", "draft202012_capability", "qualification_gate"]

def frozenKeys : List String :=
  ["python_executable", "tool_paths", "traffic_duration_s", "trigger_token", "stable_ms",
    "snapshot_timeout_ms", "timeline_readiness_poll_ms", "timeline_readiness_timeout_ms"]

/-- How an execution fails: a `MaterializerError`, which ends with 65; another error that `main`
catches, by its type, which ends with 70; or a limit of the JSON reader. -/
inductive Failure
  | materializer (reason : List ℕ)
  | unexpected (errorType : List ℕ)
  | beyondLimits
  deriving DecidableEq

abbrev Made := Except Failure

def failure (reason : String) : Failure := .materializer (chars reason)

/-- What reading a text file meets. -/
inductive Opened
  | refused (errorType : List ℕ)
  | undecodable
  | text (content : List ℕ)

/-- How writing a new file ends. What cannot be removed again may be left. -/
inductive WriteEnd
  | written
  | failed (errorType : List ℕ) (left : Option (List ℕ))

/-- What the materializer meets outside. -/
structure Surroundings where
  opened : AbsolutePath → Opened
  loads : List ℕ → Loaded
  isFile : AbsolutePath → Bool
  isExecutable : AbsolutePath → Bool
  isDirectory : AbsolutePath → Bool
  lexists : AbsolutePath → Bool
  /-- `stat.S_ISFIFO`, where `stat` answers. -/
  isFifo : AbsolutePath → Option Bool
  fqdn : List ℕ
  /-- The type of the error that `mkdir` raises. -/
  mkdirRefused : AbsolutePath → Option (List ℕ)
  writeEnd : AbsolutePath → WriteEnd

structure Args where
  evidenceRoot : List ℕ
  experimentId : List ℕ
  runId : List ℕ
  frozenConfig : List ℕ
  portableRuntimeAdmission : List ℕ
  actuatorFifoPath : List ℕ
  maxAgeMs : ℤ

/-! ### Checks of single values -/

def requireExactKeys (members : Members) (expected : List (List ℕ)) (label : List ℕ) : Made Unit := do
  let missing := expected.filter fun key => key ∉ members.map Prod.fst
  let extra := (members.map Prod.fst).dedup.filter fun key => key ∉ expected
  let listed (keys : List (List ℕ)) := if keys = [] then chars "NONE" else joinSorted keys
  require (missing = [] ∧ extra = []) (Failure.materializer
    (label ++ chars "_KEYS_INVALID:MISSING_" ++ listed missing ++ chars ":EXTRA_" ++ listed extra))

def invalid (label : List ℕ) : Failure := .materializer (label ++ chars "_INVALID")

def atLeast (minimum : ℤ) (value : Json) (label : List ℕ) : Made ℤ :=
  match value with
  | .num literal => do
      require (literal.isInteger ∧ minimum ≤ literal.intValue) (invalid label)
      return literal.intValue
  | _ => .error (invalid label)

def positiveInt (value : Json) (label : List ℕ) : Made ℤ := atLeast 1 value label

def nonnegativeInt (value : Json) (label : List ℕ) : Made ℤ := atLeast 0 value label

def nonemptyText (text label : List ℕ) : Made (List ℕ) := do
  require (text ≠ [] ∧ 0 ∉ text) (invalid label)
  return text

def nonemptyString (value : Json) (label : List ℕ) : Made (List ℕ) :=
  match value with
  | .str text => nonemptyText text label
  | _ => .error (invalid label)

/-- `value is True` -/
def isTrue : Json → Bool
  | .bool value => value
  | _ => false

section
variable (w : Surroundings)

def loadObject (path : AbsolutePath) (label : List ℕ) : Made Members :=
  let readFailed (errorType : List ℕ) : Made Members :=
    .error (.materializer (label ++ chars "_READ_FAILED:" ++ errorType))
  match w.opened path with
  | .refused errorType => readFailed errorType
  | .undecodable => .error (.unexpected (chars "UnicodeDecodeError"))
  | .text content =>
    match w.loads content with
    | .value (.obj members) => .ok members
    | .value _ => .error (.materializer (label ++ chars "_NOT_OBJECT"))
    | .syntaxError => readFailed (chars "JSONDecodeError")
    | .gaveUp => .error .beyondLimits

def absoluteFile (value : Json) (label : List ℕ) (executable : Bool) : Made AbsolutePath := do
  let text ← nonemptyString value label
  let path := absolutePath root text
  require (text.head? = some 47 ∧ w.isFile path)
    (Failure.materializer (label ++ chars "_NOT_ABSOLUTE_FILE"))
  require (executable → w.isExecutable path)
    (Failure.materializer (label ++ chars "_NOT_EXECUTABLE"))
  return path

def validateFifo (value : List ℕ) : Made AbsolutePath := do
  let text ← nonemptyText value (chars "ACTUATOR_FIFO_PATH")
  require (text.head? = some 47) (failure "ACTUATOR_FIFO_PATH_NOT_ABSOLUTE")
  let path := absolutePath root text
  require (w.isFifo path ≠ none) (failure "ACTUATOR_FIFO_PATH_UNAVAILABLE")
  require (w.isFifo path = some true) (failure "ACTUATOR_FIFO_PATH_NOT_FIFO")
  return path

/-- `validate_portable_runtime_admission`: the interpreter, which alone is used of its answer. -/
def validatePortableRuntimeAdmission (path : AbsolutePath) : Made AbsolutePath := do
  let label := chars "PORTABLE_RUNTIME_ADMISSION"
  let members ← loadObject w path label
  requireExactKeys members (admissionKeys.map chars) label
  let field (key : String) := member members (chars key)
  require (isText (field "schema") admissionSchema) (failure "PORTABLE_RUNTIME_ADMISSION_SCHEMA_INVALID")
  let host ← nonemptyString (field "host") (chars "PORTABLE_RUNTIME_ADMISSION_HOST")
  require (host = w.fqdn) (Failure.materializer
    (chars "PORTABLE_RUNTIME_ADMISSION_HOST_MISMATCH:" ++ host ++ chars ":" ++ w.fqdn))
  let python ← absoluteFile w (field "python_executable")
    (chars "PORTABLE_RUNTIME_ADMISSION_PYTHON_EXECUTABLE") true
  let _ ← nonemptyString (field "python_version") (chars "PORTABLE_RUNTIME_ADMISSION_PYTHON_VERSION")
  require (isTrue (field "jsonschema_required"))
    (failure "PORTABLE_RUNTIME_ADMISSION_JSONSCHEMA_REQUIRED_NOT_TRUE")
  let _ ← nonemptyString (field "jsonschema_version")
    (chars "PORTABLE_RUNTIME_ADMISSION_JSONSCHEMA_VERSION")
  require (isTrue (field "draft202012_capability"))
    (failure "PORTABLE_RUNTIME_ADMISSION_DRAFT202012_NOT_PASS")
  require (isText (field "qualification_gate") (chars "PASS"))
    (failure "PORTABLE_RUNTIME_ADMISSION_QUALIFICATION_NOT_PASS")
  return python

end

/-- The frozen configuration, without the interpreter of an earlier version. -/
structure Frozen where
  tools : ToolName → AbsolutePath
  trafficDurationS : ℤ
  triggerToken : List ℕ
  stableMs : ℤ
  snapshotTimeoutMs : ℤ
  timelineReadinessPollMs : ℤ
  timelineReadinessTimeoutMs : ℤ

section
variable (w : Surroundings)

def frozenTool (members : Members) (tool : ToolName) : Made AbsolutePath :=
  absoluteFile w (member members tool.key) (chars "TOOL_PATH_" ++ upperCase tool.key) false

def toolMembers (value : Json) : Made Members :=
  match value with
  | .obj members => .ok members
  | _ => .error (failure "TOOL_PATHS_NOT_OBJECT")

def validateFrozen (path : AbsolutePath) : Made Frozen := do
  let members ← loadObject w path (chars "FROZEN_CONFIG")
  requireExactKeys members (frozenKeys.map chars) (chars "FROZEN_CONFIG")
  let field (key : String) := member members (chars key)
  let legacyPython ← nonemptyString (field "python_executable") (chars "LEGACY_PYTHON_EXECUTABLE")
  require (legacyPython.head? = some 47) (failure "LEGACY_PYTHON_EXECUTABLE_NOT_ABSOLUTE")
  let tools ← toolMembers (field "tool_paths")
  requireExactKeys tools (ToolName.all.map ToolName.key) (chars "TOOL_PATHS")
  let toolList ← ToolName.all.mapM (frozenTool w tools)
  let trafficDurationS ← positiveInt (field "traffic_duration_s") (chars "TRAFFIC_DURATION_S")
  let triggerToken ← nonemptyString (field "trigger_token") (chars "TRIGGER_TOKEN")
  let stableMs ← nonnegativeInt (field "stable_ms") (chars "STABLE_MS")
  let snapshotTimeoutMs ← positiveInt (field "snapshot_timeout_ms") (chars "SNAPSHOT_TIMEOUT_MS")
  let timelineReadinessPollMs ← positiveInt (field "timeline_readiness_poll_ms")
    (chars "TIMELINE_READINESS_POLL_MS")
  let timelineReadinessTimeoutMs ← positiveInt (field "timeline_readiness_timeout_ms")
    (chars "TIMELINE_READINESS_TIMEOUT_MS")
  return {
    tools := entry ToolName.all toolList
    trafficDurationS, triggerToken, stableMs, snapshotTimeoutMs, timelineReadinessPollMs
    timelineReadinessTimeoutMs }

end

/-! ### What is written -/

/-- What is known before anything is written. -/
structure Prepared where
  experimentId : List ℕ
  runId : List ℕ
  frozen : Frozen
  python : AbsolutePath
  fifo : AbsolutePath
  maxAgeMs : ℤ
  evidenceRoot : AbsolutePath

def receiverItem (u : ℕ) : Bool := Pattern.lower u || isDigit u || (chars "_.-").contains u

/-- A run identifier that the materializer takes has ASCII letters only. -/
def receiverName (runId : List ℕ) : Made (List ℕ) := do
  let value := chars "prompt12-" ++ lowered runId ++ chars "-receiver"
  let first := value.headD 0
  require (value.length ≤ 63 ∧ (Pattern.lower first ∨ isDigit first) ∧ value.all receiverItem)
    (failure "RECEIVER_CONTAINER_NAME_INVALID")
  return value

namespace Prepared
variable (p : Prepared)

def experimentDirectory : AbsolutePath := joinPath p.evidenceRoot [p.experimentId]
def runDirectory : AbsolutePath := joinPath p.evidenceRoot [p.experimentId, p.runId]

def below (names : List String) : AbsolutePath := joinPath p.runDirectory (names.map chars)

def ratioBindingPath (index : ℕ) : AbsolutePath :=
  joinPath (p.below ["runtime", "ratio-bindings"])
    [ProductionBinding.transitionLabel index ++ chars ".binding.json"]

def timelinePath (index : ℕ) : AbsolutePath :=
  joinPath (p.below ["runtime", "incremental-timeline"])
    [ProductionBinding.transitionLabel index ++ chars "-timeline-command.json"]

def data : DataName → AbsolutePath
  | .actuatorAckInput => p.below ["raw", "actuator", "ack.jsonl"]
  | .actuatorAppliedInput => p.below ["raw", "actuator", "applied.jsonl"]
  | .actuatorCommandInput => p.below ["raw", "actuator", "command.jsonl"]

def profilePath : AbsolutePath := p.below ["runtime", "runtime-profile.json"]
def allocationPath : AbsolutePath := p.below ["runtime", "allocation.json"]

/-- `timeline_command` for the first transitions. -/
def timelineCommand (index : ℕ) : Command :=
  [pathText p.python, pathText (p.frozen.tools .timelineBuilder),
    chars "--schema", pathText (p.frozen.tools .schema),
    chars "--experiment-id", p.experimentId, chars "--run-id", p.runId,
    chars "--requested-ratios", (chars ",").intercalate ((ratios.take index).map decimalUnits),
    chars "--command-input", pathText (p.data .actuatorCommandInput),
    chars "--applied-input", pathText (p.data .actuatorAppliedInput),
    chars "--ack-input", pathText (p.data .actuatorAckInput),
    chars "--output", timelineToken]

end Prepared

def text (value : List ℕ) : Document := .scalar (.str value)
def pathField (path : AbsolutePath) : Document := text (pathText path)
def number (value : ℤ) : Document := .scalar (.int value)

/-- The keys of `ToolName.key` as strings. -/
def toolKey : ToolName → String
  | .canonicalizer => "canonicalizer"
  | .finalizationAdapter => "finalization_adapter"
  | .freshnessEvaluator => "freshness_evaluator"
  | .freshnessPolicy => "freshness_policy"
  | .parser => "parser"
  | .precontrolHandoff => "precontrol_handoff"
  | .receiverPipeline => "receiver_pipeline"
  | .schema => "schema"
  | .stationarityAdapter => "stationarity_adapter"
  | .stationarityEvaluator => "stationarity_evaluator"
  | .timelineBuilder => "timeline_builder"
  | .trafficAdapter => "traffic_adapter"
  | .triggerExecutor => "trigger_executor"

def dataKey : DataName → String
  | .actuatorAckInput => "actuator_ack_input"
  | .actuatorAppliedInput => "actuator_applied_input"
  | .actuatorCommandInput => "actuator_command_input"

def indices : List ℕ := [1, 2, 3, 4, 5, 6]

def toolFields (p : Prepared) : List (String × Document) :=
  ToolName.all.map fun tool => (toolKey tool, pathField (p.frozen.tools tool))

def dataFields (p : Prepared) : List (String × Document) :=
  DataName.all.map fun data => (dataKey data, pathField (p.data data))

def profileFields (p : Prepared) (receiver : List ℕ) : List (String × Document) :=
  [("schema", text profileSchema),
    ("experiment_id", text p.experimentId),
    ("run_id", text p.runId),
    ("run_directory", pathField p.runDirectory),
    ("receiver_container_name", text receiver),
    ("actuator_fifo_path", pathField p.fifo),
    ("ratio_binding_paths", .list (indices.map fun index => pathField (p.ratioBindingPath index))),
    ("python_executable", pathField p.python),
    ("tool_paths", .dict (toolFields p)),
    ("data_paths", .dict (dataFields p)),
    ("traffic_duration_s", number p.frozen.trafficDurationS),
    ("max_age_ms", number p.maxAgeMs),
    ("trigger_token", text p.frozen.triggerToken),
    ("control_authorization_token", text controlAuthorizationTokenPlaceholder),
    ("stable_ms", number p.frozen.stableMs),
    ("snapshot_timeout_ms", number p.frozen.snapshotTimeoutMs),
    ("timeline_readiness_timeout_ms", number p.frozen.timelineReadinessTimeoutMs),
    ("timeline_readiness_poll_ms", number p.frozen.timelineReadinessPollMs),
    ("incremental_timeline_command_json",
      .list (indices.map fun index => pathField (p.timelinePath index)))]

def allocationFields (p : Prepared) (receiver : List ℕ) : List (String × Document) :=
  [("schema", text (chars "sci_oran_prompt12_bounded_run_allocation_v1")),
    ("experiment_id", text p.experimentId),
    ("run_id", text p.runId),
    ("run_directory", pathField p.runDirectory),
    ("runtime_profile", pathField p.profilePath),
    ("receiver_container_name", text receiver),
    ("actuator_fifo_path", pathField p.fifo),
    ("authorization_value_recorded", Document.flag false),
    ("command_executed", Document.flag false),
    ("control_executed", Document.flag false)]

def reportFields (p : Prepared) : List (String × Document) :=
  [("schema", text (chars "sci_oran_prompt12_bounded_runtime_profile_materialization_v1")),
    ("materialization_gate", text (chars "PASS")),
    ("experiment_id", text p.experimentId),
    ("run_id", text p.runId),
    ("run_directory", pathField p.runDirectory),
    ("runtime_profile", pathField p.profilePath),
    ("allocation_record", pathField p.allocationPath),
    ("incremental_timeline_command_count", number 6),
    ("command_executed", Document.flag false),
    ("control_executed", Document.flag false)]

def fileText (document : Document) : List ℕ := dumpDocument document ++ [10]

/-! ### The execution -/

/-- What an execution has made. -/
structure Tree where
  directories : List AbsolutePath
  files : List (AbsolutePath × List ℕ)

abbrev Making := Attempt Tree Failure

section
variable (w : Surroundings)

/-- `mkdir`; with `existOk` a directory that is there already is taken. -/
def mkdir (path : AbsolutePath) (existOk : Bool) : Making Unit :=
  match w.mkdirRefused path with
  | none => modify fun tree => { tree with directories := tree.directories ++ [path] }
  | some errorType =>
    if existOk ∧ errorType ≠ chars "FileNotFoundError" ∧ w.isDirectory path then pure ()
    else throw (.unexpected errorType)

def writeJsonExclusive (path : AbsolutePath) (document : Document) : Making Unit :=
  match w.writeEnd path with
  | .written => modify fun tree => { tree with files := tree.files ++ [(path, fileText document)] }
  | .failed errorType left => do
      modify fun tree => { tree with files := tree.files ++ (left.toList.map fun part => (path, part)) }
      throw (.unexpected errorType)

def validated (answer : Except (List ℕ) Unit) : Made Unit :=
  match answer with
  | .ok () => .ok ()
  | .error reason => .error (.materializer reason)

/-- The checks in front of the first directory. -/
def prepare (args : Args) : Made Prepared := do
  validated (ExperimentIdentity.validateIdentity args.experimentId args.runId)
  let frozenPath ← absoluteFile w (.str args.frozenConfig) (chars "FROZEN_CONFIG") false
  let frozen ← validateFrozen w frozenPath
  let admissionPath ← absoluteFile w (.str args.portableRuntimeAdmission)
    (chars "PORTABLE_RUNTIME_ADMISSION") false
  let python ← validatePortableRuntimeAdmission w admissionPath
  let fifo ← validateFifo w args.actuatorFifoPath
  require (1 ≤ args.maxAgeMs) (invalid (chars "MAX_AGE_MS"))
  let evidenceRoot := absolutePath root args.evidenceRoot
  require (args.evidenceRoot.head? = some 47 ∧ w.isDirectory evidenceRoot)
    (failure "EVIDENCE_ROOT_NOT_ABSOLUTE_DIRECTORY")
  let p : Prepared := {
    experimentId := args.experimentId
    runId := args.runId
    frozen, python, fifo
    maxAgeMs := args.maxAgeMs
    evidenceRoot }
  require (w.lexists p.runDirectory = false) (failure "RUN_DIRECTORY_ALREADY_EXISTS")
  return p

/-- The directories below the run directory, in the order in which they are made. -/
def directories (p : Prepared) : List AbsolutePath :=
  [p.below ["raw"], p.below ["raw", "actuator"], p.below ["processed"], p.below ["logs"],
    p.below ["runtime"], p.below ["runtime", "incremental-timeline"],
    p.below ["runtime", "ratio-bindings"]]

def makeRunDirectory (p : Prepared) : Making Unit := do
  mkdir w p.experimentDirectory true
  if !w.isDirectory p.experimentDirectory then throw (failure "EXPERIMENT_DIRECTORY_INVALID")
  mkdir w p.runDirectory false

/-- A command as it is dumped. -/
def commandDocument (command : Command) : Document := .list (command.map text)

/-- What follows once the run directory is taken. -/
def fill (p : Prepared) : Making (List (String × Document)) := do
  (directories p).forM fun directory => mkdir w directory false
  indices.forM fun index =>
    writeJsonExclusive w (p.timelinePath index) (commandDocument (p.timelineCommand index))
  let receiver ← Attempt.ofExcept (receiverName p.runId)
  writeJsonExclusive w p.profilePath (.dict (profileFields p receiver))
  writeJsonExclusive w p.allocationPath (.dict (allocationFields p receiver))
  return reportFields p

/-- The report. -/
def execute (args : Args) : Making (List (String × Document)) := do
  let p ← Attempt.ofExcept (prepare w args)
  makeRunDirectory w p
  fill w p

end

end TcdOran.Harness.RuntimeProfile
