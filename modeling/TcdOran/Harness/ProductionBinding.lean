import TcdOran.Harness.PrecontrolHandoff
import TcdOran.Lib.PythonNumber
import TcdOran.Lib.PythonPattern

/-! prompt12-bounded-production-binding-builder.py: the commands of an experiment as the builder
derives them from the runtime profile. -/
namespace TcdOran.Harness.ProductionBinding
open TcdOran.Lib Python Handoff

def profileSchema : List ℕ := chars "sci_oran_prompt12_bounded_sequence_runtime_profile_v1"
def bindingSchema : List ℕ := chars "sci_oran_prompt12_bounded_sequence_bindings_v1"
def requestedRatios : List ℕ := [50, 75, 100, 75, 50, 25]
def actuatorTimelineToken : List ℕ := chars "@PROMPT12_ACTUATOR_TIMELINE@"
def controlAuthorizationTokenPlaceholder : List ℕ :=
  chars "@PROMPT12_CONTROL_AUTHORIZATION_TOKEN@"

/-- A `BuilderError` by its text. -/
abbrev Built := Except (List ℕ)

/-- What the builder asks the file system. `writer` stands for the file of the ratio binding writer
beside the builder. -/
structure Host where
  isFile : AbsolutePath → Bool
  isExecutable : AbsolutePath → Bool
  writer : AbsolutePath

/-! ### The keys -/

/-- `TOOL_KEYS`, in the order of `sorted`. -/
inductive ToolName
  | canonicalizer
  | finalizationAdapter
  | freshnessEvaluator
  | freshnessPolicy
  | parser
  | precontrolHandoff
  | receiverPipeline
  | schema
  | stationarityAdapter
  | stationarityEvaluator
  | timelineBuilder
  | trafficAdapter
  | triggerExecutor
  deriving DecidableEq

def ToolName.key : ToolName → List ℕ
  | .canonicalizer => chars "canonicalizer"
  | .finalizationAdapter => chars "finalization_adapter"
  | .freshnessEvaluator => chars "freshness_evaluator"
  | .freshnessPolicy => chars "freshness_policy"
  | .parser => chars "parser"
  | .precontrolHandoff => chars "precontrol_handoff"
  | .receiverPipeline => chars "receiver_pipeline"
  | .schema => chars "schema"
  | .stationarityAdapter => chars "stationarity_adapter"
  | .stationarityEvaluator => chars "stationarity_evaluator"
  | .timelineBuilder => chars "timeline_builder"
  | .trafficAdapter => chars "traffic_adapter"
  | .triggerExecutor => chars "trigger_executor"

def ToolName.all : List ToolName :=
  [.canonicalizer, .finalizationAdapter, .freshnessEvaluator, .freshnessPolicy, .parser,
    .precontrolHandoff, .receiverPipeline, .schema, .stationarityAdapter, .stationarityEvaluator,
    .timelineBuilder, .trafficAdapter, .triggerExecutor]

/-- `DATA_KEYS`, in the order of `sorted`. -/
inductive DataName
  | actuatorAckInput
  | actuatorAppliedInput
  | actuatorCommandInput
  deriving DecidableEq

def DataName.key : DataName → List ℕ
  | .actuatorAckInput => chars "actuator_ack_input"
  | .actuatorAppliedInput => chars "actuator_applied_input"
  | .actuatorCommandInput => chars "actuator_command_input"

def DataName.all : List DataName := [.actuatorAckInput, .actuatorAppliedInput, .actuatorCommandInput]

def profileKeys : List (List ℕ) :=
  ["schema", "python_executable", "experiment_id", "run_id", "run_directory",
    "receiver_container_name", "traffic_duration_s", "actuator_fifo_path",
    "control_authorization_token", "trigger_token", "max_age_ms", "stable_ms",
    "snapshot_timeout_ms", "timeline_readiness_timeout_ms", "timeline_readiness_poll_ms",
    "tool_paths", "data_paths", "incremental_timeline_command_json",
    "ratio_binding_paths"].map chars

/-! ### Checks of single values -/

def upperCase (text : List ℕ) : List ℕ := text.map fun u => if 97 ≤ u ∧ u ≤ 122 then u - 32 else u

def joinSorted (keys : List (List ℕ)) : List ℕ :=
  (chars ",").intercalate (keys.mergeSort fun left right => left ≤ right)

abbrev Members := List (List ℕ × Json)

/-- `value[key]` behind `require_exact_keys`. -/
def member (members : Members) (key : List ℕ) : Json := (dictLookup members key).getD .null

def requireExactKeys (members : Members) (expected : List (List ℕ)) (label : String) : Built Unit := do
  let missing := expected.filter fun key => key ∉ members.map Prod.fst
  let extra := (members.map Prod.fst).dedup.filter fun key => key ∉ expected
  require (missing = []) (chars label ++ chars "_MISSING_KEYS:" ++ joinSorted missing)
  require (extra = []) (chars label ++ chars "_UNKNOWN_KEYS:" ++ joinSorted extra)

def requireString (value : Json) (label : List ℕ) : Built (List ℕ) :=
  match value with
  | .str text => do
      require (text ≠ [] ∧ 0 ∉ text ∧ 10 ∉ text ∧ 13 ∉ text) (label ++ chars "_INVALID")
      return text
  | _ => .error (label ++ chars "_INVALID")

def requireInt (value : Json) (minimum maximum : ℤ) (label : List ℕ) : Built ℤ :=
  match value with
  | .num literal => do
      require (literal.isInteger ∧ minimum ≤ literal.intValue ∧ literal.intValue ≤ maximum)
        (label ++ chars "_INVALID")
      return literal.intValue
  | _ => .error (label ++ chars "_INVALID")

/-- The root directory, from which an absolute path is read. -/
def root : AbsolutePath := ⟨false, []⟩

variable (host : Host)

def requireAbsolutePath (value : Json) (label : List ℕ) (mustExist : Bool) : Built AbsolutePath := do
  let raw ← requireString value label
  require (raw.head? = some 47) (label ++ chars "_NOT_ABSOLUTE")
  let path := absolutePath root raw
  require (mustExist → host.isFile path) (label ++ chars "_NOT_FILE")
  return path

def requireObject (value : Json) (label : String) : Built Members :=
  match value with
  | .obj members => .ok members
  | _ => .error (chars label ++ chars "_NOT_OBJECT")

/-- A list of six. -/
def requireSix (value : Json) (error : List ℕ) : Built (List Json) :=
  match value with
  | .arr items => do
      require (items.length = 6) error
      return items
  | _ => .error error

/-! ### The identities -/

/-- The class `\d` of a pattern on strings. -/
def unicodeDigit (u : ℕ) : Bool := (digitOf u).isSome

/-- `EXP-\d{8}-DL-\d+K-R`, behind which two digits follow. -/
def experimentStem : Pattern :=
  Pattern.literal "EXP-" ++ Pattern.times unicodeDigit 8 ++ Pattern.literal "-DL-" ++
    Pattern.many unicodeDigit ++ Pattern.literal "K-R"

def nonzeroDigit (u : ℕ) : Bool := 49 ≤ u ∧ u ≤ 57

/-- `(?:0[1-9]|[1-9][0-9])` -/
def validExperimentId (text : List ℕ) : Bool :=
  fullmatch (experimentStem ++ Pattern.literal "0" ++ Pattern.times nonzeroDigit 1) text ||
    fullmatch (experimentStem ++ Pattern.times nonzeroDigit 1 ++ Pattern.times isDigit 1) text

/-- `RUN-\d{8}T\d{6}Z-\d{3}` -/
def validRunId (text : List ℕ) : Bool :=
  fullmatch (Pattern.literal "RUN-" ++ Pattern.times unicodeDigit 8 ++ Pattern.literal "T" ++
    Pattern.times unicodeDigit 6 ++ Pattern.literal "Z-" ++ Pattern.times unicodeDigit 3) text

/-- `[A-Za-z0-9_.-]+` -/
def validReceiver (text : List ℕ) : Bool :=
  fullmatch (Pattern.many fun u =>
    Pattern.upper u || Pattern.lower u || isDigit u || (chars "_.-").contains u) text

/-! ### The profile -/

structure Profile where
  python : AbsolutePath
  experimentId : List ℕ
  runId : List ℕ
  runDirectory : AbsolutePath
  receiver : List ℕ
  trafficDurationS : ℤ
  fifo : AbsolutePath
  authorization : List ℕ
  triggerToken : List ℕ
  maxAgeMs : ℤ
  stableMs : ℤ
  snapshotTimeoutMs : ℤ
  timelineReadinessTimeoutMs : ℤ
  timelineReadinessPollMs : ℤ
  tools : ToolName → AbsolutePath
  data : DataName → AbsolutePath
  timelineJson : List AbsolutePath
  ratioBindingPaths : List AbsolutePath

def toolPath (members : Members) (tool : ToolName) : Built AbsolutePath :=
  requireAbsolutePath host (member members tool.key) (chars "TOOL_" ++ upperCase tool.key) true

def dataPath (members : Members) (data : DataName) : Built AbsolutePath :=
  requireAbsolutePath host (member members data.key) (chars "DATA_" ++ upperCase data.key) false

/-- A dictionary with the given entries. -/
def entry {κ : Type} [DecidableEq κ] (keys : List κ) (paths : List AbsolutePath) (key : κ) :
    AbsolutePath :=
  ((keys.zip paths).lookup key).getD root

def requireExecutable (tools : ToolName → AbsolutePath) (tool : ToolName) : Built Unit :=
  require (host.isExecutable (tools tool))
    (chars "TOOL_" ++ upperCase tool.key ++ chars "_NOT_EXECUTABLE")

def timelinePaths (value : Json) : Built (List AbsolutePath) := do
  let items ← requireSix value (chars "INCREMENTAL_TIMELINE_COMMAND_JSON_COUNT_INVALID")
  let paths ← (items.zipIdx 1).mapM fun (item, index) =>
    requireAbsolutePath host item
      (chars "INCREMENTAL_TIMELINE_COMMAND_JSON_" ++ decimalUnits index) true
  require paths.Nodup (chars "INCREMENTAL_TIMELINE_COMMAND_JSON_NOT_DISTINCT")
  return paths

/-- `validate_profile`. The paths of the ratio bindings are added behind it. -/
def validateProfile (members : Members) : Built Profile := do
  requireExactKeys members profileKeys "PROFILE"
  require (isText (member members (chars "schema")) profileSchema) (chars "PROFILE_SCHEMA_INVALID")
  let python ← requireAbsolutePath host (member members (chars "python_executable"))
    (chars "PYTHON_EXECUTABLE") true
  let experimentId ← requireString (member members (chars "experiment_id")) (chars "EXPERIMENT_ID")
  let runId ← requireString (member members (chars "run_id")) (chars "RUN_ID")
  require (validExperimentId experimentId) (chars "EXPERIMENT_ID_FORMAT_INVALID")
  require (validRunId runId) (chars "RUN_ID_FORMAT_INVALID")
  let runDirectory ← requireAbsolutePath host (member members (chars "run_directory"))
    (chars "RUN_DIRECTORY") false
  let receiver ← requireString (member members (chars "receiver_container_name"))
    (chars "RECEIVER_CONTAINER_NAME")
  require (validReceiver receiver) (chars "RECEIVER_CONTAINER_NAME_FORMAT_INVALID")
  let fifo ← requireAbsolutePath host (member members (chars "actuator_fifo_path"))
    (chars "ACTUATOR_FIFO_PATH") false
  let authorization ← requireString (member members (chars "control_authorization_token"))
    (chars "CONTROL_AUTHORIZATION_TOKEN")
  require (authorization = controlAuthorizationTokenPlaceholder)
    (chars "CONTROL_AUTHORIZATION_TOKEN_NOT_PREAUTHORIZED_PLACEHOLDER")
  let triggerToken ← requireString (member members (chars "trigger_token")) (chars "TRIGGER_TOKEN")
  let toolPaths ← requireObject (member members (chars "tool_paths")) "TOOL_PATHS"
  let dataPaths ← requireObject (member members (chars "data_paths")) "DATA_PATHS"
  requireExactKeys toolPaths (ToolName.all.map ToolName.key) "TOOL_PATHS"
  requireExactKeys dataPaths (DataName.all.map DataName.key) "DATA_PATHS"
  let toolList ← ToolName.all.mapM (toolPath host toolPaths)
  let tools := entry ToolName.all toolList
  requireExecutable host tools .trafficAdapter
  requireExecutable host tools .receiverPipeline
  let dataList ← DataName.all.mapM (dataPath host dataPaths)
  let timelineJson ← timelinePaths host
    (member members (chars "incremental_timeline_command_json"))
  let integer (key : String) (minimum maximum : ℤ) : Built ℤ :=
    requireInt (member members (chars key)) minimum maximum (upperCase (chars key))
  return {
    python, experimentId, runId, runDirectory, receiver, fifo, authorization, triggerToken
    trafficDurationS := ← integer "traffic_duration_s" 141 180
    maxAgeMs := ← integer "max_age_ms" 1 10000
    stableMs := ← integer "stable_ms" 0 5000
    snapshotTimeoutMs := ← integer "snapshot_timeout_ms" 1 60000
    timelineReadinessTimeoutMs := ← integer "timeline_readiness_timeout_ms" 1 60000
    timelineReadinessPollMs := ← integer "timeline_readiness_poll_ms" 1 5000
    tools
    data := entry DataName.all dataList
    timelineJson
    ratioBindingPaths := [] }

/-- The text of a path. -/
def pathText (path : AbsolutePath) : List ℕ :=
  (if path.doubleSlash then [47, 47] else [47]) ++ posixPath path.names

/-- `path / name / ...` -/
def joinPath (path : AbsolutePath) (names : List (List ℕ)) : AbsolutePath :=
  { path with names := path.names ++ names }

/-- `T1` to `T6`. -/
def transitionLabel (index : ℕ) : List ℕ := chars "T" ++ decimalUnits index

def ratioBindingPath (runDirectory : AbsolutePath) (item : Json) (index : ℕ) : Built AbsolutePath :=
  match item with
  | .str text => do
      require (text ≠ []) (chars "RATIO_BINDING_PATH_INVALID")
      require (text.head? = some 47) (chars "RATIO_BINDING_PATH_NOT_ABSOLUTE")
      let path := absolutePath root text
      let expected := transitionLabel index ++ chars ".binding.json"
      require (lastName path.names = expected)
        (chars "RATIO_BINDING_PATH_ORDER_INVALID:" ++ lastName path.names ++ chars ":" ++ expected)
      require ({ path with names := path.names.dropLast } =
          joinPath runDirectory [chars "runtime", chars "ratio-bindings"])
        (chars "RATIO_BINDING_PATH_PARENT_INVALID:" ++ pathText path)
      return path
  | _ => .error (chars "RATIO_BINDING_PATH_INVALID")

def validateRatioBindingPaths (value : Json) (runDirectory : AbsolutePath) :
    Built (List AbsolutePath) := do
  let items ← requireSix value (chars "RATIO_BINDING_PATHS_COUNT_INVALID")
  let paths ← (items.zipIdx 1).mapM fun (item, index) => ratioBindingPath runDirectory item index
  require (paths.map pathText).Nodup (chars "RATIO_BINDING_PATH_DUPLICATE")
  return paths

/-- The profile as `main` hands it to `build_binding`. -/
def acceptProfile (members : Members) : Built Profile := do
  let profile ← validateProfile host members
  let paths ← validateRatioBindingPaths (member members (chars "ratio_binding_paths"))
    profile.runDirectory
  return { profile with ratioBindingPaths := paths }

/-! ### The commands -/

abbrev Command := List (List ℕ)

section
variable (profile : Profile)

def py : List ℕ := pathText profile.python

def toolText (tool : ToolName) : List ℕ := pathText (profile.tools tool)

/-- A path below the run directory. -/
def inRun (names : List (List ℕ)) : List ℕ := pathText (joinPath profile.runDirectory names)

/-- `--experiment-id` and `--run-id`. -/
def identityOptions : Command :=
  [chars "--experiment-id", profile.experimentId, chars "--run-id", profile.runId]

/-- The items of `timeline_json` and of `ratio_binding_paths` for the transitions from 1 on. -/
def itemOf (paths : List AbsolutePath) (index : ℕ) : AbsolutePath := paths.getD (index - 1) root

/-- What `stationarity_command` adds for a control index. -/
def timelineOptions (index : ℕ) : Command :=
  [chars "--control-index", decimalUnits index,
    chars "--timeline-command-json", pathText (itemOf profile.timelineJson index),
    chars "--expected-timeline-event-count", decimalUnits (index * 3),
    chars "--timeline-readiness-timeout-ms", intText profile.timelineReadinessTimeoutMs,
    chars "--timeline-readiness-poll-ms", intText profile.timelineReadinessPollMs]

def stationarityCommand (mode : String) (controlIndex : Option ℕ) : Command :=
  let role := match controlIndex with
    | none => chars "initial"
    | some index => transitionLabel index
  [py profile, toolText profile .stationarityAdapter,
    chars "--python-executable", py profile,
    chars "--parser", toolText profile .parser,
    chars "--canonicalizer", toolText profile .canonicalizer,
    chars "--evaluator", toolText profile .stationarityEvaluator,
    chars "--raw-input", inRun profile [chars "raw", chars "iperf3-receiver.stdout.log"],
    chars "--timestamp-input",
      inRun profile [chars "raw", chars "iperf3-receiver.timestamps.jsonl"],
    chars "--schema", toolText profile .schema] ++ identityOptions profile ++
  [chars "--mode", chars mode,
    chars "--evidence-root", inRun profile [chars "evidence", chars "stationarity", role],
    chars "--stable-ms", intText profile.stableMs,
    chars "--snapshot-timeout-ms", intText profile.snapshotTimeoutMs] ++
  match controlIndex with
  | none => []
  | some index => timelineOptions profile index

def freshnessCommand (index : ℕ) : Command :=
  [py profile, toolText profile .freshnessEvaluator,
    chars "--input", canonicalIntervalsToken,
    chars "--schema", toolText profile .schema,
    chars "--policy", toolText profile .freshnessPolicy,
    chars "--evaluator", toolText profile .stationarityEvaluator] ++ identityOptions profile ++
  [chars "--decision-utc-ns", decisionUtcNsToken,
    chars "--selected-output",
      inRun profile [chars "precontrol", transitionLabel index ++ chars ".selected.jsonl"],
    chars "--stationarity-output", stationarityJsonToken,
    chars "--output", precontrolJsonToken]

def handoffCommand (index : ℕ) (stationarity : Command) : Command :=
  [py profile, toolText profile .precontrolHandoff,
    chars "--attempt-root",
      inRun profile [chars "evidence", chars "precontrol-handoff", transitionLabel index],
    chars "--precontrol-output",
      inRun profile [chars "precontrol", transitionLabel index ++ chars ".json"],
    chars "--stationarity-command"] ++ stationarity ++
  chars "--freshness-command" :: freshnessCommand profile index

def triggerCommand (index : ℕ) : Command :=
  [py profile, toolText profile .triggerExecutor,
    chars "--precontrol-json",
      inRun profile [chars "precontrol", transitionLabel index ++ chars ".json"],
    chars "--mode", chars "fifo",
    chars "--max-age-ms", intText profile.maxAgeMs,
    chars "--output",
      inRun profile [chars "control", transitionLabel index ++ chars ".executor.json"],
    chars "--fifo-path", pathText profile.fifo,
    chars "--trigger-token", profile.triggerToken,
    chars "--control-authorization-token", profile.authorization]

def timelineCommand : Command :=
  [py profile, toolText profile .timelineBuilder,
    chars "--schema", toolText profile .schema] ++ identityOptions profile ++
  [chars "--requested-ratios", (chars ",").intercalate (requestedRatios.map decimalUnits),
    chars "--command-input", pathText (profile.data .actuatorCommandInput),
    chars "--applied-input", pathText (profile.data .actuatorAppliedInput),
    chars "--ack-input", pathText (profile.data .actuatorAckInput),
    chars "--output", actuatorTimelineToken]

def pipelineCommand : Command :=
  [toolText profile .receiverPipeline, chars "process-actuator-transitions",
    profile.experimentId, profile.runId, pathText profile.runDirectory, actuatorTimelineToken]

/-- The finalization command in front of the commands nested in it. -/
def finalizationOptions : Command :=
  [py profile, toolText profile .finalizationAdapter,
    chars "--attempt-root", inRun profile [chars "evidence", chars "finalization"],
    chars "--python-executable", py profile,
    chars "--timeline-output", inRun profile [chars "processed", chars "actuator-timeline.jsonl"],
    chars "--staging-output",
      inRun profile [chars "processed", chars "iperf3-receiver.intervals.staging.jsonl"],
    chars "--canonical-output",
      inRun profile [chars "processed", chars "iperf3-receiver.intervals.canonical.jsonl"],
    chars "--expected-event-count", chars "18"]

def finalizationCommand : Command :=
  finalizationOptions profile ++ chars "--timeline-command" :: timelineCommand profile ++
    chars "--pipeline-command" :: pipelineCommand profile

def trafficCommand : Command :=
  [toolText profile .trafficAdapter, chars "run", profile.receiver,
    intText profile.trafficDurationS,
    inRun profile [chars "raw", chars "iperf3-receiver.stdout.log"],
    inRun profile [chars "raw", chars "iperf3-receiver.timestamps.jsonl"],
    inRun profile [chars "raw", chars "iperf3-receiver.stderr.log"]]

def ratioBindCommand (index : ℕ) : Built Command := do
  require (1 ≤ index ∧ index ≤ 6) (chars "RATIO_BIND_TRANSITION_INDEX_INVALID")
  require (host.isFile host.writer) (chars "RATIO_BINDING_WRITER_MISSING")
  return [py profile, pathText host.writer] ++ identityOptions profile ++
    [chars "--transition-label", transitionLabel index,
      chars "--transition-index", decimalUnits index,
      chars "--requested-ratio-pct", decimalUnits (requestedRatios.getD (index - 1) 0),
      chars "--output", pathText (itemOf profile.ratioBindingPaths index)]

/-! ### The binding -/

structure Transition where
  label : List ℕ
  ratioBindCommand : Command
  triggerCommand : Command
  postStationarityCommand : Command
  deriving DecidableEq

structure Binding where
  schema : List ℕ
  trafficCommand : Command
  initialStationarityCommand : Command
  finalizationCommand : Command
  transitions : List Transition
  deriving DecidableEq

/-- What follows a trigger: every transition but the last one prepares the next. -/
def postStationarityCommand (index : ℕ) : Command :=
  let post := stationarityCommand profile "post-step" (some index)
  if index < 6 then handoffCommand profile (index + 1) post else post

def buildTransition (index : ℕ) : Built Transition := do
  let ratioBind ← ratioBindCommand host profile index
  return ⟨transitionLabel index, ratioBind, triggerCommand profile index,
    postStationarityCommand profile index⟩

def buildBinding : Built Binding := do
  let transitions ← [1, 2, 3, 4, 5, 6].mapM (buildTransition host profile)
  return {
    schema := bindingSchema
    trafficCommand := trafficCommand profile
    initialStationarityCommand :=
      handoffCommand profile 1 (stationarityCommand profile "initial-pre-step" none)
    finalizationCommand := finalizationCommand profile
    transitions }

end

end TcdOran.Harness.ProductionBinding
