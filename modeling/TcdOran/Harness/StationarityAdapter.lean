import TcdOran.Harness.HandoffInvocation
import TcdOran.Harness.ProductionBinding

/-! The arguments of prompt12-bounded-stationarity-command.py, and the command that builds the
timeline of the actuator as they give it. -/
namespace TcdOran.Harness.StationarityAdapter
open TcdOran.Lib Python ProductionBinding

/-- An `AdapterError` by its reason and status. -/
structure AdapterError where
  reason : List ℕ
  rc : ℕ
  deriving DecidableEq

abbrev Adapted := Except AdapterError

def refuse (reason : String) : AdapterError := ⟨chars reason, 64⟩

/-! ### The arguments -/

def requiredOptions : List (List ℕ) :=
  ["--python-executable", "--parser", "--canonicalizer", "--evaluator", "--raw-input",
    "--timestamp-input", "--schema", "--experiment-id", "--run-id", "--mode",
    "--evidence-root"].map chars

def optionalOptions : List (List ℕ) :=
  ["--actuator-timeline", "--control-index", "--stable-ms", "--snapshot-timeout-ms",
    "--timeline-command-json", "--expected-timeline-event-count", "--timeline-readiness-timeout-ms",
    "--timeline-readiness-poll-ms"].map chars

def adapterParser : ArgumentParser where
  options := requiredOptions ++ optionalOptions
  required := requiredOptions

def modes : List (List ℕ) := ["initial-pre-step", "post-step"].map chars

/-- The arguments; `texts` has those that stay texts. -/
structure Args where
  texts : Arguments
  mode : List ℕ
  actuatorTimeline : Option (List ℕ)
  controlIndex : Option ℤ
  stableMs : ℤ
  snapshotTimeoutMs : ℤ
  timelineCommandJson : Option (List ℕ)
  expectedTimelineEventCount : Option ℤ
  timelineReadinessTimeoutMs : ℤ
  timelineReadinessPollMs : ℤ

/-- `parse_args`; it ends the program with status 2 where it finds no arguments. -/
def parseArgs (argv : Command) : Option Args := do
  let texts ← (adapterParser.parseArgs argv).toOption
  let mode ← texts.choice "--mode" modes
  let controlIndex ← texts.int "--control-index"
  let stableMs ← texts.int "--stable-ms"
  let snapshotTimeoutMs ← texts.int "--snapshot-timeout-ms"
  let expectedTimelineEventCount ← texts.int "--expected-timeline-event-count"
  let timelineReadinessTimeoutMs ← texts.int "--timeline-readiness-timeout-ms"
  let timelineReadinessPollMs ← texts.int "--timeline-readiness-poll-ms"
  return {
    texts, mode, controlIndex, expectedTimelineEventCount
    actuatorTimeline := texts.get "--actuator-timeline"
    stableMs := stableMs.getD 40
    snapshotTimeoutMs := snapshotTimeoutMs.getD 1000
    timelineCommandJson := texts.get "--timeline-command-json"
    timelineReadinessTimeoutMs := timelineReadinessTimeoutMs.getD 5000
    timelineReadinessPollMs := timelineReadinessPollMs.getD 100 }

/-! ### The timeline command -/

def prohibitedTimelineExecutables : List (List ℕ) := ["bash", "dash", "sh", "zsh", "ksh"].map chars

/-- An argument of the command at its position. -/
def commandArgument (value : Json) (index : ℕ) : Adapted (List ℕ) :=
  match value with
  | .str text => do
      require (text ≠ [] ∧ 0 ∉ text)
        ⟨chars "TIMELINE_COMMAND_ARG_" ++ decimalUnits index ++ chars "_INVALID", 64⟩
      return text
  | _ => .error ⟨chars "TIMELINE_COMMAND_ARG_" ++ decimalUnits index ++ chars "_INVALID", 64⟩

def commandItems : Loaded → Adapted (List Json)
  | .value (.arr items) => do
      require (items ≠ []) (refuse "TIMELINE_COMMAND_NOT_NONEMPTY_ARGV")
      return items
  | .value _ => .error (refuse "TIMELINE_COMMAND_NOT_NONEMPTY_ARGV")
  | _ => .error (refuse "TIMELINE_COMMAND_JSON_INVALID")

/-- The command as its text gives it. -/
def decodeTemplate (encoded : List ℕ) : Adapted Command := do
  let items ← commandItems (plainLoads encoded)
  let command ← items.zipIdx.mapM fun (value, index) => commandArgument value index
  require (Handoff.pathName (command.headD []) ∉ prohibitedTimelineExecutables)
    (refuse "TIMELINE_SHELL_EXECUTION_FORBIDDEN")
  require (command.count actuatorTimelineToken = 1) (refuse "TIMELINE_OUTPUT_TOKEN_COUNT_INVALID")
  return command

/-- The checks of the counts behind the command. -/
def checkCounts (args : Args) : Adapted Unit := do
  let expected := args.expectedTimelineEventCount.getD 0
  require (0 < expected) (refuse "EXPECTED_TIMELINE_EVENT_COUNT_INVALID")
  require (args.controlIndex ≠ none) (refuse "CONTROL_INDEX_REQUIRED_FOR_TIMELINE_COMMAND")
  require (expected = args.controlIndex.getD 0 * 3)
    (refuse "TIMELINE_EVENT_COUNT_CONTROL_INDEX_MISMATCH")
  require (0 < args.timelineReadinessTimeoutMs) (refuse "TIMELINE_READINESS_TIMEOUT_INVALID")
  require (0 < args.timelineReadinessPollMs ∧
      args.timelineReadinessPollMs ≤ args.timelineReadinessTimeoutMs)
    (refuse "TIMELINE_READINESS_POLL_INVALID")

def parseTimelineCommandTemplate (args : Args) : Adapted (Option Command) :=
  match args.timelineCommandJson with
  | none => do
      require (args.expectedTimelineEventCount = none)
        (refuse "TIMELINE_EVENT_COUNT_WITHOUT_COMMAND")
      return none
  | some encoded => do
      require (args.mode = chars "post-step")
        (refuse "TIMELINE_COMMAND_FORBIDDEN_OUTSIDE_POST_STEP")
      require (args.actuatorTimeline = none)
        (refuse "TIMELINE_COMMAND_AND_INPUT_MUTUALLY_EXCLUSIVE")
      let command ← decodeTemplate encoded
      checkCounts args
      return some command

/-- A path is not taken for a command. -/
theorem decodeTemplate_slash (rest : List ℕ) :
    decodeTemplate (47 :: rest) = .error (refuse "TIMELINE_COMMAND_JSON_INVALID") := by
  rw [decodeTemplate, plainLoads, Json.parse_slash]
  rfl

end TcdOran.Harness.StationarityAdapter
