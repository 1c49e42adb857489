import TcdOran.Harness.HandoffInvocation
import TcdOran.Harness.ProductionBinding
import TcdOran.Lib.Validation

/-! prompt12-bounded-finalization-command.py: the actuator timeline first, then the receiver pipeline. -/
namespace TcdOran.Harness.Finalization
open TcdOran.Lib Python
open Attempt (outcome)
open Handoff (Command AbsolutePath absolutePath pathNames commandUsesShellString)

def timelineMarker : List ℕ := chars "--timeline-command"
def pipelineMarker : List ℕ := chars "--pipeline-command"
def timelineToken : List ℕ := chars "@PROMPT12_ACTUATOR_TIMELINE@"

/-- `FinalizationError`, of which the text of `argparse` is left out, or another exception by its
type. -/
inductive FinalizationFailure
  | finalization (reason : List ℕ) (rc : ℤ)
  | arguments
  | raised (exception : String)
  deriving DecidableEq

def reject (reason : String) (rc : ℤ) : FinalizationFailure := .finalization (chars reason) rc

abbrev Checked := Except FinalizationFailure

/-! ### The arguments -/

structure Args where
  attemptRoot : List ℕ
  pythonExecutable : List ℕ
  timelineOutput : List ℕ
  stagingOutput : List ℕ
  canonicalOutput : List ℕ
  expectedEventCount : ℤ
  deriving DecidableEq

def requiredOptions : List (List ℕ) :=
  ["--attempt-root", "--python-executable", "--timeline-output", "--staging-output",
    "--canonical-output"].map chars

def finalizationParser : ArgumentParser where
  options := requiredOptions ++ [chars "--expected-event-count"]
  required := requiredOptions

def readArgs (arguments : Arguments) : Option Args := do
  let count ← arguments.int "--expected-event-count"
  return {
    attemptRoot := (arguments.get "--attempt-root").getD []
    pythonExecutable := (arguments.get "--python-executable").getD []
    timelineOutput := (arguments.get "--timeline-output").getD []
    stagingOutput := (arguments.get "--staging-output").getD []
    canonicalOutput := (arguments.get "--canonical-output").getD []
    expectedEventCount := count.getD 6 }

/-- `parser.parse_args`. -/
def parseCommon (argv : Command) : Checked Args :=
  match finalizationParser.parseArgs argv with
  | .error _ => .error .arguments
  | .ok arguments =>
    match readArgs arguments with
    | none => .error .arguments
    | some args => .ok args

def validateCommand (command : Command) (label : String) : Checked Unit := do
  require (command ≠ []) (reject (label ++ "_COMMAND_EMPTY") 64)
  require (∀ value ∈ command, value ≠ [] ∧ 0 ∉ value)
    (reject (label ++ "_COMMAND_ARGUMENT_INVALID") 64)
  require (commandUsesShellString command = false) (reject (label ++ "_SHELL_STRING_PROHIBITED") 64)

def validateTemplates (timeline pipeline : Command) : Checked Unit := do
  require (timeline.count timelineToken = 1) (reject "TIMELINE_OUTPUT_TOKEN_COUNT_INVALID" 64)
  require (pipeline.count timelineToken = 1) (reject "PIPELINE_TIMELINE_TOKEN_COUNT_INVALID" 64)

def parseInvocation (argv : Command) : Checked (Args × Command × Command) := do
  require (argv.count timelineMarker = 1) (reject "TIMELINE_COMMAND_MARKER_COUNT_INVALID" 64)
  require (argv.count pipelineMarker = 1) (reject "PIPELINE_COMMAND_MARKER_COUNT_INVALID" 64)
  let timelineIndex := argv.idxOf timelineMarker
  let pipelineIndex := argv.idxOf pipelineMarker
  require (timelineIndex < pipelineIndex) (reject "COMMAND_MARKER_ORDER_INVALID" 64)
  let common ← parseCommon (argv.take timelineIndex)
  let timeline := (argv.take pipelineIndex).drop (timelineIndex + 1)
  let pipeline := argv.drop (pipelineIndex + 1)
  validateCommand timeline "TIMELINE"
  validateCommand pipeline "PIPELINE"
  validateTemplates timeline pipeline
  require (0 < common.expectedEventCount) (reject "EXPECTED_EVENT_COUNT_INVALID" 64)
  return (common, timeline, pipeline)

/-! ### What a run meets -/

inductive OutputName
  | timeline | staging | canonical
  deriving DecidableEq

def OutputName.label : OutputName → String
  | .timeline => "TIMELINE_OUTPUT"
  | .staging => "STAGING_OUTPUT"
  | .canonical => "CANONICAL_OUTPUT"

def OutputName.all : List OutputName := [.timeline, .staging, .canonical]

def Args.output (args : Args) : OutputName → List ℕ
  | .timeline => args.timelineOutput
  | .staging => args.stagingOutput
  | .canonical => args.canonicalOutput

inductive Tool
  | timeline | pipeline
  deriving DecidableEq

def Tool.label : Tool → String
  | .timeline => "TIMELINE"
  | .pipeline => "PIPELINE"

inductive CommandOutcome
  | osError (exception : String)
  | undecodable
  | completed (returncode : ℤ)

/-- The operations on directories and files that may raise an `OSError`. -/
inductive FileStep
  | outputParent (output : OutputName)
  | attemptRoot | attempt | logs | commands
  | stdoutLog (tool : Tool)
  | stderrLog (tool : Tool)
  deriving DecidableEq

/-- What reading a file gives: its lines, and what then ends the reading early. -/
structure JsonlFile where
  lines : List (List ℕ)
  osError : Option String
  undecodable : Bool

structure Surroundings where
  cwd : AbsolutePath
  exists_ : OutputName → Bool
  pythonIsFile : Bool
  pythonIsExecutable : Bool
  /-- The directory of the interpreter once links are resolved. -/
  pythonDirectory : List ℕ
  /-- `PATH`, empty where it is not set. -/
  path : List ℕ
  fault : FileStep → Option String
  run : Tool → Command → List ℕ → CommandOutcome
  /-- `none` where there is no such file when it is read. -/
  file : OutputName → Option JsonlFile
  loads : List ℕ → Loaded

/-- A command that has been started, with the `PATH` of its environment. -/
structure ToolRun where
  tool : Tool
  command : Command
  path : List ℕ
  deriving DecidableEq

abbrev Finalize := Attempt (List ToolRun) FinalizationFailure

/-- The report, its constants and paths aside. -/
structure Report where
  timelineEventCount : ℕ
  stagingRecordCount : ℕ
  canonicalRecordCount : ℕ
  deriving DecidableEq

/-! ### The run -/

/-- `str(pathlib.Path(text))`. -/
def pathText (text : List ℕ) : List ℕ :=
  if text.head? = some 47 then ProductionBinding.pathText (absolutePath ProductionBinding.root text)
  else if pathNames text = [] then chars "."
  else posixPath (pathNames text)

def resolveCommand (template : Command) (timelineOutput : List ℕ) : Command :=
  template.map fun value => if value = timelineToken then pathText timelineOutput else value

section
variable (w : Surroundings)

def orRaised (step : FileStep) : Checked Unit :=
  match w.fault step with
  | none => .ok ()
  | some exception => .error (.raised exception)

def ensureDistinctOutputs (args : Args) : Checked Unit :=
  require (OutputName.all.map fun output =>
    ProductionBinding.pathText (absolutePath w.cwd (args.output output))).Nodup
      (reject "OUTPUT_PATHS_NOT_DISTINCT" 64)

def rejectExistingOutputs : Checked Unit :=
  OutputName.all.forM fun output =>
    rejectIf (w.exists_ output = true) (reject (output.label ++ "_ALREADY_EXISTS") 65)

/-- The `PATH` of the child environment. -/
def childEnvironment : Checked (List ℕ) := do
  require (w.pythonIsFile = true ∧ w.pythonIsExecutable = true)
    (reject "PYTHON_EXECUTABLE_INVALID" 66)
  return if w.path = [] then w.pythonDirectory else w.pythonDirectory ++ chars ":" ++ w.path

/-- `execute` in front of its first command: the `PATH` for the commands. -/
def prepare (args : Args) : Checked (List ℕ) := do
  ensureDistinctOutputs w args
  rejectExistingOutputs w
  let path ← childEnvironment w
  OutputName.all.forM fun output => orRaised w (.outputParent output)
  orRaised w .attemptRoot
  orRaised w .attempt
  orRaised w .logs
  orRaised w .commands
  return path

/-- The logs of a command, and the check of its return code. -/
def finishTool (tool : Tool) (returncode : ℤ) : Checked Unit := do
  orRaised w (.stdoutLog tool)
  orRaised w (.stderrLog tool)
  require (returncode = 0) (.finalization
    (chars (tool.label ++ "_COMMAND_FAILED_RC_") ++ intText returncode) returncode)

/-- `run_tool` with the check of the return code. -/
def runTool (tool : Tool) (command : Command) (path : List ℕ) : Finalize Unit :=
  match w.run tool command path with
  | .osError exception =>
      throw (reject (tool.label ++ "_EXECUTION_FAILED:" ++ exception) 70)
  | .undecodable => do
      modify (· ++ [⟨tool, command, path⟩])
      throw (.raised "UnicodeDecodeError")
  | .completed returncode => do
      modify (· ++ [⟨tool, command, path⟩])
      Attempt.ofExcept (finishTool w tool returncode)

/-- The loop of `load_jsonl`. -/
def loadRows (label : String) (lineNumber : ℕ) : List (List ℕ) → Checked (List (List (List ℕ × Json)))
  | [] => .ok []
  | line :: lines =>
      if strip line = [] then loadRows label (lineNumber + 1) lines
      else match w.loads line with
        | .syntaxError => .error (reject (label ++ "_INVALID_JSONL") 65)
        | .gaveUp => .error (.raised "ValueError")
        | .value (.obj row) => do
            let rows ← loadRows label (lineNumber + 1) lines
            return row :: rows
        | .value _ => .error
            (.finalization (chars (label ++ "_ROW_NOT_OBJECT:") ++ decimalUnits lineNumber) 65)

def loadJsonl (output : OutputName) : Checked (List (List (List ℕ × Json))) :=
  match w.file output with
  | none => .error (reject (output.label ++ "_MISSING") 65)
  | some file => do
      let rows ← loadRows w output.label 1 file.lines
      match file.osError with
      | some exception => .error (reject (output.label ++ "_READ_FAILED:" ++ exception) 70)
      | none => do
          rejectIf (file.undecodable = true) (.raised "UnicodeDecodeError")
          require (rows ≠ []) (reject (output.label ++ "_EMPTY") 65)
          return rows

/-- The rows of the timeline behind its command. -/
def checkTimeline (args : Args) : Checked ℕ := do
  let rows ← loadJsonl w .timeline
  require ((rows.length : ℤ) = args.expectedEventCount)
    (.finalization (chars "TIMELINE_EVENT_COUNT_INVALID:" ++ decimalUnits rows.length) 65)
  return rows.length

/-- The records behind the pipeline. -/
def checkPipeline : Checked (ℕ × ℕ) := do
  let staging ← loadJsonl w .staging
  let canonical ← loadJsonl w .canonical
  return (staging.length, canonical.length)

def execute (args : Args) (timelineTemplate pipelineTemplate : Command) : Finalize Report := do
  let path ← Attempt.ofExcept (prepare w args)
  runTool w .timeline (resolveCommand timelineTemplate args.timelineOutput) path
  let events ← Attempt.ofExcept (checkTimeline w args)
  runTool w .pipeline (resolveCommand pipelineTemplate args.timelineOutput) path
  let (staging, canonical) ← Attempt.ofExcept (checkPipeline w)
  return ⟨events, staging, canonical⟩

/-- What `main` returns where an exception has been raised. Those that are left are of `OSError` or
`ValueError`. -/
def FinalizationFailure.returncode : FinalizationFailure → ℤ
  | .finalization _ rc => rc
  | .arguments => 64
  | .raised _ => 70

/-- `main` of arguments other than `contract`: the return code, the report that it prints, and the
commands that it has started. -/
def main (argv : Command) : ℤ × Option Report × List ToolRun :=
  match parseInvocation argv with
  | .error e => (e.returncode, none, [])
  | .ok (args, timeline, pipeline) =>
    match outcome (execute w args timeline pipeline) [] with
    | (.ok report, runs) => (0, some report, runs)
    | (.error e, runs) => (e.returncode, none, runs)

end

/-! ### What a run demands -/

section
variable (w : Surroundings) (args : Args)

/-- The `PATH` of the commands. -/
def childPath : List ℕ :=
  if w.path = [] then w.pythonDirectory else w.pythonDirectory ++ chars ":" ++ w.path

def rowCount (file : JsonlFile) : ℕ := file.lines.countP fun line => strip line ≠ []

def rowsOf (output : OutputName) : ℕ := ((w.file output).map rowCount).getD 0

def timelineRun (template : Command) : ToolRun :=
  ⟨.timeline, resolveCommand template args.timelineOutput, childPath w⟩

def pipelineRun (template : Command) : ToolRun :=
  ⟨.pipeline, resolveCommand template args.timelineOutput, childPath w⟩

end

/-! ### Each check -/

section
variable {w : Surroundings} {args : Args}

end

/-! ### The gate -/

/-- Every error of the computation has this return code. -/
def Returns {α : Type} (rc : ℤ) (x : Checked α) : Prop := ∀ e, x = .error e → e.returncode = rc

section
variable {α β : Type} {rc : ℤ}

theorem Returns.bind {x : Checked α} {f : α → Checked β} (hx : Returns rc x)
    (hf : ∀ a, Returns rc (f a)) : Returns rc (x >>= f) := by
  intro e he
  cases hresult : x with
  | error e' =>
    rw [hresult] at he
    cases he
    exact hx e hresult
  | ok a =>
    rw [hresult, ok_bind] at he
    exact hf a e he

end

section
variable (w : Surroundings) (args : Args) (timeline pipeline : Command)

end

end TcdOran.Harness.Finalization
