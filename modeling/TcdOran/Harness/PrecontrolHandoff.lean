import TcdOran.Lib.Attempt
import TcdOran.Lib.Check
import TcdOran.Lib.FileTree

/-! prompt12-bounded-precontrol-handoff.py: `execute` and what may happen to the precontrol output. -/
namespace TcdOran.Harness.Handoff
open TcdOran.Lib Python

def stationarityJsonToken : List ℕ := chars "@PROMPT12_STATIONARITY_JSON@"
def precontrolJsonToken : List ℕ := chars "@PROMPT12_PRECONTROL_JSON@"
def decisionUtcNsToken : List ℕ := chars "@PROMPT12_DECISION_UTC_NS@"
def canonicalIntervalsToken : List ℕ := chars "@PROMPT12_CANONICAL_INTERVALS@"

/-- `HandoffError`, or another exception by its type. -/
inductive HandoffFailure
  | handoff (reason : List ℕ) (rc : ℤ)
  | raised (exception : String)
  deriving DecidableEq

def reject (reason : String) (rc : ℤ) : HandoffFailure := .handoff (chars reason) rc

/-! ### Paths -/

/-- What is found at the precontrol output path. -/
inductive OutputPath
  | absent
  | file (content : List UInt8)
  | directory
  | other
  deriving DecidableEq

/-- `pathlib.Path(..).absolute()`: links and `..` are not resolved. -/
structure AbsolutePath where
  doubleSlash : Bool
  names : List (List ℕ)
  deriving DecidableEq

def pathNames (text : List ℕ) : List (List ℕ) :=
  (components text).filter fun name => name ≠ [] ∧ name ≠ [46]

def absolutePath (cwd : AbsolutePath) (text : List ℕ) : AbsolutePath :=
  match text with
  | 47 :: 47 :: 47 :: _ => ⟨false, pathNames text⟩
  | 47 :: 47 :: _ => ⟨true, pathNames text⟩
  | 47 :: _ => ⟨false, pathNames text⟩
  | _ => ⟨cwd.doubleSlash, cwd.names ++ pathNames text⟩

/-! ### What a run meets -/

inductive Tool
  | stationarity | freshness
  deriving DecidableEq

def Tool.label : Tool → List ℕ
  | .stationarity => chars "STATIONARITY"
  | .freshness => chars "FRESHNESS"

/-- A completed command with its return code and decoded streams. -/
inductive CommandOutcome
  | osError (exception : String)
  | undecodable
  | completed (returncode : ℤ) (stdout stderr : List ℕ)

/-- The file operations in the attempt directory. -/
inductive AttemptFile
  | attempt | commands | stdoutLog (tool : Tool) | stderrLog (tool : Tool) | precheck
  | resolvedCommand
  deriving DecidableEq

/-- An `OSError`, which the caller looks for, or an exception of another type. -/
inductive ReadFailure
  | osError (exception : String)
  | other (exception : String)

/-- Writing the output: the file that has been opened holds the first bytes where writing, flushing
or closing it fails. -/
inductive Publication
  | complete
  | notOpened (exception : String)
  | interrupted (written : ℕ) (exception : String)

structure Surroundings where
  cwd : AbsolutePath
  /-- Where an absolute path leads. -/
  resolve : AbsolutePath → List (List ℕ)
  /-- The exception of making the attempt root, and whether the parents have been made by then. -/
  makeRoot : Option String
  parentsMade : Bool
  /-- The path of the attempt directory. -/
  attempt : List ℕ
  fault : AttemptFile → Option String
  loads : List ℕ → Loaded
  run : Tool → List (List ℕ) → CommandOutcome
  /-- `path.resolve(strict=True)` and `read_bytes`. -/
  realpath : List ℕ → Except ReadFailure (List ℕ)
  readBytes : List ℕ → Except ReadFailure (List UInt8)
  timeNs : ℤ
  /-- The candidate when it is checked, `none` where it is no file, and when it is published. -/
  candidate : Option (Except ReadFailure (List UInt8))
  candidateAgain : Except ReadFailure (List UInt8)
  makeOutputParent : Option String
  publication : Publication

structure Args where
  attemptRoot : List ℕ
  precontrolOutput : List ℕ

def orRaised : Option String → Except HandoffFailure Unit
  | none => .ok ()
  | some exception => .error (.raised exception)

/-! ### Admission -/

inductive Gate
  | pass | fail
  deriving DecidableEq

def parseStationarity (loads : List ℕ → Loaded) (stdout : List ℕ) :
    Except HandoffFailure (List (List ℕ × Json) × Gate) :=
  match loads stdout with
  | .syntaxError => .error (reject "STATIONARITY_STDOUT_INVALID_JSON" 65)
  | .gaveUp => .error (.raised "ValueError")
  | .value (.obj record) =>
      let gate := (dictLookup record (chars "output_stationarity_gate")).getD .null
      if isText gate (chars "PASS") then .ok (record, .pass)
      else if isText gate (chars "FAIL") then .ok (record, .fail)
      else .error (reject "STATIONARITY_GATE_INVALID" 65)
  | .value _ => .error (reject "STATIONARITY_STDOUT_NOT_OBJECT" 65)

/-- `path.name`. -/
def lastName (names : List (List ℕ)) : List ℕ := names.getLast?.getD []

/-- `intervals.canonical.jsonl` in `processed` in an attempt directory. -/
def CanonicalLayout (resolved : List ℕ) : Prop :=
  let names := pathNames resolved
  lastName names = chars "intervals.canonical.jsonl" ∧
    lastName names.dropLast = chars "processed" ∧
    chars "attempt-" <+: lastName names.dropLast.dropLast

instance (resolved : List ℕ) : Decidable (CanonicalLayout resolved) :=
  inferInstanceAs (Decidable (_ ∧ _ ∧ _))

/-- An `OSError` becomes the given error. -/
def orReject {α : Type} (e : HandoffFailure) : Except ReadFailure α → Except HandoffFailure α
  | .ok a => .ok a
  | .error (.osError _) => .error e
  | .error (.other exception) => .error (.raised exception)

section
variable (w : Surroundings)

def validateCanonicalSnapshot (record : List (List ℕ × Json)) : Except HandoffFailure (List ℕ) :=
  match dictLookup record (chars "canonical_interval_snapshot_path") with
  | some (.str value) => do
      rejectIf (value = []) (reject "CANONICAL_INTERVAL_SNAPSHOT_PATH_MISSING" 65)
      require (value.head? = some 47)
        (reject "CANONICAL_INTERVAL_SNAPSHOT_PATH_NOT_ABSOLUTE" 65)
      let resolved ← orReject (reject "CANONICAL_INTERVAL_SNAPSHOT_UNAVAILABLE" 65) (w.realpath value)
      let data ← orReject (reject "CANONICAL_INTERVAL_SNAPSHOT_UNAVAILABLE" 65)
        (w.readBytes resolved)
      require (resolved = value) (reject "CANONICAL_INTERVAL_SNAPSHOT_PATH_NOT_CANONICAL" 65)
      require (CanonicalLayout resolved) (reject "CANONICAL_INTERVAL_SNAPSHOT_LAYOUT_INVALID" 65)
      require (data.getLast? = some 10) (reject "CANONICAL_INTERVAL_SNAPSHOT_CONTENT_INVALID" 65)
      return value
  | _ => .error (reject "CANONICAL_INTERVAL_SNAPSHOT_PATH_MISSING" 65)

def bindCanonicalSnapshot (template : List (List ℕ)) (canonical : List ℕ) :
    Except HandoffFailure (List (List ℕ)) := do
  let resolved := template.map fun value => if value = canonicalIntervalsToken then canonical else value
  rejectIf (canonicalIntervalsToken ∈ resolved) (reject "CANONICAL_INTERVALS_TOKEN_UNRESOLVED" 64)
  return resolved

def inAttempt (name : String) : List ℕ := w.attempt ++ chars "/" ++ chars name

/-- `replacements.get(value, value)`. -/
def replaceToken (value : List ℕ) : List ℕ :=
  if value = stationarityJsonToken then inAttempt w "stationarity.precheck.json"
  else if value = precontrolJsonToken then inAttempt w "precontrol.candidate.json"
  else if value = decisionUtcNsToken then intText w.timeNs
  else value

/-- Behind `--stationarity-output` the token stands for a path of its own. -/
def resolveFreshnessCommand (previous : Option (List ℕ)) : List (List ℕ) → List (List ℕ)
  | [] => []
  | value :: template =>
      (if value = stationarityJsonToken ∧ previous = some (chars "--stationarity-output") then
          inAttempt w "stationarity.json"
        else replaceToken w value) :: resolveFreshnessCommand (some value) template

def runTool (tool : Tool) (command : List (List ℕ)) : Except HandoffFailure (ℤ × List ℕ) :=
  match w.run tool command with
  | .osError exception =>
      .error (.handoff (tool.label ++ chars "_EXECUTION_FAILED:" ++ chars exception) 70)
  | .undecodable => .error (.raised "UnicodeDecodeError")
  | .completed returncode stdout _ => do
      orRaised (w.fault (.stdoutLog tool))
      orRaised (w.fault (.stderrLog tool))
      return (returncode, stdout)

def requireSuccess (tool : Tool) (returncode : ℤ) : Except HandoffFailure Unit :=
  require (returncode = 0)
    (.handoff (tool.label ++ chars "_COMMAND_FAILED_RC_" ++ intText returncode) returncode)

def gatesPass (record : List (List ℕ × Json)) : Prop :=
  let get (key : String) := (dictLookup record (chars key)).getD .null
  isText (get "selection") (chars "latest_50_complete_contiguous_samples") = true ∧
    isText (get "stationarity_window_binding_gate") (chars "PASS") = true ∧
    isText (get "output_stationarity_gate") (chars "PASS") = true ∧
    isText (get "freshness_gate") (chars "PASS") = true ∧
    isText (get "precontrol_admission_gate") (chars "PASS") = true

instance (record : List (List ℕ × Json)) : Decidable (gatesPass record) :=
  inferInstanceAs (Decidable (_ ∧ _ ∧ _ ∧ _ ∧ _))

/-- The bytes of the candidate whose gates have passed. -/
def validatePrecontrol : Except HandoffFailure (List UInt8) :=
  match w.candidate with
  | none => .error (reject "PRECONTROL_CANDIDATE_MISSING" 65)
  | some content => do
      let data ← orReject (reject "PRECONTROL_CANDIDATE_INVALID" 65) content
      match (codePoints data).map w.loads with
      | none => .error (.raised "UnicodeDecodeError")
      | some .syntaxError => .error (reject "PRECONTROL_CANDIDATE_INVALID" 65)
      | some .gaveUp => .error (.raised "ValueError")
      | some (.value (.obj record)) => do
          require (gatesPass record) (reject "PRECONTROL_CANDIDATE_GATE_NOT_PASS" 65)
          return data
      | some (.value _) => .error (reject "PRECONTROL_CANDIDATE_NOT_OBJECT" 65)

/-- Both commands and the checks of what they have written: what is printed, and the candidate where
the gate is `PASS`. -/
def admission (stationarity template : List (List ℕ)) :
    Except HandoffFailure (List ℕ × Option (List UInt8)) := do
  orRaised (w.fault .commands)
  let (returncode, stdout) ← runTool w .stationarity stationarity
  requireSuccess .stationarity returncode
  let (record, gate) ← parseStationarity w.loads stdout
  orRaised (w.fault .precheck)
  match gate with
  | .fail => return (stdout, none)
  | .pass => do
      let canonical ← validateCanonicalSnapshot w record
      let bound ← bindCanonicalSnapshot template canonical
      orRaised (w.fault .resolvedCommand)
      let (returncode, _) ← runTool w .freshness (resolveFreshnessCommand w none bound)
      requireSuccess .freshness returncode
      let candidate ← validatePrecontrol w
      return (stdout, some candidate)

/-! ### The output -/

abbrev Execution := Attempt OutputPath HandoffFailure

/-- Making the attempt root makes the output path, which is on the way to it. -/
def LeadsThrough (args : Args) : Prop :=
  w.resolve (absolutePath w.cwd args.precontrolOutput) <+:
    w.resolve (absolutePath w.cwd args.attemptRoot)

instance (args : Args) : Decidable (LeadsThrough w args) := inferInstanceAs (Decidable (_ <+: _))

def createAttempt (args : Args) : Execution Unit := do
  if LeadsThrough w args ∧ (w.makeRoot = none ∨ w.parentsMade) then modify fun _ => .directory
  Attempt.ofExcept (orRaised w.makeRoot)
  Attempt.ofExcept (orRaised (w.fault .attempt))

def publishFailed (exception : String) : HandoffFailure :=
  .handoff (chars "PRECONTROL_PUBLISH_FAILED:" ++ chars exception) 70

/-- `destination.open("xb")` and what is done with the file. -/
def writeExclusive (payload : List UInt8) : Execution Unit := do
  if (← MonadState.get) ≠ .absent then throw (reject "PRECONTROL_OUTPUT_ALREADY_EXISTS" 65)
  match w.publication with
  | .notOpened exception => throw (publishFailed exception)
  | .interrupted written exception => do
      modify fun _ => .file (payload.take written)
      throw (publishFailed exception)
  | .complete => modify fun _ => .file payload

def publishExclusive : Execution Unit := do
  Attempt.ofExcept (orRaised w.makeOutputParent)
  match w.candidateAgain with
  | .error (.osError exception) => throw (publishFailed exception)
  | .error (.other exception) => throw (.raised exception)
  | .ok payload => writeExclusive w payload

def execute (args : Args) (stationarity template : List (List ℕ)) : Execution (List ℕ) := do
  if (← MonadState.get) ≠ .absent then throw (reject "PRECONTROL_OUTPUT_ALREADY_EXISTS" 65)
  if absolutePath w.cwd args.attemptRoot = absolutePath w.cwd args.precontrolOutput then
    throw (reject "ATTEMPT_ROOT_EQUALS_PRECONTROL_OUTPUT" 64)
  createAttempt w args
  let (stdout, candidate) ← Attempt.ofExcept (admission w stationarity template)
  if candidate.isSome then publishExclusive w
  return stdout

end

end TcdOran.Harness.Handoff
