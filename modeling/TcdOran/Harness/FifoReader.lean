import TcdOran.Lib.Check
import TcdOran.Lib.Once
import TcdOran.Lib.Python
import TcdOran.Lib.PythonNumber

/-! prompt12-production-local-fifo-reader.py: any number of reader processes over the binding files
that they share. An error is given by its text in front of the path or value it names. -/
namespace TcdOran.Harness
open TcdOran.Lib Python

abbrev ReaderId := ℕ
abbrev TransitionIndex := ℕ

inductive FileKind
  | regular | symlink (dangling : Bool) | other
  deriving DecidableEq

/-- What stands at a path. `raw` is what reading it gives, where it can be read. -/
structure BindingFile where
  kind : FileKind
  raw : Option (List UInt8)
  deriving DecidableEq

/-- `path.exists()`. -/
def pathExists (file : Option BindingFile) : Bool :=
  match file with
  | some file => file.kind ≠ .symlink true
  | none => false

/-- The binding paths by their transition, and the `.consumed.json` markers beside them. -/
structure ReaderFiles where
  binding : TransitionIndex → Option BindingFile
  consumed : TransitionIndex → Option BindingFile

/-- What the reader uses of a validated binding. -/
structure RatioBinding where
  bindingId : List ℕ
  ratio : ℤ
  deriving DecidableEq

/-- The standard library as the reader calls it. `fromisoformat` gives microseconds since the epoch
for a time with an offset; `none` is `ValueError`. -/
structure ReaderLibrary where
  loads : List ℕ → Loaded
  fromisoformat : List ℕ → Option ℤ

inductive ReaderPc
  | readToken
  | checkMarker | statBinding | readBinding
  | checkConsumed (binding : RatioBinding) | linkMarker (binding : RatioBinding)
  | syncLinked (binding : RatioBinding) | unlinkBinding (binding : RatioBinding)
  | syncUnlinked (binding : RatioBinding)
  | startActuator (binding : RatioBinding) | awaitActuator (binding : RatioBinding)
  | ended (error : String)
  | crashed
  deriving DecidableEq

/-- The elementary steps behind a token. -/
inductive ReaderOp
  | checkMarker | statBinding | readBinding | checkConsumed | linkMarker | syncLinked
  | unlinkBinding | syncUnlinked | startActuator | awaitActuator
  deriving DecidableEq

/-- A call of `run_reader`. `startedUtc` is in seconds. -/
structure ReaderProcess where
  experimentId : List ℕ
  runId : List ℕ
  startedUtc : ℤ
  initial : ℕ
  next : ℕ
  consumedIds : List (List ℕ)
  pc : ReaderPc

structure ReaderState where
  files : ReaderFiles
  processes : ReaderId → Option ReaderProcess

inductive ReaderEvent
  | token (id : ReaderId) (line : List ℕ)
  | performed (id : ReaderId) (index : TransitionIndex) (op : ReaderOp)
  | validated (id : ReaderId) (index : TransitionIndex) (binding : RatioBinding)
  | consumed (id : ReaderId) (index : TransitionIndex)
  | actuated (id : ReaderId) (index : TransitionIndex) (ratioText : List ℕ)
  deriving DecidableEq

/-! ### Validation of a binding -/

def bindingSchema : String := "sci_oran_prompt12_v2_pretrigger_ratio_binding_v1"

def requiredBindingKeys : List (List ℕ) :=
  [chars "schema", chars "binding_id", chars "experiment_id", chars "run_id",
    chars "transition_label", chars "transition_index", chars "requested_ratio_pct",
    chars "created_utc"]

/-- `set(binding) == REQUIRED_BINDING_KEYS`. -/
def hasBindingKeys (members : List (List ℕ × Json)) : Bool :=
  (members.all fun member => member.1 ∈ requiredBindingKeys) &&
    requiredBindingKeys.all fun key => key ∈ members.map Prod.fst

def bindingField (members : List (List ℕ × Json)) (key : String) : Json :=
  (dictLookup members (chars key)).getD .null

def allowedRatios : List ℤ := [25, 50, 75, 100]

/-- The ratio, where it is an integer and allowed. -/
def ratioOf : Json → Option ℤ
  | .num literal =>
      if literal.isInteger ∧ literal.intValue ∈ allowedRatios then some literal.intValue else none
  | _ => none

/-- `parse_created_utc`. -/
def parseCreatedUtc (lib : ReaderLibrary) (value : Json) : Except String ℤ :=
  match value with
  | .str text =>
      if text.getLast? = some 90 then
        match lib.fromisoformat (text.dropLast ++ chars "+00:00") with
        | some us => .ok us
        | none => .error "BINDING_CREATED_UTC_INVALID"
      else .error "BINDING_CREATED_UTC_INVALID"
  | _ => .error "BINDING_CREATED_UTC_INVALID"

/-- `T<index>`. -/
def readerLabel (index : TransitionIndex) : List ℕ := chars "T" ++ intText index

def bindingMembers (lib : ReaderLibrary) (raw : List UInt8) :
    Except String (List (List ℕ × Json)) :=
  match (codePoints raw).map lib.loads with
  | some (.value (.obj members)) => .ok members
  | some (.value _) => .error "BINDING_OBJECT_INVALID"
  | some .syntaxError | none => .error "BINDING_JSON_INVALID"
  -- an exception that is not caught, of no fixed text
  | some .gaveUp => .error ""

/-- What `load_and_validate_binding` checks of the text. `nowUtc` is in seconds. -/
def validateBinding (lib : ReaderLibrary) (p : ReaderProcess) (nowUtc : ℤ) (raw : List UInt8) :
    Except String RatioBinding := do
  let members ← bindingMembers lib raw
  require (hasBindingKeys members) "BINDING_KEYS_INVALID"
  require (isText (bindingField members "schema") (chars bindingSchema)) "BINDING_SCHEMA_INVALID"
  let bindingId ← match bindingField members "binding_id" with
    | .str (u :: rest) => .ok (u :: rest)
    | _ => .error "BINDING_ID_INVALID"
  require (bindingId ∉ p.consumedIds) "BINDING_ID_REUSED"
  require (isText (bindingField members "experiment_id") p.experimentId)
    "BINDING_EXPERIMENT_ID_MISMATCH"
  require (isText (bindingField members "run_id") p.runId) "BINDING_RUN_ID_MISMATCH"
  require (isText (bindingField members "transition_label") (readerLabel p.next))
    "BINDING_TRANSITION_LABEL_MISMATCH"
  require (equalsInt (bindingField members "transition_index") p.next)
    "BINDING_TRANSITION_INDEX_MISMATCH"
  let ratio ← match ratioOf (bindingField members "requested_ratio_pct") with
    | some ratio => .ok ratio
    | none => .error "BINDING_RATIO_INVALID"
  let createdUtc ← parseCreatedUtc lib (bindingField members "created_utc")
  require (p.startedUtc * 1000000 ≤ createdUtc) "BINDING_STALE"
  require (createdUtc ≤ (nowUtc + 5) * 1000000) "BINDING_CREATED_IN_FUTURE"
  return ⟨bindingId, ratio⟩

/-! ### The steps of a process -/

def triggerToken : List ℕ := chars "TRIGGER\n"

def ReaderPc.op : ReaderPc → Option ReaderOp
  | .checkMarker => some .checkMarker
  | .statBinding => some .statBinding
  | .readBinding => some .readBinding
  | .checkConsumed _ => some .checkConsumed
  | .linkMarker _ => some .linkMarker
  | .syncLinked _ => some .syncLinked
  | .unlinkBinding _ => some .unlinkBinding
  | .syncUnlinked _ => some .syncUnlinked
  | .startActuator _ => some .startActuator
  | .awaitActuator _ => some .awaitActuator
  | .readToken | .ended _ | .crashed => none

def ReaderProcess.stop (p : ReaderProcess) (error : String) : ReaderProcess :=
  { p with pc := .ended error }

/-- `os.link(path, consumed_path)`. -/
def ReaderFiles.link (files : ReaderFiles) (k : TransitionIndex) : ReaderFiles :=
  { files with consumed := Function.update files.consumed k (files.binding k) }

def ReaderFiles.unlink (files : ReaderFiles) (k : TransitionIndex) : ReaderFiles :=
  { files with binding := Function.update files.binding k none }

def ReaderFiles.place (files : ReaderFiles) (k : TransitionIndex) (file : BindingFile) :
    ReaderFiles :=
  { files with binding := Function.update files.binding k (some file) }

abbrev ReaderStep := ReaderFiles × ReaderProcess × List ReaderEvent

section
variable (lib : ReaderLibrary) (files : ReaderFiles) (id : ReaderId) (p : ReaderProcess)
  (ok : Bool) (nowUtc : ℤ)

def readerStop (error : String) : ReaderStep := (files, p.stop error, [])

def readerGoto (pc : ReaderPc) : ReaderStep := (files, { p with pc }, [])

/-- `load_and_validate_binding` by its calls. `ok` tells whether a call succeeds. -/
def loadBindingStep : Option ReaderStep :=
  match p.pc with
  | .checkMarker =>
      if !ok then some (readerStop files p "")
      else if pathExists (files.consumed p.next) then
        some (readerStop files p "BINDING_ALREADY_CONSUMED")
      else some (readerGoto files p .statBinding)
  | .statBinding =>
      match files.binding p.next with
      | none => some (readerStop files p "BINDING_MISSING")
      | some file =>
          if !ok then some (readerStop files p "BINDING_STAT_FAILED")
          else match file.kind with
            | .symlink _ => some (readerStop files p "BINDING_SYMLINK_PROHIBITED")
            | .other => some (readerStop files p "BINDING_NOT_REGULAR_FILE")
            | .regular => some (readerGoto files p .readBinding)
  | .readBinding =>
      -- the path may stand for another file by now, or for none
      match (files.binding p.next).bind BindingFile.raw with
      | none => some (readerStop files p "")
      | some raw =>
          if !ok then some (readerStop files p "")
          else match validateBinding lib p nowUtc raw with
            | .error error => some (readerStop files p error)
            | .ok binding => some (files, { p with pc := .checkConsumed binding },
                [.validated id p.next binding])
  | _ => none

/-- `consume_binding_once` by its calls. -/
def consumeBindingStep : Option ReaderStep :=
  match p.pc with
  | .checkConsumed binding =>
      if !ok then some (readerStop files p "")
      else if pathExists (files.consumed p.next) then
        some (readerStop files p "BINDING_ALREADY_CONSUMED")
      else some (readerGoto files p (.linkMarker binding))
  | .linkMarker binding =>
      if files.consumed p.next ≠ none then some (readerStop files p "BINDING_ALREADY_CONSUMED")
      else if files.binding p.next = none ∨ !ok then
        some (readerStop files p "BINDING_CONSUME_LINK_FAILED")
      else some (files.link p.next, { p with pc := .syncLinked binding }, [.consumed id p.next])
  | .syncLinked binding =>
      if !ok then some (readerStop files p "BINDING_CONSUME_UNCERTAIN")
      else some (readerGoto files p (.unlinkBinding binding))
  | .unlinkBinding binding =>
      if files.binding p.next = none ∨ !ok then
        some (readerStop files p "BINDING_CONSUME_UNCERTAIN")
      else some (readerGoto (files.unlink p.next) p (.syncUnlinked binding))
  | .syncUnlinked binding =>
      if !ok then some (readerStop files p "BINDING_CONSUME_UNCERTAIN")
      else some (files, { p with
        pc := .startActuator binding
        consumedIds := binding.bindingId :: p.consumedIds }, [])
  | _ => none

/-- `execute_actuator_once`, with the ratio as the value of `SCI_ORAN_MAX_PRB_RATIO`. -/
def actuatorStep (returncode : ℤ) : Option ReaderStep :=
  match p.pc with
  | .startActuator binding =>
      if !ok then some (readerStop files p "")
      else some (files, { p with pc := .awaitActuator binding },
        [.actuated id p.next (intText binding.ratio)])
  | .awaitActuator _ =>
      if !ok then some (readerStop files p "")
      else if returncode ≠ 0 then
        some (readerStop files p "actuator execution failed with returncode")
      else some (files, { p with
        pc := .readToken
        next := p.next + 1 }, [])
  | _ => none

def readerStep (returncode : ℤ) : Option ReaderStep := do
  let op ← p.pc.op
  let (files', p', events) ← ((loadBindingStep lib files id p ok nowUtc).or
    (consumeBindingStep files id p ok)).or (actuatorStep files id p ok returncode)
  return (files', p', .performed id p.next op :: events)

/-- A line of the FIFO. -/
def tokenStep (line : List ℕ) : ReaderProcess :=
  if line = [] then p.stop "FIFO reached EOF; automatic reader restart prohibited"
  else if line ≠ triggerToken then p
  else if 6 < p.next then p.stop "NO_REMAINING_RATIO_BINDING"
  else { p with pc := .checkMarker }

end

/-- `[A-Za-z0-9][A-Za-z0-9._:-]{0,127}` -/
def validIdentity : List ℕ → Bool
  | [] => false
  | u :: rest => alphanumeric u ∧ rest.length ≤ 127 ∧
      ∀ v ∈ rest, alphanumeric v ∨ v ∈ chars "._:-"
where
  alphanumeric (u : ℕ) : Bool := (48 ≤ u ∧ u ≤ 57) ∨ (65 ≤ u ∧ u ≤ 90) ∨ (97 ≤ u ∧ u ≤ 122)

/-- `ok` tells whether the FIFO can be opened, `step` runs the next call of a process, and `place`
leaves a file at a missing path. -/
inductive ReaderAction
  | start (id : ReaderId) (experimentId runId : List ℕ) (startedUtc initial : ℤ) (ok : Bool)
  | token (id : ReaderId) (line : List ℕ)
  | step (id : ReaderId) (ok : Bool) (nowUtc returncode : ℤ)
  | crash (id : ReaderId)
  | place (index : TransitionIndex) (file : BindingFile)

/-- `run_reader` up to its loop. -/
def startReader (experimentId runId : List ℕ) (startedUtc initial : ℤ) (ok : Bool) :
    Option ReaderProcess :=
  if validIdentity experimentId ∧ validIdentity runId ∧ ok ∧ 1 ≤ initial ∧ initial ≤ 6 then
    some ⟨experimentId, runId, startedUtc, initial.toNat, initial.toNat, [], .readToken⟩
  else none

def ReaderState.set (s : ReaderState) (id : ReaderId) (p : ReaderProcess) : ReaderState :=
  { s with processes := Function.update s.processes id (some p) }

def readerMachine (lib : ReaderLibrary) : Machine ReaderState ReaderAction ReaderEvent :=
  fun s action =>
    match action with
    | .start id experimentId runId startedUtc initial ok => do
        guard (s.processes id).isNone
        let p ← startReader experimentId runId startedUtc initial ok
        return (s.set id p, [])
    | .token id line => do
        let p ← s.processes id
        guard (p.pc = .readToken)
        return (s.set id (tokenStep p line), [.token id line])
    | .step id ok nowUtc returncode => do
        let p ← s.processes id
        let (files, p, events) ← readerStep lib s.files id p ok nowUtc returncode
        return ({ s with files }.set id p, events)
    | .crash id => do
        let p ← s.processes id
        return (s.set id { p with pc := .crashed }, [])
    | .place index file => do
        guard (s.files.binding index).isNone
        return ({ s with files := s.files.place index file }, [])

/-- No reader has been started; the files are arbitrary. -/
def readerStart (files : ReaderFiles) : ReaderState := ⟨files, fun _ => none⟩

end TcdOran.Harness
