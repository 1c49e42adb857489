import TcdOran.Lib.Machine
import TcdOran.Lib.PythonPattern

/-! run-experiment.sh and what its runners share: the run directories and the manifests of one
experiment id in one workspace. A runner chooses its run id by looking at them, makes the directory,
creates the manifest and updates it, and its trap on EXIT writes the terminal state. -/
namespace TcdOran.Harness.RunnerIdentity
open TcdOran.Lib Python

abbrev RunnerId := ℕ
abbrev RunId := List ℕ

/-! ### The run id -/

open Pattern in
/-- `^[0-9]{8}T[0-9]{6}Z$` -/
def timestampValid (timestamp : List ℕ) : Bool :=
  fullmatch (times isDigit 8 ++ literal "T" ++ times isDigit 6 ++ literal "Z") timestamp

/-- `%03d` -/
def sequenceText (sequence : ℕ) : List ℕ :=
  let digits := decimalUnits sequence
  List.replicate (3 - digits.length) 48 ++ digits

/-- `RUN-%s-%03d` -/
def candidate (timestamp : List ℕ) (sequence : ℕ) : RunId :=
  chars "RUN-" ++ timestamp ++ chars "-" ++ sequenceText sequence

def lastSequence : ℕ := 999

/-! ### A runner -/

/-- The commands that touch what is shared. `RUN_ID` is set at `setPaths`, and `MANIFEST_PATH`
behind it. -/
inductive ScriptPc
  | precheck
  | lookRunDir (timestamp : List ℕ) (sequence : ℕ)
  | lookManifest (timestamp : List ℕ) (sequence : ℕ)
  | setPaths (runId : RunId)
  | makeRunDir (runId : RunId)
  | identityTime (runId : RunId)
  | manifestInit (runId : RunId)
  | update (runId : RunId) (done : ℕ)
  | completed (runId : RunId)
  deriving DecidableEq

/-- The commands of `cleanup_on_exit` that touch what is shared. -/
inductive CleanupPc
  | testManifest | setLifecycle | setFinalStatus
  deriving DecidableEq

/-- `cleanup` remembers where the script was left. -/
inductive RunnerPc
  | script (pc : ScriptPc)
  | cleanup (left : ScriptPc) (pc : CleanupPc)
  | ended
  deriving DecidableEq

/-- SNAPSHOT, LOGGER_START, LOGGER_READY, RUNNING, COOLDOWN, POSTCHECK, LOGGER_STOP, VALIDATION and
FINALIZATION, the summary, the execution and the KPM record, COMPLETED and the final status. -/
def manifestUpdates : ℕ := 14

/-- What the variable `MANIFEST_PATH` names. -/
def ScriptPc.manifestPath : ScriptPc → Option RunId
  | .precheck | .lookRunDir _ _ | .lookManifest _ _ | .setPaths _ => none
  | .makeRunDir runId | .identityTime runId | .manifestInit runId | .update runId _
  | .completed runId => some runId

/-- `RUN_COMPLETED` -/
def ScriptPc.runCompleted : ScriptPc → Bool
  | .completed _ => true
  | _ => false

/-! ### What is shared -/

/-- `begun` is a file whose text is not all there. -/
inductive ManifestFile
  | absent | begun | whole
  deriving DecidableEq

structure SharedFiles where
  runDirs : RunId → Bool
  manifests : RunId → ManifestFile

namespace SharedFiles

def empty : SharedFiles := ⟨fun _ => false, fun _ => .absent⟩

def makeRunDir (files : SharedFiles) (runId : RunId) : SharedFiles :=
  { files with runDirs := Function.update files.runDirs runId true }

def setManifest (files : SharedFiles) (runId : RunId) (file : ManifestFile) : SharedFiles :=
  { files with manifests := Function.update files.manifests runId file }

end SharedFiles

structure RunnersState where
  files : SharedFiles
  runners : RunnerId → Option RunnerPc

def runnersStart : RunnersState := ⟨.empty, fun _ => none⟩

/-- How a command ends. `fails` also stands for a signal; with `effect` the command has done its work
before it. -/
inductive Answer
  | done
  | date (timestamp : List ℕ)
  | fails (effect : Bool)

/-- `entered` is a run directory that the `mkdir` of a runner has made or taken. -/
inductive RunnerEvent
  | entered (id : RunnerId) (runId : RunId)
  | created (id : RunnerId) (runId : RunId)
  | modified (id : RunnerId) (runId : RunId)
  deriving DecidableEq

inductive RunnerAction
  | start (id : RunnerId)
  | step (id : RunnerId) (answer : Answer)
  | kill (id : RunnerId)

abbrev RunnerResult := Option (SharedFiles × RunnerPc × List RunnerEvent)

/-! ### The steps -/

section
variable (id : RunnerId) (files : SharedFiles)

/-- The script exits at `pc`, which leads to the trap. -/
def exitAt (pc : ScriptPc) : RunnerPc := .cleanup pc .testManifest

/-- The loop goes on to the next sequence number. -/
def nextCandidate (timestamp : List ℕ) (sequence : ℕ) : RunnerPc :=
  if sequence < lastSequence then .script (.lookRunDir timestamp (sequence + 1))
  else exitAt (.lookRunDir timestamp sequence)

/-- A manifest whose text is all there is read and replaced. -/
def updateManifest (runId : RunId) : List RunnerEvent :=
  if files.manifests runId = .whole then [.modified id runId] else []

def scriptStep (pc : ScriptPc) (answer : Answer) : RunnerResult :=
  match pc, answer with
  | .precheck, .date timestamp =>
      some (files, if timestampValid timestamp then .script (.lookRunDir timestamp 1)
        else exitAt .precheck, [])
  | .lookRunDir timestamp sequence, .done =>
      some (files, if files.runDirs (candidate timestamp sequence) then
          nextCandidate timestamp sequence
        else .script (.lookManifest timestamp sequence), [])
  | .lookManifest timestamp sequence, .done =>
      some (files, if files.manifests (candidate timestamp sequence) ≠ .absent then
          nextCandidate timestamp sequence
        else .script (.setPaths (candidate timestamp sequence)), [])
  | .setPaths runId, .done => some (files, .script (.makeRunDir runId), [])
  | .makeRunDir runId, .done =>
      -- `mkdir -p` takes a directory that is there
      some (files.makeRunDir runId, .script (.identityTime runId), [.entered id runId])
  | .makeRunDir runId, .fails true =>
      some (files.makeRunDir runId, exitAt (.makeRunDir runId), [.entered id runId])
  | .identityTime runId, .done => some (files, .script (.manifestInit runId), [])
  | .manifestInit runId, .done =>
      if files.manifests runId = .absent then
        some (files.setManifest runId .whole, .script (.update runId 0), [.created id runId])
      else some (files, exitAt (.manifestInit runId), [])
  | .manifestInit runId, .fails true =>
      if files.manifests runId = .absent then
        some (files.setManifest runId .begun, exitAt (.manifestInit runId), [.created id runId])
      else some (files, exitAt (.manifestInit runId), [])
  | .update runId done, .done =>
      if files.manifests runId = .whole then
        some (files, .script (if done + 1 < manifestUpdates then .update runId (done + 1)
          else .completed runId), [.modified id runId])
      else some (files, exitAt (.update runId done), [])
  | .update runId done, .fails true =>
      some (files, exitAt (.update runId done), updateManifest id files runId)
  | .completed _, .done => some (files, .ended, [])
  | pc, .fails _ => some (files, exitAt pc, [])
  | _, _ => none

/-- An update of the trap is let fail. -/
def letFail (runId : RunId) : Answer → List RunnerEvent
  | .done | .fails true => updateManifest id files runId
  | _ => []

def cleanupStep (left : ScriptPc) (pc : CleanupPc) (answer : Answer) : RunnerResult :=
  match left.manifestPath, pc with
  | none, _ => some (files, .ended, [])
  | some runId, .testManifest =>
      some (files, if left.runCompleted = false ∧ files.manifests runId ≠ .absent then
        .cleanup left .setLifecycle else .ended, [])
  | some runId, .setLifecycle =>
      some (files, .cleanup left .setFinalStatus, letFail id files runId answer)
  | some runId, .setFinalStatus => some (files, .ended, letFail id files runId answer)

end

def RunnersState.setRunner (s : RunnersState) (id : RunnerId) (pc : RunnerPc) : RunnersState :=
  { s with runners := Function.update s.runners id (some pc) }

def runnerStep (id : RunnerId) (files : SharedFiles) (pc : RunnerPc) (answer : Answer) :
    RunnerResult :=
  match pc with
  | .script pc => scriptStep id files pc answer
  | .cleanup left pc => cleanupStep id files left pc answer
  | .ended => none

/-- A kill leaves everything as it is. -/
def runnersMachine : Machine RunnersState RunnerAction RunnerEvent := fun s action =>
  match action with
  | .start id =>
      match s.runners id with
      | some _ => none
      | none => some (s.setRunner id (.script .precheck), [])
  | .step id answer => do
      let pc ← s.runners id
      let (files, pc', events) ← runnerStep id s.files pc answer
      return ({ s with files }.setRunner id pc', events)
  | .kill id => do
      let _ ← s.runners id
      return (s.setRunner id .ended, [])

/-! ### What is promised -/

/-- A run directory is used by one runner, and a manifest is modified by its creator only. -/
structure OwnRunOnly (tr : List RunnerEvent) : Prop where
  directory : ∀ id k runId, .entered id runId ∈ tr → .entered k runId ∈ tr → id = k
  creator : ∀ id k runId, .created id runId ∈ tr → .created k runId ∈ tr → id = k
  manifest : ∀ id runId, .modified id runId ∈ tr → .created id runId ∈ tr

/-- A runner makes a directory that is not there, and one that is left before it has made its
directory finds no manifest under its run id. -/
def ChosenAlone (s : RunnersState) (action : RunnerAction) : Prop :=
  ∀ id answer runId, action = .step id answer →
    (s.runners id = some (.script (.makeRunDir runId)) → answer = .done ∨ answer = .fails true →
      s.files.runDirs runId = false) ∧
    (s.runners id = some (.cleanup (.makeRunDir runId) .testManifest) →
      s.files.manifests runId = .absent)

end TcdOran.Harness.RunnerIdentity
