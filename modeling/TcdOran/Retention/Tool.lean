import TcdOran.Lib.Attempt
import TcdOran.Lib.Machine
import TcdOran.Retention.ManifestRoundTrip

/-! The modes `transfer`, `verify` and `promote` of `sci-oran-retain-evidence.py` on one operation. -/
namespace TcdOran.Retention
open Lib Lib.Python

/-! ### What an invocation meets -/

inductive PathKind
  | absent | directory | symlink | other
  deriving DecidableEq

/-- What the control directory holds of the files that a later invocation looks at. -/
structure Control where
  sourceManifest : Option (List UInt8)
  /-- Whether `transfer-result.json` is there. -/
  transferResult : Bool
  /-- What `json.loads` makes of `verification-result.json`. -/
  verificationResult : Option Loaded

structure Staging where
  payload : TreeRoot
  control : Control

inductive StagingPath
  | absent
  | directory (staging : Staging)
  | symlink
  | other

/-- What the retained root holds of the operation, and what an invocation has printed. -/
structure Operation where
  staging : StagingPath
  final : PathKind
  printed : List (String × List ℕ)

/-- What runs a command or touches the file system, and so may fail. -/
inductive External
  | inspectPaths | sourceSnapshot | dryRun | listRoot | makePayload | makeControl | writeOperation
  | sourceManifest | writeIdentity | rsync | writeRsyncOutput | writeTransferResult | localManifest
  | readManifests | countDirectories | hashManifests | writeVerification | move
  | writePromotionResult
  | print (key : String)
  deriving DecidableEq

/-- A command that returns an error, or an exception. -/
inductive Fault
  | command | exception

def Fault.failure : Fault → Failure
  | .command => .commandFailed
  | .exception => .raised

structure Surroundings where
  operationId : List ℕ
  retainedRoot : List ℕ
  source : TreeRoot
  /-- How many regular files of the source `os.access` denies. -/
  unreadable : ℕ
  fault : External → Option Fault
  /-- Whether a payload directory that could not be made has left its parents. -/
  parentsMade : Bool
  /-- What is left of a source manifest that could not be written. -/
  interruptedManifest : Option (List UInt8)
  /-- The payload behind `rsync`, however that ends. -/
  copied : TreeRoot
  /-- The final path behind a move that has failed. -/
  interruptedMove : PathKind

namespace Surroundings
variable (w : Surroundings)

def stagingText : List ℕ := w.retainedRoot ++ chars "/.incoming/" ++ w.operationId

def finalText : List ℕ := w.retainedRoot ++ chars "/" ++ w.operationId

def attempt (external : External) : Except Failure Unit :=
  match w.fault external with
  | none => .ok ()
  | some fault => .error fault.failure

end Surroundings

abbrev Mode := Attempt Operation Failure

def external {σ : Type} (w : Surroundings) (e : External) : Attempt σ Failure Unit :=
  Attempt.ofExcept (w.attempt e)

def print (w : Surroundings) (line : String × List ℕ) : Mode Unit := do
  external w (.print line.1)
  modify fun s => { s with printed := s.printed ++ [line] }

def printAll (w : Surroundings) : List (String × List ℕ) → Mode Unit
  | [] => pure ()
  | line :: lines => do
      print w line
      printAll w lines

/-- A change below the staging directory. -/
def onStaging (f : Staging → Staging) (s : Operation) : Operation :=
  match s.staging with
  | .directory staging => { s with staging := .directory (f staging) }
  | _ => s

def onControl (f : Control → Control) : Operation → Operation :=
  onStaging fun staging => { staging with control := f staging.control }

/-! ### The source -/

structure SourceSnapshot where
  regularFiles : ℕ
  directories : ℕ
  symlinks : ℕ
  fifo : ℕ
  sockets : ℕ
  blockDevices : ℕ
  charDevices : ℕ
  totalRegularFileBytes : ℕ
  unreadableRegularFiles : ℕ

/-- What the script for the source prints. A directory that cannot be listed has no entries. -/
def snapshotOf (tree : FileTree) (unreadable : ℕ) : SourceSnapshot where
  regularFiles := tree.listing.files.length
  directories := 1 + tree.listing.directories
  symlinks := tree.listing.symlinks
  fifo := tree.listing.specials .fifo
  sockets := tree.listing.specials .socket
  blockDevices := tree.listing.specials .blockDevice
  charDevices := tree.listing.specials .charDevice
  totalRegularFileBytes := tree.totalBytes
  unreadableRegularFiles := unreadable

def SourceSnapshot.check (value : SourceSnapshot) : Except Failure SourceSnapshot := do
  rejectIf (value.symlinks ≠ 0) (.failed "source contains symlinks")
  rejectIf (value.fifo ≠ 0) (.failed "source contains unsupported special objects: fifo")
  rejectIf (value.sockets ≠ 0) (.failed "source contains unsupported special objects: sockets")
  rejectIf (value.blockDevices ≠ 0)
    (.failed "source contains unsupported special objects: block_devices")
  rejectIf (value.charDevices ≠ 0)
    (.failed "source contains unsupported special objects: char_devices")
  rejectIf (value.unreadableRegularFiles ≠ 0) (.failed "source contains unreadable regular files")
  return value

def remoteSourceSnapshot (w : Surroundings) : Except Failure SourceSnapshot := do
  w.attempt .sourceSnapshot
  match w.source with
  | .directory tree => (snapshotOf tree w.unreadable).check
  | _ => .error .commandFailed

/-- The file that is written, or what is left of it with the failure. -/
def writeRemoteManifest (sha : Sha256) (w : Surroundings) :
    Except (Option (List UInt8) × Failure) (List UInt8) :=
  match w.fault .sourceManifest with
  | some .exception => .error (w.interruptedManifest, .raised)
  | some .command =>
      .error (w.interruptedManifest, .failed "remote source manifest generation failed")
  | none =>
      let (text, failed) := remoteManifest sha w.source
      if failed then
        .error (some (utf8OfCodePoints text), .failed "remote source manifest generation failed")
      else .ok (utf8OfCodePoints text)

/-! ### Transfer -/

def ensureOperationAbsent (w : Surroundings) : Mode Unit := do
  external w .inspectPaths
  let s ← get
  match s.staging with
  | .absent => pure ()
  | _ => throw (.failed "staging operation already exists")
  if s.final ≠ .absent then throw (.failed "final retained operation already exists")

def emptyTree : FileTree := ⟨.nil, trivial⟩

def noControl : Control := ⟨none, false, none⟩

/-- The directories `payload` and `control` below the staging path. -/
def makeStaging (w : Surroundings) : Mode Unit := do
  if w.parentsMade ∨ w.fault .makePayload = none then
    modify fun s => { s with staging := .directory ⟨.absent, noControl⟩ }
  external w .makePayload
  modify (onStaging fun staging => { staging with payload := .directory emptyTree })
  external w .makeControl

def recordSource (sha : Sha256) (w : Surroundings) : Mode (List UInt8) :=
  match writeRemoteManifest sha w with
  | .ok data => do
      modify (onControl fun control => { control with sourceManifest := some data })
      return data
  | .error (left, failure) => do
      modify (onControl fun control => { control with sourceManifest := left })
      throw failure

def transferLines (sha : Sha256) (w : Surroundings) (manifest : List UInt8) :
    List (String × List ℕ) :=
  [("STAGING_OPERATION", w.stagingText), ("SOURCE_MANIFEST_SHA256", (sha manifest).text),
    ("TRANSFER_GATE", chars "PASS"), ("PROMOTION_PERFORMED", chars "NO"),
    ("SOURCE_DELETION_PERFORMED", chars "NO")]

/-- What follows the snapshot of the source. -/
def transferPayload (sha : Sha256) (w : Surroundings) : Mode Unit := do
  makeStaging w
  external w .writeOperation
  let manifest ← recordSource sha w
  external w .writeIdentity
  modify (onStaging fun staging => { staging with payload := w.copied })
  external w .rsync
  external w .writeRsyncOutput
  external w .writeTransferResult
  modify (onControl fun control => { control with transferResult := true })
  printAll w (transferLines sha w manifest)

def modeTransfer (sha : Sha256) (w : Surroundings) : Mode Unit := do
  ensureOperationAbsent w
  let _ ← Attempt.ofExcept (remoteSourceSnapshot w)
  transferPayload sha w

/-! ### Verify -/

/-- The staging directory of an operation that has not been promoted. -/
def openStaging (w : Surroundings) (s : Operation) : Except Failure Staging := do
  w.attempt .inspectPaths
  match s.staging with
  | .directory staging => do
      require (s.final = .absent) (.failed "final retained operation already exists")
      return staging
  | _ => .error (.failed "staging operation does not exist as a normal directory")

structure Gathered where
  snapshotAfter : SourceSnapshot
  regenerated : List UInt8
  destinationData : List UInt8
  sourceOriginal : Manifest
  sourceVerify : Manifest
  destination : Manifest

/-- Everything up to the three manifests. -/
def gather (sha : Sha256) (w : Surroundings) (staging : Staging) : Except Failure Gathered := do
  match staging.control.sourceManifest with
  | none => .error (.failed "source manifest is absent")
  | some recorded => do
      require (staging.control.transferResult = true) (.failed "transfer result is absent")
      let snapshotAfter ← remoteSourceSnapshot w
      let regenerated ← (writeRemoteManifest sha w).mapError Prod.snd
      w.attempt .localManifest
      let destinationData ← writeLocalManifest sha staging.payload
      w.attempt .readManifests
      let sourceOriginal ← readManifest recorded
      let sourceVerify ← readManifest regenerated
      let destination ← readManifest destinationData
      return ⟨snapshotAfter, regenerated, destinationData, sourceOriginal, sourceVerify, destination⟩

def sortedPaths (paths : List (List ℕ)) : List (List ℕ) := paths.insertionSort (· ≤ ·)

section
variable (sourceVerify destination : Manifest)

def missing : List (List ℕ) :=
  sortedPaths (sourceVerify.paths.filter fun path => path ∉ destination.paths)

def unexpected : List (List ℕ) :=
  sortedPaths (destination.paths.filter fun path => path ∉ sourceVerify.paths)

def changed : List (List ℕ) :=
  sortedPaths (sourceVerify.paths.filter fun path =>
    path ∈ destination.paths ∧ sourceVerify.lookup path ≠ destination.lookup path)

/-- The paths that a verdict names. -/
def samples : List (List ℕ) :=
  (missing sourceVerify destination).take 20 ++ (unexpected sourceVerify destination).take 20 ++
    (changed sourceVerify destination).take 20

def jsonInt (n : ℕ) : Json := .num (.ofInt n)

def jsonTexts (texts : List (List ℕ)) : Json := .arr (texts.map .str)

def failVerdict : Json :=
  .obj [(chars "changed_count", jsonInt (changed sourceVerify destination).length),
    (chars "changed_sample", jsonTexts ((changed sourceVerify destination).take 20)),
    (chars "missing_count", jsonInt (missing sourceVerify destination).length),
    (chars "missing_sample", jsonTexts ((missing sourceVerify destination).take 20)),
    (chars "source_deletion_performed", .bool false), (chars "status", .str (chars "FAIL")),
    (chars "unexpected_count", jsonInt (unexpected sourceVerify destination).length),
    (chars "unexpected_sample", jsonTexts ((unexpected sourceVerify destination).take 20))]

end

/-- A file that is opened with `encoding="utf-8"` takes no surrogate. -/
def Encodable (texts : List (List ℕ)) : Prop := ∀ text ∈ texts, ∀ u ∈ text, ¬ (0xD800 ≤ u ∧ u ≤ 0xDFFF)

instance (texts : List (List ℕ)) : Decidable (Encodable texts) :=
  inferInstanceAs (Decidable (∀ text ∈ texts, _))

/-- `atomic_write_json` of `verification-result.json`, with the file names among the texts. -/
def writeVerification (w : Surroundings) (names : List (List ℕ)) (verdict : Json) : Mode Unit := do
  if ¬ Encodable names then throw .raised
  external w .writeVerification
  modify (onControl fun control => { control with verificationResult := some (.value verdict) })

def directoryCount : TreeRoot → Except Failure ℕ
  | .directory tree => do
      rejectIf (tree.listing.directorySymlinks ≠ 0) (.failed "unexpected destination symlink")
      return 1 + tree.listing.directories
  -- other roots have been refused when the manifest was written
  | _ => .ok 0

structure Counts where
  regularFiles : ℕ
  directories : ℕ
  totalBytes : ℕ

def checkCounts (w : Surroundings) (payload : TreeRoot) (g : Gathered) : Except Failure Counts := do
  w.attempt .countDirectories
  let destinationDirectories ← directoryCount payload
  require (g.destination.entries.length = g.snapshotAfter.regularFiles)
    (.failed "destination regular-file cardinality differs from source")
  require (destinationDirectories = g.snapshotAfter.directories)
    (.failed "destination directory cardinality differs from source")
  require (g.destination.totalSize = g.snapshotAfter.totalRegularFileBytes)
    (.failed "destination byte count differs from source")
  w.attempt .hashManifests
  return ⟨g.destination.entries.length, destinationDirectories, g.destination.totalSize⟩

section
variable (sha : Sha256) (g : Gathered) (counts : Counts)

def passVerdict : Json :=
  .obj [(chars "destination_manifest_sha256", .str (sha g.destinationData).text),
    (chars "directories", jsonInt counts.directories),
    (chars "manifest_semantic_equality", .bool true),
    (chars "regular_files", jsonInt counts.regularFiles),
    (chars "source_deletion_performed", .bool false),
    (chars "source_manifest_sha256", .str (sha g.regenerated).text),
    (chars "status", .str (chars "PASS")),
    (chars "total_regular_file_bytes", jsonInt counts.totalBytes)]

def verifyLines : List (String × List ℕ) :=
  [("REGULAR_FILE_COUNT", intText counts.regularFiles),
    ("DIRECTORY_COUNT", intText counts.directories),
    ("TOTAL_REGULAR_FILE_BYTES", intText counts.totalBytes),
    ("SOURCE_MANIFEST_SHA256", (sha g.regenerated).text),
    ("DESTINATION_MANIFEST_SHA256", (sha g.destinationData).text),
    ("MANIFEST_SEMANTIC_EQUALITY", chars "YES"), ("VERIFY_GATE", chars "PASS"),
    ("PROMOTION_PERFORMED", chars "NO"), ("SOURCE_DELETION_PERFORMED", chars "NO")]

end

/-- The verdict on the manifests. -/
def conclude (sha : Sha256) (w : Surroundings) (payload : TreeRoot) (g : Gathered) : Mode Unit := do
  if ¬ g.sourceOriginal.Same g.sourceVerify then
    throw (.failed "source evidence changed between transfer and verification")
  if ¬ g.sourceVerify.Same g.destination then
    writeVerification w (samples g.sourceVerify g.destination)
      (failVerdict g.sourceVerify g.destination)
    throw (.failed "source and destination manifests differ")
  let counts ← Attempt.ofExcept (checkCounts w payload g)
  writeVerification w [] (passVerdict sha g counts)
  printAll w (verifyLines sha g counts)

def modeVerify (sha : Sha256) (w : Surroundings) : Mode Unit := do
  let staging ← Attempt.ofExcept (openStaging w (← get))
  let g ← Attempt.ofExcept (gather sha w staging)
  conclude sha w staging.payload g

/-! ### Promote -/

/-- The checks of the stored verdict. -/
def checkVerification : Option Loaded → Except Failure Unit
  | none => .error (.failed "verification result is absent")
  | some (.value (.obj members)) => do
      require ((dictLookup members (chars "status")).any (isText · (chars "PASS")) = true)
        (.failed "promotion requires verification status PASS")
      match dictLookup members (chars "manifest_semantic_equality") with
      | some (.bool true) => .ok ()
      | _ => .error (.failed "promotion requires manifest semantic equality")
  | some .syntaxError => .error (.failed "invalid verification result JSON")
  | some _ => .error .raised

def moveStaging (w : Surroundings) : Mode Unit := do
  if w.fault .move ≠ none then modify fun s => { s with final := w.interruptedMove }
  external w .move
  modify fun s => { s with staging := .absent, final := .directory }

def promoteLines (w : Surroundings) : List (String × List ℕ) :=
  [("FINAL_DESTINATION", w.finalText), ("PROMOTION_GATE", chars "PASS"),
    ("SOURCE_DELETION_PERFORMED", chars "NO")]

def modePromote (w : Surroundings) : Mode Unit := do
  let staging ← Attempt.ofExcept (openStaging w (← get))
  Attempt.ofExcept (checkVerification staging.control.verificationResult)
  moveStaging w
  external w .writePromotionResult
  printAll w (promoteLines w)

/-! ### One invocation after the other -/

inductive Invocation
  | transfer (w : Surroundings)
  | verify (w : Surroundings)
  | promote (w : Surroundings)
  | payloadChanges (payload : TreeRoot)

inductive Event
  | transferred (source : TreeRoot) (ok : Bool)
  | verified (ok : Bool)
  | promoted (ok : Bool)
  deriving Inhabited

/-- Run a mode with nothing printed yet. -/
def invoke (mode : Mode Unit) (s : Operation) : Except Failure Unit × Operation :=
  Attempt.outcome mode { s with printed := [] }

def retentionTool (sha : Sha256) : Machine Operation Invocation Event
  | s, .transfer w => some ((invoke (modeTransfer sha w) s).2,
      [.transferred w.source (invoke (modeTransfer sha w) s).1.toBool])
  | s, .verify w => some ((invoke (modeVerify sha w) s).2,
      [.verified (invoke (modeVerify sha w) s).1.toBool])
  | s, .promote w => some ((invoke (modePromote w) s).2,
      [.promoted (invoke (modePromote w) s).1.toBool])
  | s, .payloadChanges payload =>
      some (onStaging (fun staging => { staging with payload := payload }) s, [])

/-- Nothing is there of the operation. -/
def fresh : Operation := ⟨.absent, .absent, []⟩

end TcdOran.Retention
