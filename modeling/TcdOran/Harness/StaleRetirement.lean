import TcdOran.Harness.ProductionBinding
import TcdOran.Lib.Attempt

/-! prompt12-stale-runtime-retirement.py: a runtime root that its provider has left behind is moved
into a new directory beside it. -/
namespace TcdOran.Harness.StaleRetirement
open TcdOran.Lib Python Handoff ProductionBinding

def schema : List ℕ := chars "sci_oran_prompt12_v2_stale_runtime_retirement_v1"
def admissionSchema : List ℕ :=
  chars "sci_oran_prompt12_persistent_prearmed_actuator_provider_admission_v1"

/-! ### What a retirement meets -/

/-- What a file operation raises: an `OSError` by its number, or another exception. -/
inductive Trouble
  | osError (errno : ℕ)
  | other (exception : String)
  deriving DecidableEq

/-- A process under `/proc` with its decoded arguments, none where they cannot be read. -/
structure RunningProcess where
  pid : ℕ
  argv : List (List ℕ)

/-- The outcome of every file operation, in the order of the calls. A symlink is only looked for
where the retirement root does not exist, and `processes` leaves the tool itself out. -/
structure Surroundings where
  resolveRuntime : Except Trouble AbsolutePath
  runtimeIsDir : Except Trouble Bool
  retirementExists : Except Trouble Bool
  retirementIsSymlink : Except Trouble Bool
  resolveParent : Except Trouble AbsolutePath
  resolveAdmission : Except Trouble AbsolutePath
  admissionIsFile : Except Trouble Bool
  admissionText : Except Trouble (List ℕ)
  loads : List ℕ → Loaded
  fifoIsFifo : Except Trouble Bool
  providerExists : Except Trouble Bool
  processes : Except Trouble (List RunningProcess)
  admissionSha256 : Except Trouble (List ℕ)
  mkdir : Except Trouble Unit
  rename : Except Trouble Unit
  fsyncContainer : Except Trouble Unit
  fsyncParent : Except Trouble Unit
  runtimeExists : Except Trouble Bool
  retiredIsDir : Except Trouble Bool
  retiredAdmissionIsFile : Except Trouble Bool
  retiredSha256 : Except Trouble (List ℕ)
  retiredIsFifo : Except Trouble Bool

/-- What the retirement path holds: nothing, something older, or the directory that a retirement
made, with the runtime root in it once that has been moved. -/
inductive Container (α : Type)
  | absent
  | occupied (content : α)
  | created (moved : Option α)
  deriving DecidableEq

/-- The runtime root, as a whole, and the retirement path. -/
structure Places (α : Type) where
  runtimeRoot : Option α
  retirementRoot : Container α
  deriving DecidableEq

/-- A `RetirementError` by its text, or what else was raised. -/
inductive Failure
  | retirement (text : List ℕ)
  | raised (trouble : Trouble)
  deriving DecidableEq

abbrev Checked := Except Failure

def reject (text : String) : Failure := .retirement (chars text)

/-- An operation outside of a `try`. -/
def unguarded {β : Type} (x : Except Trouble β) : Checked β := x.mapError .raised

/-- An operation whose `OSError` becomes a `RetirementError` with the number behind the text. -/
def guarded {β : Type} (text : List ℕ) : Except Trouble β → Checked β
  | .ok b => .ok b
  | .error (.osError errno) => .error (.retirement (text ++ decimalUnits errno))
  | .error trouble => .error (.raised trouble)

def parentOf (path : AbsolutePath) : AbsolutePath := { path with names := path.names.dropLast }

section
variable (o : Surroundings)

/-! ### The checks before anything is changed -/

def canonicalExistingDirectory (value : List ℕ) (label : List ℕ) : Checked AbsolutePath := do
  require (value ≠ []) (.retirement (label ++ chars "_INVALID"))
  require (value.head? = some 47) (.retirement (label ++ chars "_NOT_ABSOLUTE"))
  let path := absolutePath root value
  let resolved ← guarded (label ++ chars "_UNAVAILABLE:") o.resolveRuntime
  require (resolved = path) (.retirement (label ++ chars "_NOT_CANONICAL"))
  let isDir ← unguarded o.runtimeIsDir
  require isDir (.retirement (label ++ chars "_NOT_DIRECTORY"))
  return path

/-- `path.exists() or path.is_symlink()` -/
def retirementTaken : Checked Bool := do
  if ← unguarded o.retirementExists then return true
  unguarded o.retirementIsSymlink

def validateRetirementRoot (value : List ℕ) (runtimeRoot : AbsolutePath) : Checked AbsolutePath := do
  require (value ≠ []) (reject "RETIREMENT_ROOT_INVALID")
  require (value.head? = some 47) (reject "RETIREMENT_ROOT_NOT_ABSOLUTE")
  let path := absolutePath root value
  let taken ← retirementTaken o
  rejectIf taken (reject "RETIREMENT_ROOT_ALREADY_EXISTS")
  let parent := parentOf path
  let resolvedParent ← guarded (chars "RETIREMENT_PARENT_UNAVAILABLE:") o.resolveParent
  require (resolvedParent = parent) (reject "RETIREMENT_PARENT_NOT_CANONICAL")
  require (parent = parentOf runtimeRoot) (reject "RETIREMENT_ROOT_NOT_SIBLING")
  rejectIf (path = runtimeRoot) (reject "RETIREMENT_ROOT_EQUALS_RUNTIME_ROOT")
  return path

/-- `OSError` and `JSONDecodeError` while the admission is read. -/
def unavailable {β : Type} : Except Trouble β → Checked β
  | .ok b => .ok b
  | .error (.osError _) => .error (reject "PROVIDER_ADMISSION_UNAVAILABLE_OR_INVALID")
  | .error trouble => .error (.raised trouble)

def readAdmission (path : AbsolutePath) : Checked Json := do
  let resolved ← unavailable o.resolveAdmission
  require (resolved = path) (reject "PROVIDER_ADMISSION_NOT_CANONICAL")
  let isFile ← unavailable o.admissionIsFile
  require isFile (reject "PROVIDER_ADMISSION_NOT_REGULAR_FILE")
  let text ← unavailable o.admissionText
  match o.loads text with
  | .value value => .ok value
  | .syntaxError => .error (reject "PROVIDER_ADMISSION_UNAVAILABLE_OR_INVALID")
  | .gaveUp => .error (.raised (.other "ValueError"))

/-- `data.get` needs an object. -/
def admissionMembers : Json → Checked (List (List ℕ × Json))
  | .obj members => .ok members
  | _ => .error (.raised (.other "AttributeError"))

def field (members : List (List ℕ × Json)) (key : String) : Json :=
  (dictLookup members (chars key)).getD .null

/-- An integer, no boolean, above 1. -/
def providerPid : Json → Checked ℤ
  | .num literal => do
      require (literal.isInteger ∧ 1 < literal.intValue) (reject "PROVIDER_PID_INVALID")
      return literal.intValue
  | _ => .error (reject "PROVIDER_PID_INVALID")

/-- `^([^:]+):([0-9]+):([0-9]+)$`: the digits between the colons. -/
def strongIdentityPid (identity : List ℕ) : Option (List ℕ) :=
  match identity.splitOn 58 with
  | [boot, pid, start] =>
      if boot ≠ [] ∧ pid ≠ [] ∧ pid.all isDigit ∧ start ≠ [] ∧ start.all isDigit then some pid
      else none
  | _ => none

def identityPid : Json → Checked (List ℕ)
  | .str identity =>
      match strongIdentityPid identity with
      | some pid => .ok pid
      | none => .error (reject "PROVIDER_PROCESS_START_IDENTITY_INVALID")
  | _ => .error (reject "PROVIDER_PROCESS_START_IDENTITY_INVALID")

/-- `int(match.group(2))`, which gives up on too many digits. -/
def intOfDigits (digits : List ℕ) : Checked ℤ :=
  match intOfText digits with
  | some z => .ok z
  | none => .error (.raised (.other "ValueError"))

def isNonemptyText : Json → Bool
  | .str text => text ≠ []
  | _ => false

/-- `load_admission`: the process id of the provider. -/
def loadAdmission (runtimeRoot : AbsolutePath) : Checked ℤ := do
  let data ← readAdmission o (joinPath runtimeRoot [chars "provider-admission.json"])
  let members ← admissionMembers data
  require (isText (field members "schema") admissionSchema)
    (reject "PROVIDER_ADMISSION_SCHEMA_INVALID")
  require (isText (field members "state") (chars "ADMITTED"))
    (reject "PROVIDER_ADMISSION_STATE_INVALID")
  require (isText (field members "runtime_root") (pathText runtimeRoot))
    (reject "PROVIDER_ADMISSION_RUNTIME_ROOT_MISMATCH")
  require (isText (field members "fifo_path")
      (pathText (joinPath runtimeRoot [chars "actuator.fifo"])))
    (reject "PROVIDER_ADMISSION_FIFO_PATH_MISMATCH")
  let pid ← providerPid (field members "provider_pid")
  let digits ← identityPid (field members "provider_process_start_identity")
  let recorded ← intOfDigits digits
  require (recorded = pid) (reject "PROVIDER_PROCESS_IDENTITY_PID_MISMATCH")
  require (isNonemptyText (field members "provider_identity")) (reject "PROVIDER_IDENTITY_INVALID")
  let isFifo ← guarded (chars "ACTUATOR_FIFO_UNAVAILABLE:") o.fifoIsFifo
  require isFifo (reject "ACTUATOR_FIFO_NOT_FIFO")
  return pid

def assertRecordedPidAbsent : Checked Unit := do
  let present ← unguarded o.providerExists
  rejectIf present (reject "RECORDED_PROVIDER_PID_STILL_EXISTS")

/-- `find_live_runtime_references`: the processes with one of the paths among their arguments. -/
def liveRuntimeReferences (runtimeRoot : AbsolutePath) : Checked (List ℕ) := do
  let processes ← unguarded o.processes
  return (processes.filter fun process => pathText runtimeRoot ∈ process.argv ∨
    pathText (joinPath runtimeRoot [chars "actuator.fifo"]) ∈ process.argv).map RunningProcess.pid

/-- What the checks found. -/
structure Accepted where
  runtimeRoot : AbsolutePath
  retirementRoot : AbsolutePath
  providerPid : ℤ
  admissionSha256 : List ℕ

/-- `retire` in front of the first change. -/
def acceptRetirement (runtimeRootRaw retirementRootRaw : List ℕ) : Checked Accepted := do
  let runtimeRoot ← canonicalExistingDirectory o runtimeRootRaw (chars "RUNTIME_ROOT")
  let retirementRoot ← validateRetirementRoot o retirementRootRaw runtimeRoot
  let providerPid ← loadAdmission o runtimeRoot
  assertRecordedPidAbsent o
  let references ← liveRuntimeReferences o runtimeRoot
  require (references = []) (.retirement (chars "LIVE_RUNTIME_REFERENCE_PRESENT:" ++
    (chars ",").intercalate (references.map decimalUnits)))
  let admissionSha256 ← unguarded o.admissionSha256
  return { runtimeRoot, retirementRoot, providerPid, admissionSha256 }

/-! ### The two changes -/

variable {α : Type}

abbrev Retiring (α : Type) := Attempt (Places α) Failure

/-- `EEXIST` and `ENOENT`. -/
def alreadyExists : ℕ := 17
def noEntry : ℕ := 2

/-- A directory is made where there is nothing only. -/
def mkdirOutcome (places : Places α) : Except Trouble Unit :=
  match places.retirementRoot with
  | .absent => o.mkdir
  | _ => .error (.osError alreadyExists)

/-- What the `except` clauses around `mkdir` make of it. -/
def creationFailure : Trouble → Failure
  | .osError errno =>
      if errno = alreadyExists then reject "RETIREMENT_ROOT_ALREADY_EXISTS"
      else .retirement (chars "RETIREMENT_ROOT_CREATION_FAILED:" ++ decimalUnits errno)
  | trouble => .raised trouble

def createRetirementRoot : Retiring α PUnit := do
  let places ← MonadState.get
  match mkdirOutcome o places with
  | .ok () => modify fun places => { places with retirementRoot := .created none }
  | .error trouble => throw (creationFailure trouble)

/-- There is something to rename only where the runtime root still is. -/
def renameOutcome (places : Places α) : Except Trouble Unit :=
  match places.runtimeRoot with
  | some _ => o.rename
  | none => .error (.osError noEntry)

def renameFailure : Trouble → Failure
  | .osError errno =>
      .retirement (chars "ATOMIC_RUNTIME_ROOT_RENAME_FAILED:" ++ decimalUnits errno)
  | trouble => .raised trouble

/-- `os.rename` moves the runtime root as it is. -/
def renameRuntimeRoot : Retiring α PUnit := do
  let places ← MonadState.get
  match renameOutcome o places with
  | .ok () => modify fun places => ⟨none, .created places.runtimeRoot⟩
  | .error trouble => throw (renameFailure trouble)

/-! ### The checks behind them -/

structure Report where
  schema : List ℕ
  sourceRuntimeRoot : List ℕ
  retirementRoot : List ℕ
  retiredRuntimeRoot : List ℕ
  providerPid : ℤ
  recordedProviderPidAbsent : Bool
  liveRuntimeReferenceCount : ℕ
  admissionSha256Before : List ℕ
  admissionSha256After : List ℕ
  fifoPreserved : Bool
  evidencePreserved : Bool
  sourcePathReleased : Bool
  retirementMethod : List ℕ
  deriving DecidableEq

/-- `retirement_root / runtime_root.name` -/
def destinationOf (accepted : Accepted) : AbsolutePath :=
  joinPath accepted.retirementRoot accepted.runtimeRoot.names.getLast?.toList

/-- `retire` behind the rename. -/
def confirmRetirement (accepted : Accepted) : Checked Report := do
  unguarded o.fsyncContainer
  unguarded o.fsyncParent
  let present ← unguarded o.runtimeExists
  rejectIf present (reject "SOURCE_RUNTIME_ROOT_STILL_PRESENT")
  let isDir ← unguarded o.retiredIsDir
  require isDir (reject "RETIRED_RUNTIME_ROOT_MISSING")
  let isFile ← unguarded o.retiredAdmissionIsFile
  require isFile (reject "RETIRED_ADMISSION_MISSING")
  let after ← unguarded o.retiredSha256
  require (after = accepted.admissionSha256) (reject "RETIRED_ADMISSION_SHA_MISMATCH")
  let isFifo ← guarded (chars "RETIRED_FIFO_MISSING:") o.retiredIsFifo
  require isFifo (reject "RETIRED_FIFO_NOT_FIFO")
  return {
    schema
    sourceRuntimeRoot := pathText accepted.runtimeRoot
    retirementRoot := pathText accepted.retirementRoot
    retiredRuntimeRoot := pathText (destinationOf accepted)
    providerPid := accepted.providerPid
    recordedProviderPidAbsent := true
    liveRuntimeReferenceCount := 0
    admissionSha256Before := accepted.admissionSha256
    admissionSha256After := after
    fifoPreserved := true
    evidencePreserved := true
    sourcePathReleased := true
    retirementMethod := chars "ATOMIC_RENAME_WITH_EXCLUSIVE_CONTAINER" }

def retire (runtimeRootRaw retirementRootRaw : List ℕ) : Retiring α Report := do
  let accepted ← Attempt.ofExcept (acceptRetirement o runtimeRootRaw retirementRootRaw)
  createRetirementRoot o
  renameRuntimeRoot o
  Attempt.ofExcept (confirmRetirement o accepted)

end

/-! ### What is left behind -/

section
variable {α : Type} {o : Surroundings} {s : Places α}

/-- The whole runtime root is in the directory that was made for it. -/
def Moved (s t : Places α) : Prop :=
  ∃ tree, s.runtimeRoot = some tree ∧ s.retirementRoot = .absent ∧ t = ⟨none, .created (some tree)⟩

/-- Only an empty directory has been made. -/
def LeftEmpty (s t : Places α) : Prop :=
  s.retirementRoot = .absent ∧ t = { s with retirementRoot := .created none }

/-- The rename was tried and raised this failure. -/
def RenameFailed (o : Surroundings) (s : Places α) (failure : Failure) : Prop :=
  ∃ trouble, renameOutcome o s = .error trouble ∧ failure = renameFailure trouble

theorem mkdirOutcome_ok (h : mkdirOutcome o s = .ok ()) : s.retirementRoot = .absent := by
  unfold mkdirOutcome at h
  split at h
  · assumption
  · cases h

theorem renameOutcome_ok (h : renameOutcome o s = .ok ()) : ∃ tree, s.runtimeRoot = some tree := by
  unfold renameOutcome at h
  split at h
  · next tree htree => exact ⟨tree, htree⟩
  · cases h

theorem triple_createRetirementRoot : Attempt.Triple (· = s) (createRetirementRoot o)
    (fun _ t => LeftEmpty s t) (fun _ t => t = s) := by
  intro t ht
  rw [ht, createRetirementRoot, Attempt.outcome_bind, Attempt.outcome_get]
  simp only
  cases hmkdir : mkdirOutcome o s with
  | ok => exact ⟨mkdirOutcome_ok hmkdir, rfl⟩
  | error trouble => rfl

theorem triple_renameRuntimeRoot : Attempt.Triple (LeftEmpty s) (renameRuntimeRoot o)
    (fun _ t => Moved s t) (fun failure t => LeftEmpty s t ∧ RenameFailed o s failure) := by
  rintro t ⟨habsent, rfl⟩
  have hsame : renameOutcome o { s with retirementRoot := .created none } = renameOutcome o s := rfl
  rw [renameRuntimeRoot, Attempt.outcome_bind, Attempt.outcome_get]
  simp only [hsame]
  cases hrename : renameOutcome o s with
  | ok =>
    obtain ⟨tree, htree⟩ := renameOutcome_ok hrename
    exact ⟨tree, htree, habsent, by simp [htree]⟩
  | error trouble => exact ⟨⟨habsent, rfl⟩, trouble, hrename, rfl⟩

/-- What a retirement may leave behind when it fails. -/
def FailedAs (o : Surroundings) (s t : Places α) (failure : Failure) : Prop :=
  Moved s t ∨ t = s ∨ LeftEmpty s t ∧ RenameFailed o s failure

theorem triple_retire (runtimeRootRaw retirementRootRaw : List ℕ) :
    Attempt.Triple (· = s) (retire o runtimeRootRaw retirementRootRaw) (fun _ t => Moved s t)
      (fun failure t => FailedAs o s t failure) := by
  refine (Attempt.keeps_ofExcept _).bind_triple (fun _ t ht => .inr (.inl ht)) fun accepted => ?_
  have hmkdir : Attempt.Triple (· = s) (createRetirementRoot o) (fun _ t => LeftEmpty s t)
      (fun failure t => FailedAs o s t failure) :=
    triple_createRetirementRoot.conseq (fun _ ht => ht) (fun _ _ ht => ht)
      fun _ _ ht => .inr (.inl ht)
  refine hmkdir.bind fun _ => ?_
  have hrename : Attempt.Triple (LeftEmpty s) (renameRuntimeRoot o) (fun _ t => Moved s t)
      (fun failure t => FailedAs o s t failure) :=
    triple_renameRuntimeRoot.conseq (fun _ ht => ht) (fun _ _ ht => ht)
      fun _ _ ht => .inr (.inr ht)
  refine hrename.bind fun _ => ?_
  exact (Attempt.keeps_ofExcept _).conseq (fun _ ht => ht) (fun _ _ ht => ht) fun _ _ ht => .inl ht

/-- Where the retirement path holds something, nothing is changed. -/
theorem retire_occupied (runtimeRootRaw retirementRootRaw : List ℕ)
    (h : s.retirementRoot ≠ .absent) : ∃ failure,
      Attempt.outcome (retire o runtimeRootRaw retirementRootRaw) s = (.error failure, s) := by
  have hspec := triple_retire (o := o) runtimeRootRaw retirementRootRaw s rfl
  rcases houtcome : Attempt.outcome (retire o runtimeRootRaw retirementRootRaw) s with
    ⟨failure | report, t⟩
  · rw [houtcome] at hspec
    rcases hspec with ⟨_, -, habsent, -⟩ | rfl | ⟨⟨habsent, -⟩, -⟩
    · exact absurd habsent h
    · exact ⟨failure, rfl⟩
    · exact absurd habsent h
  · rw [houtcome] at hspec
    obtain ⟨_, -, habsent, -⟩ := hspec
    exact absurd habsent h

/-- A retirement that succeeds has moved the whole runtime root. One that fails has moved it too, or
has changed nothing, or has made an empty directory because the rename failed behind it; another
attempt is then refused and changes nothing. -/
theorem retire_leaves (o : Surroundings) (runtimeRootRaw retirementRootRaw : List ℕ)
    (s : Places α) :
    match Attempt.outcome (retire o runtimeRootRaw retirementRootRaw) s with
    | (.ok _, t) => Moved s t
    | (.error failure, t) => Moved s t ∨ t = s ∨ (LeftEmpty s t ∧ RenameFailed o s failure ∧
        ∀ o', ∃ failure', Attempt.outcome (retire o' runtimeRootRaw retirementRootRaw) t =
          (.error failure', t)) := by
  have hspec := triple_retire (o := o) runtimeRootRaw retirementRootRaw s rfl
  rcases houtcome : Attempt.outcome (retire o runtimeRootRaw retirementRootRaw) s with
    ⟨failure | report, t⟩
  · rw [houtcome] at hspec
    rcases hspec with hmoved | hsame | ⟨hleft, hfailed⟩
    · exact .inl hmoved
    · exact .inr (.inl hsame)
    · have htaken : t.retirementRoot ≠ .absent := by
        rw [hleft.2]
        exact fun h => by cases h
      exact .inr (.inr ⟨hleft, hfailed, fun o' => retire_occupied _ _ htaken⟩)
  · rw [houtcome] at hspec
    exact hspec

end

/-! ### A rename that fails -/

def staleAdmission : List ℕ :=
  chars "\x7b\"schema\":\"sci_oran_prompt12_persistent_prearmed_actuator_provider_admission_v1\"," ++
  chars "\"state\":\"ADMITTED\",\"runtime_root\":\"/r/one\"," ++
  chars "\"fifo_path\":\"/r/one/actuator.fifo\",\"provider_pid\":4242," ++
  chars "\"provider_process_start_identity\":\"boot:4242:7\"," ++
  chars "\"provider_identity\":\"provider\"\x7d"

/-- A host where the runtime root is a mount point, so that renaming it raises `EBUSY`. -/
def busyHost : Surroundings where
  resolveRuntime := .ok (absolutePath root (chars "/r/one"))
  runtimeIsDir := .ok true
  retirementExists := .ok false
  retirementIsSymlink := .ok false
  resolveParent := .ok (absolutePath root (chars "/r"))
  resolveAdmission := .ok (absolutePath root (chars "/r/one/provider-admission.json"))
  admissionIsFile := .ok true
  admissionText := .ok staleAdmission
  loads := plainLoads
  fifoIsFifo := .ok true
  providerExists := .ok false
  processes := .ok []
  admissionSha256 := .ok (chars "ab")
  mkdir := .ok ()
  rename := .error (.osError 16)
  fsyncContainer := .ok ()
  fsyncParent := .ok ()
  runtimeExists := .ok false
  retiredIsDir := .ok true
  retiredAdmissionIsFile := .ok true
  retiredSha256 := .ok (chars "ab")
  retiredIsFifo := .ok true

/-- Neither has the runtime root been moved nor is everything as before, and the same call is then
refused. -/
theorem failed_rename_leaves_directory :
    let call (o : Surroundings) (s : Places ℕ) :=
      Attempt.outcome (retire o (chars "/r/one") (chars "/r/retired")) s
    call busyHost ⟨some 7, .absent⟩ =
        (.error (.retirement (chars "ATOMIC_RUNTIME_ROOT_RENAME_FAILED:16")),
          ⟨some 7, .created none⟩) ∧
      call { busyHost with retirementExists := .ok true } ⟨some 7, .created none⟩ =
        (.error (reject "RETIREMENT_ROOT_ALREADY_EXISTS"), ⟨some 7, .created none⟩) := by
  decide +kernel

end TcdOran.Harness.StaleRetirement
