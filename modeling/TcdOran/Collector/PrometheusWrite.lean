import TcdOran.Collector.PrometheusText

/-! `tcd_kpm_prometheus_write_atomic`: the target holds a complete text or what it held before. -/
namespace TcdOran.Collector
open TcdOran.Lib

/-- The contents of the files by their paths. -/
abbrev FileSystem := List UInt8 → Option (List UInt8)

def FileSystem.store (files : FileSystem) (path content : List UInt8) : FileSystem :=
  Function.update files path (some content)

def FileSystem.remove (files : FileSystem) (path : List UInt8) : FileSystem :=
  Function.update files path none

/-- The old name loses its file in the step in which the new name gets it. -/
def FileSystem.rename (files : FileSystem) (old new : List UInt8) : FileSystem :=
  Function.update (Function.update files new (files old)) old none

def einval : ℤ := 22
def eio : ℤ := 5
def enametoolong : ℤ := 36

structure PrometheusWriteResult where
  status : PrometheusStatus
  errorReason : OutputErrorReason
  systemErrno : ℤ
  bytesWritten : ℕ

/-- How the calls answer: a short `fwrite` takes `short` bytes, `errno` is what the first failing
call sets, and `left` is what is in the temporary file behind a failing write. -/
structure AtomicOutcome where
  opens : Bool
  short : Option ℕ
  flushes : Bool
  hasDescriptor : Bool
  syncs : Bool
  closes : Bool
  renames : Bool
  errno : ℤ
  left : List UInt8

def savedErrno (outcome : AtomicOutcome) : ℤ := if outcome.errno ≠ 0 then outcome.errno else eio

def temporaryPath (target : List UInt8) : List UInt8 := target ++ bytes ".tmp"

/-- The local array. Its first contents do not matter. -/
def snapshotBuffer : Destination where
  cells := some (List.replicate prometheusMaxSnapshotBytes 0)
  capacity := prometheusMaxSnapshotBytes
  room := by simp
  capacity_le := by decide

/-- From the `fwrite` on; `opened` are the files behind the `fopen`. -/
def writeTemporary (opened : FileSystem) (target data : List UInt8) (outcome : AtomicOutcome) :
    PrometheusWriteResult × FileSystem :=
  let temporary := temporaryPath target
  let errno := savedErrno outcome
  let removed := (opened.store temporary outcome.left).remove temporary
  let complete := opened.store temporary data
  match outcome.short with
  | some written => (⟨.writeFailed, .write, errno, written⟩, removed)
  | none =>
    let written := data.length
    if !outcome.flushes then (⟨.flushFailed, .flush, errno, written⟩, removed)
    else if !outcome.hasDescriptor || !outcome.syncs then
      (⟨.flushFailed, .flush, errno, written⟩, removed)
    else if !outcome.closes then (⟨.closeFailed, .close, errno, written⟩, removed)
    else if !outcome.renames then
      (⟨.renameFailed, .rename, errno, written⟩, complete.remove temporary)
    else (⟨.ok, .open, 0, written⟩, complete.rename temporary target)

def prometheusWriteAtomic (files : FileSystem) (target : Option (List UInt8))
    (snapshot : Option PrometheusSnapshot) (outcome : AtomicOutcome) :
    PrometheusWriteResult × FileSystem :=
  match target, snapshot with
  | some target, some snapshot =>
    if target = [] then (⟨.invalidArgument, .open, einval, 0⟩, files)
    else
      let serialized := prometheusSerialize (some snapshot) snapshotBuffer
      if serialized.status ≠ .ok then (⟨serialized.status, .write, einval, 0⟩, files)
      else if target.length + 5 > prometheusMaxPathBytes then
        (⟨.pathTooLong, .open, enametoolong, 0⟩, files)
      else if !outcome.opens then (⟨.openFailed, .open, outcome.errno, 0⟩, files)
      else
        let data := (serialized.output.getD []).take (serialized.requiredLength.getD 0)
        writeTemporary (files.store (temporaryPath target) []) target data outcome
  | _, _ => (⟨.invalidArgument, .open, einval, 0⟩, files)

/-! ### Files -/

section
variable (files : FileSystem)

theorem temporaryPath_ne (target : List UInt8) : target ≠ temporaryPath target := by
  intro h
  have hlength := congrArg List.length h
  have hsuffix : (bytes ".tmp").length = 4 := rfl
  rw [temporaryPath, List.length_append, hsuffix] at hlength
  omega

@[simp] theorem store_store (path one other : List UInt8) :
    (files.store path one).store path other = files.store path other := by
  simp [FileSystem.store]

@[simp] theorem remove_store (path content : List UInt8) :
    (files.store path content).remove path = files.remove path := by
  simp [FileSystem.store, FileSystem.remove]

theorem rename_store {old new : List UInt8} (h : new ≠ old) (content : List UInt8) :
    (files.store old content).rename old new = (files.store new content).remove old := by
  simp only [FileSystem.rename, FileSystem.store, FileSystem.remove, Function.update_self]
  rw [Function.update_comm h.symm, Function.update_idem]

theorem remove_other {path other : List UInt8} (h : other ≠ path) :
    files.remove path other = files other :=
  Function.update_of_ne h _ _

theorem remove_same (path : List UInt8) : files.remove path path = none :=
  Function.update_self _ _ _

end

/-! ### The call -/

/-- The serializer fills the array with the complete text, so the check behind it passes. -/
theorem prometheusWriteAtomic_some (files : FileSystem) (target : List UInt8)
    (snapshot : PrometheusSnapshot) (outcome : AtomicOutcome) :
    prometheusWriteAtomic files (some target) (some snapshot) outcome =
      if target = [] then (⟨.invalidArgument, .open, einval, 0⟩, files)
      else if target.length + 5 > prometheusMaxPathBytes then
        (⟨.pathTooLong, .open, enametoolong, 0⟩, files)
      else if !outcome.opens then (⟨.openFailed, .open, outcome.errno, 0⟩, files)
      else writeTemporary (files.store (temporaryPath target) []) target
        (prometheusText snapshot) outcome := by
  have hfits : (prometheusText snapshot).length < snapshotBuffer.capacity := by
    have hle := length_prometheusText_le snapshot
    have hcapacity : snapshotBuffer.capacity = 32768 := rfl
    omega
  obtain ⟨hserialize, -⟩ := @prometheusSerialize_some snapshotBuffer snapshot _ rfl
  obtain ⟨after, hresult, htext⟩ := hserialize hfits
  simp only [prometheusWriteAtomic, hresult, Option.getD_some, htext, ne_eq, not_true_eq_false,
    if_false]

def PrometheusStatus.isFailure (status : PrometheusStatus) : Prop :=
  status ≠ .ok ∧ status ≠ .bufferTooSmall

/-- What the calls behind the `fopen` leave. -/
theorem writeTemporary_cases (files : FileSystem) (target data : List UInt8)
    (outcome : AtomicOutcome) :
    let r := writeTemporary (files.store (temporaryPath target) []) target data outcome
    (r.1.status = .ok ∧ r.2 = (files.store target data).remove (temporaryPath target)) ∨
    (r.1.status.isFailure ∧ r.2 = files.remove (temporaryPath target)) := by
  simp only [writeTemporary, store_store, remove_store,
    rename_store files (temporaryPath_ne target)]
  split
  · exact .inr ⟨⟨by simp, by simp⟩, rfl⟩
  split
  · exact .inr ⟨⟨by simp, by simp⟩, rfl⟩
  split
  · exact .inr ⟨⟨by simp, by simp⟩, rfl⟩
  split
  · exact .inr ⟨⟨by simp, by simp⟩, rfl⟩
  split
  · exact .inr ⟨⟨by simp, by simp⟩, rfl⟩
  · exact .inl ⟨rfl, rfl⟩

theorem prometheusWriteAtomic_cases (files : FileSystem) (target : Option (List UInt8))
    (snapshot : Option PrometheusSnapshot) (outcome : AtomicOutcome) :
    let r := prometheusWriteAtomic files target snapshot outcome
    (r.1.status.isFailure ∧ r.2 = files) ∨
    ∃ path present, target = some path ∧ snapshot = some present ∧
      ((r.1.status = .ok ∧
          r.2 = (files.store path (prometheusText present)).remove (temporaryPath path)) ∨
        (r.1.status.isFailure ∧ r.2 = files.remove (temporaryPath path))) := by
  have hinvalid : PrometheusStatus.invalidArgument.isFailure := ⟨by simp, by simp⟩
  cases target with
  | none => exact .inl ⟨hinvalid, rfl⟩
  | some path =>
    cases snapshot with
    | none => exact .inl ⟨hinvalid, rfl⟩
    | some present =>
      rw [prometheusWriteAtomic_some]
      split
      · exact .inl ⟨hinvalid, rfl⟩
      split
      · exact .inl ⟨⟨by simp, by simp⟩, rfl⟩
      split
      · exact .inl ⟨⟨by simp, by simp⟩, rfl⟩
      · exact .inr ⟨path, present, rfl, rfl, writeTemporary_cases _ _ _ _⟩

/-- Whatever the calls answer: OK leaves the complete text at the target; anything else leaves
the target as it was and nothing of this call at the temporary path; no other file changes; and
the text of every snapshot fits the array. -/
theorem prometheus_write_atomic (files : FileSystem) (target : Option (List UInt8))
    (snapshot : Option PrometheusSnapshot) (outcome : AtomicOutcome) :
    let r := prometheusWriteAtomic files target snapshot outcome
    (r.1.status = .ok → ∃ path present, target = some path ∧ snapshot = some present ∧
      r.2 path = some (prometheusText present)) ∧
    (r.1.status ≠ .ok → ∀ path ∈ target, r.2 path = files path ∧
      (r.2 (temporaryPath path) = none ∨ r.2 = files)) ∧
    (∀ other, (∀ path ∈ target, other ≠ path ∧ other ≠ temporaryPath path) →
      r.2 other = files other) ∧
    r.1.status ≠ .bufferTooSmall ∧
    ∀ present, (prometheusText present).length < prometheusMaxSnapshotBytes := by
  intro r
  have hlength (present : PrometheusSnapshot) :
      (prometheusText present).length < prometheusMaxSnapshotBytes :=
    (length_prometheusText_le present).trans_lt (by decide)
  rcases prometheusWriteAtomic_cases files target snapshot outcome with
    ⟨hfailure, hfiles⟩ | ⟨path, present, rfl, rfl, ⟨hok, hfiles⟩ | ⟨hfailure, hfiles⟩⟩
  · refine ⟨fun hok => absurd hok hfailure.1, fun _ path _ => ⟨congrFun hfiles path, .inr hfiles⟩,
      fun other _ => congrFun hfiles other, hfailure.2, hlength⟩
  · have hstatus : r.1.status = .ok := hok
    refine ⟨fun _ => ⟨path, present, rfl, rfl, ?_⟩, fun hne => absurd hok hne,
      fun other hother => ?_, by simp [hstatus], hlength⟩
    · rw [hfiles, remove_other _ (temporaryPath_ne path)]
      exact Function.update_self _ _ _
    · obtain ⟨htarget, htemporary⟩ := hother path rfl
      rw [hfiles, remove_other _ htemporary]
      exact Function.update_of_ne htarget _ _
  · refine ⟨fun hok => absurd hok hfailure.1, ?_, fun other hother => ?_, hfailure.2, hlength⟩
    · rintro - _ ⟨⟩
      rw [hfiles]
      exact ⟨remove_other _ (temporaryPath_ne path), .inl (remove_same _ _)⟩
    · rw [hfiles, remove_other _ (hother path rfl).2]

end TcdOran.Collector
