import Mathlib.Data.List.Sort
import TcdOran.Lib.Check
import TcdOran.Lib.FileTree

/-! The manifests of `sci-oran-retain-evidence.py`: one line for each regular file of a tree. -/
namespace TcdOran.Retention
open Lib Lib.Python

/-- `RetentionError` with its text up to what names a path or a line, a command that has not
succeeded, or another exception. -/
inductive Failure
  | failed (message : String)
  | commandFailed
  | raised
  deriving DecidableEq

/-- What `hexdigest()` gives for SHA-256. -/
structure HexDigest where
  text : List ℕ
  length : text.length = 64
  digits : ∀ u ∈ text, (48 ≤ u ∧ u ≤ 57) ∨ (97 ≤ u ∧ u ≤ 102)

abbrev Sha256 := List UInt8 → HexDigest

/-- What the path of a root leads to. -/
inductive TreeRoot
  | absent
  | notDirectory
  | symlink
  | directory (tree : FileTree)

structure FileIdentity where
  sha256 : List ℕ
  size : ℕ
  deriving DecidableEq

/-- A dictionary from relative paths, in the order of insertion. -/
structure Manifest where
  entries : List (List ℕ × FileIdentity)
  nodup : (entries.map Prod.fst).Nodup

namespace Manifest
variable (manifest other : Manifest)

def empty : Manifest := ⟨[], List.nodup_nil⟩

def paths : List (List ℕ) := manifest.entries.map Prod.fst

def lookup (path : List ℕ) : Option FileIdentity := manifest.entries.lookup path

def insert (path : List ℕ) (identity : FileIdentity) (h : path ∉ manifest.paths) : Manifest where
  entries := manifest.entries ++ [(path, identity)]
  nodup := by
    rw [List.map_append, List.nodup_append]
    refine ⟨manifest.nodup, by simp, ?_⟩
    rintro path' hpath' _ hmem rfl
    obtain rfl : path' = path := by simpa using hmem
    exact h hpath'

/-- `manifest == other`. -/
def Same : Prop :=
  manifest.entries.length = other.entries.length ∧
    ∀ entry ∈ manifest.entries, other.lookup entry.1 = some entry.2

instance : Decidable (manifest.Same other) := inferInstanceAs (Decidable (_ ∧ _))

/-- `sum(size for _digest, size in manifest.values())`. -/
def totalSize : ℕ := (manifest.entries.map fun entry => entry.2.size).sum

end Manifest

/-! ### Writing -/

/-- The fields of a record in the order of their keys. -/
def recordFields (path : List ℕ) (identity : FileIdentity) : List (String × PyScalar) :=
  [("path", .str path), ("sha256", .str identity.sha256), ("size", .int identity.size)]

def recordLine (record : List ℕ × FileIdentity) : List ℕ :=
  dumpsAscii (recordFields record.1 record.2) ++ [10]

section
variable (sha : Sha256) (tree : FileTree)

def identityOf (content : List UInt8) : FileIdentity := ⟨(sha content).text, content.length⟩

/-- `records.sort(key=lambda item: item[0])`. -/
def sortedRecords : List (List ℕ × FileIdentity) :=
  (tree.regularFiles.map fun file => (file.1, identityOf sha file.2)).insertionSort
    fun left right => left.1 ≤ right.1

end

/-- What is written up to a path that is the same as the previous one. -/
def writeRecords (previous : Option (List ℕ)) :
    List (List ℕ × FileIdentity) → List ℕ × Bool
  | [] => ([], false)
  | record :: records =>
      if previous = some record.1 then ([], true)
      else
        let (text, duplicate) := writeRecords (some record.1) records
        (recordLine record ++ text, duplicate)

/-- The records of the remote script: whatever is no regular file is passed over. The second
component says whether it has ended with an error. -/
def remoteManifest (sha : Sha256) : TreeRoot → List ℕ × Bool
  | .directory tree => writeRecords none (sortedRecords sha tree)
  | _ => ([], true)

def writeLocalManifest (sha : Sha256) : TreeRoot → Except Failure (List UInt8)
  | .directory tree => do
      rejectIf (tree.listing.hasIrregular = true)
        (.failed "unexpected non-regular destination object")
      let (text, duplicate) := writeRecords none (sortedRecords sha tree)
      rejectIf (duplicate = true) (.failed "duplicate destination relative path")
      return utf8OfCodePoints text
  | _ => .error (.failed "invalid destination payload root")

/-! ### Reading -/

/-- `isinstance(value, int)`: a truth value is an integer as well. -/
def asInt : Json → Option ℤ
  | .bool value => some value.toNat
  | .num literal => if literal.isInteger then some literal.intValue else none
  | _ => none

/-- `re.fullmatch(r"[0-9a-f]{64}", digest)`. -/
def IsDigest (text : List ℕ) : Prop :=
  text.length = 64 ∧ ∀ u ∈ text, (48 ≤ u ∧ u ≤ 57) ∨ (97 ≤ u ∧ u ≤ 102)

instance (text : List ℕ) : Decidable (IsDigest text) := inferInstanceAs (Decidable (_ ∧ _))

def readRecord (result : Manifest) (members : List (List ℕ × Json)) : Except Failure Manifest :=
  match dictLookup members (chars "path") with
  | some (.str rel) =>
      if rel = [] then .error (.failed "invalid path at manifest line")
      else if hrel : rel ∈ result.paths then .error (.failed "duplicate manifest path")
      else
        match dictLookup members (chars "sha256") with
        | some (.str digest) =>
            if ¬ IsDigest digest then .error (.failed "invalid SHA-256 at manifest line")
            else
              match (dictLookup members (chars "size")).bind asInt with
              | some size =>
                  if size < 0 then .error (.failed "invalid size at manifest line")
                  else .ok (result.insert rel ⟨digest, size.toNat⟩ hrel)
              | none => .error (.failed "invalid size at manifest line")
        | _ => .error (.failed "invalid SHA-256 at manifest line")
  | _ => .error (.failed "invalid path at manifest line")

def readLine (result : Manifest) (line : List ℕ) : Except Failure Manifest :=
  let line := line.rdropWhile (· = 10)
  if line = [] then .error (.failed "empty manifest record")
  else
    match plainLoads line with
    | .value (.obj members) => readRecord result members
    -- only a dictionary has `get`
    | .value _ => .error .raised
    | .syntaxError => .error (.failed "invalid manifest JSON")
    | .gaveUp => .error .raised

/-- `read_manifest` of a file's bytes. -/
def readManifest (data : List UInt8) : Except Failure Manifest :=
  match codePoints data with
  | some text => (fileLines text).foldlM readLine Manifest.empty
  | none => .error .raised

end TcdOran.Retention
