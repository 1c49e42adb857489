import Mathlib.Data.List.Nodup
import TcdOran.Lib.PythonDumps

/-! Trees of directories and the regular files in them, as `os.walk` and `pathlib` present them. -/
namespace TcdOran.Lib.Python

inductive SpecialKind
  | fifo | socket | blockDevice | charDevice
  deriving DecidableEq

/-- The entries of a directory. A name is the text that its bytes are decoded to. -/
inductive Listing
  | nil
  | file (name : List ℕ) (content : List UInt8) (rest : Listing)
  | directory (name : List ℕ) (children rest : Listing)
  | symlink (name : List ℕ) (toDirectory : Bool) (rest : Listing)
  | special (name : List ℕ) (kind : SpecialKind) (rest : Listing)

/-- What a file system takes for a name. Bytes that are no UTF-8 are decoded to low surrogates. -/
structure ValidName (name : List ℕ) : Prop where
  ne_nil : name ≠ []
  slash : 47 ∉ name
  zero : 0 ∉ name
  dot : name ≠ [46]
  dots : name ≠ [46, 46]
  unpaired : ∀ u ∈ name, Unpaired u

namespace Listing

def names : Listing → List (List ℕ)
  | nil => []
  | file name _ rest | directory name _ rest | symlink name _ rest | special name _ rest =>
      name :: rest.names

/-- Every directory has each name once. -/
def WellFormed : Listing → Prop
  | nil => True
  | directory name children rest =>
      (ValidName name ∧ name ∉ rest.names) ∧ children.WellFormed ∧ rest.WellFormed
  | file name _ rest | symlink name _ rest | special name _ rest =>
      (ValidName name ∧ name ∉ rest.names) ∧ rest.WellFormed

/-- The regular files by the components of their paths. -/
def files : Listing → List (List (List ℕ) × List UInt8)
  | nil => []
  | file name content rest => ([name], content) :: rest.files
  | directory name children rest =>
      children.files.map (fun file => (name :: file.1, file.2)) ++ rest.files
  | symlink _ _ rest | special _ _ rest => rest.files

/-- The content of the regular file that the components lead to. -/
def fileAt : Listing → List (List ℕ) → Option (List UInt8)
  | nil, _ => none
  | file name content rest, path => if path = [name] then some content else rest.fileAt path
  | directory name children rest, path =>
      match path with
      | [] => none
      | first :: path => if first = name then children.fileAt path else rest.fileAt (first :: path)
  | symlink name _ rest, path | special name _ rest, path =>
      if path.head? = some name then none else rest.fileAt path

/-- How many directories are below the root. -/
def directories : Listing → ℕ
  | nil => 0
  | directory _ children rest => 1 + children.directories + rest.directories
  | file _ _ rest | symlink _ _ rest | special _ _ rest => rest.directories

def symlinks : Listing → ℕ
  | nil => 0
  | symlink _ _ rest => 1 + rest.symlinks
  | directory _ children rest => children.symlinks + rest.symlinks
  | file _ _ rest | special _ _ rest => rest.symlinks

/-- How many symbolic links `os.walk` lists among the directories. -/
def directorySymlinks : Listing → ℕ
  | nil => 0
  | symlink _ toDirectory rest => toDirectory.toNat + rest.directorySymlinks
  | directory _ children rest => children.directorySymlinks + rest.directorySymlinks
  | file _ _ rest | special _ _ rest => rest.directorySymlinks

def specials (kind : SpecialKind) : Listing → ℕ
  | nil => 0
  | special _ kind' rest => (if kind' = kind then 1 else 0) + rest.specials kind
  | directory _ children rest => children.specials kind + rest.specials kind
  | file _ _ rest | symlink _ _ rest => rest.specials kind

/-- Whether `os.walk` lists something among the files that is no regular file. -/
def hasIrregular : Listing → Bool
  | nil => false
  | special _ _ _ => true
  | symlink _ toDirectory rest => !toDirectory || rest.hasIrregular
  | directory _ children rest => children.hasIrregular || rest.hasIrregular
  | file _ _ rest => rest.hasIrregular

/-- Directories and regular files only. -/
def Regular : Listing → Prop
  | nil => True
  | directory _ children rest => children.Regular ∧ rest.Regular
  | file _ _ rest => rest.Regular
  | symlink _ _ _ | special _ _ _ => False

end Listing

/-- A tree that a file system can hold. -/
structure FileTree where
  listing : Listing
  wellFormed : listing.WellFormed

/-- `relative_to(root).as_posix()`. -/
def posixPath (path : List (List ℕ)) : List ℕ := [47].intercalate path

/-- The components of a relative path. -/
def components (path : List ℕ) : List (List ℕ) := path.splitOn 47

namespace Listing
variable {tree : Listing}

/-! ### Files and their paths -/

theorem mem_names_of_mem_files {path : List (List ℕ)} {content : List UInt8}
    (h : (path, content) ∈ tree.files) : ∃ name path', path = name :: path' ∧ name ∈ tree.names := by
  induction tree generalizing path with
  | nil => simp [files] at h
  | file name content' rest ih =>
    rcases List.mem_cons.mp h with heq | h
    · obtain ⟨rfl, -⟩ := Prod.mk.inj heq
      exact ⟨name, [], rfl, List.mem_cons_self⟩
    · obtain ⟨first, path', rfl, hmem⟩ := ih h
      exact ⟨first, path', rfl, List.mem_cons_of_mem name hmem⟩
  | directory name children rest _ ih =>
    rcases List.mem_append.mp h with h | h
    · obtain ⟨file, -, heq⟩ := List.mem_map.mp h
      obtain ⟨rfl, -⟩ := Prod.mk.inj heq
      exact ⟨name, file.1, rfl, List.mem_cons_self⟩
    · obtain ⟨first, path', rfl, hmem⟩ := ih h
      exact ⟨first, path', rfl, List.mem_cons_of_mem name hmem⟩
  | symlink name toDirectory rest ih =>
    obtain ⟨first, path', rfl, hmem⟩ := ih h
    exact ⟨first, path', rfl, List.mem_cons_of_mem name hmem⟩
  | special name kind rest ih =>
    obtain ⟨first, path', rfl, hmem⟩ := ih h
    exact ⟨first, path', rfl, List.mem_cons_of_mem name hmem⟩

/-- The files that are listed are those that the paths lead to. -/
theorem mem_files_iff (hwf : tree.WellFormed) {path : List (List ℕ)} {content : List UInt8} :
    (path, content) ∈ tree.files ↔ tree.fileAt path = some content := by
  induction tree generalizing path with
  | nil => simp [files, fileAt]
  | file name content' rest ih =>
    obtain ⟨⟨-, hfresh⟩, hrest⟩ := hwf
    rw [files, fileAt, List.mem_cons]
    split_ifs with hpath
    · subst hpath
      rw [Prod.mk.injEq, Option.some.injEq, eq_self, true_and]
      constructor
      · rintro (rfl | hmem)
        · rfl
        · obtain ⟨first, path', heq, hname⟩ := mem_names_of_mem_files hmem
          obtain ⟨rfl, -⟩ := List.cons.inj heq
          exact absurd hname hfresh
      · exact fun h => .inl h.symm
    · rw [← ih hrest]
      constructor
      · rintro (heq | hmem)
        · exact absurd (Prod.mk.inj heq).1 hpath
        · exact hmem
      · exact .inr
  | directory name children rest ihc ih =>
    obtain ⟨⟨-, hfresh⟩, hchildren, hrest⟩ := hwf
    rw [files, List.mem_append, List.mem_map]
    cases path with
    | nil =>
      simp only [fileAt, reduceCtorEq, iff_false]
      rintro (⟨file, -, heq⟩ | hmem)
      · exact absurd (Prod.mk.inj heq).1 (List.cons_ne_nil _ _)
      · obtain ⟨first, path', heq, -⟩ := mem_names_of_mem_files hmem
        exact absurd heq.symm (List.cons_ne_nil _ _)
    | cons first path =>
      rw [fileAt]
      split_ifs with hfirst
      · subst hfirst
        rw [← ihc hchildren]
        constructor
        · rintro (⟨file, hfile, heq⟩ | hmem)
          · obtain ⟨hpath, rfl⟩ := Prod.mk.inj heq
            obtain ⟨-, rfl⟩ := List.cons.inj hpath
            exact hfile
          · obtain ⟨first', path', heq, hname⟩ := mem_names_of_mem_files hmem
            obtain ⟨rfl, -⟩ := List.cons.inj heq
            exact absurd hname hfresh
        · exact fun h => .inl ⟨_, h, rfl⟩
      · rw [← ih hrest]
        constructor
        · rintro (⟨file, hfile, heq⟩ | hmem)
          · obtain ⟨hpath, -⟩ := Prod.mk.inj heq
            exact absurd (List.cons.inj hpath).1.symm hfirst
          · exact hmem
        · exact .inr
  | symlink name toDirectory rest ih =>
    obtain ⟨⟨-, hfresh⟩, hrest⟩ := hwf
    rw [files, fileAt]
    split_ifs with hfirst
    · simp only [iff_false]
      intro hmem
      obtain ⟨first, path', rfl, hname⟩ := mem_names_of_mem_files hmem
      obtain rfl := Option.some.inj hfirst
      exact hfresh hname
    · exact ih hrest
  | special name kind rest ih =>
    obtain ⟨⟨-, hfresh⟩, hrest⟩ := hwf
    rw [files, fileAt]
    split_ifs with hfirst
    · simp only [iff_false]
      intro hmem
      obtain ⟨first, path', rfl, hname⟩ := mem_names_of_mem_files hmem
      obtain rfl := Option.some.inj hfirst
      exact hfresh hname
    · exact ih hrest

theorem validName_of_mem_files (hwf : tree.WellFormed) {path : List (List ℕ)}
    {content : List UInt8} (h : (path, content) ∈ tree.files) : ∀ name ∈ path, ValidName name := by
  induction tree generalizing path content with
  | nil => simp [files] at h
  | file name content' rest ih =>
    rcases List.mem_cons.mp h with heq | h
    · obtain ⟨rfl, -⟩ := Prod.mk.inj heq
      simpa using hwf.1.1
    · exact ih hwf.2 h
  | directory name children rest ihc ih =>
    rcases List.mem_append.mp h with h | h
    · obtain ⟨file, hfile, heq⟩ := List.mem_map.mp h
      obtain ⟨rfl, -⟩ := Prod.mk.inj heq
      exact List.forall_mem_cons.mpr ⟨hwf.1.1, ihc hwf.2.1 hfile⟩
    · exact ih hwf.2.2 h
  | symlink name toDirectory rest ih => exact ih hwf.2 h
  | special name kind rest ih => exact ih hwf.2 h

theorem nodup_files (hwf : tree.WellFormed) : (tree.files.map Prod.fst).Nodup := by
  induction tree with
  | nil => exact List.nodup_nil
  | file name content rest ih =>
    rw [files, List.map_cons, List.nodup_cons]
    refine ⟨fun hmem => ?_, ih hwf.2⟩
    obtain ⟨⟨path, content'⟩, hfile, heq⟩ := List.mem_map.mp hmem
    obtain ⟨first, path', rfl, hname⟩ := mem_names_of_mem_files hfile
    obtain ⟨rfl, -⟩ := List.cons.inj heq
    exact hwf.1.2 hname
  | directory name children rest ihc ih =>
    have hprefixed : (children.files.map fun file => (name :: file.1, file.2)).map Prod.fst =
        (children.files.map Prod.fst).map (name :: ·) := by
      rw [List.map_map, List.map_map]
      rfl
    rw [files, List.map_append, List.nodup_append, hprefixed]
    refine ⟨(ihc hwf.2.1).map fun a b h => (List.cons.inj h).2, ih hwf.2.2, ?_⟩
    rintro path hpath path' hpath' rfl
    obtain ⟨path, -, rfl⟩ := List.mem_map.mp hpath
    obtain ⟨⟨path', content'⟩, hfile, heq⟩ := List.mem_map.mp hpath'
    obtain ⟨first, path'', rfl, hname⟩ := mem_names_of_mem_files hfile
    obtain ⟨rfl, -⟩ := List.cons.inj heq
    exact hwf.1.2 hname
  | symlink name toDirectory rest ih => exact ih hwf.2
  | special name kind rest ih => exact ih hwf.2

theorem Regular.hasIrregular (h : tree.Regular) : tree.hasIrregular = false := by
  induction tree with
  | nil => rfl
  | file name content rest ih => exact ih h
  | directory name children rest ihc ih =>
    rw [Listing.hasIrregular, ihc h.1, ih h.2]
    rfl
  | symlink => exact h.elim
  | special => exact h.elim

theorem Regular.symlinks (h : tree.Regular) : tree.symlinks = 0 := by
  induction tree with
  | nil => rfl
  | file name content rest ih => exact ih h
  | directory name children rest ihc ih => rw [Listing.symlinks, ihc h.1, ih h.2]
  | symlink => exact h.elim
  | special => exact h.elim

theorem Regular.specials (h : tree.Regular) (kind : SpecialKind) : tree.specials kind = 0 := by
  induction tree with
  | nil => rfl
  | file name content rest ih => exact ih h
  | directory name children rest ihc ih => rw [Listing.specials, ihc h.1, ih h.2]
  | symlink => exact h.elim
  | special => exact h.elim

theorem Regular.directorySymlinks (h : tree.Regular) : tree.directorySymlinks = 0 := by
  induction tree with
  | nil => rfl
  | file name content rest ih => exact ih h
  | directory name children rest ihc ih => rw [Listing.directorySymlinks, ihc h.1, ih h.2]
  | symlink => exact h.elim
  | special => exact h.elim

end Listing

/-! ### Relative paths -/

theorem components_posixPath {path : List (List ℕ)} (hne : path ≠ [])
    (h : ∀ name ∈ path, ValidName name) : components (posixPath path) = path :=
  List.splitOn_intercalate 47 (fun name hname => (h name hname).slash) hne

theorem posixPath_cons_cons (name next : List ℕ) (path : List (List ℕ)) :
    posixPath (name :: next :: path) = name ++ 47 :: posixPath (next :: path) := by
  simp [posixPath, List.intercalate]

theorem mem_posixPath_of_mem {path : List (List ℕ)} {name : List ℕ} {u : ℕ} (hname : name ∈ path)
    (hu : u ∈ name) : u ∈ posixPath path := by
  induction path with
  | nil => exact absurd hname List.not_mem_nil
  | cons first path ih =>
    cases path with
    | nil =>
      obtain rfl := List.mem_singleton.mp hname
      simpa [posixPath, List.intercalate] using hu
    | cons next path =>
      rw [posixPath_cons_cons, List.mem_append, List.mem_cons]
      rcases List.mem_cons.mp hname with rfl | hrest
      · exact .inl hu
      · exact .inr (.inr (ih hrest))

theorem mem_posixPath {path : List (List ℕ)} {u : ℕ} (hu : u ∈ posixPath path) :
    u = 47 ∨ ∃ name ∈ path, u ∈ name := by
  induction path with
  | nil => exact absurd hu List.not_mem_nil
  | cons first path ih =>
    cases path with
    | nil => exact .inr ⟨first, List.mem_singleton_self first, by
        simpa [posixPath, List.intercalate] using hu⟩
    | cons next path =>
      rw [posixPath_cons_cons, List.mem_append, List.mem_cons] at hu
      rcases hu with hfirst | rfl | hrest
      · exact .inr ⟨first, List.mem_cons_self, hfirst⟩
      · exact .inl rfl
      · obtain hslash | ⟨name, hname, hmem⟩ := ih hrest
        · exact .inl hslash
        · exact .inr ⟨name, List.mem_cons_of_mem _ hname, hmem⟩
theorem posixPath_ne_nil {path : List (List ℕ)} (hne : path ≠ [])
    (h : ∀ name ∈ path, ValidName name) : posixPath path ≠ [] := by
  intro hnil
  have hpath := components_posixPath hne h
  rw [hnil] at hpath
  have hempty : ([] : List ℕ) ∈ path := hpath ▸ List.mem_singleton_self []
  exact (h [] hempty).ne_nil rfl

theorem unpaired_posixPath {path : List (List ℕ)} (h : ∀ name ∈ path, ValidName name) :
    ∀ u ∈ posixPath path, Unpaired u := by
  intro u hu
  rcases mem_joined hu with hu | ⟨name, hname, hu⟩
  · exact unpaired_of_lt (by simp at hu; omega)
  · exact (h name hname).unpaired u hu

namespace FileTree
variable (tree : FileTree)

/-- The regular files by their relative paths. -/
def regularFiles : List (List ℕ × List UInt8) :=
  tree.listing.files.map fun file => (posixPath file.1, file.2)

/-- The content of the regular file at a relative path. -/
def contentAt (path : List ℕ) : Option (List UInt8) := tree.listing.fileAt (components path)

def totalBytes : ℕ := (tree.listing.files.map fun file => file.2.length).sum

/-- The names and paths of a file that is listed. -/
structure Listed (path : List (List ℕ)) : Prop where
  ne_nil : path ≠ []
  valid : ∀ name ∈ path, ValidName name

theorem listed {path : List (List ℕ)} {content : List UInt8}
    (h : (path, content) ∈ tree.listing.files) : Listed path := by
  refine ⟨?_, Listing.validName_of_mem_files tree.wellFormed h⟩
  obtain ⟨name, path', rfl, -⟩ := Listing.mem_names_of_mem_files h
  exact List.cons_ne_nil _ _

theorem mem_regularFiles_iff {path : List ℕ} {content : List UInt8} :
    (path, content) ∈ tree.regularFiles ↔ tree.contentAt path = some content := by
  rw [contentAt, ← Listing.mem_files_iff tree.wellFormed, regularFiles, List.mem_map]
  constructor
  · rintro ⟨file, hfile, heq⟩
    obtain ⟨rfl, rfl⟩ := Prod.mk.inj heq
    obtain ⟨hne, hvalid⟩ := tree.listed hfile
    rwa [components_posixPath hne hvalid]
  · exact fun h => ⟨_, h, by rw [posixPath, components, List.intercalate_splitOn]⟩

theorem nodup_regularFiles : (tree.regularFiles.map Prod.fst).Nodup := by
  rw [regularFiles, List.map_map]
  have hpaths := Listing.nodup_files tree.wellFormed
  refine List.Nodup.map_on ?_ (List.Nodup.of_map _ hpaths)
  intro file hfile file' hfile' heq
  obtain ⟨hne, hvalid⟩ := tree.listed hfile
  obtain ⟨hne', hvalid'⟩ := tree.listed hfile'
  have hpath : file.1 = file'.1 := by
    rw [← components_posixPath hne hvalid, ← components_posixPath hne' hvalid']
    exact congrArg components heq
  exact List.inj_on_of_nodup_map hpaths hfile hfile' hpath

end FileTree

end TcdOran.Lib.Python
