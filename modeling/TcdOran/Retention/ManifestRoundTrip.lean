import TcdOran.Retention.Manifest

/-! A manifest that has been written is read back as the map of its tree. -/
namespace TcdOran.Retention
open Lib Lib.Python

namespace Manifest
variable {manifest other : Manifest}

theorem lookup_eq_some_iff {path : List ℕ} {identity : FileIdentity} :
    manifest.lookup path = some identity ↔ (path, identity) ∈ manifest.entries := by
  rw [lookup, List.lookup_eq_some_iff]
  constructor
  · rintro ⟨before, after, heq, -⟩
    rw [heq]
    exact List.mem_append_right _ List.mem_cons_self
  · intro hmem
    obtain ⟨before, after, heq⟩ := List.append_of_mem hmem
    refine ⟨before, after, heq, ?_⟩
    intro entry hentry
    have hnodup := manifest.nodup
    rw [heq, List.map_append, List.map_cons, List.nodup_middle, List.nodup_cons] at hnodup
    have hne : path ≠ entry.1 := by
      intro hpath
      have hmem : entry.1 ∈ before.map Prod.fst := List.mem_map_of_mem hentry
      exact hnodup.1 (List.mem_append_left _ (hpath ▸ hmem))
    simpa using hne

theorem nodup_entries : manifest.entries.Nodup := manifest.nodup.of_map _

/-- Equal dictionaries have the same items. -/
theorem same_iff_perm : manifest.Same other ↔ manifest.entries.Perm other.entries := by
  constructor
  · rintro ⟨hlength, hitems⟩
    have hsubset : manifest.entries ⊆ other.entries :=
      fun entry hentry => lookup_eq_some_iff.mp (hitems entry hentry)
    have hsubperm : List.Subperm manifest.entries other.entries :=
      nodup_entries.subperm hsubset
    exact hsubperm.perm_of_length_le hlength.ge
  · intro hperm
    exact ⟨hperm.length_eq, fun entry hentry => lookup_eq_some_iff.mpr (hperm.mem_iff.mp hentry)⟩

theorem same_iff_lookup : manifest.Same other ↔ ∀ path, manifest.lookup path = other.lookup path := by
  rw [same_iff_perm, List.perm_ext_iff_of_nodup nodup_entries nodup_entries]
  constructor
  · intro h path
    apply Option.ext
    intro identity
    rw [lookup_eq_some_iff, lookup_eq_some_iff]
    exact h (path, identity)
  · rintro h ⟨path, identity⟩
    rw [← lookup_eq_some_iff, h path, lookup_eq_some_iff]

theorem Same.totalSize_eq (h : manifest.Same other) : manifest.totalSize = other.totalSize :=
  ((same_iff_perm.mp h).map _).sum_eq

end Manifest

/-! ### The map of a tree -/

section
variable (sha : Sha256) (tree : FileTree)

theorem sortedRecords_perm : (sortedRecords sha tree).Perm
    (tree.regularFiles.map fun file => (file.1, identityOf sha file.2)) :=
  List.perm_insertionSort _ _

theorem nodup_sortedRecords : ((sortedRecords sha tree).map Prod.fst).Nodup := by
  have hperm := (sortedRecords_perm sha tree).map Prod.fst
  rw [List.map_map] at hperm
  exact hperm.nodup_iff.mpr tree.nodup_regularFiles

def manifestOf : Manifest := ⟨sortedRecords sha tree, nodup_sortedRecords sha tree⟩

/-- The manifest of a tree leads from a path to what the regular file there holds. -/
theorem lookup_manifestOf (path : List ℕ) :
    (manifestOf sha tree).lookup path = (tree.contentAt path).map (identityOf sha) := by
  apply Option.ext
  intro identity
  rw [Manifest.lookup_eq_some_iff, Option.map_eq_some_iff]
  show (path, identity) ∈ sortedRecords sha tree ↔ _
  rw [(sortedRecords_perm sha tree).mem_iff, List.mem_map]
  constructor
  · rintro ⟨file, hfile, heq⟩
    obtain ⟨rfl, rfl⟩ := Prod.mk.inj heq
    exact ⟨file.2, tree.mem_regularFiles_iff.mp hfile, rfl⟩
  · rintro ⟨content, hcontent, rfl⟩
    exact ⟨(path, content), tree.mem_regularFiles_iff.mpr hcontent, rfl⟩

theorem length_manifestOf : (manifestOf sha tree).entries.length = tree.listing.files.length := by
  have hlength := (sortedRecords_perm sha tree).length_eq
  rwa [List.length_map, FileTree.regularFiles, List.length_map] at hlength

theorem totalSize_manifestOf : (manifestOf sha tree).totalSize = tree.totalBytes := by
  have hperm := (sortedRecords_perm sha tree).map fun entry => entry.2.size
  rw [List.map_map, FileTree.regularFiles, List.map_map] at hperm
  exact hperm.sum_eq

end

/-- Every path and every digest of the records can be read back. -/
structure Printable (record : List ℕ × FileIdentity) : Prop where
  ne_nil : record.1 ≠ []
  unpaired : ∀ u ∈ record.1, Unpaired u
  digest : IsDigest record.2.sha256

theorem HexDigest.isDigest (digest : HexDigest) : IsDigest digest.text := ⟨digest.length, digest.digits⟩

theorem printable_sortedRecords {sha : Sha256} {tree : FileTree} {record : List ℕ × FileIdentity}
    (h : record ∈ sortedRecords sha tree) : Printable record := by
  rw [(sortedRecords_perm sha tree).mem_iff, FileTree.regularFiles, List.map_map,
    List.mem_map] at h
  obtain ⟨file, hfile, rfl⟩ := h
  obtain ⟨hne, hvalid⟩ := tree.listed hfile
  exact ⟨posixPath_ne_nil hne hvalid, unpaired_posixPath hvalid, (sha file.2).isDigest⟩

/-! ### What is written -/

theorem writeRecords_nodup {records : List (List ℕ × FileIdentity)} {previous : Option (List ℕ)}
    (hnodup : (records.map Prod.fst).Nodup) (hprevious : ∀ path ∈ previous, path ∉ records.map Prod.fst) :
    writeRecords previous records = (records.flatMap recordLine, false) := by
  induction records generalizing previous with
  | nil => rfl
  | cons record records ih =>
    rw [List.map_cons, List.nodup_cons] at hnodup
    have hne : previous ≠ some record.1 := by
      rintro rfl
      exact hprevious _ rfl List.mem_cons_self
    have htail : writeRecords (some record.1) records = _ := ih hnodup.2 (by simpa using hnodup.1)
    rw [writeRecords, if_neg hne, htail, List.flatMap_cons]

section
variable (sha : Sha256) (tree : FileTree)

/-- The lines of the records. -/
def manifestText : List ℕ := (sortedRecords sha tree).flatMap recordLine

theorem writeRecords_sortedRecords :
    writeRecords none (sortedRecords sha tree) = (manifestText sha tree, false) :=
  writeRecords_nodup (nodup_sortedRecords sha tree) (by simp)

theorem remoteManifest_directory :
    remoteManifest sha (.directory tree) = (manifestText sha tree, false) :=
  writeRecords_sortedRecords sha tree

theorem writeLocalManifest_directory (h : tree.listing.hasIrregular = false) :
    writeLocalManifest sha (.directory tree) = .ok (utf8OfCodePoints (manifestText sha tree)) := by
  have hregular : ¬ tree.listing.hasIrregular = true := by simp [h]
  simp only [writeLocalManifest, writeRecords_sortedRecords]
  rw [rejectIf_bind_eq_ok, rejectIf_bind_eq_ok]
  exact ⟨hregular, by decide, rfl⟩

end

theorem writeLocalManifest_eq_ok {sha : Sha256} {root : TreeRoot} {data : List UInt8}
    (h : writeLocalManifest sha root = .ok data) :
    ∃ tree, root = .directory tree ∧ tree.listing.hasIrregular = false ∧
      data = utf8OfCodePoints (manifestText sha tree) := by
  cases root with
  | directory tree =>
    have hregular : tree.listing.hasIrregular = false := by
      rw [writeLocalManifest, rejectIf_bind_eq_ok] at h
      simpa using h.1
    rw [writeLocalManifest_directory sha tree hregular, Except.ok.injEq] at h
    exact ⟨tree, rfl, hregular, h.symm⟩
  | absent => cases h
  | notDirectory => cases h
  | symlink => cases h

/-! ### What is read back -/

section
variable {path : List ℕ} {identity : FileIdentity}

theorem plainKeys_record : ∀ field ∈ recordFields path identity, PlainKey field.1 := by
  have hkeys : ∀ key ∈ ["path", "sha256", "size"], PlainKey key := by decide
  simpa [recordFields] using hkeys

theorem plainLoads_record (h : Printable (path, identity)) :
    plainLoads (dumpsAscii (recordFields path identity)) =
      .value (.obj (loadedMembers (recordFields path identity))) := by
  have hdigest : ∀ u ∈ identity.sha256, Unpaired u :=
    fun u hu => unpaired_of_lt (by have hrange := h.digest.2 u hu; omega)
  have hvalues : ∀ field ∈ recordFields path identity, field.2.Readable := by
    simp only [recordFields, List.forall_mem_cons, PyScalar.Readable]
    exact ⟨h.unpaired, hdigest, trivial, by simp⟩
  have hprints := prints_dumpsAscii plainKeys_record hvalues (by simp [recordFields])
  rw [plainLoads, parse_prints_end hprints]

theorem lookup_record (key : String) (value : PyScalar) (h : (key, value) ∈ recordFields path identity) :
    dictLookup (loadedMembers (recordFields path identity)) (chars key) = some value.json := by
  apply dictLookup_of_mem
  · have hkeys : (["path", "sha256", "size"].map chars).Nodup := by decide
    simpa [loadedMembers, recordFields] using hkeys
  · exact List.mem_map_of_mem
      (f := fun field : String × PyScalar => (chars field.1, field.2.json)) h

theorem readRecord_record {result : Manifest} (h : Printable (path, identity))
    (hfresh : path ∉ result.paths) :
    readRecord result (loadedMembers (recordFields path identity)) =
      .ok (result.insert path identity hfresh) := by
  have hpath := @lookup_record path identity "path" _ List.mem_cons_self
  have hdigest := @lookup_record path identity "sha256" (.str identity.sha256)
    (by simp [recordFields])
  have hsize := @lookup_record path identity "size" (.int identity.size)
    (by simp [recordFields])
  have hint : asInt (PyScalar.int identity.size).json = some (identity.size : ℤ) := by
    rw [PyScalar.json, asInt, if_pos (NumberLiteral.ofInt_isInteger _),
      NumberLiteral.intValue_ofInt]
  have hnonneg : ¬ (identity.size : ℤ) < 0 := by omega
  simp only [PyScalar.json] at hpath hdigest
  simp only [readRecord, hpath, hdigest, hsize, Option.bind_some, hint]
  rw [if_neg h.ne_nil, dif_neg hfresh, if_neg (not_not.mpr h.digest), if_neg hnonneg]
  rfl

theorem readLine_recordLine {result : Manifest} (h : Printable (path, identity))
    (hfresh : path ∉ result.paths) :
    readLine result (recordLine (path, identity)) = .ok (result.insert path identity hfresh) := by
  have hplain : ∀ u ∈ dumpsAscii (recordFields path identity), PlainAscii u :=
    fun u => dumpsAscii_plain plainKeys_record
  have hline : (recordLine (path, identity)).rdropWhile (fun u => decide (u = 10)) =
      dumpsAscii (recordFields path identity) := by
    rw [recordLine, List.rdropWhile_concat_pos _ _ _ (by decide), List.rdropWhile_eq_self_iff]
    intro hne
    have hlast := (hplain _ (List.getLast_mem hne)).1
    rw [decide_eq_true_eq]
    exact (Nat.lt_of_lt_of_le (by decide : 10 < 32) hlast).ne'
  have hne : dumpsAscii (recordFields path identity) ≠ [] := by
    simp [dumpsAscii, dictText, chars]
  simp only [readLine, hline]
  rw [if_neg hne, plainLoads_record h]
  exact readRecord_record h hfresh

end

/-- Line by line the records come to stand behind what has been read. -/
theorem foldlM_readLine {records : List (List ℕ × FileIdentity)}
    (hprintable : ∀ record ∈ records, Printable record) (result target : Manifest)
    (htarget : target.entries = result.entries ++ records) :
    (records.map recordLine).foldlM readLine result = .ok target := by
  induction records generalizing result with
  | nil =>
    rw [List.append_nil] at htarget
    cases target
    cases result
    cases htarget
    rfl
  | cons record records ih =>
    obtain ⟨hrecord, hrecords⟩ := List.forall_mem_cons.mp hprintable
    have hfresh : record.1 ∉ result.paths := by
      have hnodup := target.nodup
      rw [htarget, List.map_append, List.map_cons, List.nodup_middle, List.nodup_cons] at hnodup
      exact fun hmem => hnodup.1 (List.mem_append_left _ hmem)
    rw [List.map_cons, List.foldlM_cons, readLine_recordLine hrecord hfresh]
    refine ih hrecords (result.insert record.1 record.2 hfresh) ?_
    rw [htarget, Manifest.insert, List.append_assoc]
    rfl

/-- Reading undoes writing. -/
theorem readManifest_manifestText (sha : Sha256) (tree : FileTree) :
    readManifest (utf8OfCodePoints (manifestText sha tree)) = .ok (manifestOf sha tree) := by
  have hplain : ∀ record : List ℕ × FileIdentity,
      ∀ u ∈ dumpsAscii (recordFields record.1 record.2), PlainAscii u :=
    fun record u => dumpsAscii_plain plainKeys_record
  have hscalar : ∀ u ∈ manifestText sha tree, Scalar u := by
    intro u hu
    obtain ⟨record, -, hu⟩ := List.mem_flatMap.mp hu
    rcases List.mem_append.mp hu with hu | hu
    · exact .inl (by have hlt := (hplain record u hu).2; omega)
    · exact .inl (by rw [List.mem_singleton.mp hu]; decide)
  have hbodies : ∀ body ∈ (sortedRecords sha tree).map
      (fun record => dumpsAscii (recordFields record.1 record.2)), 10 ∉ body ∧ 13 ∉ body := by
    intro body hbody
    obtain ⟨record, -, rfl⟩ := List.mem_map.mp hbody
    exact ⟨fun hmem => absurd (hplain record 10 hmem).1 (by decide),
      fun hmem => absurd (hplain record 13 hmem).1 (by decide)⟩
  have hlines : fileLines (manifestText sha tree) = (sortedRecords sha tree).map recordLine := by
    have hread := @universalLinesFrom_bodies ℕ _ 10 13 [10] _ (by decide) hbodies
    rw [List.flatMap_map, List.map_map] at hread
    exact hread
  rw [readManifest, codePoints_scalars hscalar]
  show (fileLines (manifestText sha tree)).foldlM readLine Manifest.empty = _
  rw [hlines]
  exact foldlM_readLine (fun _ => printable_sortedRecords) _ _ (List.nil_append _).symm

end TcdOran.Retention
