import TcdOran.Lib.Association
import TcdOran.Lib.PythonText

/-! `json.dumps` with `ensure_ascii`, which writes every character outside of ASCII as an escape, of
flat objects: with `indent=2` and `sort_keys=True`, or on one line. -/
namespace TcdOran.Lib.Python

/-- `\uXXXX` -/
def unicodeText (u : ℕ) : List ℕ :=
  [92, 117, hexUnit (u / 4096 % 16), hexUnit (u / 256 % 16), hexUnit (u / 16 % 16), hexUnit (u % 16)]

/-- A character between the quotes. -/
def escapeAscii (u : ℕ) : List ℕ :=
  if u < 127 then escapeUnit u
  else if u < 0x10000 then unicodeText u
  else unicodeText (0xD800 + (u - 0x10000) / 1024) ++ unicodeText (0xDC00 + (u - 0x10000) % 1024)

def asciiText (text : List ℕ) : List ℕ := 34 :: (text.flatMap escapeAscii ++ [34])

def PyScalar.asciiText : PyScalar → List ℕ
  | .int value => intText value
  | .str text => Python.asciiText text

def byKey (left right : String × PyScalar) : Bool := left.1 ≤ right.1

/-- `json.dumps(fields, indent=2, sort_keys=True)` of an object that is not empty. -/
def dumpsIndented (fields : List (String × PyScalar)) : List ℕ :=
  chars "\x7b\n  " ++ (chars ",\n  ").intercalate ((fields.mergeSort byKey).map fun field =>
    quoted field.1 ++ chars ": " ++ field.2.asciiText) ++ chars "\n\x7d"

/-- `json.dumps(fields, separators=(",", ":"))`. -/
def dumpsAscii (fields : List (String × PyScalar)) : List ℕ :=
  dictText (fields.map fun field => (field.1, field.2.asciiText))

/-! ### What is read back -/

theorem hexValue_hexUnit : ∀ d < 16, Json.hexValue (hexUnit d) = some d := by decide

theorem hexQuad_unicodeText {u : ℕ} (h : u < 0x10000) :
    Json.hexQuad [hexUnit (u / 4096 % 16), hexUnit (u / 256 % 16), hexUnit (u / 16 % 16),
      hexUnit (u % 16)] = some (u, []) := by
  have hdigit (v : ℕ) : Json.hexValue (hexUnit (v % 16)) = some (v % 16) :=
    hexValue_hexUnit _ (Nat.mod_lt v (by decide))
  have hsum : ((u / 4096 % 16 * 16 + u / 256 % 16) * 16 + u / 16 % 16) * 16 + u % 16 = u := by
    omega
  simp [Json.hexQuad, hdigit]
  omega

/-- A code point that does not begin a surrogate pair. Names of files have no others. -/
def Unpaired (u : ℕ) : Prop := u < 0x110000 ∧ ¬ (0xD800 ≤ u ∧ u ≤ 0xDBFF)

theorem unpaired_of_lt {u : ℕ} (h : u < 128) : Unpaired u := ⟨by omega, by omega⟩

theorem unpaired_of_plain {text : String} (h : PlainKey text) : ∀ u ∈ chars text, Unpaired u :=
  fun u hu => unpaired_of_lt (h u hu).2.2.2

theorem parseEscape_of_quad {input rest : List ℕ} {u : ℕ}
    (hquad : Json.hexQuad input = some (u, rest)) (hhigh : ¬ (0xD800 ≤ u ∧ u ≤ 0xDBFF)) :
    Json.parseEscape (117 :: input) = some (u, rest) := by
  show Json.unicodeEscape input = _
  rw [Json.unicodeEscape, hquad]
  exact if_neg hhigh

theorem parseEscape_of_pair {input rest rest' : List ℕ} {high low : ℕ}
    (hquad : Json.hexQuad input = some (high, rest)) (hhigh : 0xD800 ≤ high ∧ high ≤ 0xDBFF)
    (hlow : Json.pairedLow rest = some (low, rest')) :
    Json.parseEscape (117 :: input) =
      some (0x10000 + (high - 0xD800) * 1024 + (low - 0xDC00), rest') := by
  show Json.unicodeEscape input = _
  rw [Json.unicodeEscape, hquad]
  refine (if_pos hhigh).trans ?_
  rw [hlow]

theorem pairedLow_unicodeText {low : ℕ} (h : 0xDC00 ≤ low ∧ low ≤ 0xDFFF) (tail : List ℕ) :
    Json.pairedLow (unicodeText low ++ tail) = some (low, tail) := by
  have hquad : Json.hexQuad ((unicodeText low).drop 2 ++ tail) = some (low, tail) :=
    Json.hexQuad_append (hexQuad_unicodeText (u := low) (by omega)) tail
  have hstrip : Json.stripPrefix (chars "\\u") (unicodeText low ++ tail) =
      some ((unicodeText low).drop 2 ++ tail) := rfl
  rw [Json.pairedLow, hstrip, Option.bind_eq_bind, Option.bind_some, hquad, Option.bind_eq_bind,
    Option.bind_some]
  exact if_pos h

/-- The unit and the input behind an escape. -/
theorem parseString_escape {input rest : List ℕ} {u : ℕ} (h : Json.parseEscape input = some (u, rest))
    (fuel : ℕ) : Json.parseString (fuel + 1) (92 :: input) =
      (Json.parseString fuel rest).map fun (units, rest) => (u :: units, rest) := by
  rw [Json.parseString, if_neg (by decide), if_pos rfl, h]
  cases hrest : Json.parseString fuel rest <;> simp [hrest]

theorem parseString_escapeUnit {u : ℕ} (fuel : ℕ) (tail : List ℕ) :
    Json.parseString (fuel + 1) (escapeUnit u ++ tail) =
      (Json.parseString fuel tail).map fun (units, rest) => (u :: units, rest) := by
  have hhex : ∀ v < 32, Json.hexQuad [48, 48, hexUnit (v / 16), hexUnit (v % 16)] = some (v, []) := by
    decide
  unfold escapeUnit
  split_ifs with h34 h92 h10 h13 h9 h12 h8 hlow
  all_goals try (subst u; exact parseString_escape rfl fuel)
  · exact parseString_escape (parseEscape_of_quad (Json.hexQuad_append (hhex u hlow) tail)
      (by omega)) fuel
  · rw [List.cons_append, List.nil_append, Json.parseString, if_neg h34, if_neg h92, if_neg hlow]
    cases hrest : Json.parseString fuel tail <;> simp

/-- A character is read back whatever follows it. -/
theorem parseString_escapeAscii {u : ℕ} (h : Unpaired u) (fuel : ℕ) (tail : List ℕ) :
    Json.parseString (fuel + 1) (escapeAscii u ++ tail) =
      (Json.parseString fuel tail).map fun (units, rest) => (u :: units, rest) := by
  unfold escapeAscii
  split_ifs with h127 hbmp
  · exact parseString_escapeUnit fuel tail
  · exact parseString_escape (parseEscape_of_quad
      (Json.hexQuad_append (hexQuad_unicodeText hbmp) tail) h.2) fuel
  · generalize hhigh : 0xD800 + (u - 0x10000) / 1024 = high
    generalize hlow : 0xDC00 + (u - 0x10000) % 1024 = low
    have hu := h.1
    have hrange : 0xD800 ≤ high ∧ high ≤ 0xDBFF := by omega
    have hrange' : 0xDC00 ≤ low ∧ low ≤ 0xDFFF := by omega
    have hvalue : 0x10000 + (high - 0xD800) * 1024 + (low - 0xDC00) = u := by omega
    have hquad := Json.hexQuad_append (hexQuad_unicodeText (u := high) (by omega))
      (unicodeText low ++ tail)
    have hescape := parseEscape_of_pair hquad hrange (pairedLow_unicodeText hrange' tail)
    rw [hvalue] at hescape
    rw [List.append_assoc]
    exact parseString_escape hescape fuel

theorem parseString_asciiText {text : List ℕ} (h : ∀ u ∈ text, Unpaired u) (fuel : ℕ)
    (hf : text.length < fuel) (rest : List ℕ) :
    Json.parseString fuel (text.flatMap escapeAscii ++ 34 :: rest) = some (text, rest) := by
  induction text generalizing fuel with
  | nil =>
    obtain ⟨fuel, rfl⟩ := Nat.exists_eq_succ_of_ne_zero (by omega : fuel ≠ 0)
    rfl
  | cons u text ih =>
    obtain ⟨hu, htext⟩ := List.forall_mem_cons.mp h
    obtain ⟨fuel, rfl⟩ := Nat.exists_eq_succ_of_ne_zero (by omega : fuel ≠ 0)
    rw [List.flatMap_cons, List.append_assoc, parseString_escapeAscii hu,
      ih htext fuel (by simpa using hf)]
    rfl

theorem length_le_flatMap_escapeAscii (text : List ℕ) :
    text.length ≤ (text.flatMap escapeAscii).length := by
  induction text with
  | nil => exact le_rfl
  | cons u text ih =>
    have hone : 1 ≤ (escapeAscii u).length := by
      unfold escapeAscii escapeUnit unicodeText
      split_ifs <;> simp
    rw [List.flatMap_cons, List.length_append, List.length_cons]
    omega

theorem prints_asciiText {text : List ℕ} (h : ∀ u ∈ text, Unpaired u) :
    Json.Prints (asciiText text) (.str text) := by
  intro fuel rest hf _
  have hlength := length_le_flatMap_escapeAscii text
  simp only [asciiText, List.length_cons, List.length_append, List.length_nil] at hf
  obtain ⟨fuel, rfl⟩ := Nat.exists_eq_succ_of_ne_zero (by omega : fuel ≠ 0)
  simp [asciiText, Json.parseValue, Json.skipBlank_cons (u := 34) (by decide),
    parseString_asciiText h fuel (by omega)]

/-- A value whose text is read back. -/
def PyScalar.Readable : PyScalar → Prop
  | .int _ => True
  | .str text => ∀ u ∈ text, Unpaired u

theorem PyScalar.prints_asciiText {value : PyScalar} (h : value.Readable) :
    Json.Prints value.asciiText value.json := by
  cases value with
  | int value => exact PyScalar.prints (.int value)
  | str text => exact Python.prints_asciiText h

section
variable {fields : List (String × PyScalar)} (hkeys : ∀ field ∈ fields, PlainKey field.1)
  (hvalues : ∀ field ∈ fields, field.2.Readable)
include hkeys hvalues

/-- The members of an object, with blanks behind the colon. -/
theorem printsMember_fields {blanks : List ℕ} (hblanks : ∀ u ∈ blanks, Json.isBlank u = true) :
    List.Forall₂ Json.PrintsMember
      (fields.map fun field => quoted field.1 ++ 58 :: (blanks ++ field.2.asciiText))
      (loadedMembers fields) := by
  rw [loadedMembers, List.forall₂_map_left_iff, List.forall₂_map_right_iff, List.forall₂_same]
  intro field hfield
  exact ⟨chars field.1, blanks ++ field.2.asciiText, by simp [quoted, chars],
    plainKey_body (hkeys field hfield),
    (field.2.prints_asciiText (hvalues field hfield)).blanks_append hblanks⟩

theorem prints_dumpsIndented (hne : fields ≠ []) :
    Json.Prints (dumpsIndented fields) (.obj (loadedMembers (fields.mergeSort byKey))) := by
  have hsorted : ∀ field ∈ fields.mergeSort byKey, field ∈ fields := fun _ => List.mem_mergeSort.mp
  have hmembers := @printsMember_fields (fields.mergeSort byKey)
    (fun field hfield => hkeys field (hsorted field hfield))
    (fun field hfield => hvalues field (hsorted field hfield))
    (chars " ") (by decide)
  have hindent : ∀ u ∈ chars "\n  ", Json.isBlank u = true := by decide
  have hclosing : ∀ u ∈ chars "\n", Json.isBlank u = true := by decide
  have hnonempty : fields.mergeSort byKey ≠ [] := by
    intro hnil
    have hlength := @List.length_mergeSort _ byKey fields
    rw [hnil] at hlength
    exact hne (List.length_eq_zero_iff.mp hlength.symm)
  have hprints := Json.prints_obj_indented hindent hclosing hmembers (by simpa using hnonempty)
  simpa [dumpsIndented, chars] using hprints

theorem prints_dumpsAscii (hne : fields ≠ []) :
    Json.Prints (dumpsAscii fields) (.obj (loadedMembers fields)) := by
  have hmembers := @printsMember_fields fields hkeys hvalues [] (by simp)
  have hprints := Json.prints_obj hmembers (by simpa using hne)
  simpa [dumpsAscii, dictText, chars, List.map_map, Function.comp_def] using hprints

end

theorem dictLookup_of_mem {members : List (List ℕ × Json)} (hnodup : (members.map Prod.fst).Nodup)
    {key : List ℕ} {value : Json} (h : (key, value) ∈ members) :
    dictLookup members key = some value :=
  lookup_reverse_of_mem hnodup h

section
variable {fields : List (String × PyScalar)}

theorem keys_loadedMembers_sorted : ((loadedMembers (fields.mergeSort byKey)).map Prod.fst).Perm
    (fields.map fun field => chars field.1) := by
  rw [loadedMembers, List.map_map]
  exact (List.mergeSort_perm fields byKey).map _

/-- Sorting leaves every field under its key. -/
theorem dictLookup_sorted (hnodup : (fields.map fun field => chars field.1).Nodup) {key : String}
    {value : PyScalar} (h : (key, value) ∈ fields) :
    dictLookup (loadedMembers (fields.mergeSort byKey)) (chars key) = some value.json := by
  apply dictLookup_of_mem (keys_loadedMembers_sorted.nodup_iff.mpr hnodup)
  have hmem : (key, value) ∈ fields.mergeSort byKey := List.mem_mergeSort.mpr h
  exact List.mem_map_of_mem (f := fun field : String × PyScalar => (chars field.1, field.2.json)) hmem

end

/-! ### Objects with values of several kinds -/

theorem chars_injective : Function.Injective chars := by
  have htoNat : Function.Injective Char.toNat := fun _ _ h => Char.toNat_inj.mp h
  exact fun a b h => String.toList_inj.mp (htoNat.list_map h)

/-- A field of an object together with the text that stands for its value. -/
structure PrintedField where
  key : String
  text : List ℕ
  value : Json
  plain : PlainKey key
  prints : Json.Prints text value

namespace PrintedField

def str (key : String) (text : List ℕ) (plain : PlainKey key) (h : ∀ u ∈ text, Unpaired u) :
    PrintedField :=
  ⟨key, asciiText text, .str text, plain, prints_asciiText h⟩

def int (key : String) (z : ℤ) (plain : PlainKey key) : PrintedField :=
  ⟨key, intText z, .num (.ofInt z), plain, PyScalar.prints (.int z)⟩

def bool (key : String) (b : Bool) (plain : PlainKey key) : PrintedField :=
  match b with
  | true => ⟨key, chars "true", .bool true, plain, Json.prints_true⟩
  | false => ⟨key, chars "false", .bool false, plain, Json.prints_false⟩

def byKey (left right : PrintedField) : Bool := left.key ≤ right.key

def member (field : PrintedField) : List ℕ × Json := (chars field.key, field.value)

end PrintedField

/-- `json.dumps(fields, indent=2, sort_keys=True)`. -/
def dumpsFields (fields : List PrintedField) : List ℕ :=
  chars "\x7b\n  " ++ (chars ",\n  ").intercalate ((fields.mergeSort PrintedField.byKey).map fun field =>
    quoted field.key ++ chars ": " ++ field.text) ++ chars "\n\x7d"

/-- The object that is read back. -/
def fieldMembers (fields : List PrintedField) : List (List ℕ × Json) :=
  (fields.mergeSort PrintedField.byKey).map PrintedField.member

section
variable {fields : List PrintedField}

theorem prints_dumpsFields (hne : fields ≠ []) :
    Json.Prints (dumpsFields fields) (.obj (fieldMembers fields)) := by
  have hmembers : List.Forall₂ Json.PrintsMember
      ((fields.mergeSort PrintedField.byKey).map fun field =>
        quoted field.key ++ 58 :: (chars " " ++ field.text)) (fieldMembers fields) := by
    rw [fieldMembers, List.forall₂_map_left_iff, List.forall₂_map_right_iff, List.forall₂_same]
    intro field _
    exact ⟨chars field.key, chars " " ++ field.text, by simp [quoted, chars],
      plainKey_body field.plain, field.prints.blanks_append (by decide)⟩
  have hindent : ∀ u ∈ chars "\n  ", Json.isBlank u = true := by decide
  have hclosing : ∀ u ∈ chars "\n", Json.isBlank u = true := by decide
  have hnonempty : fields.mergeSort PrintedField.byKey ≠ [] := by
    intro hnil
    have hlength := @List.length_mergeSort _ PrintedField.byKey fields
    rw [hnil] at hlength
    exact hne (List.length_eq_zero_iff.mp hlength.symm)
  have hprints := Json.prints_obj_indented hindent hclosing hmembers (by simpa using hnonempty)
  simpa [dumpsFields, chars] using hprints

theorem lookup_fieldMembers (hnodup : (fields.map PrintedField.key).Nodup) {field : PrintedField}
    (h : field ∈ fields) : dictLookup (fieldMembers fields) (chars field.key) = some field.value := by
  have hperm : ((fieldMembers fields).map Prod.fst).Perm (fields.map fun field => chars field.key) := by
    rw [fieldMembers, List.map_map]
    exact (List.mergeSort_perm fields PrintedField.byKey).map _
  have hkeys : (fields.map fun field => chars field.key).Nodup := by
    have hmap : fields.map (fun field => chars field.key) = (fields.map PrintedField.key).map chars := by
      rw [List.map_map]
      rfl
    rw [hmap]
    exact hnodup.map chars_injective
  apply dictLookup_of_mem (hperm.nodup_iff.mpr hkeys)
  exact List.mem_map_of_mem (f := PrintedField.member) (List.mem_mergeSort.mpr h)

end

/-! ### Its characters -/

/-- Neither a control character nor outside of ASCII. -/
def PlainAscii (u : ℕ) : Prop := 32 ≤ u ∧ u < 128

theorem hexUnit_plain {d : ℕ} (h : d < 16) : PlainAscii (hexUnit d) := by
  unfold hexUnit
  split_ifs <;> constructor <;> omega

theorem unicodeText_plain {u v : ℕ} (hv : v ∈ unicodeText u) : PlainAscii v := by
  have hdigit (w : ℕ) : PlainAscii (hexUnit (w % 16)) := hexUnit_plain (Nat.mod_lt w (by decide))
  simp only [unicodeText, List.mem_cons, List.not_mem_nil, or_false] at hv
  rcases hv with rfl | rfl | rfl | rfl | rfl | rfl
  · exact ⟨by decide, by decide⟩
  · exact ⟨by decide, by decide⟩
  all_goals exact hdigit _

theorem escapeAscii_plain {u v : ℕ} (hv : v ∈ escapeAscii u) : PlainAscii v := by
  unfold escapeAscii at hv
  split_ifs at hv with h127
  · have hplain : v ∈ stringText [u] := by
      simp only [stringText, List.flatMap_cons, List.flatMap_nil, List.append_nil, List.mem_cons,
        List.mem_append]
      exact .inr (.inl hv)
    rcases mem_stringText hplain with h | ⟨hmem, h32⟩
    · exact h
    · obtain rfl := List.mem_singleton.mp hmem
      exact ⟨h32, by omega⟩
  · exact unicodeText_plain hv
  · exact (List.mem_append.mp hv).elim unicodeText_plain unicodeText_plain

theorem PyScalar.asciiText_plain {value : PyScalar} {u : ℕ} (hu : u ∈ value.asciiText) :
    PlainAscii u := by
  cases value with
  | int value => exact mem_intText hu
  | str text =>
    simp only [PyScalar.asciiText, Python.asciiText, List.mem_cons, List.mem_append,
      List.mem_flatMap, List.not_mem_nil, or_false] at hu
    rcases hu with rfl | ⟨v, -, hu⟩ | rfl
    · exact ⟨by decide, by decide⟩
    · exact escapeAscii_plain hu
    · exact ⟨by decide, by decide⟩

/-- A character of the members belongs to what separates them, or is plain. -/
theorem mem_members {fields : List (String × PyScalar)} {separator colon : List ℕ}
    (hkeys : ∀ field ∈ fields, PlainKey field.1) (hcolon : ∀ u ∈ colon, PlainAscii u) {u : ℕ}
    (hu : u ∈ separator.intercalate (fields.map fun field =>
      quoted field.1 ++ colon ++ field.2.asciiText)) : u ∈ separator ∨ PlainAscii u := by
  rcases mem_joined hu with hu | ⟨text, hmem, hu⟩
  · exact .inl hu
  right
  obtain ⟨field, hfield, rfl⟩ := List.mem_map.mp hmem
  have hquote : ∀ v ∈ chars "\"", PlainAscii v := by simp [chars, PlainAscii]
  simp only [quoted, List.mem_append] at hu
  rcases hu with (((hu | hu) | hu) | hu) | hu
  · exact hquote u hu
  · obtain ⟨h32, -, -, h128⟩ := hkeys field hfield u hu
    exact ⟨h32, h128⟩
  · exact hquote u hu
  · exact hcolon u hu
  · exact PyScalar.asciiText_plain hu

section
variable {fields : List (String × PyScalar)} (hkeys : ∀ field ∈ fields, PlainKey field.1) {u : ℕ}
include hkeys

theorem dumpsAscii_plain (hu : u ∈ dumpsAscii fields) : PlainAscii u := by
  have hsigns : ∀ v ∈ chars "\x7b,:\x7d", PlainAscii v := by simp [chars, PlainAscii]
  simp only [dumpsAscii, dictText, List.mem_append, List.map_map] at hu
  rcases hu with (hu | hu) | hu
  · exact hsigns u (by simp_all [chars])
  · have hcolon : ∀ v ∈ chars ":", PlainAscii v := by simp [chars, PlainAscii]
    rcases mem_members hkeys hcolon hu with hu | hu
    · exact hsigns u (by simp_all [chars])
    · exact hu
  · exact hsigns u (by simp_all [chars])

theorem dumpsIndented_lt (hu : u ∈ dumpsIndented fields) : u < 128 := by
  have hsigns : ∀ v ∈ chars "\x7b\n ,\x7d", v < 128 := by decide
  simp only [dumpsIndented, List.mem_append] at hu
  rcases hu with (hu | hu) | hu
  · exact hsigns u (by simp [chars] at hu ⊢; omega)
  · have hcolon : ∀ v ∈ chars ": ", PlainAscii v := by simp [chars, PlainAscii]
    rcases mem_members (fun field hfield => hkeys field (List.mem_mergeSort.mp hfield)) hcolon hu
      with hu | hu
    · exact hsigns u (by simp [chars] at hu ⊢; omega)
    · exact hu.2
  · exact hsigns u (by simp [chars] at hu ⊢; omega)

end

end TcdOran.Lib.Python
