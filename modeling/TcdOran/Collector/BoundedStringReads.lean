import Mathlib.Tactic
import TcdOran.Lib.Utf8Table
import TcdOran.Collector.BoundedString

/-! The reads of `bounded_string_valid`: its two loops over indices, where a read at or beyond the
capacity has no result. They have one for every array, and it is the answer over the string. -/
namespace TcdOran.Collector
open TcdOran.Lib

variable {capacity : ℕ}

/-- `bytes[index]`: there is nothing to read at or beyond the capacity. -/
def readByte (value : CharArray capacity) (index : ℕ) : Option UInt8 := value.toList[index]?

/-- `while (length < capacity && bytes[length] != 0U) { ++length; }` -/
def scanLength (value : CharArray capacity) (length : ℕ) : Option ℕ :=
  if length < capacity then do
    let byte ← readByte value length
    if byte ≠ 0 then scanLength value (length + 1) else some length
  else some length
termination_by capacity - length

/-- The loop over the continuation bytes with `left` rounds to go; `some none` is its
`return false`. -/
def scanContinuation (value : CharArray capacity) (index : ℕ) :
    (left offset codepoint : ℕ) → Option (Option ℕ)
  | 0, _, codepoint => some (some codepoint)
  | left + 1, offset, codepoint => do
    let next ← readByte value (index + offset)
    match appendContinuation codepoint next with
    | none => some none
    | some codepoint => scanContinuation value index left (offset + 1) codepoint

/-- `while (index < length)` -/
def scanFrom (value : CharArray capacity) (length index : ℕ) : Option Bool :=
  if index < length then do
    let lead ← readByte value index
    if lead ≤ 0x7F then scanFrom value length (index + 1)
    else
      match leadPayload lead with
      | none => some false
      | some (payload, continuationCount) =>
        if continuationCount > length - index - 1 then some false
        else do
          match ← scanContinuation value index continuationCount 1 payload with
          | none => some false
          | some codepoint =>
            if codepointRejected continuationCount codepoint then some false
            else scanFrom value length (index + continuationCount + 1)
  else some true
termination_by length - index

/-- `bounded_string_valid`, over the memory behind the pointer. -/
def boundedStringValidReads (value : CharArray capacity) : Option Bool := do
  let length ← scanLength value 0
  if length = capacity then some false else scanFrom value length 0

/-! ### The length loop -/

theorem readByte_eq (value : CharArray capacity) {index : ℕ} (h : index < capacity) :
    ∃ byte, readByte value index = some byte ∧
      value.toList.drop index = byte :: value.toList.drop (index + 1) := by
  have hlen : index < value.toList.length := by simpa using h
  exact ⟨value.toList[index], List.getElem?_eq_getElem hlen, List.drop_eq_getElem_cons hlen⟩

/-- The loop stops behind the bytes that are left of the string. -/
theorem scanLength_eq (value : CharArray capacity) (length : ℕ) :
    length ≤ capacity → scanLength value length =
      some (length + ((value.toList.drop length).takeWhile (· != 0)).length) := by
  fun_induction scanLength value length with
  | case1 length hlt ih =>
    intro _
    obtain ⟨byte, hread, hdrop⟩ := readByte_eq value hlt
    rw [hread, hdrop, Option.bind_eq_bind, Option.bind_some]
    split
    · next hne =>
      have hmore := ih hlt
      rw [hmore, List.takeWhile_cons_of_pos (by simpa using hne), List.length_cons]
      congr 1
      omega
    · next hzero =>
      rw [List.takeWhile_cons_of_neg (by simpa using hzero)]
      simp
  | case2 length hge =>
    intro hle
    have hnil : value.toList.drop length = [] := List.drop_eq_nil_of_le (by simp; omega)
    simp [hnil]

theorem scanLength_zero (value : CharArray capacity) :
    scanLength value 0 = some value.cString.length := by
  rw [scanLength_eq value 0 (Nat.zero_le _), Nat.zero_add, List.drop_zero]
  rfl

/-! ### The scan -/

theorem readByte_cString {value : CharArray capacity} {index : ℕ}
    (h : index < value.cString.length) :
    ∃ byte, readByte value index = some byte ∧
      value.cString.drop index = byte :: value.cString.drop (index + 1) := by
  obtain ⟨behind, hsplit⟩ : value.cString <+: value.toList := List.takeWhile_prefix _
  refine ⟨value.cString[index], ?_, List.drop_eq_getElem_cons h⟩
  rw [readByte, ← hsplit, List.getElem?_append_left h, List.getElem?_eq_getElem h]

theorem scanContinuation_eq {value : CharArray capacity} {index : ℕ} (left offset codepoint : ℕ)
    (h : index + offset + left ≤ value.cString.length) :
    scanContinuation value index left offset codepoint =
      some (((value.cString.drop (index + offset)).take left).foldlM appendContinuation
        codepoint) := by
  induction left generalizing offset codepoint with
  | zero => simp [scanContinuation]
  | succ left ih =>
    have hlt : index + offset < value.cString.length := by omega
    obtain ⟨next, hread, hdrop⟩ := readByte_cString hlt
    rw [scanContinuation, hread, hdrop, Option.bind_eq_bind, Option.bind_some, List.take_succ_cons,
      List.foldlM_cons]
    cases hnext : appendContinuation codepoint next with
    | none => simp
    | some more =>
      have hrest := ih (offset + 1) more (by omega)
      simpa [Nat.add_assoc] using hrest

/-- One round over the indices is one round over the bytes that are left. -/
theorem scanFrom_round {value : CharArray capacity} {index : ℕ}
    (h : index < value.cString.length) :
    ∃ lead rest, value.cString.drop index = lead :: rest ∧
      (scanCharacter lead rest = none ∧
          scanFrom value value.cString.length index = some false ∨
        ∃ next, scanCharacter lead rest = some (value.cString.drop next) ∧ index < next ∧
          next ≤ value.cString.length ∧ scanFrom value value.cString.length index =
            scanFrom value value.cString.length next) := by
  obtain ⟨lead, hread, hdrop⟩ := readByte_cString h
  refine ⟨lead, value.cString.drop (index + 1), hdrop, ?_⟩
  rw [scanFrom, if_pos h, hread, scanCharacter]
  simp only [Option.bind_eq_bind, Option.bind_some]
  split
  · exact .inr ⟨index + 1, rfl, by omega, h, rfl⟩
  cases hlead : leadPayload lead with
  | none => exact .inl ⟨rfl, rfl⟩
  | some payload =>
    obtain ⟨payload, count⟩ := payload
    have hlength : (value.cString.drop (index + 1)).length = value.cString.length - index - 1 := by
      rw [List.length_drop]
      omega
    simp only [Option.bind_some, hlength]
    split
    · exact .inl ⟨rfl, rfl⟩
    · next hfits =>
      rw [scanContinuation_eq count 1 payload (by omega)]
      simp only [Option.bind_some]
      cases ((value.cString.drop (index + 1)).take count).foldlM appendContinuation payload with
      | none => exact .inl ⟨rfl, rfl⟩
      | some codepoint =>
        simp only [Option.bind_some]
        split
        · exact .inl ⟨rfl, rfl⟩
        · refine .inr ⟨index + count + 1, ?_, by omega, by omega, rfl⟩
          rw [List.drop_drop]
          congr 2
          omega

theorem scanFrom_eq {value : CharArray capacity} (fuel : ℕ) {index : ℕ}
    (hindex : index ≤ value.cString.length) (hfuel : value.cString.length ≤ index + fuel) :
    scanFrom value value.cString.length index =
      some (scanUtf8 fuel (value.cString.drop index)) := by
  induction fuel generalizing index with
  | zero =>
    have hnil : value.cString.drop index = [] := List.drop_eq_nil_of_le hfuel
    rw [scanFrom, if_neg (by omega), hnil]
    rfl
  | succ fuel ih =>
    rcases Nat.lt_or_ge index value.cString.length with hlt | hge
    · obtain ⟨lead, rest, hdrop, ⟨hbad, hscan⟩ | ⟨next, hgood, hmore, hnext, hscan⟩⟩ :=
        scanFrom_round hlt
      · rw [hdrop, hscan, scanUtf8, hbad]
      · rw [hdrop, hscan, scanUtf8, hgood, ih hnext (by omega)]
    · have hnil : value.cString.drop index = [] := List.drop_eq_nil_of_le hge
      rw [scanFrom, if_neg (by omega), hnil]
      rfl

/-! ### The whole function -/

theorem terminated_iff_length {value : CharArray capacity} :
    value.Terminated ↔ value.cString.length ≠ capacity := by
  constructor
  · exact fun h => (CharArray.length_cString_lt h).ne
  · intro hne
    by_contra hnot
    refine hne ?_
    have hall : value.cString = value.toList := by
      rw [CharArray.cString, List.takeWhile_eq_self_iff]
      intro byte hbyte
      have hzero : byte ≠ 0 := by
        rintro rfl
        exact hnot hbyte
      simpa using hzero
    simp [hall]

/-- Every read is below the capacity, and the answer is the one over the string. -/
theorem boundedStringValidReads_eq (value : CharArray capacity) :
    boundedStringValidReads value = some (boundedStringValid value) := by
  have hle : value.cString.length ≤ capacity := by
    simpa [CharArray.cString] using
      (List.takeWhile_prefix (l := value.toList) (· != (0 : UInt8))).length_le
  rw [boundedStringValidReads, scanLength_zero, Option.bind_eq_bind, Option.bind_some,
    boundedStringValid]
  split
  · next heq =>
    have hnot : ¬ value.Terminated := fun h => terminated_iff_length.mp h heq
    simp [hnot]
  · next hne =>
    have hterm := decide_eq_true (terminated_iff_length.mpr hne)
    rw [scanFrom_eq capacity (Nat.zero_le _) (by omega), hterm, Bool.true_and, List.drop_zero]

/-- The scan reads inside the array only, and accepts exactly the terminated arrays whose bytes
before the first NUL are sequences of the UTF-8 table. -/
theorem boundedStringValid_table (value : CharArray capacity) :
    ∃ answer, boundedStringValidReads value = some answer ∧
      (answer = true ↔ value.Terminated ∧ TableWellFormed value.cString) := by
  refine ⟨boundedStringValid value, boundedStringValidReads_eq value, ?_⟩
  rw [boundedStringValid_iff, ValidString, tableWellFormed_iff]

end TcdOran.Collector
