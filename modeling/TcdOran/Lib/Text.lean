import Mathlib.Data.List.TakeWhile
import Mathlib.Data.Vector.Basic

/-! Byte texts, fixed character arrays and the strings they hold in C, and UTF-8. -/
namespace TcdOran.Lib

/-- The bytes of a string literal. -/
def bytes (s : String) : List UInt8 := s.toByteArray.data.toList

/-- The code points of a string literal. -/
def chars (s : String) : List ℕ := s.toList.map Char.toNat

instance lawfulBEqCodes : LawfulBEq (List ℕ) := List.instLawfulBEq

abbrev CharArray (n : ℕ) := Vector UInt8 n

namespace CharArray
variable {n : ℕ}

/-- The bytes before the first NUL: what a string function of C reads. -/
def cString (a : CharArray n) : List UInt8 := a.toList.takeWhile (· != 0)

def Terminated (a : CharArray n) : Prop := (0 : UInt8) ∈ a.toList

instance (a : CharArray n) : Decidable a.Terminated :=
  inferInstanceAs (Decidable ((0 : UInt8) ∈ a.toList))

/-- `snprintf(destination, sizeof destination, "%s", text)`: the text cut to the room before
the last cell, a NUL after it, and the cells behind that untouched. -/
def store (destination : CharArray n) (text : List UInt8) : CharArray n :=
  Vector.ofFn fun i =>
    if i.val < min text.length (n - 1) then text.getD i 0
    else if i.val = min text.length (n - 1) then 0
    else destination.get i

theorem zero_notMem_cString (a : CharArray n) : (0 : UInt8) ∉ a.cString := by
  intro h
  simpa using List.mem_takeWhile_imp h

theorem cString_eq_nil_iff (a : CharArray n) (hn : 0 < n) : a.cString = [] ↔ a[0] = 0 := by
  obtain ⟨⟨l⟩, hl⟩ := a
  cases l with
  | nil =>
    simp only [List.size_toArray, List.length_nil] at hl
    omega
  | cons x xs => by_cases hx : x = 0 <;> simp [cString, hx]

theorem length_cString_lt {a : CharArray n} (h : a.Terminated) : a.cString.length < n := by
  have hle : a.cString.length ≤ n := by
    simpa [cString] using (List.takeWhile_prefix (· != (0 : UInt8)) (l := a.toList)).length_le
  refine lt_of_le_of_ne hle fun heq => ?_
  have hall : a.cString = a.toList :=
    (List.takeWhile_prefix (· != (0 : UInt8))).eq_of_length (by simpa [cString] using heq)
  exact zero_notMem_cString a (hall ▸ h)

theorem getElem_store (d : CharArray n) (text : List UInt8) {i : ℕ} (hi : i < n) :
    (d.store text)[i] = if i < min text.length (n - 1) then text.getD i 0
      else if i = min text.length (n - 1) then 0 else d.get ⟨i, hi⟩ := by
  simp only [store, Vector.getElem_ofFn]

theorem toList_store (d : CharArray n) (text : List UInt8) (hn : 0 < n) :
    ∃ rest, (d.store text).toList = text.take (n - 1) ++ 0 :: rest := by
  have hlen : (text.take (n - 1)).length = min text.length (n - 1) := by
    rw [List.length_take, Nat.min_comm]
  have hk : min text.length (n - 1) < n := by omega
  refine ⟨(d.store text).toList.drop (min text.length (n - 1) + 1), ?_⟩
  apply List.ext_getElem
  · simp only [Vector.length_toList, List.length_append, List.length_cons, List.length_drop, hlen]
    omega
  · intro i hi hi'
    have hin : i < n := by simpa using hi
    rw [Vector.getElem_toList, getElem_store d text hin]
    rcases Nat.lt_trichotomy i (min text.length (n - 1)) with hlt | heq | hgt
    · have hit : i < text.length := by omega
      rw [if_pos hlt, List.getElem_append_left (by omega)]
      simp [hit]
    · rw [if_neg (by omega), if_pos heq, List.getElem_append_right (by omega)]
      simp [heq, hlen]
    · rw [if_neg (by omega), if_neg (by omega), List.getElem_append_right (by omega),
        List.getElem_cons, dif_neg (by omega), List.getElem_drop, Vector.getElem_toList,
        getElem_store d text (by omega), if_neg (by omega), if_neg (by omega)]
      congr 2
      omega

theorem terminated_store (d : CharArray n) (text : List UInt8) (hn : 0 < n) :
    (d.store text).Terminated := by
  obtain ⟨rest, h⟩ := toList_store d text hn
  simp [Terminated, h]

theorem cString_store_eq (d : CharArray n) (text : List UInt8) (hn : 0 < n) :
    (d.store text).cString = (text.take (n - 1)).takeWhile (· != 0) := by
  obtain ⟨rest, h⟩ := toList_store d text hn
  rw [cString, h, List.takeWhile_append]
  split
  · next hall =>
    have hself := (List.takeWhile_prefix (· != (0 : UInt8))).eq_of_length hall
    rw [hself]
    simp
  · rfl

/-- Storing a text without NUL and reading it back gives its part that fits. -/
theorem cString_store (d : CharArray n) {text : List UInt8} (hn : 0 < n)
    (h0 : (0 : UInt8) ∉ text) : (d.store text).cString = text.take (n - 1) := by
  rw [cString_store_eq d text hn, List.takeWhile_eq_self_iff]
  intro b hb
  have hne : b ≠ 0 := by
    rintro rfl
    exact h0 (List.mem_of_mem_take hb)
  simpa using hne

/-- A string that is copied into an array of the same size arrives whole. -/
theorem cString_store_cString (d : CharArray n) {a : CharArray n} (h : a.Terminated) :
    (d.store a.cString).cString = a.cString := by
  have hlt := length_cString_lt h
  rw [cString_store d (by omega) (zero_notMem_cString a), List.take_of_length_le (by omega)]

end CharArray

/-! ### UTF-8 -/

def encodeUtf8 (cs : List Char) : List UInt8 := cs.flatMap String.utf8EncodeChar

/-- Strict decoding. -/
def decodeUtf8 (bs : List UInt8) : Option (List Char) :=
  bs.toByteArray.utf8Decode?.map Array.toList

def WellFormedUtf8 (bs : List UInt8) : Prop := ∃ cs, bs = encodeUtf8 cs

theorem exists_char {v : ℕ} (h : v < 0xD800 ∨ (0xDFFF < v ∧ v < 0x110000)) :
    ∃ c : Char, c.val.toNat = v :=
  ⟨Char.ofNatAux v h, rfl⟩

@[simp] theorem encodeUtf8_append (cs ds : List Char) :
    encodeUtf8 (cs ++ ds) = encodeUtf8 cs ++ encodeUtf8 ds := by
  simp [encodeUtf8]

@[simp] theorem decodeUtf8_encodeUtf8 (cs : List Char) : decodeUtf8 (encodeUtf8 cs) = some cs := by
  have h := List.utf8Decode?_utf8Encode (l := cs)
  simp only [List.utf8Encode] at h
  simp [decodeUtf8, encodeUtf8, h]

theorem decodeUtf8_eq_some_iff {bs : List UInt8} {cs : List Char} :
    decodeUtf8 bs = some cs ↔ bs = encodeUtf8 cs := by
  constructor
  · intro h
    simp only [decodeUtf8, Option.map_eq_some_iff] at h
    obtain ⟨a, ha, rfl⟩ := h
    have hget : bs.toByteArray.utf8Decode?.get (by simp [ha]) = a := by simp [ha]
    have henc := ByteArray.utf8Encode_get_utf8Decode? (b := bs.toByteArray) (h := by simp [ha])
    rw [hget] at henc
    have := congrArg (fun b => b.data.toList) henc
    simpa [List.utf8Encode, encodeUtf8] using this.symm
  · rintro rfl
    simp

theorem wellFormedUtf8_iff_isSome {bs : List UInt8} :
    WellFormedUtf8 bs ↔ (decodeUtf8 bs).isSome := by
  simp [WellFormedUtf8, Option.isSome_iff_exists, decodeUtf8_eq_some_iff]

theorem WellFormedUtf8.append {bs ds : List UInt8} (hb : WellFormedUtf8 bs)
    (hd : WellFormedUtf8 ds) : WellFormedUtf8 (bs ++ ds) := by
  obtain ⟨cs, rfl⟩ := hb
  obtain ⟨es, rfl⟩ := hd
  exact ⟨cs ++ es, (encodeUtf8_append cs es).symm⟩

/-! ### ASCII -/

/-- ASCII bytes other than NUL. -/
def PlainAscii (bs : List UInt8) : Prop := ∀ b ∈ bs, b ≠ 0 ∧ b.toNat < 128

instance (bs : List UInt8) : Decidable (PlainAscii bs) :=
  List.decidableBAll _ bs

theorem PlainAscii.append {bs ds : List UInt8} (hb : PlainAscii bs) (hd : PlainAscii ds) :
    PlainAscii (bs ++ ds) := by
  intro b h
  rcases List.mem_append.mp h with h | h
  · exact hb b h
  · exact hd b h

theorem PlainAscii.take {bs : List UInt8} (h : PlainAscii bs) (k : ℕ) : PlainAscii (bs.take k) :=
  fun b hb => h b (List.mem_of_mem_take hb)

theorem PlainAscii.zero_notMem {bs : List UInt8} (h : PlainAscii bs) : (0 : UInt8) ∉ bs :=
  fun h0 => (h 0 h0).1 rfl

theorem wellFormedUtf8_singleton {b : UInt8} (h : b.toNat < 128) : WellFormedUtf8 [b] := by
  obtain ⟨c, hc⟩ := exists_char (v := b.toNat) (.inl (by omega))
  refine ⟨[c], ?_⟩
  have hle : b.toNat ≤ 0x7F := by omega
  simp [encodeUtf8, String.utf8EncodeChar, hc, hle]

theorem PlainAscii.wellFormedUtf8 {bs : List UInt8} (h : PlainAscii bs) : WellFormedUtf8 bs := by
  induction bs with
  | nil => exact ⟨[], rfl⟩
  | cons b bs ih =>
    have hb := wellFormedUtf8_singleton (h b List.mem_cons_self).2
    exact hb.append (ih fun d hd => h d (List.mem_cons_of_mem b hd))

/-! ### Code points -/

/-- The code points of a UTF-8 text. -/
def codePoints (bs : List UInt8) : Option (List ℕ) := (decodeUtf8 bs).map (·.map Char.toNat)

/-- The UTF-8 text of code points. -/
def utf8OfCodePoints (us : List ℕ) : List UInt8 := encodeUtf8 (us.map Char.ofNat)

theorem codePoints_encodeUtf8 (cs : List Char) :
    codePoints (encodeUtf8 cs) = some (cs.map Char.toNat) := by
  simp [codePoints]

theorem codePoints_utf8OfCodePoints {us : List ℕ} (h : ∀ u ∈ us, (Char.ofNat u).toNat = u) :
    codePoints (utf8OfCodePoints us) = some us := by
  have hmap : us.map (Char.toNat ∘ Char.ofNat) = us := (List.map_congr_left h).trans (List.map_id' us)
  rw [utf8OfCodePoints, codePoints_encodeUtf8, List.map_map, hmap]

theorem codePoints_append {bs ds : List UInt8} {us vs : List ℕ} (hb : codePoints bs = some us)
    (hd : codePoints ds = some vs) : codePoints (bs ++ ds) = some (us ++ vs) := by
  simp only [codePoints, Option.map_eq_some_iff, decodeUtf8_eq_some_iff] at hb hd ⊢
  obtain ⟨cs, rfl, rfl⟩ := hb
  obtain ⟨es, rfl, rfl⟩ := hd
  exact ⟨cs ++ es, (encodeUtf8_append cs es).symm, List.map_append⟩

theorem utf8OfCodePoints_of_codePoints {bs : List UInt8} {us : List ℕ}
    (h : codePoints bs = some us) : utf8OfCodePoints us = bs := by
  simp only [codePoints, Option.map_eq_some_iff, decodeUtf8_eq_some_iff] at h
  obtain ⟨cs, rfl, rfl⟩ := h
  have hid : Char.ofNat ∘ Char.toNat = id := by
    funext c
    exact Char.ofNat_toNat c
  rw [utf8OfCodePoints, List.map_map, hid, List.map_id]

theorem codePoints_singleton {b : UInt8} (h : b.toNat < 128) : codePoints [b] = some [b.toNat] := by
  obtain ⟨c, hc⟩ := exists_char (v := b.toNat) (.inl (by omega))
  have hle : b.toNat ≤ 0x7F := by omega
  have hb : [b] = encodeUtf8 [c] := by simp [encodeUtf8, String.utf8EncodeChar, hc, hle]
  rw [hb, codePoints_encodeUtf8, List.map_singleton]
  exact congrArg (fun n => some [n]) hc

/-- An ASCII text is its own sequence of code points. -/
theorem codePoints_ascii {bs : List UInt8} (h : ∀ b ∈ bs, b.toNat < 128) :
    codePoints bs = some (bs.map UInt8.toNat) := by
  induction bs with
  | nil => exact codePoints_encodeUtf8 []
  | cons b bs ih =>
    have hb := codePoints_singleton (h b List.mem_cons_self)
    exact codePoints_append hb (ih fun d hd => h d (List.mem_cons_of_mem b hd))

theorem PlainAscii.codePoints {bs : List UInt8} (h : PlainAscii bs) :
    codePoints bs = some (bs.map UInt8.toNat) :=
  codePoints_ascii fun b hb => (h b hb).2

/-! ### Lines -/

/-- The lines of a text, each with the line feed that ends it. -/
def splitLines : List UInt8 → List (List UInt8)
  | [] => []
  | b :: bs =>
      if b = 10 then [10] :: splitLines bs
      else
        match splitLines bs with
        | [] => [[b]]
        | line :: lines => (b :: line) :: lines

theorem splitLines_cons {body : List UInt8} (h : (10 : UInt8) ∉ body) (rest : List UInt8) :
    splitLines (body ++ [10] ++ rest) = (body ++ [10]) :: splitLines rest := by
  induction body with
  | nil => simp [splitLines]
  | cons b body ih =>
    simp only [List.mem_cons, not_or] at h
    have hne : b ≠ 10 := fun h10 => h.1 h10.symm
    rw [List.cons_append, List.cons_append, splitLines, if_neg hne, ih h.2]

/-- Lines that end at their only line feed are recovered from the text they make up. -/
theorem splitLines_flatten {lines : List (List UInt8)}
    (h : ∀ line ∈ lines, ∃ body, line = body ++ [10] ∧ (10 : UInt8) ∉ body) :
    splitLines lines.flatten = lines := by
  induction lines with
  | nil => rfl
  | cons line lines ih =>
    obtain ⟨body, rfl, hbody⟩ := h line List.mem_cons_self
    rw [List.flatten_cons, splitLines_cons hbody,
      ih fun l hl => h l (List.mem_cons_of_mem _ hl)]

end TcdOran.Lib
