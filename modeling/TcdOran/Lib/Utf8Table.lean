import Mathlib.Tactic
import TcdOran.Lib.Text

/-! The table of well-formed UTF-8 byte sequences: one row for each class of lead bytes, with the
range of every byte. The concatenations of sequences in its rows are the encodings of texts. -/
namespace TcdOran.Lib

/-- The range of a continuation byte that its lead does not narrow. -/
def utf8Tail : ℕ × ℕ := (0x80, 0xBF)

/-- The rows, each from its first code point to its last: no overlong form has a row, no
surrogate (`ED` is cut at `9F`) and nothing above U+10FFFF (`F4` is cut at `8F`). -/
def utf8Rows : List (List (ℕ × ℕ)) :=
  [[(0x00, 0x7F)],
   [(0xC2, 0xDF), utf8Tail],
   [(0xE0, 0xE0), (0xA0, 0xBF), utf8Tail],
   [(0xE1, 0xEC), utf8Tail, utf8Tail],
   [(0xED, 0xED), (0x80, 0x9F), utf8Tail],
   [(0xEE, 0xEF), utf8Tail, utf8Tail],
   [(0xF0, 0xF0), (0x90, 0xBF), utf8Tail, utf8Tail],
   [(0xF1, 0xF3), utf8Tail, utf8Tail, utf8Tail],
   [(0xF4, 0xF4), (0x80, 0x8F), utf8Tail, utf8Tail]]

/-- The byte lies in the range. -/
def InRange (range : ℕ × ℕ) (byte : UInt8) : Prop :=
  range.1 ≤ byte.toNat ∧ byte.toNat ≤ range.2

/-- The sequence is one character of the table. -/
def Utf8Character (sequence : List UInt8) : Prop :=
  ∃ row ∈ utf8Rows, List.Forall₂ InRange row sequence

/-- The bytes are a concatenation of characters of the table. -/
def TableWellFormed (text : List UInt8) : Prop :=
  ∃ sequences : List (List UInt8), text = sequences.flatten ∧ ∀ s ∈ sequences, Utf8Character s

theorem inRange_iff {low high : ℕ} {byte : UInt8} :
    InRange (low, high) byte ↔ low ≤ byte.toNat ∧ byte.toNat ≤ high := Iff.rfl

theorem forall₂_cons_iff {range : ℕ × ℕ} {row : List (ℕ × ℕ)} {sequence : List UInt8} :
    List.Forall₂ InRange (range :: row) sequence ↔
      ∃ byte rest, sequence = byte :: rest ∧ InRange range byte ∧
        List.Forall₂ InRange row rest := by
  constructor
  · rintro (_ | ⟨hbyte, hrest⟩)
    exact ⟨_, _, rfl, hbyte, hrest⟩
  · rintro ⟨byte, rest, rfl, hbyte, hrest⟩
    exact .cons hbyte hrest

/-! ### A row holds encodings only -/

theorem ofNat_eq_byte {k : ℕ} {b : UInt8} (h : k = b.toNat) : UInt8.ofNat k = b := by
  rw [h, UInt8.ofNat_toNat]

theorem encode_one {a : UInt8} (ha : a.toNat ≤ 0x7F) :
    ∃ c, [a] = String.utf8EncodeChar c := by
  obtain ⟨c, hc⟩ := exists_char (v := a.toNat) (.inl (by omega))
  exact ⟨c, by simp [String.utf8EncodeChar, hc, ha]⟩

theorem encode_two {a b : UInt8} (ha : InRange (0xC2, 0xDF) a) (hb : InRange utf8Tail b) :
    ∃ c, [a, b] = String.utf8EncodeChar c := by
  simp only [InRange, utf8Tail] at ha hb
  obtain ⟨c, hc⟩ := exists_char (v := (a.toNat - 0xC0) * 64 + (b.toNat - 0x80)) (by omega)
  refine ⟨c, ?_⟩
  rw [String.utf8EncodeChar]
  simp only [hc]
  rw [if_neg (by omega), if_pos (by omega), ofNat_eq_byte (b := a) (by omega),
    ofNat_eq_byte (b := b) (by omega)]

/-- Three bytes whose value is neither overlong nor a surrogate. -/
theorem encode_three {a b d : UInt8} (ha : InRange (0xE0, 0xEF) a) (hb : InRange utf8Tail b)
    (hd : InRange utf8Tail d) (hlong : a.toNat = 0xE0 → 0xA0 ≤ b.toNat)
    (hsurrogate : a.toNat = 0xED → b.toNat ≤ 0x9F) :
    ∃ c, [a, b, d] = String.utf8EncodeChar c := by
  simp only [InRange, utf8Tail] at ha hb hd
  obtain ⟨c, hc⟩ := exists_char
    (v := (a.toNat - 0xE0) * 4096 + (b.toNat - 0x80) * 64 + (d.toNat - 0x80)) (by omega)
  refine ⟨c, ?_⟩
  rw [String.utf8EncodeChar]
  simp only [hc]
  rw [if_neg (by omega), if_neg (by omega), if_pos (by omega), ofNat_eq_byte (b := a) (by omega),
    ofNat_eq_byte (b := b) (by omega), ofNat_eq_byte (b := d) (by omega)]

/-- Four bytes whose value is neither overlong nor above the last code point. -/
theorem encode_four {a b d e : UInt8} (ha : InRange (0xF0, 0xF4) a) (hb : InRange utf8Tail b)
    (hd : InRange utf8Tail d) (he : InRange utf8Tail e)
    (hlong : a.toNat = 0xF0 → 0x90 ≤ b.toNat) (hlast : a.toNat = 0xF4 → b.toNat ≤ 0x8F) :
    ∃ c, [a, b, d, e] = String.utf8EncodeChar c := by
  simp only [InRange, utf8Tail] at ha hb hd he
  obtain ⟨c, hc⟩ := exists_char (v := (a.toNat - 0xF0) * 262144 + (b.toNat - 0x80) * 4096 +
    (d.toNat - 0x80) * 64 + (e.toNat - 0x80)) (by omega)
  refine ⟨c, ?_⟩
  rw [String.utf8EncodeChar]
  simp only [hc]
  rw [if_neg (by omega), if_neg (by omega), if_neg (by omega), ofNat_eq_byte (b := a) (by omega),
    ofNat_eq_byte (b := b) (by omega), ofNat_eq_byte (b := d) (by omega),
    ofNat_eq_byte (b := e) (by omega)]

theorem Utf8Character.encode {sequence : List UInt8} (h : Utf8Character sequence) :
    ∃ c, sequence = String.utf8EncodeChar c := by
  obtain ⟨row, hrow, hbytes⟩ := h
  simp only [utf8Rows, List.mem_cons, List.not_mem_nil, or_false] at hrow
  rcases hrow with rfl | rfl | rfl | rfl | rfl | rfl | rfl | rfl | rfl
  all_goals
    simp only [forall₂_cons_iff, List.forall₂_nil_left_iff] at hbytes
  · obtain ⟨a, -, rfl, ha, rfl⟩ := hbytes
    exact encode_one ha.2
  · obtain ⟨a, -, rfl, ha, b, -, rfl, hb, rfl⟩ := hbytes
    exact encode_two ha hb
  -- three bytes: the lead decides which bound the second one has to keep
  iterate 4
    obtain ⟨a, -, rfl, ha, b, -, rfl, hb, d, -, rfl, hd, rfl⟩ := hbytes
    simp only [utf8Tail, inRange_iff] at ha hb
    exact encode_three (inRange_iff.mpr (by omega)) (inRange_iff.mpr (by omega)) hd (by omega)
      (by omega)
  iterate 3
    obtain ⟨a, -, rfl, ha, b, -, rfl, hb, d, -, rfl, hd, e, -, rfl, he, rfl⟩ := hbytes
    simp only [utf8Tail, inRange_iff] at ha hb
    exact encode_four (inRange_iff.mpr (by omega)) (inRange_iff.mpr (by omega)) hd he (by omega)
      (by omega)

/-! ### Every encoding is in a row -/

theorem inRange_ofNat {low high k : ℕ} (hk : k < 256) (h : low ≤ k ∧ k ≤ high) :
    InRange (low, high) (UInt8.ofNat k) := by
  have hbyte : (UInt8.ofNat k).toNat = k := by rw [UInt8.toNat_ofNat', Nat.mod_eq_of_lt hk]
  rw [inRange_iff, hbyte]
  exact h

theorem utf8Character_encode (c : Char) : Utf8Character (String.utf8EncodeChar c) := by
  have hvalid : c.val.toNat < 0xD800 ∨ (0xDFFF < c.val.toNat ∧ c.val.toNat < 0x110000) := c.valid
  rw [String.utf8EncodeChar]
  set v := c.val.toNat
  split_ifs with h₁ h₂ h₃
  · refine ⟨[(0x00, 0x7F)], by simp [utf8Rows], .cons (inRange_ofNat ?_ ?_) .nil⟩ <;> omega
  · refine ⟨[(0xC2, 0xDF), utf8Tail], by simp [utf8Rows],
      .cons (inRange_ofNat ?_ ?_) (.cons (inRange_ofNat ?_ ?_) .nil)⟩ <;> omega
  · have hrow : v < 0x1000 ∨ 0x1000 ≤ v ∧ v < 0xD000 ∨ 0xD000 ≤ v ∧ v < 0xD800 ∨ 0xE000 ≤ v := by
      omega
    rcases hrow with h | h | h | h
    · refine ⟨[(0xE0, 0xE0), (0xA0, 0xBF), utf8Tail], by simp [utf8Rows], .cons (inRange_ofNat ?_ ?_)
        (.cons (inRange_ofNat ?_ ?_) (.cons (inRange_ofNat ?_ ?_) .nil))⟩ <;> omega
    · refine ⟨[(0xE1, 0xEC), utf8Tail, utf8Tail], by simp [utf8Rows], .cons (inRange_ofNat ?_ ?_)
        (.cons (inRange_ofNat ?_ ?_) (.cons (inRange_ofNat ?_ ?_) .nil))⟩ <;> omega
    · refine ⟨[(0xED, 0xED), (0x80, 0x9F), utf8Tail], by simp [utf8Rows], .cons (inRange_ofNat ?_ ?_)
        (.cons (inRange_ofNat ?_ ?_) (.cons (inRange_ofNat ?_ ?_) .nil))⟩ <;> omega
    · refine ⟨[(0xEE, 0xEF), utf8Tail, utf8Tail], by simp [utf8Rows], .cons (inRange_ofNat ?_ ?_)
        (.cons (inRange_ofNat ?_ ?_) (.cons (inRange_ofNat ?_ ?_) .nil))⟩ <;> omega
  · have hrow : v < 0x40000 ∨ 0x40000 ≤ v ∧ v < 0x100000 ∨ 0x100000 ≤ v := by omega
    rcases hrow with h | h | h
    · refine ⟨[(0xF0, 0xF0), (0x90, 0xBF), utf8Tail, utf8Tail], by simp [utf8Rows],
        .cons (inRange_ofNat ?_ ?_) (.cons (inRange_ofNat ?_ ?_) (.cons (inRange_ofNat ?_ ?_)
          (.cons (inRange_ofNat ?_ ?_) .nil)))⟩ <;> omega
    · refine ⟨[(0xF1, 0xF3), utf8Tail, utf8Tail, utf8Tail], by simp [utf8Rows],
        .cons (inRange_ofNat ?_ ?_) (.cons (inRange_ofNat ?_ ?_) (.cons (inRange_ofNat ?_ ?_)
          (.cons (inRange_ofNat ?_ ?_) .nil)))⟩ <;> omega
    · refine ⟨[(0xF4, 0xF4), (0x80, 0x8F), utf8Tail, utf8Tail], by simp [utf8Rows],
        .cons (inRange_ofNat ?_ ?_) (.cons (inRange_ofNat ?_ ?_) (.cons (inRange_ofNat ?_ ?_)
          (.cons (inRange_ofNat ?_ ?_) .nil)))⟩ <;> omega

theorem utf8Character_iff {sequence : List UInt8} :
    Utf8Character sequence ↔ ∃ c, sequence = String.utf8EncodeChar c := by
  constructor
  · exact Utf8Character.encode
  · rintro ⟨c, rfl⟩
    exact utf8Character_encode c

/-- The table describes the encodings of texts, and nothing else. -/
theorem tableWellFormed_iff {text : List UInt8} : TableWellFormed text ↔ WellFormedUtf8 text := by
  constructor
  · rintro ⟨sequences, rfl, hrows⟩
    induction sequences with
    | nil => exact ⟨[], rfl⟩
    | cons s sequences ih =>
      obtain ⟨c, rfl⟩ := utf8Character_iff.mp (hrows s List.mem_cons_self)
      obtain ⟨cs, hcs⟩ := ih fun t ht => hrows t (List.mem_cons_of_mem _ ht)
      refine ⟨c :: cs, ?_⟩
      rw [List.flatten_cons, hcs]
      rfl
  · rintro ⟨cs, rfl⟩
    refine ⟨cs.map String.utf8EncodeChar, List.flatMap_def, ?_⟩
    intro s hs
    obtain ⟨c, -, rfl⟩ := List.mem_map.mp hs
    exact utf8Character_encode c

end TcdOran.Lib
