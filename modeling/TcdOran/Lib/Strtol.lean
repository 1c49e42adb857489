import TcdOran.Lib.Decimal

/-! `strtol`, `strtoul` and `strcasecmp` of C, on the bytes of a string and in the locale a program
starts with. -/
namespace TcdOran.Lib

/-- `isspace`. -/
def isBlankByte (b : UInt8) : Bool := b = 32 ∨ (9 ≤ b ∧ b ≤ 13)

def isDigitByte (b : UInt8) : Bool := isDigit b.toNat

/-- What a conversion reads, and what it leaves. -/
structure Numeral where
  negative : Bool
  digits : List UInt8
  rest : List UInt8
  deriving DecidableEq

def takeSign : List UInt8 → Bool × List UInt8
  | [] => (false, [])
  | b :: rest => if b = 45 then (true, rest) else if b = 43 then (false, rest) else (false, b :: rest)

def readNumeral (text : List UInt8) : Numeral :=
  let signed := takeSign (text.dropWhile isBlankByte)
  ⟨signed.1, signed.2.takeWhile isDigitByte, signed.2.dropWhile isDigitByte⟩

def byteDigitsValue (digits : List UInt8) : ℕ := digitsValue (digits.map UInt8.toNat)

def Numeral.magnitude (n : Numeral) : ℕ := byteDigitsValue n.digits

/-- A conversion. `nothing` says that the end pointer stands where the text begins. -/
structure Converted (α : Type) where
  value : α
  rangeError : Bool
  nothing : Bool
  rest : List UInt8

/-- `strtoul(text, &end, 10)` of 64 bits: a minus sign negates the value that fits. -/
def strtoul (text : List UInt8) : Converted UInt64 :=
  let n := readNumeral text
  if n.digits = [] then ⟨0, false, true, text⟩
  else if n.magnitude < 2 ^ 64 then
    ⟨if n.negative then -UInt64.ofNat n.magnitude else UInt64.ofNat n.magnitude, false, false, n.rest⟩
  else ⟨UInt64.ofNat (2 ^ 64 - 1), true, false, n.rest⟩

/-- `strtol(text, &end, 10)` of 64 bits. -/
def strtol (text : List UInt8) : Converted ℤ :=
  let n := readNumeral text
  let z : ℤ := if n.negative then -n.magnitude else n.magnitude
  if n.digits = [] then ⟨0, false, true, text⟩
  else if z < -2 ^ 63 then ⟨-2 ^ 63, true, false, n.rest⟩
  else if 2 ^ 63 ≤ z then ⟨2 ^ 63 - 1, true, false, n.rest⟩
  else ⟨z, false, false, n.rest⟩

/-- The test behind a conversion that takes the whole text and nothing else. -/
def Converted.whole {α : Type} (c : Converted α) : Bool := !c.rangeError && !c.nothing && c.rest = []

/-- `tolower`. -/
def lowerByte (b : UInt8) : UInt8 := if 65 ≤ b ∧ b ≤ 90 then b + 32 else b

/-- `strcasecmp(a, b) == 0`. -/
def sameIgnoringCase (a b : List UInt8) : Bool := a.map lowerByte = b.map lowerByte

/-! ### The texts that are taken whole -/

/-- Blanks, at most one sign, and at least one digit. -/
structure SpellsNumber (text : List UInt8) (negative : Bool) (magnitude : ℕ) : Prop where
  read : ∃ blanks sign digits, text = blanks ++ (sign ++ digits) ∧
    (∀ b ∈ blanks, isBlankByte b = true) ∧
    (negative = true ∧ sign = [45] ∨ negative = false ∧ (sign = [] ∨ sign = [43])) ∧
    digits ≠ [] ∧ (∀ b ∈ digits, isDigitByte b = true) ∧ byteDigitsValue digits = magnitude

theorem not_blank_of_digit {b : UInt8} (h : isDigitByte b = true) : isBlankByte b = false := by
  simp only [isDigitByte, isDigit, decide_eq_true_eq] at h
  simp only [isBlankByte, decide_eq_false_iff_not, UInt8.le_iff_toNat_le, ← UInt8.toNat_inj,
    UInt8.reduceToNat]
  omega

theorem takeSign_digit {b : UInt8} (h : isDigitByte b = true) (rest : List UInt8) :
    takeSign (b :: rest) = (false, b :: rest) := by
  simp only [isDigitByte, isDigit, decide_eq_true_eq] at h
  have h45 : b ≠ 45 := by
    rintro rfl
    exact absurd h (by decide)
  have h43 : b ≠ 43 := by
    rintro rfl
    exact absurd h (by decide)
  rw [takeSign, if_neg h45, if_neg h43]

/-- A text of this form is read to its end. -/
theorem readNumeral_of_parts {blanks sign digits : List UInt8} {negative : Bool}
    (hblanks : ∀ b ∈ blanks, isBlankByte b = true)
    (hsign : negative = true ∧ sign = [45] ∨ negative = false ∧ (sign = [] ∨ sign = [43]))
    (hne : digits ≠ []) (hdigits : ∀ b ∈ digits, isDigitByte b = true) :
    readNumeral (blanks ++ (sign ++ digits)) = ⟨negative, digits, []⟩ := by
  obtain ⟨d, ds, rfl⟩ := List.exists_cons_of_ne_nil hne
  have hd := hdigits d List.mem_cons_self
  have htake : (d :: ds).takeWhile isDigitByte = d :: ds := List.takeWhile_eq_self_iff.mpr hdigits
  have hdrop : (d :: ds).dropWhile isDigitByte = [] := List.dropWhile_eq_nil_iff.mpr hdigits
  have hfront : (blanks ++ (sign ++ d :: ds)).dropWhile isBlankByte = sign ++ d :: ds := by
    rw [List.dropWhile_append_of_pos hblanks]
    rcases hsign with ⟨-, rfl⟩ | ⟨-, rfl | rfl⟩
    · rfl
    · simp [not_blank_of_digit hd]
    · rfl
  have hsigned : takeSign (sign ++ d :: ds) = (negative, d :: ds) := by
    rcases hsign with ⟨rfl, rfl⟩ | ⟨rfl, rfl | rfl⟩
    · rfl
    · exact takeSign_digit hd ds
    · rfl
  rw [readNumeral, hfront, hsigned, htake, hdrop]

theorem takeSign_parts (text : List UInt8) : ∃ sign, text = sign ++ (takeSign text).2 ∧
    ((takeSign text).1 = true ∧ sign = [45] ∨
      (takeSign text).1 = false ∧ (sign = [] ∨ sign = [43])) := by
  cases text with
  | nil => exact ⟨[], rfl, .inr ⟨rfl, .inl rfl⟩⟩
  | cons b rest =>
    rw [takeSign]
    split_ifs with h45 h43
    · exact ⟨[45], by rw [h45]; rfl, .inl ⟨rfl, rfl⟩⟩
    · exact ⟨[43], by rw [h43]; rfl, .inr ⟨rfl, .inr rfl⟩⟩
    · exact ⟨[], rfl, .inr ⟨rfl, .inl rfl⟩⟩

/-- A text is of this form exactly when a conversion finds digits and leaves nothing. -/
theorem spellsNumber_iff {text : List UInt8} {negative : Bool} {magnitude : ℕ} :
    SpellsNumber text negative magnitude ↔
      (readNumeral text).digits ≠ [] ∧ (readNumeral text).rest = [] ∧
      (readNumeral text).negative = negative ∧ (readNumeral text).magnitude = magnitude := by
  constructor
  · rintro ⟨blanks, sign, digits, rfl, hblanks, hsign, hne, hdigits, rfl⟩
    rw [readNumeral_of_parts hblanks hsign hne hdigits]
    exact ⟨hne, rfl, rfl, rfl⟩
  · rintro ⟨hne, hrest, rfl, rfl⟩
    obtain ⟨sign, hsplit, hsign⟩ := takeSign_parts (text.dropWhile isBlankByte)
    refine ⟨text.takeWhile isBlankByte, sign, (readNumeral text).digits, ?_,
      fun b hb => List.mem_takeWhile_imp hb, hsign, hne, fun b hb => List.mem_takeWhile_imp hb, rfl⟩
    have hdigits : (takeSign (text.dropWhile isBlankByte)).2 = (readNumeral text).digits := by
      conv_lhs => rw [← List.takeWhile_append_dropWhile (p := isDigitByte)
        (l := (takeSign (text.dropWhile isBlankByte)).2)]
      have hnone : (takeSign (text.dropWhile isBlankByte)).2.dropWhile isDigitByte = [] := hrest
      rw [hnone, List.append_nil]
      rfl
    rw [← hdigits, ← hsplit, List.takeWhile_append_dropWhile]

theorem SpellsNumber.unique {text : List UInt8} {negative negative' : Bool} {m m' : ℕ}
    (h : SpellsNumber text negative m) (h' : SpellsNumber text negative' m') :
    negative = negative' ∧ m = m' := by
  obtain ⟨-, -, hn, hm⟩ := spellsNumber_iff.mp h
  obtain ⟨-, -, hn', hm'⟩ := spellsNumber_iff.mp h'
  exact ⟨hn.symm.trans hn', hm.symm.trans hm'⟩

/-- What `strtoul` makes of a text that it takes whole. -/
def unsignedValue (negative : Bool) (magnitude : ℕ) : ℕ :=
  if negative then (2 ^ 64 - magnitude) % 2 ^ 64 else magnitude

theorem toNat_unsigned {negative : Bool} {magnitude : ℕ} (h : magnitude < 2 ^ 64) :
    (if negative then -UInt64.ofNat magnitude else UInt64.ofNat magnitude).toNat =
      unsignedValue negative magnitude := by
  cases negative with
  | false => simpa [unsignedValue] using h
  | true =>
    rw [if_pos rfl, UInt64.toNat_neg, UInt64.toNat_ofNat', UInt64.size, Nat.mod_eq_of_lt h]
    rfl

theorem strtoul_whole_iff {text : List UInt8} {n : ℕ} :
    (strtoul text).whole = true ∧ (strtoul text).value.toNat = n ↔
      ∃ negative magnitude, SpellsNumber text negative magnitude ∧ magnitude < 2 ^ 64 ∧
        unsignedValue negative magnitude = n := by
  by_cases hne : (readNumeral text).digits = []
  · have hnone : (strtoul text).whole = false := by
      rw [strtoul]
      simp only [hne, if_true]
      rfl
    rw [hnone]
    constructor
    · rintro ⟨h, -⟩
      cases h
    · rintro ⟨negative, magnitude, h, -, -⟩
      exact absurd hne (spellsNumber_iff.mp h).1
  by_cases hfits : (readNumeral text).magnitude < 2 ^ 64
  · have hvalue : strtoul text = ⟨if (readNumeral text).negative then
        -UInt64.ofNat (readNumeral text).magnitude else UInt64.ofNat (readNumeral text).magnitude,
        false, false, (readNumeral text).rest⟩ := by
      rw [strtoul, if_neg hne, if_pos hfits]
    rw [hvalue, toNat_unsigned hfits]
    simp only [Converted.whole, Bool.not_false, Bool.and_true, Bool.true_and, decide_eq_true_eq]
    constructor
    · rintro ⟨hrest, rfl⟩
      exact ⟨_, _, spellsNumber_iff.mpr ⟨hne, hrest, rfl, rfl⟩, hfits, rfl⟩
    · rintro ⟨negative, magnitude, h, -, rfl⟩
      obtain ⟨-, hrest, rfl, rfl⟩ := spellsNumber_iff.mp h
      exact ⟨hrest, rfl⟩
  · have hnone : (strtoul text).whole = false := by
      rw [strtoul, if_neg hne, if_neg hfits]
      rfl
    rw [hnone]
    constructor
    · rintro ⟨h, -⟩
      cases h
    · rintro ⟨negative, magnitude, h, hlt, -⟩
      obtain ⟨-, -, -, rfl⟩ := spellsNumber_iff.mp h
      exact absurd hlt hfits

/-- `strtol` takes a text whole exactly when the number it denotes fits. -/
theorem strtol_whole_iff {text : List UInt8} {z : ℤ} :
    (strtol text).whole = true ∧ (strtol text).value = z ↔
      ∃ negative magnitude, SpellsNumber text negative magnitude ∧
        z = (if negative then -(magnitude : ℤ) else magnitude) ∧ -2 ^ 63 ≤ z ∧ z < 2 ^ 63 := by
  generalize hn : readNumeral text = n
  generalize hv : (if n.negative then -(n.magnitude : ℤ) else n.magnitude) = v
  have hdenotes : (∃ negative magnitude, SpellsNumber text negative magnitude ∧
      z = (if negative then -(magnitude : ℤ) else magnitude) ∧ -2 ^ 63 ≤ z ∧ z < 2 ^ 63) ↔
      n.digits ≠ [] ∧ n.rest = [] ∧ z = v ∧ -2 ^ 63 ≤ z ∧ z < 2 ^ 63 := by
    constructor
    · rintro ⟨negative, magnitude, h, hz, hrange⟩
      obtain ⟨hne, hrest, hneg, hmag⟩ := spellsNumber_iff.mp h
      rw [hn] at hne hrest hneg hmag
      exact ⟨hne, hrest, by rw [hz, ← hv, hneg, hmag], hrange⟩
    · rintro ⟨hne, hrest, hz, hrange⟩
      exact ⟨n.negative, n.magnitude, spellsNumber_iff.mpr ⟨by rw [hn]; exact hne, by rw [hn]; exact hrest,
        by rw [hn], by rw [hn]⟩, by rw [hz, hv], hrange⟩
  rw [hdenotes, strtol, hn, hv]
  by_cases hne : n.digits = []
  · simp [hne, Converted.whole]
  rw [if_neg hne]
  by_cases hlow : v < -2 ^ 63
  · rw [if_pos hlow]
    constructor
    · rintro ⟨h, -⟩
      cases h
    · rintro ⟨-, -, rfl, hge, -⟩
      exact absurd hlow (not_lt.mpr hge)
  rw [if_neg hlow]
  by_cases hhigh : 2 ^ 63 ≤ v
  · rw [if_pos hhigh]
    constructor
    · rintro ⟨h, -⟩
      cases h
    · rintro ⟨-, -, rfl, -, hlt⟩
      exact absurd hhigh (not_le.mpr hlt)
  rw [if_neg hhigh]
  simp only [Converted.whole, Bool.not_false, Bool.true_and, decide_eq_true_eq]
  constructor
  · rintro ⟨hrest, rfl⟩
    exact ⟨hne, hrest, rfl, not_lt.mp hlow, not_le.mp hhigh⟩
  · rintro ⟨-, hrest, rfl, -, -⟩
    exact ⟨hrest, rfl⟩

end TcdOran.Lib
