import Mathlib.Tactic
import TcdOran.Lib.Decimal

/-! Number literals: sign, integer digits, fraction digits and exponent, as units of text. -/
namespace TcdOran.Lib

/-- The exponent part keeps its marker (`e` or `E`) and its sign character, if written. -/
structure ExponentPart where
  marker : ℕ
  sign : Option ℕ
  digits : List ℕ
  deriving DecidableEq

/-- An empty `fraction` means that no fraction part is written. -/
structure NumberLiteral where
  negative : Bool
  integer : List ℕ
  fraction : List ℕ
  exponent : Option ExponentPart
  deriving DecidableEq

namespace ExponentPart

def text (x : ExponentPart) : List ℕ := x.marker :: (x.sign.toList ++ x.digits)

def value (x : ExponentPart) : ℤ :=
  if x.sign = some 45 then -digitsValue x.digits else digitsValue x.digits

structure Valid (x : ExponentPart) : Prop where
  marker : x.marker = 101 ∨ x.marker = 69
  sign : ∀ s ∈ x.sign, s = 43 ∨ s = 45
  digits_ne_nil : x.digits ≠ []
  digits : ∀ u ∈ x.digits, isDigit u

end ExponentPart

namespace NumberLiteral

def fractionText (fs : List ℕ) : List ℕ := if fs = [] then [] else 46 :: fs

def text (n : NumberLiteral) : List ℕ :=
  (if n.negative then [45] else []) ++ n.integer ++ fractionText n.fraction ++
    (n.exponent.map ExponentPart.text).getD []

/-- The grammar of JSON numbers. -/
structure Valid (n : NumberLiteral) : Prop where
  integer_ne_nil : n.integer ≠ []
  integer : ∀ u ∈ n.integer, isDigit u
  no_leading_zero : ∀ us, n.integer = 48 :: us → us = []
  fraction : ∀ u ∈ n.fraction, isDigit u
  exponent : ∀ x ∈ n.exponent, x.Valid

def isInteger (n : NumberLiteral) : Bool := n.fraction = [] ∧ n.exponent = none

def magnitude (n : NumberLiteral) : ℚ :=
  digitsValue (n.integer ++ n.fraction) *
    10 ^ ((n.exponent.map ExponentPart.value).getD 0 - n.fraction.length)

def value (n : NumberLiteral) : ℚ := if n.negative then -n.magnitude else n.magnitude

/-- The value of an integer literal. -/
def intValue (n : NumberLiteral) : ℤ :=
  if n.negative then -digitsValue n.integer else digitsValue n.integer

theorem value_eq_intValue {n : NumberLiteral} (h : n.isInteger) : n.value = n.intValue := by
  simp only [isInteger, decide_eq_true_eq] at h
  simp [value, magnitude, intValue, h.1, h.2]

/-- The literal of an integer in decimal notation. -/
def ofInt (z : ℤ) : NumberLiteral :=
  ⟨decide (z < 0), decimalUnits z.natAbs, [], none⟩

theorem ofInt_isInteger (z : ℤ) : (ofInt z).isInteger := by simp [ofInt, isInteger]

@[simp] theorem intValue_ofInt (z : ℤ) : (ofInt z).intValue = z := by
  simp only [ofInt, intValue, digitsValue_decimalUnits, decide_eq_true_eq]
  split <;> omega

theorem ofInt_valid (z : ℤ) : (ofInt z).Valid where
  integer_ne_nil := decimalUnits_ne_nil _
  integer := fun _ => isDigit_of_mem_decimalUnits
  no_leading_zero := by
    intro us h
    rcases decimalUnits_head h with ⟨-, hus, -⟩ | ⟨h49, -⟩
    · exact hus
    · omega
  fraction := by simp [ofInt]
  exponent := by simp [ofInt]

theorem text_ofInt (z : ℤ) : (ofInt z).text = (signedDecimal z).map UInt8.toNat := by
  by_cases hz : z < 0 <;> simp [ofInt, text, fractionText, signedDecimal, hz]

theorem text_ofInt_natCast (n : ℕ) : (ofInt n).text = (decimal n).map UInt8.toNat := by
  rw [text_ofInt, signedDecimal, if_neg (by omega), Int.natAbs_natCast]

/-- The characters of number literals: signs, the point, the exponent markers and digits. -/
def IsNumberUnit (u : ℕ) : Prop :=
  u = 43 ∨ u = 45 ∨ u = 46 ∨ u = 69 ∨ u = 101 ∨ isDigit u = true

theorem isNumberUnit_of_mem_text {n : NumberLiteral} (h : n.Valid) {u : ℕ} (hu : u ∈ n.text) :
    IsNumberUnit u := by
  have hdigit {v : ℕ} (hv : isDigit v = true) : IsNumberUnit v :=
    .inr (.inr (.inr (.inr (.inr hv))))
  simp only [text, List.mem_append] at hu
  rcases hu with ((hu | hu) | hu) | hu
  · split at hu
    · exact .inr (.inl (List.mem_singleton.mp hu))
    · simp at hu
  · exact hdigit (h.integer u hu)
  · unfold fractionText at hu
    split at hu
    · simp at hu
    · rcases List.mem_cons.mp hu with rfl | hu
      · exact .inr (.inr (.inl rfl))
      · exact hdigit (h.fraction u hu)
  · cases hx : n.exponent with
    | none => simp [hx] at hu
    | some x =>
      have hv := h.exponent x (by simp [hx])
      simp only [hx, Option.map_some, Option.getD_some, ExponentPart.text, List.mem_cons,
        List.mem_append, Option.mem_toList] at hu
      rcases hu with rfl | hu | hu
      · rcases hv.marker with h | h <;> simp [IsNumberUnit, h]
      · rcases hv.sign u hu with h | h <;> simp [IsNumberUnit, h]
      · exact hdigit (hv.digits u hu)

theorem lt_256_of_mem_text {n : NumberLiteral} (h : n.Valid) {u : ℕ} (hu : u ∈ n.text) :
    u < 256 := by
  rcases isNumberUnit_of_mem_text h hu with h | h | h | h | h | h
  iterate 5 omega
  · exact lt_256_of_isDigit h

end NumberLiteral
end TcdOran.Lib
