import TcdOran.Lib.PythonNumber

/-! Arithmetic of Python's `decimal` on finite numbers: each operation is exact and then rounded to
the precision of the context. -/
namespace TcdOran.Lib.Python

/-- The precision of the default context. -/
def defaultPrecision : ℕ := 28

def dsub (precision : ℕ) (a b : ℚ) : ℚ := roundSignificant (precision - 1) (a - b)

def dadd (precision : ℕ) (a b : ℚ) : ℚ := roundSignificant (precision - 1) (a + b)

def dmul (precision : ℕ) (a b : ℚ) : ℚ := roundSignificant (precision - 1) (a * b)

def ddiv (precision : ℕ) (a b : ℚ) : ℚ := roundSignificant (precision - 1) (a / b)

/-- `sum(values)`. -/
def dsum (precision : ℕ) (values : List ℚ) : ℚ := values.foldl (dadd precision) 0

/-- `value.sqrt()` of a number that is not negative: the nearest decimal, ties to even. -/
def dsqrt (precision : ℕ) (q : ℚ) : ℚ :=
  let unit : ℚ := 10 ^ (Int.log 10 q / 2 - (precision - 1 : ℕ))
  let square := q / unit ^ 2
  let root := Nat.sqrt ⌊square⌋₊
  let half := ((root : ℚ) + 1 / 2) ^ 2
  (if square < half ∨ square = half ∧ root % 2 = 0 then root else root + 1 : ℕ) * unit

/-- `to_integral_value(rounding=ROUND_HALF_UP)` of a number that is not negative. -/
def integralHalfUp (q : ℚ) : ℤ := ⌊q + 1 / 2⌋

/-- `str` of the decimal that is made of a coefficient and a number of places. -/
def decimalStr (coefficient places : ℕ) : List ℕ :=
  let digits := decimalUnits coefficient
  if places = 0 then digits
  else if places < digits.length then
    digits.take (digits.length - places) ++ 46 :: digits.drop (digits.length - places)
  else if places ≤ digits.length + 5 then
    [48, 46] ++ List.replicate (places - digits.length) 48 ++ digits
  else
    digits.take 1 ++ (if digits.length = 1 then [] else 46 :: digits.drop 1) ++
      chars "E-" ++ decimalUnits (places + 1 - digits.length)

@[simp] theorem roundSignificant_zero (k : ℕ) : roundSignificant k 0 = 0 := by
  simp [roundSignificant, roundHalfEven]

@[simp] theorem dsub_self (precision : ℕ) (a : ℚ) : dsub precision a a = 0 := by
  rw [dsub, sub_self, roundSignificant_zero]

example : dsqrt 5 2 = 14142 / 10000 ∧ dsqrt 5 144 = 12 := by decide +kernel

example : decimalStr 150 2 = chars "1.50" ∧ decimalStr 15 7 = chars "0.0000015" ∧
    decimalStr 15 8 = chars "1.5E-7" := by decide

end TcdOran.Lib.Python
