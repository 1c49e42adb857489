import TcdOran.Lib.Binary64
import TcdOran.Lib.Python

/-! `int(value)`, `Decimal(str(value))` and `value == n` of Python on decoded JSON. -/
namespace TcdOran.Lib.Python

/-- The zeros of the decimal digits of Unicode; each block has ten digits in order. -/
def digitZeros : List ℕ :=
  [0x30, 0x660, 0x6F0, 0x7C0, 0x966, 0x9E6, 0xA66, 0xAE6, 0xB66, 0xBE6, 0xC66, 0xCE6, 0xD66,
    0xDE6, 0xE50, 0xED0, 0xF20, 0x1040, 0x1090, 0x17E0, 0x1810, 0x1946, 0x19D0, 0x1A80, 0x1A90,
    0x1B50, 0x1BB0, 0x1C40, 0x1C50, 0xA620, 0xA8D0, 0xA900, 0xA9D0, 0xA9F0, 0xAA50, 0xABF0,
    0xFF10, 0x104A0, 0x10D30, 0x11066, 0x110F0, 0x11136, 0x111D0, 0x112F0, 0x11450, 0x114D0,
    0x11650, 0x116C0, 0x11730, 0x118E0, 0x11950, 0x11C50, 0x11D50, 0x11DA0, 0x16A60, 0x16AC0,
    0x16B50, 0x1D7CE, 0x1D7D8, 0x1D7E2, 0x1D7EC, 0x1D7F6, 0x1E140, 0x1E2F0, 0x1E950, 0x1FBF0]

def digitOf (u : ℕ) : Option ℕ :=
  (digitZeros.find? fun first => first ≤ u ∧ u < first + 10).map (u - ·)

/-- The digits at the head of a text and what follows them. -/
def spanDigits : List ℕ → List ℕ × List ℕ
  | [] => ([], [])
  | u :: rest =>
    match digitOf u with
    | some d => (d :: (spanDigits rest).1, (spanDigits rest).2)
    | none => ([], u :: rest)

def numberOf (digits : List ℕ) : ℕ := digits.foldl (fun n d => 10 * n + d) 0

/-- A sign and what follows it. -/
def spanSign : List ℕ → Bool × List ℕ
  | [] => (false, [])
  | u :: rest => if u = 45 then (true, rest) else if u = 43 then (false, rest) else (false, u :: rest)

def signed (negative : Bool) (q : ℚ) : ℚ := if negative then -q else q

/-- Digits between which single underscores may stand. -/
def groupedDigits (text : List ℕ) : Option (List ℕ) :=
  let groups := (text.splitOn 95).map spanDigits
  if groups.all fun (digits, rest) => digits ≠ [] ∧ rest = [] then
    some (groups.flatMap Prod.fst)
  else none

/-- The default of `sys.set_int_max_str_digits`. -/
def maxStrDigits : ℕ := 4300

/-- `int(text)`; `none` stands for `ValueError`. -/
def intOfText (text : List ℕ) : Option ℤ := do
  let (negative, rest) := spanSign (strip text)
  let digits ← groupedDigits rest
  if digits.length ≤ maxStrDigits then
    some (if negative then -(numberOf digits) else numberOf digits)
  else none

/-- The float that `json.loads` makes of a literal with a fraction or an exponent; `none` is an
infinity. -/
def floatOf (literal : NumberLiteral) : Option ℚ := nearestBinary64 literal.value

/-- `int(value)`; `none` stands for an exception. -/
def intOf : Json → Option ℤ
  | .bool b => some (if b then 1 else 0)
  | .num literal =>
      if literal.isInteger then some literal.intValue
      else (floatOf literal).map fun q => if 0 ≤ q then ⌊q⌋ else ⌈q⌉
  | .str units => intOfText units
  | _ => none

/-- `value == n` for an integer of the source. -/
def equalsInt (value : Json) (n : ℤ) : Bool :=
  match value with
  | .bool b => (if b then 1 else 0) = n
  | .num literal =>
      if literal.isInteger then literal.intValue = n else floatOf literal = some (n : ℚ)
  | _ => false

inductive PyDecimal
  | finite (value : ℚ)
  | infinity (negative : Bool)
  | nan
  | signalingNan
  deriving DecidableEq

def lowered (text : List ℕ) : List ℕ := text.map fun u => if 65 ≤ u ∧ u ≤ 90 then u + 32 else u

/-- The special values, without their sign. -/
def specialDecimal (negative : Bool) (text : List ℕ) : Option PyDecimal :=
  if lowered text = chars "inf" ∨ lowered text = chars "infinity" then some (.infinity negative)
  else if (lowered text).take 3 = chars "nan" ∧ (spanDigits (text.drop 3)).2 = [] then some .nan
  else if (lowered text).take 4 = chars "snan" ∧ (spanDigits (text.drop 4)).2 = [] then
    some .signalingNan
  else none

/-- The exponent behind the coefficient; the empty text stands for 0. -/
def decimalExponent : List ℕ → Option ℤ
  | [] => some 0
  | u :: rest =>
    if u = 101 ∨ u = 69 then
      let (negative, rest) := spanSign rest
      let (digits, rest) := spanDigits rest
      if digits ≠ [] ∧ rest = [] then
        some (if negative then -(numberOf digits) else numberOf digits)
      else none
    else none

/-- Exponents beyond those of the C implementation are refused. -/
def finiteDecimal (negative : Bool) (text : List ℕ) : Option PyDecimal := do
  let (integer, rest) := spanDigits text
  let (fraction, rest) := match rest with
    | u :: rest' => if u = 46 then spanDigits rest' else ([], u :: rest')
    | [] => ([], [])
  if integer ++ fraction = [] then none
  else
    let exponent ← decimalExponent rest
    let scale : ℤ := exponent - fraction.length
    if scale + integer.length + fraction.length ≤ 10 ^ 18 ∧ -(2 * 10 ^ 18 - 3) ≤ scale then
      some (.finite (signed negative (numberOf (integer ++ fraction) * 10 ^ scale)))
    else none

/-- `Decimal(text)`; `none` stands for `InvalidOperation`. -/
def decimalOfText (text : List ℕ) : Option PyDecimal :=
  let (negative, rest) := spanSign ((strip text).filter (· ≠ 95))
  (specialDecimal negative rest).or (finiteDecimal negative rest)

/-- `q` rounded to `k + 1` significant digits. -/
def roundSignificant (k : ℕ) (q : ℚ) : ℚ :=
  let unit : ℚ := 10 ^ (Int.log 10 |q| - k)
  roundHalfEven (q / unit) * unit

/-- The decimal that `repr` prints of a float: the first that reads back as the float. -/
def reprDecimal (q : ℚ) : ℚ :=
  (((List.range 17).map (roundSignificant · q)).find? fun r => nearestBinary64 r = some q).getD q

/-- `Decimal(str(value))`. -/
def decimalOf : Json → Option PyDecimal
  | .num literal =>
      if literal.isInteger then some (.finite literal.intValue)
      else match floatOf literal with
        | some q => some (.finite (reprDecimal q))
        | none => some (.infinity literal.negative)
  | .str units => decimalOfText units
  | _ => none

/-- `left != right`; a signaling NaN raises `InvalidOperation`. -/
def decimalDiffers (left right : PyDecimal) : Option Bool :=
  match left, right with
  | .signalingNan, _ | _, .signalingNan => none
  | .nan, _ | _, .nan => some true
  | _, _ => some (left ≠ right)

/-- `text.encode("utf-8")`; `none` stands for `UnicodeEncodeError`. -/
def encode (text : List ℕ) : Option (List UInt8) :=
  if text.all fun u => u < 0xD800 ∨ 0xDFFF < u then some (utf8OfCodePoints text) else none

example : intOfText (chars " +1_000 ") = some 1000 ∧ intOfText (chars "1__0") = none := by decide

example : decimalOfText (chars ".8e3") = some (.finite 800) := by decide +kernel

/-! ### The text of a number is read back -/

theorem digitOf_digit {u : ℕ} (h : isDigit u = true) : digitOf u = some (u - 48) := by
  have hbounds : 48 ≤ u ∧ u < 58 := by
    rw [isDigit, decide_eq_true_eq] at h
    omega
  simp [digitOf, digitZeros, hbounds]

theorem spanDigits_digits {text : List ℕ} (h : ∀ u ∈ text, isDigit u = true) :
    spanDigits text = (text.map (· - 48), []) := by
  induction text with
  | nil => rfl
  | cons u text ih =>
    obtain ⟨hu, hrest⟩ := List.forall_mem_cons.mp h
    simp only [spanDigits, digitOf_digit hu, ih hrest, List.map_cons]

theorem numberOf_append (digits : List ℕ) (d : ℕ) :
    numberOf (digits ++ [d]) = 10 * numberOf digits + d := by
  rw [numberOf, List.foldl_append]
  rfl

theorem numberOf_digits (text : List ℕ) : numberOf (text.map (· - 48)) = digitsValue text := by
  induction text using List.reverseRecOn with
  | nil => rfl
  | append_singleton text u ih =>
    rw [List.map_append, List.map_cons, List.map_nil, numberOf_append, ih, digitsValue, digitsValue,
      List.reverse_append, List.map_append, List.reverse_singleton, List.map_cons, List.map_nil,
      List.singleton_append, Nat.ofDigits_cons]
    omega

theorem strip_digits {text : List ℕ} (h : ∀ u ∈ text, isDigit u = true) : strip text = text := by
  have hspace : ∀ u ∈ text, isSpace u = false := by
    intro u hu
    have hdigit := h u hu
    rw [isDigit, decide_eq_true_eq] at hdigit
    simp only [isSpace, decide_eq_false_iff_not]
    omega
  have hfront : text.dropWhile isSpace = text := by
    cases text with
    | nil => rfl
    | cons u text => rw [List.dropWhile_cons_of_neg (by simp [hspace u List.mem_cons_self])]
  rw [strip, hfront, List.rdropWhile_eq_self_iff]
  intro hne
  simp [hspace _ (List.getLast_mem hne)]

theorem intOfText_digits {text : List ℕ} (hne : text ≠ []) (h : ∀ u ∈ text, isDigit u = true)
    (hlength : text.length ≤ maxStrDigits) : intOfText text = some (digitsValue text : ℤ) := by
  have hsign : spanSign text = (false, text) := by
    cases text with
    | nil => rfl
    | cons u text =>
      have hdigit := h u List.mem_cons_self
      rw [isDigit, decide_eq_true_eq] at hdigit
      rw [spanSign, if_neg (by omega), if_neg (by omega)]
  have hsplit : text.splitOn 95 = [text] := by
    have hunderscore : ∀ name ∈ [text], 95 ∉ name := by
      intro name hname hmem
      rw [List.mem_singleton.mp hname] at hmem
      exact absurd (h 95 hmem) (by decide)
    simpa [List.intercalate] using List.splitOn_intercalate 95 hunderscore (by simp)
  have hgroups : groupedDigits text = some (text.map (· - 48)) := by
    simp [groupedDigits, hsplit, spanDigits_digits h, hne]
  rw [intOfText, strip_digits h, hsign]
  simp [hgroups, hlength, numberOf_digits]

theorem intOfText_decimalUnits {n : ℕ} (h : n < 10 ^ maxStrDigits) :
    intOfText (decimalUnits n) = some (n : ℤ) := by
  rw [intOfText_digits (decimalUnits_ne_nil n) (fun _ => isDigit_of_mem_decimalUnits)
    (length_decimalUnits_le (by decide) h), digitsValue_decimalUnits]

end TcdOran.Lib.Python
