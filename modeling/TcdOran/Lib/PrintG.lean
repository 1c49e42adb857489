import Mathlib.Data.List.DropRight
import Mathlib.Tactic
import TcdOran.Lib.Binary64
import TcdOran.Lib.Number

/-! `printf("%.17g")` for binary64 values, and reading its text back. Seventeen significant
digits determine the value: the nearest binary64 of the printed number is the printed one. -/
namespace TcdOran.Lib

/-- Seventeen significant digits of a positive rational, as an integer, and the decimal
exponent of the first of them. -/
def significant17 (a : ℚ) : ℕ × ℤ :=
  let x := Int.log 10 a
  let d := (roundHalfEven (a / 10 ^ (x - 16))).toNat
  if d = 10 ^ 17 then (10 ^ 16, x + 1) else (d, x)

def stripZeros (ds : List ℕ) : List ℕ := ds.rdropWhile (· == 48)

/-- The exponent has at least two digits. -/
def exponentDigits (n : ℕ) : List ℕ := if n < 10 then 48 :: decimalUnits n else decimalUnits n

/-- The `%.17g` layout of the digits `d` whose first has weight `10 ^ x`. -/
def layoutG17 (negative : Bool) (d : ℕ) (x : ℤ) : NumberLiteral :=
  let ds := decimalUnits d
  if 0 ≤ x ∧ x < 17 then
    ⟨negative, ds.take (x.toNat + 1), stripZeros (ds.drop (x.toNat + 1)), none⟩
  else if -4 ≤ x ∧ x < 0 then
    ⟨negative, [48], stripZeros (List.replicate (-x - 1).toNat 48 ++ ds), none⟩
  else
    ⟨negative, ds.take 1, stripZeros (ds.drop 1),
      some ⟨101, some (if x < 0 then 45 else 43), exponentDigits x.natAbs⟩⟩

/-- The literal printed for a finite value. -/
def literalG17 (b : Binary64) : NumberLiteral :=
  if b.magnitude = 0 then ⟨b.sign, [48], [], none⟩
  else layoutG17 b.sign (significant17 b.magnitude).1 (significant17 b.magnitude).2

/-- `%.17g` in the C locale. -/
def printG17 (b : Binary64) : List UInt8 :=
  if b.isFinite then (literalG17 b).text.map UInt8.ofNat
  else (if b.sign then bytes "-" else []) ++
    (if b.fraction = 0#52 then bytes "inf" else bytes "nan")

/-! ### The digits -/

theorem significant17_bounds {a : ℚ} (ha : 0 < a) :
    10 ^ 16 ≤ (significant17 a).1 ∧ (significant17 a).1 < 10 ^ 17 := by
  have hlo := Int.zpow_log_le_self (b := 10) (by norm_num) ha
  have hhi := Int.lt_zpow_succ_log_self (b := 10) (by norm_num) a
  push_cast at hlo hhi
  set x := Int.log 10 a
  have hp : (0 : ℚ) < 10 ^ (x - 16) := by positivity
  have hx : (10 : ℚ) ^ x = 10 ^ (16 : ℤ) * 10 ^ (x - 16) := by
    rw [← zpow_add₀ (by norm_num)]
    congr 1
    ring
  have hx' : (10 : ℚ) ^ (x + 1) = 10 ^ (17 : ℤ) * 10 ^ (x - 16) := by
    rw [← zpow_add₀ (by norm_num)]
    congr 1
    ring
  have hd16 : (10 : ℤ) ^ 16 ≤ roundHalfEven (a / 10 ^ (x - 16)) := by
    apply le_roundHalfEven
    rw [le_div_iff₀ hp]
    push_cast
    rw [hx] at hlo
    exact_mod_cast hlo
  have hd17 : roundHalfEven (a / 10 ^ (x - 16)) ≤ (10 : ℤ) ^ 17 := by
    apply roundHalfEven_le
    rw [div_le_iff₀ hp]
    push_cast
    rw [hx'] at hhi
    exact_mod_cast hhi.le
  set d := roundHalfEven (a / 10 ^ (x - 16))
  have hsig : significant17 a =
      if d.toNat = 10 ^ 17 then (10 ^ 16, x + 1) else (d.toNat, x) := rfl
  rw [hsig]
  split <;> simp only <;> omega

theorem significant17_close {a : ℚ} (ha : 0 < a) :
    |((significant17 a).1 : ℚ) * 10 ^ ((significant17 a).2 - 16) - a| ≤ a / (2 * 10 ^ 16) := by
  have hlo := Int.zpow_log_le_self (b := 10) (by norm_num) ha
  push_cast at hlo
  set x := Int.log 10 a
  have hp : (0 : ℚ) < 10 ^ (x - 16) := by positivity
  have hx : (10 : ℚ) ^ x = 10 ^ (16 : ℤ) * 10 ^ (x - 16) := by
    rw [← zpow_add₀ (by norm_num)]
    congr 1
    ring
  set d := roundHalfEven (a / 10 ^ (x - 16)) with hd
  have hd0 : 0 ≤ d := le_roundHalfEven (by positivity)
  have hround := abs_roundHalfEven_sub_le (a / 10 ^ (x - 16))
  have hclose : |(d.toNat : ℚ) * 10 ^ (x - 16) - a| ≤ a / (2 * 10 ^ 16) := by
    have hcast : ((d.toNat : ℕ) : ℚ) = (d : ℚ) := by
      exact_mod_cast Int.toNat_of_nonneg hd0
    have heq : (d.toNat : ℚ) * 10 ^ (x - 16) - a =
        ((d : ℚ) - a / 10 ^ (x - 16)) * 10 ^ (x - 16) := by
      rw [hcast]
      field_simp
    rw [heq, abs_mul, abs_of_pos hp]
    rw [← hd] at hround
    have h16 : (10 : ℚ) ^ (16 : ℤ) = 10 ^ 16 := by norm_num
    rw [hx, h16] at hlo
    calc |(d : ℚ) - a / 10 ^ (x - 16)| * 10 ^ (x - 16) ≤ 1 / 2 * 10 ^ (x - 16) := by gcongr
      _ ≤ a / (2 * 10 ^ 16) := by
        rw [le_div_iff₀ (by norm_num)]
        linarith
  have hsig : significant17 a =
      if d.toNat = 10 ^ 17 then (10 ^ 16, x + 1) else (d.toNat, x) := rfl
  rw [hsig]
  split
  · next h17 =>
    have hsame : ((10 ^ 16 : ℕ) : ℚ) * 10 ^ (x + 1 - 16) = (d.toNat : ℚ) * 10 ^ (x - 16) := by
      rw [h17, show x + 1 - 16 = (x - 16) + 1 by ring, zpow_add₀ (by norm_num)]
      push_cast
      ring
    simp only [hsame]
    exact hclose
  · exact hclose

/-! ### The layout -/

theorem stripZeros_append (fs : List ℕ) : ∃ n, fs = stripZeros fs ++ List.replicate n 48 := by
  refine ⟨(fs.rtakeWhile (· == 48)).length, ?_⟩
  have hrep : fs.rtakeWhile (· == 48) = List.replicate (fs.rtakeWhile (· == 48)).length 48 := by
    apply List.eq_replicate_of_mem
    intro u hu
    simpa using List.mem_rtakeWhile_imp hu
  rw [← hrep]
  exact List.rdropWhile_append_rtakeWhile.symm

theorem mem_of_mem_stripZeros {u : ℕ} {fs : List ℕ} (h : u ∈ stripZeros fs) : u ∈ fs :=
  (List.rdropWhile_prefix (p := (· == 48)) (l := fs)).subset h

/-- Dropping trailing zeros of the fraction does not change the number. -/
theorem digitsValue_stripZeros (is fs : List ℕ) (x : ℤ) :
    (digitsValue (is ++ stripZeros fs) : ℚ) * 10 ^ (x - (stripZeros fs).length) =
      digitsValue (is ++ fs) * 10 ^ (x - fs.length) := by
  obtain ⟨n, hn⟩ := stripZeros_append fs
  have hlen : fs.length = (stripZeros fs).length + n := by
    simpa using congrArg List.length hn
  have hval : digitsValue (is ++ fs) = digitsValue (is ++ stripZeros fs) * 10 ^ n := by
    conv_lhs => rw [hn, ← List.append_assoc, digitsValue_append]
    simp
  rw [hval, hlen]
  push_cast
  rw [mul_assoc, ← zpow_natCast (10 : ℚ) n, ← zpow_add₀ (by norm_num)]
  congr 2
  ring

theorem digitsValue_exponentDigits (n : ℕ) : digitsValue (exponentDigits n) = n := by
  unfold exponentDigits
  split
  · rw [← List.singleton_append, digitsValue_append, digitsValue_decimalUnits]
    simp [digitsValue]
  · simp

theorem exponentDigits_ne_nil (n : ℕ) : exponentDigits n ≠ [] := by
  unfold exponentDigits
  split
  · simp
  · exact decimalUnits_ne_nil n

theorem isDigit_of_mem_exponentDigits {n u : ℕ} (h : u ∈ exponentDigits n) : isDigit u := by
  unfold exponentDigits at h
  split at h
  · rcases List.mem_cons.mp h with rfl | h
    · rfl
    · exact isDigit_of_mem_decimalUnits h
  · exact isDigit_of_mem_decimalUnits h

section
variable {negative : Bool} {d : ℕ} {x : ℤ} (hlo : 10 ^ 16 ≤ d) (hhi : d < 10 ^ 17)
include hlo hhi

theorem layoutG17_magnitude :
    (layoutG17 negative d x).magnitude = (d : ℚ) * 10 ^ (x - 16) := by
  have hlen : (decimalUnits d).length = 17 := length_decimalUnits hlo hhi
  unfold layoutG17
  split
  · next hx =>
    have hdrop : ((decimalUnits d).drop (x.toNat + 1)).length = 16 - x.toNat := by
      rw [List.length_drop, hlen]
      omega
    have hcast : (0 : ℤ) - (16 - x.toNat : ℕ) = x - 16 := by omega
    simp only [NumberLiteral.magnitude, Option.map_none, Option.getD_none,
      digitsValue_stripZeros, List.take_append_drop, hdrop, digitsValue_decimalUnits, hcast]
  split
  · next hx =>
    have hdrop : (List.replicate (-x - 1).toNat 48 ++ decimalUnits d).length =
        (-x - 1).toNat + 17 := by simp [hlen]
    have hval : digitsValue ([48] ++ (List.replicate (-x - 1).toNat 48 ++ decimalUnits d)) = d := by
      rw [← List.append_assoc, digitsValue_append, ← List.replicate_one, List.replicate_append_replicate]
      simp
    have hcast : (0 : ℤ) - ((-x - 1).toNat + 17 : ℕ) = x - 16 := by omega
    simp only [NumberLiteral.magnitude, Option.map_none, Option.getD_none,
      digitsValue_stripZeros, hdrop, hval, hcast]
  · have hdrop : ((decimalUnits d).drop 1).length = 16 := by simp [hlen]
    have hexp : ExponentPart.value ⟨101, some (if x < 0 then 45 else 43),
        exponentDigits x.natAbs⟩ = x := by
      rcases lt_or_ge x 0 with hneg | hneg
      · simp [ExponentPart.value, digitsValue_exponentDigits, hneg, abs_of_neg hneg]
      · simp [ExponentPart.value, digitsValue_exponentDigits, not_lt.mpr hneg, abs_of_nonneg hneg]
    simp only [NumberLiteral.magnitude, Option.map_some, Option.getD_some,
      digitsValue_stripZeros, List.take_append_drop, hdrop, digitsValue_decimalUnits, hexp]
    norm_num

theorem layoutG17_valid : (layoutG17 negative d x).Valid := by
  have hlen : (decimalUnits d).length = 17 := length_decimalUnits hlo hhi
  obtain ⟨u, us, hus⟩ : ∃ u us, decimalUnits d = u :: us :=
    List.exists_cons_of_length_eq_add_one hlen
  have hu : 49 ≤ u := by
    rcases decimalUnits_head hus with ⟨-, -, hd⟩ | ⟨h, -⟩
    · omega
    · exact h
  have hdigit : ∀ w ∈ decimalUnits d, isDigit w := fun _ => isDigit_of_mem_decimalUnits
  have htake (k : ℕ) : (decimalUnits d).take (k + 1) = u :: us.take k := by simp [hus]
  unfold layoutG17
  split
  · exact
    { integer_ne_nil := by simp [htake]
      integer := fun w hw => hdigit w (List.mem_of_mem_take hw)
      no_leading_zero := by
        intro vs hvs
        simp only [htake, List.cons.injEq] at hvs
        omega
      fraction := fun w hw => hdigit w (List.mem_of_mem_drop (mem_of_mem_stripZeros hw))
      exponent := by simp }
  split
  · exact
    { integer_ne_nil := by simp
      integer := by simp [isDigit]
      no_leading_zero := by simp
      fraction := by
        intro w hw
        rcases List.mem_append.mp (mem_of_mem_stripZeros hw) with hw | hw
        · rw [List.eq_of_mem_replicate hw]
          rfl
        · exact hdigit w hw
      exponent := by simp }
  · exact
    { integer_ne_nil := by simp [htake]
      integer := fun w hw => hdigit w (List.mem_of_mem_take hw)
      no_leading_zero := by
        intro vs hvs
        have := (List.cons.inj ((htake 0).symm.trans hvs)).1
        omega
      fraction := fun w hw => hdigit w (List.mem_of_mem_drop (mem_of_mem_stripZeros hw))
      exponent := by
        intro y hy
        obtain rfl := Option.mem_some.mp hy
        exact
        { marker := .inl rfl
          sign := by
            intro s hs
            split at hs <;> simp_all
          digits_ne_nil := exponentDigits_ne_nil _
          digits := fun w => isDigit_of_mem_exponentDigits } }

end

theorem literalG17_valid (b : Binary64) : (literalG17 b).Valid := by
  unfold literalG17
  split
  · exact ⟨by simp, by simp [isDigit], by simp, by simp, by simp⟩
  · next h =>
    have hpos : 0 < b.magnitude := lt_of_le_of_ne b.magnitude_nonneg (Ne.symm h)
    obtain ⟨hlo, hhi⟩ := significant17_bounds hpos
    exact layoutG17_valid hlo hhi

/-! ### The length -/

theorem length_stripZeros_le (fs : List ℕ) : (stripZeros fs).length ≤ fs.length :=
  (List.rdropWhile_prefix (p := (· == 48)) (l := fs)).length_le

theorem length_fractionText_le (fs : List ℕ) :
    (NumberLiteral.fractionText fs).length ≤ fs.length + 1 := by
  unfold NumberLiteral.fractionText
  split <;> simp

theorem length_exponentDigits_le {n : ℕ} (h : n < 10 ^ 3) : (exponentDigits n).length ≤ 3 := by
  unfold exponentDigits
  split
  · next h1 =>
    have := length_decimalUnits_le (k := 1) (by norm_num) (by omega : n < 10 ^ 1)
    simp only [List.length_cons]
    omega
  · exact length_decimalUnits_le (by norm_num) h

theorem length_layoutG17_le {negative : Bool} {d : ℕ} {x : ℤ} (hhi : d < 10 ^ 17)
    (hx : x.natAbs < 10 ^ 3) : (layoutG17 negative d x).text.length ≤ 24 := by
  have hlen : (decimalUnits d).length ≤ 17 := length_decimalUnits_le (by norm_num) hhi
  have hneg : (if negative then [45] else [] : List ℕ).length ≤ 1 := by split <;> simp
  unfold layoutG17
  simp only
  split
  · have hstrip := length_stripZeros_le ((decimalUnits d).drop (x.toNat + 1))
    have hfrac := length_fractionText_le (stripZeros ((decimalUnits d).drop (x.toNat + 1)))
    simp only [NumberLiteral.text, List.length_append, List.length_take, List.length_drop,
      Option.map_none, Option.getD_none, List.length_nil] at *
    omega
  split
  · have hstrip := length_stripZeros_le (List.replicate (-x - 1).toNat 48 ++ decimalUnits d)
    have hfrac :=
      length_fractionText_le (stripZeros (List.replicate (-x - 1).toNat 48 ++ decimalUnits d))
    simp only [NumberLiteral.text, List.length_append, List.length_replicate,
      Option.map_none, Option.getD_none, List.length_nil, List.length_cons] at *
    omega
  · have hstrip := length_stripZeros_le ((decimalUnits d).drop 1)
    have hfrac := length_fractionText_le (stripZeros ((decimalUnits d).drop 1))
    have hexp := length_exponentDigits_le hx
    simp only [NumberLiteral.text, List.length_append, List.length_take, List.length_drop,
      Option.map_some, Option.getD_some, ExponentPart.text, List.length_cons,
      Option.toList_some, List.length_nil] at *
    omega

theorem significant17_exponent {b : Binary64} (hpos : 0 < b.magnitude) :
    (significant17 b.magnitude).2.natAbs < 10 ^ 3 := by
  have hsig : (1 : ℚ) ≤ b.significand := by
    by_contra h
    have h0 : b.significand = 0 := by
      rw [not_le] at h
      have : b.significand < 1 := by exact_mod_cast h
      omega
    simp [Binary64.magnitude, h0] at hpos
  have hexpo := b.exponent.isLt
  have hscale : b.scale ≤ 972 := by
    unfold Binary64.scale
    omega
  have h8 (k : ℕ) : (2 : ℚ) ^ (3 * (k : ℤ)) ≤ 10 ^ (k : ℤ) := by
    rw [zpow_mul, zpow_natCast, zpow_natCast]
    exact pow_le_pow_left₀ (by norm_num) (by norm_num) k
  have h8' (k : ℕ) : (10 : ℚ) ^ (-(k : ℤ)) ≤ 2 ^ (-(3 * (k : ℤ))) := by
    rw [zpow_neg, zpow_neg]
    exact inv_anti₀ (by positivity) (h8 k)
  have hmin := b.neg_1074_le_scale
  have hlo : (10 : ℚ) ^ (-((358 : ℕ) : ℤ)) ≤ b.magnitude :=
    calc (10 : ℚ) ^ (-((358 : ℕ) : ℤ)) ≤ 2 ^ (-(3 * ((358 : ℕ) : ℤ))) := h8' 358
      _ ≤ 2 ^ b.scale := zpow_le_zpow_right₀ (by norm_num) (by omega)
      _ ≤ b.magnitude := le_mul_of_one_le_left (by positivity) hsig
  have hhi : b.magnitude < (10 : ℚ) ^ ((342 : ℕ) : ℤ) :=
    calc b.magnitude < 2 ^ (53 : ℤ) * 2 ^ b.scale := by
          unfold Binary64.magnitude
          gcongr
          exact_mod_cast b.significand_lt
      _ ≤ 2 ^ (3 * ((342 : ℕ) : ℤ)) := by
          rw [← zpow_add₀ (by norm_num)]
          exact zpow_le_zpow_right₀ (by norm_num) (by omega)
      _ ≤ 10 ^ ((342 : ℕ) : ℤ) := h8 342
  have h1 := (Int.zpow_le_iff_le_log (b := 10) (by norm_num) hpos).mp hlo
  have h2 := (Int.lt_zpow_iff_log_lt (b := 10) (by norm_num) hpos).mp hhi
  unfold significant17
  simp only
  split <;> simp only <;> omega

theorem length_literalG17_le (b : Binary64) : (literalG17 b).text.length ≤ 24 := by
  unfold literalG17
  split
  · cases b.sign <;> simp [NumberLiteral.text, NumberLiteral.fractionText]
  · next h =>
    have hpos : 0 < b.magnitude := lt_of_le_of_ne b.magnitude_nonneg (Ne.symm h)
    exact length_layoutG17_le (significant17_bounds hpos).2 (significant17_exponent hpos)

theorem length_printG17_le (b : Binary64) : (printG17 b).length ≤ 24 := by
  unfold printG17
  split
  · simpa using length_literalG17_le b
  · have hminus : (if b.sign then bytes "-" else []).length ≤ 1 := by split <;> decide
    have hname : (if b.fraction = 0#52 then bytes "inf" else bytes "nan").length = 3 := by
      split <;> decide
    rw [List.length_append]
    omega

/-! ### Reading the text back -/

theorem literalG17_negative (b : Binary64) : (literalG17 b).negative = b.sign := by
  unfold literalG17 layoutG17
  split
  · rfl
  · simp only
    split
    · rfl
    · split <;> rfl

theorem literalG17_close {b : Binary64} (hpos : 0 < b.magnitude) :
    |(literalG17 b).magnitude - b.magnitude| * 2 ^ 54 < b.magnitude := by
  obtain ⟨hlo, hhi⟩ := significant17_bounds hpos
  have hclose := significant17_close hpos
  rw [literalG17, if_neg hpos.ne', layoutG17_magnitude hlo hhi]
  have hlt : b.magnitude / (2 * 10 ^ 16) * 2 ^ 54 < b.magnitude := by
    rw [div_mul_eq_mul_div, div_lt_iff₀ (by norm_num)]
    linarith
  exact lt_of_le_of_lt (by gcongr) hlt

/-- Seventeen digits are enough: the printed number rounds to the printed value. -/
theorem nearestBinary64_literalG17 {b : Binary64} (hfin : b.isFinite) :
    nearestBinary64 (literalG17 b).value = some b.toRat := by
  rcases b.magnitude_nonneg.eq_or_lt with h0 | hpos
  · have hval : (literalG17 b).value = 0 := by
      simp [literalG17, ← h0, NumberLiteral.value, NumberLiteral.magnitude, digitsValue]
    have hrat : b.toRat = 0 := by simp [Binary64.toRat, ← h0]
    simp [hval, hrat, nearestBinary64]
  · have hnear := Binary64.nearestBinary64_of_close hfin hpos (literalG17_close hpos)
    simp only [NumberLiteral.value, literalG17_negative, Binary64.toRat]
    split
    · rw [nearestBinary64_neg, hnear]
      rfl
    · exact hnear

@[simp] theorem toNat_printG17 {b : Binary64} (hfin : b.isFinite) :
    (printG17 b).map UInt8.toNat = (literalG17 b).text := by
  rw [printG17, if_pos hfin]
  exact toNat_ofNat_units fun _ => NumberLiteral.lt_256_of_mem_text (literalG17_valid b)

end TcdOran.Lib
