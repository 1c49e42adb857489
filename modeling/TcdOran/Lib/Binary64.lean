import Mathlib.Data.Int.Log
import Mathlib.Data.Rat.Floor
import Mathlib.Tactic

/-! IEEE 754 binary64 values by their bit fields, and rounding of rationals to them. -/
namespace TcdOran.Lib

structure Binary64 where
  sign : Bool
  exponent : BitVec 11
  fraction : BitVec 52
  deriving DecidableEq

/-- Round to an integer, ties to even. -/
def roundHalfEven (x : ℚ) : ℤ :=
  let f := ⌊x⌋
  if x - f < 1 / 2 then f
  else if 1 / 2 < x - f then f + 1
  else if f % 2 = 0 then f
  else f + 1

theorem roundHalfEven_eq {x : ℚ} {k : ℤ} (h : |x - k| < 1 / 2) : roundHalfEven x = k := by
  rw [abs_lt] at h
  have hf := Int.floor_le x
  have hf' := Int.lt_floor_add_one x
  rcases le_or_gt (k : ℚ) x with hk | hk
  · have : ⌊x⌋ = k := Int.floor_eq_iff.mpr ⟨hk, by linarith⟩
    unfold roundHalfEven
    rw [if_pos (by rw [this]; linarith), this]
  · have : ⌊x⌋ = k - 1 := Int.floor_eq_iff.mpr ⟨by push_cast; linarith, by push_cast; linarith⟩
    unfold roundHalfEven
    simp only [this]
    push_cast
    rw [if_neg (by linarith), if_pos (by linarith)]
    ring

theorem abs_roundHalfEven_sub_le (x : ℚ) : |(roundHalfEven x : ℚ) - x| ≤ 1 / 2 := by
  have hf := Int.floor_le x
  have hf' := Int.lt_floor_add_one x
  rw [abs_le]
  simp only [roundHalfEven]
  split_ifs <;> push_cast <;> constructor <;> linarith

/-- Rounding is monotone with respect to integer bounds. -/
theorem roundHalfEven_le {x : ℚ} {k : ℤ} (h : x ≤ k) : roundHalfEven x ≤ k := by
  rcases h.lt_or_eq with hlt | rfl
  · have hfk : ⌊x⌋ < k := Int.floor_lt.mpr hlt
    simp only [roundHalfEven]
    split_ifs <;> omega
  · rw [roundHalfEven_eq (k := k) (by simp)]

theorem le_roundHalfEven {x : ℚ} {k : ℤ} (h : (k : ℚ) ≤ x) : k ≤ roundHalfEven x := by
  have hkf : k ≤ ⌊x⌋ := Int.le_floor.mpr h
  simp only [roundHalfEven]
  split_ifs <;> omega

namespace Binary64

/-- `isfinite`: neither an infinity nor a NaN. -/
def isFinite (b : Binary64) : Bool := b.exponent != 2047#11

def significand (b : Binary64) : ℕ :=
  if b.exponent = 0#11 then b.fraction.toNat else 2 ^ 52 + b.fraction.toNat

/-- The power of two that the significand is scaled by. -/
def scale (b : Binary64) : ℤ := max b.exponent.toNat 1 - 1075

def magnitude (b : Binary64) : ℚ := b.significand * 2 ^ b.scale

/-- The number a finite value stands for. -/
def toRat (b : Binary64) : ℚ := if b.sign then -b.magnitude else b.magnitude

theorem significand_lt (b : Binary64) : b.significand < 2 ^ 53 := by
  have := b.fraction.isLt
  unfold significand
  split <;> omega

theorem neg_1074_le_scale (b : Binary64) : -1074 ≤ b.scale := by
  unfold scale
  omega

theorem scale_le {b : Binary64} (h : b.isFinite) : b.scale ≤ 971 := by
  have hlt := b.exponent.isLt
  have hne : b.exponent.toNat ≠ 2047 := by
    intro he
    have : b.exponent = 2047#11 := BitVec.eq_of_toNat_eq (by simpa using he)
    simp [isFinite, this] at h
  unfold scale
  omega

/-- Below the top binade of its scale a value is subnormal. -/
theorem scale_eq_of_significand_lt {b : Binary64} (h : b.significand < 2 ^ 52) :
    b.scale = -1074 := by
  unfold significand at h
  split at h
  · next he => simp [scale, he]
  · omega

theorem magnitude_nonneg (b : Binary64) : 0 ≤ b.magnitude := by
  unfold magnitude
  positivity

end Binary64

/-- The exponent of the binary64 grid around a positive rational. -/
def gridExponent (a : ℚ) : ℤ := max (Int.log 2 a - 52) (-1074)

/-- Nearest binary64 value of a rational, ties to even; `none` when it overflows. -/
def nearestBinary64 (q : ℚ) : Option ℚ :=
  if q = 0 then some 0
  else
    let e := gridExponent |q|
    let v : ℚ := roundHalfEven (|q| / 2 ^ e) * 2 ^ e
    if v < 2 ^ (1024 : ℤ) then some (if q < 0 then -v else v) else none

/-- A number close to a grid value `k * 2 ^ e`, closer than half of the spacing that is
finest around it, is rounded to that value. -/
theorem nearestBinary64_eq {a t : ℚ} {k : ℤ} {e : ℤ} (ht : 0 < t)
    (he : gridExponent t = e) (ha : a = k * 2 ^ e) (hlt : a < 2 ^ (1024 : ℤ))
    (hclose : |t - a| < 2 ^ e / 2) : nearestBinary64 t = some a := by
  have h2e : (0 : ℚ) < 2 ^ e := by positivity
  have hdiv : |t / 2 ^ e - k| < 1 / 2 := by
    have heq : t / 2 ^ e - k = (t - a) / 2 ^ e := by
      rw [ha]
      field_simp
    rw [heq, abs_div, abs_of_pos h2e, div_lt_iff₀ h2e]
    linarith
  have hround := roundHalfEven_eq hdiv
  simp only [nearestBinary64, ht.ne', if_false, abs_of_pos ht, he, hround, ← ha, if_pos hlt,
    not_lt.mpr ht.le]

theorem nearestBinary64_neg (q : ℚ) :
    nearestBinary64 (-q) = (nearestBinary64 q).map (-·) := by
  rcases lt_trichotomy q 0 with hq | rfl | hq
  · simp only [nearestBinary64, neg_eq_zero, hq.ne, if_false, abs_neg, neg_lt_zero, not_lt.mpr hq.le,
      hq, if_true]
    split <;> simp
  · simp [nearestBinary64]
  · simp only [nearestBinary64, neg_eq_zero, hq.ne', if_false, abs_neg, neg_lt_zero, hq,
      not_lt.mpr hq.le, if_true]
    split <;> simp

theorem log_eq_of_bounds {a : ℚ} {l : ℤ} (ha : 0 < a) (hlo : (2 : ℚ) ^ l ≤ a)
    (hhi : a < (2 : ℚ) ^ (l + 1)) : Int.log 2 a = l := by
  have h1 := (Int.zpow_le_iff_le_log (b := 2) (by norm_num) ha).mp (by exact_mod_cast hlo)
  have h2 := (Int.lt_zpow_iff_log_lt (b := 2) (by norm_num) ha).mp (by exact_mod_cast hhi)
  omega

namespace Binary64

theorem magnitude_lt {b : Binary64} (h : b.isFinite) : b.magnitude < 2 ^ (1024 : ℤ) := by
  have hs : (b.significand : ℚ) < 2 ^ (53 : ℤ) := by exact_mod_cast b.significand_lt
  have hp : (0 : ℚ) < 2 ^ b.scale := by positivity
  calc b.magnitude < 2 ^ (53 : ℤ) * 2 ^ b.scale := by
        unfold magnitude
        gcongr
    _ = 2 ^ (53 + b.scale) := by rw [← zpow_add₀ (by norm_num)]
    _ ≤ 2 ^ (1024 : ℤ) := zpow_le_zpow_right₀ (by norm_num) (by have := scale_le h; omega)

/-- The scale of a nonzero value is the grid exponent of its magnitude. -/
theorem gridExponent_magnitude {b : Binary64} (h : 0 < b.magnitude) :
    gridExponent b.magnitude = b.scale := by
  have hscale := b.neg_1074_le_scale
  have hp : (0 : ℚ) < 2 ^ b.scale := by positivity
  unfold gridExponent
  rcases Nat.lt_or_ge b.significand (2 ^ 52) with hs | hs
  · have hsub := scale_eq_of_significand_lt hs
    have hlt : b.magnitude < 2 ^ (52 + b.scale) := by
      rw [zpow_add₀ (by norm_num)]
      unfold magnitude
      gcongr
      exact_mod_cast hs
    have := (Int.lt_zpow_iff_log_lt (b := 2) (by norm_num) h).mp (by exact_mod_cast hlt)
    omega
  · have hlo : (2 : ℚ) ^ (52 + b.scale) ≤ b.magnitude := by
      rw [zpow_add₀ (by norm_num)]
      unfold magnitude
      gcongr
      exact_mod_cast hs
    have hhi : b.magnitude < 2 ^ (52 + b.scale + 1) := by
      rw [show 52 + b.scale + 1 = 53 + b.scale by ring, zpow_add₀ (by norm_num)]
      unfold magnitude
      gcongr
      exact_mod_cast b.significand_lt
    have := log_eq_of_bounds h hlo hhi
    omega

/-- A number within relative distance `2 ^ (-54)` of a finite value rounds to it. -/
theorem nearestBinary64_of_close {b : Binary64} (hfin : b.isFinite) (hpos : 0 < b.magnitude)
    {t : ℚ} (hclose : |t - b.magnitude| * 2 ^ 54 < b.magnitude) :
    nearestBinary64 t = some b.magnitude := by
  have hgrid := gridExponent_magnitude hpos
  have hscale := b.neg_1074_le_scale
  have hlo := Int.zpow_log_le_self (b := 2) (by norm_num) hpos
  have hhi := Int.lt_zpow_succ_log_self (b := 2) (by norm_num) b.magnitude
  push_cast at hlo hhi
  unfold gridExponent at hgrid
  set a := b.magnitude with ha
  set l := Int.log 2 a
  set e := b.scale
  have hae : a = ((b.significand : ℤ) : ℚ) * 2 ^ e := by simp [ha, magnitude, e]
  have hpe : (0 : ℚ) < 2 ^ e := by positivity
  have hk : 1 ≤ b.significand := by
    rcases Nat.eq_zero_or_pos b.significand with h0 | h0
    · simp [hae, h0] at hpos
    · exact h0
  have hel : e ≤ l := by
    have hle : (2 : ℚ) ^ e ≤ a := by
      rw [hae]
      have : (1 : ℚ) ≤ ((b.significand : ℤ) : ℚ) := by exact_mod_cast hk
      nlinarith
    exact (Int.zpow_le_iff_le_log (b := 2) (by norm_num) hpos).mp (by exact_mod_cast hle)
  have habs := abs_lt.mp ((lt_div_iff₀ (by norm_num)).mpr hclose)
  have hthi : (2 : ℚ) ^ (l + 1) = 2 ^ (l + 1 - e).toNat * 2 ^ e := by
    rw [← zpow_natCast, ← zpow_add₀ (by norm_num)]
    congr 1
    omega
  have htlo : (2 : ℚ) ^ l = 2 ^ (l - e).toNat * 2 ^ e := by
    rw [← zpow_natCast, ← zpow_add₀ (by norm_num)]
    congr 1
    omega
  have hhalf : a / 2 ^ 54 < 2 ^ e / 2 := by
    have hgap : (2 : ℚ) ^ (l + 1) ≤ 2 ^ 53 * 2 ^ e := by
      rw [← zpow_natCast (2 : ℚ) 53, ← zpow_add₀ (by norm_num)]
      exact zpow_le_zpow_right₀ (by norm_num) (by omega)
    linarith
  -- the next binade starts at least one grid step above the value
  have hstep : a + 2 ^ e ≤ 2 ^ (l + 1) := by
    rw [hthi, hae] at hhi
    have hkn : (b.significand : ℤ) < 2 ^ (l + 1 - e).toNat := by
      exact_mod_cast lt_of_mul_lt_mul_right hhi hpe.le
    have hkn' : ((b.significand : ℤ) : ℚ) + 1 ≤ 2 ^ (l + 1 - e).toNat := by exact_mod_cast hkn
    rw [hthi, hae]
    nlinarith
  have htpos : 0 < t := by
    have : a / 2 ^ 54 < a := by
      rw [div_lt_iff₀ (by norm_num)]
      linarith
    linarith
  rcases le_or_gt ((2 : ℚ) ^ l) t with hge | hlt
  · have hlog := log_eq_of_bounds htpos hge (by linarith)
    apply nearestBinary64_eq htpos (e := e) (by unfold gridExponent; omega) hae (magnitude_lt hfin)
    exact abs_lt.mpr ⟨by linarith, by linarith⟩
  · -- below the binade only the power of two itself is close enough
    have hapow : a = 2 ^ l := by
      have hkn : (b.significand : ℤ) < 2 ^ (l - e).toNat + 1 := by
        have hlt' : a < 2 ^ l + 2 ^ e := by linarith
        rw [htlo, hae, ← add_one_mul] at hlt'
        exact_mod_cast lt_of_mul_lt_mul_right hlt' hpe.le
      have hkn' : (2 : ℤ) ^ (l - e).toNat ≤ b.significand := by
        rw [htlo, hae] at hlo
        exact_mod_cast le_of_mul_le_mul_right hlo hpe
      have heq : (b.significand : ℤ) = 2 ^ (l - e).toNat := by omega
      rw [hae, htlo, heq]
      push_cast
      ring
    have hl1 : (2 : ℚ) ^ l = 2 * 2 ^ (l - 1) := by
      rw [← zpow_one_add₀ (by norm_num)]
      congr 1
      ring
    have hlog : Int.log 2 t = l - 1 := by
      apply log_eq_of_bounds htpos
      · have : a / 2 ^ 54 ≤ a / 2 := by
          gcongr
          norm_num
        linarith
      · simpa using hlt
    have hgrid' : gridExponent t = max (l - 53) (-1074) := by
      unfold gridExponent
      omega
    set e' := max (l - 53) (-1074) with he'
    have hae' : a = ((2 ^ (l - e').toNat : ℤ) : ℚ) * 2 ^ e' := by
      push_cast
      rw [hapow, ← zpow_natCast, ← zpow_add₀ (by norm_num)]
      congr 1
      omega
    have hhalf' : a / 2 ^ 54 ≤ 2 ^ e' / 2 := by
      have hgap : (2 : ℚ) ^ l ≤ 2 ^ 53 * 2 ^ e' := by
        rw [← zpow_natCast (2 : ℚ) 53, ← zpow_add₀ (by norm_num)]
        exact zpow_le_zpow_right₀ (by norm_num) (by omega)
      linarith
    apply nearestBinary64_eq htpos hgrid' hae' (magnitude_lt hfin)
    exact abs_lt.mpr ⟨by linarith, by linarith⟩

theorem exists_of_normal {m : ℕ} {e : ℤ} (hlo : 2 ^ 52 ≤ m) (hhi : m < 2 ^ 53)
    (he : -1074 ≤ e) (he' : e ≤ 971) (s : Bool) :
    ∃ b : Binary64, b.isFinite ∧ b.sign = s ∧ b.magnitude = m * 2 ^ e := by
  have hexp : (BitVec.ofNat 11 (e + 1075).toNat).toNat = (e + 1075).toNat := by
    simp only [BitVec.toNat_ofNat]
    omega
  have hfrac : (BitVec.ofNat 52 (m - 2 ^ 52)).toNat = m - 2 ^ 52 := by
    simp only [BitVec.toNat_ofNat]
    omega
  have hne (k : ℕ) (hk : k < 2 ^ 11) (h : (e + 1075).toNat ≠ k) :
      BitVec.ofNat 11 (e + 1075).toNat ≠ BitVec.ofNat 11 k := by
    intro heq
    have := congrArg BitVec.toNat heq
    rw [hexp, BitVec.toNat_ofNat, Nat.mod_eq_of_lt hk] at this
    exact h this
  refine ⟨⟨s, BitVec.ofNat 11 (e + 1075).toNat, BitVec.ofNat 52 (m - 2 ^ 52)⟩, ?_, rfl, ?_⟩
  · simpa [isFinite] using hne 2047 (by norm_num) (by omega)
  · simp only [magnitude, significand, scale, hne 0 (by norm_num) (by omega), if_false, hexp, hfrac]
    have hm : 2 ^ 52 + (m - 2 ^ 52) = m := by omega
    have hs : (max (e + 1075).toNat 1 : ℕ) - (1075 : ℤ) = e := by omega
    rw [hm, hs]

theorem exists_of_subnormal {m : ℕ} (hm : m < 2 ^ 52) (s : Bool) :
    ∃ b : Binary64, b.isFinite ∧ b.sign = s ∧ b.magnitude = m * 2 ^ (-1074 : ℤ) := by
  refine ⟨⟨s, 0#11, BitVec.ofNat 52 m⟩, by simp [isFinite], rfl, ?_⟩
  have hfrac : (BitVec.ofNat 52 m).toNat = m := by
    simp only [BitVec.toNat_ofNat]
    omega
  simp [magnitude, significand, scale, hfrac]

/-- Every grid point below the overflow threshold is a binary64 magnitude. -/
theorem exists_of_grid {m : ℕ} {e : ℤ} (hm : m ≤ 2 ^ 53) (he : -1074 ≤ e)
    (hsub : m < 2 ^ 52 → e = -1074) (hlt : (m : ℚ) * 2 ^ e < 2 ^ (1024 : ℤ)) (s : Bool) :
    ∃ b : Binary64, b.isFinite ∧ b.sign = s ∧ b.magnitude = m * 2 ^ e := by
  rcases Nat.lt_or_ge m (2 ^ 52) with h52 | h52
  · obtain rfl := hsub h52
    exact exists_of_subnormal h52 s
  have hpe : (0 : ℚ) < 2 ^ e := by positivity
  rcases hm.lt_or_eq with h53 | rfl
  · refine exists_of_normal h52 h53 he ?_ s
    have hpow : (2 : ℚ) ^ (52 + e) < 2 ^ (1024 : ℤ) := by
      refine lt_of_le_of_lt ?_ hlt
      rw [zpow_add₀ (by norm_num)]
      gcongr
      exact_mod_cast h52
    have := (zpow_lt_zpow_iff_right₀ (by norm_num)).mp hpow
    omega
  · have hpow : (2 : ℚ) ^ (53 + e) < 2 ^ (1024 : ℤ) := by
      rw [zpow_add₀ (by norm_num)]
      exact_mod_cast hlt
    have h971 := (zpow_lt_zpow_iff_right₀ (by norm_num)).mp hpow
    obtain ⟨b, hb, hs, hv⟩ := exists_of_normal (m := 2 ^ 52) (e := e + 1) (by norm_num)
      (by norm_num) (by omega) (by omega) s
    refine ⟨b, hb, hs, ?_⟩
    rw [hv, zpow_add_one₀ (by norm_num)]
    push_cast
    ring

/-- What rounding answers is a finite binary64 value. -/
theorem exists_of_nearestBinary64 {q v : ℚ} (h : nearestBinary64 q = some v) :
    ∃ b : Binary64, b.isFinite ∧ b.toRat = v := by
  by_cases hq : q = 0
  · simp only [nearestBinary64, hq, if_true, Option.some.injEq] at h
    exact ⟨⟨false, 0#11, 0#52⟩, by decide, by simp [← h, toRat, magnitude, significand]⟩
  have hpos : 0 < |q| := abs_pos.mpr hq
  have hlo := Int.zpow_log_le_self (b := 2) (by norm_num) hpos
  have hhi := Int.lt_zpow_succ_log_self (b := 2) (by norm_num) |q|
  push_cast at hlo hhi
  simp only [nearestBinary64, hq, if_false] at h
  split at h
  swap
  · simp at h
  next hlt =>
  set e := gridExponent |q| with he
  have hpe : (0 : ℚ) < 2 ^ e := by positivity
  have hr0 : 0 ≤ roundHalfEven (|q| / 2 ^ e) := le_roundHalfEven (by positivity)
  have hle : roundHalfEven (|q| / 2 ^ e) ≤ 2 ^ 53 := by
    apply roundHalfEven_le
    rw [div_le_iff₀ hpe]
    have hpow : (2 : ℚ) ^ (Int.log 2 |q| + 1) ≤ 2 ^ 53 * 2 ^ e := by
      rw [← zpow_natCast (2 : ℚ) 53, ← zpow_add₀ (by norm_num)]
      exact zpow_le_zpow_right₀ (by norm_num) (by unfold gridExponent at he; omega)
    exact_mod_cast (hhi.trans_le hpow).le
  obtain ⟨m, hm⟩ := Int.eq_ofNat_of_zero_le hr0
  rw [hm] at h hlt hle
  obtain ⟨b, hfin, hs, hv⟩ := exists_of_grid (m := m) (e := e) (by exact_mod_cast hle)
    (by unfold gridExponent at he; omega) (by
      intro h52
      by_contra hne
      have hge : (2 : ℤ) ^ 52 ≤ roundHalfEven (|q| / 2 ^ e) := by
        apply le_roundHalfEven
        rw [le_div_iff₀ hpe]
        have hpow : (2 : ℚ) ^ 52 * 2 ^ e ≤ 2 ^ Int.log 2 |q| := by
          rw [← zpow_natCast (2 : ℚ) 52, ← zpow_add₀ (by norm_num)]
          exact zpow_le_zpow_right₀ (by norm_num) (by unfold gridExponent at he; omega)
        exact_mod_cast hpow.trans hlo
      rw [hm] at hge
      omega) (by exact_mod_cast hlt) (decide (q < 0))
  refine ⟨b, hfin, ?_⟩
  obtain rfl := Option.some.inj h
  simp only [toRat, hs, hv, decide_eq_true_eq]
  rfl

end Binary64
end TcdOran.Lib
