import TcdOran.Lib.SignificantDigits

/-! Decimals through floats and back: how far `repr` moves them, and where the floats lie closely
enough that it does not. -/
namespace TcdOran.Lib.Python

/-! ### The error of a float -/

section
variable {a f : ℚ}

/-- The float of a positive number. -/
theorem eq_of_nearestBinary64 (ha : 0 < a) (h : nearestBinary64 a = some f) :
    f = roundHalfEven (a / 2 ^ gridExponent a) * 2 ^ gridExponent a := by
  simp only [nearestBinary64, ha.ne', if_false, abs_of_pos ha, not_lt.mpr ha.le] at h
  split_ifs at h
  exact (Option.some.inj h).symm

theorem nearest_error_grid (ha : 0 < a) (h : nearestBinary64 a = some f) :
    |f - a| ≤ 2 ^ gridExponent a / 2 := by
  have hunit : (0 : ℚ) < 2 ^ gridExponent a := by positivity
  have hround := abs_roundHalfEven_sub_le (a / 2 ^ gridExponent a)
  have heq : f - a = (roundHalfEven (a / 2 ^ gridExponent a) - a / 2 ^ gridExponent a) *
      2 ^ gridExponent a := by
    rw [eq_of_nearestBinary64 ha h]
    field_simp
  rw [heq, abs_mul, abs_of_pos hunit]
  calc |(roundHalfEven (a / 2 ^ gridExponent a) : ℚ) - a / 2 ^ gridExponent a| * 2 ^ gridExponent a
      ≤ 1 / 2 * 2 ^ gridExponent a := by gcongr
    _ = 2 ^ gridExponent a / 2 := by ring

theorem two_zpow_log_le (ha : 0 < a) : (2 : ℚ) ^ Int.log 2 a ≤ a := by
  exact_mod_cast Int.zpow_log_le_self (b := 2) (by norm_num) ha

theorem le_log_of_le {l : ℤ} (hl : (2 : ℚ) ^ l ≤ a) : l ≤ Int.log 2 a := by
  have ha : 0 < a := lt_of_lt_of_le (by positivity) hl
  exact (Int.zpow_le_iff_le_log (b := 2) (by norm_num) ha).mp (by exact_mod_cast hl)

theorem gridExponent_of_normal (ha : (2 : ℚ) ^ (-1022 : ℤ) ≤ a) :
    gridExponent a = Int.log 2 a - 52 := by
  have hlog := le_log_of_le ha
  unfold gridExponent
  omega

/-- The relative error of a float that is not subnormal. -/
theorem nearest_error (ha : (2 : ℚ) ^ (-1022 : ℤ) ≤ a) (h : nearestBinary64 a = some f) :
    |f - a| ≤ a / 2 ^ 53 := by
  have hpos : 0 < a := lt_of_lt_of_le (by positivity) ha
  calc |f - a| ≤ 2 ^ gridExponent a / 2 := nearest_error_grid hpos h
    _ = 2 ^ Int.log 2 a / 2 ^ 53 := by
      rw [gridExponent_of_normal ha, zpow_sub₀ (by norm_num)]
      norm_num
      ring
    _ ≤ a / 2 ^ 53 := by
      gcongr
      exact two_zpow_log_le hpos

/-- Powers of two are not crossed. -/
theorem two_zpow_le_nearest {l : ℤ} (hl : -1022 ≤ l) (ha : (2 : ℚ) ^ l ≤ a)
    (h : nearestBinary64 a = some f) : (2 : ℚ) ^ l ≤ f := by
  have hpos : 0 < a := lt_of_lt_of_le (by positivity) ha
  have hlog := le_log_of_le ha
  have hexponent : gridExponent a = Int.log 2 a - 52 := by
    unfold gridExponent
    omega
  have hunit : (0 : ℚ) < 2 ^ gridExponent a := by positivity
  have hdecade : ((2 ^ 52 : ℤ) : ℚ) * 2 ^ gridExponent a = 2 ^ Int.log 2 a := by
    rw [hexponent, zpow_sub₀ (by norm_num), zpow_ofNat]
    push_cast
    field_simp
    norm_num
  have hround : (2 ^ 52 : ℤ) ≤ roundHalfEven (a / 2 ^ gridExponent a) := by
    apply le_roundHalfEven
    rw [le_div_iff₀ hunit, hdecade]
    exact two_zpow_log_le hpos
  calc (2 : ℚ) ^ l ≤ 2 ^ Int.log 2 a := zpow_le_zpow_right₀ (by norm_num) hlog
    _ = ((2 ^ 52 : ℤ) : ℚ) * 2 ^ gridExponent a := hdecade.symm
    _ ≤ roundHalfEven (a / 2 ^ gridExponent a) * 2 ^ gridExponent a := by
      gcongr
    _ = f := (eq_of_nearestBinary64 hpos h).symm

/-- Below `2 ^ 23` floats err by less than half a unit of the ninth place. -/
theorem nearest_error_below (ha : 0 < a) (hbelow : a < 2 ^ 23) (h : nearestBinary64 a = some f) :
    |f - a| ≤ 1 / 2 ^ 31 := by
  have hpower : a < ((2 : ℕ) : ℚ) ^ (23 : ℤ) := by exact_mod_cast hbelow
  have hlog : Int.log 2 a < 23 := (Int.lt_zpow_iff_log_lt (by norm_num) ha).mp hpower
  have hexponent : gridExponent a ≤ -30 := by
    unfold gridExponent
    omega
  calc |f - a| ≤ 2 ^ gridExponent a / 2 := nearest_error_grid ha h
    _ ≤ 2 ^ (-30 : ℤ) / 2 := by
      gcongr
      norm_num
    _ = 1 / 2 ^ 31 := by norm_num

end

/-! ### The printed decimal -/

/-- What `repr` prints reads back, unless no text of seventeen digits does. -/
theorem reprDecimal_spec (q : ℚ) : reprDecimal q = q ∨
    ∃ k < 17, reprDecimal q = roundSignificant k q ∧
      nearestBinary64 (roundSignificant k q) = some q ∧
      ∀ j < k, nearestBinary64 (roundSignificant j q) ≠ some q := by
  rw [reprDecimal, List.find?_map]
  cases hfind : (List.range 17).find?
      ((fun r => decide (nearestBinary64 r = some q)) ∘ (roundSignificant · q)) with
  | none => exact .inl rfl
  | some k =>
    obtain ⟨hreads, hk, hfirst⟩ := List.find?_range_eq_some.mp hfind
    refine .inr ⟨k, List.mem_range.mp hk, rfl, of_decide_eq_true hreads, fun j hj hother => ?_⟩
    have hnot := hfirst j hj
    simp [hother] at hnot

/-- A decimal that reads back and that every shorter one that reads back equals is what is printed. -/
theorem reprDecimal_eq {q d : ℚ} {k : ℕ} (hk : k < 17) (hd : roundSignificant k q = d)
    (hreads : nearestBinary64 d = some q)
    (hshorter : ∀ j < k, nearestBinary64 (roundSignificant j q) = some q → roundSignificant j q = d) :
    reprDecimal q = d := by
  have hfound : ((List.range 17).find?
      ((fun r => decide (nearestBinary64 r = some q)) ∘ (roundSignificant · q))).isSome := by
    rw [List.find?_isSome]
    refine ⟨k, List.mem_range.mpr hk, ?_⟩
    simp [hd, hreads]
  obtain ⟨i, hi⟩ := Option.isSome_iff_exists.mp hfound
  have hrepr : reprDecimal q = roundSignificant i q := by
    rw [reprDecimal, List.find?_map, hi]
    rfl
  obtain ⟨hireads, -, hfirst⟩ := List.find?_range_eq_some.mp hi
  rw [hrepr]
  rcases lt_trichotomy i k with hlt | rfl | hgt
  · exact hshorter i hlt (of_decide_eq_true hireads)
  · exact hd
  · have hnot := hfirst k hgt
    simp [hd, hreads] at hnot

/-! ### Nanoseconds -/

/-- A nanosecond grid is finer than no float below `2 ^ 23`. -/
theorem nanos_eq {a b : ℚ} {n m : ℤ} (ha : a = n / 10 ^ 9) (hb : b = m / 10 ^ 9)
    (h : |a - b| ≤ 1 / 2 ^ 30) : a = b := by
  have hdiff : |(n : ℚ) - m| < 1 := by
    have heq : (n : ℚ) - m = (a - b) * 10 ^ 9 := by
      rw [ha, hb]
      ring
    rw [heq, abs_mul, abs_of_pos (show (0 : ℚ) < 10 ^ 9 by norm_num)]
    calc |a - b| * 10 ^ 9 ≤ 1 / 2 ^ 30 * 10 ^ 9 := by gcongr
      _ < 1 := by norm_num
  have hint : |n - m| < 1 := by exact_mod_cast hdiff
  have hzero : n - m = 0 := Int.abs_lt_one_iff.mp hint
  rw [ha, hb, sub_eq_zero.mp hzero]

theorem log_nanos_bounds {f : ℚ} (hlow : 1 / 10 ^ 9 ≤ f) (hhigh : f < 2 ^ 23) :
    -9 ≤ Int.log 10 f ∧ Int.log 10 f < 7 := by
  have hpos : 0 < f := lt_of_lt_of_le (by norm_num) hlow
  have hlow' : ((10 : ℕ) : ℚ) ^ (-9 : ℤ) ≤ f := by
    refine le_trans (le_of_eq ?_) hlow
    norm_num
  have hhigh' : f < ((10 : ℕ) : ℚ) ^ (7 : ℤ) := hhigh.trans (by norm_num)
  exact ⟨(Int.zpow_le_iff_le_log (by norm_num) hpos).mp hlow',
    (Int.lt_zpow_iff_log_lt (by norm_num) hpos).mp hhigh'⟩

theorem roundSignificant_pos {k : ℕ} {q : ℚ} (hq : 0 < q) : 0 < roundSignificant k q := by
  exact lt_of_lt_of_le (by positivity)
    (le_roundSignificant hq (hasDigits_zpow k (Int.log 10 q)) (zpow_log_le hq))

theorem lt_of_nearest_lt {a f : ℚ} (h : nearestBinary64 a = some f) (hf : f < 2 ^ 23) : a < 2 ^ 23 := by
  by_contra hge
  have hpower : (2 : ℚ) ^ (23 : ℤ) ≤ a := by exact_mod_cast not_lt.mp hge
  have hcross := two_zpow_le_nearest (by norm_num) hpower h
  exact absurd hf (not_lt.mpr (by exact_mod_cast hcross))

theorem nearest_lt_of_nanos {n : ℕ} {f : ℚ} (hn : (n : ℚ) / 10 ^ 9 < 2 ^ 23)
    (h : nearestBinary64 (n / 10 ^ 9) = some f) : f < 2 ^ 23 := by
  rcases Nat.eq_zero_or_pos n with rfl | hpos
  · simp only [nearestBinary64, Nat.cast_zero, zero_div, if_true, Option.some.injEq] at h
    rw [← h]
    norm_num
  · have hcast : (0 : ℚ) < n := by exact_mod_cast hpos
    have herror := (abs_le.mp (nearest_error_below (by positivity) hn h)).2
    have hgrid : (n : ℚ) / 10 ^ 9 + 1 / 10 ^ 9 ≤ 2 ^ 23 := by
      rw [div_lt_iff₀ (by positivity)] at hn
      have hint : n < 2 ^ 23 * 10 ^ 9 := by exact_mod_cast hn
      have hsucc : (n : ℚ) + 1 ≤ 2 ^ 23 * 10 ^ 9 := by exact_mod_cast hint
      rw [← add_div, div_le_iff₀ (by positivity)]
      exact hsucc
    have hsmall : (1 : ℚ) / 2 ^ 31 < 1 / 10 ^ 9 := by norm_num
    linarith

/-- A whole number of nanoseconds is printed as it was read where the floats lie closer than the
nanoseconds do. -/
theorem reprDecimal_of_nanos {n : ℕ} {f : ℚ} (h : nearestBinary64 (n / 10 ^ 9) = some f)
    (hf : f < 2 ^ 23) : reprDecimal f = n / 10 ^ 9 := by
  have hsmall : ∀ m : ℕ, m < 2 → (nearestBinary64 ((m : ℚ) / 10 ^ 9)).map reprDecimal =
      some ((m : ℚ) / 10 ^ 9) := by decide +kernel
  rcases lt_or_ge n 2 with hn | hn
  · have hrepr := hsmall n hn
    rw [h] at hrepr
    exact Option.some.inj hrepr
  · have hcast : (2 : ℚ) ≤ n := by exact_mod_cast hn
    have hpos : (0 : ℚ) < n / 10 ^ 9 := by positivity
    have herror := nearest_error_below hpos (lt_of_nearest_lt h hf) h
    have hlow : 1 / 10 ^ 9 ≤ f := by
      have hdiff := (abs_le.mp herror).1
      have htwo : (2 : ℚ) / 10 ^ 9 ≤ n / 10 ^ 9 := by gcongr
      have hgap : (1 : ℚ) / 10 ^ 9 + 1 / 2 ^ 31 ≤ 2 / 10 ^ 9 := by norm_num
      linarith
    have hfpos : 0 < f := lt_of_lt_of_le (by norm_num) hlow
    obtain ⟨hlog, hlog'⟩ := log_nanos_bounds hlow hf
    have hk : Int.log 10 f - ((Int.log 10 f + 9).toNat : ℤ) = -9 := by omega
    refine reprDecimal_eq (k := (Int.log 10 f + 9).toNat) (by omega) ?_ h fun j hj hreads => ?_
    · have hdiv : |f / 10 ^ (-9 : ℤ) - ((n : ℤ) : ℚ)| < 1 / 2 := by
        have heq : f / 10 ^ (-9 : ℤ) - ((n : ℤ) : ℚ) = (f - n / 10 ^ 9) * 10 ^ 9 := by
          rw [zpow_neg]
          push_cast
          field_simp
          norm_num
        rw [heq, abs_mul, abs_of_pos (show (0 : ℚ) < 10 ^ 9 by norm_num)]
        calc |f - n / 10 ^ 9| * 10 ^ 9 ≤ 1 / 2 ^ 31 * 10 ^ 9 := by gcongr
          _ < 1 / 2 := by norm_num
      simp only [roundSignificant, abs_of_pos hfpos, hk]
      rw [roundHalfEven_eq hdiv, zpow_neg]
      push_cast
      field_simp
      norm_num
    · have hdpos : 0 < roundSignificant j f := roundSignificant_pos hfpos
      have hderror := nearest_error_below hdpos (lt_of_nearest_lt hreads hf) hreads
      obtain ⟨d, hd⟩ := Int.eq_ofNat_of_zero_le (show 0 ≤ Int.log 10 f - j + 9 by omega)
      have hgrid : roundSignificant j f =
          ((roundHalfEven (f / 10 ^ (Int.log 10 f - j)) * 10 ^ d : ℤ) : ℚ) / 10 ^ 9 := by
        have hexponent : Int.log 10 f - j = d - 9 := by omega
        simp only [roundSignificant, abs_of_pos hfpos]
        rw [hexponent, zpow_sub₀ (by norm_num), zpow_natCast]
        push_cast
        rw [mul_div_assoc]
        norm_num
      have hclose : |roundSignificant j f - n / 10 ^ 9| ≤ 1 / 2 ^ 30 := by
        calc |roundSignificant j f - n / 10 ^ 9|
            ≤ |roundSignificant j f - f| + |f - n / 10 ^ 9| := abs_sub_le _ _ _
          _ = |f - roundSignificant j f| + |f - n / 10 ^ 9| := by
            rw [abs_sub_comm f (roundSignificant j f)]
          _ ≤ 1 / 2 ^ 31 + 1 / 2 ^ 31 := add_le_add hderror herror
          _ = 1 / 2 ^ 30 := by norm_num
      exact nanos_eq hgrid (m := n) (by push_cast; rfl) hclose

/-! ### Any decimal -/

theorem nearest_le_two_mul {a f : ℚ} (ha : (2 : ℚ) ^ (-1022 : ℤ) ≤ a)
    (h : nearestBinary64 a = some f) : a ≤ 2 * f ∧ |f - a| ≤ f / 2 ^ 52 := by
  have herror := nearest_error ha h
  have hpos : 0 < a := lt_of_lt_of_le (by positivity) ha
  have hle : a ≤ 2 * f := by
    have hdiff := (abs_le.mp herror).1
    have hhalf : a / 2 ^ 53 ≤ a / 2 := by gcongr; norm_num
    linarith
  refine ⟨hle, herror.trans ?_⟩
  calc a / 2 ^ 53 ≤ 2 * f / 2 ^ 53 := by gcongr
    _ = f / 2 ^ 52 := by ring

/-- A decimal is moved by a small part of itself. -/
theorem reprDecimal_close {a f : ℚ} (ha : 1 / 10 ^ 9 ≤ a) (h : nearestBinary64 a = some f) :
    |reprDecimal f - a| ≤ f / 2 ^ 51 := by
  have hnormal : ∀ {b : ℚ}, 1 / 10 ^ 11 ≤ b → (2 : ℚ) ^ (-1022 : ℤ) ≤ b := by
    intro b hb
    refine le_trans ?_ hb
    calc (2 : ℚ) ^ (-1022 : ℤ) ≤ 2 ^ (-60 : ℤ) := zpow_le_zpow_right₀ (by norm_num) (by norm_num)
      _ ≤ 1 / 10 ^ 11 := by norm_num
  have hnormala : 1 / 10 ^ 11 ≤ a := le_trans (by norm_num) ha
  obtain ⟨hle, herror⟩ := nearest_le_two_mul (hnormal hnormala) h
  have hfpos : 1 / 10 ^ 10 ≤ f := by linarith
  have hpositive : 0 < f := lt_of_lt_of_le (by norm_num) hfpos
  have hsum : f / 2 ^ 52 + f / 2 ^ 52 = f / 2 ^ 51 := by ring
  rcases reprDecimal_spec f with heq | ⟨k, -, heq, hreads, -⟩
  · rw [heq]
    have hnonneg : 0 ≤ f / 2 ^ 52 := by positivity
    linarith
  · have hdecade : 1 / 10 ^ 11 ≤ roundSignificant k f := by
      have hdigits : HasDigits (k + 1) (1 / 10 ^ 11) := by
        have heq : (1 : ℚ) / 10 ^ 11 = 10 ^ (-11 : ℤ) := by norm_num
        rw [heq]
        exact hasDigits_zpow k (-11)
      exact le_roundSignificant hpositive hdigits (le_trans (by norm_num) hfpos)
    have herror' := (nearest_le_two_mul (hnormal hdecade) hreads).2
    rw [heq]
    calc |roundSignificant k f - a| ≤ |roundSignificant k f - f| + |f - a| := abs_sub_le _ _ _
      _ = |f - roundSignificant k f| + |f - a| := by rw [abs_sub_comm f (roundSignificant k f)]
      _ ≤ f / 2 ^ 52 + f / 2 ^ 52 := add_le_add herror' herror
      _ = f / 2 ^ 51 := hsum

end TcdOran.Lib.Python
