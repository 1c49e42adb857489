import TcdOran.Lib.PythonDecimal

/-! What rounding to significant digits keeps of the order: a number with few digits is rounded to
itself, and bounds with few digits stay bounds, below a rounded square root too. -/
namespace TcdOran.Lib.Python

/-- The number has at most `p` significant digits. -/
def HasDigits (p : ℕ) (q : ℚ) : Prop := ∃ n e : ℤ, |n| < 10 ^ p ∧ q = n * 10 ^ e

theorem hasDigits_zero (p : ℕ) : HasDigits p 0 := ⟨0, 0, by simp, by simp⟩

theorem hasDigits_zpow (k : ℕ) (e : ℤ) : HasDigits (k + 1) (10 ^ e) := by
  refine ⟨1, e, ?_, by simp⟩
  rw [abs_one]
  exact one_lt_pow₀ (by norm_num) (by omega)

theorem HasDigits.mono {p p' : ℕ} {q : ℚ} (h : HasDigits p q) (hle : p ≤ p') : HasDigits p' q := by
  obtain ⟨n, e, hn, hq⟩ := h
  exact ⟨n, e, hn.trans_le (pow_le_pow_right₀ (by norm_num) hle), hq⟩

/-- Of a number with few digits each decimal place is the last one, or the number is small. -/
theorem HasDigits.multiple_or_lt {p : ℕ} {q : ℚ} (h : HasDigits p q) (u : ℤ) :
    (∃ j : ℤ, q = j * 10 ^ u) ∨ |q| < 10 ^ (p + u - 1) := by
  obtain ⟨n, e, hn, rfl⟩ := h
  rcases le_or_gt u e with hue | heu
  · obtain ⟨d, rfl⟩ := Int.le.dest hue
    refine .inl ⟨n * 10 ^ d, ?_⟩
    rw [zpow_add₀ (by norm_num), zpow_natCast]
    push_cast
    ring
  · refine .inr ?_
    have habs : |(n : ℚ)| < 10 ^ (p : ℤ) := by
      rw [zpow_natCast]
      exact_mod_cast hn
    rw [abs_mul, abs_of_pos (show (0 : ℚ) < 10 ^ e by positivity)]
    calc |(n : ℚ)| * 10 ^ e < 10 ^ (p : ℤ) * 10 ^ e := by gcongr
      _ = 10 ^ (p + e) := (zpow_add₀ (by norm_num) _ _).symm
      _ ≤ 10 ^ (p + u - 1) := zpow_le_zpow_right₀ (by norm_num) (by omega)

/-! ### Rounding -/

section
variable {k : ℕ} {q r : ℚ}

theorem zpow_log_le {q : ℚ} (hq : 0 < q) : (10 : ℚ) ^ Int.log 10 q ≤ q := by
  exact_mod_cast Int.zpow_log_le_self (b := 10) (by norm_num) hq

theorem roundSignificant_eq_self (h : HasDigits (k + 1) q) : roundSignificant k q = q := by
  by_cases hzero : q = 0
  · rw [hzero, roundSignificant_zero]
  · have hunit : (10 : ℚ) ^ (Int.log 10 |q| - k) ≠ 0 := by positivity
    rcases h.multiple_or_lt (Int.log 10 |q| - k) with ⟨j, hj⟩ | hlt
    · have hdiv : q / 10 ^ (Int.log 10 |q| - k) = j := (div_eq_iff hunit).mpr hj
      simp only [roundSignificant, hdiv]
      rw [roundHalfEven_eq (k := j) (by simp), ← hj]
    · have hexponent : ((k + 1 : ℕ) : ℤ) + (Int.log 10 |q| - k) - 1 = Int.log 10 |q| := by
        push_cast
        ring
      rw [hexponent] at hlt
      exact absurd (zpow_log_le (abs_pos.mpr hzero)) (not_le.mpr hlt)

/-- A number with few digits that is not below the decade of `q` is a multiple of the unit to which
`q` is rounded. -/
theorem HasDigits.multiple_of_log_le (h : HasDigits (k + 1) r) (hr : (10 : ℚ) ^ Int.log 10 q ≤ |r|) :
    ∃ j : ℤ, r = j * 10 ^ (Int.log 10 q - k) := by
  rcases h.multiple_or_lt (Int.log 10 q - k) with hmultiple | hlt
  · exact hmultiple
  · have hexponent : ((k + 1 : ℕ) : ℤ) + (Int.log 10 q - k) - 1 = Int.log 10 q := by
      push_cast
      ring
    rw [hexponent] at hlt
    exact absurd hr (not_le.mpr hlt)

theorem roundSignificant_le (hq : 0 ≤ q) (hr : HasDigits (k + 1) r) (h : q ≤ r) :
    roundSignificant k q ≤ r := by
  rcases hq.eq_or_lt with rfl | hpos
  · rwa [roundSignificant_zero]
  · have hunit : (0 : ℚ) < 10 ^ (Int.log 10 q - k) := by positivity
    obtain ⟨j, hj⟩ := hr.multiple_of_log_le
      (((zpow_log_le hpos).trans h).trans (le_abs_self r))
    have hdiv : q / 10 ^ (Int.log 10 q - k) ≤ j := by
      rw [div_le_iff₀ hunit, ← hj]
      exact h
    simp only [roundSignificant, abs_of_pos hpos]
    calc (roundHalfEven (q / 10 ^ (Int.log 10 q - k)) : ℚ) * 10 ^ (Int.log 10 q - k)
        ≤ j * 10 ^ (Int.log 10 q - k) := by
          gcongr
          exact_mod_cast roundHalfEven_le hdiv
      _ = r := hj.symm

theorem le_roundSignificant (hq : 0 < q) (hr : HasDigits (k + 1) r) (h : r ≤ q) :
    r ≤ roundSignificant k q := by
  have hunit : (0 : ℚ) < 10 ^ (Int.log 10 q - k) := by positivity
  have hmultiple : ∀ {j : ℤ}, j * 10 ^ (Int.log 10 q - k) ≤ q →
      j * 10 ^ (Int.log 10 q - k) ≤ roundSignificant k q := by
    intro j hj
    have hdiv : (j : ℚ) ≤ q / 10 ^ (Int.log 10 q - k) := (le_div_iff₀ hunit).mpr hj
    simp only [roundSignificant, abs_of_pos hq]
    gcongr
    exact_mod_cast le_roundHalfEven hdiv
  by_cases hlog : (10 : ℚ) ^ Int.log 10 q ≤ |r|
  · obtain ⟨j, rfl⟩ := hr.multiple_of_log_le hlog
    exact hmultiple h
  · -- the decade itself lies between `r` and `q`
    have hdecade : ((10 ^ k : ℤ) : ℚ) * 10 ^ (Int.log 10 q - k) = 10 ^ Int.log 10 q := by
      push_cast
      rw [← zpow_natCast, ← zpow_add₀ (by norm_num)]
      congr 1
      ring
    have hlower := @hmultiple (10 ^ k) (by rw [hdecade]; exact zpow_log_le hq)
    rw [hdecade] at hlower
    exact (le_abs_self r).trans ((not_le.mp hlog).le.trans hlower)

theorem roundSignificant_nonneg (hq : 0 ≤ q) : 0 ≤ roundSignificant k q := by
  rcases hq.eq_or_lt with rfl | hpos
  · rw [roundSignificant_zero]
  · exact le_roundSignificant hpos (hasDigits_zero _) hpos.le

end

/-! ### The rounded square root -/

section
variable {p : ℕ} {v r : ℚ}

/-- The unit in the last place of the root. -/
def rootUnit (p : ℕ) (v : ℚ) : ℚ := 10 ^ (Int.log 10 v / 2 - (p - 1 : ℕ))

theorem rootUnit_pos (p : ℕ) (v : ℚ) : 0 < rootUnit p v := by
  unfold rootUnit
  positivity

/-- The root that is rounded down, in units. -/
def rootFloor (p : ℕ) (v : ℚ) : ℕ := Nat.sqrt ⌊v / rootUnit p v ^ 2⌋₊

theorem rootFloor_sq_le (hv : 0 ≤ v) : ((rootFloor p v : ℕ) : ℚ) ^ 2 ≤ v / rootUnit p v ^ 2 := by
  have hunit := rootUnit_pos p v
  have hnonneg : 0 ≤ v / rootUnit p v ^ 2 := by positivity
  have hsquare : rootFloor p v ^ 2 ≤ ⌊v / rootUnit p v ^ 2⌋₊ := Nat.sqrt_le' _
  calc ((rootFloor p v : ℕ) : ℚ) ^ 2 ≤ (⌊v / rootUnit p v ^ 2⌋₊ : ℚ) := by exact_mod_cast hsquare
    _ ≤ v / rootUnit p v ^ 2 := Nat.floor_le hnonneg

theorem lt_rootFloor_succ_sq : v / rootUnit p v ^ 2 < ((rootFloor p v : ℕ) + 1 : ℚ) ^ 2 := by
  have hsquare : ⌊v / rootUnit p v ^ 2⌋₊ + 1 ≤ (rootFloor p v + 1) ^ 2 := Nat.lt_succ_sqrt' _
  calc v / rootUnit p v ^ 2 < (⌊v / rootUnit p v ^ 2⌋₊ : ℚ) + 1 := Nat.lt_floor_add_one _
    _ ≤ ((rootFloor p v : ℕ) + 1 : ℚ) ^ 2 := by exact_mod_cast hsquare

theorem dsqrt_eq_floor_or_succ : dsqrt p v = rootFloor p v * rootUnit p v ∨
    dsqrt p v = (rootFloor p v + 1 : ℕ) * rootUnit p v := by
  have hround : ∀ c : Prop, [Decidable c] →
      (if c then rootFloor p v else rootFloor p v + 1) = rootFloor p v ∨
        (if c then rootFloor p v else rootFloor p v + 1) = rootFloor p v + 1 := by
    intro c _
    split_ifs <;> simp
  exact (hround _).imp (congrArg fun root : ℕ => (root : ℚ) * rootUnit p v)
    (congrArg fun root : ℕ => (root : ℚ) * rootUnit p v)

theorem rootFloor_mul_le_dsqrt : rootFloor p v * rootUnit p v ≤ dsqrt p v := by
  have hunit := rootUnit_pos p v
  rcases dsqrt_eq_floor_or_succ (p := p) (v := v) with h | h <;> rw [h]
  gcongr
  exact Nat.le_succ _

theorem dsqrt_le_succ_mul : dsqrt p v ≤ (rootFloor p v + 1 : ℕ) * rootUnit p v := by
  have hunit := rootUnit_pos p v
  rcases dsqrt_eq_floor_or_succ (p := p) (v := v) with h | h <;> rw [h]
  gcongr
  exact Nat.le_succ _

theorem dsqrt_eq_of_sq_eq (h : v / rootUnit p v ^ 2 = (rootFloor p v : ℚ) ^ 2) :
    dsqrt p v = rootFloor p v * rootUnit p v := by
  have hhalf : v / rootUnit p v ^ 2 < ((rootFloor p v : ℚ) + 1 / 2) ^ 2 := by
    rw [h]
    gcongr
    linarith
  exact congrArg (fun root : ℕ => (root : ℚ) * rootUnit p v) (if_pos (.inl hhalf))

theorem dsqrt_nonneg : 0 ≤ dsqrt p v :=
  (mul_nonneg (Nat.cast_nonneg _) (rootUnit_pos p v).le).trans rootFloor_mul_le_dsqrt

@[simp] theorem dsqrt_zero : dsqrt p 0 = 0 := by
  have hroot : rootFloor p 0 = 0 := by simp [rootFloor]
  rw [dsqrt_eq_of_sq_eq (by simp [hroot]), hroot]
  simp

/-- The decade of the root is that of the square halved. -/
theorem HasDigits.multiple_of_root (hp : 0 < p) (hr : HasDigits p r)
    (hlog : (10 : ℚ) ^ (Int.log 10 v / 2) ≤ |r|) : ∃ j : ℤ, r = j * rootUnit p v := by
  rcases hr.multiple_or_lt (Int.log 10 v / 2 - (p - 1 : ℕ)) with hmultiple | hlt
  · exact hmultiple
  · have hexponent : (p : ℤ) + (Int.log 10 v / 2 - (p - 1 : ℕ)) - 1 = Int.log 10 v / 2 := by omega
    rw [hexponent] at hlt
    exact absurd hlog (not_le.mpr hlt)

theorem decade_sq_le (hv : 0 < v) : ((10 : ℚ) ^ (Int.log 10 v / 2)) ^ 2 ≤ v := by
  calc ((10 : ℚ) ^ (Int.log 10 v / 2)) ^ 2 = 10 ^ (Int.log 10 v / 2 * 2) := by
        rw [zpow_mul]
        norm_cast
    _ ≤ 10 ^ Int.log 10 v := zpow_le_zpow_right₀ (by norm_num) (by omega)
    _ ≤ v := zpow_log_le hv

theorem dsqrt_le (hp : 0 < p) (hv : 0 ≤ v) (hnonneg : 0 ≤ r) (hr : HasDigits p r) (h : v ≤ r ^ 2) :
    dsqrt p v ≤ r := by
  rcases hv.eq_or_lt with rfl | hpos
  · rwa [dsqrt_zero]
  · have hunit := rootUnit_pos p v
    have hdecade : (10 : ℚ) ^ (Int.log 10 v / 2) ≤ |r| := by
      rw [abs_of_nonneg hnonneg]
      exact (sq_le_sq₀ (by positivity) hnonneg).mp ((decade_sq_le hpos).trans h)
    obtain ⟨j, hj⟩ := hr.multiple_of_root hp hdecade
    have hj0 : (0 : ℚ) ≤ j := nonneg_of_mul_nonneg_left (hj ▸ hnonneg) hunit
    have hsquare : v / rootUnit p v ^ 2 ≤ (j : ℚ) ^ 2 := by
      rw [div_le_iff₀ (by positivity), ← mul_pow, ← hj]
      exact h
    have hfloor : (rootFloor p v : ℚ) ≤ j :=
      (sq_le_sq₀ (Nat.cast_nonneg _) hj0).mp ((rootFloor_sq_le hv).trans hsquare)
    rcases hfloor.eq_or_lt with heq | hlt
    · have hexact : v / rootUnit p v ^ 2 = (rootFloor p v : ℚ) ^ 2 := by
        apply le_antisymm
        · rw [heq]
          exact hsquare
        · exact rootFloor_sq_le hv
      rw [dsqrt_eq_of_sq_eq hexact, heq, ← hj]
    · have hsucc : ((rootFloor p v + 1 : ℕ) : ℚ) ≤ j := by
        have hint : (rootFloor p v : ℤ) < j := by exact_mod_cast hlt
        exact_mod_cast hint
      calc dsqrt p v ≤ (rootFloor p v + 1 : ℕ) * rootUnit p v := dsqrt_le_succ_mul
        _ ≤ j * rootUnit p v := by gcongr
        _ = r := hj.symm

theorem le_dsqrt (hp : 0 < p) (hv : 0 < v) (hnonneg : 0 ≤ r) (hr : HasDigits p r) (h : r ^ 2 ≤ v) :
    r ≤ dsqrt p v := by
  have hunit := rootUnit_pos p v
  have hmultiple : ∀ {j : ℕ}, (j * rootUnit p v) ^ 2 ≤ v → j * rootUnit p v ≤ dsqrt p v := by
    intro j hj
    have hsquare : (j : ℚ) ^ 2 ≤ v / rootUnit p v ^ 2 := by
      rwa [le_div_iff₀ (by positivity), ← mul_pow]
    have hlt : (j : ℚ) < rootFloor p v + 1 :=
      lt_of_pow_lt_pow_left₀ 2 (by positivity) (hsquare.trans_lt lt_rootFloor_succ_sq)
    have hle : j ≤ rootFloor p v := Nat.lt_succ_iff.mp (by exact_mod_cast hlt)
    calc (j : ℚ) * rootUnit p v ≤ rootFloor p v * rootUnit p v := by gcongr
      _ ≤ dsqrt p v := rootFloor_mul_le_dsqrt
  by_cases hlog : (10 : ℚ) ^ (Int.log 10 v / 2) ≤ |r|
  · obtain ⟨j, rfl⟩ := hr.multiple_of_root hp hlog
    have hj0 : (0 : ℤ) ≤ j := by exact_mod_cast nonneg_of_mul_nonneg_left hnonneg hunit
    lift j to ℕ using hj0
    exact hmultiple h
  · have hdecade : ((10 ^ (p - 1) : ℕ) : ℚ) * rootUnit p v = 10 ^ (Int.log 10 v / 2) := by
      rw [rootUnit]
      push_cast
      rw [← zpow_natCast, ← zpow_add₀ (by norm_num)]
      congr 1
      ring
    have hlower := @hmultiple (10 ^ (p - 1)) (by rw [hdecade]; exact decade_sq_le hv)
    rw [hdecade] at hlower
    exact (le_abs_self r).trans ((not_le.mp hlog).le.trans hlower)

end

/-! ### Sums and products without rounding -/

section
variable {p d d' N N' : ℕ} {a b : ℚ}

/-- At most `N` units of the decimal place `d`. -/
def OnGrid (d N : ℕ) (q : ℚ) : Prop := ∃ n : ℤ, |n| ≤ N ∧ q = n / 10 ^ d

theorem OnGrid.hasDigits (h : OnGrid d N a) (hp : N < 10 ^ p) : HasDigits p a := by
  obtain ⟨n, hn, rfl⟩ := h
  refine ⟨n, -d, hn.trans_lt (by exact_mod_cast hp), ?_⟩
  rw [zpow_neg, zpow_natCast, div_eq_mul_inv]

theorem OnGrid.mono (h : OnGrid d N a) (hle : N ≤ N') : OnGrid d N' a := by
  obtain ⟨n, hn, rfl⟩ := h
  exact ⟨n, hn.trans (by exact_mod_cast hle), rfl⟩

theorem OnGrid.refine (h : OnGrid d N a) (e : ℕ) : OnGrid (d + e) (N * 10 ^ e) a := by
  obtain ⟨n, hn, rfl⟩ := h
  refine ⟨n * 10 ^ e, ?_, ?_⟩
  · rw [abs_mul, abs_of_pos (show (0 : ℤ) < 10 ^ e by positivity)]
    push_cast
    gcongr
  · push_cast
    rw [pow_add, mul_div_mul_right _ _ (by positivity)]

theorem OnGrid.add (ha : OnGrid d N a) (hb : OnGrid d N' b) : OnGrid d (N + N') (a + b) := by
  obtain ⟨n, hn, rfl⟩ := ha
  obtain ⟨n', hn', rfl⟩ := hb
  refine ⟨n + n', ?_, by push_cast; ring⟩
  push_cast
  exact (abs_add_le n n').trans (add_le_add hn hn')

theorem OnGrid.neg (ha : OnGrid d N a) : OnGrid d N (-a) := by
  obtain ⟨n, hn, rfl⟩ := ha
  exact ⟨-n, by rwa [abs_neg], by push_cast; ring⟩

theorem OnGrid.sub (ha : OnGrid d N a) (hb : OnGrid d N' b) : OnGrid d (N + N') (a - b) := by
  rw [sub_eq_add_neg]
  exact ha.add hb.neg

theorem OnGrid.abs (ha : OnGrid d N a) : OnGrid d N |a| := by
  rcases abs_choice a with h | h <;> rw [h]
  · exact ha
  · exact ha.neg

theorem OnGrid.mul (ha : OnGrid d N a) (hb : OnGrid d' N' b) : OnGrid (d + d') (N * N') (a * b) := by
  obtain ⟨n, hn, rfl⟩ := ha
  obtain ⟨n', hn', rfl⟩ := hb
  refine ⟨n * n', ?_, ?_⟩
  · rw [abs_mul]
    push_cast
    gcongr
  · push_cast
    rw [pow_add]
    ring

theorem OnGrid.scale (c : ℕ) (ha : OnGrid d N a) : OnGrid d (c * N) (c * a) := by
  have hc : OnGrid 0 c c := ⟨c, by simp, by simp⟩
  simpa using hc.mul ha

/-- A hundredth has two more places. -/
theorem OnGrid.div_hundred (ha : OnGrid d N a) : OnGrid (d + 2) N (a / 100) := by
  obtain ⟨n, hn, rfl⟩ := ha
  refine ⟨n, hn, ?_⟩
  rw [pow_add, div_div]
  norm_num

theorem OnGrid.sum {xs : List ℚ} (h : ∀ x ∈ xs, OnGrid d N x) : OnGrid d (xs.length * N) xs.sum := by
  induction xs with
  | nil => exact ⟨0, by simp, by simp⟩
  | cons x xs ih =>
    obtain ⟨hx, hxs⟩ := List.forall_mem_cons.mp h
    rw [List.sum_cons, List.length_cons, Nat.succ_mul, Nat.add_comm]
    exact hx.add (ih hxs)

/-- Two different numbers of a grid are a unit apart. -/
theorem OnGrid.gap (ha : OnGrid d N a) (hb : OnGrid d N' b) (h : a < b) : a + 1 / 10 ^ d ≤ b := by
  obtain ⟨n, -, rfl⟩ := ha
  obtain ⟨n', -, rfl⟩ := hb
  have hpos : (0 : ℚ) < 10 ^ d := by positivity
  have hlt : n < n' := by
    rw [div_lt_div_iff_of_pos_right hpos] at h
    exact_mod_cast h
  rw [← add_div, div_le_div_iff_of_pos_right hpos]
  exact_mod_cast hlt

theorem dadd_eq (hp : 0 < p) (h : HasDigits p (a + b)) : dadd p a b = a + b :=
  roundSignificant_eq_self (by rwa [Nat.sub_add_cancel hp])

theorem dsub_eq (hp : 0 < p) (h : HasDigits p (a - b)) : dsub p a b = a - b :=
  roundSignificant_eq_self (by rwa [Nat.sub_add_cancel hp])

theorem dmul_eq (hp : 0 < p) (h : HasDigits p (a * b)) : dmul p a b = a * b :=
  roundSignificant_eq_self (by rwa [Nat.sub_add_cancel hp])

theorem ddiv_eq (hp : 0 < p) (h : HasDigits p (a / b)) : ddiv p a b = a / b :=
  roundSignificant_eq_self (by rwa [Nat.sub_add_cancel hp])

/-- No partial sum of numbers on a grid is rounded while the whole has few digits. -/
theorem dsum_eq {xs : List ℚ} (hp : 0 < p) (h : ∀ x ∈ xs, OnGrid d N x)
    (hlength : xs.length * N < 10 ^ p) : dsum p xs = xs.sum := by
  suffices hfrom : ∀ (start : ℚ) (M : ℕ), OnGrid d M start → M + xs.length * N < 10 ^ p →
      xs.foldl (dadd p) start = start + xs.sum by
    have hzero := hfrom 0 0 ⟨0, by simp, by simp⟩ (by omega)
    rwa [zero_add] at hzero
  clear hlength
  induction xs with
  | nil =>
    intro start M _ _
    simp
  | cons x xs ih =>
    intro start M hstart hM
    obtain ⟨hx, hxs⟩ := List.forall_mem_cons.mp h
    rw [List.length_cons, Nat.succ_mul] at hM
    have hadd : dadd p start x = start + x :=
      dadd_eq hp ((hstart.add hx).hasDigits (by omega))
    rw [List.foldl_cons, hadd, ih hxs (start + x) (M + N) (hstart.add hx) (by omega), List.sum_cons,
      add_assoc]

end

end TcdOran.Lib.Python
