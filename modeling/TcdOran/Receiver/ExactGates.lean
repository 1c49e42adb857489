import TcdOran.Lib.SignificantDigits
import TcdOran.Receiver.PostStepWindows

/-! The gates of the evaluator, computed with forty digits, against exact arithmetic. Sums, means and
variances of the rates are not rounded; a root or a quotient that is rounded stays on its side of
every number with few digits, and between the limit and what lies above it there is one. -/
namespace TcdOran.Receiver
open TcdOran.Lib Python

/-! ### The rates -/

/-- A positive decimal below `10 ^ 9` with six fractional digits at most. -/
def RateDecimal (x : ℚ) : Prop := ∃ n : ℕ, 0 < n ∧ n < 10 ^ 15 ∧ x = n / 10 ^ 6

def exactMean (values : List ℚ) : ℚ := values.sum / 25

def exactVariance (values : List ℚ) : ℚ :=
  (values.map fun x => (x - exactMean values) ^ 2).sum / 25

/-- Twenty-five rates. -/
structure RateWindow (values : List ℚ) : Prop where
  length : values.length = 25
  rates : ∀ x ∈ values, RateDecimal x

theorem RateDecimal.onGrid {x : ℚ} (h : RateDecimal x) : OnGrid 6 (10 ^ 15) x := by
  obtain ⟨n, -, hn, rfl⟩ := h
  refine ⟨n, ?_, by simp⟩
  rw [Nat.abs_cast]
  exact_mod_cast hn.le

theorem RateDecimal.pos {x : ℚ} (h : RateDecimal x) : 0 < x := by
  obtain ⟨n, hn, -, rfl⟩ := h
  have : (0 : ℚ) < n := by exact_mod_cast hn
  positivity

section
variable {values : List ℚ}

theorem RateWindow.sum_eq (h : RateWindow values) : dsum evaluatorPrecision values = values.sum :=
  dsum_eq (by decide) (fun x hx => (h.rates x hx).onGrid) (by rw [h.length]; decide)

theorem RateWindow.mean_onGrid (h : RateWindow values) : OnGrid 8 (10 ^ 17) (exactMean values) := by
  have hsum := OnGrid.sum fun x hx => (h.rates x hx).onGrid
  rw [h.length] at hsum
  have hmean : exactMean values = (4 : ℕ) * values.sum / 100 := by
    rw [exactMean]
    push_cast
    ring
  rw [hmean]
  exact (hsum.scale 4).div_hundred

theorem RateWindow.mean_pos (h : RateWindow values) : 0 < exactMean values := by
  have hne : values ≠ [] := by
    rintro rfl
    exact absurd h.length (by decide)
  have hsum := List.sum_pos values (fun x hx => (h.rates x hx).pos) hne
  unfold exactMean
  positivity

theorem RateWindow.mean_eq (h : RateWindow values) :
    ddiv evaluatorPrecision (dsum evaluatorPrecision values) values.length = exactMean values := by
  rw [h.sum_eq, h.length]
  exact ddiv_eq (by decide) (h.mean_onGrid.hasDigits (by decide))

theorem RateWindow.deviation_onGrid (h : RateWindow values) {x : ℚ} (hx : x ∈ values) :
    OnGrid 8 (2 * 10 ^ 17) (x - exactMean values) :=
  ((h.rates x hx).onGrid.refine 2).sub h.mean_onGrid

theorem RateWindow.square_onGrid (h : RateWindow values) {x : ℚ} (hx : x ∈ values) :
    OnGrid 16 (4 * 10 ^ 34) ((x - exactMean values) ^ 2) := by
  rw [sq]
  exact (h.deviation_onGrid hx).mul (h.deviation_onGrid hx)

theorem RateWindow.square_eq (h : RateWindow values) {x : ℚ} (hx : x ∈ values) :
    dmul evaluatorPrecision (dsub evaluatorPrecision x (exactMean values))
      (dsub evaluatorPrecision x (exactMean values)) = (x - exactMean values) ^ 2 := by
  rw [dsub_eq (by decide) ((h.deviation_onGrid hx).hasDigits (by decide)), sq]
  apply dmul_eq (by decide)
  rw [← sq]
  exact (h.square_onGrid hx).hasDigits (by decide)

theorem RateWindow.squares_onGrid (h : RateWindow values) :
    ∀ y ∈ values.map (fun x => (x - exactMean values) ^ 2), OnGrid 16 (4 * 10 ^ 34) y := by
  intro y hy
  obtain ⟨x, hx, rfl⟩ := List.mem_map.mp hy
  exact h.square_onGrid hx

theorem RateWindow.variance_onGrid (h : RateWindow values) :
    OnGrid 18 (4 * 10 ^ 36) (exactVariance values) := by
  have hsum := OnGrid.sum h.squares_onGrid
  rw [List.length_map, h.length] at hsum
  have hvariance : exactVariance values =
      (4 : ℕ) * (values.map fun x => (x - exactMean values) ^ 2).sum / 100 := by
    rw [exactVariance]
    push_cast
    ring
  rw [hvariance]
  exact (hsum.scale 4).div_hundred

theorem exactVariance_nonneg : 0 ≤ exactVariance values := by
  have hsum : 0 ≤ (values.map fun x => (x - exactMean values) ^ 2).sum := by
    apply List.sum_nonneg
    intro y hy
    obtain ⟨x, -, rfl⟩ := List.mem_map.mp hy
    positivity
  unfold exactVariance
  positivity

theorem RateWindow.variance_eq (h : RateWindow values) :
    ddiv evaluatorPrecision (dsum evaluatorPrecision (values.map fun x =>
      dmul evaluatorPrecision (dsub evaluatorPrecision x (exactMean values))
        (dsub evaluatorPrecision x (exactMean values)))) values.length = exactVariance values := by
  have hsquares : (values.map fun x =>
      dmul evaluatorPrecision (dsub evaluatorPrecision x (exactMean values))
        (dsub evaluatorPrecision x (exactMean values))) =
      values.map fun x => (x - exactMean values) ^ 2 :=
    List.map_congr_left fun x hx => h.square_eq hx
  have hsum : dsum evaluatorPrecision (values.map fun x => (x - exactMean values) ^ 2) =
      (values.map fun x => (x - exactMean values) ^ 2).sum :=
    dsum_eq (by decide) h.squares_onGrid (by rw [List.length_map, h.length]; decide)
  rw [hsquares, hsum, h.length]
  exact ddiv_eq (by decide) (h.variance_onGrid.hasDigits (by decide))

end

/-! ### The quotients -/

theorem hasDigits_five : HasDigits evaluatorPrecision 5 := ⟨5, 0, by decide, by norm_num⟩

/-- A quotient that is not above 5 is not rounded above it. -/
theorem ddiv_le_five {a m : ℚ} (ha : 0 ≤ a) (hm : 0 < m) (h : a ≤ 5 * m) :
    ddiv evaluatorPrecision a m ≤ 5 :=
  roundSignificant_le (by positivity) hasDigits_five ((div_le_iff₀ hm).mpr h)

/-- A quotient that is above 5 by some units of the place `d` is not rounded to 5. -/
theorem five_lt_ddiv {a m : ℚ} {d : ℕ} (hm : 0 < m) (hd : 5 * 10 ^ d + 1 < 10 ^ evaluatorPrecision)
    (h : (5 + 1 / 10 ^ d) * m ≤ a) : 5 < ddiv evaluatorPrecision a m := by
  have hgrid : OnGrid d (5 * 10 ^ d + 1) (5 + 1 / 10 ^ d) := by
    refine ⟨5 * 10 ^ d + 1, ?_, ?_⟩
    · rw [abs_of_pos (by positivity)]
      push_cast
      exact le_rfl
    · push_cast
      field_simp
  have hquotient : 5 + 1 / 10 ^ d ≤ a / m := (le_div_iff₀ hm).mpr h
  have hpos : (0 : ℚ) < 1 / 10 ^ d := by positivity
  calc (5 : ℚ) < 5 + 1 / 10 ^ d := by linarith
    _ ≤ ddiv evaluatorPrecision a m :=
      le_roundSignificant (by linarith) (hgrid.hasDigits hd) hquotient

/-! ### The gate of a window -/

/-- The quotient of variation of a window with the mean and the variance. -/
def cvOf (mean variance : ℚ) : ℚ :=
  ddiv evaluatorPrecision (dmul evaluatorPrecision 100 (dsqrt evaluatorPrecision variance)) mean

section
variable {m v : ℚ}

theorem le_of_onGrid (h : OnGrid 8 (10 ^ 17) m) : m ≤ 10 ^ 9 := by
  obtain ⟨n, hn, rfl⟩ := h
  have hle : (n : ℚ) ≤ 10 ^ 17 := by exact_mod_cast (le_abs_self n).trans hn
  rw [div_le_iff₀ (by positivity)]
  linarith

theorem onGrid_five_mul (h : OnGrid 8 (10 ^ 17) m) : OnGrid 8 (5 * 10 ^ 17) (5 * m) := h.scale 5

theorem onGrid_twentieth (h : OnGrid 8 (10 ^ 17) m) : OnGrid 10 (5 * 10 ^ 17) (m / 20) := by
  have heq : m / 20 = 5 * m / 100 := by ring
  rw [heq]
  exact (onGrid_five_mul h).div_hundred

theorem cv_le_five (hm : 0 < m) (hmean : OnGrid 8 (10 ^ 17) m) (hv : 0 ≤ v) (h : v ≤ (m / 20) ^ 2) :
    cvOf m v ≤ 5 := by
  have hroot : dsqrt evaluatorPrecision v ≤ m / 20 :=
    dsqrt_le (by decide) hv (by positivity) ((onGrid_twentieth hmean).hasDigits (by decide)) h
  have hpositive : 0 ≤ 100 * dsqrt evaluatorPrecision v := mul_nonneg (by norm_num) dsqrt_nonneg
  have hproduct : dmul evaluatorPrecision 100 (dsqrt evaluatorPrecision v) ≤ 5 * m :=
    roundSignificant_le hpositive ((onGrid_five_mul hmean).hasDigits (by decide)) (by linarith)
  exact ddiv_le_five (roundSignificant_nonneg hpositive) hm hproduct

/-- Above the limit the variance is larger by a unit of the twentieth place, the root by one of the
thirtieth at least, and the quotient by one of the thirty-seventh. -/
theorem five_lt_cv (hm : 0 < m) (hmean : OnGrid 8 (10 ^ 17) m) (hvariance : OnGrid 18 (4 * 10 ^ 36) v)
    (h : (m / 20) ^ 2 < v) : 5 < cvOf m v := by
  have hle := le_of_onGrid hmean
  have hunit : OnGrid 30 1 (1 / 10 ^ 30) := ⟨1, by norm_num, by norm_num⟩
  have hgap : (m / 20) ^ 2 + 1 / 10 ^ 20 ≤ v := by
    have hsquare := (onGrid_twentieth hmean).mul (onGrid_twentieth hmean)
    rw [sq] at h ⊢
    exact hsquare.gap (hvariance.refine 2) h
  have habove : OnGrid 30 (5 * 10 ^ 17 * 10 ^ 20 + 1) (m / 20 + 1 / 10 ^ 30) :=
    ((onGrid_twentieth hmean).refine 20).add hunit
  have hhundred : OnGrid 30 (100 * (5 * 10 ^ 17 * 10 ^ 20 + 1)) (5 * m + 1 / 10 ^ 28) := by
    have hscaled : 5 * m + 1 / 10 ^ 28 = (100 : ℕ) * (m / 20 + 1 / 10 ^ 30) := by
      push_cast
      ring
    rw [hscaled]
    exact habove.scale 100
  have hsmall : (10 : ℚ) ^ 9 / 10 ^ 31 + 1 / 10 ^ 60 ≤ 1 / 10 ^ 20 := by norm_num
  have hroot : m / 20 + 1 / 10 ^ 30 ≤ dsqrt evaluatorPrecision v := by
    apply le_dsqrt (by decide) (lt_of_le_of_lt (by positivity) h) (by positivity)
      (habove.hasDigits (by decide))
    calc (m / 20 + 1 / 10 ^ 30) ^ 2 = (m / 20) ^ 2 + m / 10 ^ 31 + 1 / 10 ^ 60 := by ring
      _ ≤ (m / 20) ^ 2 + 10 ^ 9 / 10 ^ 31 + 1 / 10 ^ 60 := by gcongr
      _ ≤ (m / 20) ^ 2 + 1 / 10 ^ 20 := by linarith
      _ ≤ v := hgap
  have hproduct : 5 * m + 1 / 10 ^ 28 ≤
      dmul evaluatorPrecision 100 (dsqrt evaluatorPrecision v) := by
    have hpos : (0 : ℚ) < m / 20 + 1 / 10 ^ 30 := by positivity
    exact le_roundSignificant (by linarith) (hhundred.hasDigits (by decide)) (by linarith)
  apply five_lt_ddiv (d := 37) hm (by decide)
  calc (5 + 1 / 10 ^ 37) * m = 5 * m + m / 10 ^ 37 := by ring
    _ ≤ 5 * m + 10 ^ 9 / 10 ^ 37 := by gcongr
    _ = 5 * m + 1 / 10 ^ 28 := by norm_num
    _ ≤ _ := hproduct

end

/-- The gate of a window decides the exact inequality. -/
theorem RateWindow.cv_iff {values : List ℚ} (h : RateWindow values) :
    cvOf (exactMean values) (exactVariance values) ≤ cvMaxPct ↔
      exactVariance values ≤ (exactMean values / 20) ^ 2 := by
  constructor
  · intro hcv
    by_contra hlarge
    exact absurd hcv (not_le.mpr (five_lt_cv h.mean_pos h.mean_onGrid h.variance_onGrid
      (not_le.mp hlarge)))
  · exact cv_le_five h.mean_pos h.mean_onGrid exactVariance_nonneg

/-! ### The gate of a pair -/

def meanShiftOf (mean1 mean2 : ℚ) : ℚ :=
  ddiv evaluatorPrecision (dmul evaluatorPrecision 100 |dsub evaluatorPrecision mean2 mean1|) mean1

theorem meanShift_iff {m1 m2 : ℚ} (hpos : 0 < m1) (h1 : OnGrid 8 (10 ^ 17) m1)
    (h2 : OnGrid 8 (10 ^ 17) m2) :
    meanShiftOf m1 m2 ≤ meanShiftMaxPct ↔ 20 * |m2 - m1| ≤ m1 := by
  have hshift := h2.sub h1
  have hhundred : OnGrid 8 (100 * (10 ^ 17 + 10 ^ 17)) (100 * |m2 - m1|) := hshift.abs.scale 100
  rw [meanShiftOf, dsub_eq (by decide) (hshift.hasDigits (by decide)),
    dmul_eq (by decide) (hhundred.hasDigits (by decide))]
  constructor
  · intro hle
    by_contra hlarge
    have hgap : 5 * m1 + 1 / 10 ^ 8 ≤ 100 * |m2 - m1| := by
      apply (onGrid_five_mul h1).gap hhundred
      linarith [not_le.mp hlarge]
    refine absurd hle (not_le.mpr (five_lt_ddiv (d := 17) hpos (by decide) ?_))
    calc (5 + 1 / 10 ^ 17) * m1 = 5 * m1 + m1 / 10 ^ 17 := by ring
      _ ≤ 5 * m1 + 10 ^ 9 / 10 ^ 17 := by
        gcongr
        exact le_of_onGrid h1
      _ = 5 * m1 + 1 / 10 ^ 8 := by norm_num
      _ ≤ _ := hgap
  · intro hle
    exact ddiv_le_five (by positivity) hpos (by linarith)

/-! ### The report -/

def ratesOf (window : List IntervalRow) : List ℚ :=
  window.map fun row => reprDecimal row.throughputKbitS

theorem rateWindow_of_geometry {window : List IntervalRow}
    (hgeometry : validateWindowGeometry window = .ok ())
    (hrates : ∀ row ∈ window, RateDecimal (reprDecimal row.throughputKbitS)) :
    RateWindow (ratesOf window) where
  length := by
    rw [ratesOf, List.length_map]
    exact (validateWindowGeometry_ok.mp hgeometry).1
  rates := by
    intro x hx
    obtain ⟨row, hrow, rfl⟩ := List.mem_map.mp hx
    exact hrates row hrow

/-- What the metrics of a window say. -/
structure ExactMetrics (window : List IntervalRow) (metrics : WindowMetrics) : Prop where
  mean : metrics.meanKbitS = exactMean (ratesOf window)
  pos : 0 < metrics.meanKbitS
  cv : metrics.cvPct ≤ cvMaxPct ↔
    exactVariance (ratesOf window) ≤ (exactMean (ratesOf window) / 20) ^ 2

theorem windowMetrics_exact {window : List IntervalRow}
    (hgeometry : validateWindowGeometry window = .ok ())
    (hrates : ∀ row ∈ window, RateDecimal (reprDecimal row.throughputKbitS)) :
    ∃ metrics, windowMetrics window = .ok metrics ∧ ExactMetrics window metrics := by
  have hwindow := rateWindow_of_geometry hgeometry hrates
  have hmean : ddiv evaluatorPrecision (dsum evaluatorPrecision (ratesOf window))
      (ratesOf window).length = exactMean (ratesOf window) := hwindow.mean_eq
  have hpos : 0 < ddiv evaluatorPrecision (dsum evaluatorPrecision (ratesOf window))
      (ratesOf window).length := by
    rw [hmean]
    exact hwindow.mean_pos
  refine ⟨_, unit_bind_eq_ok.mpr ⟨hgeometry, require_bind_eq_ok.mpr ⟨hpos, rfl⟩⟩, hmean, hpos, ?_⟩
  show ddiv evaluatorPrecision (dmul evaluatorPrecision 100 (dsqrt evaluatorPrecision
    (ddiv evaluatorPrecision (dsum evaluatorPrecision ((ratesOf window).map fun x =>
      dmul evaluatorPrecision (dsub evaluatorPrecision x (ddiv evaluatorPrecision
        (dsum evaluatorPrecision (ratesOf window)) (ratesOf window).length))
        (dsub evaluatorPrecision x (ddiv evaluatorPrecision
        (dsum evaluatorPrecision (ratesOf window)) (ratesOf window).length))))
      (ratesOf window).length))) (ddiv evaluatorPrecision (dsum evaluatorPrecision (ratesOf window))
        (ratesOf window).length) ≤ cvMaxPct ↔ _
  rw [hmean, hwindow.variance_eq]
  exact hwindow.cv_iff

/-- The gates of a report on two windows against exact arithmetic. -/
structure ExactGates (w1 w2 : List IntervalRow) (report : Report) : Prop where
  cvW1 : report.cvW1Gate = .pass ↔
    exactVariance (ratesOf w1) ≤ (exactMean (ratesOf w1) / 20) ^ 2
  cvW2 : report.cvW2Gate = .pass ↔
    exactVariance (ratesOf w2) ≤ (exactMean (ratesOf w2) / 20) ^ 2
  meanShift : report.meanShiftGate = .pass ↔
    20 * |exactMean (ratesOf w2) - exactMean (ratesOf w1)| ≤ exactMean (ratesOf w1)

theorem gateOf_eq_pass_iff {passed : Bool} : gateOf passed = .pass ↔ passed = true := by
  cases passed <;> decide

theorem exactGates_of_evaluate {mode : Mode} {rows run w1 w2 : List IntervalRow} {report : Report}
    (hrun : latestEligibleRun mode rows = .ok run) (hwindows : lastWindows run = some (w1, w2))
    (hrates : ∀ row ∈ w1 ++ w2, RateDecimal (reprDecimal row.throughputKbitS))
    (h : evaluate mode rows = .ok report) : ExactGates w1 w2 report := by
  obtain ⟨hrates1, hrates2⟩ := List.forall_mem_append.mp hrates
  rw [evaluate, hrun, ok_bind] at h
  simp only [hwindows, bind_eq_ok] at h
  obtain ⟨m1, hm1, m2, hm2, -, -, duration, -, h⟩ := h
  obtain rfl := Except.ok.inj h
  obtain ⟨_, hgeometry1, _⟩ := bind_eq_ok.mp hm1
  obtain ⟨_, hgeometry2, _⟩ := bind_eq_ok.mp hm2
  obtain ⟨m1', hm1', hexact1⟩ := windowMetrics_exact hgeometry1 hrates1
  obtain rfl := Except.ok.inj (hm1.symm.trans hm1')
  obtain ⟨m2', hm2', hexact2⟩ := windowMetrics_exact hgeometry2 hrates2
  obtain rfl := Except.ok.inj (hm2.symm.trans hm2')
  have hwindow1 := rateWindow_of_geometry hgeometry1 hrates1
  have hwindow2 := rateWindow_of_geometry hgeometry2 hrates2
  refine ⟨?_, ?_, ?_⟩
  · exact gateOf_eq_pass_iff.trans (decide_eq_true_iff.trans hexact1.cv)
  · exact gateOf_eq_pass_iff.trans (decide_eq_true_iff.trans hexact2.cv)
  · refine gateOf_eq_pass_iff.trans (decide_eq_true_iff.trans ?_)
    rw [hexact1.mean, hexact2.mean]
    exact meanShift_iff hwindow1.mean_pos hwindow1.mean_onGrid hwindow2.mean_onGrid

/-- The gates decide the exact inequalities, and every division has a divisor that is not zero. -/
theorem gates_exact {mode : Mode} {rows run w1 w2 : List IntervalRow}
    (hrun : latestEligibleRun mode rows = .ok run) (hwindows : lastWindows run = some (w1, w2))
    (hrates : ∀ row ∈ w1 ++ w2, RateDecimal (reprDecimal row.throughputKbitS)) :
    (∀ w ∈ [w1, w2], validateWindowGeometry w = .ok () → (ratesOf w).length ≠ 0 ∧
      ∃ metrics, windowMetrics w = .ok metrics ∧ ExactMetrics w metrics) ∧
    ∀ report, evaluate mode rows = .ok report → ExactGates w1 w2 report := by
  refine ⟨?_, fun report hreport => exactGates_of_evaluate hrun hwindows hrates hreport⟩
  intro w hw hgeometry
  have hmem : ∀ row ∈ w, row ∈ w1 ++ w2 := by
    intro row hrow
    rcases List.mem_pair.mp hw with rfl | rfl
    · exact List.mem_append_left _ hrow
    · exact List.mem_append_right _ hrow
  have hall := fun row hrow => hrates row (hmem row hrow)
  have hlength := (rateWindow_of_geometry hgeometry hall).length
  exact ⟨by omega, windowMetrics_exact hgeometry hall⟩

/-- On the regular file both windows have the rate 18400 throughout. -/
theorem gates_exact_sample : ∃ run w1 w2,
    latestEligibleRun (.postStep firstReadback) tickRecords = .ok run ∧
    lastWindows run = some (w1, w2) ∧
    ∀ report, evaluate (.postStep firstReadback) tickRecords = .ok report →
      ExactGates w1 w2 report := by
  obtain ⟨report, hreport, ⟨run, hrun, hwindows⟩, -⟩ := tick_reported
  refine ⟨run, _, _, hrun, hwindows, (gates_exact hrun hwindows ?_).2⟩
  rw [List.take_append_drop]
  intro row hrow
  obtain ⟨i, -, rfl⟩ := List.mem_map.mp hrow
  exact ⟨18400000000, by norm_num, by norm_num, RegularFile.reprDecimal_rate.trans (by norm_num)⟩

end TcdOran.Receiver
