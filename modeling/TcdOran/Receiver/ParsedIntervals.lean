import TcdOran.Lib.ShortestDecimal
import TcdOran.Receiver.Canonicalizer

/-! What the parser makes of a line is taken by the canonicalizer: the tolerances of both programs and
the floats between them. -/
namespace TcdOran.Receiver
open TcdOran.Lib Python

/-- The times of the line have nine fractional digits at most. -/
def NanoTimes (line : List ℕ) : Prop :=
  ∀ captures, intervalRe.matchLine line = some captures → ∀ name ∈ ["start", "end"],
    ∃ n : ℕ, decimalGroup ((captures.lookup name).getD []) = .ok ((n : ℚ) / 10 ^ 9)

theorem orRaise_eq_ok {α : Type} {error : String} {value : Option α} {a : α} :
    orRaise error value = .ok a ↔ value = some a := by
  cases value <;> simp [orRaise]

/-- The times of a record and what becomes of them. -/
structure Parsed (start «end» : ℚ) (interval : Interval) : Prop where
  order : start < «end»
  shape : ∃ normalized, intervalShape (dsub defaultPrecision «end» start) =
    some (interval.shape, normalized) ∧
      nearestBinary64 normalized = some interval.intervalDurationS
  start_read : nearestBinary64 start = some interval.intervalStartS
  end_read : nearestBinary64 «end» = some interval.intervalEndS

theorem parsed_of_parseInterval {line : List ℕ} {interval : Interval}
    (h : parseInterval line = .ok (some interval)) : ∃ captures start «end»,
      intervalRe.matchLine line = some captures ∧
      decimalGroup ((captures.lookup "start").getD []) = .ok start ∧
      decimalGroup ((captures.lookup "end").getD []) = .ok «end» ∧ Parsed start «end» interval := by
  rw [parseInterval] at h
  cases hcaptures : intervalRe.matchLine line with
  | none =>
    rw [hcaptures] at h
    cases h
  | some captures =>
    rw [hcaptures] at h
    simp only [bind_eq_ok] at h
    obtain ⟨start, hstart, «end», hend, h⟩ := h
    split_ifs at h with horder
    · cases h
    · cases hshape : intervalShape (dsub defaultPrecision «end» start) with
      | none =>
        rw [hshape] at h
        cases h
      | some found =>
        obtain ⟨shape, normalized⟩ := found
        rw [hshape] at h
        simp only [bind_eq_ok] at h
        obtain ⟨_, _, _, _, _, _, _, _, _, _, startS, hstartS, endS, hendS, durationS, hdurationS, h⟩ := h
        obtain ⟨_, _, _, _, _, _, _, _, _, _, h⟩ := h
        obtain rfl := Option.some.inj (Except.ok.inj h)
        exact ⟨captures, start, «end», rfl, hstart, hend, not_le.mp horder,
          ⟨normalized, hshape, orRaise_eq_ok.mp hdurationS⟩, orRaise_eq_ok.mp hstartS,
          orRaise_eq_ok.mp hendS⟩

/-! ### The shape -/

/-- A duration in nanoseconds, as the shapes see it. -/
structure ShapedNanos (k : ℕ) (shape : IntervalShape) (normalized : ℚ) : Prop where
  positive : 0 < k
  complete : shape = .complete0p2 → normalized = 1 / 5 ∧ |(k : ℚ) / 10 ^ 9 - 1 / 5| ≤ 1 / 10 ^ 6
  partialTerminal : shape = .partialTerminalCandidate → normalized = k / 10 ^ 9 ∧ k < 200000000

theorem lt_precision : 2000000000 < 10 ^ defaultPrecision := by decide

theorem onGrid_nanos (k : ℕ) : OnGrid 9 k (k / 10 ^ 9) := ⟨k, by simp, by simp⟩

/-- A difference of nanoseconds that has a shape is not rounded. -/
theorem shaped_of_intervalShape {n m : ℕ} (horder : (n : ℚ) / 10 ^ 9 < m / 10 ^ 9)
    {shape : IntervalShape} {normalized : ℚ}
    (h : intervalShape (dsub defaultPrecision (m / 10 ^ 9) (n / 10 ^ 9)) = some (shape, normalized)) :
    ShapedNanos (m - n) shape normalized := by
  have hlt : n < m := by
    rw [div_lt_div_iff_of_pos_right (by positivity)] at horder
    exact_mod_cast horder
  have hsub : (m : ℚ) / 10 ^ 9 - n / 10 ^ 9 = ((m - n : ℕ) : ℚ) / 10 ^ 9 := by
    rw [Nat.cast_sub hlt.le]
    ring
  have hpos : (0 : ℚ) < ((m - n : ℕ) : ℚ) / 10 ^ 9 := by
    have hcast : (0 : ℚ) < ((m - n : ℕ) : ℚ) := by exact_mod_cast Nat.sub_pos_of_lt hlt
    positivity
  have hone : ((m - n : ℕ) : ℚ) / 10 ^ 9 < 1 := by
    by_contra hlarge
    have hround : 1 ≤ dsub defaultPrecision ((m : ℚ) / 10 ^ 9) (n / 10 ^ 9) := by
      rw [dsub, hsub]
      exact le_roundSignificant hpos (hasDigits_zpow 27 0) (not_lt.mp hlarge)
    have hnone : intervalShape (dsub defaultPrecision ((m : ℚ) / 10 ^ 9) (n / 10 ^ 9)) = none := by
      apply if_pos
      refine lt_of_lt_of_le ?_ hround
      norm_num [primaryTsS, durationToleranceS]
    rw [hnone] at h
    cases h
  have hk : m - n < 10 ^ 9 := by
    rw [div_lt_one (by positivity)] at hone
    exact_mod_cast hone
  have hprecision := lt_precision
  have hexact : dsub defaultPrecision ((m : ℚ) / 10 ^ 9) (n / 10 ^ 9) =
      ((m - n : ℕ) : ℚ) / 10 ^ 9 := by
    rw [dsub_eq (by decide) (by rw [hsub]; exact (onGrid_nanos _).hasDigits (by omega)),
      hsub]
  have hdeviation : dsub defaultPrecision (((m - n : ℕ) : ℚ) / 10 ^ 9) primaryTsS =
      ((m - n : ℕ) : ℚ) / 10 ^ 9 - 1 / 5 := by
    have hfifth : OnGrid 9 200000000 (1 / 5) := ⟨200000000, by norm_num, by norm_num⟩
    exact dsub_eq (by decide) (((onGrid_nanos _).sub hfifth).hasDigits (by omega))
  rw [hexact, intervalShape, hdeviation] at h
  refine ⟨Nat.sub_pos_of_lt hlt, ?_, ?_⟩
  · rintro rfl
    split_ifs at h with hlong hnear hshort
    · obtain ⟨-, rfl⟩ := Prod.mk.inj (Option.some.inj h)
      exact ⟨rfl, hnear.trans (by norm_num [durationToleranceS])⟩
    · cases h
  · rintro rfl
    split_ifs at h with hlong hnear hshort
    · cases h
    · obtain ⟨-, rfl⟩ := Prod.mk.inj (Option.some.inj h)
      refine ⟨rfl, ?_⟩
      have hfifth := hshort.2
      rw [primaryTsS, div_lt_iff₀ (by positivity)] at hfifth
      have hcast : ((m - n : ℕ) : ℚ) < 200000000 := hfifth.trans_le (by norm_num)
      exact_mod_cast hcast

/-! ### The record -/

/-- The nanoseconds that a shape leaves as the duration. -/
theorem ShapedNanos.normalized_eq {k : ℕ} {shape : IntervalShape} {normalized : ℚ}
    (h : ShapedNanos k shape normalized) :
    ∃ d : ℕ, 0 < d ∧ d ≤ 200000000 ∧ normalized = d / 10 ^ 9 := by
  cases hshape : shape with
  | complete0p2 =>
    refine ⟨200000000, by decide, le_rfl, ?_⟩
    rw [(h.complete hshape).1]
    norm_num
  | partialTerminalCandidate =>
    obtain ⟨heq, hlt⟩ := h.partialTerminal hshape
    exact ⟨k, h.positive, hlt.le, heq⟩

/-- A duration up to a fifth of a second is read back as it was written. -/
theorem reprDecimal_duration {d : ℕ} (hd : d ≤ 200000000) {f : ℚ}
    (h : nearestBinary64 (d / 10 ^ 9) = some f) : reprDecimal f = d / 10 ^ 9 := by
  have hcast : (d : ℚ) ≤ 200000000 := by exact_mod_cast hd
  have hsmall : (d : ℚ) / 10 ^ 9 < 2 ^ 23 := by
    rw [div_lt_iff₀ (by positivity)]
    linarith
  exact reprDecimal_of_nanos h (nearest_lt_of_nanos hsmall h)

theorem exactDurationNs_of_nanos {d : ℕ} (hpos : 0 < d) (hd : d ≤ 200000000) {f : ℚ}
    (h : reprDecimal f = d / 10 ^ 9) : exactDurationNs defaultPrecision f = .ok (d : ℤ) := by
  have hcast : (0 : ℚ) < d := by exact_mod_cast hpos
  have hpositive : 0 < reprDecimal f := by
    rw [h]
    positivity
  have hproduct : reprDecimal f * nsPerSecond = d := by
    rw [h, nsPerSecond]
    ring
  have hscaled : dmul defaultPrecision (reprDecimal f) nsPerSecond = d := by
    rw [dmul_eq (by decide), hproduct]
    rw [hproduct]
    have hprecision := lt_precision
    exact OnGrid.hasDigits (d := 0) (N := d) ⟨d, by simp, by simp⟩ (by omega)
  have hwhole : ((⌊(d : ℚ)⌋ : ℤ) : ℚ) = d := by simp
  rw [exactDurationNs, ok_of_require hpositive, ok_bind, hscaled]
  simp only
  rw [ok_of_require hwhole, ok_bind]
  simp only [Int.floor_natCast]
  rfl

/-- The class that a shape gets. -/
structure ClassOfShape (interval : Interval) : Prop where
  exists_class : ∃ c, baseIntervalClass interval = .ok c
  complete : (baseIntervalClass interval = .ok .complete ∨
    baseIntervalClass interval = .ok .startupGuard) ↔ interval.shape = .complete0p2
  partialTerminal : baseIntervalClass interval = .ok .partialTerminal ↔
    interval.shape = .partialTerminalCandidate

theorem classOfShape_of_shaped {interval : Interval} {k : ℕ} {normalized : ℚ}
    (hshaped : ShapedNanos k interval.shape normalized)
    (hrepr : reprDecimal interval.intervalDurationS = normalized) : ClassOfShape interval := by
  cases hshape : interval.shape with
  | complete0p2 =>
    have hnear : |dsub defaultPrecision (reprDecimal interval.intervalDurationS) primaryTs| ≤
        epsilon := by
      rw [hrepr, (hshaped.complete hshape).1, primaryTs, dsub_self, abs_zero]
      norm_num [epsilon]
    have hclass : baseIntervalClass interval =
        .ok (if reprDecimal interval.intervalEndS ≤ startupGuardS + epsilon then .startupGuard
          else .complete) := by
      rw [baseIntervalClass, hshape]
      simp only
      rw [ok_of_require hnear, ok_bind]
      rfl
    refine ⟨⟨_, hclass⟩, ?_, ?_⟩ <;> rw [hclass] <;> split_ifs <;> simp [hshape]
  | partialTerminalCandidate =>
    obtain ⟨heq, hlt⟩ := hshaped.partialTerminal hshape
    have hcast : (k : ℚ) < 200000000 := by exact_mod_cast hlt
    have hpos : (0 : ℚ) < k := by exact_mod_cast hshaped.positive
    have hbounds : 0 < reprDecimal interval.intervalDurationS ∧
        reprDecimal interval.intervalDurationS < primaryTs := by
      rw [hrepr, heq]
      refine ⟨by positivity, ?_⟩
      rw [primaryTs, div_lt_iff₀ (by positivity)]
      linarith
    have hclass : baseIntervalClass interval = .ok .partialTerminal := by
      rw [baseIntervalClass, hshape]
      simp only
      rw [ok_of_require hbounds]
      rfl
    refine ⟨⟨_, hclass⟩, ?_, ?_⟩ <;> rw [hclass] <;> simp [hshape]

/-- How far the printed times are from the printed duration. -/
def timeGap (interval : Interval) : ℚ :=
  |reprDecimal interval.intervalEndS - reprDecimal interval.intervalStartS -
    reprDecimal interval.intervalDurationS|

/-- What the canonicalizer asks of a record, and how well its times agree. -/
structure Canonicalizable (interval : Interval) : Prop where
  base : ClassOfShape interval
  duration : ∃ durationNs, exactDurationNs defaultPrecision interval.intervalDurationS = .ok durationNs
  near : interval.intervalEndS < 2 ^ 23 → timeGap interval ≤ 1 / 10 ^ 6
  bounded : timeGap interval ≤
    1 / 10 ^ 6 + (interval.intervalEndS + interval.intervalStartS) / 2 ^ 51

theorem ShapedNanos.gap_le {n m : ℕ} {shape : IntervalShape} {normalized : ℚ} (hlt : n < m)
    (h : ShapedNanos (m - n) shape normalized) :
    |(m : ℚ) / 10 ^ 9 - n / 10 ^ 9 - normalized| ≤ 1 / 10 ^ 6 := by
  have hsub : (m : ℚ) / 10 ^ 9 - n / 10 ^ 9 = ((m - n : ℕ) : ℚ) / 10 ^ 9 := by
    rw [Nat.cast_sub hlt.le]
    ring
  rw [hsub]
  cases hshape : shape with
  | complete0p2 =>
    obtain ⟨rfl, hnear⟩ := h.complete hshape
    exact hnear
  | partialTerminalCandidate =>
    rw [(h.partialTerminal hshape).1, sub_self, abs_zero]
    norm_num

theorem reprDecimal_time {n : ℕ} {f : ℚ} (h : nearestBinary64 (n / 10 ^ 9) = some f) :
    |reprDecimal f - n / 10 ^ 9| ≤ f / 2 ^ 51 := by
  rcases Nat.eq_zero_or_pos n with rfl | hpos
  · have hzero : f = 0 := by
      simp only [nearestBinary64, Nat.cast_zero, zero_div, if_true, Option.some.injEq] at h
      exact h.symm
    have hsmall : f < 2 ^ 23 := by
      rw [hzero]
      norm_num
    rw [reprDecimal_of_nanos h hsmall, sub_self, abs_zero, hzero, zero_div]
  · have hone : (1 : ℚ) ≤ n := by exact_mod_cast hpos
    exact reprDecimal_close (by gcongr) h

/-- What the parser makes of a line with times in nanoseconds. -/
theorem parsed_canonicalizable {line : List ℕ} {interval : Interval} (hnano : NanoTimes line)
    (h : parseInterval line = .ok (some interval)) : Canonicalizable interval := by
  obtain ⟨captures, start, «end», hcaptures, hstart, hend, hparsed⟩ := parsed_of_parseInterval h
  obtain ⟨n, hn⟩ := hnano captures hcaptures "start" (by simp)
  obtain ⟨m, hm⟩ := hnano captures hcaptures "end" (by simp)
  obtain rfl := Except.ok.inj (hstart.symm.trans hn)
  obtain rfl := Except.ok.inj (hend.symm.trans hm)
  obtain ⟨horder, ⟨normalized, hshape, hduration⟩, hstartS, hendS⟩ := hparsed
  have hlt : n < m := by
    rw [div_lt_div_iff_of_pos_right (by positivity)] at horder
    exact_mod_cast horder
  have hshaped := shaped_of_intervalShape horder hshape
  obtain ⟨d, hpos, hd, rfl⟩ := hshaped.normalized_eq
  have hrepr := reprDecimal_duration hd hduration
  have hgap := hshaped.gap_le hlt
  refine ⟨classOfShape_of_shaped hshaped hrepr, ⟨d, exactDurationNs_of_nanos hpos hd hrepr⟩, ?_, ?_⟩
  · intro hsmall
    have hbelow : (n : ℚ) / 10 ^ 9 < 2 ^ 23 := horder.trans (lt_of_nearest_lt hendS hsmall)
    rw [timeGap, hrepr, reprDecimal_of_nanos hendS hsmall,
      reprDecimal_of_nanos hstartS (nearest_lt_of_nanos hbelow hstartS)]
    exact hgap
  · have hsplit : reprDecimal interval.intervalEndS - reprDecimal interval.intervalStartS - d / 10 ^ 9 =
        (m / 10 ^ 9 - n / 10 ^ 9 - d / 10 ^ 9) + ((reprDecimal interval.intervalEndS - m / 10 ^ 9) -
          (reprDecimal interval.intervalStartS - n / 10 ^ 9)) := by ring
    rw [timeGap, hrepr, hsplit, add_div]
    refine (abs_add_le _ _).trans (add_le_add hgap ((abs_sub _ _).trans ?_))
    exact add_le_add (reprDecimal_time hendS) (reprDecimal_time hstartS)

/-! ### Two lines -/

def nearLine : List ℕ := chars "[  5]   0.00-0.20   sec  449 KBytes  18.4 Mbits/sec"

/-- Behind `2 ^ 23` seconds the floats are further apart than the nanoseconds. -/
def farLine : List ℕ :=
  chars "[  5] 8388608.000000008-8388608.200001008 sec  1 Bytes  1 bits/sec"

/-- The times of the line. -/
def timesOf (line : List ℕ) : Option (Except String ℚ × Except String ℚ) :=
  (intervalRe.matchLine line).map fun captures =>
    (decimalGroup ((captures.lookup "start").getD []), decimalGroup ((captures.lookup "end").getD []))

theorem nanoTimes_of_timesOf {line : List ℕ} {n m : ℕ}
    (h : timesOf line = some (.ok ((n : ℚ) / 10 ^ 9), .ok ((m : ℚ) / 10 ^ 9))) : NanoTimes line := by
  intro captures hcaptures name hname
  rw [timesOf, hcaptures] at h
  obtain ⟨hstart, hend⟩ := Prod.mk.inj (Option.some.inj h)
  rcases List.mem_pair.mp hname with rfl | rfl
  · exact ⟨n, hstart⟩
  · exact ⟨m, hend⟩

theorem parsed_canonicalizable_sample : ∃ interval, parseInterval nearLine = .ok (some interval) ∧
    Canonicalizable interval := by
  have hnano : NanoTimes nearLine :=
    nanoTimes_of_timesOf (n := 0) (m := 200000000) (by decide +kernel)
  have hparsed : (parseInterval nearLine).toOption.join.isSome = true := by decide +kernel
  cases hresult : parseInterval nearLine with
  | error e => simp [hresult, Except.toOption] at hparsed
  | ok found =>
    cases found with
    | none => simp [hresult, Except.toOption] at hparsed
    | some interval => exact ⟨interval, rfl, parsed_canonicalizable hnano hresult⟩

theorem far_line_apart : NanoTimes farLine ∧ ∃ interval, parseInterval farLine = .ok (some interval) ∧
    ¬ timeGap interval ≤ 1 / 10 ^ 6 := by
  refine ⟨nanoTimes_of_timesOf (n := 8388608000000008) (m := 8388608200001008) (by decide +kernel), ?_⟩
  have hgap : (parseInterval farLine).toOption.join.any
      (fun interval => decide (¬ timeGap interval ≤ 1 / 10 ^ 6)) = true := by decide +kernel
  cases hresult : parseInterval farLine with
  | error e => simp [hresult, Except.toOption] at hgap
  | ok found =>
    cases found with
    | none => simp [hresult, Except.toOption] at hgap
    | some interval => exact ⟨interval, rfl, by simpa [hresult, Except.toOption] using hgap⟩

end TcdOran.Receiver
