import TcdOran.Receiver.Freshness

/-! The freshness gate beside the evaluator: which files it accepts, and that the windows it selects
are those that the evaluator reports. -/
namespace TcdOran.Receiver
open TcdOran.Lib Python

/-! ### What the freshness gate selects -/

/-- A complete interval of 0.2 s. -/
structure IntervalRow.Complete (row : IntervalRow) : Prop where
  intervalClass : row.intervalClass = .complete
  duration : reprDecimal row.intervalDurationS = 1 / 5

theorem completeUntil_complete {cutoff previous : Option ℤ} {rows complete : List IntervalRow}
    (h : completeUntil cutoff previous rows = .ok complete) : ∀ row ∈ complete, row.Complete := by
  induction rows generalizing previous complete with
  | nil =>
    obtain rfl := Except.ok.inj h
    simp
  | cons row rows ih =>
    simp only [completeUntil, require_bind_eq_ok] at h
    obtain ⟨-, h⟩ := h
    split_ifs at h with hskip
    · exact ih h
    · simp only [bind_eq_ok, require_eq_ok] at h
      obtain ⟨-, hduration, rest, hrest, h⟩ := h
      obtain rfl := Except.ok.inj h
      intro other hother
      rcases List.mem_cons.mp hother with rfl | hother
      · exact ⟨not_not.mp fun hclass => hskip (.inl hclass), hduration⟩
      · exact ih hrest other hother

theorem isComplete_complete {row : IntervalRow} (h : row.Complete) : isComplete row = true := by
  simp [isComplete, h.intervalClass, h.duration, primaryTsSEvaluator, contiguityToleranceS]

theorem contiguous_of_meets {left right : IntervalRow} (h : meets left right = true) :
    contiguous left right = true := by
  have hmeets : reprDecimal left.intervalEndS = reprDecimal right.intervalStartS :=
    of_decide_eq_true h
  simp [contiguous, hmeets, contiguityToleranceS]

theorem validateWindow_ok {window : List IntervalRow} : validateWindow window = .ok () ↔
    window.length = 25 ∧ (window.IsChain fun left right => meets left right = true) ∧
      dsub defaultPrecision (spanOf window).2 (spanOf window).1 = 5 := by
  simp only [validateWindow, require_bind_eq_ok, all_neighbours_iff, require_eq_ok]

/-- What the freshness gate selects. -/
structure Selected (selected : List IntervalRow) : Prop where
  first : (selected.take 25).length = 25
  second : (selected.drop 25).length = 25
  complete : ∀ row ∈ selected, row.Complete
  chain : selected.IsChain fun left right => meets left right = true

theorem selectRows_ok {rows selected : List IntervalRow} {experimentId runId : List ℕ}
    {cutoff : Option ℤ} (h : selectRows rows experimentId runId cutoff = .ok selected) :
    Selected selected := by
  simp only [selectRows, loadRows, bind_eq_ok, require_eq_ok] at h
  obtain ⟨⟨all, complete⟩, ⟨-, -, complete', hcomplete, hpair⟩, -, -, _, hfirst, _, hsecond, -,
    hmeets, hselected⟩ := h
  obtain rfl := Except.ok.inj hselected
  obtain ⟨rfl, rfl⟩ := Prod.mk.inj (Except.ok.inj hpair)
  obtain ⟨hlength, hchain, -⟩ := validateWindow_ok.mp hfirst
  obtain ⟨hlength', hchain', -⟩ := validateWindow_ok.mp hsecond
  refine ⟨hlength, hlength', ?_, ?_⟩
  · exact fun row hrow => completeUntil_complete hcomplete row (List.mem_of_mem_drop hrow)
  · rw [← List.take_append_drop 25 (lastFifty complete'), List.isChain_append]
    refine ⟨hchain, hchain', ?_⟩
    intro last hlast first hfirst
    rw [Option.mem_def.mp hlast, Option.mem_def.mp hfirst] at hmeets
    exact hmeets

/-! ### The windows of both programs -/

theorem Selected.run {selected : List IntervalRow} (h : Selected selected) :
    latestEligibleRun .initialPreStep selected = .ok selected := by
  apply latestEligibleRun_all
  · intro row hrow
    rw [eligible, if_pos (isComplete_complete (h.complete row hrow))]
  · exact h.chain.imp fun left right hmeets => contiguous_of_meets hmeets

theorem lastWindows_fifty {run : List IntervalRow} (h : run.length = 50) :
    lastWindows run = some (run.take 25, run.drop 25) := by
  have hall : (run.drop 25).take 25 = run.drop 25 := by
    rw [List.take_of_length_le]
    rw [List.length_drop, h]
  simp [lastWindows, h, windowSamples, hall]

theorem Selected.length {selected : List IntervalRow} (h : Selected selected) :
    selected.length = 50 := by
  have hfirst := h.first
  have hsecond := h.second
  rw [List.length_take] at hfirst
  rw [List.length_drop] at hsecond
  omega

theorem windowMetrics_ids {window : List IntervalRow} {metrics : WindowMetrics}
    (h : windowMetrics window = .ok metrics) :
    metrics.recordIdFirst = window.head?.elim [] (·.recordId) ∧
      metrics.recordIdLast = window.getLast?.elim [] (·.recordId) := by
  simp only [windowMetrics, bind_eq_ok] at h
  obtain ⟨-, -, -, -, h⟩ := h
  obtain rfl := Except.ok.inj h
  exact ⟨rfl, rfl⟩

/-- The evaluator reports exactly the windows that the freshness gate has selected, and the gate that
compares them passes. -/
theorem windows_coincide {rows selected : List IntervalRow} {experimentId runId : List ℕ}
    {cutoff : Option ℤ} {report : Report}
    (hselect : selectRows rows experimentId runId cutoff = .ok selected)
    (hevaluate : evaluateSelected selected experimentId runId = .ok report) :
    selected.length = 50 ∧ (∃ m1 m2, report.w1 = some m1 ∧ report.w2 = some m2 ∧
      (selected.take 25).head?.map (·.recordId) = some m1.recordIdFirst ∧
      (selected.take 25).getLast?.map (·.recordId) = some m1.recordIdLast ∧
      (selected.drop 25).head?.map (·.recordId) = some m2.recordIdFirst ∧
      (selected.drop 25).getLast?.map (·.recordId) = some m2.recordIdLast) ∧
    bindingPass selected report = .ok true := by
  have hselected := selectRows_ok hselect
  have hfirst := hselected.first
  have hsecond := hselected.second
  simp only [evaluateSelected, bind_eq_ok] at hevaluate
  obtain ⟨official, hload, hevaluate⟩ := hevaluate
  obtain ⟨-, -, -, -, rfl⟩ := loadIntervals_ok_iff.mp hload
  obtain ⟨run, hrun, -, hwindows⟩ := evaluate_ok hevaluate
  obtain rfl := Except.ok.inj (hrun.symm.trans hselected.run)
  obtain ⟨m1, m2, hm1, hm2, h1, h2⟩ := hwindows _ _ (lastWindows_fifty hselected.length)
  obtain ⟨hfirst1, hlast1⟩ := windowMetrics_ids hm1
  obtain ⟨hfirst2, hlast2⟩ := windowMetrics_ids hm2
  have hends {window : List IntervalRow} (hlength : window.length = 25) :
      ∃ first last, window.head? = some first ∧ window.getLast? = some last := by
    have hne : window ≠ [] := by
      rintro rfl
      simp at hlength
    exact ⟨_, _, List.head?_eq_some_head hne, List.getLast?_eq_some_getLast hne⟩
  obtain ⟨a, b, ha, hb⟩ := hends hfirst
  obtain ⟨c, d, hc, hd⟩ := hends hsecond
  refine ⟨hselected.length, ⟨m1, m2, h1, h2, ?_, ?_, ?_, ?_⟩, ?_⟩
  · simp [hfirst1, ha]
  · simp [hlast1, hb]
  · simp [hfirst2, hc]
  · simp [hlast2, hd]
  · have hactual : actualBinding report = .ok (expectedBinding run) := by
      rw [actualBinding, h1, h2]
      exact congrArg Except.ok (WindowBinding.mk.injEq .. ▸ ⟨hfirst1, hlast1, hfirst2, hlast2⟩)
    rw [bindingPass, hactual]
    exact congrArg Except.ok (decide_eq_true rfl)

/-! ### Which files the freshness gate accepts -/

/-- The last fifty complete rows are two windows of the evaluator. -/
structure TwoWindows (rows : List IntervalRow) : Prop where
  enough : 50 ≤ (completeRows rows).length
  first : validateWindowGeometry ((lastFifty (completeRows rows)).take 25) = .ok ()
  second : validateWindowGeometry ((lastFifty (completeRows rows)).drop 25) = .ok ()

/-- The decimals of the window leave no gap, and it spans 5 s in the arithmetic of the gate. -/
structure ExactWindow (window : List IntervalRow) : Prop where
  chain : window.IsChain fun left right => meets left right = true
  span : dsub defaultPrecision (spanOf window).2 (spanOf window).1 = 5

/-- The schema fixes the duration of a complete interval. -/
theorem Admissible.duration {experimentId runId : List ℕ} {row : IntervalRow}
    (h : Admissible experimentId runId row) (hclass : row.intervalClass = .complete) :
    reprDecimal row.intervalDurationS = 1 / 5 := by
  have hvalid := h.valid
  simp only [intervalSchemaValid, Bool.and_eq_true] at hvalid
  obtain ⟨-, hduration⟩ := hvalid
  rw [hclass] at hduration
  rw [of_decide_eq_true hduration, reprDecimal_pointTwo]

/-- The loop accepts where the timestamps increase, and keeps the complete rows. -/
theorem completeUntil_ok_iff {cutoff previous : Option ℤ} {rows complete : List IntervalRow}
    (hcutoff : ∀ last ∈ cutoff, ∀ row ∈ rows, row.timestampUtcNs ≤ last)
    (hduration : ∀ row ∈ rows, row.intervalClass = .complete →
      reprDecimal row.intervalDurationS = 1 / 5) :
    completeUntil cutoff previous rows = .ok complete ↔
      (previous.toList ++ rows.map (·.timestampUtcNs)).IsChain (· < ·) ∧
      complete = completeRows rows := by
  induction rows generalizing previous complete with
  | nil => cases previous <;> simp [completeUntil, completeRows, eq_comm]
  | cons row rows ih =>
    have hearly : ¬(cutoff.any fun last => last < row.timestampUtcNs) = true := by
      simpa [Option.any_eq_true, Option.mem_def] using fun last hlast =>
        hcutoff last hlast row List.mem_cons_self
    have ih (rest : List IntervalRow) := @ih (some row.timestampUtcNs) rest
      (fun last hlast other hother => hcutoff last hlast other (List.mem_cons_of_mem row hother))
      fun other hother => hduration other (List.mem_cons_of_mem row hother)
    have hchain : (previous.toList ++ (row :: rows).map (·.timestampUtcNs)).IsChain (· < ·) ↔
        (previous.all fun last => last < row.timestampUtcNs) = true ∧
          (row.timestampUtcNs :: rows.map (·.timestampUtcNs)).IsChain (· < ·) := by
      cases previous <;> simp
    rw [completeUntil, require_bind_eq_ok, hchain, and_assoc]
    refine and_congr_right fun _ => ?_
    by_cases hclass : row.intervalClass = .complete
    · have hkept := hduration row List.mem_cons_self hclass
      have hrows : completeRows (row :: rows) = row :: completeRows rows := by
        simp [completeRows, hclass]
      rw [if_neg (by simp [hclass, hearly]), require_bind_eq_ok, bind_eq_ok, hrows]
      constructor
      · rintro ⟨-, rest, hrest, hcomplete⟩
        obtain ⟨htail, rfl⟩ := (ih rest).mp hrest
        exact ⟨htail, (Except.ok.inj hcomplete).symm⟩
      · rintro ⟨htail, rfl⟩
        exact ⟨hkept, _, (ih _).mpr ⟨htail, rfl⟩, rfl⟩
    · have hrows : completeRows (row :: rows) = completeRows rows := by
        simp [completeRows, hclass]
      rw [if_pos (.inl hclass), ih, hrows]
      rfl

theorem validateWindow_exact {window : List IntervalRow} (h : window.length = 25) :
    validateWindow window = .ok () ↔ ExactWindow window := by
  rw [validateWindow_ok]
  exact ⟨fun ⟨_, hchain, hspan⟩ => ⟨hchain, hspan⟩, fun hexact => ⟨h, hexact.chain, hexact.span⟩⟩

theorem loadRows_ok_iff {rows complete : List IntervalRow} {experimentId runId : List ℕ}
    {cutoff : Option ℤ} (hadmissible : ∀ row ∈ rows, Admissible experimentId runId row)
    (hcutoff : ∀ last ∈ cutoff, ∀ row ∈ rows, row.timestampUtcNs ≤ last) :
    loadRows rows experimentId runId cutoff = .ok (rows, complete) ↔
      (rows.map (·.timestampUtcNs)).IsChain (· < ·) ∧
      complete = completeRows rows := by
  have hids : rows.forM (fun row => do
      require (row.experimentId = experimentId) "experiment_id mismatch"
      require (row.runId = runId) "run_id mismatch") = .ok () := by
    rw [forM_eq_ok]
    intro row hrow
    obtain ⟨-, hexperiment, hrun⟩ := hadmissible row hrow
    simp [hexperiment, hrun]
  have hcomplete := @completeUntil_ok_iff cutoff none rows complete hcutoff fun row hrow =>
    (hadmissible row hrow).duration
  rw [loadRows, unit_bind_eq_ok, and_iff_right hids, bind_eq_ok]
  constructor
  · rintro ⟨_, hrows, hpair⟩
    obtain ⟨-, rfl⟩ := Prod.mk.inj (Except.ok.inj hpair)
    exact hcomplete.mp hrows
  · intro hchain
    exact ⟨complete, hcomplete.mpr hchain, rfl⟩

namespace RegularFile
variable {file : RegularFile} {experimentId runId : List ℕ} {appliedTimestamps : List ℤ}

theorem complete_record (i : ℕ) : (file.record experimentId runId i).Complete :=
  ⟨rfl, reprDecimal_pointTwo⟩

theorem completeRows_records : completeRows (file.records experimentId runId) =
    file.records experimentId runId := by
  rw [completeRows, List.filter_eq_self]
  intro row hrow
  obtain ⟨i, -, rfl⟩ := List.mem_map.mp hrow
  exact decide_eq_true rfl

theorem lastFifty_records (hcount : file.count = 50) :
    lastFifty (completeRows (file.records experimentId runId)) = file.records experimentId runId := by
  rw [completeRows_records, lastFifty, records, List.length_map, List.length_range, hcount]
  rfl

theorem isChain_records {joined : IntervalRow → IntervalRow → Prop}
    (h : ∀ i < file.count - 1, joined (file.record experimentId runId i)
      (file.record experimentId runId (i + 1))) :
    (file.records experimentId runId).IsChain joined := by
  rw [records, List.isChain_map, List.isChain_range]
  exact h

/-- The decimals that the evaluator asks for. -/
structure WithinTolerance (file : RegularFile) : Prop where
  gaps : ∀ i < 49, |dsub evaluatorPrecision (file.start (i + 1)) (file.stop i)| ≤ contiguityToleranceS
  spans : ∀ i ∈ [0, 25], |dsub evaluatorPrecision
    (dsub evaluatorPrecision (file.stop (i + 24)) (file.start i)) windowS| ≤ contiguityToleranceS

/-- The decimals that the freshness gate asks for. -/
structure Exact (file : RegularFile) : Prop where
  gaps : ∀ i < 49, file.stop i = file.start (i + 1)
  spans : ∀ i ∈ [0, 25], dsub defaultPrecision (file.stop (i + 24)) (file.start i) = 5

section
variable (h : file.Regular appliedTimestamps) (hcount : file.count = 50) (experimentId runId)
include h hcount

theorem Regular.spanOf_records :
    spanOf ((file.records experimentId runId).take 25) = (file.start 0, file.stop 24) ∧
    spanOf ((file.records experimentId runId).drop 25) = (file.start 25, file.stop 49) := by
  have hstart {i : ℕ} (hi : i < 50) := (h.start i (hcount ▸ hi)).2
  have hstop {i : ℕ} (hi : i < 50) := (h.stop i (hcount ▸ hi)).1.2
  rw [records, hcount]
  constructor
  · show (reprDecimal (floatOfDecimal (file.start 0)), reprDecimal (floatOfDecimal (file.stop 24))) = _
    rw [hstart (by decide), hstop (by decide)]
  · show (reprDecimal (floatOfDecimal (file.start 25)), reprDecimal (floatOfDecimal (file.stop 49))) = _
    rw [hstart (by decide), hstop (by decide)]

theorem Regular.contiguous_records (htolerance : file.WithinTolerance) :
    (file.records experimentId runId).IsChain fun left right => contiguous left right = true := by
  apply isChain_records
  intro i hi
  have hi : i < 49 := by omega
  have hgap := htolerance.gaps i hi
  rw [← (h.start (i + 1) (by omega)).2, ← (h.stop i (by omega)).1.2] at hgap
  exact decide_eq_true hgap

theorem Regular.meets_records (i : ℕ) (hi : i < 49) :
    meets (file.record experimentId runId i) (file.record experimentId runId (i + 1)) = true ↔
      file.stop i = file.start (i + 1) := by
  rw [← (h.start (i + 1) (by omega)).2, ← (h.stop i (by omega)).1.2]
  exact decide_eq_true_iff

theorem Regular.twoWindows (htolerance : file.WithinTolerance) :
    TwoWindows (file.records experimentId runId) := by
  have hlength : (file.records experimentId runId).length = 50 := by
    rw [records, List.length_map, List.length_range, hcount]
  have hchain := h.contiguous_records experimentId runId hcount htolerance
  have hcomplete : ∀ row ∈ file.records experimentId runId, isComplete row = true := by
    intro row hrow
    obtain ⟨i, -, rfl⟩ := List.mem_map.mp hrow
    exact isComplete_complete (complete_record i)
  obtain ⟨hfirst, hsecond⟩ := h.spanOf_records experimentId runId hcount
  refine ⟨?_, ?_, ?_⟩
  · rw [completeRows_records, hlength]
  · rw [lastFifty_records hcount, validateWindowGeometry_ok, List.length_take, hlength, hfirst]
    exact ⟨rfl, fun row hrow => hcomplete row (List.mem_of_mem_take hrow), hchain.take 25,
      htolerance.spans 0 (by decide)⟩
  · rw [lastFifty_records hcount, validateWindowGeometry_ok, List.length_drop, hlength, hsecond]
    exact ⟨rfl, fun row hrow => hcomplete row (List.mem_of_mem_drop hrow), hchain.drop 25,
      htolerance.spans 25 (by decide)⟩

theorem Regular.exact_windows (hexact : file.Exact) :
    ExactWindow ((file.records experimentId runId).take 25) ∧
    ExactWindow ((file.records experimentId runId).drop 25) := by
  have hchain : (file.records experimentId runId).IsChain fun left right => meets left right = true :=
    isChain_records fun i hi => (h.meets_records experimentId runId hcount i (by omega)).mpr
      (hexact.gaps i (by omega))
  obtain ⟨hfirst, hsecond⟩ := h.spanOf_records experimentId runId hcount
  refine ⟨⟨hchain.take 25, ?_⟩, ⟨hchain.drop 25, ?_⟩⟩
  · rw [hfirst]
    exact hexact.spans 0 (by decide)
  · rw [hsecond]
    exact hexact.spans 25 (by decide)

/-- The evaluator reports on a file all of whose intervals are eligible. -/
theorem Regular.evaluate_exists (htolerance : file.WithinTolerance) {mode : Mode}
    (heligible : ∀ i < 50, eligible mode (file.record experimentId runId i) = .ok true) :
    latestEligibleRun mode (file.records experimentId runId) =
        .ok (file.records experimentId runId) ∧
      ∃ report, evaluate mode (file.records experimentId runId) = .ok report := by
  have hmem : ∀ row ∈ file.records experimentId runId,
      ∃ i < 50, row = file.record experimentId runId i := by
    intro row hrow
    obtain ⟨i, hi, rfl⟩ := List.mem_map.mp hrow
    exact ⟨i, hcount ▸ List.mem_range.mp hi, rfl⟩
  have hlength : (file.records experimentId runId).length = 50 := by
    rw [records, List.length_map, List.length_range, hcount]
  have htwo := h.twoWindows experimentId runId hcount htolerance
  have hfirst := htwo.first
  have hsecond := htwo.second
  rw [lastFifty_records hcount] at hfirst hsecond
  have hrows : ∀ row ∈ file.records experimentId runId, eligible mode row = .ok true := by
    intro row hrow
    obtain ⟨i, hi, rfl⟩ := hmem row hrow
    exact heligible i hi
  have hrun := latestEligibleRun_all hrows (h.contiguous_records experimentId runId hcount htolerance)
  obtain ⟨m1, hm1, hmean⟩ := @windowMetrics_exists file experimentId runId _ (fun row hrow =>
    (hmem row (List.mem_of_mem_take hrow)).imp fun i hi => hi.2) hfirst
  obtain ⟨m2, hm2, -⟩ := @windowMetrics_exists file experimentId runId _ (fun row hrow =>
    (hmem row (List.mem_of_mem_drop hrow)).imp fun i hi => hi.2) hsecond
  have hlast : ((file.records experimentId runId).drop 25).getLast? =
      some (file.record experimentId runId 49) := by
    rw [records, hcount]
    rfl
  obtain ⟨duration, hduration⟩ := durationPass_exists (heligible 49 (by decide))
  rw [← hlast] at hduration
  exact ⟨hrun, Receiver.evaluate_exists hrun (lastWindows_fifty hlength) hm1 hm2 hmean hduration⟩

end

end RegularFile

/-- Fifty intervals from 26 s on; the ends of the first one are given. -/
def fiftyIntervals (wall : ℕ → ℤ) (first firstStop : ℚ) : RegularFile where
  count := 50
  wall := wall
  start i := if i = 0 then first else 26 + i / 5
  stop i := if i = 0 then firstStop else 26 + (i + 1 : ℕ) / 5

/-- The clock of the receiver at the end of an interval; the first two may have been read together. -/
def tickClock (i : ℕ) : ℤ := 1767225626000000000 + 200000000 * (i + 1)

theorem printed_ticks : ∀ i < 51, Printed (26 + (i : ℕ) / 5) := by
  decide +kernel

theorem fiftyIntervals_regular {wall : ℕ → ℤ} {first firstStop : ℚ} {appliedTimestamps : List ℤ}
    (hwall : ∀ i < 50, 200000000 < wall i) (horder : ∀ i < 49, wall i ≤ wall (i + 1))
    (hfirst : Printed first) (hstop : Printed firstStop) (hlate : startupGuardS + epsilon < firstStop)
    (hhits : ∀ i < 50, strictHits (wall i - 200000000) (wall i) appliedTimestamps = []) :
    (fiftyIntervals wall first firstStop).Regular appliedTimestamps := by
  have hcount : (fiftyIntervals wall first firstStop).count = 50 := rfl
  refine ⟨hwall, horder, fun i hi => ?_, fun i hi => ?_, hhits⟩
  · rw [hcount] at hi
    by_cases hzero : i = 0
    · simpa [fiftyIntervals, hzero] using hfirst
    · simpa [fiftyIntervals, hzero] using printed_ticks i (by omega)
  · rw [hcount] at hi
    by_cases hzero : i = 0
    · simpa [fiftyIntervals, hzero] using ⟨hstop, hlate⟩
    · have hprinted := printed_ticks (i + 1) (by omega)
      have hpos : (0 : ℚ) ≤ (i + 1 : ℕ) / 5 := by positivity
      have hguard : startupGuardS + epsilon < 26 := by decide +kernel
      simp only [fiftyIntervals, if_neg hzero]
      exact ⟨hprinted, by linarith⟩

def sampleExperiment : List ℕ := chars "EXP-20260101-DL-18000K-R01"

def sampleRun : List ℕ := chars "RUN-20260101T000000Z-001"

theorem sample_ids : Timeline.validIdentity sampleExperiment sampleRun = true := by
  decide +kernel

theorem tickClock_lt (i : ℕ) : tickClock i < tickClock (i + 1) := by
  simp only [tickClock]
  omega

theorem tickClock_pos (i : ℕ) : 200000000 < tickClock i := by
  simp only [tickClock]
  omega

theorem printed_26 : Printed 26 ∧ Printed (131 / 5) ∧ startupGuardS + epsilon < 131 / 5 := by
  decide +kernel

def tickFile : RegularFile := fiftyIntervals tickClock 26 (131 / 5)

def tickRecords : List IntervalRow := tickFile.records sampleExperiment sampleRun

theorem tick_regular {appliedTimestamps : List ℤ}
    (hhits : ∀ i < 50, strictHits (tickClock i - 200000000) (tickClock i) appliedTimestamps = []) :
    tickFile.Regular appliedTimestamps :=
  fiftyIntervals_regular (fun i _ => tickClock_pos i) (fun i _ => (tickClock_lt i).le) printed_26.1
    printed_26.2.1 printed_26.2.2 hhits

theorem tick_within : tickFile.WithinTolerance :=
  ⟨by decide +kernel, by decide +kernel⟩

theorem tick_exact : tickFile.Exact :=
  ⟨by decide +kernel, by decide +kernel⟩

theorem tick_timestamps : (tickRecords.map (·.timestampUtcNs)).IsChain (· < ·) := by
  rw [tickRecords, RegularFile.records, List.map_map, List.isChain_map, List.isChain_range]
  exact fun i _ => tickClock_lt i

theorem tick_windows : ExactWindow (tickRecords.take 25) ∧ ExactWindow (tickRecords.drop 25) :=
  (@tick_regular [] fun _ _ => rfl).exact_windows _ _ rfl tick_exact

theorem tick_selectRows :
    selectRows tickRecords sampleExperiment sampleRun none = .ok tickRecords := by
  have hregular := @tick_regular [] fun _ _ => rfl
  have hlast : lastFifty tickRecords = tickRecords := by
    have hlast := @RegularFile.lastFifty_records tickFile sampleExperiment sampleRun rfl
    rwa [RegularFile.completeRows_records] at hlast
  obtain ⟨hfirst, hsecond⟩ := tick_windows
  have hload : loadRows tickRecords sampleExperiment sampleRun none =
      .ok (tickRecords, tickRecords) := by
    refine (loadRows_ok_iff ?_ (by simp)).mpr ⟨?_, RegularFile.completeRows_records.symm⟩
    · intro row hrow
      obtain ⟨i, hi, rfl⟩ := List.mem_map.mp hrow
      exact ⟨hregular.valid sample_ids (List.mem_range.mp hi), rfl, rfl⟩
    · exact tick_timestamps
  have hjoined := (hregular.meets_records sampleExperiment sampleRun rfl 24 (by decide)).mpr
    (tick_exact.gaps 24 (by decide))
  rw [selectRows, hload, ok_bind]
  simp only [hlast]
  refine require_bind_eq_ok.mpr ⟨?_, ?_⟩
  · rw [tickRecords, RegularFile.records, List.length_map, List.length_range]
    decide
  rw [(validateWindow_exact rfl).mpr hfirst, (validateWindow_exact rfl).mpr hsecond, ok_bind, ok_bind]
  exact require_bind_eq_ok.mpr ⟨hjoined, rfl⟩

/-- The selection of the regular file is its rows, and they are evaluated. -/
theorem windows_coincide_sample : ∃ selected report,
    selectRows tickRecords sampleExperiment sampleRun none = .ok selected ∧
    evaluateSelected selected sampleExperiment sampleRun = .ok report ∧
    bindingPass selected report = .ok true := by
  have hregular := @tick_regular [] fun _ _ => rfl
  obtain ⟨-, report, hreport⟩ := hregular.evaluate_exists sampleExperiment sampleRun rfl tick_within
    fun i _ => by rw [eligible, if_pos (isComplete_complete (RegularFile.complete_record i))]
  have hevaluate : evaluateSelected tickRecords sampleExperiment sampleRun = .ok report := by
    rw [evaluateSelected, tickRecords, hregular.loadIntervals_eq sample_ids (by decide)]
    exact hreport
  exact ⟨_, report, tick_selectRows, hevaluate, (windows_coincide tick_selectRows hevaluate).2.2⟩

end TcdOran.Receiver
