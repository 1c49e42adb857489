import TcdOran.Lib.Blocks
import TcdOran.Receiver.Canonicalizer

/-! evaluate-output-stationarity.py: the windows of the last run of eligible intervals and what is
said of them. The decimals of a report are given by their values. -/
namespace TcdOran.Receiver
open TcdOran.Lib Python

/-- `getcontext().prec`. -/
def evaluatorPrecision : ℕ := 40

def primaryTsSEvaluator : ℚ := 1 / 5

def windowS : ℚ := 5

def windowSamples : ℕ := 25

def cvMaxPct : ℚ := 5

def meanShiftMaxPct : ℚ := 5

def initialPreMinimumS : ℚ := 11

def postMinimumNs : ℤ := 10000000000

def contiguityToleranceS : ℚ := 1 / 1000000

/-- The mode, in the mode after a step with the time of the readback. -/
inductive Mode
  | initialPreStep
  | postStep (t0Ns : ℤ)
  deriving DecidableEq

/-! ### The rows -/

/-- The loop of `load_intervals`; `previous` are the clocks of the row before. -/
def checkIntervals (experimentId runId : List ℕ) :
    List (List ℕ) → Option (ℤ × ℤ) → List IntervalRow → Except String Unit
  | _, _, [] => .ok ()
  | seen, previous, row :: rows => do
      require (intervalSchemaValid row) "ValidationError"
      require (row.experimentId = experimentId) "experiment_id mismatch"
      require (row.runId = runId) "run_id mismatch"
      require (row.recordId ∉ seen) "duplicate iperfInterval record_id"
      require (previous.all fun (wall, _) => wall ≤ row.rxWallNs) "rx_wall_ns ordering violation"
      require (previous.all fun (_, mono) => mono < row.rxMonoNs) "rx_mono_ns ordering violation"
      checkIntervals experimentId runId (row.recordId :: seen) (some (row.rxWallNs, row.rxMonoNs))
        rows

/-- `load_intervals` on the rows of the file. -/
def loadIntervals (rows : List IntervalRow) (experimentId runId : List ℕ) :
    Except String (List IntervalRow) := do
  require (rows ≠ []) "canonical iperf input is empty"
  checkIntervals experimentId runId [] none rows
  return rows

/-! ### Eligibility -/

def isComplete (row : IntervalRow) : Bool :=
  row.intervalClass = .complete ∧
    |dsub evaluatorPrecision (reprDecimal row.intervalDurationS) primaryTsSEvaluator| ≤
      contiguityToleranceS

/-- `observed_bounds`. -/
def observedBounds (row : IntervalRow) : Except String (ℤ × ℤ) := do
  let durationNs ← exactDurationNs evaluatorPrecision row.intervalDurationS
  let startNs := row.rxWallNs - durationNs
  require (0 ≤ startNs) "derived observed interval start is negative"
  return (startNs, row.rxWallNs)

def eligible (mode : Mode) (row : IntervalRow) : Except String Bool :=
  if isComplete row then
    match mode with
    | .initialPreStep => .ok true
    | .postStep t0Ns => do
        let (startNs, _) ← observedBounds row
        return decide (t0Ns ≤ startNs)
  else .ok false

def contiguous (previous current : IntervalRow) : Bool :=
  |dsub evaluatorPrecision (reprDecimal current.intervalStartS) (reprDecimal previous.intervalEndS)| ≤
    contiguityToleranceS

/-- The runs behind those that are closed; `current` is the one that is open. -/
def eligibleRuns (mode : Mode) (runs : List (List IntervalRow)) (current : List IntervalRow) :
    List IntervalRow → Except String (List (List IntervalRow))
  | [] => .ok (if current = [] then runs else runs ++ [current])
  | row :: rows => do
      let admitted ← eligible mode row
      if admitted = false then
        eligibleRuns mode (if current = [] then runs else runs ++ [current]) [] rows
      else if current.getLast?.any fun last => !contiguous last row then
        eligibleRuns mode (runs ++ [current]) [row] rows
      else eligibleRuns mode runs (current ++ [row]) rows

def latestEligibleRun (mode : Mode) (rows : List IntervalRow) : Except String (List IntervalRow) := do
  let runs ← eligibleRuns mode [] [] rows
  return runs.getLast?.getD []

/-! ### Windows -/

/-- The neighbours of a list, in order. -/
def neighbours {α : Type} (xs : List α) : List (α × α) := xs.zip (xs.drop 1)

def spanOf (window : List IntervalRow) : ℚ × ℚ :=
  (window.head?.elim 0 fun row => reprDecimal row.intervalStartS,
    window.getLast?.elim 0 fun row => reprDecimal row.intervalEndS)

def validateWindowGeometry (window : List IntervalRow) : Except String Unit := do
  require (window.length = windowSamples) "stationarity window does not contain 25 samples"
  require (window.all isComplete) "non-complete interval inside stationarity window"
  require ((neighbours window).all fun (previous, current) => contiguous previous current)
    "stationarity window contains a timing gap"
  let span := dsub evaluatorPrecision (spanOf window).2 (spanOf window).1
  require (|dsub evaluatorPrecision span windowS| ≤ contiguityToleranceS)
    "stationarity window does not span 5 seconds"

structure WindowMetrics where
  meanKbitS : ℚ
  populationStdKbitS : ℚ
  cvPct : ℚ
  recordIdFirst : List ℕ
  recordIdLast : List ℕ
  intervalStartS : ℚ
  intervalEndS : ℚ
  deriving DecidableEq

def windowMetrics (window : List IntervalRow) : Except String WindowMetrics := do
  validateWindowGeometry window
  let values := window.map fun row => reprDecimal row.throughputKbitS
  let n : ℚ := values.length
  let mean := ddiv evaluatorPrecision (dsum evaluatorPrecision values) n
  require (0 < mean) "window mean throughput is zero or negative"
  let squares := values.map fun value =>
    dmul evaluatorPrecision (dsub evaluatorPrecision value mean) (dsub evaluatorPrecision value mean)
  let variance := ddiv evaluatorPrecision (dsum evaluatorPrecision squares) n
  let std := dsqrt evaluatorPrecision variance
  return {
    meanKbitS := mean
    populationStdKbitS := std
    cvPct := ddiv evaluatorPrecision (dmul evaluatorPrecision 100 std) mean
    recordIdFirst := window.head?.elim [] (·.recordId)
    recordIdLast := window.getLast?.elim [] (·.recordId)
    intervalStartS := (spanOf window).1
    intervalEndS := (spanOf window).2 }

/-- The last two full windows of a run, counted from its start. -/
def lastWindows (run : List IntervalRow) : Option (List IntervalRow × List IntervalRow) :=
  let fullWindows := run.length / windowSamples
  if fullWindows < 2 then none
  else
    let window (index : ℕ) := (run.drop ((index - 1) * windowSamples)).take windowSamples
    some (window (fullWindows - 1), window fullWindows)

/-! ### The report -/

inductive Gate
  | pass | fail | notEvaluated
  deriving DecidableEq

def gateOf (passed : Bool) : Gate := if passed then .pass else .fail

structure Report where
  mode : Mode
  eligibleRunSampleCount : ℕ
  fullWindowCount : ℕ
  trailingEligibleSampleCount : ℕ
  windowPairIndex : Option (ℕ × ℕ)
  w1 : Option WindowMetrics
  w2 : Option WindowMetrics
  meanShiftPct : Option ℚ
  cvW1Gate : Gate
  cvW2Gate : Gate
  meanShiftGate : Gate
  outputStationarityGate : Gate
  minimumPhaseDurationGate : Gate
  statisticalPhaseCandidate : Gate
  reason : String
  deriving DecidableEq

/-- Whether the phase has lasted long enough at the end of the second window. -/
def durationPass (mode : Mode) (last : Option IntervalRow) : Except String Bool :=
  match last with
  | none => .error "IndexError"
  | some row =>
    match mode with
    | .initialPreStep => .ok (initialPreMinimumS ≤ reprDecimal row.intervalEndS)
    | .postStep t0Ns => do
        let (_, finalEndNs) ← observedBounds row
        return decide (postMinimumNs ≤ finalEndNs - t0Ns)

def evaluate (mode : Mode) (rows : List IntervalRow) : Except String Report := do
  let run ← latestEligibleRun mode rows
  let fullWindows := run.length / windowSamples
  match lastWindows run with
  | none => return {
      mode
      eligibleRunSampleCount := run.length
      fullWindowCount := fullWindows
      trailingEligibleSampleCount := run.length % windowSamples
      windowPairIndex := none
      w1 := none
      w2 := none
      meanShiftPct := none
      cvW1Gate := .notEvaluated
      cvW2Gate := .notEvaluated
      meanShiftGate := .notEvaluated
      outputStationarityGate := .fail
      minimumPhaseDurationGate := .fail
      statisticalPhaseCandidate := .fail
      reason := "INSUFFICIENT_TWO_COMPLETE_WINDOWS" }
  | some (w1, w2) => do
      let m1 ← windowMetrics w1
      let m2 ← windowMetrics w2
      require (0 < m1.meanKbitS) "W1 mean throughput is zero or negative"
      let meanShift := ddiv evaluatorPrecision
        (dmul evaluatorPrecision 100 |dsub evaluatorPrecision m2.meanKbitS m1.meanKbitS|) m1.meanKbitS
      let cvW1Pass : Bool := m1.cvPct ≤ cvMaxPct
      let cvW2Pass : Bool := m2.cvPct ≤ cvMaxPct
      let meanShiftPass : Bool := meanShift ≤ meanShiftMaxPct
      let stationarityPass := cvW1Pass && cvW2Pass && meanShiftPass
      let duration ← durationPass mode w2.getLast?
      let phaseCandidate := stationarityPass && duration
      return {
        mode
        eligibleRunSampleCount := run.length
        fullWindowCount := fullWindows
        trailingEligibleSampleCount := run.length % windowSamples
        windowPairIndex := some (fullWindows - 1, fullWindows)
        w1 := some m1
        w2 := some m2
        meanShiftPct := some meanShift
        cvW1Gate := gateOf cvW1Pass
        cvW2Gate := gateOf cvW2Pass
        meanShiftGate := gateOf meanShiftPass
        outputStationarityGate := gateOf stationarityPass
        minimumPhaseDurationGate := gateOf duration
        statisticalPhaseCandidate := gateOf phaseCandidate
        reason := if phaseCandidate then "PASS" else "STATIONARITY_OR_DURATION_GATE_FAIL" }

/-! ### What is loaded -/

/-- What `load_intervals` checks of every row by itself. -/
structure Admissible (experimentId runId : List ℕ) (row : IntervalRow) : Prop where
  valid : intervalSchemaValid row = true
  experimentId : row.experimentId = experimentId
  runId : row.runId = runId

theorem checkIntervals_ok_iff {experimentId runId : List ℕ} {seen : List (List ℕ)}
    {previous : Option (ℤ × ℤ)} {rows : List IntervalRow} :
    checkIntervals experimentId runId seen previous rows = .ok () ↔
      (∀ row ∈ rows, Admissible experimentId runId row) ∧
      (rows.map (·.recordId)).Nodup ∧ (∀ row ∈ rows, row.recordId ∉ seen) ∧
      (previous.toList ++ rows.map IntervalRow.clocks).IsChain ClocksFollow := by
  induction rows generalizing seen previous with
  | nil => cases previous <;> simp [checkIntervals]
  | cons row rows ih =>
    have hseen : (∀ other ∈ rows, other.recordId ∉ row.recordId :: seen) ↔
        (row.recordId ∉ rows.map (·.recordId)) ∧ ∀ other ∈ rows, other.recordId ∉ seen := by
      simp only [List.mem_cons, not_or, List.mem_map, not_exists, not_and]
      exact forall₂_and
    have hadmissible : Admissible experimentId runId row ↔ intervalSchemaValid row = true ∧
        row.experimentId = experimentId ∧ row.runId = runId :=
      ⟨fun h => ⟨h.valid, h.experimentId, h.runId⟩, fun ⟨h, h', h''⟩ => ⟨h, h', h''⟩⟩
    simp only [checkIntervals, require_bind_eq_ok, ih, hseen, List.forall_mem_cons, List.map_cons,
      List.nodup_cons, chain_of_previous, hadmissible]
    constructor
    · rintro ⟨hvalid, hexperiment, hrun, hnew, hwall, hmono, hrows, hnodup, ⟨hfresh, hids⟩, hchain⟩
      exact ⟨⟨⟨hvalid, hexperiment, hrun⟩, hrows⟩, ⟨hfresh, hnodup⟩, ⟨hnew, hids⟩, hwall, hmono,
        hchain⟩
    · rintro ⟨⟨⟨hvalid, hexperiment, hrun⟩, hrows⟩, ⟨hfresh, hnodup⟩, ⟨hnew, hids⟩, hwall, hmono,
        hchain⟩
      exact ⟨hvalid, hexperiment, hrun, hnew, hwall, hmono, hrows, hnodup, ⟨hfresh, hids⟩, hchain⟩

theorem loadIntervals_ok_iff {experimentId runId : List ℕ} {rows official : List IntervalRow} :
    loadIntervals rows experimentId runId = .ok official ↔ rows ≠ [] ∧
      (∀ row ∈ rows, Admissible experimentId runId row) ∧ (rows.map (·.recordId)).Nodup ∧
      (rows.map IntervalRow.clocks).IsChain ClocksFollow ∧ official = rows := by
  rw [loadIntervals, require_bind_eq_ok, unit_bind_eq_ok, checkIntervals_ok_iff]
  simp [pure, Except.pure, and_assoc, eq_comm]

/-! ### The run and its windows -/

/-- The row is eligible; where `eligible` fails there is no run at all. -/
def admits (mode : Mode) (row : IntervalRow) : Bool := (eligible mode row).toOption.getD false

theorem eligibleRuns_ok {mode : Mode} {runs result : List (List IntervalRow)}
    {current rows : List IntervalRow} (h : eligibleRuns mode runs current rows = .ok result) :
    result = splitBlocks (admits mode) contiguous runs current rows := by
  induction rows generalizing runs current with
  | nil =>
    obtain rfl := Except.ok.inj h
    rfl
  | cons row rows ih =>
    simp only [eligibleRuns, bind_eq_ok] at h
    obtain ⟨admitted, hadmitted, h⟩ := h
    have hadmits : admits mode row = admitted := by
      rw [admits, hadmitted]
      rfl
    rw [splitBlocks, hadmits]
    split_ifs at h ⊢
    · exact ih h
    · exact ih h
    · exact ih h
    · exact ih h

/-- The run is the last block of eligible, contiguous rows. -/
theorem latestEligibleRun_ok {mode : Mode} {rows run : List IntervalRow}
    (h : latestEligibleRun mode rows = .ok run) : LastBlock (admits mode) contiguous rows run := by
  simp only [latestEligibleRun, bind_eq_ok] at h
  obtain ⟨runs, hruns, h⟩ := h
  obtain rfl := Except.ok.inj h
  rw [eligibleRuns_ok hruns]
  have hstart : @Splits _ (admits mode) contiguous [] [] [] :=
    .between ⟨⟨[], [], rfl, ⟨by simp, .nil, by simp⟩, by simp⟩, by simp⟩ (by simp)
  exact splitBlocks_last hstart

theorem all_neighbours_iff {α : Type} {holds : α → α → Bool} {xs : List α} :
    ((neighbours xs).all fun (x, y) => holds x y) = true ↔ xs.IsChain fun x y => holds x y = true := by
  induction xs with
  | nil => simp [neighbours]
  | cons x xs ih =>
    cases xs with
    | nil => simp [neighbours]
    | cons y ys =>
      rw [List.isChain_cons_cons, ← ih]
      simp [neighbours]

theorem validateWindowGeometry_ok {window : List IntervalRow} :
    validateWindowGeometry window = .ok () ↔ window.length = 25 ∧
      (∀ row ∈ window, isComplete row = true) ∧
      (window.IsChain fun previous current => contiguous previous current = true) ∧
      |dsub evaluatorPrecision (dsub evaluatorPrecision (spanOf window).2 (spanOf window).1) windowS| ≤
        contiguityToleranceS := by
  rw [validateWindowGeometry, require_bind_eq_ok, require_bind_eq_ok, require_bind_eq_ok,
    require_eq_ok, all_neighbours_iff, List.all_eq_true, windowSamples]

/-- A report has the windows of the run or says that there are none. -/
theorem evaluate_ok {mode : Mode} {rows : List IntervalRow} {report : Report}
    (h : evaluate mode rows = .ok report) : ∃ run, latestEligibleRun mode rows = .ok run ∧
      (lastWindows run = none → report.w1 = none ∧ report.w2 = none) ∧
      ∀ w1 w2, lastWindows run = some (w1, w2) → ∃ m1 m2, windowMetrics w1 = .ok m1 ∧
        windowMetrics w2 = .ok m2 ∧ report.w1 = some m1 ∧ report.w2 = some m2 := by
  simp only [evaluate, bind_eq_ok] at h
  obtain ⟨run, hrun, h⟩ := h
  refine ⟨run, hrun, ?_⟩
  cases hwindows : lastWindows run with
  | none =>
    rw [hwindows] at h
    obtain rfl := Except.ok.inj h
    exact ⟨fun _ => ⟨rfl, rfl⟩, fun _ _ h => by cases h⟩
  | some windows =>
    obtain ⟨w1, w2⟩ := windows
    rw [hwindows] at h
    simp only [bind_eq_ok] at h
    obtain ⟨m1, hm1, m2, hm2, -, -, duration, -, h⟩ := h
    obtain rfl := Except.ok.inj h
    refine ⟨fun h => (by cases h), fun v1 v2 hv => ?_⟩
    obtain ⟨rfl, rfl⟩ := Prod.mk.inj (Option.some.inj hv)
    exact ⟨m1, m2, hm1, hm2, rfl, rfl⟩

theorem eligibleRuns_exists {mode : Mode} {runs : List (List IntervalRow)}
    {current rows : List IntervalRow} (h : ∀ row ∈ rows, ∃ admitted, eligible mode row = .ok admitted) :
    ∃ result, eligibleRuns mode runs current rows = .ok result := by
  induction rows generalizing runs current with
  | nil => exact ⟨_, rfl⟩
  | cons row rows ih =>
    obtain ⟨⟨admitted, hadmitted⟩, hrows⟩ := List.forall_mem_cons.mp h
    rw [eligibleRuns, hadmitted, ok_bind]
    split_ifs
    · exact ih hrows
    · exact ih hrows
    · exact ih hrows
    · exact ih hrows

/-- Rows all of which are eligible, without a gap between them, are one run. -/
theorem latestEligibleRun_all {mode : Mode} {rows : List IntervalRow}
    (heligible : ∀ row ∈ rows, eligible mode row = .ok true)
    (hchain : rows.IsChain fun left right => contiguous left right = true) :
    latestEligibleRun mode rows = .ok rows := by
  obtain ⟨runs, hruns⟩ := @eligibleRuns_exists mode [] [] rows fun row hrow => ⟨_, heligible row hrow⟩
  have hrun : latestEligibleRun mode rows = .ok (runs.getLast?.getD []) := by
    rw [latestEligibleRun, hruns]
    rfl
  have hself : LastBlock (admits mode) contiguous rows rows := by
    refine ⟨⟨[], [], by simp, ⟨fun row hrow => ?_, hchain, by simp⟩, by simp⟩, by rintro rfl; simp⟩
    rw [admits, heligible row hrow]
    rfl
  rw [hrun, (latestEligibleRun_ok hrun).unique hself]

theorem durationPass_exists {mode : Mode} {row : IntervalRow} (h : eligible mode row = .ok true) :
    ∃ duration, durationPass mode (some row) = .ok duration := by
  cases mode with
  | initialPreStep => exact ⟨_, rfl⟩
  | postStep t0Ns =>
    rw [eligible] at h
    split_ifs at h
    · obtain ⟨bounds, hbounds, -⟩ := bind_eq_ok.mp h
      exact ⟨_, bind_eq_ok.mpr ⟨bounds, hbounds, rfl⟩⟩
    · cases h

theorem evaluate_exists {mode : Mode} {rows run w1 w2 : List IntervalRow} {m1 m2 : WindowMetrics}
    {duration : Bool} (hrun : latestEligibleRun mode rows = .ok run)
    (hwindows : lastWindows run = some (w1, w2)) (h1 : windowMetrics w1 = .ok m1)
    (h2 : windowMetrics w2 = .ok m2) (hmean : 0 < m1.meanKbitS)
    (hduration : durationPass mode w2.getLast? = .ok duration) :
    ∃ report, evaluate mode rows = .ok report := by
  simp only [evaluate, hrun, ok_bind, hwindows, h1, h2, ok_of_require hmean, hduration]
  exact ⟨_, rfl⟩

/-! ### Files of regular intervals -/

theorem intervalRecordId_injective : Function.Injective intervalRecordId := by
  intro m n h
  have hdigits := congrArg digitsValue (List.append_cancel_left h)
  simpa only [digitsValue_append, digitsValue_replicate_zero, zero_mul, zero_add,
    digitsValue_decimalUnits] using hdigits

theorem reprDecimal_pointTwo : reprDecimal pointTwo = 1 / 5 := by
  decide +kernel

/-- The float of a decimal. -/
def floatOfDecimal (d : ℚ) : ℚ := (nearestBinary64 d).getD 0

/-- The float is positive and is printed as the decimal again. -/
def Printed (d : ℚ) : Prop := 0 < floatOfDecimal d ∧ reprDecimal (floatOfDecimal d) = d

instance (d : ℚ) : Decidable (Printed d) := inferInstanceAs (Decidable (_ ∧ _))

/-- Complete intervals at a constant rate; their clocks and times are given by their number. -/
structure RegularFile where
  count : ℕ
  wall : ℕ → ℤ
  start : ℕ → ℚ
  stop : ℕ → ℚ

namespace RegularFile
variable (file : RegularFile) (experimentId runId : List ℕ)

def stagingRow (i : ℕ) : StagingRow where
  sourceSequence := i
  rxWallNs := file.wall i
  rxMonoNs := 200000000 * (i + 1)
  sourceRawOffsetStart := 53 * i
  sourceRawOffsetEnd := 53 * (i + 1)
  sourceRawLineSha256 := .null
  interval := {
    streamId := 5
    intervalStartS := floatOfDecimal (file.start i)
    intervalEndS := floatOfDecimal (file.stop i)
    intervalDurationS := pointTwo
    throughputKbitS := 18400
    jitterMs := none
    lossPct := none
    bytesTransferred := 459776
    lostDatagrams := none
    totalDatagrams := none
    iperfRole := none
    shape := .complete0p2
    sourceTransferValue := chars "449"
    sourceTransferUnit := chars "KBytes"
    sourceBitrateValue := chars "18.4"
    sourceBitrateUnit := chars "Mbits/sec" }

def record (i : ℕ) : IntervalRow where
  experimentId := experimentId
  runId := runId
  recordId := intervalRecordId i
  timestampUtcNs := file.wall i
  rxWallNs := file.wall i
  rxMonoNs := 200000000 * (i + 1)
  intervalStartS := floatOfDecimal (file.start i)
  intervalEndS := floatOfDecimal (file.stop i)
  intervalDurationS := pointTwo
  throughputKbitS := 18400
  lossPct := none
  jitterMs := none
  bytesTransferred := some 459776
  intervalClass := .complete

def staging : List StagingRow := (List.range file.count).map file.stagingRow

def records : List IntervalRow := (List.range file.count).map (file.record experimentId runId)

variable (appliedTimestamps : List ℤ) in
/-- What the canonicalizer needs to know of the intervals. -/
structure Regular : Prop where
  wall : ∀ i < file.count, 200000000 < file.wall i
  order : ∀ i < file.count - 1, file.wall i ≤ file.wall (i + 1)
  start : ∀ i < file.count, Printed (file.start i)
  stop : ∀ i < file.count, Printed (file.stop i) ∧ startupGuardS + epsilon < file.stop i
  hits : ∀ i < file.count,
    strictHits (file.wall i - 200000000) (file.wall i) appliedTimestamps = []

variable {file experimentId runId} {appliedTimestamps : List ℤ}

theorem exactDurationNs_pointTwo : exactDurationNs defaultPrecision pointTwo = .ok 200000000 := by
  decide +kernel

theorem Regular.classify (h : file.Regular appliedTimestamps) {i : ℕ} (hi : i < file.count) :
    classifyInterval (file.stagingRow i) appliedTimestamps = .ok .complete := by
  have hbase : baseIntervalClass (file.stagingRow i).interval = .ok .complete := by
    obtain ⟨⟨-, hprinted⟩, hlate⟩ := h.stop i hi
    refine require_bind_eq_ok.mpr ⟨?_, ?_⟩
    · show |dsub defaultPrecision (reprDecimal pointTwo) primaryTs| ≤ epsilon
      rw [reprDecimal_pointTwo, primaryTs, dsub_self]
      decide +kernel
    · show Except.ok (if reprDecimal (floatOfDecimal (file.stop i)) ≤ startupGuardS + epsilon
        then _ else _) = _
      rw [hprinted, if_neg (not_le.mpr hlate)]
  have hstart : 0 ≤ file.wall i - 200000000 := by
    have hwall := h.wall i hi
    omega
  have hwall : 0 < file.wall i := by omega
  rw [classifyInterval, hbase, ok_bind]
  split_ifs
  · rfl
  · have hhits := h.hits i hi
    have hlength : (strictHits (file.wall i - 200000000) (file.wall i) appliedTimestamps).length ≤ 1 := by
      rw [hhits]
      decide
    refine require_bind_eq_ok.mpr ⟨hwall, bind_eq_ok.mpr ⟨_, exactDurationNs_pointTwo, ?_⟩⟩
    exact require_bind_eq_ok.mpr ⟨hstart, require_bind_eq_ok.mpr ⟨hlength, if_pos hhits⟩⟩

theorem Regular.canonical (h : file.Regular appliedTimestamps) {i : ℕ} (hi : i < file.count) :
    canonicalRecord experimentId runId (file.stagingRow i) appliedTimestamps =
      .ok (file.record experimentId runId i) := by
  have hsequence : 0 ≤ (file.stagingRow i).sourceSequence := Int.natCast_nonneg i
  have hwall : 0 < (file.stagingRow i).rxWallNs := lt_trans (by decide) (h.wall i hi)
  have hmono : 0 < (file.stagingRow i).rxMonoNs := by
    show (0 : ℤ) < 200000000 * (i + 1)
    omega
  rw [canonicalRecord, ok_of_require hsequence, ok_of_require hwall, ok_of_require hmono,
    h.classify hi]
  rfl

theorem Regular.valid (h : file.Regular appliedTimestamps)
    (hids : Timeline.validIdentity experimentId runId = true) {i : ℕ} (hi : i < file.count) :
    intervalSchemaValid (file.record experimentId runId i) = true := by
  rw [Timeline.validIdentity, Bool.and_eq_true, List.any_eq_true] at hids
  obtain ⟨⟨pattern, hpattern, hexperiment⟩, hrun⟩ := hids
  have hwall := h.wall i hi
  have hwall : 0 ≤ file.wall i := by omega
  have hmono : (0 : ℤ) ≤ 200000000 * (i + 1) := by omega
  have hid : intervalRecordId i ≠ [] := by simp [intervalRecordId, chars]
  have hduration : 0 < pointTwo := by decide +kernel
  have hrate : (0 : ℚ) ≤ 18400 := by norm_num
  simp only [intervalSchemaValid, Bool.and_eq_true, List.any_eq_true, and_assoc]
  exact ⟨⟨pattern, hpattern, searchWhole_of_fullmatch hexperiment⟩, searchWhole_of_fullmatch hrun,
    decide_eq_true hid, decide_eq_true hwall, decide_eq_true hwall, decide_eq_true hmono,
    decide_eq_true (h.start i hi).1.le, decide_eq_true (h.stop i hi).1.1,
    decide_eq_true ⟨hduration, le_rfl⟩, decide_eq_true hrate, rfl, rfl, rfl, decide_eq_true rfl⟩

theorem mono_lt (i : ℕ) : (200000000 : ℤ) * (i + 1) < 200000000 * (i.succ + 1) := by
  push_cast
  omega

/-- The canonicalizer keeps every interval. -/
theorem Regular.canonicalizerMain_eq (h : file.Regular appliedTimestamps)
    (hids : Timeline.validIdentity experimentId runId = true) :
    canonicalizerMain experimentId runId appliedTimestamps file.staging =
      .ok (file.records experimentId runId) := by
  obtain ⟨hexperiment, hrun⟩ := (Bool.and_eq_true _ _).mp hids
  rw [canonicalizerMain, ok_of_require hexperiment, ok_of_require hrun, ok_bind, ok_bind,
    canonicalRows_ok_iff]
  refine ⟨?_, ?_⟩
  · rw [staging, List.map_map, Option.toList_none, List.nil_append, List.isChain_map,
      List.isChain_range]
    exact fun i hi => ⟨h.order i hi, mono_lt i⟩
  · rw [staging, records, List.forall₂_map_left_iff, List.forall₂_map_right_iff, List.forall₂_same]
    intro i hi
    have hi := List.mem_range.mp hi
    exact ⟨h.canonical hi, h.valid hids hi⟩

theorem Regular.loadIntervals_eq (h : file.Regular appliedTimestamps)
    (hids : Timeline.validIdentity experimentId runId = true) (hcount : 0 < file.count) :
    loadIntervals (file.records experimentId runId) experimentId runId =
      .ok (file.records experimentId runId) := by
  rw [loadIntervals_ok_iff]
  refine ⟨?_, ?_, ?_, ?_, rfl⟩
  · rw [records, Ne, List.map_eq_nil_iff, List.range_eq_nil]
    exact hcount.ne'
  · intro row hrow
    obtain ⟨i, hi, rfl⟩ := List.mem_map.mp hrow
    exact ⟨h.valid hids (List.mem_range.mp hi), rfl, rfl⟩
  · rw [records, List.map_map]
    exact List.nodup_range.map intervalRecordId_injective
  · rw [records, List.map_map, List.isChain_map, List.isChain_range]
    exact fun i hi => ⟨h.order i hi, mono_lt i⟩

theorem reprDecimal_rate : reprDecimal 18400 = 18400 := by
  decide +kernel

/-- The metrics of a window of intervals at the constant rate. -/
theorem windowMetrics_exists {window : List IntervalRow}
    (h : ∀ row ∈ window, ∃ i, row = file.record experimentId runId i)
    (hgeometry : validateWindowGeometry window = .ok ()) :
    ∃ metrics, windowMetrics window = .ok metrics ∧ 0 < metrics.meanKbitS := by
  have hlength := (validateWindowGeometry_ok.mp hgeometry).1
  have hvalues : window.map (fun row => reprDecimal row.throughputKbitS) = List.replicate 25 18400 := by
    rw [List.eq_replicate_iff, List.length_map, hlength]
    refine ⟨rfl, fun value hvalue => ?_⟩
    obtain ⟨row, hrow, rfl⟩ := List.mem_map.mp hvalue
    obtain ⟨i, rfl⟩ := h row hrow
    exact reprDecimal_rate
  have hmean : 0 < ddiv evaluatorPrecision
      (dsum evaluatorPrecision (window.map fun row => reprDecimal row.throughputKbitS))
      (window.map fun row => reprDecimal row.throughputKbitS).length := by
    rw [hvalues]
    decide +kernel
  exact ⟨_, unit_bind_eq_ok.mpr ⟨hgeometry, require_bind_eq_ok.mpr ⟨hmean, rfl⟩⟩, hmean⟩

end RegularFile

end TcdOran.Receiver
