import TcdOran.Receiver.IntervalParser
import TcdOran.Timeline.TimelineLoaders

/-! canonicalize-iperf-receiver.py: the records of the parser are classified against the readbacks
of the actuator timeline and become canonical intervals. Their numbers pass through the files
between the programs unchanged. -/
namespace TcdOran.Receiver
open TcdOran.Lib Python
open Timeline (experimentPatterns runPattern)

inductive IntervalClass
  | complete | transitionCrossing | partialTerminal | startupGuard
  deriving DecidableEq

/-- An `iperfInterval`. -/
structure IntervalRow where
  experimentId : List ℕ
  runId : List ℕ
  recordId : List ℕ
  timestampUtcNs : ℤ
  rxWallNs : ℤ
  rxMonoNs : ℤ
  intervalStartS : ℚ
  intervalEndS : ℚ
  intervalDurationS : ℚ
  throughputKbitS : ℚ
  lossPct : Option ℚ
  jitterMs : Option ℚ
  bytesTransferred : Option ℤ
  intervalClass : IntervalClass
  deriving DecidableEq

/-! ### The schema -/

/-- The float `0.2`. -/
def pointTwo : ℚ := 3602879701896397 / 18014398509481984

/-- What the schema asks of the duration in each class. -/
def classDuration : IntervalClass → ℚ → Bool
  | .partialTerminal, duration => 0 < duration ∧ duration < pointTwo
  | _, duration => duration = pointTwo

def intervalSchemaValid (row : IntervalRow) : Bool :=
  (experimentPatterns.any (searchWhole · row.experimentId)) && searchWhole runPattern row.runId &&
  row.recordId ≠ [] && decide (0 ≤ row.timestampUtcNs) && decide (0 ≤ row.rxWallNs) &&
  decide (0 ≤ row.rxMonoNs) && decide (0 ≤ row.intervalStartS) && decide (0 < row.intervalEndS) &&
  decide (0 < row.intervalDurationS ∧ row.intervalDurationS ≤ pointTwo) &&
  decide (0 ≤ row.throughputKbitS) && (row.lossPct.all fun loss => 0 ≤ loss ∧ loss ≤ 100) &&
  (row.jitterMs.all fun jitter => 0 ≤ jitter) && (row.bytesTransferred.all fun n => 0 ≤ n) &&
  classDuration row.intervalClass row.intervalDurationS

/-! ### Classification -/

def primaryTs : ℚ := 1 / 5

def startupGuardS : ℚ := 1

def epsilon : ℚ := 1 / 1000000

def nsPerSecond : ℚ := 1000000000

/-- `exact_duration_ns` at the precision of the context. -/
def exactDurationNs (precision : ℕ) (duration : ℚ) : Except String ℤ := do
  require (0 < reprDecimal duration) "interval duration must be positive"
  let scaled := dmul precision (reprDecimal duration) nsPerSecond
  require ((⌊scaled⌋ : ℚ) = scaled)
    "interval duration cannot be represented exactly at nanosecond resolution"
  return ⌊scaled⌋

def baseIntervalClass (interval : Interval) : Except String IntervalClass :=
  let duration := reprDecimal interval.intervalDurationS
  match interval.shape with
  | .partialTerminalCandidate => do
      require (0 < duration ∧ duration < primaryTs)
        "partial terminal candidate has invalid duration"
      return .partialTerminal
  | .complete0p2 => do
      require (|dsub defaultPrecision duration primaryTs| ≤ epsilon)
        "complete_0p2 staging record is not 0.2 seconds"
      return if reprDecimal interval.intervalEndS ≤ startupGuardS + epsilon then .startupGuard
        else .complete

/-- The readbacks strictly inside the time of an interval. -/
def strictHits (startNs endNs : ℤ) (appliedTimestamps : List ℤ) : List ℤ :=
  appliedTimestamps.filter fun t => startNs < t ∧ t < endNs

def classifyInterval (row : StagingRow) (appliedTimestamps : List ℤ) :
    Except String IntervalClass := do
  let base ← baseIntervalClass row.interval
  if appliedTimestamps = [] then return base
  require (0 < row.rxWallNs) "invalid rx_wall_ns"
  let durationNs ← exactDurationNs defaultPrecision row.interval.intervalDurationS
  let startNs := row.rxWallNs - durationNs
  require (0 ≤ startNs) "derived observed interval start is negative"
  let hits := strictHits startNs row.rxWallNs appliedTimestamps
  require (hits.length ≤ 1) ("multiple applied_readback events lie strictly " ++
    "inside one receiver interval")
  if hits = [] then return base
  match base with
  | .startupGuard => .error "applied_readback lies inside startup_guard interval"
  | .partialTerminal => .error "applied_readback lies inside partial_terminal interval"
  | .complete => .ok .transitionCrossing
  | .transitionCrossing => .error "transition crossing requires a complete interval"

/-! ### The records -/

/-- `f"IPERF-RX-LINE-{sequence:09d}"`. -/
def intervalRecordId (sequence : ℕ) : List ℕ :=
  let digits := decimalUnits sequence
  chars "IPERF-RX-LINE-" ++ (List.replicate (9 - digits.length) 48 ++ digits)

def canonicalRecord (experimentId runId : List ℕ) (row : StagingRow) (appliedTimestamps : List ℤ) :
    Except String IntervalRow := do
  require (0 ≤ row.sourceSequence) "invalid source_sequence"
  require (0 < row.rxWallNs) "invalid rx_wall_ns"
  require (0 < row.rxMonoNs) "invalid rx_mono_ns"
  let intervalClass ← classifyInterval row appliedTimestamps
  return {
    experimentId, runId
    recordId := intervalRecordId row.sourceSequence.toNat
    timestampUtcNs := row.rxWallNs
    rxWallNs := row.rxWallNs
    rxMonoNs := row.rxMonoNs
    intervalStartS := row.interval.intervalStartS
    intervalEndS := row.interval.intervalEndS
    intervalDurationS := row.interval.intervalDurationS
    throughputKbitS := row.interval.throughputKbitS
    lossPct := row.interval.lossPct
    jitterMs := row.interval.jitterMs
    bytesTransferred := some row.interval.bytesTransferred
    intervalClass }

/-- The loop of `main`; `previous` are the clocks of the row before. -/
def canonicalRows (experimentId runId : List ℕ) (appliedTimestamps : List ℤ) :
    Option (ℤ × ℤ) → List StagingRow → Except String (List IntervalRow)
  | _, [] => .ok []
  | previous, row :: rows => do
      require (previous.all fun (wall, _) => wall ≤ row.rxWallNs) "rx_wall_ns ordering violation"
      require (previous.all fun (_, mono) => mono < row.rxMonoNs) "rx_mono_ns ordering violation"
      let record ← canonicalRecord experimentId runId row appliedTimestamps
      require (intervalSchemaValid record) "ValidationError"
      let records ← canonicalRows experimentId runId appliedTimestamps
        (some (row.rxWallNs, row.rxMonoNs)) rows
      return record :: records

/-- The records that `main` writes. In the scope without actuator transitions there are no
readbacks. -/
def canonicalizerMain (experimentId runId : List ℕ) (appliedTimestamps : List ℤ)
    (staging : List StagingRow) : Except String (List IntervalRow) := do
  require (experimentPatterns.any (fullmatch · experimentId)) "invalid Prompt-12 experiment_id"
  require (fullmatch runPattern runId) "invalid Prompt-12 run_id"
  canonicalRows experimentId runId appliedTimestamps none staging

def completeRows (records : List IntervalRow) : List IntervalRow :=
  records.filter fun record => record.intervalClass = .complete

/-! ### What is accepted -/

/-- The wall clock may stand still between two rows, the monotonic clock may not. -/
def ClocksFollow (before after : ℤ × ℤ) : Prop := before.1 ≤ after.1 ∧ before.2 < after.2

def StagingRow.clocks (row : StagingRow) : ℤ × ℤ := (row.rxWallNs, row.rxMonoNs)

def IntervalRow.clocks (row : IntervalRow) : ℤ × ℤ := (row.rxWallNs, row.rxMonoNs)

theorem chain_of_previous {previous : Option (ℤ × ℤ)} {clocks : ℤ × ℤ} {rest : List (ℤ × ℤ)} :
    (previous.toList ++ clocks :: rest).IsChain ClocksFollow ↔
      (previous.all fun (wall, _) => wall ≤ clocks.1) = true ∧
      (previous.all fun (_, mono) => mono < clocks.2) = true ∧
      (clocks :: rest).IsChain ClocksFollow := by
  cases previous with
  | none => simp
  | some before => simp [ClocksFollow, and_assoc]

theorem canonicalRows_ok_iff {experimentId runId : List ℕ} {appliedTimestamps : List ℤ}
    {previous : Option (ℤ × ℤ)} {staging : List StagingRow} {records : List IntervalRow} :
    canonicalRows experimentId runId appliedTimestamps previous staging = .ok records ↔
      (previous.toList ++ staging.map StagingRow.clocks).IsChain ClocksFollow ∧
      List.Forall₂ (fun row record =>
        canonicalRecord experimentId runId row appliedTimestamps = .ok record ∧
          intervalSchemaValid record = true) staging records := by
  induction staging generalizing previous records with
  | nil =>
    have hchain : previous.toList.IsChain ClocksFollow := by
      cases previous <;> simp
    cases records <;> simp [canonicalRows, hchain]
  | cons row rows ih =>
    rw [canonicalRows, require_bind_eq_ok, require_bind_eq_ok, bind_eq_ok, List.map_cons,
      chain_of_previous, and_assoc, and_assoc]
    refine and_congr_right fun _ => and_congr_right fun _ => ?_
    constructor
    · rintro ⟨record, hrecord, h⟩
      rw [require_bind_eq_ok, bind_eq_ok] at h
      obtain ⟨hvalid, rest, hrest, h⟩ := h
      obtain rfl := Except.ok.inj h
      obtain ⟨hchain, hrows⟩ := ih.mp hrest
      exact ⟨hchain, .cons ⟨hrecord, hvalid⟩ hrows⟩
    · rintro ⟨hchain, hrecords⟩
      obtain ⟨record, rest, ⟨hrecord, hvalid⟩, hrows, rfl⟩ := List.forall₂_cons_left_iff.mp hrecords
      refine ⟨record, hrecord, ?_⟩
      rw [require_bind_eq_ok, bind_eq_ok]
      exact ⟨hvalid, rest, ih.mpr ⟨hchain, hrows⟩, rfl⟩

end TcdOran.Receiver
