import TcdOran.Collector.OutputPipeline
import TcdOran.Collector.TextBuilder

/-! The serializer of prometheus_textfile.c: whatever the counters hold, its text fits the
buffer of the writer. -/
namespace TcdOran.Collector
open TcdOran.Lib

abbrev prometheusMaxSnapshotBytes : ℕ := 32768

inductive PrometheusStatus
  | ok | invalidArgument | bufferTooSmall | pathTooLong | openFailed | writeFailed | flushFailed
  | closeFailed | renameFailed
  deriving DecidableEq

/-! ### The text writer -/

structure TextWriter where
  output : Option (List UInt8)
  capacity : ℕ
  length : ℕ
  failed : Bool

/-- `vsnprintf` to `available` cells behind the offset. -/
def printCells (cells : List UInt8) (offset available : ℕ) (text : List UInt8) : List UInt8 :=
  writeCells cells offset (text.take (available - 1) ++ [0])

/-- `writer_appendf`, with the formatted text. -/
def writerAppendf (writer : TextWriter) (text : List UInt8) : TextWriter :=
  if writer.failed then writer
  else if text.length > sizeMax - writer.length then { writer with failed := true }
  else
    { writer with
      output :=
        if writer.capacity > writer.length then
          writer.output.map
            (printCells · writer.length (writer.capacity - writer.length) text)
        else writer.output
      length := writer.length + text.length }

/-! ### The lines -/

def outputBackendName : OutputBackend → List UInt8
  | .csv => bytes "csv"
  | .jsonl => bytes "jsonl"
  | .prometheus => bytes "prometheus"
  | .parquet => bytes "parquet"

def outputErrorReasonName : OutputErrorReason → List UInt8
  | .open => bytes "open"
  | .write => bytes "write"
  | .flush => bytes "flush"
  | .close => bytes "close"
  | .rename => bytes "rename"

def outputBackends : List OutputBackend := [.csv, .jsonl, .prometheus, .parquet]

def outputErrorReasons : List OutputErrorReason := [.open, .write, .flush, .close, .rename]

def familyHeader (name help type : String) : List (List UInt8) :=
  [bytes "# HELP " ++ bytes name ++ bytes " " ++ bytes help ++ bytes "\n",
    bytes "# TYPE " ++ bytes name ++ bytes " " ++ bytes type ++ bytes "\n"]

/-- A line that ends with a counter. -/
def sample (series : List UInt8) (value : UInt64) : List UInt8 :=
  series ++ bytes " " ++ decimal value.toNat ++ bytes "\n"

def buildInfoLines : List (List UInt8) :=
  familyHeader "tcd_kpm_collector_build_info" "Static build and schema identity." "gauge" ++
  [bytes "tcd_kpm_collector_build_info\x7bschema_version=\"tcd.kpm.record.emulator-draft-0.1\",collector_stage=\"collector-03-sw-prototype\"\x7d 1\n"]

def indicationLines (snapshot : PrometheusSnapshot) : List (List UInt8) :=
  familyHeader "tcd_kpm_collector_indications_total"
    "Accepted KPM indications observed by the collector." "counter" ++
  [sample (bytes "tcd_kpm_collector_indications_total\x7bmessage_format=\"1\"\x7d")
      snapshot.indicationsFormat1Total,
    sample (bytes "tcd_kpm_collector_indications_total\x7bmessage_format=\"3\"\x7d")
      snapshot.indicationsFormat3Total]

def recordSeries (kind status valueType : String) : List UInt8 :=
  bytes "tcd_kpm_collector_records_total\x7brecord_kind=\"" ++ bytes kind ++
    bytes "\",structural_status=\"" ++ bytes status ++ bytes "\",value_type=\"" ++
    bytes valueType ++ bytes "\"\x7d"

def recordLines (snapshot : PrometheusSnapshot) : List (List UInt8) :=
  familyHeader "tcd_kpm_collector_records_total"
    "Canonical records produced by classification." "counter" ++
  [sample (recordSeries "measurement" "ok" "integer") snapshot.recordsMeasurementIntegerTotal,
    sample (recordSeries "measurement" "ok" "real") snapshot.recordsMeasurementRealTotal,
    sample (recordSeries "measurement" "no_value" "no_value")
      snapshot.recordsMeasurementNoValueTotal,
    sample (recordSeries "diagnostic" "length_mismatch" "unknown")
      snapshot.recordsDiagnosticLengthMismatchTotal,
    sample (recordSeries "diagnostic" "invalid_input" "unknown")
      snapshot.recordsDiagnosticInvalidInputTotal]

def rejectedRowLines (snapshot : PrometheusSnapshot) : List (List UInt8) :=
  familyHeader "tcd_kpm_collector_rejected_rows_total"
    "Rows rejected before metadata and value pairing." "counter" ++
  [sample (bytes "tcd_kpm_collector_rejected_rows_total\x7breason=\"length_mismatch\"\x7d")
      snapshot.rejectedRowsLengthMismatchTotal,
    sample (bytes "tcd_kpm_collector_rejected_rows_total\x7breason=\"invalid_input\"\x7d")
      snapshot.rejectedRowsInvalidInputTotal]

/-- A family of one series without labels. -/
def plainFamily (name help type : String) (value : UInt64) : List (List UInt8) :=
  familyHeader name help type ++ [sample (bytes name) value]

def outputRecordSeries (backend : OutputBackend) (result : String) : List UInt8 :=
  bytes "tcd_kpm_collector_output_records_total\x7bbackend=\"" ++ outputBackendName backend ++
    bytes "\",result=\"" ++ bytes result ++ bytes "\"\x7d"

def outputErrorSeries (backend : OutputBackend) (reason : OutputErrorReason) : List UInt8 :=
  bytes "tcd_kpm_collector_output_errors_total\x7bbackend=\"" ++ outputBackendName backend ++
    bytes "\",reason=\"" ++ outputErrorReasonName reason ++ bytes "\"\x7d"

/-- `append_backend_metrics`. -/
def backendLines (snapshot : PrometheusSnapshot) : List (List UInt8) :=
  familyHeader "tcd_kpm_collector_output_records_total"
    "Output records attempted by backend and result." "counter" ++
  (outputBackends.flatMap fun backend =>
    [sample (outputRecordSeries backend "ok") (snapshot.outputRecordsOk backend),
      sample (outputRecordSeries backend "error") (snapshot.outputRecordsError backend)]) ++
  familyHeader "tcd_kpm_collector_output_errors_total"
    "Output backend failures by bounded reason token." "counter" ++
  (outputBackends.flatMap fun backend => outputErrorReasons.map fun reason =>
    sample (outputErrorSeries backend reason) (snapshot.outputErrors backend reason))

/-- The texts of the appends, in order. -/
def prometheusLines (snapshot : PrometheusSnapshot) : List (List UInt8) :=
  buildInfoLines ++ indicationLines snapshot ++ recordLines snapshot ++
  rejectedRowLines snapshot ++
  plainFamily "tcd_kpm_collector_callback_errors_total" "Callback-level internal errors."
    "counter" snapshot.callbackErrorsTotal ++
  plainFamily "tcd_kpm_collector_subscriptions_created_total"
    "Successful KPM subscriptions created." "counter" snapshot.subscriptionsCreatedTotal ++
  plainFamily "tcd_kpm_collector_subscriptions_removed_total"
    "Successful KPM subscriptions removed." "counter" snapshot.subscriptionsRemovedTotal ++
  backendLines snapshot ++
  plainFamily "tcd_kpm_collector_output_queue_depth" "Current bounded output queue depth."
    "gauge" snapshot.outputQueueDepth ++
  plainFamily "tcd_kpm_collector_last_receive_timestamp_seconds"
    "Unix timestamp of the most recent indication." "gauge"
    snapshot.lastReceiveTimestampSeconds ++
  plainFamily "tcd_kpm_collector_prometheus_snapshot_timestamp_seconds"
    "Unix timestamp of the current textfile snapshot." "gauge" snapshot.snapshotTimestampSeconds

/-- The complete serialization. -/
def prometheusText (snapshot : PrometheusSnapshot) : List UInt8 :=
  (prometheusLines snapshot).flatten

structure PrometheusSerialized where
  status : PrometheusStatus
  output : Option (List UInt8)
  requiredLength : Option ℕ

/-- `tcd_kpm_prometheus_serialize`. -/
def prometheusSerialize (snapshot : Option PrometheusSnapshot) (destination : Destination) :
    PrometheusSerialized :=
  match snapshot with
  | none => ⟨.invalidArgument, destination.cells, none⟩
  | some snapshot =>
    if destination.cells.isNone ∧ destination.capacity ≠ 0 then
      ⟨.invalidArgument, destination.cells, none⟩
    else
      let writer := (prometheusLines snapshot).foldl writerAppendf
        ⟨destination.cells, destination.capacity, 0, false⟩
      if writer.failed then ⟨.invalidArgument, writer.output, none⟩
      else match writer.output with
        | none => ⟨.ok, none, some writer.length⟩
        | some cells =>
          if destination.capacity ≤ writer.length then
            ⟨.bufferTooSmall,
              some (if destination.capacity > 0 then
                writeCells cells (destination.capacity - 1) [0] else cells),
              some writer.length⟩
          else ⟨.ok, some (writeCells cells writer.length [0]), some writer.length⟩

/-! ### The length of the text -/

theorem length_decimal_uint64 (value : UInt64) : (decimal value.toNat).length ≤ 20 := by
  apply length_decimal_le (by decide)
  have hvalue := value.toNat_lt
  omega

theorem length_sample_le {series : List UInt8} (value : UInt64) (h : series.length ≤ 138) :
    (sample series value).length ≤ 160 := by
  have hvalue := length_decimal_uint64 value
  have hblank : (bytes " ").length = 1 := rfl
  have hend : (bytes "\n").length = 1 := rfl
  simp only [sample, List.length_append, hblank, hend]
  omega

/-- Every append adds at most 160 bytes. -/
def ShortLines (lines : List (List UInt8)) : Prop := ∀ line ∈ lines, line.length ≤ 160

theorem ShortLines.append {lines more : List (List UInt8)} (h : ShortLines lines)
    (hmore : ShortLines more) : ShortLines (lines ++ more) :=
  List.forall_mem_append.mpr ⟨h, hmore⟩

theorem shortLines_buildInfo : ShortLines buildInfoLines := by
  simp only [ShortLines, buildInfoLines, familyHeader, List.cons_append, List.nil_append,
    List.forall_mem_cons]
  decide +kernel

/-- A header and the samples behind it. -/
theorem shortLines_family {name help type : String} {samples : List (List UInt8)}
    (hname : (bytes name).length ≤ 60) (hhelp : (bytes help).length ≤ 60)
    (htype : (bytes type).length ≤ 60) (h : ShortLines samples) :
    ShortLines (familyHeader name help type ++ samples) := by
  have h7 (text : String) (htext : (bytes text).length ≤ 7) : (bytes text).length ≤ 7 := htext
  refine ShortLines.append (List.forall_mem_cons.mpr ⟨?_, List.forall_mem_singleton.mpr ?_⟩) h
  · have hstart := h7 "# HELP " (by decide)
    have hblank := h7 " " (by decide)
    have hend := h7 "\n" (by decide)
    simp only [List.length_append]
    omega
  · have hstart := h7 "# TYPE " (by decide)
    have hblank := h7 " " (by decide)
    have hend := h7 "\n" (by decide)
    simp only [List.length_append]
    omega

section
variable (snapshot : PrometheusSnapshot)

theorem shortLines_indication : ShortLines (indicationLines snapshot) := by
  apply shortLines_family (by decide) (by decide) (by decide)
  simp only [ShortLines, List.forall_mem_cons]
  exact ⟨length_sample_le _ (by decide), length_sample_le _ (by decide), by simp⟩

theorem shortLines_record : ShortLines (recordLines snapshot) := by
  apply shortLines_family (by decide) (by decide) (by decide)
  simp only [ShortLines, List.forall_mem_cons]
  exact ⟨length_sample_le _ (by decide), length_sample_le _ (by decide),
    length_sample_le _ (by decide), length_sample_le _ (by decide),
    length_sample_le _ (by decide), by simp⟩

theorem shortLines_rejectedRow : ShortLines (rejectedRowLines snapshot) := by
  apply shortLines_family (by decide) (by decide) (by decide)
  simp only [ShortLines, List.forall_mem_cons]
  exact ⟨length_sample_le _ (by decide), length_sample_le _ (by decide), by simp⟩

theorem shortLines_plain {name help type : String} (value : UInt64)
    (hname : (bytes name).length ≤ 60) (hhelp : (bytes help).length ≤ 60)
    (htype : (bytes type).length ≤ 60) : ShortLines (plainFamily name help type value) := by
  apply shortLines_family hname hhelp htype
  exact List.forall_mem_singleton.mpr (length_sample_le value (hname.trans (by decide)))

theorem shortLines_backend : ShortLines (backendLines snapshot) := by
  have hrecord (backend : OutputBackend) (ok : Bool) :
      (outputRecordSeries backend (if ok then "ok" else "error")).length ≤ 138 := by
    cases backend <;> cases ok <;> decide
  have herror (backend : OutputBackend) (reason : OutputErrorReason) :
      (outputErrorSeries backend reason).length ≤ 138 := by
    cases backend <;> cases reason <;> decide
  unfold backendLines
  rw [List.append_assoc, List.append_assoc]
  apply shortLines_family (by decide) (by decide) (by decide)
  apply ShortLines.append
  · intro line h
    obtain ⟨backend, -, h⟩ := List.mem_flatMap.mp h
    rcases List.mem_pair.mp h with rfl | rfl
    · exact length_sample_le _ (hrecord backend true)
    · exact length_sample_le _ (hrecord backend false)
  · apply shortLines_family (by decide) (by decide) (by decide)
    intro line h
    obtain ⟨backend, -, h⟩ := List.mem_flatMap.mp h
    obtain ⟨reason, -, rfl⟩ := List.mem_map.mp h
    exact length_sample_le _ (herror backend reason)

theorem shortLines_prometheus : ShortLines (prometheusLines snapshot) := by
  unfold prometheusLines
  apply ShortLines.append _ (shortLines_plain _ (by decide) (by decide) (by decide))
  apply ShortLines.append _ (shortLines_plain _ (by decide) (by decide) (by decide))
  apply ShortLines.append _ (shortLines_plain _ (by decide) (by decide) (by decide))
  apply ShortLines.append _ (shortLines_backend snapshot)
  apply ShortLines.append _ (shortLines_plain _ (by decide) (by decide) (by decide))
  apply ShortLines.append _ (shortLines_plain _ (by decide) (by decide) (by decide))
  apply ShortLines.append _ (shortLines_plain _ (by decide) (by decide) (by decide))
  apply ShortLines.append _ (shortLines_rejectedRow snapshot)
  apply ShortLines.append _ (shortLines_record snapshot)
  exact shortLines_buildInfo.append (shortLines_indication snapshot)

/-- The text of any snapshot is less than a third of the buffer. -/
theorem length_prometheusText_le : (prometheusText snapshot).length ≤ 10880 := by
  have hcount : (prometheusLines snapshot).length = 68 := rfl
  have hshort : ∀ n ∈ (prometheusLines snapshot).map List.length, n ≤ 160 := by
    intro n hn
    obtain ⟨line, hline, rfl⟩ := List.mem_map.mp hn
    exact shortLines_prometheus snapshot line hline
  have hsum := List.sum_le_card_nsmul _ 160 hshort
  rw [List.length_map, hcount] at hsum
  rw [prometheusText, List.length_flatten]
  exact hsum

end

/-! ### The text in the buffer -/

theorem length_writeCells {cells source : List UInt8} {offset : ℕ}
    (h : offset + source.length ≤ cells.length) :
    (writeCells cells offset source).length = cells.length := by
  simp only [writeCells, List.length_append, List.length_take, List.length_drop]
  omega

/-- The writer has counted the text, and holds it as long as it fits. -/
structure Wrote (destination : Destination) (text : List UInt8) (writer : TextWriter) : Prop where
  failed : writer.failed = false
  capacity : writer.capacity = destination.capacity
  length : writer.length = text.length
  present : writer.output.isSome = destination.cells.isSome
  room : ∀ cells ∈ writer.output, destination.capacity ≤ cells.length
  holds : ∀ cells ∈ writer.output, text.length < destination.capacity →
    cells.take text.length = text

section
variable {destination : Destination} {text more : List UInt8} {writer : TextWriter}

theorem Wrote.append (h : Wrote destination text writer)
    (hsize : (text ++ more).length ≤ sizeMax) :
    Wrote destination (text ++ more) (writerAppendf writer more) := by
  rw [List.length_append] at hsize
  have hguard : ¬ more.length > sizeMax - writer.length := by
    rw [h.length]
    omega
  have hstep : writerAppendf writer more = { writer with
      output :=
        if writer.capacity > writer.length then
          writer.output.map (printCells · writer.length (writer.capacity - writer.length) more)
        else writer.output
      length := writer.length + more.length } := by
    rw [writerAppendf, h.failed, if_neg Bool.false_ne_true, if_neg hguard]
  rw [hstep]
  by_cases hroom : writer.capacity > writer.length
  · rw [if_pos hroom]
    rw [h.capacity, h.length] at hroom
    have hcells {cells : List UInt8} (hmem : cells ∈ writer.output) :
        text.length + (more.take (destination.capacity - text.length - 1) ++ [0]).length ≤
          cells.length := by
      have hle := h.room cells hmem
      simp only [List.length_append, List.length_take, List.length_singleton]
      omega
    refine ⟨h.failed, h.capacity, by rw [List.length_append, h.length], ?_, ?_, ?_⟩
    · rw [Option.isSome_map]
      exact h.present
    · intro after hafter
      obtain ⟨cells, hmem, rfl⟩ := Option.mem_map.mp hafter
      rw [printCells, h.capacity, h.length, length_writeCells (hcells hmem)]
      exact h.room cells hmem
    · intro after hafter hfits
      obtain ⟨cells, hmem, rfl⟩ := Option.mem_map.mp hafter
      rw [List.length_append] at hfits ⊢
      have hall : more.take (destination.capacity - text.length - 1) = more :=
        List.take_of_length_le (by omega)
      have hsplit : writeCells cells text.length (more ++ [0]) =
          text ++ more ++ ([0] ++ cells.drop (text.length + (more ++ [0]).length)) := by
        rw [writeCells, h.holds cells hmem hroom]
        simp only [List.append_assoc]
      rw [printCells, h.capacity, h.length, hall, hsplit, ← List.length_append, List.take_left]
  · rw [if_neg hroom]
    rw [h.capacity, h.length] at hroom
    refine ⟨h.failed, h.capacity, by rw [List.length_append, h.length], h.present, h.room, ?_⟩
    intro cells hmem hfits
    rw [List.length_append] at hfits
    omega

theorem Wrote.lines {lines : List (List UInt8)} (h : Wrote destination text writer)
    (hsize : (text ++ lines.flatten).length ≤ sizeMax) :
    Wrote destination (text ++ lines.flatten) (lines.foldl writerAppendf writer) := by
  induction lines generalizing text writer with
  | nil => simpa using h
  | cons line lines ih =>
    rw [List.flatten_cons, ← List.append_assoc] at hsize ⊢
    have hfirst : (text ++ line).length ≤ sizeMax := by
      rw [List.length_append] at hsize
      omega
    exact ih (h.append hfirst) hsize

/-- The serializer fails only for want of room, and holds the text otherwise. -/
theorem prometheusSerialize_some (snapshot : PrometheusSnapshot) {cells : List UInt8}
    (hcells : destination.cells = some cells) :
    ((prometheusText snapshot).length < destination.capacity →
      ∃ after, prometheusSerialize (some snapshot) destination =
          ⟨.ok, some after, some (prometheusText snapshot).length⟩ ∧
        after.take (prometheusText snapshot).length = prometheusText snapshot) ∧
    (destination.capacity ≤ (prometheusText snapshot).length →
      (prometheusSerialize (some snapshot) destination).status = .bufferTooSmall) := by
  set writer := (prometheusLines snapshot).foldl writerAppendf
    ⟨destination.cells, destination.capacity, 0, false⟩ with hwriter
  have hwrote : Wrote destination (prometheusText snapshot) writer := by
    have hstart : Wrote destination [] ⟨destination.cells, destination.capacity, 0, false⟩ :=
      ⟨rfl, rfl, rfl, rfl, destination.room, fun _ _ _ => rfl⟩
    have hlength := length_prometheusText_le snapshot
    have hmax : 10880 ≤ sizeMax := by decide
    exact @Wrote.lines destination [] _ (prometheusLines snapshot) hstart (hlength.trans hmax)
  have hsome : writer.output.isSome = true := by rw [hwrote.present, hcells]; rfl
  obtain ⟨filled, hfilled⟩ := Option.isSome_iff_exists.mp hsome
  have hserialize : prometheusSerialize (some snapshot) destination =
      if destination.capacity ≤ writer.length then
        ⟨.bufferTooSmall, some (if destination.capacity > 0 then
          writeCells filled (destination.capacity - 1) [0] else filled), some writer.length⟩
      else ⟨.ok, some (writeCells filled writer.length [0]), some writer.length⟩ := by
    have hguard : ¬ (destination.cells.isNone ∧ destination.capacity ≠ 0) := by simp [hcells]
    simp only [prometheusSerialize, if_neg hguard, ← hwriter, hwrote.failed, hfilled,
      Bool.false_eq_true, if_false]
  rw [hserialize, hwrote.length]
  constructor
  · intro hfits
    have hroom := hwrote.room filled hfilled
    refine ⟨_, if_neg (by omega), ?_⟩
    rw [writeCells, List.append_assoc, List.take_append_of_le_length]
    · rw [List.take_take, Nat.min_self]
      exact hwrote.holds filled hfilled hfits
    · rw [List.length_take]
      omega
  · intro hfull
    rw [if_pos hfull]

end

end TcdOran.Collector
