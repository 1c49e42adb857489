import TcdOran.Collector.FileSink
import TcdOran.Lib.Ring

/-! The shared state of output_pipeline.c, its accounting and its creation. -/
namespace TcdOran.Collector
open TcdOran.Lib

abbrev outputQueueCapacity : ℕ := 64
abbrev prometheusMaxPathBytes : ℕ := 4096

inductive OutputBackend
  | csv | jsonl | prometheus | parquet
  deriving DecidableEq

inductive OutputErrorReason
  | open | write | flush | close | rename
  deriving DecidableEq

structure PrometheusSnapshot where
  indicationsFormat1Total : UInt64
  indicationsFormat3Total : UInt64
  recordsMeasurementIntegerTotal : UInt64
  recordsMeasurementRealTotal : UInt64
  recordsMeasurementNoValueTotal : UInt64
  recordsDiagnosticLengthMismatchTotal : UInt64
  recordsDiagnosticInvalidInputTotal : UInt64
  rejectedRowsLengthMismatchTotal : UInt64
  rejectedRowsInvalidInputTotal : UInt64
  callbackErrorsTotal : UInt64
  subscriptionsCreatedTotal : UInt64
  subscriptionsRemovedTotal : UInt64
  outputRecordsOk : OutputBackend → UInt64
  outputRecordsError : OutputBackend → UInt64
  outputErrors : OutputBackend → OutputErrorReason → UInt64
  outputQueueDepth : UInt64
  lastReceiveTimestampSeconds : UInt64
  snapshotTimestampSeconds : UInt64

/-- The status of `tcd_kpm_prometheus_write_atomic` with the reason it stores on failure. -/
inductive PrometheusOutcome
  | ok
  | error (reason : OutputErrorReason)
  deriving DecidableEq

structure OutputPipeline where
  workerStarted : Bool
  workerBusy : Bool
  stopRequested : Bool
  csvEnabled : Bool
  jsonlEnabled : Bool
  prometheusEnabled : Bool
  prometheusPath : List UInt8
  csvSink : FileSink
  jsonlSink : FileSink
  queue : Ring CanonicalRecord outputQueueCapacity
  recordsAccepted : UInt64
  recordsDropped : UInt64
  failed : Bool
  lastIndicationSequence : UInt64
  lastIndicationPresent : Bool
  prometheus : PrometheusSnapshot

structure OutputPipelineConfig where
  csvPath : Option (List UInt8)
  jsonlPath : Option (List UInt8)
  prometheusPath : Option (List UInt8)

structure OutputPipelineSnapshot where
  enabled : Bool
  csvEnabled : Bool
  jsonlEnabled : Bool
  prometheusEnabled : Bool
  failed : Bool
  stopRequested : Bool
  recordsAccepted : UInt64
  recordsDropped : UInt64
  queueDepth : UInt64
  prometheus : PrometheusSnapshot

/-! ### Accounting -/

def addAt {κ : Type} [DecidableEq κ] (table : κ → UInt64) (key : κ) (amount : UInt64) :
    κ → UInt64 :=
  fun k => if k = key then table k + amount else table k

def addError (table : OutputBackend → OutputErrorReason → UInt64) (backend : OutputBackend)
    (reason : OutputErrorReason) (amount : UInt64) : OutputBackend → OutputErrorReason → UInt64 :=
  fun b => if b = backend then addAt (table b) reason amount else table b

def OutputPipeline.markFailed (pipeline : OutputPipeline) : OutputPipeline :=
  { pipeline with failed := true }

def fileResultReason : FileSinkResult → OutputErrorReason
  | .openFailed => .open
  | .flushFailed => .flush
  | .closeFailed => .close
  | _ => .write

/-- The counters of one failed operation, and the failed flag. -/
def OutputPipeline.countError (pipeline : OutputPipeline) (backend : OutputBackend)
    (reason : OutputErrorReason) : OutputPipeline :=
  { pipeline with
    failed := true
    prometheus :=
      { pipeline.prometheus with
        outputRecordsError := addAt pipeline.prometheus.outputRecordsError backend 1
        outputErrors := addError pipeline.prometheus.outputErrors backend reason 1 } }

def OutputPipeline.countOk (pipeline : OutputPipeline) (backend : OutputBackend) :
    OutputPipeline :=
  { pipeline with
    prometheus :=
      { pipeline.prometheus with
        outputRecordsOk := addAt pipeline.prometheus.outputRecordsOk backend 1 } }

def accountFileResult (pipeline : OutputPipeline) (backend : OutputBackend)
    (result : FileSinkResult) : OutputPipeline :=
  if result = .ok then pipeline.countOk backend
  else pipeline.countError backend (fileResultReason result)

def accountIndication (pipeline : OutputPipeline) (record : CanonicalRecord) : OutputPipeline :=
  if !pipeline.lastIndicationPresent ∨
      pipeline.lastIndicationSequence ≠ record.indicationSequence then
    { pipeline with
      prometheus :=
        if record.messageFormat = 1 then
          { pipeline.prometheus with
            indicationsFormat1Total := pipeline.prometheus.indicationsFormat1Total + 1 }
        else if record.messageFormat = 3 then
          { pipeline.prometheus with
            indicationsFormat3Total := pipeline.prometheus.indicationsFormat3Total + 1 }
        else pipeline.prometheus
      lastIndicationSequence := record.indicationSequence
      lastIndicationPresent := true }
  else pipeline

def accountKind (totals : PrometheusSnapshot) (record : CanonicalRecord) : PrometheusSnapshot :=
  match record.recordKind with
  | .measurement =>
      match record.valueType with
      | .integer =>
          { totals with
            recordsMeasurementIntegerTotal := totals.recordsMeasurementIntegerTotal + 1 }
      | .real =>
          { totals with recordsMeasurementRealTotal := totals.recordsMeasurementRealTotal + 1 }
      | .noValue =>
          { totals with
            recordsMeasurementNoValueTotal := totals.recordsMeasurementNoValueTotal + 1 }
      | _ => totals
  | .diagnostic =>
      if record.structuralStatus = .lengthMismatch then
        { totals with
          recordsDiagnosticLengthMismatchTotal := totals.recordsDiagnosticLengthMismatchTotal + 1
          rejectedRowsLengthMismatchTotal := totals.rejectedRowsLengthMismatchTotal + 1 }
      else
        { totals with
          recordsDiagnosticInvalidInputTotal := totals.recordsDiagnosticInvalidInputTotal + 1
          rejectedRowsInvalidInputTotal := totals.rejectedRowsInvalidInputTotal + 1 }
  | .invalid => totals

def accountRecord (pipeline : OutputPipeline) (record : CanonicalRecord) : OutputPipeline :=
  let counted := accountIndication pipeline record
  { counted with
    prometheus :=
      { accountKind counted.prometheus record with
        lastReceiveTimestampSeconds := record.receiveTimestampUs / 1000000 } }

/-- A failing close is counted as an error, but not as a record. -/
def OutputPipeline.countCloseError (pipeline : OutputPipeline) (backend : OutputBackend)
    (result : FileSinkResult) : OutputPipeline :=
  { pipeline with
    failed := true
    prometheus :=
      { pipeline.prometheus with
        outputErrors :=
          addError pipeline.prometheus.outputErrors backend (fileResultReason result) 1 } }

/-- Every enabled backend is charged with the dropped records. -/
def chargeDropped (enabled : Bool) (backend : OutputBackend) (dropped : UInt64)
    (snapshot : PrometheusSnapshot) : PrometheusSnapshot :=
  if enabled then
    { snapshot with
      outputRecordsError := addAt snapshot.outputRecordsError backend dropped
      outputErrors := addError snapshot.outputErrors backend .write dropped }
  else snapshot

/-- `dropped` is the value loaded from the counter, `now` the clock reading. -/
def composeSnapshotLocked (pipeline : OutputPipeline) (dropped now : UInt64) :
    PrometheusSnapshot :=
  let snapshot :=
    { pipeline.prometheus with
      outputQueueDepth := UInt64.ofNat pipeline.queue.count
      snapshotTimestampSeconds := now }
  if dropped > 0 then
    chargeDropped pipeline.prometheusEnabled .prometheus dropped <|
      chargeDropped pipeline.jsonlEnabled .jsonl dropped <|
        chargeDropped pipeline.csvEnabled .csv dropped snapshot
  else snapshot

/-! ### Creation -/

def pathEnabled : Option (List UInt8) → Bool
  | some (_ :: _) => true
  | _ => false

def pathsAreDistinct (config : OutputPipelineConfig) : Bool :=
  let paths := [config.csvPath, config.jsonlPath, config.prometheusPath].filter pathEnabled
  decide paths.Nodup

/-- Which of the calls that creation makes succeed. -/
structure CreateOutcome where
  allocates : Bool
  mutexInits : Bool
  workConditionInits : Bool
  idleConditionInits : Bool
  csvOpen : OpenOutcome
  jsonlOpen : OpenOutcome
  workerStarts : Bool

def zeroSnapshot : PrometheusSnapshot where
  indicationsFormat1Total := 0
  indicationsFormat3Total := 0
  recordsMeasurementIntegerTotal := 0
  recordsMeasurementRealTotal := 0
  recordsMeasurementNoValueTotal := 0
  recordsDiagnosticLengthMismatchTotal := 0
  recordsDiagnosticInvalidInputTotal := 0
  rejectedRowsLengthMismatchTotal := 0
  rejectedRowsInvalidInputTotal := 0
  callbackErrorsTotal := 0
  subscriptionsCreatedTotal := 0
  subscriptionsRemovedTotal := 0
  outputRecordsOk := fun _ => 0
  outputRecordsError := fun _ => 0
  outputErrors := fun _ _ => 0
  outputQueueDepth := 0
  lastReceiveTimestampSeconds := 0
  snapshotTimestampSeconds := 0

/-- `calloc`. -/
def zeroPipeline : OutputPipeline where
  workerStarted := false
  workerBusy := false
  stopRequested := false
  csvEnabled := false
  jsonlEnabled := false
  prometheusEnabled := false
  prometheusPath := []
  csvSink := fileSinkInit
  jsonlSink := fileSinkInit
  queue := ⟨Vector.replicate _ canonicalRecordInit, 0, 0, 0⟩
  recordsAccepted := 0
  recordsDropped := 0
  failed := false
  lastIndicationSequence := 0
  lastIndicationPresent := false
  prometheus := zeroSnapshot

/-- An enabled sink is opened; a disabled one stays as it is. -/
def openSink (enabled : Bool) (format : FileSinkFormat) (path : Option (List UInt8))
    (outcome : OpenOutcome) (message : String) : Except String FileSink :=
  if enabled then
    match fileSinkOpen fileSinkInit format (path.getD []) outcome with
    | (.ok, sink) => .ok sink
    | _ => .error message
  else .ok fileSinkInit

/-- `tcd_kpm_output_pipeline_create`. Without any backend there is no pipeline object. A
failure frees what was set up so far. -/
def outputPipelineCreate (config : Option OutputPipelineConfig) (outcome : CreateOutcome) :
    Except String (Option OutputPipeline) :=
  match config with
  | none => .error "output pipeline input is null"
  | some config =>
    let csvEnabled := pathEnabled config.csvPath
    let jsonlEnabled := pathEnabled config.jsonlPath
    let prometheusEnabled := pathEnabled config.prometheusPath
    if !csvEnabled && !jsonlEnabled && !prometheusEnabled then .ok none
    else do
      require (pathsAreDistinct config) "output paths must be distinct"
      require outcome.allocates "output pipeline allocation failed"
      require outcome.mutexInits "output pipeline mutex init failed"
      require outcome.workConditionInits "output work condition init failed"
      require outcome.idleConditionInits "output idle condition init failed"
      let csvSink ← openSink csvEnabled .csv config.csvPath outcome.csvOpen
        "CSV output sink open failed"
      let jsonlSink ← openSink jsonlEnabled .jsonl config.jsonlPath outcome.jsonlOpen
        "JSONL output sink open failed"
      let prometheusPath := config.prometheusPath.getD []
      require (prometheusEnabled → prometheusPath.length < prometheusMaxPathBytes)
        "Prometheus output path invalid"
      require outcome.workerStarts "output worker creation failed"
      return some
        { zeroPipeline with
          workerStarted := true
          csvEnabled, jsonlEnabled, prometheusEnabled
          prometheusPath := if prometheusEnabled then prometheusPath else []
          csvSink, jsonlSink }

end TcdOran.Collector
