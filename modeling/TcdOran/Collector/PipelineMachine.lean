import TcdOran.Collector.OutputPipeline
import TcdOran.Lib.Machine

/-! The output pipeline of output_pipeline.c as a machine over its shared state, the worker,
any number of submitting and snapshotting threads, and one shutdown. A critical section of the
mutex is one step, except that a snapshot, whose two loads of the drop counter can be separated
by other threads' drops, holds the mutex over several steps. -/
namespace TcdOran.Collector
open TcdOran.Lib

abbrev ThreadId := ℕ

/-- Where `tcd_kpm_output_pipeline_try_submit` stands: a call that rejects its record counts the
drop, marks the failure and returns false. -/
inductive SubmitPc
  | idle
  | countDrop (record : Option CanonicalRecord)
  | markFailed (record : Option CanonicalRecord)

/-- Where `worker_main` stands, with the values of its local variables. -/
inductive WorkerPc
  | loop
  | writeCsv (record : CanonicalRecord)
  | writeJsonl (record : CanonicalRecord) (csvResult : FileSinkResult)
  | account (record : CanonicalRecord) (csvResult jsonlResult : FileSinkResult)
  | writePrometheus (record : CanonicalRecord) (snapshot : PrometheusSnapshot)
  | accountPrometheus (record : CanonicalRecord) (outcome : PrometheusOutcome)
  | clearBusy
  | exited

/-- Where `tcd_kpm_output_pipeline_snapshot` stands; behind `idle` it holds the mutex. -/
inductive SnapshotPc
  | idle
  | loadDropped (partial_ : OutputPipelineSnapshot)
  | compose (partial_ : OutputPipelineSnapshot)

/-- Where `tcd_kpm_output_pipeline_shutdown_and_destroy` stands, with its `success`. -/
inductive ShutdownPc
  | idle
  | join
  | closeCsv
  | accountCsv (result : FileSinkResult)
  | closeJsonl (success : Bool)
  | accountJsonl (result : FileSinkResult) (success : Bool)
  | compose (success : Bool)
  | writePrometheus (snapshot : PrometheusSnapshot) (success : Bool)
  | checkDropped (success : Bool)
  | checkFailed (success : Bool)
  | returned (success : Bool)

/-- `mutex` is the snapshotting thread that holds the mutex between two steps. -/
structure System where
  pipeline : OutputPipeline
  mutex : Option ThreadId
  submitters : ThreadId → SubmitPc
  worker : WorkerPc
  snapshots : ThreadId → SnapshotPc
  shutdown : ShutdownPc

def System.start (pipeline : OutputPipeline) : System where
  pipeline := pipeline
  mutex := none
  submitters := fun _ => .idle
  worker := .loop
  snapshots := fun _ => .idle
  shutdown := .idle

inductive Event
  | submitReturned (thread : ThreadId) (record : Option CanonicalRecord) (accepted : Bool)
  | dequeued (record : CanonicalRecord)
  | fileWrite (backend : OutputBackend) (record : CanonicalRecord) (outcome : WriteOutcome)
      (result : FileSinkResult)
  | accounted (record : CanonicalRecord)
  | prometheusWrite (snapshot : PrometheusSnapshot) (outcome : PrometheusOutcome)
  | processed (record : CanonicalRecord)
  | workerExited
  | waitIdleReturned (idle : Bool)
  | snapshotReturned (thread : ThreadId) (snapshot : OutputPipelineSnapshot)
  | fileClose (backend : OutputBackend) (outcome : CloseOutcome) (result : FileSinkResult)
  | shutdownReturned (success : Bool)

/-- A step of one thread, with what the calls outside the program answer there. -/
inductive Action
  | submit (thread : ThreadId) (record : Option CanonicalRecord) (contended : Bool)
  | countDrop (thread : ThreadId)
  | markFailed (thread : ThreadId)
  | dequeue
  | writeCsv (outcome : WriteOutcome)
  | writeJsonl (outcome : WriteOutcome)
  | account (now : UInt64)
  | writePrometheus (outcome : PrometheusOutcome)
  | accountPrometheus
  | clearBusy
  | waitIdle (givesUp : Bool)
  | setRuntimeCounters (callbackErrors subscriptionsCreated subscriptionsRemoved : UInt64)
  | snapshotLock (thread : ThreadId)
  | snapshotDropped (thread : ThreadId)
  | snapshotCompose (thread : ThreadId) (now : UInt64)
  | stop
  | join
  | closeCsv (outcome : CloseOutcome)
  | accountCsv
  | closeJsonl (outcome : CloseOutcome)
  | accountJsonl
  | composeFinal (now : UInt64)
  | writeFinal (outcome : PrometheusOutcome)
  | checkDropped
  | checkFailed

/-! ### Submitting -/

abbrev Step := Option (System × List Event)

def System.setSubmitter (s : System) (thread : ThreadId) (pc : SubmitPc) : System :=
  { s with submitters := Function.update s.submitters thread pc }

/-- What `try_submit` checks under the mutex, or before it. -/
def submitAccepts (s : System) (record : Option CanonicalRecord) (contended : Bool) : Bool :=
  (canonicalRecordValidate record).1 = .ok ∧ !contended ∧ s.mutex = none ∧
    !s.pipeline.stopRequested ∧ s.pipeline.queue.count < outputQueueCapacity

def enqueue (pipeline : OutputPipeline) (record : CanonicalRecord) : OutputPipeline :=
  { pipeline with
    queue := pipeline.queue.push record
    recordsAccepted := pipeline.recordsAccepted + 1 }

/-- `try_submit` up to its first return: behind the critical section of an accepted record only
the return is left. `contended` is a failing `pthread_mutex_trylock`. -/
def stepSubmit (s : System) (thread : ThreadId) (record : Option CanonicalRecord)
    (contended : Bool) : Step :=
  match s.submitters thread, record with
  | .idle, some present =>
      if submitAccepts s record contended then
        some ({ s with pipeline := enqueue s.pipeline present },
          [.submitReturned thread record true])
      else some (s.setSubmitter thread (.countDrop record), [])
  | .idle, none => some (s.setSubmitter thread (.countDrop none), [])
  | _, _ => none

def stepCountDrop (s : System) (thread : ThreadId) : Step :=
  match s.submitters thread with
  | .countDrop record =>
      let pipeline := { s.pipeline with recordsDropped := s.pipeline.recordsDropped + 1 }
      some ({ s with pipeline }.setSubmitter thread (.markFailed record), [])
  | _ => none

def stepMarkFailed (s : System) (thread : ThreadId) : Step :=
  match s.submitters thread with
  | .markFailed record =>
      some ({ s with pipeline := s.pipeline.markFailed }.setSubmitter thread .idle,
        [.submitReturned thread record false])
  | _ => none

/-! ### The worker -/

/-- The critical section at the head of the loop, once its wait is over. -/
def stepDequeue (s : System) : Step :=
  match s.worker with
  | .loop =>
      if s.mutex ≠ none then none
      else if s.pipeline.queue.count = 0 then
        if s.pipeline.stopRequested then
          some ({ s with pipeline := { s.pipeline with workerBusy := false }, worker := .exited },
            [.workerExited])
        else none
      else do
        let (record, queue) ← s.pipeline.queue.pop
        return ({ s with
          pipeline := { s.pipeline with queue, workerBusy := true }
          worker := .writeCsv record }, [.dequeued record])
  | _ => none

def stepWriteCsv (s : System) (outcome : WriteOutcome) : Step :=
  match s.worker with
  | .writeCsv record =>
      if s.pipeline.csvEnabled then
        let write := fileSinkWrite s.pipeline.csvSink record outcome
        some ({ s with
          pipeline := { s.pipeline with csvSink := write.2 }
          worker := .writeJsonl record write.1 }, [.fileWrite .csv record outcome write.1])
      else some ({ s with worker := .writeJsonl record .ok }, [])
  | _ => none

def stepWriteJsonl (s : System) (outcome : WriteOutcome) : Step :=
  match s.worker with
  | .writeJsonl record csvResult =>
      if s.pipeline.jsonlEnabled then
        let write := fileSinkWrite s.pipeline.jsonlSink record outcome
        some ({ s with
          pipeline := { s.pipeline with jsonlSink := write.2 }
          worker := .account record csvResult write.1 },
          [.fileWrite .jsonl record outcome write.1])
      else some ({ s with worker := .account record csvResult .ok }, [])
  | _ => none

def accountResults (pipeline : OutputPipeline) (record : CanonicalRecord)
    (csvResult jsonlResult : FileSinkResult) : OutputPipeline :=
  let recorded := accountRecord pipeline record
  let withCsv :=
    if recorded.csvEnabled then accountFileResult recorded .csv csvResult else recorded
  if withCsv.jsonlEnabled then accountFileResult withCsv .jsonl jsonlResult else withCsv

/-- The critical section of `process_record`. Without Prometheus the record is then done. -/
def stepAccount (s : System) (now : UInt64) : Step :=
  match s.worker with
  | .account record csvResult jsonlResult =>
      if s.mutex ≠ none then none
      else
        let pipeline := accountResults s.pipeline record csvResult jsonlResult
        if pipeline.prometheusEnabled then
          let snapshot := composeSnapshotLocked pipeline pipeline.recordsDropped now
          some ({ s with pipeline, worker := .writePrometheus record snapshot },
            [.accounted record])
        else some ({ s with pipeline, worker := .clearBusy }, [.accounted record, .processed record])
  | _ => none

def stepWritePrometheus (s : System) (outcome : PrometheusOutcome) : Step :=
  match s.worker with
  | .writePrometheus record snapshot =>
      some ({ s with worker := .accountPrometheus record outcome },
        [.prometheusWrite snapshot outcome])
  | _ => none

def accountPrometheusOutcome (pipeline : OutputPipeline) : PrometheusOutcome → OutputPipeline
  | .ok => pipeline.countOk .prometheus
  | .error reason => pipeline.countError .prometheus reason

def stepAccountPrometheus (s : System) : Step :=
  match s.worker with
  | .accountPrometheus record outcome =>
      if s.mutex ≠ none then none
      else some ({ s with
        pipeline := accountPrometheusOutcome s.pipeline outcome
        worker := .clearBusy }, [.processed record])
  | _ => none

def stepClearBusy (s : System) : Step :=
  match s.worker with
  | .clearBusy =>
      if s.mutex ≠ none then none
      else some ({ s with
        pipeline := { s.pipeline with workerBusy := false }
        worker := .loop }, [])
  | _ => none

/-! ### The other calls -/

/-- A wait ends when the pipeline is idle, or gives up at the deadline or on an error. -/
def stepWaitIdle (s : System) (givesUp : Bool) : Step :=
  if givesUp then some (s, [.waitIdleReturned false])
  else if s.mutex = none ∧ s.pipeline.queue.count = 0 ∧ !s.pipeline.workerBusy then
    some (s, [.waitIdleReturned true])
  else none

def stepSetRuntimeCounters (s : System) (callbackErrors subscriptionsCreated
    subscriptionsRemoved : UInt64) : Step :=
  if s.mutex ≠ none then none
  else
    let prometheus :=
      { s.pipeline.prometheus with
        callbackErrorsTotal := callbackErrors
        subscriptionsCreatedTotal := subscriptionsCreated
        subscriptionsRemovedTotal := subscriptionsRemoved }
    some ({ s with pipeline := { s.pipeline with prometheus } }, [])

def System.setSnapshot (s : System) (thread : ThreadId) (pc : SnapshotPc) : System :=
  { s with snapshots := Function.update s.snapshots thread pc }

/-- The lock and the loads before that of the drop counter. -/
def stepSnapshotLock (s : System) (thread : ThreadId) : Step :=
  match s.snapshots thread with
  | .idle =>
      if s.mutex ≠ none then none
      else
        let loaded : OutputPipelineSnapshot :=
          { enabled := true
            csvEnabled := s.pipeline.csvEnabled
            jsonlEnabled := s.pipeline.jsonlEnabled
            prometheusEnabled := s.pipeline.prometheusEnabled
            failed := s.pipeline.failed
            stopRequested := s.pipeline.stopRequested
            recordsAccepted := s.pipeline.recordsAccepted
            recordsDropped := 0
            queueDepth := 0
            prometheus := zeroSnapshot }
        some ({ s with mutex := some thread }.setSnapshot thread (.loadDropped loaded), [])
  | _ => none

def stepSnapshotDropped (s : System) (thread : ThreadId) : Step :=
  match s.snapshots thread with
  | .loadDropped loaded =>
      let loaded :=
        { loaded with
          recordsDropped := s.pipeline.recordsDropped
          queueDepth := UInt64.ofNat s.pipeline.queue.count }
      some (s.setSnapshot thread (.compose loaded), [])
  | _ => none

/-- `compose_snapshot_locked` loads the drop counter a second time. -/
def stepSnapshotCompose (s : System) (thread : ThreadId) (now : UInt64) : Step :=
  match s.snapshots thread with
  | .compose loaded =>
      let prometheus := composeSnapshotLocked s.pipeline s.pipeline.recordsDropped now
      some ({ s with mutex := none }.setSnapshot thread .idle,
        [.snapshotReturned thread { loaded with prometheus }])
  | _ => none

/-! ### Shutdown -/

def stepStop (s : System) : Step :=
  match s.shutdown with
  | .idle =>
      if s.mutex ≠ none then none
      else some ({ s with
        pipeline := { s.pipeline with stopRequested := true }
        shutdown := .join }, [])
  | _ => none

def stepJoin (s : System) : Step :=
  match s.shutdown, s.worker with
  | .join, .exited =>
      some ({ s with
        pipeline := { s.pipeline with workerStarted := false }
        shutdown := .closeCsv }, [])
  | _, _ => none

def stepCloseCsv (s : System) (outcome : CloseOutcome) : Step :=
  match s.shutdown with
  | .closeCsv =>
      if s.pipeline.csvEnabled then
        let close := fileSinkClose s.pipeline.csvSink outcome
        some ({ s with
          pipeline := { s.pipeline with csvSink := close.2 }
          shutdown := .accountCsv close.1 }, [.fileClose .csv outcome close.1])
      else some ({ s with shutdown := .closeJsonl true }, [])
  | _ => none

def accountClose (pipeline : OutputPipeline) (backend : OutputBackend) (result : FileSinkResult) :
    OutputPipeline :=
  if result ≠ .ok then pipeline.countCloseError backend result else pipeline

def stepAccountCsv (s : System) : Step :=
  match s.shutdown with
  | .accountCsv result =>
      if s.mutex ≠ none then none
      else some ({ s with
        pipeline := accountClose s.pipeline .csv result
        shutdown := .closeJsonl (result = .ok) }, [])
  | _ => none

def stepCloseJsonl (s : System) (outcome : CloseOutcome) : Step :=
  match s.shutdown with
  | .closeJsonl success =>
      if s.pipeline.jsonlEnabled then
        let close := fileSinkClose s.pipeline.jsonlSink outcome
        some ({ s with
          pipeline := { s.pipeline with jsonlSink := close.2 }
          shutdown := .accountJsonl close.1 success }, [.fileClose .jsonl outcome close.1])
      else some ({ s with shutdown := .compose success }, [])
  | _ => none

def stepAccountJsonl (s : System) : Step :=
  match s.shutdown with
  | .accountJsonl result success =>
      if s.mutex ≠ none then none
      else some ({ s with
        pipeline := accountClose s.pipeline .jsonl result
        shutdown := .compose (success && result = .ok) }, [])
  | _ => none

def stepComposeFinal (s : System) (now : UInt64) : Step :=
  match s.shutdown with
  | .compose success =>
      if s.mutex ≠ none then none
      else
        let snapshot := composeSnapshotLocked s.pipeline s.pipeline.recordsDropped now
        some ({ s with shutdown := .writePrometheus snapshot success }, [])
  | _ => none

def stepWriteFinal (s : System) (outcome : PrometheusOutcome) : Step :=
  match s.shutdown with
  | .writePrometheus snapshot success =>
      if s.pipeline.prometheusEnabled then
        if outcome = .ok then
          some ({ s with shutdown := .checkDropped success }, [.prometheusWrite snapshot outcome])
        else
          some ({ s with
            pipeline := s.pipeline.markFailed
            shutdown := .checkDropped false }, [.prometheusWrite snapshot outcome])
      else some ({ s with shutdown := .checkDropped success }, [])
  | _ => none

def stepCheckDropped (s : System) : Step :=
  match s.shutdown with
  | .checkDropped success =>
      some ({ s with shutdown := .checkFailed (success && s.pipeline.recordsDropped = 0) }, [])
  | _ => none

/-- The last load, the release of the pipeline and the return. A call that is still under way
then works on freed memory, so no step follows. -/
def stepCheckFailed (s : System) : Step :=
  match s.shutdown with
  | .checkFailed success =>
      let success := success && !s.pipeline.failed
      some ({ s with shutdown := .returned success }, [.shutdownReturned success])
  | _ => none

def System.destroyed (s : System) : Bool :=
  match s.shutdown with
  | .returned _ => true
  | _ => false

def stepLive (s : System) : Action → Step
  | .submit thread record contended => stepSubmit s thread record contended
  | .countDrop thread => stepCountDrop s thread
  | .markFailed thread => stepMarkFailed s thread
  | .dequeue => stepDequeue s
  | .writeCsv outcome => stepWriteCsv s outcome
  | .writeJsonl outcome => stepWriteJsonl s outcome
  | .account now => stepAccount s now
  | .writePrometheus outcome => stepWritePrometheus s outcome
  | .accountPrometheus => stepAccountPrometheus s
  | .clearBusy => stepClearBusy s
  | .waitIdle givesUp => stepWaitIdle s givesUp
  | .setRuntimeCounters errors created removed => stepSetRuntimeCounters s errors created removed
  | .snapshotLock thread => stepSnapshotLock s thread
  | .snapshotDropped thread => stepSnapshotDropped s thread
  | .snapshotCompose thread now => stepSnapshotCompose s thread now
  | .stop => stepStop s
  | .join => stepJoin s
  | .closeCsv outcome => stepCloseCsv s outcome
  | .accountCsv => stepAccountCsv s
  | .closeJsonl outcome => stepCloseJsonl s outcome
  | .accountJsonl => stepAccountJsonl s
  | .composeFinal now => stepComposeFinal s now
  | .writeFinal outcome => stepWriteFinal s outcome
  | .checkDropped => stepCheckDropped s
  | .checkFailed => stepCheckFailed s

def pipelineMachine : Machine System Action Event := fun s action =>
  if s.destroyed then none else stepLive s action

/-- What the caller holds: the null pointer when no backend is enabled. Calls on it do nothing
and succeed. -/
def clientMachine : Machine (Option System) Action Event
  | none, .submit thread record _ => some (none, [.submitReturned thread record true])
  | none, .waitIdle _ => some (none, [.waitIdleReturned true])
  | none, .setRuntimeCounters _ _ _ => some (none, [])
  | none, .stop => some (none, [.shutdownReturned true])
  | none, _ => none
  | some s, action => (pipelineMachine s action).map fun r => (some r.1, r.2)

theorem clientMachine_some {s : System} {action : Action} {c : Option System} {es : List Event}
    (h : clientMachine (some s) action = some (c, es)) :
    ∃ s', c = some s' ∧ pipelineMachine s action = some (s', es) := by
  simp only [clientMachine, Option.map_eq_some_iff] at h
  obtain ⟨⟨s', es'⟩, hs, h⟩ := h
  obtain ⟨rfl, rfl⟩ := Prod.mk.inj h
  exact ⟨s', rfl, hs⟩

/-- With a pipeline object the caller's runs are the runs of the pipeline. -/
theorem run_of_client {s₀ : System} {tr : List Event} {c : Option System}
    (h : Machine.Run clientMachine (some s₀) tr c) :
    ∃ s, c = some s ∧ Machine.Run pipelineMachine s₀ tr s := by
  induction h with
  | start => exact ⟨s₀, rfl, .start⟩
  | step _ hs ih =>
    obtain ⟨s, rfl, hrun⟩ := ih
    obtain ⟨s', rfl, hs'⟩ := clientMachine_some hs
    exact ⟨s', rfl, hrun.step hs'⟩

end TcdOran.Collector
