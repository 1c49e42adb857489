import TcdOran.Collector.PipelineQueue

/-! A shutdown that reports success has left complete files behind, and nothing was rejected
and nothing failed on the way. -/
namespace TcdOran.Collector
open TcdOran.Lib

/-! ### Clean runs -/

/-- No rejected submit and no failed file or Prometheus operation. -/
def Event.Clean : Event → Prop
  | .submitReturned _ _ accepted => accepted = true
  | .fileWrite _ _ outcome result => result = .ok ∧ outcome.Succeeds
  | .prometheusWrite _ outcome => outcome = .ok
  | .fileClose _ outcome result => result = .ok ∧ outcome.Succeeds
  | _ => True

def Clean (tr : List Event) : Prop := ∀ e ∈ tr, e.Clean

theorem clean_append {tr es : List Event} : Clean (tr ++ es) ↔ Clean tr ∧ Clean es := by
  simp only [Clean, List.forall_mem_append]

def Event.written? (backend : OutputBackend) : Event → Option CanonicalRecord
  | .fileWrite b record _ _ => if b = backend then some record else none
  | _ => none

/-- The records a backend was asked to write. -/
def written (backend : OutputBackend) (tr : List Event) : List CanonicalRecord :=
  tr.filterMap (Event.written? backend)

@[simp] theorem written_append (backend : OutputBackend) (tr es : List Event) :
    written backend (tr ++ es) = written backend tr ++ written backend es :=
  List.filterMap_append

section
variable (backend : OutputBackend) (record : CanonicalRecord) (outcome : WriteOutcome)
  (result : FileSinkResult)

@[simp] theorem dequeued_fileWrite :
    dequeued [.fileWrite backend record outcome result] = [] := rfl

@[simp] theorem written_fileWrite :
    written backend [.fileWrite backend record outcome result] = [record] := by
  simp [written, Event.written?]

@[simp] theorem written_fileWrite_of_ne {other : OutputBackend} (h : backend ≠ other) :
    written other [.fileWrite backend record outcome result] = [] := by
  simp [written, Event.written?, h]

@[simp] theorem dequeued_fileClose (close : CloseOutcome) :
    dequeued [.fileClose backend close result] = [] := rfl

@[simp] theorem written_fileClose (other : OutputBackend) (close : CloseOutcome) :
    written other [.fileClose backend close result] = [] := rfl

end

/-- The dequeued record that has not been offered to the CSV sink yet. -/
def WorkerPc.pendingCsv : WorkerPc → List CanonicalRecord
  | .writeCsv record => [record]
  | _ => []

def WorkerPc.pendingJsonl : WorkerPc → List CanonicalRecord
  | .writeCsv record => [record]
  | .writeJsonl record _ => [record]
  | _ => []

/-- No result that waits for its accounting is a failure. -/
def WorkerPc.ResultsOk (csvEnabled jsonlEnabled : Bool) : WorkerPc → Prop
  | .writeJsonl _ csvResult => csvEnabled = true → csvResult = .ok
  | .account _ csvResult jsonlResult =>
      (csvEnabled = true → csvResult = .ok) ∧ (jsonlEnabled = true → jsonlResult = .ok)
  | .accountPrometheus _ outcome => outcome = .ok
  | _ => True

def ShutdownPc.ResultsOk : ShutdownPc → Prop
  | .accountCsv result => result = .ok
  | .accountJsonl result _ => result = .ok
  | _ => True

/-- Nothing has failed: the flag is down and no failure waits for its accounting. -/
structure SystemOk (s : System) : Prop where
  failed : s.pipeline.failed = false
  worker : s.worker.ResultsOk s.pipeline.csvEnabled s.pipeline.jsonlEnabled
  shutdown : s.shutdown.ResultsOk

def ShutdownPc.csvOpen : ShutdownPc → Bool
  | .idle | .join | .closeCsv => true
  | _ => false

def ShutdownPc.jsonlOpen : ShutdownPc → Bool
  | .idle | .join | .closeCsv | .accountCsv _ | .closeJsonl _ => true
  | _ => false

/-- The worker has been joined. -/
def ShutdownPc.joined : ShutdownPc → Bool
  | .idle | .join => false
  | _ => true

/-- A sink in a run: open and ready until its close, and complete unless it has failed. -/
structure SinkInv (sink : FileSink) (format : FileSinkFormat) (records : List CanonicalRecord)
    (isOpen : Bool) (clean : Prop) : Prop where
  ready : isOpen = true → sink.Ready format records
  file : sink.failed = false → sink.file = filePrefix format ++ records.flatMap (fileLine format)
  failed : clean → sink.failed = false

/-- What holds after every run with the trace `tr`, for the pipeline it started from. -/
structure FileInv (start : OutputPipeline) (tr : List Event) (s : System) : Prop where
  csvEnabled : s.pipeline.csvEnabled = start.csvEnabled
  jsonlEnabled : s.pipeline.jsonlEnabled = start.jsonlEnabled
  clean : SystemOk s → Clean tr
  csv : s.pipeline.csvEnabled = true →
    SinkInv s.pipeline.csvSink .csv (written .csv tr) s.shutdown.csvOpen (Clean tr)
  jsonl : s.pipeline.jsonlEnabled = true →
    SinkInv s.pipeline.jsonlSink .jsonl (written .jsonl tr) s.shutdown.jsonlOpen (Clean tr)
  csvOrder : s.pipeline.csvEnabled = true →
    written .csv tr ++ s.worker.pendingCsv = dequeued tr
  jsonlOrder : s.pipeline.jsonlEnabled = true →
    written .jsonl tr ++ s.worker.pendingJsonl = dequeued tr
  joined : s.shutdown.joined = true → s.worker = .exited

/-! ### Steps that touch no file -/

/-- The parts of the state the files depend on. -/
structure SameFiles (s s' : System) : Prop where
  csvEnabled : s'.pipeline.csvEnabled = s.pipeline.csvEnabled
  jsonlEnabled : s'.pipeline.jsonlEnabled = s.pipeline.jsonlEnabled
  csvSink : s'.pipeline.csvSink = s.pipeline.csvSink
  jsonlSink : s'.pipeline.jsonlSink = s.pipeline.jsonlSink
  csvOpen : s.pipeline.csvEnabled = true → s'.shutdown.csvOpen = s.shutdown.csvOpen
  jsonlOpen : s.pipeline.jsonlEnabled = true → s'.shutdown.jsonlOpen = s.shutdown.jsonlOpen

variable {pipeline : OutputPipeline} {tr es : List Event} {s s' : System} {a : Action}

theorem SinkInv.congr {sink : FileSink} {format : FileSinkFormat}
    {records : List CanonicalRecord} {isOpen : Bool} {clean clean' : Prop}
    (h : SinkInv sink format records isOpen clean) (hc : clean' → clean) :
    SinkInv sink format records isOpen clean' :=
  ⟨h.ready, h.file, fun hc' => h.failed (hc hc')⟩

theorem FileInv.frame (hi : FileInv pipeline tr s) (hsame : SameFiles s s')
    (hcsv : written .csv es = []) (hjsonl : written .jsonl es = [])
    (hpcsv : s.pipeline.csvEnabled = true →
      s'.worker.pendingCsv = s.worker.pendingCsv ++ dequeued es)
    (hpjsonl : s.pipeline.jsonlEnabled = true →
      s'.worker.pendingJsonl = s.worker.pendingJsonl ++ dequeued es)
    (hjoined : s'.shutdown.joined = true → s'.worker = .exited)
    (hok : SystemOk s' → SystemOk s ∧ Clean es) : FileInv pipeline (tr ++ es) s' where
  csvEnabled := hsame.csvEnabled.trans hi.csvEnabled
  jsonlEnabled := hsame.jsonlEnabled.trans hi.jsonlEnabled
  clean := fun h => clean_append.mpr ⟨hi.clean (hok h).1, (hok h).2⟩
  csv := by
    intro he
    rw [hsame.csvEnabled] at he
    rw [hsame.csvSink, hsame.csvOpen he, written_append, hcsv, List.append_nil]
    exact (hi.csv he).congr fun hc => (clean_append.mp hc).1
  jsonl := by
    intro he
    rw [hsame.jsonlEnabled] at he
    rw [hsame.jsonlSink, hsame.jsonlOpen he, written_append, hjsonl, List.append_nil]
    exact (hi.jsonl he).congr fun hc => (clean_append.mp hc).1
  csvOrder := by
    intro he
    rw [hsame.csvEnabled] at he
    rw [written_append, hcsv, List.append_nil, hpcsv he, ← List.append_assoc,
      hi.csvOrder he, dequeued_append]
  jsonlOrder := by
    intro he
    rw [hsame.jsonlEnabled] at he
    rw [written_append, hjsonl, List.append_nil, hpjsonl he, ← List.append_assoc,
      hi.jsonlOrder he, dequeued_append]
  joined := hjoined

/-- A step of a submitter, a waiter or a snapshot. -/
theorem FileInv.client (hi : FileInv pipeline tr s) (hsame : SameFiles s s')
    (hworker : s'.worker = s.worker) (hshutdown : s'.shutdown = s.shutdown)
    (hcsv : written .csv es = []) (hjsonl : written .jsonl es = []) (hdeq : dequeued es = [])
    (hok : s'.pipeline.failed = false → s.pipeline.failed = false ∧ Clean es) :
    FileInv pipeline (tr ++ es) s' := by
  refine hi.frame hsame hcsv hjsonl (by simp [hworker, hdeq]) (by simp [hworker, hdeq]) ?_ ?_
  · rw [hshutdown, hworker]
    exact hi.joined
  · intro h
    refine ⟨⟨(hok h.failed).1, ?_, hshutdown ▸ h.shutdown⟩, (hok h.failed).2⟩
    have := h.worker
    rwa [hworker, hsame.csvEnabled, hsame.jsonlEnabled] at this

theorem clean_nil : Clean [] := by simp [Clean]

theorem clean_singleton {e : Event} : Clean [e] ↔ e.Clean := by simp [Clean]

theorem fileInv_submit {thread : ThreadId} {record : Option CanonicalRecord} {contended : Bool}
    (hi : FileInv pipeline tr s) (h : stepSubmit s thread record contended = some (s', es)) :
    FileInv pipeline (tr ++ es) s' := by
  unfold stepSubmit at h
  split at h
  · split at h
    · obtain ⟨rfl, rfl⟩ := Prod.mk.inj (Option.some.inj h)
      exact hi.client ⟨rfl, rfl, rfl, rfl, fun _ => rfl, fun _ => rfl⟩ rfl rfl rfl rfl rfl
        fun hf => ⟨hf, clean_singleton.mpr rfl⟩
    · obtain ⟨rfl, rfl⟩ := Prod.mk.inj (Option.some.inj h)
      exact hi.client ⟨rfl, rfl, rfl, rfl, fun _ => rfl, fun _ => rfl⟩ rfl rfl rfl rfl rfl
        fun hf => ⟨hf, clean_nil⟩
  · obtain ⟨rfl, rfl⟩ := Prod.mk.inj (Option.some.inj h)
    exact hi.client ⟨rfl, rfl, rfl, rfl, fun _ => rfl, fun _ => rfl⟩ rfl rfl rfl rfl rfl fun hf => ⟨hf, clean_nil⟩
  · simp at h

/-- A rejected submit raises the flag before it returns. -/
theorem fileInv_markFailed {thread : ThreadId} (hi : FileInv pipeline tr s)
    (h : stepMarkFailed s thread = some (s', es)) : FileInv pipeline (tr ++ es) s' := by
  unfold stepMarkFailed at h
  split at h
  · obtain ⟨rfl, rfl⟩ := Prod.mk.inj (Option.some.inj h)
    exact hi.client ⟨rfl, rfl, rfl, rfl, fun _ => rfl, fun _ => rfl⟩ rfl rfl rfl rfl rfl fun hf => by cases hf
  · simp at h

/-! ### The worker -/

theorem ShutdownPc.open_of_not_joined {pc : ShutdownPc} (h : pc.joined = false) :
    pc.csvOpen = true ∧ pc.jsonlOpen = true := by
  cases pc <;> simp_all [ShutdownPc.joined, ShutdownPc.csvOpen, ShutdownPc.jsonlOpen]

theorem FileInv.not_joined (hi : FileInv pipeline tr s) (h : s.worker ≠ .exited) :
    s.shutdown.joined = false := by
  cases hj : s.shutdown.joined
  · rfl
  · exact absurd (hi.joined hj) h

theorem fileInv_dequeue (hi : FileInv pipeline tr s) (h : stepDequeue s = some (s', es)) :
    FileInv pipeline (tr ++ es) s' := by
  unfold stepDequeue at h
  split at h
  · next hpc =>
    have hnj := hi.not_joined (by simp [hpc])
    split at h
    · simp at h
    split at h
    · split at h
      · obtain ⟨rfl, rfl⟩ := Prod.mk.inj (Option.some.inj h)
        refine hi.frame ⟨rfl, rfl, rfl, rfl, fun _ => rfl, fun _ => rfl⟩ rfl rfl (fun _ => ?_) (fun _ => ?_)
          (fun _ => rfl) fun ho => ⟨⟨ho.failed, by rw [hpc]; trivial, ho.shutdown⟩, ?_⟩
        · rw [hpc]
          rfl
        · rw [hpc]
          rfl
        · exact clean_singleton.mpr trivial
      · simp at h
    · simp only [Option.bind_eq_bind, Option.bind_eq_some_iff] at h
      obtain ⟨⟨record, queue⟩, -, h⟩ := h
      obtain ⟨rfl, rfl⟩ := Prod.mk.inj (Option.some.inj h)
      refine hi.frame ⟨rfl, rfl, rfl, rfl, fun _ => rfl, fun _ => rfl⟩ rfl rfl (fun _ => ?_) (fun _ => ?_)
        (fun hj => absurd hj (by simp [hnj])) fun ho =>
          ⟨⟨ho.failed, by rw [hpc]; trivial, ho.shutdown⟩, clean_singleton.mpr trivial⟩
      · rw [hpc]
        rfl
      · rw [hpc]
        rfl
  · simp at h

/-- One write of a ready sink, whatever stdio answers. -/
theorem SinkInv.write {sink : FileSink} {format : FileSinkFormat} {records : List CanonicalRecord}
    {record : CanonicalRecord} {clean clean' : Prop} {isOpen : Bool}
    (h : SinkInv sink format records isOpen clean) (hopen : isOpen = true)
    (hr : Accepted record) (outcome : WriteOutcome)
    (hc : clean' → (fileSinkWrite sink record outcome).1 = .ok) :
    SinkInv (fileSinkWrite sink record outcome).2 format (records ++ [record]) isOpen clean' := by
  obtain ⟨hready, hok, -⟩ := (h.ready hopen).write hr outcome
  exact ⟨fun _ => hready, hready.file, fun hc' => hok.mp (hc hc')⟩

theorem FileInv.accepted_current (hq : QueueInv tr s) {record : CanonicalRecord}
    (h : s.worker.current = [record]) : Accepted record := by
  apply hq.valid
  rw [← hq.order, ← hq.progress, h]
  simp

theorem fileInv_writeCsv {outcome : WriteOutcome} (hi : FileInv pipeline tr s) (hq : QueueInv tr s)
    (h : stepWriteCsv s outcome = some (s', es)) : FileInv pipeline (tr ++ es) s' := by
  unfold stepWriteCsv at h
  split at h
  · next record hpc =>
    have hnj := hi.not_joined (by simp [hpc])
    have hopen := ShutdownPc.open_of_not_joined hnj
    have hr : Accepted record := FileInv.accepted_current hq (by rw [hpc]; rfl)
    split at h
    · next he =>
      obtain ⟨rfl, rfl⟩ := Prod.mk.inj (Option.some.inj h)
      set r := fileSinkWrite s.pipeline.csvSink record outcome
      obtain ⟨-, -, hsucc⟩ := ((hi.csv he).ready hopen.1).write hr outcome
      refine ⟨hi.csvEnabled, hi.jsonlEnabled, fun ho => ?_, fun _ => ?_, fun hj => ?_,
        fun _ => ?_, fun hj => ?_, fun hj => absurd hj (by simp [hnj])⟩
      · have hres : r.1 = .ok := ho.worker he
        have hs : SystemOk s := ⟨ho.failed, by rw [hpc]; trivial, ho.shutdown⟩
        exact clean_append.mpr ⟨hi.clean hs, clean_singleton.mpr ⟨hres, (hsucc hres).1⟩⟩
      · have hone : written .csv (tr ++ [.fileWrite .csv record outcome r.1]) =
            written .csv tr ++ [record] := by simp
        rw [hone]
        exact (hi.csv he).write hopen.1 hr outcome
          fun hc => ((clean_singleton.mp (clean_append.mp hc).2)).1
      · have hnone : written .jsonl (tr ++ [.fileWrite .csv record outcome r.1]) =
            written .jsonl tr := by simp
        rw [hnone]
        exact (hi.jsonl hj).congr fun hc => (clean_append.mp hc).1
      · have := hi.csvOrder he
        rw [hpc] at this
        simpa [WorkerPc.pendingCsv] using this
      · have := hi.jsonlOrder hj
        rw [hpc] at this
        simpa [WorkerPc.pendingJsonl] using this
    · next he =>
      obtain ⟨rfl, rfl⟩ := Prod.mk.inj (Option.some.inj h)
      refine hi.frame ⟨rfl, rfl, rfl, rfl, fun _ => rfl, fun _ => rfl⟩ rfl rfl (fun he' => absurd he' he)
        (fun _ => by rw [hpc]; rfl) (fun hj => absurd hj (by simp [hnj])) fun ho =>
          ⟨⟨ho.failed, by rw [hpc]; trivial, ho.shutdown⟩, clean_nil⟩
  · simp at h

theorem fileInv_writeJsonl {outcome : WriteOutcome} (hi : FileInv pipeline tr s) (hq : QueueInv tr s)
    (h : stepWriteJsonl s outcome = some (s', es)) : FileInv pipeline (tr ++ es) s' := by
  unfold stepWriteJsonl at h
  split at h
  · next record csvResult hpc =>
    have hnj := hi.not_joined (by simp [hpc])
    have hopen := ShutdownPc.open_of_not_joined hnj
    have hr : Accepted record := FileInv.accepted_current hq (by rw [hpc]; rfl)
    split at h
    · next he =>
      obtain ⟨rfl, rfl⟩ := Prod.mk.inj (Option.some.inj h)
      set r := fileSinkWrite s.pipeline.jsonlSink record outcome
      obtain ⟨-, -, hsucc⟩ := ((hi.jsonl he).ready hopen.2).write hr outcome
      refine ⟨hi.csvEnabled, hi.jsonlEnabled, fun ho => ?_, fun hc => ?_, fun _ => ?_,
        fun hc => ?_, fun _ => ?_, fun hj => absurd hj (by simp [hnj])⟩
      · have hres : r.1 = .ok := ho.worker.2 he
        have hs : SystemOk s := ⟨ho.failed, by rw [hpc]; exact ho.worker.1, ho.shutdown⟩
        exact clean_append.mpr ⟨hi.clean hs, clean_singleton.mpr ⟨hres, (hsucc hres).1⟩⟩
      · have hnone : written .csv (tr ++ [.fileWrite .jsonl record outcome r.1]) =
            written .csv tr := by simp
        rw [hnone]
        exact (hi.csv hc).congr fun hc => (clean_append.mp hc).1
      · have hone : written .jsonl (tr ++ [.fileWrite .jsonl record outcome r.1]) =
            written .jsonl tr ++ [record] := by simp
        rw [hone]
        exact (hi.jsonl he).write hopen.2 hr outcome
          fun hc => ((clean_singleton.mp (clean_append.mp hc).2)).1
      · have := hi.csvOrder hc
        rw [hpc] at this
        simpa [WorkerPc.pendingCsv] using this
      · have := hi.jsonlOrder he
        rw [hpc] at this
        simpa [WorkerPc.pendingJsonl] using this
    · next he =>
      obtain ⟨rfl, rfl⟩ := Prod.mk.inj (Option.some.inj h)
      refine hi.frame ⟨rfl, rfl, rfl, rfl, fun _ => rfl, fun _ => rfl⟩ rfl rfl (fun _ => by rw [hpc]; rfl)
        (fun he' => absurd he' he) (fun hj => absurd hj (by simp [hnj])) fun ho =>
          ⟨⟨ho.failed, by rw [hpc]; exact ho.worker.1, ho.shutdown⟩, clean_nil⟩
  · simp at h

theorem accountFileResult_failed (p : OutputPipeline) (backend : OutputBackend)
    (result : FileSinkResult) :
    (accountFileResult p backend result).failed = false ↔ p.failed = false ∧ result = .ok := by
  unfold accountFileResult
  split <;> simp_all [OutputPipeline.countOk, OutputPipeline.countError]

/-- The accounting raises the flag for every failed result. -/
theorem accountResults_failed (p : OutputPipeline) (record : CanonicalRecord)
    (csvResult jsonlResult : FileSinkResult) :
    (accountResults p record csvResult jsonlResult).failed = false ↔
      p.failed = false ∧ (p.csvEnabled = true → csvResult = .ok) ∧
      (p.jsonlEnabled = true → jsonlResult = .ok) := by
  have hrecord := onlyAccounts_record p record
  have hcsv : (accountRecord p record).csvEnabled = p.csvEnabled := congrArg (·.csvEnabled) hrecord
  have hjsonl : (accountRecord p record).jsonlEnabled = p.jsonlEnabled :=
    congrArg (·.jsonlEnabled) hrecord
  have hfailed : (accountRecord p record).failed = p.failed := by
    unfold accountRecord accountIndication
    split <;> rfl
  have hjsonl' : (accountFileResult (accountRecord p record) .csv csvResult).jsonlEnabled =
      p.jsonlEnabled :=
    (congrArg (·.jsonlEnabled)
      (onlyAccounts_fileResult (accountRecord p record) .csv csvResult)).trans hjsonl
  unfold accountResults
  cases hc : p.csvEnabled <;> cases hj : p.jsonlEnabled <;>
    simp [hcsv, hjsonl, hjsonl', hc, hj, accountFileResult_failed, hfailed, and_assoc]

theorem OnlyAccounts.sameFiles {s s' : System} (h : OnlyAccounts s.pipeline s'.pipeline)
    (hcsv : s'.shutdown.csvOpen = s.shutdown.csvOpen)
    (hjsonl : s'.shutdown.jsonlOpen = s.shutdown.jsonlOpen) : SameFiles s s' :=
  ⟨congrArg (·.csvEnabled) h, congrArg (·.jsonlEnabled) h, congrArg (·.csvSink) h,
    congrArg (·.jsonlSink) h, fun _ => hcsv, fun _ => hjsonl⟩

theorem fileInv_account {now : UInt64} (hi : FileInv pipeline tr s)
    (h : stepAccount s now = some (s', es)) : FileInv pipeline (tr ++ es) s' := by
  unfold stepAccount at h
  split at h
  · next record csvResult jsonlResult hpc =>
    have hnj := hi.not_joined (by simp [hpc])
    have hsame := onlyAccounts_results s.pipeline record csvResult jsonlResult
    have hok (hf : (accountResults s.pipeline record csvResult jsonlResult).failed = false)
        (hs : s.shutdown.ResultsOk) : SystemOk s := by
      obtain ⟨h1, h2, h3⟩ := (accountResults_failed _ _ _ _).mp hf
      exact ⟨h1, by rw [hpc]; exact ⟨h2, h3⟩, hs⟩
    split at h
    · simp at h
    simp only at h
    split at h
    · obtain ⟨rfl, rfl⟩ := Prod.mk.inj (Option.some.inj h)
      exact hi.frame (hsame.sameFiles rfl rfl) rfl rfl (fun _ => by rw [hpc]; rfl)
        (fun _ => by rw [hpc]; rfl) (fun hj => absurd hj (by simp [hnj]))
        fun ho => ⟨hok ho.failed ho.shutdown, clean_singleton.mpr trivial⟩
    · obtain ⟨rfl, rfl⟩ := Prod.mk.inj (Option.some.inj h)
      exact hi.frame (hsame.sameFiles rfl rfl) rfl rfl (fun _ => by rw [hpc]; rfl)
        (fun _ => by rw [hpc]; rfl) (fun hj => absurd hj (by simp [hnj]))
        fun ho => ⟨hok ho.failed ho.shutdown, by simp [Clean, Event.Clean]⟩
  · simp at h

theorem fileInv_writePrometheus {outcome : PrometheusOutcome} (hi : FileInv pipeline tr s)
    (h : stepWritePrometheus s outcome = some (s', es)) : FileInv pipeline (tr ++ es) s' := by
  unfold stepWritePrometheus at h
  split at h
  · next hpc =>
    have hnj := hi.not_joined (by simp [hpc])
    obtain ⟨rfl, rfl⟩ := Prod.mk.inj (Option.some.inj h)
    exact hi.frame ⟨rfl, rfl, rfl, rfl, fun _ => rfl, fun _ => rfl⟩ rfl rfl (fun _ => by rw [hpc]; rfl)
      (fun _ => by rw [hpc]; rfl) (fun hj => absurd hj (by simp [hnj])) fun ho =>
        ⟨⟨ho.failed, by rw [hpc]; trivial, ho.shutdown⟩, clean_singleton.mpr ho.worker⟩
  · simp at h

theorem fileInv_accountPrometheus (hi : FileInv pipeline tr s)
    (h : stepAccountPrometheus s = some (s', es)) : FileInv pipeline (tr ++ es) s' := by
  unfold stepAccountPrometheus at h
  split at h
  · next record outcome hpc =>
    have hnj := hi.not_joined (by simp [hpc])
    have hsame := onlyAccounts_prometheus s.pipeline outcome
    split at h
    · simp at h
    · obtain ⟨rfl, rfl⟩ := Prod.mk.inj (Option.some.inj h)
      refine hi.frame (hsame.sameFiles rfl rfl) rfl rfl (fun _ => by rw [hpc]; rfl)
        (fun _ => by rw [hpc]; rfl) (fun hj => absurd hj (by simp [hnj])) fun ho => ?_
      have hf : (accountPrometheusOutcome s.pipeline outcome).failed = false := ho.failed
      cases outcome with
      | ok => exact ⟨⟨hf, by rw [hpc]; rfl, ho.shutdown⟩, clean_singleton.mpr trivial⟩
      | error reason => cases hf
  · simp at h

theorem fileInv_clearBusy (hi : FileInv pipeline tr s) (h : stepClearBusy s = some (s', es)) :
    FileInv pipeline (tr ++ es) s' := by
  unfold stepClearBusy at h
  split at h
  · next hpc =>
    have hnj := hi.not_joined (by simp [hpc])
    split at h
    · simp at h
    · obtain ⟨rfl, rfl⟩ := Prod.mk.inj (Option.some.inj h)
      exact hi.frame ⟨rfl, rfl, rfl, rfl, fun _ => rfl, fun _ => rfl⟩ rfl rfl (fun _ => by rw [hpc]; rfl)
        (fun _ => by rw [hpc]; rfl) (fun hj => absurd hj (by simp [hnj])) fun ho =>
          ⟨⟨ho.failed, by rw [hpc]; trivial, ho.shutdown⟩, clean_nil⟩
  · simp at h

/-! ### The shutdown -/

/-- A step of the shutdown that leaves the files alone. -/
theorem FileInv.teardown (hi : FileInv pipeline tr s) (hsame : SameFiles s s')
    (hworker : s'.worker = s.worker) (hjoined : s'.shutdown.joined = true → s.worker = .exited)
    (hcsv : written .csv es = []) (hjsonl : written .jsonl es = []) (hdeq : dequeued es = [])
    (hok : s'.pipeline.failed = false → s'.shutdown.ResultsOk →
      s.pipeline.failed = false ∧ s.shutdown.ResultsOk ∧ Clean es) :
    FileInv pipeline (tr ++ es) s' := by
  refine hi.frame hsame hcsv hjsonl (by simp [hworker, hdeq]) (by simp [hworker, hdeq]) ?_ ?_
  · rw [hworker]
    exact hjoined
  · intro h
    obtain ⟨h1, h2, h3⟩ := hok h.failed h.shutdown
    have hw := h.worker
    rw [hworker, hsame.csvEnabled, hsame.jsonlEnabled] at hw
    exact ⟨⟨h1, hw, h2⟩, h3⟩

theorem fileInv_stop (hi : FileInv pipeline tr s) (h : stepStop s = some (s', es)) :
    FileInv pipeline (tr ++ es) s' := by
  unfold stepStop at h
  split at h
  · next hpc =>
    split at h
    · simp at h
    · obtain ⟨rfl, rfl⟩ := Prod.mk.inj (Option.some.inj h)
      exact hi.teardown ⟨rfl, rfl, rfl, rfl, fun _ => by rw [hpc]; rfl, fun _ => by rw [hpc]; rfl⟩ rfl
        (fun hj => by cases hj) rfl rfl rfl fun hf _ => ⟨hf, by rw [hpc]; trivial, clean_nil⟩
  · simp at h

theorem fileInv_join (hi : FileInv pipeline tr s) (h : stepJoin s = some (s', es)) :
    FileInv pipeline (tr ++ es) s' := by
  unfold stepJoin at h
  split at h
  · next hpc hw =>
    obtain ⟨rfl, rfl⟩ := Prod.mk.inj (Option.some.inj h)
    exact hi.teardown ⟨rfl, rfl, rfl, rfl, fun _ => by rw [hpc]; rfl, fun _ => by rw [hpc]; rfl⟩ rfl
      (fun _ => hw) rfl rfl rfl fun hf _ => ⟨hf, by rw [hpc]; trivial, clean_nil⟩
  · simp at h

/-- The close of a ready sink, whatever stdio answers. -/
theorem SinkInv.close {sink : FileSink} {format : FileSinkFormat} {records : List CanonicalRecord}
    {clean clean' : Prop} {isOpen isOpen' : Bool}
    (h : SinkInv sink format records isOpen clean) (hopen : isOpen = true)
    (hclosed : isOpen' = false) (outcome : CloseOutcome)
    (hc : clean' → (fileSinkClose sink outcome).1 = .ok) :
    SinkInv (fileSinkClose sink outcome).2 format records isOpen' clean' := by
  have hready := h.ready hopen
  obtain ⟨hfile, hok⟩ := hready.close outcome
  have hsticky : (fileSinkClose sink outcome).2.failed = false ↔
      (fileSinkClose sink outcome).1 = .ok := by
    unfold fileSinkClose
    rw [if_neg (by simp [hready.stream, hready.isOpen])]
    cases hf : sink.failed <;> cases hflush : outcome.flushes <;>
      cases hclose : outcome.closes <;> simp [markFailure]
  refine ⟨by simp [hclosed], fun hf => ?_, fun hc' => hsticky.mpr (hc hc')⟩
  rw [hfile]
  exact h.file (hok.mp (hsticky.mp hf)).1

theorem fileInv_closeCsv {outcome : CloseOutcome} (hi : FileInv pipeline tr s)
    (h : stepCloseCsv s outcome = some (s', es)) : FileInv pipeline (tr ++ es) s' := by
  unfold stepCloseCsv at h
  split at h
  · next hpc =>
    have hexit : s.worker = .exited := hi.joined (by rw [hpc]; rfl)
    split at h
    · next he =>
      obtain ⟨rfl, rfl⟩ := Prod.mk.inj (Option.some.inj h)
      have hready := (hi.csv he).ready (by rw [hpc]; rfl)
      set r := fileSinkClose s.pipeline.csvSink outcome
      have hres : r.1 = .ok → r.1 = .ok ∧ outcome.Succeeds :=
        fun hok => ⟨hok, ((hready.close outcome).2.mp hok).2⟩
      refine ⟨hi.csvEnabled, hi.jsonlEnabled, fun ho => ?_, fun _ => ?_, fun hj => ?_,
        fun _ => ?_, fun hj => ?_, fun _ => hexit⟩
      · have hs : SystemOk s := ⟨ho.failed, ho.worker, by rw [hpc]; trivial⟩
        exact clean_append.mpr ⟨hi.clean hs, clean_singleton.mpr (hres ho.shutdown)⟩
      · rw [written_append, written_fileClose, List.append_nil]
        exact (hi.csv he).close (by rw [hpc]; rfl) rfl outcome
          fun hc => (clean_singleton.mp (clean_append.mp hc).2).1
      · rw [written_append, written_fileClose, List.append_nil]
        have := (hi.jsonl hj).congr fun hc : Clean (tr ++ [.fileClose .csv outcome r.1]) =>
          (clean_append.mp hc).1
        rwa [hpc] at this
      · have := hi.csvOrder he
        simpa using this
      · have := hi.jsonlOrder hj
        simpa using this
    · next he =>
      obtain ⟨rfl, rfl⟩ := Prod.mk.inj (Option.some.inj h)
      exact hi.teardown ⟨rfl, rfl, rfl, rfl, fun he' => absurd he' he, fun _ => by rw [hpc]; rfl⟩
        rfl (fun _ => hexit) rfl rfl rfl fun hf _ => ⟨hf, by rw [hpc]; trivial, clean_nil⟩
  · simp at h

theorem fileInv_closeJsonl {outcome : CloseOutcome} (hi : FileInv pipeline tr s)
    (h : stepCloseJsonl s outcome = some (s', es)) : FileInv pipeline (tr ++ es) s' := by
  unfold stepCloseJsonl at h
  split at h
  · next success hpc =>
    have hexit : s.worker = .exited := hi.joined (by rw [hpc]; rfl)
    split at h
    · next he =>
      obtain ⟨rfl, rfl⟩ := Prod.mk.inj (Option.some.inj h)
      have hready := (hi.jsonl he).ready (by rw [hpc]; rfl)
      set r := fileSinkClose s.pipeline.jsonlSink outcome
      have hres : r.1 = .ok → r.1 = .ok ∧ outcome.Succeeds :=
        fun hok => ⟨hok, ((hready.close outcome).2.mp hok).2⟩
      refine ⟨hi.csvEnabled, hi.jsonlEnabled, fun ho => ?_, fun hc => ?_, fun _ => ?_,
        fun hc => ?_, fun _ => ?_, fun _ => hexit⟩
      · have hs : SystemOk s := ⟨ho.failed, ho.worker, by rw [hpc]; trivial⟩
        exact clean_append.mpr ⟨hi.clean hs, clean_singleton.mpr (hres ho.shutdown)⟩
      · rw [written_append, written_fileClose, List.append_nil]
        have := (hi.csv hc).congr fun hc : Clean (tr ++ [.fileClose .jsonl outcome r.1]) =>
          (clean_append.mp hc).1
        rwa [hpc] at this
      · rw [written_append, written_fileClose, List.append_nil]
        exact (hi.jsonl he).close (by rw [hpc]; rfl) rfl outcome
          fun hc => (clean_singleton.mp (clean_append.mp hc).2).1
      · have := hi.csvOrder hc
        simpa using this
      · have := hi.jsonlOrder he
        simpa using this
    · next he =>
      obtain ⟨rfl, rfl⟩ := Prod.mk.inj (Option.some.inj h)
      exact hi.teardown ⟨rfl, rfl, rfl, rfl, fun _ => by rw [hpc]; rfl, fun he' => absurd he' he⟩
        rfl (fun _ => hexit) rfl rfl rfl fun hf _ => ⟨hf, by rw [hpc]; trivial, clean_nil⟩
  · simp at h

theorem accountClose_failed (p : OutputPipeline) (backend : OutputBackend)
    (result : FileSinkResult) :
    (accountClose p backend result).failed = false ↔ p.failed = false ∧ result = .ok := by
  unfold accountClose
  split <;> simp_all [OutputPipeline.countCloseError]

theorem fileInv_accountCsv (hi : FileInv pipeline tr s) (h : stepAccountCsv s = some (s', es)) :
    FileInv pipeline (tr ++ es) s' := by
  unfold stepAccountCsv at h
  split at h
  · next result hpc =>
    split at h
    · simp at h
    · obtain ⟨rfl, rfl⟩ := Prod.mk.inj (Option.some.inj h)
      refine hi.teardown ((onlyAccounts_close s.pipeline .csv result).sameFiles (by rw [hpc]; rfl)
        (by rw [hpc]; rfl)) rfl (fun _ => hi.joined (by rw [hpc]; rfl)) rfl rfl rfl fun hf _ => ?_
      obtain ⟨h1, h2⟩ := (accountClose_failed _ _ _).mp hf
      exact ⟨h1, by rw [hpc]; exact h2, clean_nil⟩
  · simp at h

theorem fileInv_accountJsonl (hi : FileInv pipeline tr s) (h : stepAccountJsonl s = some (s', es)) :
    FileInv pipeline (tr ++ es) s' := by
  unfold stepAccountJsonl at h
  split at h
  · next result success hpc =>
    split at h
    · simp at h
    · obtain ⟨rfl, rfl⟩ := Prod.mk.inj (Option.some.inj h)
      refine hi.teardown ((onlyAccounts_close s.pipeline .jsonl result).sameFiles
        (by rw [hpc]; rfl) (by rw [hpc]; rfl)) rfl (fun _ => hi.joined (by rw [hpc]; rfl))
        rfl rfl rfl fun hf _ => ?_
      obtain ⟨h1, h2⟩ := (accountClose_failed _ _ _).mp hf
      exact ⟨h1, by rw [hpc]; exact h2, clean_nil⟩
  · simp at h

theorem fileInv_writeFinal {outcome : PrometheusOutcome} (hi : FileInv pipeline tr s)
    (h : stepWriteFinal s outcome = some (s', es)) : FileInv pipeline (tr ++ es) s' := by
  unfold stepWriteFinal at h
  split at h
  · next hpc =>
    have hexit : s.worker = .exited := hi.joined (by rw [hpc]; rfl)
    have hsame {p : OutputPipeline} {success : Bool} (hp : OnlyAccounts s.pipeline p) :
        SameFiles s { s with pipeline := p, shutdown := .checkDropped success } :=
      hp.sameFiles (by rw [hpc]; rfl) (by rw [hpc]; rfl)
    split at h
    · split at h
      · next hok =>
        obtain ⟨rfl, rfl⟩ := Prod.mk.inj (Option.some.inj h)
        exact hi.teardown (hsame rfl) rfl (fun _ => hexit) rfl rfl rfl fun hf _ =>
          ⟨hf, by rw [hpc]; trivial, clean_singleton.mpr hok⟩
      · obtain ⟨rfl, rfl⟩ := Prod.mk.inj (Option.some.inj h)
        exact hi.teardown (hsame rfl) rfl (fun _ => hexit) rfl rfl rfl fun hf _ => by cases hf
    · obtain ⟨rfl, rfl⟩ := Prod.mk.inj (Option.some.inj h)
      exact hi.teardown (hsame rfl) rfl (fun _ => hexit) rfl rfl rfl fun hf _ =>
        ⟨hf, by rw [hpc]; trivial, clean_nil⟩
  · simp at h

/-- The last moves of the shutdown change nothing but where it stands. -/
theorem FileInv.verdict (hi : FileInv pipeline tr s) {pc pc' : ShutdownPc} (hpc : s.shutdown = pc)
    (hjoined : pc.joined = true) (hcsv : pc'.csvOpen = pc.csvOpen)
    (hjsonl : pc'.jsonlOpen = pc.jsonlOpen) (hok : pc.ResultsOk)
    (hwcsv : written .csv es = []) (hwjsonl : written .jsonl es = []) (hdeq : dequeued es = [])
    (hes : Clean es) : FileInv pipeline (tr ++ es) { s with shutdown := pc' } := by
  subst hpc
  exact hi.teardown ⟨rfl, rfl, rfl, rfl, fun _ => hcsv, fun _ => hjsonl⟩ rfl
    (fun _ => hi.joined hjoined) hwcsv hwjsonl hdeq fun hf _ => ⟨hf, hok, hes⟩

theorem FileInv.step (hi : FileInv pipeline tr s) (hq : QueueInv tr s)
    (h : pipelineMachine s a = some (s', es)) : FileInv pipeline (tr ++ es) s' := by
  unfold pipelineMachine at h
  split at h
  · simp at h
  cases a with
  | submit thread record contended => exact fileInv_submit hi h
  | markFailed thread => exact fileInv_markFailed hi h
  | dequeue => exact fileInv_dequeue hi h
  | writeCsv outcome => exact fileInv_writeCsv hi hq h
  | writeJsonl outcome => exact fileInv_writeJsonl hi hq h
  | account now => exact fileInv_account hi h
  | writePrometheus outcome => exact fileInv_writePrometheus hi h
  | accountPrometheus => exact fileInv_accountPrometheus hi h
  | clearBusy => exact fileInv_clearBusy hi h
  | stop => exact fileInv_stop hi h
  | join => exact fileInv_join hi h
  | closeCsv outcome => exact fileInv_closeCsv hi h
  | accountCsv => exact fileInv_accountCsv hi h
  | closeJsonl outcome => exact fileInv_closeJsonl hi h
  | accountJsonl => exact fileInv_accountJsonl hi h
  | writeFinal outcome => exact fileInv_writeFinal hi h
  | composeFinal now =>
    simp only [stepLive, stepComposeFinal] at h
    split at h
    · next hpc =>
      split at h
      · simp at h
      · cases h
        exact hi.verdict hpc rfl rfl rfl trivial rfl rfl rfl clean_nil
    · simp at h
  | checkDropped =>
    simp only [stepLive, stepCheckDropped] at h
    split at h
    · next hpc =>
      cases h
      exact hi.verdict hpc rfl rfl rfl trivial rfl rfl rfl clean_nil
    · simp at h
  | checkFailed =>
    simp only [stepLive, stepCheckFailed] at h
    split at h
    · next hpc =>
      cases h
      exact hi.verdict hpc rfl rfl rfl trivial rfl rfl rfl (clean_singleton.mpr trivial)
    · simp at h
  | countDrop thread | waitIdle givesUp | setRuntimeCounters e c r | snapshotLock thread
  | snapshotDropped thread | snapshotCompose thread now =>
    simp only [stepLive, stepCountDrop, stepWaitIdle, stepSetRuntimeCounters, stepSnapshotLock,
      stepSnapshotDropped, stepSnapshotCompose] at h
    repeat' split at h
    all_goals
      first
      | cases h
        exact hi.client ⟨rfl, rfl, rfl, rfl, fun _ => rfl, fun _ => rfl⟩ rfl rfl rfl rfl rfl
          fun hf => ⟨hf, by simp [Clean, Event.Clean]⟩
      | cases h

/-! ### The verdict -/

/-- The shutdown returns once, and true only with the failed flag down. -/
def VerdictInv (tr : List Event) (s : System) : Prop :=
  ∀ success, .shutdownReturned success ∈ tr →
    s.shutdown = .returned success ∧ (success = true → s.pipeline.failed = false)

theorem shutdownReturned_step (h : pipelineMachine s a = some (s', es)) {success : Bool}
    (he : .shutdownReturned success ∈ es) :
    s'.shutdown = .returned success ∧ (success = true → s'.pipeline.failed = false) := by
  unfold pipelineMachine at h
  split at h
  · simp at h
  cases a with
  | checkFailed =>
    simp only [stepLive, stepCheckFailed] at h
    split at h
    · obtain ⟨rfl, rfl⟩ := Prod.mk.inj (Option.some.inj h)
      obtain rfl := Event.shutdownReturned.inj (List.mem_singleton.mp he)
      exact ⟨rfl, by simp⟩
    · simp at h
  | dequeue =>
    simp only [stepLive, stepDequeue] at h
    repeat' split at h
    all_goals
      first
      | cases h
        simp at he
      | simp only [Option.bind_eq_bind, Option.bind_eq_some_iff] at h
        obtain ⟨_, _, h⟩ := h
        cases h
        simp at he
      | cases h
  | submit | countDrop | markFailed | writeCsv | writeJsonl | account | writePrometheus
  | accountPrometheus | clearBusy | waitIdle | setRuntimeCounters | snapshotLock
  | snapshotDropped | snapshotCompose | stop | join | closeCsv | accountCsv | closeJsonl
  | accountJsonl | composeFinal | writeFinal | checkDropped =>
    simp only [stepLive, stepSubmit, stepCountDrop, stepMarkFailed, stepWriteCsv, stepWriteJsonl,
      stepAccount, stepWritePrometheus, stepAccountPrometheus, stepClearBusy, stepWaitIdle,
      stepSetRuntimeCounters, stepSnapshotLock, stepSnapshotDropped, stepSnapshotCompose,
      stepStop, stepJoin, stepCloseCsv, stepAccountCsv, stepCloseJsonl, stepAccountJsonl,
      stepComposeFinal, stepWriteFinal, stepCheckDropped] at h
    repeat' split at h
    all_goals
      cases h
      all_goals simp at he

theorem VerdictInv.step (hi : VerdictInv tr s) (h : pipelineMachine s a = some (s', es)) :
    VerdictInv (tr ++ es) s' := by
  intro success he
  rcases List.mem_append.mp he with he | he
  · -- nothing runs after the return
    have hret := (hi success he).1
    simp [pipelineMachine, System.destroyed, hret] at h
  · exact shutdownReturned_step h he

section
variable {config : Option OutputPipelineConfig} {outcome : CreateOutcome}

theorem openSink_inv {enabled : Bool} {format : FileSinkFormat} {path : Option (List UInt8)}
    {opened : OpenOutcome} {message : String} {sink : FileSink} {clean : Prop}
    (h : openSink enabled format path opened message = .ok sink) (he : enabled = true) :
    SinkInv sink format [] true clean := by
  unfold openSink at h
  rw [if_pos he] at h
  split at h
  · next sink' hopen =>
    obtain rfl := Except.ok.inj h
    obtain ⟨hready, hfailed⟩ := fileSinkOpen_ready hopen
    exact ⟨fun _ => hready, hready.file, fun _ => hfailed⟩
  · simp at h

theorem FileInv.start (hc : outputPipelineCreate config outcome = .ok (some pipeline)) :
    FileInv pipeline [] (System.start pipeline) := by
  obtain ⟨c, -, hcsv, hjsonl, hp⟩ := outputPipelineCreate_some hc
  have hecsv : pipeline.csvEnabled = pathEnabled c.csvPath := by rw [hp]
  have hejsonl : pipeline.jsonlEnabled = pathEnabled c.jsonlPath := by rw [hp]
  exact ⟨rfl, rfl, fun _ => clean_nil, fun he => openSink_inv hcsv (hecsv ▸ he),
    fun he => openSink_inv hjsonl (hejsonl ▸ he), fun _ => rfl, fun _ => rfl,
    fun hj => by cases hj⟩

theorem FileInv.of_run (hc : outputPipelineCreate config outcome = .ok (some pipeline))
    (h : Machine.Run pipelineMachine (System.start pipeline) tr s) : FileInv pipeline tr s := by
  have hboth : QueueInv tr s ∧ FileInv pipeline tr s := by
    refine h.invariant (I := fun tr s => QueueInv tr s ∧ FileInv pipeline tr s)
      ⟨.of_run hc .start, .start hc⟩ fun hi hs => ⟨hi.1.step hs, hi.2.step hi.1 hs⟩
  exact hboth.2

/-- An enabled file holds its header and the serialization of every accepted record, in order,
and nothing else. -/
def FilesComplete (pipeline : OutputPipeline) (tr : List Event) (s : System) : Prop :=
  (pipeline.csvEnabled = true →
    s.pipeline.csvSink.file = bytes csvHeader ++ (accepted tr).flatMap csvLine) ∧
  (pipeline.jsonlEnabled = true →
    s.pipeline.jsonlSink.file = (accepted tr).flatMap jsonlLine)

theorem VerdictInv.of_run (h : Machine.Run pipelineMachine (System.start pipeline) tr s) :
    VerdictInv tr s :=
  h.invariant (by simp [VerdictInv]) fun hi hs => VerdictInv.step hi hs

/-- After a shutdown that returned true. -/
theorem complete_of_verdict (hc : outputPipelineCreate config outcome = .ok (some pipeline))
    (h : Machine.Run pipelineMachine (System.start pipeline) tr s)
    (hret : .shutdownReturned true ∈ tr) : Clean tr ∧ FilesComplete pipeline tr s := by
  obtain ⟨hpc, hfailed⟩ := VerdictInv.of_run h true hret
  have hi := FileInv.of_run hc h
  have hexit : s.worker = .exited := hi.joined (by rw [hpc]; rfl)
  have hok : SystemOk s := ⟨hfailed rfl, by rw [hexit]; trivial, by rw [hpc]; trivial⟩
  have hclean := hi.clean hok
  have hall : dequeued tr = accepted tr := by
    have hq := QueueInv.of_run hc h
    rw [← hq.order, Ring.contents_eq_nil_iff.mpr (hq.exited hexit).2, List.append_nil]
  refine ⟨hclean, fun he => ?_, fun he => ?_⟩
  · rw [← hi.csvEnabled] at he
    have horder := hi.csvOrder he
    rw [hexit, WorkerPc.pendingCsv, List.append_nil, hall] at horder
    · rw [(hi.csv he).file ((hi.csv he).failed hclean), horder]
      rfl
    · simp
  · rw [← hi.jsonlEnabled] at he
    have horder := hi.jsonlOrder he
    rw [hexit, WorkerPc.pendingJsonl, List.append_nil, hall] at horder
    · rw [(hi.jsonl he).file ((hi.jsonl he).failed hclean), horder]
      rfl
    · simp
    · simp

/-- Calls on the null pointer succeed. -/
theorem clean_of_null {c : Option System} (h : Machine.Run clientMachine none tr c) :
    c = none ∧ Clean tr ∧ ∀ success, .shutdownReturned success ∈ tr → success = true := by
  refine h.invariant (I := fun tr c =>
    c = none ∧ Clean tr ∧ ∀ success, .shutdownReturned success ∈ tr → success = true)
    ⟨rfl, clean_nil, by simp⟩ ?_
  rintro tr c a c' es ⟨rfl, hclean, hret⟩ hs
  have hes : Clean es ∧ ∀ success, .shutdownReturned success ∈ es → success = true := by
    cases a <;> simp only [clientMachine, Option.some.injEq, Prod.mk.injEq, reduceCtorEq] at hs
    all_goals
      obtain ⟨rfl, rfl⟩ := hs
      simp [Clean, Event.Clean]
  have hc' : c' = none := by
    cases a <;> simp only [clientMachine, Option.some.injEq, Prod.mk.injEq, reduceCtorEq] at hs
    all_goals exact hs.1.symm
  refine ⟨hc', clean_append.mpr ⟨hclean, hes.1⟩, fun success he => ?_⟩
  rcases List.mem_append.mp he with he | he
  · exact hret success he
  · exact hes.2 success he

/-- The shutdown of one pipeline returns one verdict. -/
theorem verdict_unique {start c : Option System} {created : Option OutputPipeline}
    (hstart : start = created.map System.start) (h : Machine.Run clientMachine start tr c)
    {one other : Bool} (hone : .shutdownReturned one ∈ tr)
    (hother : .shutdownReturned other ∈ tr) : one = other := by
  subst hstart
  cases created with
  | none =>
    obtain ⟨-, -, hall⟩ := clean_of_null h
    rw [hall one hone, hall other hother]
  | some pipeline =>
    obtain ⟨s, rfl, hrun⟩ := run_of_client h
    have hpc := (VerdictInv.of_run hrun one hone).1
    have hpc' := (VerdictInv.of_run hrun other hother).1
    exact ShutdownPc.returned.inj (hpc.symm.trans hpc')

/-- A shutdown that returns true has left every enabled file complete, and no submit was
rejected and no file or Prometheus operation failed; after a rejection or a failure it returns
false. -/
theorem shutdown_complete {created : Option OutputPipeline}
    (hc : outputPipelineCreate config outcome = .ok created) {c : Option System}
    (h : Machine.Run clientMachine (created.map System.start) tr c) {success : Bool}
    (hret : .shutdownReturned success ∈ tr) :
    (success = true →
      Clean tr ∧ ∀ pipeline ∈ created, ∀ s ∈ c, FilesComplete pipeline tr s) ∧
    (¬ Clean tr → success = false) := by
  cases created with
  | none =>
    obtain ⟨rfl, hclean, hall⟩ := clean_of_null h
    exact ⟨fun _ => ⟨hclean, by simp⟩, fun hn => absurd hclean hn⟩
  | some pipeline =>
    obtain ⟨s, rfl, hrun⟩ := run_of_client h
    cases success with
    | true =>
      obtain ⟨hclean, hfiles⟩ := complete_of_verdict hc hrun hret
      refine ⟨fun _ => ⟨hclean, ?_⟩, fun hn => absurd hclean hn⟩
      rintro _ ⟨⟩ _ ⟨⟩
      exact hfiles
    | false => exact ⟨by simp, fun _ => rfl⟩

end

def jsonlConfig : OutputPipelineConfig := ⟨none, some (bytes "/tmp/kpm.jsonl"), none⟩

def jsonlPipeline : OutputPipeline :=
  { zeroPipeline with
    workerStarted := true
    jsonlEnabled := true
    jsonlSink :=
      { fileSinkInit with
        path := bytes "/tmp/kpm.jsonl"
        format := .jsonl
        stream := true
        isOpen := true } }

def shutdownScript : List Action :=
  [.submit 0 (some diagnosticSample) false, .dequeue, .stop, .writeCsv ⟨none, true⟩,
    .writeJsonl ⟨none, true⟩, .account 7, .clearBusy, .dequeue, .join, .closeCsv ⟨true, true⟩,
    .closeJsonl ⟨true, true⟩, .accountJsonl, .composeFinal 8, .writeFinal .ok, .checkDropped,
    .checkFailed]

def Event.verdict? : Event → Option Bool
  | .shutdownReturned success => some success
  | _ => none

/-- One record through the JSONL file, with the submit before and the work after the stop. -/
theorem shutdown_complete_sample : ∃ tr c,
    Machine.exec clientMachine ((some jsonlPipeline).map System.start) shutdownScript =
      some (tr, c) ∧
    (true = true →
      Clean tr ∧ ∀ pipeline ∈ some jsonlPipeline, ∀ s ∈ c, FilesComplete pipeline tr s) ∧
    (¬ Clean tr → true = false) := by
  have hcreate : outputPipelineCreate (some jsonlConfig) allSucceed = .ok (some jsonlPipeline) :=
    rfl
  have hverdict : (Machine.exec clientMachine ((some jsonlPipeline).map System.start)
      shutdownScript).map (fun r => r.1.filterMap Event.verdict?) = some [true] := by
    decide +kernel
  obtain ⟨⟨tr, c⟩, hexec, hone⟩ := Option.map_eq_some_iff.mp hverdict
  have hmem : true ∈ tr.filterMap Event.verdict? := by simp [hone]
  obtain ⟨e, he, hev⟩ := List.mem_filterMap.mp hmem
  have hret : .shutdownReturned true ∈ tr := by
    cases e <;> simp_all [Event.verdict?]
  exact ⟨tr, c, hexec, shutdown_complete hcreate (Machine.run_of_exec hexec) hret⟩

end TcdOran.Collector
