import TcdOran.Collector.PipelineQueue

/-! The counters of the output pipeline account for every accepted and every dropped record. The
counters are 64-bit, and the equations are equations between such numbers. -/
namespace TcdOran.Collector
open TcdOran.Lib

def Event.accounted? : Event → Option CanonicalRecord
  | .accounted record => some record
  | _ => none

/-- The records whose critical section in `process_record` has run. -/
def accounted (tr : List Event) : List CanonicalRecord := tr.filterMap Event.accounted?

@[simp] theorem accounted_append (tr es : List Event) :
    accounted (tr ++ es) = accounted tr ++ accounted es := List.filterMap_append

/-- The record that is dequeued and not yet accounted. -/
def WorkerPc.unaccounted : WorkerPc → List CanonicalRecord
  | .writeCsv record => [record]
  | .writeJsonl record _ => [record]
  | .account record _ _ => [record]
  | _ => []

theorem length_unaccounted_le (pc : WorkerPc) : pc.unaccounted.length ≤ 1 := by
  cases pc <;> simp [WorkerPc.unaccounted]

theorem unaccounted_of_current {pc : WorkerPc} (h : pc.current = []) : pc.unaccounted = [] := by
  cases pc <;> simp_all [WorkerPc.unaccounted, WorkerPc.current]

def Event.isFileClose : Event → Bool
  | .fileClose _ _ _ => true
  | _ => false

/-- The shutdown has closed no sink so far. -/
def BeforeCloses (tr : List Event) : Prop := ∀ e ∈ tr, e.isFileClose = false

/-- A sink is closed and the result is not yet counted. -/
def ShutdownPc.accountsClose : ShutdownPc → Bool
  | .accountCsv _ => true
  | .accountJsonl _ _ => true
  | _ => false

def backendEnabled (pipeline : OutputPipeline) : OutputBackend → Bool
  | .csv => pipeline.csvEnabled
  | .jsonl => pipeline.jsonlEnabled
  | .prometheus => pipeline.prometheusEnabled
  | .parquet => false

/-- The records counted for a backend, successful or not. -/
def recordTotal (snapshot : PrometheusSnapshot) (backend : OutputBackend) : UInt64 :=
  snapshot.outputRecordsOk backend + snapshot.outputRecordsError backend

/-- The errors counted for a backend, over all reasons. -/
def errorTotal (snapshot : PrometheusSnapshot) (backend : OutputBackend) : UInt64 :=
  snapshot.outputErrors backend .open + snapshot.outputErrors backend .write +
    snapshot.outputErrors backend .flush + snapshot.outputErrors backend .close +
    snapshot.outputErrors backend .rename

/-! ### Counting -/

theorem addAt_apply {κ : Type} [DecidableEq κ] (table : κ → UInt64) (key k : κ)
    (amount : UInt64) : addAt table key amount k = table k + if k = key then amount else 0 := by
  unfold addAt
  split <;> simp

theorem addError_apply (table : OutputBackend → OutputErrorReason → UInt64)
    (backend b : OutputBackend) (reason r : OutputErrorReason) (amount : UInt64) :
    addError table backend reason amount b r =
      table b r + if b = backend ∧ r = reason then amount else 0 := by
  unfold addError
  split
  · next h => simp [addAt_apply, h]
  · next h => simp [h]

theorem errorTotal_addError (snapshot : PrometheusSnapshot) (backend b : OutputBackend)
    (reason : OutputErrorReason) (amount : UInt64) :
    errorTotal { snapshot with
      outputErrors := addError snapshot.outputErrors backend reason amount } b =
      errorTotal snapshot b + if b = backend then amount else 0 := by
  by_cases hb : b = backend
  · cases reason <;> simp [errorTotal, addError_apply, hb] <;> ac_rfl
  · simp [errorTotal, addError_apply, hb]

section
variable (pipeline : OutputPipeline) (backend b : OutputBackend)

theorem recordTotal_countOk : recordTotal (pipeline.countOk backend).prometheus b =
    recordTotal pipeline.prometheus b + if b = backend then 1 else 0 := by
  simp only [recordTotal, OutputPipeline.countOk, addAt_apply]
  ac_rfl

theorem recordTotal_countError (reason : OutputErrorReason) :
    recordTotal (pipeline.countError backend reason).prometheus b =
      recordTotal pipeline.prometheus b + if b = backend then 1 else 0 := by
  simp only [recordTotal, OutputPipeline.countError, addAt_apply]
  ac_rfl

/-- Every failed record is an error for exactly one reason. -/
def ErrorsMatch (snapshot : PrometheusSnapshot) : Prop :=
  ∀ backend, errorTotal snapshot backend = snapshot.outputRecordsError backend

theorem errorsMatch_countError {reason : OutputErrorReason} (h : ErrorsMatch pipeline.prometheus) :
    ErrorsMatch (pipeline.countError backend reason).prometheus := by
  intro b
  have htotal := errorTotal_addError pipeline.prometheus backend b reason 1
  simp only [errorTotal] at htotal ⊢
  simp only [OutputPipeline.countError, addAt_apply, htotal]
  rw [← h b, errorTotal]

end

theorem accountFileResult_total (pipeline : OutputPipeline) (backend b : OutputBackend)
    (result : FileSinkResult) : recordTotal (accountFileResult pipeline backend result).prometheus b =
      recordTotal pipeline.prometheus b + if b = backend then 1 else 0 := by
  unfold accountFileResult
  split
  · exact recordTotal_countOk _ _ _
  · exact recordTotal_countError _ _ _ _

theorem accountFileResult_errors {pipeline : OutputPipeline} {backend : OutputBackend}
    {result : FileSinkResult} (h : ErrorsMatch pipeline.prometheus) :
    ErrorsMatch (accountFileResult pipeline backend result).prometheus := by
  unfold accountFileResult
  split
  · exact h
  · exact errorsMatch_countError _ _ h

/-- `account_record` touches none of the backend counters. -/
theorem accountRecord_backends (pipeline : OutputPipeline) (record : CanonicalRecord) :
    (accountRecord pipeline record).prometheus.outputRecordsOk =
      pipeline.prometheus.outputRecordsOk ∧
    (accountRecord pipeline record).prometheus.outputRecordsError =
      pipeline.prometheus.outputRecordsError ∧
    (accountRecord pipeline record).prometheus.outputErrors = pipeline.prometheus.outputErrors := by
  have hindication : (accountIndication pipeline record).prometheus.outputRecordsOk =
        pipeline.prometheus.outputRecordsOk ∧
      (accountIndication pipeline record).prometheus.outputRecordsError =
        pipeline.prometheus.outputRecordsError ∧
      (accountIndication pipeline record).prometheus.outputErrors =
        pipeline.prometheus.outputErrors := by
    unfold accountIndication
    split
    · simp only
      split_ifs <;> exact ⟨rfl, rfl, rfl⟩
    · exact ⟨rfl, rfl, rfl⟩
  have hkind (totals : PrometheusSnapshot) :
      (accountKind totals record).outputRecordsOk = totals.outputRecordsOk ∧
      (accountKind totals record).outputRecordsError = totals.outputRecordsError ∧
      (accountKind totals record).outputErrors = totals.outputErrors := by
    unfold accountKind
    split
    · split <;> exact ⟨rfl, rfl, rfl⟩
    · split <;> exact ⟨rfl, rfl, rfl⟩
    · exact ⟨rfl, rfl, rfl⟩
  obtain ⟨h1, h2, h3⟩ := hkind (accountIndication pipeline record).prometheus
  exact ⟨h1.trans hindication.1, h2.trans hindication.2.1, h3.trans hindication.2.2⟩

/-! ### What one step does to the counters -/

/-- The backends and their counters are as before. -/
structure SameCounters (p q : OutputPipeline) : Prop where
  csv : q.csvEnabled = p.csvEnabled
  jsonl : q.jsonlEnabled = p.jsonlEnabled
  prometheus : q.prometheusEnabled = p.prometheusEnabled
  ok : q.prometheus.outputRecordsOk = p.prometheus.outputRecordsOk
  error : q.prometheus.outputRecordsError = p.prometheus.outputRecordsError
  errors : q.prometheus.outputErrors = p.prometheus.outputErrors

theorem SameCounters.total {p q : OutputPipeline} (h : SameCounters p q) (b : OutputBackend) :
    recordTotal q.prometheus b = recordTotal p.prometheus b := by
  simp only [recordTotal, h.ok, h.error]

theorem SameCounters.errorsMatch {p q : OutputPipeline} (h : SameCounters p q)
    (hm : ErrorsMatch p.prometheus) : ErrorsMatch q.prometheus := by
  intro b
  have hb := hm b
  simp only [errorTotal] at hb ⊢
  rw [h.errors, h.error, hb]

/-- How the counters move in a step, in terms of what it emits. -/
structure AccountStep (s s' : System) (es : List Event) : Prop where
  enabled : ∀ backend, backendEnabled s'.pipeline backend = backendEnabled s.pipeline backend
  files : ∀ backend, backend = .csv ∨ backend = .jsonl → backendEnabled s.pipeline backend = true →
    recordTotal s'.pipeline.prometheus backend =
      recordTotal s.pipeline.prometheus backend + UInt64.ofNat (accounted es).length
  prometheus : s.pipeline.prometheusEnabled = true →
    recordTotal s'.pipeline.prometheus .prometheus =
      recordTotal s.pipeline.prometheus .prometheus + UInt64.ofNat (processed es).length
  accepted : s'.pipeline.recordsAccepted =
    s.pipeline.recordsAccepted + UInt64.ofNat (accepted es).length
  order : s.worker.unaccounted ++ dequeued es = accounted es ++ s'.worker.unaccounted
  errors : BeforeCloses es → s.shutdown.accountsClose = false →
    s'.shutdown.accountsClose = false ∧
    (ErrorsMatch s.pipeline.prometheus → ErrorsMatch s'.pipeline.prometheus)

variable {s s' : System} {a : Action} {es : List Event}

/-- A step that leaves the counters alone and accounts no record. -/
theorem AccountStep.quiet (hsame : SameCounters s.pipeline s'.pipeline)
    (haccepted : s'.pipeline.recordsAccepted = s.pipeline.recordsAccepted)
    (haccept : Collector.accepted es = []) (haccount : accounted es = [])
    (hprocess : processed es = [])
    (horder : s.worker.unaccounted ++ dequeued es = s'.worker.unaccounted)
    (hshutdown : BeforeCloses es → s.shutdown.accountsClose = false →
      s'.shutdown.accountsClose = false) :
    AccountStep s s' es where
  enabled backend := by
    cases backend
    · exact hsame.csv
    · exact hsame.jsonl
    · exact hsame.prometheus
    · rfl
  files backend _ _ := by simp [hsame.total, haccount]
  prometheus _ := by simp [hsame.total, hprocess]
  accepted := by simp [haccepted, haccept]
  order := by rw [haccount, horder, List.nil_append]
  errors hes hpc := ⟨hshutdown hes hpc, hsame.errorsMatch⟩

theorem accountStep_submit {thread : ThreadId} {record : Option CanonicalRecord}
    {contended : Bool} (h : stepSubmit s thread record contended = some (s', es)) :
    AccountStep s s' es := by
  unfold stepSubmit at h
  split at h
  · split at h
    · obtain ⟨rfl, rfl⟩ := Prod.mk.inj (Option.some.inj h)
      exact
        { enabled := fun backend => by cases backend <;> rfl
          files := fun _ _ _ => (UInt64.add_zero _).symm
          prometheus := fun _ => (UInt64.add_zero _).symm
          accepted := rfl
          order := List.append_nil _
          errors := fun _ hpc => ⟨hpc, id⟩ }
    · obtain ⟨rfl, rfl⟩ := Prod.mk.inj (Option.some.inj h)
      exact .quiet ⟨rfl, rfl, rfl, rfl, rfl, rfl⟩ rfl rfl rfl rfl (List.append_nil _)
        fun _ => id
  · obtain ⟨rfl, rfl⟩ := Prod.mk.inj (Option.some.inj h)
    exact .quiet ⟨rfl, rfl, rfl, rfl, rfl, rfl⟩ rfl rfl rfl rfl (List.append_nil _)
        fun _ => id
  · simp at h

theorem accountStep_markFailed {thread : ThreadId} (h : stepMarkFailed s thread = some (s', es)) :
    AccountStep s s' es := by
  unfold stepMarkFailed at h
  split at h
  · obtain ⟨rfl, rfl⟩ := Prod.mk.inj (Option.some.inj h)
    exact .quiet ⟨rfl, rfl, rfl, rfl, rfl, rfl⟩ rfl (accepted_rejected _ _) rfl rfl
      (List.append_nil _) (fun _ => id)
  · simp at h

theorem accountStep_dequeue (h : stepDequeue s = some (s', es)) : AccountStep s s' es := by
  unfold stepDequeue at h
  split at h
  · next hloop =>
    split at h
    · simp at h
    split at h
    · split at h
      · obtain ⟨rfl, rfl⟩ := Prod.mk.inj (Option.some.inj h)
        exact .quiet ⟨rfl, rfl, rfl, rfl, rfl, rfl⟩ rfl rfl rfl rfl
          (by simp [hloop, WorkerPc.unaccounted, dequeued, Event.dequeued?]) (fun _ => id)
      · simp at h
    · simp only [Option.bind_eq_bind, Option.bind_eq_some_iff] at h
      obtain ⟨⟨record, queue⟩, -, h⟩ := h
      obtain ⟨rfl, rfl⟩ := Prod.mk.inj (Option.some.inj h)
      exact .quiet ⟨rfl, rfl, rfl, rfl, rfl, rfl⟩ rfl rfl rfl rfl
        (by simp [hloop, WorkerPc.unaccounted, dequeued, Event.dequeued?]) (fun _ => id)
  · simp at h

theorem accountStep_writeCsv {outcome : WriteOutcome}
    (h : stepWriteCsv s outcome = some (s', es)) : AccountStep s s' es := by
  unfold stepWriteCsv at h
  split at h
  · next hpc =>
    split at h
    all_goals
      obtain ⟨rfl, rfl⟩ := Prod.mk.inj (Option.some.inj h)
      exact .quiet ⟨rfl, rfl, rfl, rfl, rfl, rfl⟩ rfl rfl rfl rfl
        (by simp [hpc, WorkerPc.unaccounted, dequeued, Event.dequeued?]) (fun _ => id)
  · simp at h

theorem accountStep_writeJsonl {outcome : WriteOutcome}
    (h : stepWriteJsonl s outcome = some (s', es)) : AccountStep s s' es := by
  unfold stepWriteJsonl at h
  split at h
  · next hpc =>
    split at h
    all_goals
      obtain ⟨rfl, rfl⟩ := Prod.mk.inj (Option.some.inj h)
      exact .quiet ⟨rfl, rfl, rfl, rfl, rfl, rfl⟩ rfl rfl rfl rfl
        (by simp [hpc, WorkerPc.unaccounted, dequeued, Event.dequeued?]) (fun _ => id)
  · simp at h

/-- A file backend that is on counts the result of its write, one that is off counts nothing. -/
theorem accountEnabled_total (pipeline : OutputPipeline) (on : Bool) (backend b : OutputBackend)
    (result : FileSinkResult) :
    recordTotal (if on then accountFileResult pipeline backend result else pipeline).prometheus b =
      recordTotal pipeline.prometheus b + if on = true ∧ b = backend then 1 else 0 := by
  cases on
  · simp
  · simp [accountFileResult_total]

theorem accountEnabled_errors {pipeline : OutputPipeline} (on : Bool) (backend : OutputBackend)
    (result : FileSinkResult) (h : ErrorsMatch pipeline.prometheus) :
    ErrorsMatch
      (if on then accountFileResult pipeline backend result else pipeline).prometheus := by
  cases on
  · exact h
  · exact accountFileResult_errors h

section
variable (pipeline : OutputPipeline) (record : CanonicalRecord)
  (csvResult jsonlResult : FileSinkResult)

theorem accountResults_enabled (backend : OutputBackend) :
    backendEnabled (accountResults pipeline record csvResult jsonlResult) backend =
      backendEnabled pipeline backend := by
  rw [onlyAccounts_results pipeline record csvResult jsonlResult]
  cases backend <;> rfl

theorem accountRecord_jsonlEnabled (result : FileSinkResult) :
    (if (accountRecord pipeline record).csvEnabled then
      accountFileResult (accountRecord pipeline record) .csv result
      else accountRecord pipeline record).jsonlEnabled = pipeline.jsonlEnabled := by
  have hrecord := congrArg (·.jsonlEnabled) (onlyAccounts_record pipeline record)
  split
  · exact (congrArg (·.jsonlEnabled)
      (onlyAccounts_fileResult (accountRecord pipeline record) .csv result)).trans hrecord
  · exact hrecord

theorem accountResults_total (b : OutputBackend) :
    recordTotal (accountResults pipeline record csvResult jsonlResult).prometheus b =
      recordTotal pipeline.prometheus b +
        if (b = .csv ∨ b = .jsonl) ∧ backendEnabled pipeline b = true then 1 else 0 := by
  obtain ⟨hok, herror, -⟩ := accountRecord_backends pipeline record
  have hcsv : (accountRecord pipeline record).csvEnabled = pipeline.csvEnabled :=
    congrArg (·.csvEnabled) (onlyAccounts_record pipeline record)
  have hjsonl := accountRecord_jsonlEnabled pipeline record csvResult
  have hrecord : recordTotal (accountRecord pipeline record).prometheus b =
      recordTotal pipeline.prometheus b := by
    simp only [recordTotal, hok, herror]
  simp only [accountResults]
  rw [accountEnabled_total, accountEnabled_total, hrecord, hjsonl, hcsv]
  cases b <;> simp [backendEnabled]

theorem accountResults_errors (h : ErrorsMatch pipeline.prometheus) :
    ErrorsMatch (accountResults pipeline record csvResult jsonlResult).prometheus := by
  have hrecord : ErrorsMatch (accountRecord pipeline record).prometheus := by
    intro b
    obtain ⟨-, herror, herrors⟩ := accountRecord_backends pipeline record
    have hb := h b
    simp only [errorTotal] at hb ⊢
    rw [herror, herrors, hb]
  exact accountEnabled_errors _ _ _ (accountEnabled_errors _ _ _ hrecord)

end

section
variable (record : CanonicalRecord)

@[simp] theorem processed_account : processed [.accounted record] = [] := rfl

@[simp] theorem accounted_done :
    accounted [.accounted record, .processed record] = [record] := rfl

@[simp] theorem dequeued_done : dequeued [.accounted record, .processed record] = [] := rfl

@[simp] theorem accounted_process : accounted [.processed record] = [] := rfl

@[simp] theorem dequeued_process : dequeued [.processed record] = [] := rfl

end

theorem accountStep_account {now : UInt64} (h : stepAccount s now = some (s', es)) :
    AccountStep s s' es := by
  unfold stepAccount at h
  split at h
  · next record csvResult jsonlResult hpc =>
    have htotal := accountResults_total s.pipeline record csvResult jsonlResult
    have henabled := accountResults_enabled s.pipeline record csvResult jsonlResult
    have herrors := @accountResults_errors s.pipeline record csvResult jsonlResult
    have haccepted : (accountResults s.pipeline record csvResult jsonlResult).recordsAccepted =
        s.pipeline.recordsAccepted :=
      congrArg (·.recordsAccepted) (onlyAccounts_results s.pipeline record csvResult jsonlResult)
    have hprometheus := henabled .prometheus
    simp only [backendEnabled] at hprometheus
    split at h
    · simp at h
    simp only at h
    split at h
    · next hon =>
      obtain ⟨rfl, rfl⟩ := Prod.mk.inj (Option.some.inj h)
      exact
        { enabled := henabled
          files := fun b hb hon => by simp [htotal b, hb, hon, accounted, Event.accounted?]
          prometheus := fun _ => (htotal .prometheus).trans (by simp [processed_account])
          accepted := haccepted.trans (UInt64.add_zero _).symm
          order := by
            simp [hpc, WorkerPc.unaccounted, accounted, Event.accounted?, dequeued,
              Event.dequeued?]
          errors := fun _ hpc => ⟨hpc, herrors⟩ }
    · next hoff =>
      obtain ⟨rfl, rfl⟩ := Prod.mk.inj (Option.some.inj h)
      exact
        { enabled := henabled
          files := fun b hb hon => by simp [htotal b, hb, hon]
          prometheus := fun hon => absurd (hprometheus.trans hon) hoff
          accepted := haccepted.trans (UInt64.add_zero _).symm
          order := by
            simp [hpc, WorkerPc.unaccounted]
          errors := fun _ hpc => ⟨hpc, herrors⟩ }
  · simp at h

theorem accountStep_accountPrometheus (h : stepAccountPrometheus s = some (s', es)) :
    AccountStep s s' es := by
  unfold stepAccountPrometheus at h
  split at h
  · next record outcome hpc =>
    have htotal (b : OutputBackend) :
        recordTotal (accountPrometheusOutcome s.pipeline outcome).prometheus b =
          recordTotal s.pipeline.prometheus b + if b = .prometheus then 1 else 0 := by
      cases outcome
      · exact recordTotal_countOk _ _ _
      · exact recordTotal_countError _ _ _ _
    have herrors (hm : ErrorsMatch s.pipeline.prometheus) :
        ErrorsMatch (accountPrometheusOutcome s.pipeline outcome).prometheus := by
      cases outcome
      · exact hm
      · exact errorsMatch_countError _ _ hm
    have honly := onlyAccounts_prometheus s.pipeline outcome
    split at h
    · simp at h
    · obtain ⟨rfl, rfl⟩ := Prod.mk.inj (Option.some.inj h)
      exact
        { enabled := fun b => by
            simp only
            rw [honly]
            cases b <;> rfl
          files := fun b hb _ => by
            have hne : b ≠ .prometheus := by rcases hb with rfl | rfl <;> decide
            exact (htotal b).trans (by rw [if_neg hne]; rfl)
          prometheus := fun _ => htotal .prometheus
          accepted := by
            simp only
            rw [honly]
            exact (UInt64.add_zero _).symm
          order := by
            simp [hpc, WorkerPc.unaccounted]
          errors := fun _ hpc => ⟨hpc, herrors⟩ }
  · simp at h

theorem accountStep_clearBusy (h : stepClearBusy s = some (s', es)) : AccountStep s s' es := by
  unfold stepClearBusy at h
  split at h
  · next hpc =>
    split at h
    · simp at h
    · obtain ⟨rfl, rfl⟩ := Prod.mk.inj (Option.some.inj h)
      exact .quiet ⟨rfl, rfl, rfl, rfl, rfl, rfl⟩ rfl rfl rfl rfl
        (by simp [hpc, WorkerPc.unaccounted, dequeued]) (fun _ => id)
  · simp at h

theorem accountStep_writePrometheus {outcome : PrometheusOutcome}
    (h : stepWritePrometheus s outcome = some (s', es)) : AccountStep s s' es := by
  unfold stepWritePrometheus at h
  split at h
  · next hpc =>
    obtain ⟨rfl, rfl⟩ := Prod.mk.inj (Option.some.inj h)
    exact .quiet ⟨rfl, rfl, rfl, rfl, rfl, rfl⟩ rfl rfl rfl rfl
      (by simp [hpc, WorkerPc.unaccounted, dequeued, Event.dequeued?]) (fun _ => id)
  · simp at h

theorem AccountStep.close {backend : OutputBackend} {result : FileSinkResult} {pc : ShutdownPc}
    (hpc : s.shutdown.accountsClose = true) : AccountStep s
      { s with pipeline := accountClose s.pipeline backend result, shutdown := pc } [] := by
  have honly := onlyAccounts_close s.pipeline backend result
  have hcounters : (accountClose s.pipeline backend result).prometheus.outputRecordsOk =
        s.pipeline.prometheus.outputRecordsOk ∧
      (accountClose s.pipeline backend result).prometheus.outputRecordsError =
        s.pipeline.prometheus.outputRecordsError := by
    unfold accountClose
    split <;> exact ⟨rfl, rfl⟩
  have htotal (b : OutputBackend) :
      recordTotal (accountClose s.pipeline backend result).prometheus b =
        recordTotal s.pipeline.prometheus b := by
    simp only [recordTotal, hcounters.1, hcounters.2]
  exact
    { enabled := fun b => by
        simp only
        rw [honly]
        cases b <;> rfl
      files := fun b _ _ => by simp [htotal b, accounted]
      prometheus := fun _ => by simp [htotal, processed]
      accepted := by
        simp only
        rw [honly]
        exact (UInt64.add_zero _).symm
      order := by simp [accounted, dequeued]
      errors := fun _ hnone => absurd (hnone.symm.trans hpc) Bool.false_ne_true }

/-- Each step of the machine, seen from the counters. -/
theorem accountStep (h : pipelineMachine s a = some (s', es)) : AccountStep s s' es := by
  unfold pipelineMachine at h
  split at h
  · simp at h
  cases a with
  | submit thread record contended => exact accountStep_submit h
  | markFailed thread => exact accountStep_markFailed h
  | dequeue => exact accountStep_dequeue h
  | writeCsv outcome => exact accountStep_writeCsv h
  | writeJsonl outcome => exact accountStep_writeJsonl h
  | account now => exact accountStep_account h
  | writePrometheus outcome => exact accountStep_writePrometheus h
  | accountPrometheus => exact accountStep_accountPrometheus h
  | clearBusy => exact accountStep_clearBusy h
  | accountCsv =>
    simp only [stepLive, stepAccountCsv] at h
    split at h
    · next hpc =>
      split at h
      · cases h
      · cases h
        exact .close (by simp [hpc, ShutdownPc.accountsClose])
    · cases h
  | accountJsonl =>
    simp only [stepLive, stepAccountJsonl] at h
    split at h
    · next hpc =>
      split at h
      · cases h
      · cases h
        exact .close (by simp [hpc, ShutdownPc.accountsClose])
    · cases h
  | closeCsv outcome | closeJsonl outcome =>
    simp only [stepLive, stepCloseCsv, stepCloseJsonl] at h
    repeat' split at h
    all_goals
      first
      | cases h
        exact .quiet ⟨rfl, rfl, rfl, rfl, rfl, rfl⟩ rfl rfl rfl rfl (List.append_nil _)
          fun hnone _ => by simp_all [BeforeCloses, Event.isFileClose, ShutdownPc.accountsClose]
      | cases h
  | countDrop thread | waitIdle givesUp | setRuntimeCounters e c r
  | snapshotLock thread | snapshotDropped thread | snapshotCompose thread now | stop | join
  | composeFinal now | writeFinal outcome | checkDropped | checkFailed =>
    simp only [stepLive, stepCountDrop, stepWaitIdle, stepSetRuntimeCounters,
      stepSnapshotLock, stepSnapshotDropped, stepSnapshotCompose, stepStop, stepJoin,
      stepComposeFinal, stepWriteFinal, stepCheckDropped, stepCheckFailed] at h
    repeat' split at h
    all_goals
      first
      | cases h
        exact .quiet ⟨rfl, rfl, rfl, rfl, rfl, rfl⟩ rfl rfl rfl rfl (List.append_nil _)
          fun _ hpc => by first | exact hpc | rfl
      | cases h

/-! ### The invariant -/

/-- What the counters say after every run with the trace `tr`. -/
structure AccountInv (tr : List Event) (s : System) : Prop where
  files : ∀ backend, backend = .csv ∨ backend = .jsonl → backendEnabled s.pipeline backend = true →
    recordTotal s.pipeline.prometheus backend = UInt64.ofNat (accounted tr).length
  prometheus : s.pipeline.prometheusEnabled = true →
    recordTotal s.pipeline.prometheus .prometheus = UInt64.ofNat (processed tr).length
  accepted : s.pipeline.recordsAccepted = UInt64.ofNat (accepted tr).length
  order : dequeued tr = accounted tr ++ s.worker.unaccounted
  errors : BeforeCloses tr →
    s.shutdown.accountsClose = false ∧ ErrorsMatch s.pipeline.prometheus

theorem AccountInv.start {pipeline : OutputPipeline} (haccepted : pipeline.recordsAccepted = 0)
    (hzero : pipeline.prometheus = zeroSnapshot) : AccountInv [] (System.start pipeline) where
  files _ _ _ := by
    rw [System.start, hzero]
    rfl
  prometheus _ := by
    rw [System.start, hzero]
    rfl
  accepted := haccepted
  order := rfl
  errors _ := by
    refine ⟨rfl, fun b => ?_⟩
    rw [System.start, hzero]
    rfl

theorem AccountInv.step {tr : List Event} (hi : AccountInv tr s)
    (h : pipelineMachine s a = some (s', es)) : AccountInv (tr ++ es) s' := by
  have hstep := accountStep h
  constructor
  · intro b hb hon
    have hbefore : backendEnabled s.pipeline b = true := (hstep.enabled b).symm.trans hon
    rw [hstep.files b hb hbefore, hi.files b hb hbefore, accounted_append, List.length_append,
      UInt64.ofNat_add]
  · intro hon
    have hbefore : s.pipeline.prometheusEnabled = true := (hstep.enabled .prometheus).symm.trans hon
    rw [hstep.prometheus hbefore, hi.prometheus hbefore, processed_append, List.length_append,
      UInt64.ofNat_add]
  · rw [hstep.accepted, hi.accepted, accepted_append, List.length_append, UInt64.ofNat_add]
  · rw [dequeued_append, hi.order, List.append_assoc, hstep.order, accounted_append,
      List.append_assoc]
  · intro hnone
    obtain ⟨hpc, hmatch⟩ := hi.errors fun e he => hnone e (List.mem_append_left _ he)
    obtain ⟨hpc', hmatch'⟩ := hstep.errors (fun e he => hnone e (List.mem_append_right _ he)) hpc
    exact ⟨hpc', hmatch' hmatch⟩

theorem AccountInv.of_run {config : Option OutputPipelineConfig} {outcome : CreateOutcome}
    {pipeline : OutputPipeline} (hc : outputPipelineCreate config outcome = .ok (some pipeline))
    {tr : List Event} {s : System}
    (h : Machine.Run pipelineMachine (System.start pipeline) tr s) : AccountInv tr s := by
  obtain ⟨_, -, -, -, hp⟩ := outputPipelineCreate_some hc
  refine h.invariant (AccountInv.start ?_ ?_) fun hi hs => hi.step hs
  · rw [hp]
    rfl
  · rw [hp]
    rfl

/-! ### Snapshots -/

section
variable (enabled : Bool) (backend : OutputBackend) (dropped : UInt64)
  (snapshot : PrometheusSnapshot)

theorem chargeDropped_total (b : OutputBackend) :
    recordTotal (chargeDropped enabled backend dropped snapshot) b =
      recordTotal snapshot b + if enabled = true ∧ b = backend then dropped else 0 := by
  cases enabled
  · simp [chargeDropped]
  · simp only [chargeDropped, recordTotal, addAt_apply, if_true, true_and]
    ac_rfl

theorem chargeDropped_errors (h : ErrorsMatch snapshot) :
    ErrorsMatch (chargeDropped enabled backend dropped snapshot) := by
  intro b
  cases enabled
  · exact h b
  · have htotal := errorTotal_addError snapshot backend b .write dropped
    simp only [errorTotal] at htotal
    simp only [chargeDropped, errorTotal, addAt_apply, if_true, htotal]
    rw [← h b, errorTotal]

end

variable (pipeline : OutputPipeline) (dropped now : UInt64)

/-- A snapshot adds the dropped records to every enabled backend, also when there are none. -/
theorem composeSnapshotLocked_total (b : OutputBackend) :
    recordTotal (composeSnapshotLocked pipeline dropped now) b =
      recordTotal pipeline.prometheus b +
        if backendEnabled pipeline b = true then dropped else 0 := by
  by_cases hd : dropped > 0
  · rw [composeSnapshotLocked, if_pos hd, chargeDropped_total, chargeDropped_total,
      chargeDropped_total]
    cases b <;> simp [backendEnabled, recordTotal] <;> rfl
  · have hzero : dropped = 0 := by simpa using hd
    rw [composeSnapshotLocked, if_neg hd, hzero]
    simp [recordTotal]

theorem composeSnapshotLocked_errors (h : ErrorsMatch pipeline.prometheus) :
    ErrorsMatch (composeSnapshotLocked pipeline dropped now) := by
  by_cases hd : dropped > 0
  · rw [composeSnapshotLocked, if_pos hd]
    apply chargeDropped_errors
    apply chargeDropped_errors
    apply chargeDropped_errors
    exact h
  · rw [composeSnapshotLocked, if_neg hd]
    exact h

theorem snapshotCompose_returns {thread : ThreadId} {now : UInt64}
    (h : pipelineMachine s (.snapshotCompose thread now) = some (s', es)) :
    ∃ loaded : OutputPipelineSnapshot, es = [.snapshotReturned thread { loaded with
      prometheus := composeSnapshotLocked s.pipeline s.pipeline.recordsDropped now }] := by
  unfold pipelineMachine at h
  split at h
  · simp at h
  simp only [stepLive, stepSnapshotCompose] at h
  split at h
  · next loaded _ =>
    cases h
    exact ⟨loaded, rfl⟩
  · cases h

/-- Every accepted record is queued, with the worker or counted once for each file backend, and
every dropped one is counted once for each backend; whatever snapshot is taken shows it. -/
theorem accounting_conserved {config : Option OutputPipelineConfig} {outcome : CreateOutcome}
    {pipeline : OutputPipeline} (hc : outputPipelineCreate config outcome = .ok (some pipeline))
    {tr : List Event} {s : System}
    (h : Machine.Run pipelineMachine (System.start pipeline) tr s) (now : UInt64) :
    let snapshot := composeSnapshotLocked s.pipeline s.pipeline.recordsDropped now
    let settled := UInt64.ofNat (accounted tr).length
    (∀ backend, backend = .csv ∨ backend = .jsonl →
      backendEnabled s.pipeline backend = true →
      recordTotal snapshot backend = s.pipeline.recordsDropped + settled) ∧
    accepted tr = accounted tr ++ s.worker.unaccounted ++ s.pipeline.queue.contents ∧
    s.pipeline.recordsDropped + settled =
      s.pipeline.recordsAccepted + s.pipeline.recordsDropped -
        UInt64.ofNat s.pipeline.queue.count - UInt64.ofNat s.worker.unaccounted.length ∧
    s.worker.unaccounted.length ≤ 1 ∧
    (BeforeCloses tr → ErrorsMatch snapshot) ∧
    (s.pipeline.queue.count = 0 → s.pipeline.workerBusy = false →
      s.pipeline.prometheusEnabled = true →
      recordTotal snapshot .prometheus = s.pipeline.recordsDropped + settled) ∧
    (∀ thread s' es, pipelineMachine s (.snapshotCompose thread now) = some (s', es) →
      ∃ loaded : OutputPipelineSnapshot, es = [.snapshotReturned thread { loaded with prometheus := snapshot }]) := by
  have hi := AccountInv.of_run hc h
  have hqueue := QueueInv.of_run hc h
  have haccepted : accepted tr =
      accounted tr ++ s.worker.unaccounted ++ s.pipeline.queue.contents := by
    rw [← hi.order, hqueue.order]
  intro snapshot settled
  refine ⟨fun b hb hon => ?_, haccepted, ?_, length_unaccounted_le _, fun hnone => ?_,
    fun hcount hidle hon => ?_, fun _ _ _ => snapshotCompose_returns⟩
  · rw [composeSnapshotLocked_total, hi.files b hb hon, if_pos hon, UInt64.add_comm]
  · have hlength := congrArg (fun records => UInt64.ofNat records.length) haccepted
    simp only [List.length_append, UInt64.ofNat_add, Ring.length_contents] at hlength
    rw [hi.accepted, hlength]
    grind
  · exact composeSnapshotLocked_errors _ _ _ (hi.errors hnone).2
  · have hprocessed := hqueue.processed_of_idle hcount (.inl hidle)
    have hnone : s.worker.unaccounted = [] :=
      unaccounted_of_current (WorkerPc.current_of_not_busy (hqueue.busy.symm.trans hidle))
    have hall : accepted tr = accounted tr := by
      rw [haccepted, hnone, Ring.contents_eq_nil_iff.mpr hcount, List.append_nil, List.append_nil]
    rw [composeSnapshotLocked_total, hi.prometheus hon, hprocessed, hall,
      if_pos (show backendEnabled s.pipeline .prometheus = true from hon), UInt64.add_comm]

/-- A run in which a record is dropped while another one is accounted. -/
theorem accounting_conserved_sample : ∃ tr s,
    Machine.exec pipelineMachine (System.start prometheusPipeline) sampleScript = some (tr, s) ∧
    s.pipeline.recordsDropped = 1 ∧ (accounted tr).length = 1 ∧
    recordTotal (composeSnapshotLocked s.pipeline s.pipeline.recordsDropped 9) .prometheus =
      s.pipeline.recordsDropped + 1 := by
  have hcreate : outputPipelineCreate (some prometheusConfig) allSucceed =
      .ok (some prometheusPipeline) := rfl
  have hlen : (Machine.exec pipelineMachine (System.start prometheusPipeline) sampleScript).map
      (fun r => (decide (r.2.pipeline.recordsDropped = 1 ∧ (accounted r.1).length = 1 ∧
        r.2.pipeline.queue.count = 0 ∧ r.2.pipeline.workerBusy = false ∧
        r.2.pipeline.prometheusEnabled = true))) = some true := by decide +kernel
  obtain ⟨⟨tr, s⟩, hexec, hall⟩ := Option.map_eq_some_iff.mp hlen
  obtain ⟨hdropped, hone, hcount, hbusy, hon⟩ := of_decide_eq_true hall
  obtain ⟨-, -, -, -, -, hidle, -⟩ :=
    accounting_conserved hcreate (Machine.run_of_exec hexec) 9
  have htotal := hidle hcount hbusy hon
  simp only [hone] at htotal
  exact ⟨tr, s, hexec, hdropped, hone, htotal⟩

end TcdOran.Collector
