import TcdOran.Collector.PipelineMachine

/-! The queue of the output pipeline loses and duplicates nothing, in any interleaving. -/
namespace TcdOran.Collector
open TcdOran.Lib

/-! ### What a run has done -/

def Event.accepted? : Event → Option CanonicalRecord
  | .submitReturned _ (some record) true => some record
  | _ => none

def Event.dequeued? : Event → Option CanonicalRecord
  | .dequeued record => some record
  | _ => none

def Event.processed? : Event → Option CanonicalRecord
  | .processed record => some record
  | _ => none

/-- The records whose `try_submit` returned true, in order. -/
def accepted (tr : List Event) : List CanonicalRecord := tr.filterMap Event.accepted?

def dequeued (tr : List Event) : List CanonicalRecord := tr.filterMap Event.dequeued?

/-- The records for which `process_record` has returned. -/
def processed (tr : List Event) : List CanonicalRecord := tr.filterMap Event.processed?

section
variable (tr es : List Event)

@[simp] theorem accepted_append : accepted (tr ++ es) = accepted tr ++ accepted es :=
  List.filterMap_append

@[simp] theorem dequeued_append : dequeued (tr ++ es) = dequeued tr ++ dequeued es :=
  List.filterMap_append

@[simp] theorem processed_append : processed (tr ++ es) = processed tr ++ processed es :=
  List.filterMap_append

end

/-- The record the worker has dequeued and not finished. -/
def WorkerPc.current : WorkerPc → List CanonicalRecord
  | .writeCsv record => [record]
  | .writeJsonl record _ => [record]
  | .account record _ _ => [record]
  | .writePrometheus record _ => [record]
  | .accountPrometheus record _ => [record]
  | _ => []

def WorkerPc.busy : WorkerPc → Bool
  | .loop => false
  | .exited => false
  | _ => true

section
variable (record : CanonicalRecord)

@[simp] theorem current_loop : WorkerPc.loop.current = [] := rfl
@[simp] theorem current_clearBusy : WorkerPc.clearBusy.current = [] := rfl
@[simp] theorem current_exited : WorkerPc.exited.current = [] := rfl
@[simp] theorem current_writeCsv : (WorkerPc.writeCsv record).current = [record] := rfl
@[simp] theorem busy_loop : WorkerPc.loop.busy = false := rfl
@[simp] theorem busy_clearBusy : WorkerPc.clearBusy.busy = true := rfl
@[simp] theorem busy_exited : WorkerPc.exited.busy = false := rfl
@[simp] theorem busy_writeCsv : (WorkerPc.writeCsv record).busy = true := rfl

@[simp] theorem accepted_rejected (thread : ThreadId) (record : Option CanonicalRecord) :
    accepted [.submitReturned thread record false] = [] := by
  cases record <;> rfl

end

/-! ### What one step does to the queue -/

/-- Everything except the counters and the failed flag is as before. -/
def OnlyAccounts (p q : OutputPipeline) : Prop :=
  q = { p with
    failed := q.failed
    lastIndicationSequence := q.lastIndicationSequence
    lastIndicationPresent := q.lastIndicationPresent
    prometheus := q.prometheus }

theorem OnlyAccounts.trans {p q r : OutputPipeline} (h : OnlyAccounts p q)
    (h' : OnlyAccounts q r) : OnlyAccounts p r := by
  unfold OnlyAccounts at *
  rw [h', h]

theorem onlyAccounts_fileResult (p : OutputPipeline) (backend : OutputBackend)
    (result : FileSinkResult) : OnlyAccounts p (accountFileResult p backend result) := by
  unfold accountFileResult
  split <;> rfl

theorem onlyAccounts_record (p : OutputPipeline) (record : CanonicalRecord) :
    OnlyAccounts p (accountRecord p record) := by
  unfold accountRecord accountIndication
  split <;> rfl

theorem onlyAccounts_results (p : OutputPipeline) (record : CanonicalRecord)
    (csvResult jsonlResult : FileSinkResult) :
    OnlyAccounts p (accountResults p record csvResult jsonlResult) := by
  unfold accountResults
  have hrecord := onlyAccounts_record p record
  simp only
  split <;> split
  · exact (hrecord.trans (onlyAccounts_fileResult _ _ _)).trans (onlyAccounts_fileResult _ _ _)
  · exact hrecord.trans (onlyAccounts_fileResult _ _ _)
  · exact hrecord.trans (onlyAccounts_fileResult _ _ _)
  · exact hrecord

theorem onlyAccounts_prometheus (p : OutputPipeline) (outcome : PrometheusOutcome) :
    OnlyAccounts p (accountPrometheusOutcome p outcome) := by
  cases outcome <;> rfl

theorem onlyAccounts_close (p : OutputPipeline) (backend : OutputBackend)
    (result : FileSinkResult) : OnlyAccounts p (accountClose p backend result) := by
  unfold accountClose
  split <;> rfl

/-- The parts of the state the queue argument is about. -/
structure SameQueue (s s' : System) : Prop where
  queue : s'.pipeline.queue = s.pipeline.queue
  stop : s'.pipeline.stopRequested = s.pipeline.stopRequested
  busy : s'.pipeline.workerBusy = s.pipeline.workerBusy

theorem OnlyAccounts.sameQueue {s s' : System} (h : OnlyAccounts s.pipeline s'.pipeline) :
    SameQueue s s' :=
  ⟨congrArg (·.queue) h, congrArg (·.stopRequested) h, congrArg (·.workerBusy) h⟩

/-- No record is accepted, taken from the queue or finished. -/
structure Quiet (es : List Event) : Prop where
  accepted : accepted es = []
  dequeued : dequeued es = []
  processed : processed es = []

/-- Every step is one of these for the queue. -/
inductive QueueStep (s s' : System) (es : List Event) : Prop
  | accept (record : CanonicalRecord) : s.pipeline.queue.count < outputQueueCapacity →
      s.pipeline.stopRequested = false → Accepted record →
      s'.pipeline.queue = s.pipeline.queue.push record →
      s'.pipeline.stopRequested = s.pipeline.stopRequested →
      s'.pipeline.workerBusy = s.pipeline.workerBusy → s'.worker = s.worker →
      accepted es = [record] → dequeued es = [] → processed es = [] → QueueStep s s' es
  | dequeue (record : CanonicalRecord) : s.worker = .loop →
      s.pipeline.queue.pop = some (record, s'.pipeline.queue) → s.pipeline.queue.count ≠ 0 →
      s'.pipeline.workerBusy = true → s'.worker = .writeCsv record →
      accepted es = [] → dequeued es = [record] → processed es = [] → QueueStep s s' es
  | exit : s.worker = .loop → s.pipeline.queue.count = 0 → s.pipeline.stopRequested = true →
      s'.pipeline.queue = s.pipeline.queue → s'.pipeline.stopRequested = true →
      s'.pipeline.workerBusy = false → s'.worker = .exited → Quiet es → QueueStep s s' es
  | advance : SameQueue s s' → s.worker.busy = true → s'.worker.busy = true →
      s'.worker.current = s.worker.current → Quiet es → QueueStep s s' es
  | finish (record : CanonicalRecord) : SameQueue s s' → s.worker.busy = true →
      s.worker.current = [record] → s'.worker = .clearBusy →
      accepted es = [] → dequeued es = [] → processed es = [record] → QueueStep s s' es
  | clear : s.worker = .clearBusy → s'.pipeline.queue = s.pipeline.queue →
      s'.pipeline.workerBusy = false → s'.worker = .loop → Quiet es → QueueStep s s' es
  | stop : s'.pipeline.queue = s.pipeline.queue → s'.pipeline.stopRequested = true →
      s'.pipeline.workerBusy = s.pipeline.workerBusy → s'.worker = s.worker → Quiet es →
      QueueStep s s' es
  | frame : SameQueue s s' → s'.worker = s.worker → Quiet es → QueueStep s s' es

theorem Quiet.nil : Quiet [] := ⟨rfl, rfl, rfl⟩

variable {s s' : System} {a : Action} {es : List Event}

theorem queueStep_submit {thread : ThreadId} {record : Option CanonicalRecord} {contended : Bool}
    (h : stepSubmit s thread record contended = some (s', es)) : QueueStep s s' es := by
  unfold stepSubmit at h
  split at h
  · next present hpc =>
    split at h
    · next haccept =>
      obtain ⟨rfl, rfl⟩ := Prod.mk.inj (Option.some.inj h)
      simp only [submitAccepts, Bool.decide_and, Bool.and_eq_true, decide_eq_true_eq,
        Bool.not_eq_true'] at haccept
      obtain ⟨hvalid, -, -, hstop, hcount⟩ := haccept
      exact .accept present hcount hstop (canonicalRecordValidate_eq_ok.mp hvalid) rfl rfl rfl rfl
        rfl rfl rfl
    · obtain ⟨rfl, rfl⟩ := Prod.mk.inj (Option.some.inj h)
      exact .frame ⟨rfl, rfl, rfl⟩ rfl .nil
  · obtain ⟨rfl, rfl⟩ := Prod.mk.inj (Option.some.inj h)
    exact .frame ⟨rfl, rfl, rfl⟩ rfl .nil
  · simp at h

theorem queueStep_dequeue (h : stepDequeue s = some (s', es)) : QueueStep s s' es := by
  unfold stepDequeue at h
  split at h
  · next hloop =>
    split at h
    · simp at h
    split at h
    · next hcount =>
      split at h
      · next hstop =>
        obtain ⟨rfl, rfl⟩ := Prod.mk.inj (Option.some.inj h)
        exact .exit hloop hcount hstop rfl hstop rfl rfl ⟨rfl, rfl, rfl⟩
      · simp at h
    · next hcount =>
      simp only [Option.bind_eq_bind, Option.bind_eq_some_iff] at h
      obtain ⟨⟨record, queue⟩, hpop, h⟩ := h
      obtain ⟨rfl, rfl⟩ := Prod.mk.inj (Option.some.inj h)
      exact .dequeue record hloop hpop hcount rfl rfl rfl rfl rfl
  · simp at h

/-- The steps of the worker inside `process_record`. -/
theorem queueStep_writeCsv {outcome : WriteOutcome}
    (h : stepWriteCsv s outcome = some (s', es)) : QueueStep s s' es := by
  unfold stepWriteCsv at h
  split at h
  · next hpc =>
    split at h
    all_goals
      obtain ⟨rfl, rfl⟩ := Prod.mk.inj (Option.some.inj h)
      exact .advance ⟨rfl, rfl, rfl⟩ (by simp [hpc, WorkerPc.busy]) rfl
        (by simp [hpc, WorkerPc.current]) ⟨rfl, rfl, rfl⟩
  · simp at h

theorem queueStep_writeJsonl {outcome : WriteOutcome}
    (h : stepWriteJsonl s outcome = some (s', es)) : QueueStep s s' es := by
  unfold stepWriteJsonl at h
  split at h
  · next hpc =>
    split at h
    all_goals
      obtain ⟨rfl, rfl⟩ := Prod.mk.inj (Option.some.inj h)
      exact .advance ⟨rfl, rfl, rfl⟩ (by simp [hpc, WorkerPc.busy]) rfl
        (by simp [hpc, WorkerPc.current]) ⟨rfl, rfl, rfl⟩
  · simp at h

theorem queueStep_account {now : UInt64} (h : stepAccount s now = some (s', es)) :
    QueueStep s s' es := by
  unfold stepAccount at h
  split at h
  · next record csvResult jsonlResult hpc =>
    have hsame := onlyAccounts_results s.pipeline record csvResult jsonlResult
    split at h
    · simp at h
    simp only at h
    split at h
    · obtain ⟨rfl, rfl⟩ := Prod.mk.inj (Option.some.inj h)
      exact .advance hsame.sameQueue (by simp [hpc, WorkerPc.busy]) rfl
        (by simp [hpc, WorkerPc.current]) ⟨rfl, rfl, rfl⟩
    · obtain ⟨rfl, rfl⟩ := Prod.mk.inj (Option.some.inj h)
      exact .finish record hsame.sameQueue (by simp [hpc, WorkerPc.busy])
        (by simp [hpc, WorkerPc.current]) rfl rfl rfl rfl
  · simp at h

theorem queueStep_writePrometheus {outcome : PrometheusOutcome}
    (h : stepWritePrometheus s outcome = some (s', es)) : QueueStep s s' es := by
  unfold stepWritePrometheus at h
  split at h
  · next hpc =>
    obtain ⟨rfl, rfl⟩ := Prod.mk.inj (Option.some.inj h)
    exact .advance ⟨rfl, rfl, rfl⟩ (by simp [hpc, WorkerPc.busy]) rfl
      (by simp [hpc, WorkerPc.current]) ⟨rfl, rfl, rfl⟩
  · simp at h

theorem queueStep_accountPrometheus (h : stepAccountPrometheus s = some (s', es)) :
    QueueStep s s' es := by
  unfold stepAccountPrometheus at h
  split at h
  · next record outcome hpc =>
    have hsame := onlyAccounts_prometheus s.pipeline outcome
    split at h
    · simp at h
    · obtain ⟨rfl, rfl⟩ := Prod.mk.inj (Option.some.inj h)
      exact .finish record hsame.sameQueue (by simp [hpc, WorkerPc.busy])
        (by simp [hpc, WorkerPc.current]) rfl rfl rfl rfl
  · simp at h

theorem queueStep_clearBusy (h : stepClearBusy s = some (s', es)) : QueueStep s s' es := by
  unfold stepClearBusy at h
  split at h
  · next hpc =>
    split at h
    · simp at h
    · obtain ⟨rfl, rfl⟩ := Prod.mk.inj (Option.some.inj h)
      exact .clear hpc rfl rfl rfl .nil
  · simp at h

theorem queueStep_markFailed {thread : ThreadId} (h : stepMarkFailed s thread = some (s', es)) :
    QueueStep s s' es := by
  unfold stepMarkFailed at h
  split at h
  · obtain ⟨rfl, rfl⟩ := Prod.mk.inj (Option.some.inj h)
    exact .frame ⟨rfl, rfl, rfl⟩ rfl ⟨accepted_rejected _ _, rfl, rfl⟩
  · simp at h

theorem queueStep_stop (h : stepStop s = some (s', es)) : QueueStep s s' es := by
  unfold stepStop at h
  split at h
  · split at h
    · simp at h
    · obtain ⟨rfl, rfl⟩ := Prod.mk.inj (Option.some.inj h)
      exact .stop rfl rfl rfl rfl .nil
  · simp at h

theorem queueStep_accountCsv (h : stepAccountCsv s = some (s', es)) : QueueStep s s' es := by
  unfold stepAccountCsv at h
  split at h
  · next result _ =>
    split at h
    · simp at h
    · obtain ⟨rfl, rfl⟩ := Prod.mk.inj (Option.some.inj h)
      exact .frame (onlyAccounts_close s.pipeline .csv result).sameQueue rfl .nil
  · simp at h

theorem queueStep_accountJsonl (h : stepAccountJsonl s = some (s', es)) : QueueStep s s' es := by
  unfold stepAccountJsonl at h
  split at h
  · next result _ _ =>
    split at h
    · simp at h
    · obtain ⟨rfl, rfl⟩ := Prod.mk.inj (Option.some.inj h)
      exact .frame (onlyAccounts_close s.pipeline .jsonl result).sameQueue rfl .nil
  · simp at h

/-- Each step of the machine, seen from the queue. -/
theorem queueStep (h : pipelineMachine s a = some (s', es)) : QueueStep s s' es := by
  unfold pipelineMachine at h
  split at h
  · simp at h
  cases a with
  | submit thread record contended => exact queueStep_submit h
  | markFailed thread => exact queueStep_markFailed h
  | dequeue => exact queueStep_dequeue h
  | writeCsv outcome => exact queueStep_writeCsv h
  | writeJsonl outcome => exact queueStep_writeJsonl h
  | account now => exact queueStep_account h
  | writePrometheus outcome => exact queueStep_writePrometheus h
  | accountPrometheus => exact queueStep_accountPrometheus h
  | clearBusy => exact queueStep_clearBusy h
  | stop => exact queueStep_stop h
  | accountCsv => exact queueStep_accountCsv h
  | accountJsonl => exact queueStep_accountJsonl h
  | countDrop thread | waitIdle givesUp | setRuntimeCounters e c r
  | snapshotLock thread | snapshotDropped thread | snapshotCompose thread now | join
  | closeCsv outcome | closeJsonl outcome | composeFinal now | writeFinal outcome
  | checkDropped | checkFailed =>
    -- these neither touch the queue nor move the worker
    simp only [stepLive, stepCountDrop, stepWaitIdle, stepSetRuntimeCounters,
      stepSnapshotLock, stepSnapshotDropped, stepSnapshotCompose, stepJoin, stepCloseCsv,
      stepCloseJsonl, stepComposeFinal, stepWriteFinal, stepCheckDropped, stepCheckFailed] at h
    repeat' split at h
    all_goals
      first
      | cases h
        exact .frame ⟨rfl, rfl, rfl⟩ rfl ⟨rfl, rfl, rfl⟩
      | cases h

/-! ### The invariant -/

/-- What holds after every run with the trace `tr`. -/
structure QueueInv (tr : List Event) (s : System) : Prop where
  ring : s.pipeline.queue.Valid
  order : dequeued tr ++ s.pipeline.queue.contents = accepted tr
  progress : processed tr ++ s.worker.current = dequeued tr
  busy : s.pipeline.workerBusy = s.worker.busy
  exited : s.worker = .exited → s.pipeline.stopRequested = true ∧ s.pipeline.queue.count = 0
  valid : ∀ record ∈ accepted tr, Accepted record

theorem QueueInv.start {pipeline : OutputPipeline} (hbusy : pipeline.workerBusy = false)
    (hqueue : pipeline.queue = zeroPipeline.queue) : QueueInv [] (System.start pipeline) where
  ring := by
    rw [System.start, hqueue]
    exact Ring.Valid.empty _
  order := by
    rw [System.start, hqueue]
    rfl
  progress := rfl
  busy := hbusy
  exited := by simp [System.start]
  valid := by simp [accepted]

theorem WorkerPc.current_of_not_busy {pc : WorkerPc} (h : pc.busy = false) : pc.current = [] := by
  cases pc <;> simp_all [WorkerPc.busy, WorkerPc.current]

theorem QueueInv.step {tr : List Event} (hi : QueueInv tr s)
    (h : pipelineMachine s a = some (s', es)) : QueueInv (tr ++ es) s' := by
  obtain ⟨hring, horder, hprogress, hbusy, hexit, hvalid⟩ := hi
  cases queueStep h with
  | accept record hcount hstop hrec hq hst hb hw ha hd hp =>
    refine ⟨by rw [hq]; exact hring.push hcount record, ?_, ?_, ?_, ?_, ?_⟩
    · rw [hq, Ring.contents_push hring hcount]
      simp [ha, hd, ← horder]
    · simp [hw, hp, hd, hprogress]
    · rw [hb, hw, hbusy]
    · intro he
      have := (hexit (hw.symm.trans he)).1
      simp [hstop] at this
    · simpa [ha, or_imp, forall_and] using ⟨hvalid, hrec⟩
  | dequeue record hw hpop hcount hb hw' ha hd hp =>
    obtain ⟨x, q, hpop', hring', -, hcontents⟩ := Ring.pop_spec hring (Nat.pos_of_ne_zero hcount)
    obtain ⟨rfl, hq⟩ := Prod.mk.inj (Option.some.inj (hpop.symm.trans hpop'))
    have hnone : s.worker.current = [] := by simp [hw]
    refine ⟨by rw [hq]; exact hring', ?_, ?_, ?_, ?_, by simpa [ha] using hvalid⟩
    · simp [ha, hd, hq, ← horder, hcontents]
    · simp [hw', hp, hd, ← hprogress, hnone]
    · simp [hb, hw']
    · simp [hw']
  | exit hw hcount hstop hq hst hb hw' hquiet =>
    have hnone : s.worker.current = [] := by simp [hw]
    refine ⟨by rw [hq]; exact hring, ?_, ?_, ?_, ?_, by simpa [hquiet.accepted] using hvalid⟩
    · simp [hquiet.accepted, hquiet.dequeued, hq, horder]
    · simp [hquiet.processed, hquiet.dequeued, hw', ← hprogress, hnone]
    · simp [hb, hw']
    · exact fun _ => ⟨hst, by rw [hq, hcount]⟩
  | advance hsame hb hb' hcur hquiet =>
    refine ⟨by rw [hsame.queue]; exact hring, ?_, ?_, ?_, ?_,
      by simpa [hquiet.accepted] using hvalid⟩
    · simp [hquiet.accepted, hquiet.dequeued, hsame.queue, horder]
    · simp [hquiet.processed, hquiet.dequeued, hcur, hprogress]
    · rw [hsame.busy, hbusy, hb, hb']
    · intro he
      simp [he] at hb'
  | finish record hsame hb hcur hw' ha hd hp =>
    refine ⟨by rw [hsame.queue]; exact hring, ?_, ?_, ?_, ?_, by simpa [ha] using hvalid⟩
    · simp [ha, hd, hsame.queue, horder]
    · simp [hp, hd, hw', ← hprogress, hcur]
    · rw [hsame.busy, hbusy, hb, hw']
      rfl
    · simp [hw']
  | clear hw hq hb hw' hquiet =>
    have hnone : s.worker.current = [] := by simp [hw]
    refine ⟨by rw [hq]; exact hring, ?_, ?_, ?_, ?_, by simpa [hquiet.accepted] using hvalid⟩
    · simp [hquiet.accepted, hquiet.dequeued, hq, horder]
    · simp [hquiet.processed, hquiet.dequeued, hw', ← hprogress, hnone]
    · simp [hb, hw']
    · simp [hw']
  | stop hq hst hb hw' hquiet =>
    refine ⟨by rw [hq]; exact hring, ?_, ?_, ?_, ?_, by simpa [hquiet.accepted] using hvalid⟩
    · simp [hquiet.accepted, hquiet.dequeued, hq, horder]
    · simp [hquiet.processed, hquiet.dequeued, hw', hprogress]
    · rw [hb, hw', hbusy]
    · intro he
      exact ⟨hst, by rw [hq]; exact (hexit (hw'.symm.trans he)).2⟩
  | frame hsame hw' hquiet =>
    refine ⟨by rw [hsame.queue]; exact hring, ?_, ?_, ?_, ?_,
      by simpa [hquiet.accepted] using hvalid⟩
    · simp [hquiet.accepted, hquiet.dequeued, hsame.queue, horder]
    · simp [hquiet.processed, hquiet.dequeued, hw', hprogress]
    · rw [hsame.busy, hw', hbusy]
    · intro he
      rw [hsame.queue, hsame.stop]
      exact hexit (hw'.symm.trans he)

/-! ### Idle reports -/

/-- The reports that nothing is left to do. -/
def Event.reportsIdle : Event → Bool
  | .waitIdleReturned idle => idle
  | .workerExited => true
  | _ => false

/-- Such a report comes alone, from a state with an empty queue. -/
theorem reportsIdle_step (h : pipelineMachine s a = some (s', es)) {e : Event} (he : e ∈ es)
    (hidle : e.reportsIdle = true) :
    es = [e] ∧ s.pipeline.queue.count = 0 ∧ (s.pipeline.workerBusy = false ∨ s.worker = .loop) := by
  unfold pipelineMachine at h
  split at h
  · simp at h
  cases a with
  | dequeue =>
    simp only [stepLive, stepDequeue] at h
    split at h
    · next hloop =>
      split at h
      · simp at h
      split at h
      · next hcount =>
        split at h
        · cases h
          exact ⟨by rw [List.mem_singleton.mp he], hcount, .inr hloop⟩
        · simp at h
      · simp only [Option.bind_eq_bind, Option.bind_eq_some_iff] at h
        obtain ⟨_, _, h⟩ := h
        cases h
        obtain rfl := List.mem_singleton.mp he
        simp [Event.reportsIdle] at hidle
    · simp at h
  | waitIdle givesUp =>
    simp only [stepLive, stepWaitIdle] at h
    split at h
    · cases h
      obtain rfl := List.mem_singleton.mp he
      simp [Event.reportsIdle] at hidle
    split at h
    · next hready =>
      cases h
      exact ⟨by rw [List.mem_singleton.mp he], hready.2.1, .inl (by simpa using hready.2.2)⟩
    · simp at h
  | submit | countDrop | markFailed | writeCsv | writeJsonl | account | writePrometheus
  | accountPrometheus | clearBusy | setRuntimeCounters | snapshotLock | snapshotDropped
  | snapshotCompose | stop | join | closeCsv | accountCsv | closeJsonl | accountJsonl
  | composeFinal | writeFinal | checkDropped | checkFailed =>
    simp only [stepLive, stepSubmit, stepCountDrop, stepMarkFailed, stepWriteCsv, stepWriteJsonl,
      stepAccount, stepWritePrometheus, stepAccountPrometheus, stepClearBusy,
      stepSetRuntimeCounters, stepSnapshotLock, stepSnapshotDropped, stepSnapshotCompose,
      stepStop, stepJoin, stepCloseCsv, stepAccountCsv, stepCloseJsonl, stepAccountJsonl,
      stepComposeFinal, stepWriteFinal, stepCheckDropped, stepCheckFailed] at h
    repeat' split at h
    all_goals
      cases h
      all_goals
        simp only [List.mem_cons, List.not_mem_nil, or_false] at he
        try rcases he with rfl | rfl
        all_goals simp_all [Event.reportsIdle]

theorem QueueInv.processed_of_idle {tr : List Event} (hi : QueueInv tr s)
    (hcount : s.pipeline.queue.count = 0)
    (hidle : s.pipeline.workerBusy = false ∨ s.worker = .loop) : processed tr = accepted tr := by
  have hcurrent : s.worker.current = [] := by
    apply WorkerPc.current_of_not_busy
    rcases hidle with h | h
    · rw [← hi.busy, h]
    · rw [h, busy_loop]
  rw [← hi.order, ← hi.progress, hcurrent, Ring.contents_eq_nil_iff.mpr hcount]
  simp

/-! ### Creation -/

section
variable {config : Option OutputPipelineConfig} {outcome : CreateOutcome}
  {pipeline : OutputPipeline}

/-- A created pipeline is the zeroed one with its backends set up. -/
theorem outputPipelineCreate_some (h : outputPipelineCreate config outcome = .ok (some pipeline)) :
    ∃ c, config = some c ∧
      openSink (pathEnabled c.csvPath) .csv c.csvPath outcome.csvOpen
        "CSV output sink open failed" = .ok pipeline.csvSink ∧
      openSink (pathEnabled c.jsonlPath) .jsonl c.jsonlPath outcome.jsonlOpen
        "JSONL output sink open failed" = .ok pipeline.jsonlSink ∧
      pipeline = { zeroPipeline with
        workerStarted := true
        csvEnabled := pathEnabled c.csvPath
        jsonlEnabled := pathEnabled c.jsonlPath
        prometheusEnabled := pathEnabled c.prometheusPath
        prometheusPath := pipeline.prometheusPath
        csvSink := pipeline.csvSink
        jsonlSink := pipeline.jsonlSink } := by
  unfold outputPipelineCreate at h
  split at h
  · simp at h
  next c =>
  simp only at h
  split at h
  · simp at h
  simp only [require_bind_eq_ok] at h
  obtain ⟨-, -, -, -, -, h⟩ := h
  obtain ⟨csvSink, hcsv, h⟩ := bind_eq_ok.mp h
  obtain ⟨jsonlSink, hjsonl, h⟩ := bind_eq_ok.mp h
  simp only [require_bind_eq_ok] at h
  obtain ⟨-, -, h⟩ := h
  obtain rfl := Option.some.inj (Except.ok.inj h)
  exact ⟨c, rfl, hcsv, hjsonl, rfl⟩

theorem QueueInv.of_run (hc : outputPipelineCreate config outcome = .ok (some pipeline))
    {tr : List Event} {s : System}
    (h : Machine.Run pipelineMachine (System.start pipeline) tr s) : QueueInv tr s := by
  obtain ⟨_, -, -, -, hp⟩ := outputPipelineCreate_some hc
  refine h.invariant (QueueInv.start ?_ ?_) fun hi hs => hi.step hs
  · rw [hp]
    rfl
  · rw [hp]

/-- No record is lost, duplicated or reordered between the submitters and the worker; a wait
that reports idleness, and the worker's exit, mean that all accepted records are processed. -/
theorem queue_exact (hc : outputPipelineCreate config outcome = .ok (some pipeline))
    {tr : List Event} {s : System}
    (h : Machine.Run pipelineMachine (System.start pipeline) tr s) :
    dequeued tr ++ s.pipeline.queue.contents = accepted tr ∧
    s.pipeline.queue.count ≤ outputQueueCapacity ∧
    s.pipeline.queue.tail =
      (s.pipeline.queue.head + s.pipeline.queue.count) % outputQueueCapacity ∧
    (∀ before after, tr = before ++ .waitIdleReturned true :: after →
      processed before = accepted before) ∧
    (∀ before after, tr = before ++ .workerExited :: after →
      processed before = accepted before) ∧
    (s.worker = .exited → s.pipeline.stopRequested = true ∧ processed tr = accepted tr) := by
  have hi := QueueInv.of_run hc h
  have hidle : ∀ before e after, tr = before ++ e :: after → e.reportsIdle = true →
      processed before = accepted before := by
    intro before e after htr
    refine Machine.Run.event_property
      (P := fun before e => e.reportsIdle = true → processed before = accepted before)
      ?_ h htr
    intro tr s a s' es hrun hs pre e post hes hreport
    obtain ⟨hsingle, hcount, hbusy⟩ := reportsIdle_step hs (by simp [hes]) hreport
    have hnil : pre = [] := by
      have hlen := congrArg List.length (hsingle.symm.trans hes)
      simp only [List.length_append, List.length_cons, List.length_nil] at hlen
      exact List.eq_nil_of_length_eq_zero (by omega)
    rw [hnil, List.append_nil]
    exact (QueueInv.of_run hc hrun).processed_of_idle hcount hbusy
  refine ⟨hi.order, hi.ring.count_le, hi.ring.tail_eq, fun b a ht => hidle b _ a ht rfl,
    fun b a ht => hidle b _ a ht rfl, fun he => ?_⟩
  obtain ⟨hstop, hcount⟩ := hi.exited he
  refine ⟨hstop, ?_⟩
  rw [← hi.order, ← hi.progress, he, Ring.contents_eq_nil_iff.mpr hcount]
  simp

end

def prometheusConfig : OutputPipelineConfig := ⟨none, none, some (bytes "/tmp/kpm.prom")⟩

def allSucceed : CreateOutcome :=
  ⟨true, true, true, true, ⟨true, none, true⟩, ⟨true, none, true⟩, true⟩

def prometheusPipeline : OutputPipeline :=
  { zeroPipeline with
    workerStarted := true
    prometheusEnabled := true
    prometheusPath := bytes "/tmp/kpm.prom" }

/-- Two submits, one of them contended, a complete round of the worker and its exit. -/
def sampleScript : List Action :=
  [.submit 0 (some diagnosticSample) false, .submit 1 (some diagnosticSample) true, .dequeue,
    .countDrop 1, .writeCsv ⟨none, true⟩, .writeJsonl ⟨none, true⟩, .account 7, .markFailed 1,
    .writePrometheus .ok, .accountPrometheus, .clearBusy, .waitIdle false, .stop, .dequeue]

theorem queue_exact_sample : ∃ tr s,
    Machine.exec pipelineMachine (System.start prometheusPipeline) sampleScript = some (tr, s) ∧
    (accepted tr).length = 1 ∧
    dequeued tr ++ s.pipeline.queue.contents = accepted tr ∧
    s.pipeline.queue.count ≤ outputQueueCapacity ∧
    s.pipeline.queue.tail =
      (s.pipeline.queue.head + s.pipeline.queue.count) % outputQueueCapacity ∧
    (∀ before after, tr = before ++ .waitIdleReturned true :: after →
      processed before = accepted before) ∧
    (∀ before after, tr = before ++ .workerExited :: after →
      processed before = accepted before) ∧
    (s.worker = .exited → s.pipeline.stopRequested = true ∧ processed tr = accepted tr) := by
  have hcreate : outputPipelineCreate (some prometheusConfig) allSucceed =
      .ok (some prometheusPipeline) := rfl
  have hlen : (Machine.exec pipelineMachine (System.start prometheusPipeline) sampleScript).map
      (fun r => (accepted r.1).length) = some 1 := by decide +kernel
  obtain ⟨⟨tr, s⟩, hexec, hone⟩ := Option.map_eq_some_iff.mp hlen
  exact ⟨tr, s, hexec, hone, queue_exact hcreate (Machine.run_of_exec hexec)⟩

end TcdOran.Collector
