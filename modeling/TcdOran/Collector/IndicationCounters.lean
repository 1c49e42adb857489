import TcdOran.Collector.CallbackMachine
import TcdOran.Collector.PipelineAccounting
import TcdOran.Collector.RecordDelivery

/-! What the indication counters count. The callback hands on FlexRIC's number of the message
format, under which format 1 is 0, format 2 is 1 and format 3 is 2. -/
namespace TcdOran.Collector
open TcdOran.Lib

/-! ### Runs of records -/

def lastSequence : Option UInt64 → List CanonicalRecord → Option UInt64
  | last, [] => last
  | _, record :: records => lastSequence (some record.indicationSequence) records

/-- The maximal runs of records with one sequence number that begin with a record of a format. -/
def indicationRuns (format : UInt32) : Option UInt64 → List CanonicalRecord → ℕ
  | _, [] => 0
  | last, record :: records =>
      (if last ≠ some record.indicationSequence ∧ record.messageFormat = format then 1 else 0) +
        indicationRuns format (some record.indicationSequence) records

theorem lastSequence_append (last : Option UInt64) (xs ys : List CanonicalRecord) :
    lastSequence last (xs ++ ys) = lastSequence (lastSequence last xs) ys := by
  induction xs generalizing last with
  | nil => rfl
  | cons x xs ih => exact ih _

theorem indicationRuns_append (format : UInt32) (last : Option UInt64)
    (xs ys : List CanonicalRecord) : indicationRuns format last (xs ++ ys) =
      indicationRuns format last xs + indicationRuns format (lastSequence last xs) ys := by
  induction xs generalizing last with
  | nil => exact (Nat.zero_add _).symm
  | cons x xs ih => rw [List.cons_append, indicationRuns, ih, indicationRuns, lastSequence,
      Nat.add_assoc]

/-- The records of one indication, not preceded by another record of it, are one run. -/
theorem indicationRuns_uniform {sequence : UInt64} {format : UInt32}
    {records : List CanonicalRecord} (h : ∀ record ∈ records,
      record.indicationSequence = sequence ∧ record.messageFormat = format)
    (f : UInt32) (last : Option UInt64) :
    indicationRuns f last records =
      (if records ≠ [] ∧ last ≠ some sequence ∧ format = f then 1 else 0) ∧
    lastSequence last records = if records = [] then last else some sequence := by
  induction records generalizing last with
  | nil => exact ⟨rfl, rfl⟩
  | cons record records ih =>
    obtain ⟨hsequence, hformat⟩ := h record List.mem_cons_self
    obtain ⟨hruns, hlast⟩ := ih (fun r hr => h r (List.mem_cons_of_mem _ hr)) (some sequence)
    constructor
    · rw [indicationRuns, hsequence, hformat, hruns]
      simp
    · rw [lastSequence, hsequence, hlast]
      simp

/-- Indications with different sequence numbers are different runs. -/
theorem indicationRuns_deliveries (f : UInt32) {ds : List Delivery}
    (horigin : ∀ d ∈ ds, ∀ record ∈ d.records,
      record.indicationSequence = d.sequence ∧ record.messageFormat = d.format)
    (hnodup : (ds.map Delivery.sequence).Nodup) {last : Option UInt64}
    (hlast : ∀ d ∈ ds, last ≠ some d.sequence) :
    indicationRuns f last (ds.flatMap Delivery.records) =
      (ds.filter fun d => d.format = f ∧ d.records ≠ []).length := by
  induction ds generalizing last with
  | nil => rfl
  | cons d ds ih =>
    obtain ⟨hruns, hnext⟩ := indicationRuns_uniform (horigin d List.mem_cons_self) f last
    rw [List.map_cons, List.nodup_cons] at hnodup
    have hfresh : ∀ e ∈ ds, lastSequence last d.records ≠ some e.sequence := by
      intro e he
      rw [hnext]
      split
      · exact hlast e (List.mem_cons_of_mem _ he)
      · intro heq
        have hsame : d.sequence = e.sequence := Option.some.inj heq
        exact hnodup.1 (hsame ▸ List.mem_map_of_mem he)
    rw [List.flatMap_cons, indicationRuns_append, hruns,
      ih (fun e he => horigin e (List.mem_cons_of_mem _ he)) hnodup.2 hfresh]
    have hne := hlast d List.mem_cons_self
    by_cases hd : d.format = f ∧ d.records ≠ []
    · rw [List.filter_cons_of_pos (by simpa using hd), if_pos ⟨hd.2, hne, hd.1⟩, List.length_cons,
        Nat.add_comm]
    · rw [List.filter_cons_of_neg (by simpa using hd), if_neg fun h => hd ⟨h.2.2, h.1⟩,
        Nat.zero_add]

/-! ### The counters of a pipeline -/

/-- The sequence number of the last accounted record. -/
def lastIndication (pipeline : OutputPipeline) : Option UInt64 :=
  if pipeline.lastIndicationPresent then some pipeline.lastIndicationSequence else none

structure SameFormats (p q : OutputPipeline) : Prop where
  format1 : q.prometheus.indicationsFormat1Total = p.prometheus.indicationsFormat1Total
  format3 : q.prometheus.indicationsFormat3Total = p.prometheus.indicationsFormat3Total
  last : lastIndication q = lastIndication p

theorem SameFormats.refl (p : OutputPipeline) : SameFormats p p := ⟨rfl, rfl, rfl⟩

theorem SameFormats.trans {p q r : OutputPipeline} (h : SameFormats p q) (h' : SameFormats q r) :
    SameFormats p r :=
  ⟨h'.format1.trans h.format1, h'.format3.trans h.format3, h'.last.trans h.last⟩

section
variable (pipeline : OutputPipeline) (record : CanonicalRecord)

theorem accountIndication_formats :
    (accountIndication pipeline record).prometheus.indicationsFormat1Total =
      pipeline.prometheus.indicationsFormat1Total +
        UInt64.ofNat (indicationRuns 1 (lastIndication pipeline) [record]) ∧
    (accountIndication pipeline record).prometheus.indicationsFormat3Total =
      pipeline.prometheus.indicationsFormat3Total +
        UInt64.ofNat (indicationRuns 3 (lastIndication pipeline) [record]) ∧
    lastIndication (accountIndication pipeline record) = some record.indicationSequence := by
  have hnew : (!pipeline.lastIndicationPresent ∨
      pipeline.lastIndicationSequence ≠ record.indicationSequence) ↔
      lastIndication pipeline ≠ some record.indicationSequence := by
    unfold lastIndication
    cases pipeline.lastIndicationPresent <;> simp
  unfold accountIndication
  by_cases h : lastIndication pipeline ≠ some record.indicationSequence
  · rw [if_pos (hnew.mpr h)]
    simp only [indicationRuns, h, true_and, ne_eq, not_false_eq_true]
    by_cases h1 : record.messageFormat = 1
    · simp [h1, lastIndication]
    · by_cases h3 : record.messageFormat = 3 <;> simp [h1, h3, lastIndication]
  · rw [if_neg (mt hnew.mp h)]
    simp only [indicationRuns, h, false_and, if_false]
    exact ⟨(UInt64.add_zero _).symm, (UInt64.add_zero _).symm, not_not.mp h⟩

theorem sameFormats_record :
    SameFormats (accountIndication pipeline record) (accountRecord pipeline record) := by
  unfold accountRecord
  refine ⟨?_, ?_, rfl⟩
  · simp only [accountKind]
    repeat' split
    all_goals rfl
  · simp only [accountKind]
    repeat' split
    all_goals rfl

theorem sameFormats_fileResult (backend : OutputBackend) (result : FileSinkResult) :
    SameFormats pipeline (accountFileResult pipeline backend result) := by
  unfold accountFileResult
  split <;> exact ⟨rfl, rfl, rfl⟩

theorem sameFormats_results (csvResult jsonlResult : FileSinkResult) :
    SameFormats (accountIndication pipeline record)
      (accountResults pipeline record csvResult jsonlResult) := by
  apply (sameFormats_record pipeline record).trans
  unfold accountResults
  simp only
  split <;> split
  · exact (sameFormats_fileResult _ _ _).trans (sameFormats_fileResult _ _ _)
  · exact sameFormats_fileResult _ _ _
  · exact sameFormats_fileResult _ _ _
  · exact .refl _

theorem sameFormats_close (backend : OutputBackend) (result : FileSinkResult) :
    SameFormats pipeline (accountClose pipeline backend result) := by
  unfold accountClose
  split <;> exact ⟨rfl, rfl, rfl⟩

theorem sameFormats_prometheus (outcome : PrometheusOutcome) :
    SameFormats pipeline (accountPrometheusOutcome pipeline outcome) := by
  cases outcome <;> exact ⟨rfl, rfl, rfl⟩

end

/-- Every step leaves the counters alone or counts the record that it accounts. -/
inductive FormatStep (s s' : System) (es : List Event) : Prop
  | same : SameFormats s.pipeline s'.pipeline → accounted es = [] → FormatStep s s' es
  | count (record : CanonicalRecord) :
      SameFormats (accountIndication s.pipeline record) s'.pipeline → accounted es = [record] →
      FormatStep s s' es

variable {s s' : System} {a : Action} {es : List Event}

theorem formatStep_account {now : UInt64} (h : stepAccount s now = some (s', es)) :
    FormatStep s s' es := by
  unfold stepAccount at h
  split at h
  · next record csvResult jsonlResult _ =>
    split at h
    · cases h
    simp only at h
    split at h
    · obtain ⟨rfl, rfl⟩ := Prod.mk.inj (Option.some.inj h)
      exact .count record (sameFormats_results _ _ _ _) rfl
    · obtain ⟨rfl, rfl⟩ := Prod.mk.inj (Option.some.inj h)
      exact .count record (sameFormats_results _ _ _ _) rfl
  · cases h

theorem formatStep (h : pipelineMachine s a = some (s', es)) : FormatStep s s' es := by
  unfold pipelineMachine at h
  split at h
  · cases h
  cases a with
  | account now => exact formatStep_account h
  | accountPrometheus =>
    simp only [stepLive, stepAccountPrometheus] at h
    repeat' split at h
    all_goals
      first
      | cases h
        exact .same (sameFormats_prometheus _ _) rfl
      | cases h
  | accountCsv | accountJsonl =>
    simp only [stepLive, stepAccountCsv, stepAccountJsonl] at h
    repeat' split at h
    all_goals
      first
      | cases h
        exact .same (sameFormats_close _ _ _) rfl
      | cases h
  | submit | countDrop | markFailed | dequeue | writeCsv | writeJsonl | writePrometheus
  | clearBusy | waitIdle | setRuntimeCounters | snapshotLock | snapshotDropped
  | snapshotCompose | stop | join | closeCsv | closeJsonl | composeFinal | writeFinal
  | checkDropped | checkFailed =>
    -- no counter of indications is touched
    simp only [stepLive, stepSubmit, stepCountDrop, stepMarkFailed, stepDequeue, stepWriteCsv,
      stepWriteJsonl, stepWritePrometheus, stepClearBusy, stepWaitIdle,
      stepSetRuntimeCounters, stepSnapshotLock, stepSnapshotDropped, stepSnapshotCompose,
      stepStop, stepJoin, stepCloseCsv, stepCloseJsonl,
      stepComposeFinal, stepWriteFinal, stepCheckDropped, stepCheckFailed] at h
    repeat' split at h
    all_goals
      first
      | cases h
        exact .same ⟨rfl, rfl, rfl⟩ rfl
      | cases h
      | obtain ⟨_, -, h⟩ := Option.bind_eq_some_iff.mp h
        cases h
        exact .same ⟨rfl, rfl, rfl⟩ rfl

/-- What the counters say after every run with the trace `tr`. -/
structure FormatInv (tr : List Event) (s : System) : Prop where
  last : lastIndication s.pipeline = lastSequence none (accounted tr)
  format1 : s.pipeline.prometheus.indicationsFormat1Total =
    UInt64.ofNat (indicationRuns 1 none (accounted tr))
  format3 : s.pipeline.prometheus.indicationsFormat3Total =
    UInt64.ofNat (indicationRuns 3 none (accounted tr))

theorem FormatInv.step {tr : List Event} (hi : FormatInv tr s)
    (h : pipelineMachine s a = some (s', es)) : FormatInv (tr ++ es) s' := by
  cases formatStep h with
  | same hsame hnone =>
    constructor
    · rw [hsame.last, hi.last, accounted_append, hnone, List.append_nil]
    · rw [hsame.format1, hi.format1, accounted_append, hnone, List.append_nil]
    · rw [hsame.format3, hi.format3, accounted_append, hnone, List.append_nil]
  | count record hsame hone =>
    obtain ⟨h1, h3, hlast⟩ := accountIndication_formats s.pipeline record
    constructor
    · rw [hsame.last, hlast, accounted_append, hone, lastSequence_append]
      rfl
    · rw [hsame.format1, h1, hi.format1, hi.last, accounted_append, hone, indicationRuns_append,
        UInt64.ofNat_add]
    · rw [hsame.format3, h3, hi.format3, hi.last, accounted_append, hone, indicationRuns_append,
        UInt64.ofNat_add]

theorem FormatInv.of_run {config : Option OutputPipelineConfig} {outcome : CreateOutcome}
    {pipeline : OutputPipeline} (hc : outputPipelineCreate config outcome = .ok (some pipeline))
    {tr : List Event} {s : System}
    (h : Machine.Run pipelineMachine (System.start pipeline) tr s) : FormatInv tr s := by
  obtain ⟨_, -, -, -, hp⟩ := outputPipelineCreate_some hc
  refine h.invariant ?_ fun hi hs => hi.step hs
  rw [hp]
  exact ⟨rfl, rfl, rfl⟩

/-! ### Where a record comes from -/

theorem canonicalImage_origin (record : MeasurementRecord) :
    (canonicalImage record).indicationSequence = record.indication.indicationSequence ∧
    (canonicalImage record).messageFormat = record.indication.messageFormatRaw := by
  unfold canonicalImage
  simp only
  split
  · unfold copyMeasurement copyMeasuredName
    cases record.descriptor.type <;> cases record.value <;> exact ⟨rfl, rfl⟩
  · exact ⟨rfl, rfl⟩

theorem indication_of_mem_processFormat1 {indication : IndicationContext} {ueReportIndex : UInt32}
    {ueSource : Option UeIdE2sm} {message : IndMsgFormat1} {record : MeasurementRecord}
    (h : record ∈ (processFormat1 indication ueReportIndex ueSource message).records) :
    record.indication = indication := by
  unfold processFormat1 at h
  split at h
  · cases h
  · obtain ⟨⟨data, dataIndex⟩, -, hrow⟩ := List.mem_flatMap.mp h
    simp only [processRow] at hrow
    split at hrow
    · rw [List.mem_singleton.mp hrow]
      rfl
    · obtain ⟨index, -, rfl⟩ := List.mem_map.mp hrow
      rfl

theorem origin_of_mem_processMessage {indication : IndicationContext} {msg : IndMsg}
    {record : MeasurementRecord} (h : record ∈ (processMessage indication msg).records) :
    record.indication.indicationSequence = indication.indicationSequence ∧
    record.indication.messageFormatRaw = indication.messageFormatRaw := by
  cases msg with
  | format1 message =>
    rw [indication_of_mem_processFormat1 h]
    exact ⟨rfl, rfl⟩
  | format3 reports =>
    simp only [processMessage] at h
    split at h
    · cases h
    · obtain ⟨processed, hmem, hrecord⟩ := List.mem_flatMap.mp h
      obtain ⟨⟨report, ueIndex⟩, -, rfl⟩ := List.mem_map.mp hmem
      rw [indication_of_mem_processFormat1 hrecord]
      exact ⟨rfl, rfl⟩
  | other type =>
    rw [List.mem_singleton.mp h]
    exact ⟨rfl, rfl⟩

/-- The records of a delivery carry the number and the format it is announced with. -/
theorem deliver_cases (context : CallbackContext) (rd : Option AgentRead)
    (e2Node : Option GlobalE2NodeId) (clock : Option Int64) :
    (deliveredEvents context rd e2Node = [] ∧
      (flexricCallback context rd e2Node clock).2 = [] ∧
      (flexricCallback context rd e2Node clock).1.nextIndicationSequence =
        context.nextIndicationSequence) ∨
    ∃ format,
      deliveredEvents context rd e2Node =
        [.delivered (context.nextIndicationSequence + 1) format] ∧
      (flexricCallback context rd e2Node clock).1.nextIndicationSequence =
        context.nextIndicationSequence + 1 ∧
      ∀ record ∈ (flexricCallback context rd e2Node clock).2,
        record.indication.indicationSequence = context.nextIndicationSequence + 1 ∧
        record.indication.messageFormatRaw = format := by
  match rd, e2Node with
  | some (.kpmIndication kpm), some node =>
    exact .inr ⟨kpm.msg.type, rfl, rfl, fun record h => origin_of_mem_processMessage h⟩
  | some (.kpmIndication kpm), none => exact .inl ⟨rfl, rfl, rfl⟩
  | some .other, some node => exact .inl ⟨rfl, rfl, rfl⟩
  | some .other, none => exact .inl ⟨rfl, rfl, rfl⟩
  | none, some node => exact .inl ⟨rfl, rfl, rfl⟩
  | none, none => exact .inl ⟨rfl, rfl, rfl⟩

/-- What holds after every run with the trace `tr` from a context that has counted up to `first`. -/
structure DeliveryInv (first : UInt64) (tr : List CallbackEvent) (c : CallbackState) : Prop where
  order : Collector.accepted (pipelineEvents tr) =
    (deliveries tr).reverse.flatMap Delivery.records
  origin : ∀ d ∈ deliveries tr, ∀ record ∈ d.records,
    record.indicationSequence = d.sequence ∧ record.messageFormat = d.format
  sequences : (deliveries tr).reverse.map Delivery.sequence =
    (List.range (deliveries tr).length).map fun k => first + UInt64.ofNat (k + 1)
  next : c.context.nextIndicationSequence = first + UInt64.ofNat (deliveries tr).length
  pending : ∀ record ∈ c.pending, ∃ d before, deliveries tr = d :: before ∧
    record.indication.indicationSequence = d.sequence ∧
    record.indication.messageFormatRaw = d.format

theorem DeliveryInv.deliver {first : UInt64} {tr : List CallbackEvent} {c c' : CallbackState}
    (hi : DeliveryInv first tr c) {rd : Option AgentRead} {e2Node : Option GlobalE2NodeId}
    {clock : Option Int64} (hcontext : c'.context = (flexricCallback c.context rd e2Node clock).1)
    (hpending : c'.pending = (flexricCallback c.context rd e2Node clock).2) :
    DeliveryInv first (tr ++ deliveredEvents c.context rd e2Node) c' := by
  rcases deliver_cases c.context rd e2Node clock with
    ⟨hes, hrecords, hnext⟩ | ⟨format, hes, hnext, horigin⟩
  · rw [hes, List.append_nil]
    refine ⟨hi.order, hi.origin, hi.sequences, by rw [hcontext, hnext, hi.next], ?_⟩
    intro record hrecord
    rw [hpending, hrecords] at hrecord
    cases hrecord
  · have hdeliveries : deliveries (tr ++ [.delivered (c.context.nextIndicationSequence + 1) format]) =
        ⟨c.context.nextIndicationSequence + 1, format, []⟩ :: deliveries tr := by
      rw [deliveries_append]
      rfl
    have hlast : c.context.nextIndicationSequence + 1 =
        first + UInt64.ofNat ((deliveries tr).length + 1) := by
      rw [hi.next, UInt64.ofNat_add]
      ac_rfl
    rw [hes]
    constructor
    · rw [pipelineEvents_append, accepted_append, hdeliveries, List.reverse_cons,
        List.flatMap_append, ← hi.order]
      rfl
    · rw [hdeliveries]
      intro d hd record hrecord
      rcases List.mem_cons.mp hd with rfl | hd
      · cases hrecord
      · exact hi.origin d hd record hrecord
    · rw [hdeliveries, List.reverse_cons, List.map_append, hi.sequences, List.length_cons,
        List.range_succ, List.map_append, List.map_singleton, List.map_singleton, hlast]
    · rw [hcontext, hnext, hdeliveries, List.length_cons, hlast]
    · intro record hrecord
      rw [hpending] at hrecord
      exact ⟨_, _, hdeliveries, horigin record hrecord⟩

theorem DeliveryInv.accept {first : UInt64} {tr : List CallbackEvent} {c c' : CallbackState}
    (hi : DeliveryInv first tr c) {events : List Event} {record : MeasurementRecord}
    (hrecord : record ∈ c.pending)
    (haccepted : Collector.accepted events = [canonicalImage record])
    (hcontext : c'.context = c.context) (hpending : ∀ r ∈ c'.pending, r ∈ c.pending) :
    DeliveryInv first (tr ++ events.map .pipeline) c' := by
  obtain ⟨d, before, hd, hsequence, hformat⟩ := hi.pending record hrecord
  obtain ⟨himage, hraw⟩ := canonicalImage_origin record
  have hdeliveries : deliveries (tr ++ events.map .pipeline) =
      { d with records := d.records ++ [canonicalImage record] } :: before := by
    rw [deliveries_append, deliveriesFrom_pipeline, haccepted, hd, addAccepted]
  have horder := hi.order
  have hsequences := hi.sequences
  have horigin := hi.origin
  have hnext := hi.next
  simp only [hd, List.reverse_cons, List.flatMap_append, List.flatMap_singleton, List.map_append,
    List.map_singleton, List.length_cons] at horder hsequences hnext
  constructor
  · rw [pipelineEvents_append, pipelineEvents_map, accepted_append, haccepted, horder, hdeliveries]
    simp only [List.reverse_cons, List.flatMap_append, List.flatMap_singleton, List.append_assoc]
  · rw [hdeliveries]
    intro e he r hr
    rcases List.mem_cons.mp he with rfl | he
    · rcases List.mem_append.mp hr with hr | hr
      · exact horigin d (hd ▸ List.mem_cons_self) r hr
      · rw [List.mem_singleton.mp hr]
        exact ⟨himage.trans hsequence, hraw.trans hformat⟩
    · exact horigin e (hd ▸ List.mem_cons_of_mem _ he) r hr
  · rw [hdeliveries]
    simpa only [List.reverse_cons, List.map_append, List.map_singleton, List.length_cons] using
      hsequences
  · rw [hcontext, hdeliveries]
    exact hnext
  · intro r hr
    obtain ⟨d', before', hd', hr'⟩ := hi.pending r (hpending r hr)
    obtain ⟨rfl, -⟩ := List.cons.inj (hd.symm.trans hd')
    exact ⟨_, _, hdeliveries, hr'⟩

theorem DeliveryInv.quiet {first : UInt64} {tr : List CallbackEvent} {c c' : CallbackState}
    (hi : DeliveryInv first tr c) {events : List Event}
    (haccepted : Collector.accepted events = []) (hcontext : c'.context = c.context)
    (hpending : ∀ r ∈ c'.pending, r ∈ c.pending) :
    DeliveryInv first (tr ++ events.map .pipeline) c' := by
  have hdeliveries : deliveries (tr ++ events.map .pipeline) = deliveries tr := by
    rw [deliveries_append, deliveriesFrom_pipeline, haccepted, addAccepted_nil]
  constructor
  · rw [pipelineEvents_append, pipelineEvents_map, accepted_append, haccepted, List.append_nil,
      hdeliveries, hi.order]
  · rw [hdeliveries]
    exact hi.origin
  · rw [hdeliveries]
    exact hi.sequences
  · rw [hcontext, hdeliveries]
    exact hi.next
  · intro r hr
    rw [hdeliveries]
    exact hi.pending r (hpending r hr)

theorem DeliveryInv.step {first : UInt64} {tr : List CallbackEvent} {c c' : CallbackState}
    {a : CallbackAction} {es : List CallbackEvent} (hi : DeliveryInv first tr c)
    (h : callbackMachine c a = some (c', es)) : DeliveryInv first (tr ++ es) c' := by
  cases callbackStep h with
  | deliver rd e2Node clock _ hcontext hpending _ hes =>
    rw [hes]
    exact hi.deliver hcontext hpending
  | submit record contended events hpending hcontext hs hes =>
    have hrest : ∀ r ∈ c'.pending, r ∈ c.pending := by
      intro r hr
      rw [hpending]
      exact List.mem_cons_of_mem _ hr
    rw [hes]
    rcases accepted_step hs with hnone | ⟨thread, image, contended', hsubmit, hone⟩
    · exact hi.quiet hnone hcontext hrest
    · injection hsubmit with _ himage _
      rw [← Option.some.inj himage] at hone
      exact hi.accept (hpending ▸ List.mem_cons_self) hone hcontext hrest
  | pipeline action events hsubmit hpending hcontext hs hes =>
    rw [hes]
    apply hi.quiet _ hcontext fun r hr => hpending ▸ hr
    rcases accepted_step hs with hnone | ⟨thread, record, contended, rfl, -⟩
    · exact hnone
    · cases hsubmit

theorem DeliveryInv.of_run {context : CallbackContext} {pipeline : OutputPipeline}
    {tr : List CallbackEvent} {c : CallbackState}
    (h : Machine.Run callbackMachine (CallbackState.start context pipeline) tr c) :
    DeliveryInv context.nextIndicationSequence tr c := by
  refine h.invariant ⟨rfl, fun d hd => ?_, rfl, ?_, fun r hr => ?_⟩ fun hi hs => hi.step hs
  · cases hd
  · exact (UInt64.add_zero _).symm
  · cases hr

theorem DeliveryInv.nodup {first : UInt64} {tr : List CallbackEvent} {c : CallbackState}
    (hi : DeliveryInv first tr c) (hcount : (deliveries tr).length < 2 ^ 64) :
    ((deliveries tr).reverse.map Delivery.sequence).Nodup := by
  rw [hi.sequences]
  apply List.Nodup.map_on _ List.nodup_range
  intro i hmem j hmem' heq
  have hi' := List.mem_range.mp hmem
  have hj' := List.mem_range.mp hmem'
  have hnat : (i + 1) % 2 ^ 64 = (j + 1) % 2 ^ 64 := by
    have hsame : UInt64.ofNat (i + 1) = UInt64.ofNat (j + 1) := by
      have h := congrArg (· - first) heq
      simpa [UInt64.add_comm first, UInt64.add_sub_cancel] using h
    simpa [UInt64.toNat_ofNat'] using congrArg UInt64.toNat hsame
  rw [Nat.mod_eq_of_lt (by omega), Nat.mod_eq_of_lt (by omega)] at hnat
  omega

/-! ### The counters of a run -/

/-! FlexRIC's `format_ind_msg_e`. -/

def format1IndicationMessage : UInt32 := 0

def format2IndicationMessage : UInt32 := 1

def format3IndicationMessage : UInt32 := 2

/-- The indications of a raw format of which at least one record was accepted. -/
def yielding (format : UInt32) (tr : List CallbackEvent) : ℕ :=
  ((deliveries tr).filter fun d => d.format = format ∧ d.records ≠ []).length

theorem yielding_lt {format : UInt32} {tr : List CallbackEvent}
    (h : (deliveries tr).length < 2 ^ 64) : yielding format tr < 2 ^ 64 :=
  lt_of_le_of_lt (List.length_filter_le _ _) h

theorem ofNat_inj_of_lt {m n : ℕ} (hm : m < 2 ^ 64) (hn : n < 2 ^ 64) :
    UInt64.ofNat m = UInt64.ofNat n ↔ m = n := by
  constructor
  · intro h
    have hnat := congrArg UInt64.toNat h
    rwa [UInt64.toNat_ofNat', UInt64.toNat_ofNat', Nat.mod_eq_of_lt hm, Nat.mod_eq_of_lt hn] at hnat
  · exact congrArg UInt64.ofNat

section
variable {config : Option OutputPipelineConfig} {outcome : CreateOutcome}
  {pipeline : OutputPipeline}

/-- When everything that was accepted is processed, the counters stand at the numbers of
indications with the raw formats 1 and 3. -/
theorem indication_counters (hc : outputPipelineCreate config outcome = .ok (some pipeline))
    {context : CallbackContext} {tr : List CallbackEvent} {c : CallbackState}
    (h : Machine.Run callbackMachine (CallbackState.start context pipeline) tr c)
    (hcount : (deliveries tr).length < 2 ^ 64)
    (hall : processed (pipelineEvents tr) = Collector.accepted (pipelineEvents tr)) :
    c.system.pipeline.prometheus.indicationsFormat1Total = UInt64.ofNat (yielding 1 tr) ∧
    c.system.pipeline.prometheus.indicationsFormat3Total = UInt64.ofNat (yielding 3 tr) := by
  have hrun := run_of_callback h
  have hi := DeliveryInv.of_run h
  have hformat := FormatInv.of_run hc hrun
  have hqueue := QueueInv.of_run hc hrun
  have haccount := AccountInv.of_run hc hrun
  have haccounted : accounted (pipelineEvents tr) = Collector.accepted (pipelineEvents tr) := by
    have horder := hqueue.order
    rw [← hqueue.progress, hall, List.append_assoc] at horder
    have hnone := List.append_eq_nil_iff.mp (List.append_cancel_left (horder.trans
      (List.append_nil _).symm))
    have hsettled : c.system.worker.unaccounted = [] := unaccounted_of_current hnone.1
    rw [← hqueue.order, hnone.2, List.append_nil, haccount.order, hsettled, List.append_nil]
  have hruns (f : UInt32) : indicationRuns f none (accounted (pipelineEvents tr)) =
      yielding f tr := by
    rw [haccounted, hi.order, indicationRuns_deliveries f (fun d hd => hi.origin d
      (List.mem_reverse.mp hd)) (hi.nodup hcount) (fun _ _ => Option.some_ne_none _ |>.symm),
      List.filter_reverse, List.length_reverse, yielding]
  rw [hformat.format1, hformat.format3, hruns, hruns]
  exact ⟨rfl, rfl⟩

/-- With FlexRIC's numbers the counters are right exactly when as many indications of format 2 as
of format 1 were taken up and none of format 3. -/
theorem indication_counters_iff (hc : outputPipelineCreate config outcome = .ok (some pipeline))
    {context : CallbackContext} {tr : List CallbackEvent} {c : CallbackState}
    (h : Machine.Run callbackMachine (CallbackState.start context pipeline) tr c)
    (hcount : (deliveries tr).length < 2 ^ 64)
    (hnumbers : ∀ d ∈ deliveries tr, d.format = format1IndicationMessage ∨
      d.format = format2IndicationMessage ∨ d.format = format3IndicationMessage)
    (hall : processed (pipelineEvents tr) = Collector.accepted (pipelineEvents tr)) :
    (c.system.pipeline.prometheus.indicationsFormat1Total =
        UInt64.ofNat (yielding format1IndicationMessage tr) ∧
      c.system.pipeline.prometheus.indicationsFormat3Total =
        UInt64.ofNat (yielding format3IndicationMessage tr)) ↔
    yielding format2IndicationMessage tr = yielding format1IndicationMessage tr ∧
      yielding format3IndicationMessage tr = 0 := by
  obtain ⟨h1, h3⟩ := indication_counters hc h hcount hall
  have hnone : yielding 3 tr = 0 := by
    rw [yielding, List.length_eq_zero_iff, List.filter_eq_nil_iff]
    intro d hd hformat
    have heq : d.format = 3 := (of_decide_eq_true hformat).1
    rcases hnumbers d hd with h | h | h
    · exact absurd (heq.symm.trans h) (by decide)
    · exact absurd (heq.symm.trans h) (by decide)
    · exact absurd (heq.symm.trans h) (by decide)
  rw [h1, h3, hnone, ofNat_inj_of_lt (yielding_lt hcount) (yielding_lt hcount),
    ofNat_inj_of_lt (by norm_num) (yielding_lt hcount), eq_comm (a := 0)]
  exact Iff.rfl

end

/-- One format 1 indication with one integer, taken up and processed. -/
def singleIndicationScript : List CallbackAction :=
  [.deliver (some (singlePair (.name (.ofList (bytes "DRB.UEThpDl"))) (.integer 5)))
      (some { type := 2, nbId := 3584, cuDuId := none }) (some 1000),
    .submitNext false, .pipeline .dequeue, .pipeline (.writeCsv ⟨none, true⟩),
    .pipeline (.writeJsonl ⟨none, true⟩), .pipeline (.account 7),
    .pipeline (.writePrometheus .ok), .pipeline .accountPrometheus, .pipeline .clearBusy]

theorem singleIndication_run : ∃ tr c,
    Machine.exec callbackMachine (CallbackState.start freshContext prometheusPipeline)
      singleIndicationScript = some (tr, c) ∧
    (deliveries tr).map Delivery.format = [format1IndicationMessage] ∧
    processed (pipelineEvents tr) = Collector.accepted (pipelineEvents tr) ∧
    yielding format1IndicationMessage tr = 1 ∧
    c.system.pipeline.prometheus.indicationsFormat1Total = 0 := by
  have hcreate : outputPipelineCreate (some prometheusConfig) allSucceed =
      .ok (some prometheusPipeline) := rfl
  have heval : (Machine.exec callbackMachine (CallbackState.start freshContext prometheusPipeline)
      singleIndicationScript).map (fun r => decide (
        (deliveries r.1).map Delivery.format = [format1IndicationMessage] ∧
        r.2.system.pipeline.queue.count = 0 ∧ r.2.system.pipeline.workerBusy = false ∧
        yielding format1IndicationMessage r.1 = 1 ∧
        r.2.system.pipeline.prometheus.indicationsFormat1Total = 0)) = some true := by
    decide +kernel
  obtain ⟨⟨tr, c⟩, hexec, hall⟩ := Option.map_eq_some_iff.mp heval
  obtain ⟨hformats, hcount, hbusy, hone, hzero⟩ := of_decide_eq_true hall
  have hqueue := QueueInv.of_run hcreate (run_of_callback (Machine.run_of_exec hexec))
  exact ⟨tr, c, hexec, hformats, hqueue.processed_of_idle hcount (.inl hbusy), hone, hzero⟩

theorem singleIndication_numbers {tr : List CallbackEvent}
    (h : (deliveries tr).map Delivery.format = [format1IndicationMessage]) :
    ∀ d ∈ deliveries tr, d.format = format1IndicationMessage ∨
      d.format = format2IndicationMessage ∨ d.format = format3IndicationMessage := by
  intro d hd
  have hmem := List.mem_map_of_mem (f := Delivery.format) hd
  rw [h] at hmem
  exact .inl (List.mem_singleton.mp hmem)

theorem indication_counters_iff_sample : ∃ tr c,
    Machine.exec callbackMachine (CallbackState.start freshContext prometheusPipeline)
      singleIndicationScript = some (tr, c) ∧
    ((c.system.pipeline.prometheus.indicationsFormat1Total =
        UInt64.ofNat (yielding format1IndicationMessage tr) ∧
      c.system.pipeline.prometheus.indicationsFormat3Total =
        UInt64.ofNat (yielding format3IndicationMessage tr)) ↔
    yielding format2IndicationMessage tr = yielding format1IndicationMessage tr ∧
      yielding format3IndicationMessage tr = 0) := by
  have hcreate : outputPipelineCreate (some prometheusConfig) allSucceed =
      .ok (some prometheusPipeline) := rfl
  obtain ⟨tr, c, hexec, hformats, hall, -, -⟩ := singleIndication_run
  have hlength : (deliveries tr).length = 1 := by
    rw [← List.length_map (f := Delivery.format), hformats]
    rfl
  refine ⟨tr, c, hexec, indication_counters_iff hcreate (Machine.run_of_exec hexec) ?_
    (singleIndication_numbers hformats) hall⟩
  rw [hlength]
  norm_num

/-- The counter of format 1 stays at zero behind an indication of format 1. -/
theorem format1_not_counted : ¬ ∀ (config : Option OutputPipelineConfig) (outcome : CreateOutcome)
    (pipeline : OutputPipeline) (context : CallbackContext) (tr : List CallbackEvent)
    (c : CallbackState), outputPipelineCreate config outcome = .ok (some pipeline) →
    Machine.Run callbackMachine (CallbackState.start context pipeline) tr c →
    (∀ d ∈ deliveries tr, d.format = format1IndicationMessage ∨
      d.format = format2IndicationMessage ∨ d.format = format3IndicationMessage) →
    processed (pipelineEvents tr) = Collector.accepted (pipelineEvents tr) →
    c.system.pipeline.prometheus.indicationsFormat1Total =
      UInt64.ofNat (yielding format1IndicationMessage tr) ∧
    c.system.pipeline.prometheus.indicationsFormat3Total =
      UInt64.ofNat (yielding format3IndicationMessage tr) := by
  intro h
  obtain ⟨tr, c, hexec, hformats, hall, hone, hzero⟩ := singleIndication_run
  have hnumbers := singleIndication_numbers hformats
  have hcounted := (h (some prometheusConfig) allSucceed prometheusPipeline freshContext tr c rfl
    (Machine.run_of_exec hexec) hnumbers hall).1
  rw [hone, hzero] at hcounted
  exact absurd hcounted (by decide)

end TcdOran.Collector
