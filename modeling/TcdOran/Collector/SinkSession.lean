import TcdOran.Collector.FileSink

/-! The file sink over sequences of calls. A session is what follows a successful open, up to
the next open call that resets the closed sink. -/
namespace TcdOran.Collector
open TcdOran.Lib

/-- The calls on a sink with the answers of stdio. A short `fwrite` takes `count` bytes. -/
inductive SinkCall
  | open (format : FileSinkFormat) (path : Option (List UInt8)) (opens : Bool) (count : Option ℕ)
      (flushes : Bool)
  | write (record : Option CanonicalRecord) (count : Option ℕ) (flushes : Bool)
  | close (outcome : CloseOutcome)

def stdioOutcome (data : List UInt8) (count : Option ℕ) (flushes : Bool) : WriteOutcome :=
  ⟨count.map fun n => data.take n, flushes⟩

def serialization (format : FileSinkFormat) (record : CanonicalRecord) : List UInt8 :=
  (fileSinkSerialize format record).written

def sinkStep (sink : FileSink) : SinkCall → FileSinkResult × FileSink
  | .open format (some path) opens count flushes =>
      let header := (serializeCsvHeader serializeBuffer).written
      fileSinkOpen sink format path ⟨opens, stdioOutcome header count flushes⟩
  | .open _ none _ _ _ => (.invalidArgument, sink)
  | .write (some record) count flushes =>
      fileSinkWrite sink record (stdioOutcome (serialization sink.format record) count flushes)
  | .write none _ _ => (.invalidArgument, sink)
  | .close outcome => fileSinkClose sink outcome

/-- The bytes the stream has taken in the call. A call that opens starts an empty file. -/
def handedBytes (sink : FileSink) (call : SinkCall) : List UInt8 :=
  let r := sinkStep sink call
  match call with
  | .open _ _ _ _ _ => if r.1 ∈ [.ok, .writeFailed, .flushFailed] then r.2.file else []
  | .write _ _ _ | .close _ => r.2.file.drop sink.file.length

structure SinkEvent where
  call : SinkCall
  result : FileSinkResult
  handed : List UInt8

def sinkEvent (sink : FileSink) (call : SinkCall) : SinkEvent :=
  ⟨call, (sinkStep sink call).1, handedBytes sink call⟩

def sinkRun (sink : FileSink) : List SinkCall → List SinkEvent × FileSink
  | [] => ([], sink)
  | call :: calls =>
      let rest := sinkRun (sinkStep sink call).2 calls
      (sinkEvent sink call :: rest.1, rest.2)

/-! ### Reading a session -/

/-- An open call that gets past its first checks and resets the sink. -/
def SinkEvent.resets (e : SinkEvent) : Bool :=
  match e.call with
  | .open format (some _) _ _ _ => validFormat format && !decide (e.result = .alreadyOpen)
  | _ => false

/-- The operation failed. A refused call (INVALID_ARGUMENT, ALREADY_OPEN, FAILED) does not
count. -/
def SinkEvent.fails (e : SinkEvent) : Bool :=
  e.result ∈ [.serializeFailed, .writeFailed, .flushFailed, .closeFailed]

def SinkEvent.closes (e : SinkEvent) : Bool :=
  match e.call with
  | .close _ => !decide (e.result = .invalidArgument)
  | _ => false

/-- The record of a write that returned OK. -/
def SinkEvent.written? (e : SinkEvent) : Option CanonicalRecord :=
  match e.call with
  | .write record _ _ => if e.result = .ok then record else none
  | _ => none

/-- The record of a write that failed in `fwrite` or `fflush`. -/
def SinkEvent.torn? (e : SinkEvent) : Option CanonicalRecord :=
  match e.call with
  | .write record _ _ => if e.result ∈ [.writeFailed, .flushFailed] then record else none
  | _ => none

def writtenRecords (es : List SinkEvent) : List CanonicalRecord :=
  es.filterMap SinkEvent.written?

def handed (es : List SinkEvent) : List UInt8 := es.flatMap SinkEvent.handed

/-- What the first failed write may have left a part of. -/
def tornLine (format : FileSinkFormat) (es : List SinkEvent) : List UInt8 :=
  match es.findSome? SinkEvent.torn? with
  | some record => serialization format record
  | none => []

/-! ### The invariant of a session -/

/-- What holds behind the events `es` of a session. -/
structure SessionInv (format : FileSinkFormat) (es : List SinkEvent) (sink : FileSink) : Prop where
  stream : sink.stream = sink.isOpen
  isOpen : sink.isOpen = !es.any SinkEvent.closes
  failed : sink.failed = es.any SinkEvent.fails
  hasFormat : sink.format = format
  valid : validFormat format = true
  recordsWritten : sink.recordsWritten = UInt64.ofNat (writtenRecords es).length
  handed : sink.file = filePrefix format ++ handed es
  file : ∃ torn, sink.file =
      filePrefix format ++ (writtenRecords es).flatMap (serialization format) ++ torn ∧
    torn <+: tornLine format es

section
variable {format : FileSinkFormat} {es : List SinkEvent} {sink : FileSink} {e : SinkEvent}

theorem handed_append : handed (es ++ [e]) = handed es ++ e.handed := by simp [handed]

theorem writtenRecords_append :
    writtenRecords (es ++ [e]) = writtenRecords es ++ e.written?.toList := by
  cases h : e.written? <;> simp [writtenRecords, h]

theorem fails_of_torn {record : CanonicalRecord} (h : e.torn? = some record) : e.fails = true := by
  unfold SinkEvent.torn? at h
  split at h
  · split at h
    · next hresult =>
      rcases List.mem_pair.mp hresult with hresult | hresult <;>
        simp [SinkEvent.fails, hresult]
    · cases h
  · cases h

theorem tornLine_append_of_torn (h : es.findSome? SinkEvent.torn? ≠ none) :
    tornLine format (es ++ [e]) = tornLine format es := by
  obtain ⟨record, hrecord⟩ := Option.ne_none_iff_exists'.mp h
  simp [tornLine, hrecord]

theorem tornLine_append_of_none (h : e.torn? = none) :
    tornLine format (es ++ [e]) = tornLine format es := by
  unfold tornLine
  rw [List.findSome?_append]
  cases es.findSome? SinkEvent.torn? <;> simp [h]

/-- Without a failure there is no torn line. -/
theorem tornLine_of_not_failed (h : es.any SinkEvent.fails = false) :
    es.findSome? SinkEvent.torn? = none := by
  rw [List.findSome?_eq_none_iff]
  intro e he
  cases htorn : e.torn? with
  | none => rfl
  | some record =>
    rw [List.any_eq_false] at h
    exact absurd (fails_of_torn htorn) (h e he)

/-- A call that hands nothing over and leaves the records alone. -/
theorem SessionInv.quiet (hi : SessionInv format es sink) {after : FileSink}
    (hfile : after.file = sink.file) (hformat : after.format = sink.format)
    (hcount : after.recordsWritten = sink.recordsWritten)
    (hstream : after.stream = after.isOpen) (hopen : after.isOpen = (sink.isOpen && !e.closes))
    (hfailed : after.failed = (sink.failed || e.fails)) (hhanded : e.handed = [])
    (hwritten : e.written? = none) (htorn : e.torn? = none) :
    SessionInv format (es ++ [e]) after := by
  have hrecords : writtenRecords (es ++ [e]) = writtenRecords es := by
    rw [writtenRecords_append, hwritten]
    exact List.append_nil _
  constructor
  · exact hstream
  · rw [hopen, hi.isOpen]
    simp
  · rw [hfailed, hi.failed]
    simp
  · exact hformat.trans hi.hasFormat
  · exact hi.valid
  · rw [hcount, hrecords]
    exact hi.recordsWritten
  · rw [hfile, handed_append, hhanded, List.append_nil]
    exact hi.handed
  · rw [hfile, hrecords, tornLine_append_of_none htorn]
    exact hi.file

/-- A refused call leaves the sink as it is. -/
theorem SessionInv.refused (hi : SessionInv format es sink) {call : SinkCall}
    {result : FileSinkResult} (hresult : result ∈ [.invalidArgument, .alreadyOpen, .failed])
    (hcall : ∀ outcome, call = .close outcome → result = .invalidArgument) :
    SessionInv format (es ++ [⟨call, result, []⟩]) sink := by
  have hfails : SinkEvent.fails ⟨call, result, []⟩ = false := by
    revert hresult
    cases result <;> simp [SinkEvent.fails]
  have hok : result ≠ .ok := by
    rintro rfl
    simp at hresult
  refine hi.quiet rfl rfl rfl hi.stream ?_ ?_ rfl ?_ ?_
  · cases call with
    | close outcome => simp [SinkEvent.closes, hcall outcome rfl]
    | «open» | write => simp [SinkEvent.closes]
  · rw [hfails, Bool.or_false]
  · cases call <;> simp [SinkEvent.written?, hok]
  · cases htorn : SinkEvent.torn? ⟨call, result, []⟩ with
    | none => rfl
    | some record => exact absurd (fails_of_torn htorn) (by simp [hfails])

/-- While nothing has failed the file ends with a complete line. -/
theorem SessionInv.complete (hi : SessionInv format es sink) (hf : sink.failed = false) :
    es.findSome? SinkEvent.torn? = none ∧
    sink.file = filePrefix format ++ (writtenRecords es).flatMap (serialization format) := by
  have hnone := tornLine_of_not_failed (hi.failed.symm.trans hf)
  obtain ⟨torn, hfile, hprefix⟩ := hi.file
  rw [tornLine, hnone, List.prefix_nil] at hprefix
  refine ⟨hnone, ?_⟩
  rw [hfile, hprefix, List.append_nil]

/-- A write that returns OK. -/
theorem SessionInv.wrote (hi : SessionInv format es sink) {record : CanonicalRecord}
    {count : Option ℕ} {flushes : Bool} (hf : sink.failed = false) :
    SessionInv format
      (es ++ [⟨.write (some record) count flushes, .ok, serialization format record⟩])
      { sink with
        file := sink.file ++ serialization format record
        recordsWritten := sink.recordsWritten + 1 } := by
  obtain ⟨hnone, hfile⟩ := hi.complete hf
  have hrecords : writtenRecords
      (es ++ [⟨.write (some record) count flushes, .ok, serialization format record⟩]) =
        writtenRecords es ++ [record] := writtenRecords_append
  constructor
  · exact hi.stream
  · simpa [SinkEvent.closes] using hi.isOpen
  · simpa [SinkEvent.fails] using hi.failed
  · exact hi.hasFormat
  · exact hi.valid
  · rw [hrecords, List.length_append, UInt64.ofNat_add, ← hi.recordsWritten]
    rfl
  · rw [handed_append, ← List.append_assoc, ← hi.handed]
  · refine ⟨[], ?_, List.nil_prefix⟩
    rw [hrecords, List.flatMap_append, hfile]
    simp

/-- A write that fails behind its serialization. -/
theorem SessionInv.tore (hi : SessionInv format es sink) {record : CanonicalRecord}
    {count : Option ℕ} {flushes : Bool} {result : FileSinkResult} {part : List UInt8}
    (hf : sink.failed = false) (hresult : result ∈ [.writeFailed, .flushFailed])
    (hpart : part <+: serialization format record) :
    SessionInv format (es ++ [⟨.write (some record) count flushes, result, part⟩])
      (markFailure { sink with file := sink.file ++ part }) := by
  obtain ⟨hnone, hfile⟩ := hi.complete hf
  have htorn : SinkEvent.torn? ⟨.write (some record) count flushes, result, part⟩ =
      some record := if_pos hresult
  have hok : result ≠ .ok := by
    rintro rfl
    simp at hresult
  have hrecords : writtenRecords (es ++ [⟨.write (some record) count flushes, result, part⟩]) =
      writtenRecords es := by
    rw [writtenRecords_append]
    simp [SinkEvent.written?, hok]
  constructor
  · exact hi.stream
  · simpa [SinkEvent.closes, markFailure] using hi.isOpen
  · rw [List.any_append, List.any_cons, fails_of_torn htorn]
    simp [markFailure]
  · exact hi.hasFormat
  · exact hi.valid
  · rw [hrecords]
    exact hi.recordsWritten
  · rw [handed_append, ← List.append_assoc, ← hi.handed]
    rfl
  · refine ⟨part, ?_, ?_⟩
    · rw [hrecords, ← hfile]
      rfl
    · rw [tornLine, List.findSome?_append, hnone]
      simpa [htorn] using hpart

/-! ### One call -/

theorem writeAndFlush_result (sink : FileSink) (data : List UInt8) (outcome : WriteOutcome) :
    (writeAndFlush sink data outcome).1 ∈ [.ok, .writeFailed, .flushFailed] := by
  unfold writeAndFlush
  split
  · simp
  · split <;> simp

/-- A closed sink does not answer ALREADY_OPEN. -/
theorem fileSinkOpen_closed {path : List UInt8} {outcome : OpenOutcome}
    (hvalid : validFormat format = true) (hclosed : (sink.isOpen || sink.stream) = false) :
    (fileSinkOpen sink format path outcome).1 ≠ .alreadyOpen := by
  unfold fileSinkOpen
  rw [if_neg (by simp [hvalid]), if_neg (by simp [hclosed])]
  split
  · simp
  split
  · simp
  simp only
  split
  · split
    · simp
    · split
      · simp
      · next result after _ hwrite =>
        rintro rfl
        have hmem := writeAndFlush_result
          { fileSinkInit with path := path, format := format, stream := true, isOpen := true }
          (serializeCsvHeader serializeBuffer).written outcome.header
        rw [hwrite] at hmem
        simp at hmem
  · simp

/-- Inside a session every open call is refused. -/
theorem sinkOpen_refused {other : FileSinkFormat} {path : Option (List UInt8)} {opens : Bool}
    {count : Option ℕ} {flushes : Bool}
    (hstays : (sinkEvent sink (.open other path opens count flushes)).resets = false) :
    ∃ result ∈ [FileSinkResult.invalidArgument, .alreadyOpen],
      sinkStep sink (.open other path opens count flushes) = (result, sink) := by
  cases path with
  | none => exact ⟨.invalidArgument, by simp, rfl⟩
  | some path =>
    by_cases hvalid : validFormat other = true
    · -- a call on the closed sink would start another session
      have halready : (sinkStep sink (.open other (some path) opens count flushes)).1 =
          .alreadyOpen := by
        have hresets : (validFormat other && !decide ((sinkStep sink
            (.open other (some path) opens count flushes)).1 = .alreadyOpen)) = false := hstays
        simpa [hvalid] using hresets
      have hopen : (sink.isOpen || sink.stream) = true := by
        by_contra hclosed
        exact fileSinkOpen_closed hvalid (by simpa using hclosed) halready
      exact ⟨.alreadyOpen, by simp, by simp [sinkStep, fileSinkOpen, hvalid, hopen]⟩
    · exact ⟨.invalidArgument, by simp, by simp [sinkStep, fileSinkOpen, hvalid]⟩

theorem sinkEvent_open_refused {other : FileSinkFormat} {path : Option (List UInt8)}
    {opens : Bool} {count : Option ℕ} {flushes : Bool} {result : FileSinkResult}
    (hresult : result ∈ [.invalidArgument, .alreadyOpen])
    (hstep : sinkStep sink (.open other path opens count flushes) = (result, sink)) :
    sinkEvent sink (.open other path opens count flushes) =
      ⟨.open other path opens count flushes, result, []⟩ := by
  rw [sinkEvent, handedBytes, hstep]
  rcases List.mem_pair.mp hresult with rfl | rfl <;> simp

theorem SessionInv.open (hi : SessionInv format es sink) {other : FileSinkFormat}
    {path : Option (List UInt8)} {opens : Bool} {count : Option ℕ} {flushes : Bool}
    (hstays : (sinkEvent sink (.open other path opens count flushes)).resets = false) :
    SessionInv format (es ++ [sinkEvent sink (.open other path opens count flushes)])
      (sinkStep sink (.open other path opens count flushes)).2 := by
  obtain ⟨result, hresult, hstep⟩ := sinkOpen_refused hstays
  rw [sinkEvent_open_refused hresult hstep, hstep]
  apply hi.refused _ (by simp)
  rcases List.mem_pair.mp hresult with rfl | rfl <;> simp

/-- A write of a closed or failed sink. -/
theorem SessionInv.write_refused (hi : SessionInv format es sink) {record : CanonicalRecord}
    {count : Option ℕ} {flushes : Bool} (h : sink.isOpen = false ∨ sink.failed = true) :
    sinkStep sink (.write (some record) count flushes) =
      (if sink.isOpen then .failed else .invalidArgument, sink) := by
  by_cases hopen : sink.isOpen = true
  · have hf : sink.failed = true := h.resolve_left (by simp [hopen])
    simp [sinkStep, fileSinkWrite, hopen, hi.stream, hi.hasFormat, hi.valid, hf]
  · simp [sinkStep, fileSinkWrite, hopen]

theorem SessionInv.write (hi : SessionInv format es sink) (record : CanonicalRecord)
    (count : Option ℕ) (flushes : Bool) :
    SessionInv format (es ++ [sinkEvent sink (.write (some record) count flushes)])
      (sinkStep sink (.write (some record) count flushes)).2 := by
  by_cases hrefused : sink.isOpen = false ∨ sink.failed = true
  · rw [sinkEvent, handedBytes, hi.write_refused hrefused]
    simp only [List.drop_length]
    apply hi.refused _ (by simp)
    split <;> simp
  obtain ⟨hopen, hf⟩ := not_or.mp hrefused
  have hopen : sink.isOpen = true := by simpa using hopen
  have hf : sink.failed = false := by simpa using hf
  by_cases hser : (fileSinkSerialize format record).result = .ok
  · have hlines {taken : List UInt8} : (sink.file ++ taken).drop sink.file.length = taken :=
      List.drop_left
    cases count with
    | some n =>
      have hstep : sinkStep sink (.write (some record) (some n) flushes) = (.writeFailed,
          markFailure { sink with file := sink.file ++ (serialization format record).take n }) := by
        simp [sinkStep, fileSinkWrite, stdioOutcome, writeAndFlush, hopen, hi.stream,
          hi.valid, hf, hser, hi.hasFormat]
      rw [sinkEvent, handedBytes, hstep]
      simp only [markFailure, hlines]
      exact hi.tore hf (by simp) (List.take_prefix n _)
    | none =>
      cases flushes with
      | true =>
        have hstep : sinkStep sink (.write (some record) none true) = (.ok,
            { sink with
              file := sink.file ++ serialization format record
              recordsWritten := sink.recordsWritten + 1 }) := by
          simp [sinkStep, fileSinkWrite, stdioOutcome, writeAndFlush, hopen, hi.stream,
            hi.valid, hf, hser, hi.hasFormat, serialization]
        rw [sinkEvent, handedBytes, hstep]
        simp only [hlines]
        exact hi.wrote hf
      | false =>
        have hstep : sinkStep sink (.write (some record) none false) = (.flushFailed,
            markFailure { sink with file := sink.file ++ serialization format record }) := by
          simp [sinkStep, fileSinkWrite, stdioOutcome, writeAndFlush, hopen, hi.stream,
            hi.valid, hf, hser, hi.hasFormat, serialization]
        rw [sinkEvent, handedBytes, hstep]
        simp only [markFailure, hlines]
        exact hi.tore hf (by simp) (List.prefix_refl _)
  · have hstep : sinkStep sink (.write (some record) count flushes) =
        (.serializeFailed, markFailure sink) := by
      simp [sinkStep, fileSinkWrite, hopen, hi.stream, hi.valid, hf, hser, hi.hasFormat]
    rw [sinkEvent, handedBytes, hstep]
    refine hi.quiet rfl rfl rfl hi.stream ?_ ?_ ?_ rfl rfl
    · simp [SinkEvent.closes, markFailure]
    · simp [SinkEvent.fails, markFailure]
    · simp [markFailure]

theorem sinkClose_refused {outcome : CloseOutcome} (hopen : sink.isOpen = false) :
    sinkStep sink (.close outcome) = (.invalidArgument, sink) := by
  simp [sinkStep, fileSinkClose, hopen]

theorem SessionInv.close (hi : SessionInv format es sink) (outcome : CloseOutcome) :
    SessionInv format (es ++ [sinkEvent sink (.close outcome)])
      (sinkStep sink (.close outcome)).2 := by
  cases hopen : sink.isOpen with
  | false =>
    rw [sinkEvent, handedBytes, sinkClose_refused hopen]
    simp only [List.drop_length]
    exact hi.refused (by simp) (by simp)
  | true =>
    obtain ⟨flushes, closes⟩ := outcome
    apply hi.quiet
    all_goals
      cases hf : sink.failed <;> cases flushes <;> cases closes <;>
        simp [sinkEvent, sinkStep, handedBytes, fileSinkClose, hi.stream, hopen, hf, markFailure,
          SinkEvent.closes, SinkEvent.fails, SinkEvent.written?, SinkEvent.torn?]

theorem SessionInv.step (hi : SessionInv format es sink) {call : SinkCall}
    (hstays : (sinkEvent sink call).resets = false) :
    SessionInv format (es ++ [sinkEvent sink call]) (sinkStep sink call).2 := by
  cases call with
  | «open» other path opens count flushes => exact hi.open hstays
  | close outcome => exact hi.close outcome
  | write record count flushes =>
    cases record with
    | some record => exact hi.write record count flushes
    | none =>
      have hevent : sinkEvent sink (.write none count flushes) =
          ⟨.write none count flushes, .invalidArgument, []⟩ := by
        simp [sinkEvent, handedBytes, sinkStep]
      rw [hevent]
      exact hi.refused (by simp) (by simp)

/-- A session keeps its invariant however it goes on. -/
theorem SessionInv.run (hi : SessionInv format es sink) {calls : List SinkCall}
    (hstays : ∀ e ∈ (sinkRun sink calls).1, e.resets = false) :
    SessionInv format (es ++ (sinkRun sink calls).1) (sinkRun sink calls).2 := by
  induction calls generalizing es sink with
  | nil => simpa [sinkRun] using hi
  | cons call calls ih =>
    simp only [sinkRun, List.forall_mem_cons] at hstays ⊢
    have hrest := ih (hi.step hstays.1) hstays.2
    rwa [List.append_assoc, List.singleton_append] at hrest

/-! ### The ends of a session -/

/-- A successful open leaves the header in an empty file. -/
theorem fileSinkOpen_ok {path : List UInt8} {outcome : OpenOutcome} {opened : FileSink}
    (h : fileSinkOpen sink format path outcome = (.ok, opened)) :
    validFormat format = true ∧ opened =
      { fileSinkInit with
        path := path, format := format, stream := true, isOpen := true
        file := filePrefix format } := by
  unfold fileSinkOpen at h
  split at h
  · simp at h
  next hvalid =>
  refine ⟨by simpa using hvalid, ?_⟩
  split at h
  · simp at h
  split at h
  · simp at h
  split at h
  · simp at h
  simp only at h
  split at h
  · next hcsv =>
    subst hcsv
    split at h
    · simp at h
    next hser =>
    have hbytes := serializeCsvHeader_written (not_not.mp hser)
    split at h
    · next after hwrite =>
      have hsucceeds := writeAndFlush_ok.mp (congrArg Prod.fst hwrite)
      rw [writeAndFlush_of_succeeds hsucceeds, hbytes] at hwrite
      rw [← (Prod.mk.inj h).2, ← (Prod.mk.inj hwrite).2]
      rfl
    · next result _ hne _ =>
      obtain ⟨rfl, -⟩ := Prod.mk.inj h
      exact (hne rfl).elim
  · next hcsv =>
    rw [← (Prod.mk.inj h).2]
    cases format with
    | csv => exact absurd rfl hcsv
    | invalid | jsonl => rfl

/-- A successful open starts a session. -/
theorem sinkOpen_starts {path : Option (List UInt8)} {opens : Bool} {count : Option ℕ}
    {flushes : Bool} (hok : (sinkStep sink (.open format path opens count flushes)).1 = .ok) :
    SessionInv format [] (sinkStep sink (.open format path opens count flushes)).2 ∧
    handedBytes sink (.open format path opens count flushes) = filePrefix format := by
  cases path with
  | none => cases hok
  | some path =>
    set after := (sinkStep sink (.open format (some path) opens count flushes)).2 with hafter
    have hstep : sinkStep sink (.open format (some path) opens count flushes) = (.ok, after) :=
      Prod.ext hok rfl
    obtain ⟨hvalid, hopened⟩ := fileSinkOpen_ok hstep
    have hfile : after.file = filePrefix format := by rw [hopened]
    refine ⟨⟨by rw [hopened], by rw [hopened]; rfl, by rw [hopened]; rfl, by rw [hopened], hvalid,
      by rw [hopened]; rfl, ?_, [], ?_, List.nil_prefix⟩, ?_⟩
    · rw [hfile]
      exact (List.append_nil _).symm
    · rw [hfile]
      exact ((List.append_nil _).trans (List.append_nil _)).symm
    · rw [handedBytes, hstep, ← hfile]
      rfl

/-- The stream is set exactly while the sink is open. -/
theorem sinkStep_stream (call : SinkCall) (h : sink.stream = sink.isOpen) :
    (sinkStep sink call).2.stream = (sinkStep sink call).2.isOpen := by
  have hwrite (before : FileSink) (data : List UInt8) (outcome : WriteOutcome)
      (hb : before.stream = before.isOpen) :
      (writeAndFlush before data outcome).2.stream =
        (writeAndFlush before data outcome).2.isOpen := by
    unfold writeAndFlush
    split
    · exact hb
    · split <;> exact hb
  cases call with
  | «open» format path opens count flushes =>
    cases path with
    | none => exact h
    | some path =>
      simp only [sinkStep, fileSinkOpen]
      split
      · exact h
      split
      · exact h
      split
      · rfl
      split
      · rfl
      split
      · split
        · rfl
        · split
          · next after hdone =>
            have hsame := hwrite
              { fileSinkInit with path := path, format := format, stream := true, isOpen := true }
              (serializeCsvHeader serializeBuffer).written
              (stdioOutcome (serializeCsvHeader serializeBuffer).written count flushes) rfl
            rwa [hdone] at hsame
          · rfl
      · rfl
  | write record count flushes =>
    cases record with
    | none => exact h
    | some record =>
      simp only [sinkStep, fileSinkWrite]
      split
      · exact h
      split
      · exact h
      split
      · exact h
      split
      · next after hdone =>
        have hsame := hwrite sink (fileSinkSerialize sink.format record).written
          (stdioOutcome (serialization sink.format record) count flushes) h
        rwa [hdone] at hsame
      · next after _ hdone =>
        have hsame := hwrite sink (fileSinkSerialize sink.format record).written
          (stdioOutcome (serialization sink.format record) count flushes) h
        rwa [hdone] at hsame
  | close outcome =>
    simp only [sinkStep, fileSinkClose]
    split
    · exact h
    repeat' split
    all_goals rfl

theorem sinkRun_stream (calls : List SinkCall) (h : sink.stream = sink.isOpen) :
    (sinkRun sink calls).2.stream = (sinkRun sink calls).2.isOpen := by
  induction calls generalizing sink with
  | nil => exact h
  | cons call calls ih => exact ih (sinkStep_stream call h)

/-- An open that does not succeed leaves a closed sink closed. -/
theorem sinkOpen_fails {path : Option (List UInt8)} {opens : Bool} {count : Option ℕ}
    {flushes : Bool} (hclosed : sink.isOpen = false)
    (hfails : (sinkStep sink (.open format path opens count flushes)).1 ≠ .ok) :
    (sinkStep sink (.open format path opens count flushes)).2.isOpen = false := by
  cases path with
  | none => exact hclosed
  | some path =>
    revert hfails
    simp only [sinkStep, fileSinkOpen]
    split
    · exact fun _ => hclosed
    split
    · exact fun _ => hclosed
    split
    · exact fun _ => rfl
    split
    · exact fun _ => rfl
    split
    · split
      · exact fun _ => rfl
      · split
        · exact fun hfails => absurd rfl hfails
        · exact fun _ => rfl
    · exact fun hfails => absurd rfl hfails

/-- Inside a session that has failed nothing more is handed over. -/
theorem SessionInv.handed_nil (hi : SessionInv format es sink)
    (hf : sink.failed = true) {call : SinkCall} (hstays : (sinkEvent sink call).resets = false) :
    handedBytes sink call = [] := by
  cases call with
  | «open» other path opens count flushes =>
    obtain ⟨result, hresult, hstep⟩ := sinkOpen_refused hstays
    exact congrArg SinkEvent.handed (sinkEvent_open_refused hresult hstep)
  | write record count flushes =>
    cases record with
    | none => simp [handedBytes, sinkStep]
    | some record => simp [handedBytes, hi.write_refused (.inr hf)]
  | close outcome =>
    have hfile : (fileSinkClose sink outcome).2.file = sink.file := by
      unfold fileSinkClose
      split
      · rfl
      repeat' split
      all_goals rfl
    simp [handedBytes, sinkStep, hfile]

theorem SessionInv.close_ok (hi : SessionInv format es sink) (outcome : CloseOutcome) :
    (sinkStep sink (.close outcome)).1 = .ok ↔
      sink.isOpen = true ∧ sink.failed = false ∧ outcome.Succeeds := by
  obtain ⟨flushes, closes⟩ := outcome
  cases hopen : sink.isOpen <;> cases hf : sink.failed <;> cases flushes <;> cases closes <;>
    simp [sinkStep, fileSinkClose, hi.stream, hopen, hf, CloseOutcome.Succeeds]

end

/-! ### Every sequence of calls -/

/-- What the events `es` behind an open that handed `header` over have written, and how the sink
answers from there on. -/
structure CrashConsistent (format : FileSinkFormat) (header : List UInt8) (es : List SinkEvent)
    (sink : FileSink) : Prop where
  bytes : ∃ torn, header ++ handed es =
      filePrefix format ++ (writtenRecords es).flatMap (serialization format) ++ torn ∧
    torn <+: tornLine format es
  count : sink.recordsWritten = UInt64.ofNat (writtenRecords es).length
  isOpen : sink.isOpen = !es.any SinkEvent.closes
  quiet : es.any SinkEvent.fails = true →
    ∀ call, (sinkEvent sink call).resets = false → handedBytes sink call = []
  sticky : es.any SinkEvent.fails = true → ∀ record count flushes,
    (sinkStep sink (.write (some record) count flushes)).1 =
      if sink.isOpen then .failed else .invalidArgument
  close : ∀ outcome, (sinkStep sink (.close outcome)).1 = .ok ↔
    sink.isOpen = true ∧ es.any SinkEvent.fails = false ∧ outcome.Succeeds

theorem SessionInv.crashConsistent {format : FileSinkFormat} {es : List SinkEvent}
    {sink : FileSink} (hi : SessionInv format es sink) :
    CrashConsistent format (filePrefix format) es sink := by
  constructor
  · rw [← hi.handed]
    exact hi.file
  · exact hi.recordsWritten
  · exact hi.isOpen
  · intro hfails call hstays
    exact hi.handed_nil (hi.failed.trans hfails) hstays
  · intro hfails record count flushes
    rw [hi.write_refused (.inr (hi.failed.trans hfails))]
  · intro outcome
    rw [hi.close_ok, hi.failed]

/-- Behind every sequence of calls, whatever stdio answers: the stream is set exactly while the
sink is open, a closed sink refuses writes and closes, and every session is crash consistent. -/
theorem file_sink_sessions (before : List SinkCall) :
    let sink := (sinkRun fileSinkInit before).2
    sink.stream = sink.isOpen ∧
    (sink.isOpen = false →
      (∀ record count flushes,
        sinkStep sink (.write record count flushes) = (.invalidArgument, sink)) ∧
      (∀ outcome, sinkStep sink (.close outcome) = (.invalidArgument, sink)) ∧
      (∀ format path opens count flushes,
        (sinkStep sink (.open format path opens count flushes)).1 ≠ .ok →
        (sinkStep sink (.open format path opens count flushes)).2.isOpen = false)) ∧
    ∀ format path opens count flushes calls,
      let opening := SinkCall.open format path opens count flushes
      let later := sinkRun (sinkStep sink opening).2 calls
      (sinkStep sink opening).1 = .ok → (∀ e ∈ later.1, e.resets = false) →
      CrashConsistent format (handedBytes sink opening) later.1 later.2 := by
  intro sink
  refine ⟨sinkRun_stream before rfl, fun hclosed => ⟨fun record count flushes => ?_,
    fun outcome => sinkClose_refused hclosed,
    fun format path opens count flushes hfails => sinkOpen_fails hclosed hfails⟩, ?_⟩
  · cases record with
    | none => rfl
    | some record => simp [sinkStep, fileSinkWrite, hclosed]
  · intro format path opens count flushes calls opening later hok hstays
    obtain ⟨hstart, hheader⟩ := sinkOpen_starts hok
    rw [hheader]
    exact (hstart.run hstays).crashConsistent

def openJsonl (opens : Bool) : SinkCall :=
  .open .jsonl (some (bytes "/tmp/kpm.jsonl")) opens none true

def tornWrite : SinkCall := .write (some diagnosticSample) (some 5) true

def completeWrite : SinkCall := .write (some diagnosticSample) none true

def closeCall : SinkCall := .close ⟨true, true⟩

/-- A session with one torn line. -/
theorem file_sink_sessions_sample :
    (sinkStep fileSinkInit (openJsonl true)).1 = .ok ∧
    CrashConsistent .jsonl (handedBytes fileSinkInit (openJsonl true))
      (sinkRun (sinkStep fileSinkInit (openJsonl true)).2 [completeWrite, tornWrite]).1
      (sinkRun (sinkStep fileSinkInit (openJsonl true)).2 [completeWrite, tornWrite]).2 := by
  have hok : (sinkStep fileSinkInit (openJsonl true)).1 = .ok := by decide +kernel
  refine ⟨hok, (file_sink_sessions []).2.2 _ _ _ _ _ [completeWrite, tornWrite] hok ?_⟩
  exact fun e he => by
    rcases List.mem_pair.mp he with rfl | rfl <;> rfl

/-- A write behind a failure and a close answers INVALID_ARGUMENT; so does a second close, with
no failure at all; and an open that fails resets the count of the records. -/
theorem torn_sink_closed :
    (sinkRun fileSinkInit [openJsonl true, tornWrite, closeCall, completeWrite]).1.map
      SinkEvent.result = [.ok, .writeFailed, .failed, .invalidArgument] ∧
    (sinkRun fileSinkInit [openJsonl true, closeCall, closeCall]).1.map SinkEvent.result =
      [.ok, .ok, .invalidArgument] ∧
    (sinkRun fileSinkInit [openJsonl true, completeWrite, closeCall, openJsonl false]).1.map
      SinkEvent.result = [.ok, .ok, .ok, .openFailed] ∧
    (sinkRun fileSinkInit
      [openJsonl true, completeWrite, closeCall, openJsonl false]).2.recordsWritten = 0 := by
  decide +kernel

end TcdOran.Collector
