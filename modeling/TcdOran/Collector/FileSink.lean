import TcdOran.Collector.CanonicalSerialize

/-! The file sink of file_sink.c. The outcomes of the stdio calls are inputs; a call that
reports success has appended the bytes it was given. -/
namespace TcdOran.Collector
open TcdOran.Lib

abbrev fileSinkPathCapacity : ℕ := 4096
abbrev serializedRecordCapacity : ℕ := 8192

inductive FileSinkFormat
  | invalid | csv | jsonl
  deriving DecidableEq

inductive FileSinkResult
  | ok | invalidArgument | alreadyOpen | openFailed | serializeFailed | writeFailed | flushFailed
  | closeFailed | failed
  deriving DecidableEq

/-- `stream` says that the stream pointer is set, `file` is what the file behind it holds. -/
structure FileSink where
  stream : Bool
  file : List UInt8
  format : FileSinkFormat
  isOpen : Bool
  failed : Bool
  recordsWritten : UInt64
  errors : UInt64
  path : List UInt8

/-- `fwrite` and the `fflush` behind it: a short write leaves some bytes in the file. -/
structure WriteOutcome where
  short : Option (List UInt8)
  flushes : Bool

def WriteOutcome.Succeeds (outcome : WriteOutcome) : Prop :=
  outcome.short = none ∧ outcome.flushes = true

structure CloseOutcome where
  flushes : Bool
  closes : Bool

def CloseOutcome.Succeeds (outcome : CloseOutcome) : Prop :=
  outcome.flushes = true ∧ outcome.closes = true

structure OpenOutcome where
  opens : Bool
  header : WriteOutcome

def validFormat (format : FileSinkFormat) : Bool := format = .csv ∨ format = .jsonl

def fileSinkInit : FileSink where
  stream := false
  file := []
  format := .invalid
  isOpen := false
  failed := false
  recordsWritten := 0
  errors := 0
  path := []

def markFailure (sink : FileSink) : FileSink :=
  { sink with failed := true, errors := sink.errors + 1 }

def writeAndFlush (sink : FileSink) (data : List UInt8) (outcome : WriteOutcome) :
    FileSinkResult × FileSink :=
  match outcome.short with
  | some part => (.writeFailed, markFailure { sink with file := sink.file ++ part })
  | none =>
      let written := { sink with file := sink.file ++ data }
      if outcome.flushes then (.ok, written) else (.flushFailed, markFailure written)

/-- The local array the serializers print to. Its first contents do not matter. -/
def serializeBuffer : Destination where
  cells := some (List.replicate serializedRecordCapacity 0)
  capacity := serializedRecordCapacity
  room := by simp
  capacity_le := by decide

/-- The bytes handed to `fwrite`. -/
def Serialized.written (serialized : Serialized) : List UInt8 :=
  (serialized.data.getD []).take (serialized.requiredLength.getD 0)

def fileSinkOpen (sink : FileSink) (format : FileSinkFormat) (path : List UInt8)
    (outcome : OpenOutcome) : FileSinkResult × FileSink :=
  if !validFormat format then (.invalidArgument, sink)
  else if sink.isOpen || sink.stream then (.alreadyOpen, sink)
  else if path.length = 0 ∨ path.length ≥ fileSinkPathCapacity then
    (.invalidArgument, fileSinkInit)
  else if !outcome.opens then (.openFailed, { fileSinkInit with errors := 1 })
  else
    let opened : FileSink :=
      { fileSinkInit with path := path, format := format, stream := true, isOpen := true }
    let closed (sink : FileSink) : FileSink := { sink with stream := false, isOpen := false }
    if format = .csv then
      let header := serializeCsvHeader serializeBuffer
      if header.result ≠ .ok then (.serializeFailed, closed (markFailure opened))
      else
        match writeAndFlush opened header.written outcome.header with
        | (.ok, sink) => (.ok, sink)
        | (result, sink) => (result, closed sink)
    else (.ok, opened)

def fileSinkSerialize (format : FileSinkFormat) (record : CanonicalRecord) : Serialized :=
  if format = .csv then serializeCsvRecord (some record) serializeBuffer
  else serializeJsonlRecord (some record) serializeBuffer

def fileSinkWrite (sink : FileSink) (record : CanonicalRecord) (outcome : WriteOutcome) :
    FileSinkResult × FileSink :=
  if !sink.isOpen || !sink.stream || !validFormat sink.format then (.invalidArgument, sink)
  else if sink.failed then (.failed, sink)
  else
    let serialized := fileSinkSerialize sink.format record
    if serialized.result ≠ .ok then (.serializeFailed, markFailure sink)
    else
      match writeAndFlush sink serialized.written outcome with
      | (.ok, sink) => (.ok, { sink with recordsWritten := sink.recordsWritten + 1 })
      | (result, sink) => (result, sink)

def fileSinkClose (sink : FileSink) (outcome : CloseOutcome) : FileSinkResult × FileSink :=
  if !sink.isOpen || !sink.stream then (.invalidArgument, sink)
  else
    let closed := { sink with stream := false, isOpen := false }
    let marked := if !sink.failed then markFailure closed else closed
    if !outcome.flushes then (.flushFailed, marked)
    else if !outcome.closes then (.closeFailed, marked)
    else if sink.failed then (.failed, closed)
    else (.ok, closed)

/-! ### What a sink does -/

/-- What an enabled file starts with. -/
def filePrefix : FileSinkFormat → List UInt8
  | .csv => bytes csvHeader
  | _ => []

def fileLine : FileSinkFormat → CanonicalRecord → List UInt8
  | .csv => csvLine
  | _ => jsonlLine

/-- An open sink of this format which has not failed has written these records in full. -/
structure FileSink.Ready (sink : FileSink) (format : FileSinkFormat)
    (records : List CanonicalRecord) : Prop where
  stream : sink.stream = true
  isOpen : sink.isOpen = true
  hasFormat : sink.format = format
  valid : validFormat format = true
  file : sink.failed = false → sink.file = filePrefix format ++ records.flatMap (fileLine format)

theorem builderResult_written {text : List UInt8}
    (h : (builderResult (render serializeBuffer text)).result = .ok) :
    (builderResult (render serializeBuffer text)).written = text := by
  rw [builderResult_ok_iff] at h
  have hspace : serializeBuffer.space = 8191 := rfl
  have hroom : text.length < serializeBuffer.capacity := by
    change text.length < 8192
    omega
  obtain ⟨-, hlen, cells, hdata⟩ := builderResult_holds rfl hroom
  simp [Serialized.written, hlen, hdata]

theorem writeAndFlush_ok {sink : FileSink} {data : List UInt8} {outcome : WriteOutcome} :
    (writeAndFlush sink data outcome).1 = .ok ↔ outcome.Succeeds := by
  unfold writeAndFlush WriteOutcome.Succeeds
  split
  · next h => simp [h]
  · next h => split <;> simp_all

theorem writeAndFlush_of_succeeds {sink : FileSink} {data : List UInt8} {outcome : WriteOutcome}
    (h : outcome.Succeeds) :
    writeAndFlush sink data outcome = (.ok, { sink with file := sink.file ++ data }) := by
  simp [writeAndFlush, h.1, h.2]

/-- A failing write is remembered by the sink. -/
theorem writeAndFlush_failed {sink : FileSink} {data : List UInt8} {outcome : WriteOutcome}
    (h : ¬ outcome.Succeeds) :
    (writeAndFlush sink data outcome).2.failed = true ∧
    (writeAndFlush sink data outcome).2.stream = sink.stream ∧
    (writeAndFlush sink data outcome).2.isOpen = sink.isOpen ∧
    (writeAndFlush sink data outcome).2.format = sink.format := by
  unfold WriteOutcome.Succeeds at h
  unfold writeAndFlush
  split
  · simp [markFailure]
  · split
    · simp_all
    · simp [markFailure]

theorem serializeCsvHeader_written (h : (serializeCsvHeader serializeBuffer).result = .ok) :
    (serializeCsvHeader serializeBuffer).written = bytes csvHeader := by
  have heq : serializeCsvHeader serializeBuffer =
      builderResult (render serializeBuffer (bytes csvHeader)) := by
    rw [serializeCsvHeader, if_neg (by simp [serializeBuffer]), builderInit_eq,
      appends_literal, List.nil_append]
  rw [heq] at h ⊢
  exact builderResult_written h

theorem fileSinkOpen_ready {format : FileSinkFormat} {path : List UInt8} {outcome : OpenOutcome}
    {sink : FileSink} (h : fileSinkOpen fileSinkInit format path outcome = (.ok, sink)) :
    sink.Ready format [] ∧ sink.failed = false := by
  unfold fileSinkOpen at h
  split at h
  · simp at h
  next hvalid =>
  have hvalid : validFormat format = true := by simpa using hvalid
  split at h
  · simp at h
  split at h
  · simp at h
  split at h
  · simp at h
  simp only at h
  split at h
  · next hcsv =>
    subst hcsv
    split at h
    · simp at h
    · next hser =>
      have hbytes := serializeCsvHeader_written (not_not.mp hser)
      by_cases hs : outcome.header.Succeeds
      · rw [writeAndFlush_of_succeeds hs, hbytes] at h
        obtain rfl := (Prod.mk.inj h).2
        exact ⟨⟨rfl, rfl, rfl, rfl, fun _ => by simp [fileSinkInit, filePrefix]⟩, rfl⟩
      · have hne (opened : FileSink) : (writeAndFlush opened
            (serializeCsvHeader serializeBuffer).written outcome.header).1 ≠ .ok :=
          mt writeAndFlush_ok.mp hs
        split at h
        · next hw => exact absurd (congrArg Prod.fst hw) (hne _)
        · next hw =>
          obtain ⟨rfl, -⟩ := Prod.mk.inj h
          exact absurd (congrArg Prod.fst hw) (hne _)
  · next hcsv =>
    obtain rfl := (Prod.mk.inj h).2
    refine ⟨⟨rfl, rfl, rfl, hvalid, fun _ => ?_⟩, rfl⟩
    cases format <;> simp_all [filePrefix, fileSinkInit]

section
variable {sink : FileSink} {format : FileSinkFormat} {records : List CanonicalRecord}
  {record : CanonicalRecord}

theorem fileSinkSerialize_written (hr : Accepted record) (hv : validFormat format = true)
    (h : (fileSinkSerialize format record).result = .ok) :
    (fileSinkSerialize format record).written = fileLine format record := by
  have hcells : serializeBuffer.cells.isSome := rfl
  unfold fileSinkSerialize at h ⊢
  rw [serializeCsvRecord_accepted hr hcells, serializeJsonlRecord_accepted hr hcells] at h ⊢
  cases format with
  | invalid => simp [validFormat] at hv
  | csv => exact builderResult_written h
  | jsonl => exact builderResult_written h

/-- One write: it answers ok exactly when the sink has not failed, and then the stdio calls
succeeded and the line is in the file. -/
theorem FileSink.Ready.write (h : sink.Ready format records) (hr : Accepted record)
    (outcome : WriteOutcome) :
    (fileSinkWrite sink record outcome).2.Ready format (records ++ [record]) ∧
    ((fileSinkWrite sink record outcome).1 = .ok ↔
      (fileSinkWrite sink record outcome).2.failed = false) ∧
    ((fileSinkWrite sink record outcome).1 = .ok → outcome.Succeeds ∧ sink.failed = false) := by
  obtain ⟨hstream, hopen, hformat, hvalid, hfile⟩ := h
  unfold fileSinkWrite
  rw [if_neg (by simp [hstream, hopen, hformat, hvalid])]
  split
  · next hf => exact ⟨⟨hstream, hopen, hformat, hvalid, by simp [hf]⟩, by simp [hf], by simp⟩
  next hf =>
  have hf : sink.failed = false := by simpa using hf
  have hwritten := fileSinkSerialize_written hr hvalid
  rw [hformat]
  simp only
  split
  · exact ⟨⟨hstream, hopen, hformat, hvalid, by simp [markFailure]⟩, by simp [markFailure],
      by simp⟩
  next hser =>
  rw [hwritten (not_not.mp hser)]
  by_cases hs : outcome.Succeeds
  · rw [writeAndFlush_of_succeeds hs]
    refine ⟨⟨hstream, hopen, hformat, hvalid, fun _ => ?_⟩, by simp [hf], fun _ => ⟨hs, hf⟩⟩
    simp [hfile hf]
  · have hfailed := @writeAndFlush_failed sink (fileLine format record) outcome hs
    obtain ⟨h1, h2, h3, h4⟩ := hfailed
    have hne : (writeAndFlush sink (fileLine format record) outcome).1 ≠ .ok :=
      mt writeAndFlush_ok.mp hs
    split
    · next hw => exact absurd (congrArg Prod.fst hw) hne
    · next result after _ hw =>
      rw [hw] at h1 h2 h3 h4 hne
      simp only at h1 h2 h3 h4 hne
      exact ⟨⟨h2.trans hstream, h3.trans hopen, h4.trans hformat, hvalid, by simp [h1]⟩,
        by simp [h1, hne], fun hok => absurd hok hne⟩

theorem FileSink.Ready.close (h : sink.Ready format records) (outcome : CloseOutcome) :
    (fileSinkClose sink outcome).2.file = sink.file ∧
    ((fileSinkClose sink outcome).1 = .ok ↔ sink.failed = false ∧ outcome.Succeeds) := by
  unfold fileSinkClose CloseOutcome.Succeeds
  rw [if_neg (by simp [h.stream, h.isOpen])]
  cases hf : sink.failed <;> cases hflush : outcome.flushes <;> cases hclose : outcome.closes <;>
    simp [markFailure]

end

end TcdOran.Collector
