import TcdOran.Receiver.IntervalParser

/-! prompt12-t2-postval-tail-reader.py: the last two complete intervals of the end of the timestamp
file, without the rows in front of it. -/
namespace TcdOran.Receiver
open TcdOran.Lib Python

def maxAgeNs : ℤ := 800000000

def tailBytes : ℕ := 32768

/-- The bytes that `bytes.strip` takes away. -/
def isByteSpace (b : UInt8) : Bool := b = 32 ∨ (9 ≤ b ∧ b ≤ 13)

/-- `json.loads` of UTF-8 bytes. -/
def loadsBytes (data : List UInt8) : Option Json := (codePoints data).bind Json.parse

/-- The end of the file, from the first line on that is wholly in it. -/
def tailLines (timestamps : List UInt8) : Except String (List UInt8) := do
  let size := min timestamps.length tailBytes
  let buf := timestamps.drop (timestamps.length - size)
  require (endsLine buf) "TIMESTAMP_UNFINISHED_LAST_LINE"
  if size < timestamps.length then
    require ((10 : UInt8) ∈ buf) "TIMESTAMP_TAIL_NO_BOUNDARY"
    return buf.drop (buf.idxOf 10 + 1)
  else return buf

/-- `_timestamp_tail`. -/
def timestampTail (timestamps : List UInt8) : Except String (List Json) := do
  let buf ← tailLines timestamps
  let rows ← ((byteLines buf).filter fun raw => !raw.all isByteSpace).mapM fun raw => do
    let row ← orRaise "TIMESTAMP_BAD_JSON" (loadsBytes raw)
    match row with
    | .obj _ => return row
    | _ => throw "TIMESTAMP_NOT_OBJECT"
  require (2 ≤ rows.length) "TIMESTAMP_TAIL_TOO_SHORT"
  return rows

/-- The fields of a row, with the checks of their types. -/
def tailRow (row : Json) : Except String TimestampRow := do
  let schema := (member row "schema").toOption
  require (schema.any (isText · (chars captureSchema))) "TIMESTAMP_SCHEMA_MISMATCH"
  let get (key : String) : Except String Json :=
    orRaise "TIMESTAMP_REQUIRED_FIELD_MISSING" (member row key).toOption
  let sequence ← get "sequence"
  let start ← get "raw_offset_start"
  let «end» ← get "raw_offset_end"
  let wall ← get "rx_wall_ns"
  let mono ← get "rx_mono_ns"
  let lineUtf8 ← get "line_utf8"
  let lineSize ← get "raw_line_length_bytes"
  let rawLineSha256 ← get "raw_line_sha256"
  let integer (value : Json) : Except String ℤ :=
    orRaise "TIMESTAMP_FIELD_TYPE_INVALID" (intOfJson value)
  return {
    sequence := ← integer sequence
    rawOffsetStart := ← integer start
    rawOffsetEnd := ← integer «end»
    rxWallNs := ← integer wall
    rxMonoNs := ← integer mono
    rawLineLengthBytes := ← integer lineSize
    rawLineSha256, lineUtf8 }

/-- A complete interval behind the start of the traffic. -/
structure TailInterval where
  sequence : ℤ
  wallNs : ℤ
  monoNs : ℤ
  parsed : Interval
  claimedSha : Json

/-- The check of the interval of a row: whether it is listed. -/
def tailInterval (row : TimestampRow) (parsed : Option Interval) :
    Except String (Option TailInterval) := do
  let some interval := parsed | return none
  require (interval.shape = .complete0p2) "LATEST_INTERVAL_NOT_COMPLETE"
  require (reprDecimal interval.intervalDurationS = 1 / 5) "SAMPLE_DURATION_INVALID"
  if 1000001 / 1000000 < reprDecimal interval.intervalEndS then
    return some ⟨row.sequence, row.rxWallNs, row.rxMonoNs, interval, row.rawLineSha256⟩
  else return none

structure TailSample where
  lastSequence : ℤ
  latestSampleTimestampUtcNs : ℤ
  latestSampleRxMonoNs : ℤ
  latestIntervalEndS : ℚ
  sampleAgeNs : ℤ
  rawLineSha256 : Json

section
-- the digest of SHA-256
variable (sha256 : List UInt8 → List UInt8)

/-- One turn of the loop of `inspect`. -/
def inspectRow (raw : List UInt8) (last : Option TimestampRow) (value : Json) :
    Except String (TimestampRow × Option TailInterval) := do
  let row ← tailRow value
  require (0 ≤ row.rawOffsetStart ∧ row.rawOffsetStart < row.rawOffsetEnd ∧
      row.rawOffsetEnd ≤ raw.length ∧
      row.rawOffsetEnd - row.rawOffsetStart = row.rawLineLengthBytes) "RAW_OFFSET_INVALID"
  require (0 < row.rxWallNs ∧ 0 < row.rxMonoNs) "TIMESTAMP_NOT_POSITIVE"
  require (last.all fun last => row.sequence = last.sequence + 1) "SEQUENCE_GAP"
  require (last.all fun last => row.rawOffsetStart = last.rawOffsetEnd) "RAW_OFFSET_GAP"
  require (last.all fun last => last.rxWallNs ≤ row.rxWallNs ∧ last.rxMonoNs < row.rxMonoNs)
    "TIMESTAMP_ORDER_INVALID"
  let size := (row.rawOffsetEnd - row.rawOffsetStart).toNat
  let lineBytes := (raw.drop row.rawOffsetStart.toNat).take size
  require (lineBytes.length = size) "RAW_SHORT_READ"
  require (isText row.rawLineSha256 (hexText (sha256 lineBytes))) "RAW_LINE_SHA_MISMATCH"
  require (isText row.lineUtf8 (lineText lineBytes)) "RAW_LINE_TEXT_MISMATCH"
  let parsed ← parseInterval (lineText lineBytes)
  let listed ← tailInterval row parsed
  return (row, listed)

def inspectRows (raw : List UInt8) :
    Option TimestampRow → List Json → Except String (List TailInterval)
  | _, [] => .ok []
  | last, value :: values => do
      let (row, listed) ← inspectRow sha256 raw last value
      let rest ← inspectRows raw (some row) values
      return listed.toList ++ rest

/-- `intervals[-2:]`. -/
def lastPair (intervals : List TailInterval) : Except String (TailInterval × TailInterval) :=
  match intervals.reverse with
  | b :: a :: _ => .ok (a, b)
  | _ => .error "COMPLETE_PAIR_UNAVAILABLE"

/-- `inspect` on the two files, at the time of its decision. The parser that it loads is
`parseInterval`. -/
def inspect (raw timestamps : List UInt8) (decisionNs : ℤ) : Except String TailSample := do
  require (raw ≠ []) "SOURCE_EMPTY"
  require (timestamps ≠ []) "SOURCE_EMPTY"
  let rows ← timestampTail timestamps
  let intervals ← inspectRows sha256 raw none rows
  let (a, b) ← lastPair intervals
  require (reprDecimal a.parsed.intervalEndS = reprDecimal b.parsed.intervalStartS)
    "COMPLETE_PAIR_NOT_CONTIGUOUS"
  require (26 ≤ reprDecimal b.parsed.intervalEndS) "PREPHASE_UNDER_26_SECONDS"
  let ageNs := decisionNs - b.wallNs
  require (0 ≤ ageNs ∧ ageNs ≤ maxAgeNs) "SAMPLE_AGE_OUT_OF_BOUNDS"
  return ⟨b.sequence, b.wallNs, b.monoNs, b.parsed.intervalEndS, ageNs, b.claimedSha⟩

end

end TcdOran.Receiver
