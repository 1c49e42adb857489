import TcdOran.Lib.Check
import TcdOran.Lib.PythonDecimal
import TcdOran.Lib.PythonRegex
import TcdOran.Receiver.Capture

/-! parse-iperf-receiver.py: the intervals of the receiver's lines. A float is given by its exact
value. -/
namespace TcdOran.Receiver
open TcdOran.Lib Python

/-! ### A line -/

open Regex in
def intervalRe : Regex := sequence
  [literal "[", star isSpace, group "stream_id" digits, literal "]", spaces,
    group "start" number, literal "-", group "end" number, spaces,
    literal "sec", spaces,
    group "transfer_value" number, spaces,
    group "transfer_unit" (choice "Bytes" ["KBytes", "MBytes", "GBytes"]), spaces,
    group "bitrate_value" number, spaces,
    group "bitrate_unit" (choice "bits/sec" ["Kbits/sec", "Mbits/sec", "Gbits/sec"]),
    opt (sequence [spaces,
      group "jitter_ms" number, spaces, literal "ms", spaces,
      group "lost_datagrams" digits, literal "/",
      group "total_datagrams" digits, spaces,
      literal "(", group "loss_pct" number, literal "%)"]),
    opt (sequence [spaces, group "role" (choice "sender" ["receiver"])]),
    star isSpace]

def transferMultiplier (unit : List ℕ) : Option ℚ :=
  [(chars "Bytes", 1), (chars "KBytes", 1024), (chars "MBytes", 1024 ^ 2),
    (chars "GBytes", 1024 ^ 3)].lookup unit

def bitrateToKbit (unit : List ℕ) : Option ℚ :=
  [(chars "bits/sec", 1 / 1000), (chars "Kbits/sec", 1), (chars "Mbits/sec", 1000),
    (chars "Gbits/sec", 1000000)].lookup unit

inductive IntervalShape
  | complete0p2 | partialTerminalCandidate
  deriving DecidableEq

structure Interval where
  streamId : ℤ
  intervalStartS : ℚ
  intervalEndS : ℚ
  intervalDurationS : ℚ
  throughputKbitS : ℚ
  jitterMs : Option ℚ
  lossPct : Option ℚ
  bytesTransferred : ℤ
  lostDatagrams : Option ℤ
  totalDatagrams : Option ℤ
  iperfRole : Option (List ℕ)
  shape : IntervalShape
  sourceTransferValue : List ℕ
  sourceTransferUnit : List ℕ
  sourceBitrateValue : List ℕ
  sourceBitrateUnit : List ℕ
  deriving DecidableEq

def orRaise {α : Type} (error : String) : Option α → Except String α
  | some a => .ok a
  | none => .error error

/-- `Decimal(text)` of digits with a fraction. -/
def decimalGroup (text : List ℕ) : Except String ℚ :=
  match decimalOfText text with
  | some (.finite q) => .ok q
  | _ => .error "InvalidOperation"

def integerGroup (text : List ℕ) : Except String ℤ := orRaise "ValueError" (intOfText text)

/-- `str(Decimal(text))`. -/
def decimalGroupStr (text : List ℕ) : List ℕ :=
  let (integer, rest) := spanDigits text
  let (fraction, _) := spanDigits (rest.drop 1)
  decimalStr (numberOf (integer ++ fraction)) fraction.length

def decimalToFloat (value : ℚ) : Except String ℚ :=
  orRaise "non-finite numeric value" (nearestBinary64 value)

def primaryTsS : ℚ := 1 / 5

def durationToleranceS : ℚ := 1 / 1000000

/-- The shape of an interval and its duration, without the summaries of longer times. -/
def intervalShape (duration : ℚ) : Option (IntervalShape × ℚ) :=
  if primaryTsS + durationToleranceS < duration then none
  else if |dsub defaultPrecision duration primaryTsS| ≤ durationToleranceS then
    some (.complete0p2, primaryTsS)
  else if 0 < duration ∧ duration < primaryTsS then some (.partialTerminalCandidate, duration)
  else none

def parseInterval (line : List ℕ) : Except String (Option Interval) := do
  let some captures := intervalRe.matchLine line | return none
  let text (name : String) : List ℕ := (captures.lookup name).getD []
  let start ← decimalGroup (text "start")
  let «end» ← decimalGroup (text "end")
  if «end» ≤ start then return none
  let some (shape, normalizedDuration) := intervalShape (dsub defaultPrecision «end» start)
    | return none
  let transferValue ← decimalGroup (text "transfer_value")
  let bitrateValue ← decimalGroup (text "bitrate_value")
  let transferFactor ← orRaise "KeyError" (transferMultiplier (text "transfer_unit"))
  let transferredBytes := integralHalfUp (dmul defaultPrecision transferValue transferFactor)
  let bitrateFactor ← orRaise "KeyError" (bitrateToKbit (text "bitrate_unit"))
  let throughputKbitS := dmul defaultPrecision bitrateValue bitrateFactor
  let float (name : String) : Except String (Option ℚ) :=
    (captures.lookup name).mapM fun text => decimalGroup text >>= decimalToFloat
  let integer (name : String) : Except String (Option ℤ) :=
    (captures.lookup name).mapM integerGroup
  return some {
    streamId := ← integerGroup (text "stream_id")
    intervalStartS := ← decimalToFloat start
    intervalEndS := ← decimalToFloat «end»
    intervalDurationS := ← decimalToFloat normalizedDuration
    throughputKbitS := ← decimalToFloat throughputKbitS
    jitterMs := ← float "jitter_ms"
    lossPct := ← float "loss_pct"
    bytesTransferred := transferredBytes
    lostDatagrams := ← integer "lost_datagrams"
    totalDatagrams := ← integer "total_datagrams"
    iperfRole := captures.lookup "role"
    shape
    sourceTransferValue := decimalGroupStr (text "transfer_value")
    sourceTransferUnit := text "transfer_unit"
    sourceBitrateValue := decimalGroupStr (text "bitrate_value")
    sourceBitrateUnit := text "bitrate_unit" }

/-! ### The rows of the timestamp file -/

/-- `row[key]`; a row that is no object is refused as one without the key. -/
def member (row : Json) (key : String) : Except String Json :=
  match row with
  | .obj members => orRaise "KeyError" (dictLookup members (chars key))
  | _ => .error "TypeError"

/-- `type(value) is int`. -/
def intOfJson : Json → Option ℤ
  | .num literal => if literal.isInteger then some literal.intValue else none
  | _ => none

/-- A row of the timestamp file. -/
structure TimestampRow where
  sequence : ℤ
  rawOffsetStart : ℤ
  rawOffsetEnd : ℤ
  rxWallNs : ℤ
  rxMonoNs : ℤ
  rawLineLengthBytes : ℤ
  rawLineSha256 : Json
  lineUtf8 : Json

/-- The fields of a row. The parser asks for integers in the clocks only; here it asks for them in
every number, as the capture program writes them. -/
def timestampRow (row : Json) : Except String TimestampRow := do
  let integer (key : String) : Except String ℤ := do
    orRaise "AssertionError" (intOfJson (← member row key))
  require (isText (← member row "schema") (chars captureSchema)) "AssertionError"
  return {
    sequence := ← integer "sequence"
    rawOffsetStart := ← integer "raw_offset_start"
    rawOffsetEnd := ← integer "raw_offset_end"
    rxWallNs := ← integer "rx_wall_ns"
    rxMonoNs := ← integer "rx_mono_ns"
    rawLineLengthBytes := ← integer "raw_line_length_bytes"
    rawLineSha256 := ← member row "raw_line_sha256"
    lineUtf8 := ← member row "line_utf8" }

/-- The rows of the file that is opened as text, without blank lines. -/
def loadTimestampRows (timestamps : List UInt8) : Except String (List Json) := do
  let text ← orRaise "UnicodeDecodeError" (codePoints timestamps)
  ((fileLines text).filter fun line => strip line ≠ []).mapM fun line =>
    orRaise "JSONDecodeError" (Json.parse line)

/-! ### The parser -/

structure StagingRow where
  sourceSequence : ℤ
  rxWallNs : ℤ
  rxMonoNs : ℤ
  sourceRawOffsetStart : ℤ
  sourceRawOffsetEnd : ℤ
  sourceRawLineSha256 : Json
  interval : Interval

/-- What the loop remembers of the row before. -/
structure ParserState where
  previous : Option TimestampRow
  rawOffsetBase : Option ℤ

section
-- the digest of SHA-256
variable (sha256 : List UInt8 → List UInt8)

/-- One turn of the loop of `main`: the line of the raw file is checked against the row. -/
def parseRow (raw : List UInt8) (state : ParserState) (value : Json) :
    Except String (ParserState × Option StagingRow) := do
  let row ← timestampRow value
  require (state.previous.all fun previous => row.sequence = previous.sequence + 1) "AssertionError"
  let base := state.rawOffsetBase.getD row.rawOffsetStart
  let localStart := row.rawOffsetStart - base
  let localEnd := row.rawOffsetEnd - base
  require (0 ≤ localStart ∧ localStart < localEnd ∧ localEnd ≤ raw.length) "AssertionError"
  let rawLine := (raw.drop localStart.toNat).take (localEnd - localStart).toNat
  require ((rawLine.length : ℤ) = row.rawLineLengthBytes) "AssertionError"
  require (isText row.rawLineSha256 (hexText (sha256 rawLine))) "AssertionError"
  require (isText row.lineUtf8 (lineText rawLine)) "AssertionError"
  require (0 < row.rxWallNs) "AssertionError"
  require (0 < row.rxMonoNs) "AssertionError"
  require (state.previous.all fun previous =>
    previous.rxWallNs ≤ row.rxWallNs ∧ previous.rxMonoNs < row.rxMonoNs) "AssertionError"
  let interval ← parseInterval (lineText rawLine)
  return (⟨some row, some base⟩, interval.map fun interval =>
    ⟨row.sequence, row.rxWallNs, row.rxMonoNs, row.rawOffsetStart, row.rawOffsetEnd,
      row.rawLineSha256, interval⟩)

def parseRows (raw : List UInt8) : ParserState → List Json → Except String (List StagingRow)
  | _, [] => .ok []
  | state, value :: values => do
      let (state, staging) ← parseRow sha256 raw state value
      let rest ← parseRows raw state values
      return staging.toList ++ rest

/-- The records that `main` writes. -/
def parserMain (raw timestamps : List UInt8) : Except String (List StagingRow) := do
  let rows ← loadTimestampRows timestamps
  parseRows sha256 raw ⟨none, none⟩ rows

end

end TcdOran.Receiver
