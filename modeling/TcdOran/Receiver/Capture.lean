import TcdOran.Lib.PythonText

/-! capture-iperf-receiver.py: the lines that the receiver prints are written to a raw file, and for
each of them a row to a timestamp file. -/
namespace TcdOran.Receiver
open TcdOran.Lib Python

/-- `data.endswith(b"\n")`. -/
def endsLine (data : List UInt8) : Bool := data.getLast? = some 10

def captureSchema : String := "sci_oran_iperf_receiver_line_capture_v1"

/-- A line from the pipe of the receiver and what the clocks said when it was read. -/
structure ReceivedLine where
  line : List UInt8
  wallNs : ℤ
  monoNs : ℤ
  deriving DecidableEq

structure CaptureRow where
  sequence : ℕ
  rxWallNs : ℤ
  rxMonoNs : ℤ
  rawOffsetStart : ℕ
  rawOffsetEnd : ℕ
  rawLineLengthBytes : ℕ
  rawLineSha256 : List ℕ
  lineUtf8 : List ℕ
  deriving DecidableEq

/-- `digest.hex()`. -/
def hexText (digest : List UInt8) : List ℕ :=
  digest.flatMap fun b => [hexUnit (b.toNat / 16), hexUnit (b.toNat % 16)]

/-- `line.decode("utf-8", errors="replace").rstrip("\r\n")`. -/
def lineText (line : List UInt8) : List ℕ :=
  (decodeReplace line).rdropWhile fun u => u = 13 ∨ u = 10

def CaptureRow.fields (row : CaptureRow) : List (String × PyScalar) :=
  [("schema", .str (chars captureSchema)),
    ("sequence", .int row.sequence),
    ("rx_wall_ns", .int row.rxWallNs),
    ("rx_mono_ns", .int row.rxMonoNs),
    ("raw_offset_start", .int row.rawOffsetStart),
    ("raw_offset_end", .int row.rawOffsetEnd),
    ("raw_line_length_bytes", .int row.rawLineLengthBytes),
    ("raw_line_sha256", .str row.rawLineSha256),
    ("line_utf8", .str row.lineUtf8)]

def CaptureRow.text (row : CaptureRow) : List ℕ := dumps row.fields

def CaptureRow.bytes (row : CaptureRow) : List UInt8 := utf8OfCodePoints row.text

section
-- the digest of SHA-256
variable (sha256 : List UInt8 → List UInt8)

def captureRow (sequence rawOffset : ℕ) (received : ReceivedLine) : CaptureRow where
  sequence := sequence
  rxWallNs := received.wallNs
  rxMonoNs := received.monoNs
  rawOffsetStart := rawOffset
  rawOffsetEnd := rawOffset + received.line.length
  rawLineLengthBytes := received.line.length
  rawLineSha256 := hexText (sha256 received.line)
  lineUtf8 := lineText received.line

/-- The state of the loop and of the two files. -/
structure Capture where
  rawOffset : ℕ
  sequence : ℕ
  raw : List UInt8
  timestamps : List UInt8
  /-- The row of the line that has been written last, as long as it is not written itself. -/
  pending : Option CaptureRow
  deriving DecidableEq

def Capture.start : Capture := ⟨0, 0, [], [], none⟩

/-- What `readline` returns while the pipe is open: the line ends at its only line feed, or the
stream ends with it. -/
def isLine (line : List UInt8) : Bool := line ≠ [] ∧ (10 : UInt8) ∉ line.dropLast

/-- The first half of a turn: `readline`, the clocks, and the write to the raw file. Behind a line
without line feed there is none. -/
def Capture.receive (capture : Capture) (received : ReceivedLine) : Option Capture :=
  if capture.pending = none ∧ isLine received.line ∧ (capture.raw = [] ∨ endsLine capture.raw) then
    some { capture with
      rawOffset := capture.rawOffset + received.line.length
      raw := capture.raw ++ received.line
      pending := some (captureRow sha256 capture.sequence capture.rawOffset received) }
  else none

/-- The second half: the write to the timestamp file. -/
def Capture.record (capture : Capture) : Option Capture :=
  capture.pending.map fun row =>
    { capture with
      sequence := capture.sequence + 1
      timestamps := capture.timestamps ++ (row.bytes ++ [10])
      pending := none }

/-! ### What the files hold -/

def rawFile (lines : List ReceivedLine) : List UInt8 := lines.flatMap (·.line)

/-- The rows of the lines from a sequence number and an offset on. -/
def captureRows (sequence rawOffset : ℕ) : List ReceivedLine → List CaptureRow
  | [] => []
  | received :: lines => captureRow sha256 sequence rawOffset received ::
      captureRows (sequence + 1) (rawOffset + received.line.length) lines

def timestampFile (rows : List CaptureRow) : List UInt8 := rows.flatMap fun row => row.bytes ++ [10]

theorem length_rawFile_cons (received : ReceivedLine) (lines : List ReceivedLine) :
    (rawFile (received :: lines)).length = received.line.length + (rawFile lines).length := by
  simp [rawFile]

theorem captureRows_append (sequence rawOffset : ℕ) (lines more : List ReceivedLine) :
    captureRows sha256 sequence rawOffset (lines ++ more) =
      captureRows sha256 sequence rawOffset lines ++
        captureRows sha256 (sequence + lines.length) (rawOffset + (rawFile lines).length) more := by
  induction lines generalizing sequence rawOffset with
  | nil => rfl
  | cons received lines ih =>
    rw [List.cons_append, captureRows, ih, captureRows, List.cons_append, length_rawFile_cons,
      List.length_cons, Nat.add_assoc, Nat.add_assoc, Nat.add_comm 1]

@[simp] theorem length_captureRows (sequence rawOffset : ℕ) (lines : List ReceivedLine) :
    (captureRows sha256 sequence rawOffset lines).length = lines.length := by
  induction lines generalizing sequence rawOffset with
  | nil => rfl
  | cons received lines ih => rw [captureRows, List.length_cons, ih, List.length_cons]

/-- A row is about a line that the raw file has at the row's offsets. -/
structure CaptureRow.Within (row : CaptureRow) (raw : List UInt8) : Prop where
  ordered : row.rawOffsetStart < row.rawOffsetEnd
  inside : row.rawOffsetEnd ≤ raw.length
  length : row.rawLineLengthBytes = row.rawOffsetEnd - row.rawOffsetStart
  digest : row.rawLineSha256 =
    hexText (sha256 ((raw.drop row.rawOffsetStart).take row.rawLineLengthBytes))
  text : row.lineUtf8 = lineText ((raw.drop row.rawOffsetStart).take row.rawLineLengthBytes)

theorem within_captureRow (sequence : ℕ) {received : ReceivedLine} (h : received.line ≠ [])
    (before after : List UInt8) :
    (captureRow sha256 sequence before.length received).Within sha256
      (before ++ (received.line ++ after)) := by
  have hpos := List.length_pos_iff.mpr h
  have hrange : ((before ++ (received.line ++ after)).drop before.length).take received.line.length =
      received.line := by
    rw [List.drop_left, List.take_left]
  refine ⟨?_, ?_, ?_, ?_, ?_⟩ <;> dsimp only [captureRow]
  · omega
  · simp
  · omega
  · rw [hrange]
  · rw [hrange]

theorem within_captureRows {lines : List ReceivedLine} (h : ∀ received ∈ lines, received.line ≠ [])
    (sequence : ℕ) (before after : List UInt8) :
    ∀ row ∈ captureRows sha256 sequence before.length lines,
      row.Within sha256 (before ++ (rawFile lines ++ after)) := by
  induction lines generalizing sequence before with
  | nil => simp [captureRows]
  | cons received lines ih =>
    have hsplit : before ++ (rawFile (received :: lines) ++ after) =
        before ++ received.line ++ (rawFile lines ++ after) := by
      simp [rawFile]
    intro row hrow
    rcases List.mem_cons.mp hrow with rfl | hrow
    · rw [hsplit, List.append_assoc]
      exact within_captureRow sha256 sequence (h received List.mem_cons_self) before _
    · rw [hsplit]
      apply ih (fun l hl => h l (List.mem_cons_of_mem received hl)) (sequence + 1)
      rwa [List.length_append]

end

end TcdOran.Receiver
