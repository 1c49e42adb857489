import TcdOran.Receiver.Snapshot
import TcdOran.Receiver.TailAgreement

/-! The timestamp file of the capture program and its three readers: the parser, the tail reader and
the adjudicator of the evidence. -/
namespace TcdOran.Receiver
open TcdOran.Lib Python

/-! ### The third reader -/

def isObject : Json → Bool
  | .obj _ => true
  | _ => false

/-- `jsonl` of prompt12-t2-postval-evidence-adjudicator.py on the bytes of a file. -/
def jsonl (data : List UInt8) (label : String) : Except String (List Json) := do
  let text ← orRaise (label ++ "_INVALID") (codePoints data)
  -- `read_text` translates line ends, `splitlines` then breaks at more characters than these
  let lines := splitlines (fileLines text).flatten
  let rows ← (lines.filter fun line => strip line ≠ []).mapM fun line =>
    orRaise (label ++ "_INVALID") (Json.parse line)
  require (rows ≠ [] ∧ rows.all isObject) (label ++ "_EMPTY")
  return rows

/-! ### A stream and its lines -/

/-- `line` is what has been read of the current line. -/
def pipeLinesFrom (line : List UInt8) : List UInt8 → List (List UInt8)
  | [] => if line = [] then [] else [line]
  | b :: rest =>
      if b = 10 then (line ++ [b]) :: pipeLinesFrom [] rest else pipeLinesFrom (line ++ [b]) rest

/-- What `readline` returns until the pipe is closed. -/
def pipeLines (stream : List UInt8) : List (List UInt8) := pipeLinesFrom [] stream

/-- The lines of a stream with what the clocks say at each of them. -/
def received (clocks : ℕ → ℤ × ℤ) (stream : List UInt8) : List ReceivedLine :=
  (pipeLines stream).mapIdx fun i line => ⟨line, (clocks i).1, (clocks i).2⟩

section
-- the digest of SHA-256
variable (sha256 : List UInt8 → List UInt8)

end

section
variable {sha256 : List UInt8 → List UInt8}

/-- The bytes of a row in the raw file. -/
def CaptureRow.slice (row : CaptureRow) (raw : List UInt8) : List UInt8 :=
  (raw.drop row.rawOffsetStart).take row.rawLineLengthBytes

end

/-! ### Where the third reader finds other lines -/

section
variable {rows : List CaptureRow}

end

/-! ### The three readers -/

section
variable (sha256 : List UInt8 → List UInt8)

variable {sha256}

end

end TcdOran.Receiver
