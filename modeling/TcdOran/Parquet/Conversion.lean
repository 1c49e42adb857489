import TcdOran.Lib.Attempt
import TcdOran.Lib.TextLines
import TcdOran.Parquet.Converter

/-! The conversion of a file of records: the pass that checks the input, the pass that writes its
rows, and the replacement of the output. -/
namespace TcdOran.Parquet
open TcdOran.Lib Python

/-! ### The two passes over the input -/

structure SourceFile where
  path : Message
  bytes : List UInt8

/-- The error that reading a line of the input runs into, if any. -/
abbrev Reading := ℕ → Option Message

def readLine (reading : Reading) (lineNumber : ℕ) : Except Message Unit :=
  match reading lineNumber with
  | none => .ok ()
  | some error => .error error

/-- The decoder's own description of an error is not part of the message. -/
def inspectLine (fields : List Field) (lineNumber : ℕ) (rawLine : List UInt8) :
    Except Message Row :=
  match codePoints rawLine with
  | none => .error (lineMessage lineNumber (chars "input is not UTF-8: "))
  | some line => do
      require (strip line ≠ []) (lineMessage lineNumber (chars "blank lines are not allowed"))
      parseRow line lineNumber fields

/-- Each line is one row, so that the number of a line is the count of the rows up to it. -/
def inspectLines (reading : Reading) (fields : List Field) (maxRows : ℤ) :
    List (List UInt8) → ℕ → Except Message (List Row)
  | [], lineNumber => do
      readLine reading lineNumber
      return []
  | rawLine :: lines, lineNumber => do
      readLine reading lineNumber
      let row ← inspectLine fields lineNumber rawLine
      rejectIf (maxRows < lineNumber)
        (chars "row count exceeds configured maximum " ++ chars (toString maxRows))
      let rows ← inspectLines reading fields maxRows lines (lineNumber + 1)
      return row :: rows

/-- The rows that the pass has parsed; the source goes on with their number. -/
def inspectSource (reading : Reading) (source : SourceFile) (fields : List Field) (maxRows : ℤ) :
    Except Message (List Row) := do
  let cannotRead (lineNumber : ℕ) := (reading lineNumber).map fun error =>
    chars "cannot read input " ++ source.path ++ chars ": " ++ error
  let rows ← inspectLines cannotRead fields maxRows (splitLines source.bytes) 1
  rejectIf (rows = []) (chars "input contains no canonical records")
  return rows

/-- The lines of the input as text; bytes that are no text raise before the first row here. -/
def sourceText (source : SourceFile) : Except Message (List (List ℕ)) :=
  match codePoints source.bytes with
  | none => .error (chars "'utf-8' codec can't decode bytes")
  | some text => .ok (untranslatedLines text)

def rowsOfLines (reading : Reading) (fields : List Field) :
    List (List ℕ) → ℕ → Except Message (List Row)
  | [], lineNumber => do
      readLine reading lineNumber
      return []
  | line :: lines, lineNumber => do
      readLine reading lineNumber
      let row ← parseRow line lineNumber fields
      let rows ← rowsOfLines reading fields lines (lineNumber + 1)
      return row :: rows

/-- All rows that the generator yields. -/
def iterRows (reading : Reading) (source : SourceFile) (fields : List Field) :
    Except Message (List Row) := do
  let lines ← sourceText source
  rowsOfLines reading fields lines 1

/-! ### The files -/

structure ParquetFile where
  fields : List Field
  sourceSha256 : Message
  rowCount : ℕ
  rowGroups : List (List Row)

inductive Stored
  | bytes (content : List UInt8)
  | parquet (file : ParquetFile)

/-- What stands at the two paths, and how far the conversion has come. -/
structure Files where
  output : Option Stored
  temporary : Option Stored
  writerOpen : Bool
  replaced : Bool

inductive Operation
  | resolvePaths
  | outputParent
  | loadCatalogue
  | inspectLine (lineNumber : ℕ)
  | temporaryExists
  | openWriter
  | readLine (lineNumber : ℕ)
  | writeBatch (number : ℕ)
  | closeWriter
  | fsyncFile
  | replace
  | fsyncDirectory
  | closeAgain
  | unlink

/-- An operation that raises, and what it leaves at the temporary path where it writes there. -/
structure Fault where
  error : Message
  left : Option Stored

/-- What a conversion meets. -/
structure Surroundings where
  input : SourceFile
  sha256 : List UInt8 → Message
  samePaths : Bool
  outputParent : Message
  parentIsDirectory : Bool
  catalogue : List Field
  temporaryPath : Message
  fault : Operation → Option Fault

abbrev Conversion := Attempt Files Message

namespace Surroundings
variable (o : Surroundings)

def step (operation : Operation) : Conversion Unit :=
  match o.fault operation with
  | none => pure ()
  | some fault => throw fault.error

/-- An operation on the temporary file. -/
def write (operation : Operation) (content : Option Stored) : Conversion Unit :=
  match o.fault operation with
  | none => modify fun s => { s with temporary := content }
  | some fault => do
      modify fun s => { s with temporary := fault.left }
      throw fault.error

def openWriter (file : ParquetFile) : Conversion Unit := do
  o.write .openWriter (some (.parquet file))
  modify fun s => { s with writerOpen := true }

def writeBatch (file : ParquetFile) (rows : List Row) : Conversion ParquetFile := do
  let file := { file with rowGroups := file.rowGroups ++ [rows] }
  o.write (.writeBatch file.rowGroups.length) (some (.parquet file))
  return file

def addRow (batchRows : ℤ) (file : ParquetFile) (batch : List Row) :
    Conversion (ParquetFile × List Row) :=
  if batch.length = batchRows then do
    let file ← o.writeBatch file batch
    return (file, [])
  else return (file, batch)

def writeRows (batchRows : ℤ) : List (List ℕ) → ℕ → ParquetFile → List Row →
    Conversion (ParquetFile × List Row)
  | [], lineNumber, file, batch => do
      o.step (.readLine lineNumber)
      return (file, batch)
  | line :: lines, lineNumber, file, batch => do
      o.step (.readLine lineNumber)
      let row ← Attempt.ofExcept (parseRow line lineNumber o.catalogue)
      let (file, batch) ← o.addRow batchRows file (batch ++ [row])
      writeRows batchRows lines (lineNumber + 1) file batch

def writeRest (file : ParquetFile) (batch : List Row) : Conversion ParquetFile :=
  if batch = [] then return file else o.writeBatch file batch

def closeWriter (file : ParquetFile) : Conversion Unit := do
  o.write .closeWriter (some (.parquet file))
  modify fun s => { s with writerOpen := false }

/-- `os.replace` of the output by the temporary file. -/
def replace : Conversion Unit := do
  o.step .replace
  modify fun s => { s with output := s.temporary, temporary := none, replaced := true }

/-- The body of the `try`. -/
def writeOutput (batchRows : ℤ) (file : ParquetFile) : Conversion Unit := do
  o.openWriter file
  let lines ← Attempt.ofExcept (sourceText o.input)
  let (file, batch) ← o.writeRows batchRows lines 1 file []
  let file ← o.writeRest file batch
  o.closeWriter file
  o.step .fsyncFile
  o.replace
  o.step .fsyncDirectory

/-- What closing an open writer raises is passed over. -/
def closeAgain : Conversion Unit := do
  let s ← get
  match s.writerOpen, o.fault .closeAgain with
  | true, some fault => modify fun s => { s with temporary := fault.left }
  | _, _ => pure ()

/-- A temporary file that is not there is passed over. -/
def unlink : Conversion Unit := do
  o.step .unlink
  modify fun s => { s with temporary := none }

def cleanUp (error : Message) : Conversion Unit := do
  o.closeAgain
  o.unlink
  throw error

/-- The checks before the temporary file is made. -/
def prepare (maxRows batchRows : ℤ) : Conversion (List Row) := do
  Attempt.ofExcept (require (1 ≤ maxRows) (chars "max_rows must be positive"))
  Attempt.ofExcept (require (1 ≤ batchRows) (chars "batch_rows must be positive"))
  o.step .resolvePaths
  Attempt.ofExcept (rejectIf o.samePaths (chars "input and output paths must differ"))
  o.step .outputParent
  Attempt.ofExcept (require o.parentIsDirectory
    (chars "output parent directory does not exist: " ++ o.outputParent))
  o.step .loadCatalogue
  let reading (lineNumber : ℕ) := (o.fault (.inspectLine lineNumber)).map Fault.error
  let rows ← Attempt.ofExcept (inspectSource reading o.input o.catalogue maxRows)
  o.step .temporaryExists
  let s ← get
  Attempt.ofExcept (rejectIf s.temporary.isSome
    (chars "temporary path already exists: " ++ o.temporaryPath))
  return rows

def convert (maxRows batchRows : ℤ) : Conversion (Message × ℕ) := do
  let rows ← o.prepare maxRows batchRows
  let sourceSha256 := o.sha256 o.input.bytes
  tryCatch (o.writeOutput batchRows ⟨o.catalogue, sourceSha256, rows.length, []⟩) o.cleanUp
  return (sourceSha256, rows.length)

end Surroundings
end TcdOran.Parquet
