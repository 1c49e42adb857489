import Mathlib.Data.List.DropRight
import TcdOran.Lib.Json

/-! What the Python programs use of strings and of decoded JSON. A string is the list of its code
points. -/
namespace TcdOran.Lib.Python

/-- The characters with `str.isspace`. -/
def isSpace (u : ℕ) : Bool :=
  (9 ≤ u ∧ u ≤ 13) ∨ (28 ≤ u ∧ u ≤ 32) ∨ u = 0x85 ∨ u = 0xA0 ∨ u = 0x1680 ∨
    (0x2000 ≤ u ∧ u ≤ 0x200A) ∨ u = 0x2028 ∨ u = 0x2029 ∨ u = 0x202F ∨ u = 0x205F ∨ u = 0x3000

/-- `str.strip()`. -/
def strip (text : List ℕ) : List ℕ := (text.dropWhile isSpace).rdropWhile isSpace

def isLineBreak (u : ℕ) : Bool :=
  (10 ≤ u ∧ u ≤ 13) ∨ (28 ≤ u ∧ u ≤ 30) ∨ u = 0x85 ∨ u = 0x2028 ∨ u = 0x2029

/-- `line` is what has been read of the current line. -/
def splitlinesFrom (line : List ℕ) : List ℕ → List (List ℕ)
  | [] => if line = [] then [] else [line]
  | u :: rest =>
      -- a carriage return and the line feed behind it are one break
      if u = 13 ∧ rest.head? = some 10 then splitlinesFrom line rest
      else if isLineBreak u then line :: splitlinesFrom [] rest
      else splitlinesFrom (line ++ [u]) rest

/-- `str.splitlines()`. -/
def splitlines (text : List ℕ) : List (List ℕ) := splitlinesFrom [] text

/-- `str(z)` of an integer. -/
def intText (z : ℤ) : List ℕ := (signedDecimal z).map UInt8.toNat

/-- What `json.loads` makes of a text. Besides `JSONDecodeError` it raises other exceptions where
the text is nested too deep for the interpreter or has an integer of too many digits. -/
inductive Loaded where
  | value (value : Json)
  | syntaxError
  | gaveUp

/-- `json.loads` on the JSON grammar without the constants `NaN` and `Infinity`, where no limit of
the interpreter is met. -/
def plainLoads (text : List ℕ) : Loaded :=
  match Json.parse text with
  | some value => .value value
  | none => .syntaxError

/-- Of repeated keys the last one counts. -/
def dictLookup (members : List (List ℕ × Json)) (key : List ℕ) : Option Json :=
  members.reverse.lookup key

/-- `value == text` for a string. -/
def isText (value : Json) (text : List ℕ) : Bool :=
  match value with
  | .str units => units = text
  | _ => false

theorem isText_iff {value : Json} {text : List ℕ} : isText value text = true ↔ value = .str text := by
  cases value <;> simp [isText]

/-! Texts of values without escapes. -/

def quoted (text : String) : List ℕ := chars "\"" ++ chars text ++ chars "\""

def listText (items : List (List ℕ)) : List ℕ :=
  chars "[" ++ (chars ",").intercalate items ++ chars "]"

def dictText (items : List (String × List ℕ)) : List ℕ :=
  chars "\x7b" ++ (chars ",").intercalate (items.map fun (key, value) =>
    quoted key ++ chars ":" ++ value) ++ chars "\x7d"

example : splitlines (strip (chars " a\n\nRATIO_BOUND=PASS\r\n")) =
    [chars "a", [], chars "RATIO_BOUND=PASS"] := by decide

end TcdOran.Lib.Python
