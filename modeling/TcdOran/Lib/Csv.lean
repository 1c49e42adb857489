import Mathlib.Tactic
import TcdOran.Lib.Text

/-! An RFC 4180 decoder, one byte at a time, and what it makes of rows that a printer has
written. Records end with LF or CRLF; a cell keeps whether it was quoted. -/
namespace TcdOran.Lib.Csv

structure Cell where
  quoted : Bool
  text : List UInt8
  deriving DecidableEq

/-- Where the decoder stands in the cell it reads: `closing` is behind a quote inside a quoted
cell, `carriage` behind a CR outside of one. -/
inductive Position
  | start
  | plain (text : List UInt8)
  | quoted (text : List UInt8)
  | closing (text : List UInt8)
  | carriage (cell : Cell)

/-- The complete rows, the complete cells of the row that is read, and the position. -/
structure Decoder where
  rows : List (List Cell)
  cells : List Cell
  position : Position

def Decoder.start : Decoder := ⟨[], [], .start⟩

def Decoder.endCell (d : Decoder) (cell : Cell) : Decoder :=
  { d with cells := d.cells ++ [cell], position := .start }

def Decoder.endRow (d : Decoder) (cell : Cell) : Decoder :=
  ⟨d.rows ++ [d.cells ++ [cell]], [], .start⟩

/-- Behind a cell that is complete: a comma, the end of the row, or a CR before it. -/
def Decoder.delimit (d : Decoder) (cell : Cell) (byte : UInt8) : Option Decoder :=
  if byte = 44 then some (d.endCell cell)
  else if byte = 10 then some (d.endRow cell)
  else if byte = 13 then some { d with position := .carriage cell }
  else none

/-- A quote inside an unquoted cell, and text behind the closing quote, are errors. -/
def Decoder.step (d : Decoder) (byte : UInt8) : Option Decoder :=
  match d.position with
  | .start =>
      if byte = 34 then some { d with position := .quoted [] }
      else if byte = 44 ∨ byte = 10 ∨ byte = 13 then d.delimit ⟨false, []⟩ byte
      else some { d with position := .plain [byte] }
  | .plain text =>
      if byte = 34 then none
      else if byte = 44 ∨ byte = 10 ∨ byte = 13 then d.delimit ⟨false, text⟩ byte
      else some { d with position := .plain (text ++ [byte]) }
  | .quoted text =>
      if byte = 34 then some { d with position := .closing text }
      else some { d with position := .quoted (text ++ [byte]) }
  | .closing text =>
      if byte = 34 then some { d with position := .quoted (text ++ [34]) }
      else d.delimit ⟨true, text⟩ byte
  | .carriage cell => if byte = 10 then some (d.endRow cell) else none

/-- The last row may lack its line end. -/
def Decoder.finish (d : Decoder) : Option (List (List Cell)) :=
  match d.position with
  | .start =>
      if d.cells = [] then some d.rows else some (d.rows ++ [d.cells ++ [⟨false, []⟩]])
  | .plain text => some (d.rows ++ [d.cells ++ [⟨false, text⟩]])
  | .closing text => some (d.rows ++ [d.cells ++ [⟨true, text⟩]])
  | .quoted _ => none
  | .carriage _ => none

def Decoder.run (d : Decoder) (bytes : List UInt8) : Option Decoder := bytes.foldlM Decoder.step d

def decode (bytes : List UInt8) : Option (List (List Cell)) :=
  (Decoder.start.run bytes).bind Decoder.finish

/-! ### Cells -/

@[simp] theorem run_nil (d : Decoder) : d.run [] = some d := rfl

theorem run_cons (d : Decoder) (byte : UInt8) (bytes : List UInt8) :
    d.run (byte :: bytes) = (d.step byte).bind fun d => d.run bytes := rfl

theorem run_append (d : Decoder) (as bs : List UInt8) :
    d.run (as ++ bs) = (d.run as).bind fun d => d.run bs := by
  simp [Decoder.run, List.foldlM_append]

/-- The text of a cell: it is read up to the byte that delimits the cell. -/
def Writes (text : List UInt8) (cell : Cell) : Prop :=
  ∀ rows cells byte, byte = 44 ∨ byte = 10 →
    (Decoder.mk rows cells .start).run (text ++ [byte]) =
      (Decoder.mk rows cells .start).delimit cell byte

def escape (byte : UInt8) : List UInt8 := if byte = 34 then [34, 34] else [byte]

/-- A byte that may stand in an unquoted cell. -/
def Bare (byte : UInt8) : Prop := byte ≠ 34 ∧ byte ≠ 44 ∧ byte ≠ 10 ∧ byte ≠ 13

instance (byte : UInt8) : Decidable (Bare byte) := inferInstanceAs (Decidable (_ ∧ _))

theorem run_escaped (rows : List (List Cell)) (cells : List Cell) (text before : List UInt8) :
    (Decoder.mk rows cells (.quoted before)).run (text.flatMap escape) =
      some ⟨rows, cells, .quoted (before ++ text)⟩ := by
  induction text generalizing before with
  | nil => simp
  | cons byte text ih =>
    rw [List.flatMap_cons, run_append]
    have hbyte : (Decoder.mk rows cells (.quoted before)).run (escape byte) =
        some ⟨rows, cells, .quoted (before ++ [byte])⟩ := by
      unfold escape
      split
      · next h => simp [h, run_cons, Decoder.step]
      · next h => simp [h, run_cons, Decoder.step]
    rw [hbyte, Option.bind_some, ih]
    simp

theorem writes_quoted (text : List UInt8) :
    Writes ([34] ++ text.flatMap escape ++ [34]) ⟨true, text⟩ := by
  intro rows cells byte hbyte
  have h34 : byte ≠ 34 := by rcases hbyte with rfl | rfl <;> decide
  have hopen : (Decoder.mk rows cells .start).run [34] =
      some ⟨rows, cells, .quoted []⟩ := rfl
  have hclose : (Decoder.mk rows cells (.quoted text)).run ([34] ++ [byte]) =
      (Decoder.mk rows cells .start).delimit ⟨true, text⟩ byte := by
    simp only [List.singleton_append, run_cons, Decoder.step, if_true, Option.bind_some, h34,
      if_false, run_nil, Option.bind_fun_some]
    rfl
  rw [List.append_assoc, List.append_assoc, run_append, hopen, Option.bind_some, run_append,
    run_escaped, Option.bind_some, List.nil_append, hclose]

theorem run_bare {text : List UInt8} (h : ∀ b ∈ text, Bare b) (rows : List (List Cell))
    (cells : List Cell) (before : List UInt8) :
    (Decoder.mk rows cells (.plain before)).run text =
      some ⟨rows, cells, .plain (before ++ text)⟩ := by
  induction text generalizing before with
  | nil => simp
  | cons byte text ih =>
    obtain ⟨h34, h44, h10, h13⟩ := h byte List.mem_cons_self
    have hstep : (Decoder.mk rows cells (.plain before)).step byte =
        some ⟨rows, cells, .plain (before ++ [byte])⟩ := by
      simp [Decoder.step, h34, h44, h10, h13]
    rw [run_cons, hstep, Option.bind_some, ih fun b hb => h b (List.mem_cons_of_mem byte hb)]
    simp

theorem delimit_position (rows : List (List Cell)) (cells : List Cell) (p q : Position)
    (cell : Cell) {byte : UInt8} (h : byte = 44 ∨ byte = 10) :
    (Decoder.mk rows cells p).delimit cell byte = (Decoder.mk rows cells q).delimit cell byte := by
  rcases h with rfl | rfl <;> rfl

theorem bare_of_all {text : List UInt8} (h : text.all (fun b => decide (Bare b)) = true) :
    ∀ b ∈ text, Bare b :=
  fun b hb => of_decide_eq_true (List.all_eq_true.mp h b hb)

theorem writes_bare {text : List UInt8} (h : ∀ b ∈ text, Bare b) : Writes text ⟨false, text⟩ := by
  intro rows cells byte hbyte
  cases text with
  | nil => rcases hbyte with rfl | rfl <;> rfl
  | cons first text =>
    obtain ⟨h34, h44, h10, h13⟩ := h first List.mem_cons_self
    have hstep : (Decoder.mk rows cells .start).step first =
        some ⟨rows, cells, .plain [first]⟩ := by
      simp [Decoder.step, h34, h44, h10, h13]
    rw [List.cons_append, run_cons, hstep, Option.bind_some, run_append,
      run_bare fun b hb => h b (List.mem_cons_of_mem first hb), Option.bind_some]
    rcases hbyte with rfl | rfl <;> rfl

/-! ### Rows -/

theorem run_row {texts : List (List UInt8)} {row : List Cell}
    (h : List.Forall₂ Writes texts row) (hne : texts ≠ []) (rows : List (List Cell))
    (cells : List Cell) :
    (Decoder.mk rows cells .start).run (List.intercalate [44] texts ++ [10]) =
      some ⟨rows ++ [cells ++ row], [], .start⟩ := by
  induction h generalizing cells with
  | nil => exact absurd rfl hne
  | @cons text cell texts row hcell hrest ih =>
    cases hrest with
    | nil =>
      rw [List.intercalate, List.intersperse_singleton, List.flatten_singleton,
        hcell rows cells 10 (.inr rfl)]
      rfl
    | @cons next nextCell texts row hnext hrest =>
      have hsplit : List.intercalate [44] (text :: next :: texts) ++ [10] =
          (text ++ [44]) ++ (List.intercalate [44] (next :: texts) ++ [10]) := by
        simp [List.intercalate]
      have hcomma : (Decoder.mk rows cells .start).delimit cell 44 =
          some ⟨rows, cells ++ [cell], .start⟩ := rfl
      rw [hsplit, run_append, hcell rows cells 44 (.inl rfl), hcomma, Option.bind_some,
        ih (by simp)]
      simp

/-- Whole rows, one after the other. -/
theorem run_rows {lines : List (List UInt8)} {table : List (List Cell)}
    (h : List.Forall₂ (fun line row => ∀ rows, (Decoder.mk rows [] .start).run line =
      some ⟨rows ++ [row], [], .start⟩) lines table) (rows : List (List Cell)) :
    (Decoder.mk rows [] .start).run lines.flatten = some ⟨rows ++ table, [], .start⟩ := by
  induction h generalizing rows with
  | nil => simp
  | @cons line row lines table hline _ ih =>
    rw [List.flatten_cons, run_append, hline, Option.bind_some, ih]
    simp

theorem decode_rows {lines : List (List UInt8)} {table : List (List Cell)}
    (h : List.Forall₂ (fun line row => ∀ rows, (Decoder.mk rows [] .start).run line =
      some ⟨rows ++ [row], [], .start⟩) lines table) : decode lines.flatten = some table := by
  rw [decode, Decoder.start, run_rows h []]
  rfl

example : decode [34, 97, 34, 34, 10, 34, 44, 44, 34, 34, 13, 10] =
    some [[⟨true, [97, 34, 10]⟩, ⟨false, []⟩, ⟨true, []⟩]] := by decide

end TcdOran.Lib.Csv
