import Mathlib.Tactic
import TcdOran.Collector.CanonicalRecord
import TcdOran.Lib.PrintG

/-! The bounded text builder of canonical_serialize.c. A sequence of appends leaves what the
concatenated text determines: its part that fits, its length and whether it was cut. -/
namespace TcdOran.Collector
open TcdOran.Lib

def sizeMax : ℕ := 2 ^ 64 - 1

/-- A destination buffer: `none` is the null pointer, otherwise the memory behind the pointer
has room for the capacity. -/
structure Destination where
  cells : Option (List UInt8)
  capacity : ℕ
  room : ∀ c ∈ cells, capacity ≤ c.length
  capacity_le : capacity ≤ sizeMax

structure Builder where
  data : Option (List UInt8)
  capacity : ℕ
  length : ℕ
  overflow : Bool

/-- `memcpy(cells + offset, source, |source|)`. -/
def writeCells (cells : List UInt8) (offset : ℕ) (source : List UInt8) : List UInt8 :=
  cells.take offset ++ source ++ cells.drop (offset + source.length)

def builderInit (destination : Destination) : Builder where
  data :=
    if destination.capacity > 0 then destination.cells.map (writeCells · 0 [0])
    else destination.cells
  capacity := destination.capacity
  length := 0
  overflow := false

def builderAppendBytes (text : List UInt8) (builder : Builder) : Builder :=
  let copyLength :=
    if builder.data.isSome ∧ builder.capacity > 0 ∧ builder.length < builder.capacity - 1 then
      min text.length (builder.capacity - 1 - builder.length)
    else 0
  let length :=
    if text.length > sizeMax - builder.length then sizeMax else builder.length + text.length
  { builder with
    data :=
      if builder.capacity > 0 then
        builder.data.map fun cells =>
          writeCells (writeCells cells builder.length (text.take copyLength))
            (if length < builder.capacity then length else builder.capacity - 1) [0]
      else builder.data
    length := length
    overflow := builder.overflow || decide (copyLength < text.length) ||
      decide (text.length > sizeMax - builder.length) }

/-- A number is printed to a local buffer first. -/
def builderAppendFormatted (bufferSize : ℕ) (text : List UInt8) (builder : Builder) : Builder :=
  if text.length ≥ bufferSize then { builder with overflow := true }
  else builderAppendBytes text builder

def builderAppendLiteral (text : String) : Builder → Builder := builderAppendBytes (bytes text)

def builderAppendU32 (value : UInt32) : Builder → Builder :=
  builderAppendFormatted 32 (decimal value.toNat)

def builderAppendU64 (value : UInt64) : Builder → Builder :=
  builderAppendFormatted 32 (decimal value.toNat)

def builderAppendI64 (value : Int64) : Builder → Builder :=
  builderAppendFormatted 32 (signedDecimal value.toInt)

def builderAppendDouble (value : Binary64) : Builder → Builder :=
  builderAppendFormatted 64 (printG17 value)

/-! ### The builder after a text -/

/-- The bytes that fit before the terminator. -/
def Destination.space (destination : Destination) : ℕ :=
  if destination.cells.isSome then destination.capacity - 1 else 0

/-- What any sequence of appends with the concatenation `text` leaves. -/
def render (destination : Destination) (text : List UInt8) : Builder where
  data :=
    if destination.capacity > 0 then
      destination.cells.map (writeCells · 0 (text.take (destination.capacity - 1) ++ [0]))
    else destination.cells
  capacity := destination.capacity
  length := min text.length sizeMax
  overflow := decide (destination.space < text.length)

/-- The step appends this text. -/
def Appends (f : Builder → Builder) (text : List UInt8) : Prop :=
  ∀ destination before, f (render destination before) = render destination (before ++ text)

theorem builderInit_eq (destination : Destination) :
    builderInit destination = render destination [] := by
  simp [builderInit, render]

theorem writeCells_zero (cells source : List UInt8) :
    writeCells cells 0 source = source ++ cells.drop source.length := by
  simp [writeCells]

theorem writeCells_length (before rest source : List UInt8) :
    writeCells (before ++ rest) before.length source =
      before ++ source ++ rest.drop source.length := by
  simp only [writeCells, List.take_left, ← List.drop_drop, List.drop_left]

theorem writeCells_append (cells before text : List UInt8) :
    writeCells (writeCells (writeCells cells 0 (before ++ [0])) before.length text)
      (before.length + text.length) [0] = writeCells cells 0 (before ++ text ++ [0]) := by
  rw [writeCells_zero, writeCells_zero, List.append_assoc before, writeCells_length,
    ← List.length_append, writeCells_length]
  simp only [List.append_assoc, List.singleton_append, List.drop_drop, List.length_append,
    List.length_singleton, List.drop_succ_cons]
  have hdrop : before.length + 1 + text.length = before.length + (text.length + 1) := by omega
  rw [hdrop]

section
variable (destination : Destination) (before text : List UInt8)

/-- `copy_length` after `before` has been appended. -/
def copyLength : ℕ :=
  if before.length < destination.space then min text.length (destination.space - before.length)
  else 0

theorem append_length :
    (if text.length > sizeMax - min before.length sizeMax then sizeMax
      else min before.length sizeMax + text.length) = min (before ++ text).length sizeMax := by
  rw [List.length_append]
  split <;> omega

theorem append_overflow :
    (decide (destination.space < before.length) ||
      decide (copyLength destination before text < text.length) ||
      decide (text.length > sizeMax - min before.length sizeMax)) =
    decide (destination.space < (before ++ text).length) := by
  have hcap := destination.capacity_le
  have hspace : destination.space ≤ sizeMax := by
    unfold Destination.space
    split <;> omega
  rw [← Bool.decide_or, ← Bool.decide_or, List.length_append, copyLength]
  apply decide_eq_decide.mpr
  split <;> omega

theorem copyLength_eq : (if (render destination before).data.isSome ∧ destination.capacity > 0 ∧
      min before.length sizeMax < destination.capacity - 1 then
        min text.length (destination.capacity - 1 - min before.length sizeMax)
      else 0) = copyLength destination before text := by
  have hcap := destination.capacity_le
  cases hc : destination.cells with
  | none => simp [copyLength, Destination.space, render, hc]
  | some cells =>
    have hsome : (render destination before).data.isSome = true := by
      unfold render
      split <;> simp [hc]
    simp only [hsome, true_and, copyLength, Destination.space, hc, Option.isSome_some, if_true]
    by_cases hlt : before.length < destination.capacity - 1
    · rw [if_pos (by omega), if_pos hlt]
      omega
    · rw [if_neg (by omega), if_neg hlt]

theorem append_cells {cells : List UInt8} (hcells : destination.cells = some cells)
    (hpos : 0 < destination.capacity) :
    writeCells (writeCells (writeCells cells 0 (before.take (destination.capacity - 1) ++ [0]))
        (min before.length sizeMax) (text.take (copyLength destination before text)))
      (if min (before ++ text).length sizeMax < destination.capacity then
        min (before ++ text).length sizeMax else destination.capacity - 1) [0] =
    writeCells cells 0 ((before ++ text).take (destination.capacity - 1) ++ [0]) := by
  have hcap := destination.capacity_le
  have hspace : destination.space = destination.capacity - 1 := by simp [Destination.space, hcells]
  rw [List.length_append, copyLength, hspace]
  rcases Nat.lt_or_ge before.length (destination.capacity - 1) with hlt | hge
  · have hmin : min before.length sizeMax = before.length := by omega
    set m := min text.length (destination.capacity - 1 - before.length) with hm
    have hlen : (text.take m).length = m := by
      rw [List.length_take]
      omega
    have hend : (if min (before.length + text.length) sizeMax < destination.capacity then
        min (before.length + text.length) sizeMax else destination.capacity - 1) =
        before.length + (text.take m).length := by
      rw [hlen]
      split <;> omega
    have htake : (before ++ text).take (destination.capacity - 1) = before ++ text.take m := by
      rw [List.take_append, List.take_of_length_le (by omega : before.length ≤ _)]
      congr 1
      rw [List.take_eq_take_iff]
      omega
    rw [if_pos hlt, hmin, hend, htake, List.take_of_length_le (by omega : before.length ≤ _),
      writeCells_append]
  · have hend : (if min (before.length + text.length) sizeMax < destination.capacity then
        min (before.length + text.length) sizeMax else destination.capacity - 1) =
        (before.take (destination.capacity - 1)).length := by
      rw [List.length_take]
      split <;> omega
    have htake : (before ++ text).take (destination.capacity - 1) =
        before.take (destination.capacity - 1) := by
      rw [List.take_append_of_le_length hge]
    rw [if_neg (by omega), hend, htake, List.take_zero]
    have hnil (k : ℕ) (c : List UInt8) : writeCells c k [] = c := by simp [writeCells]
    rw [hnil, writeCells_zero, List.append_assoc, writeCells_length]
    simp

end

theorem appends_bytes (text : List UInt8) : Appends (builderAppendBytes text) text := by
  intro destination before
  unfold builderAppendBytes
  have hcopy := copyLength_eq destination before text
  have hlen := append_length before text
  have hover := append_overflow destination before text
  simp only [show (render destination before).capacity = destination.capacity from rfl,
    show (render destination before).length = min before.length sizeMax from rfl,
    show (render destination before).overflow = decide (destination.space < before.length) from rfl,
    hcopy, hlen, hover]
  rw [render]
  congr 1
  by_cases hpos : destination.capacity > 0
  · cases hc : destination.cells with
    | none => simp
    | some cells =>
      have hcells := append_cells destination before text hc hpos
      simp only [hpos, if_true, Option.map_some]
      rw [hcells]
  · simp [hpos]

/-- Appending stays inside the buffer: no cell is added, whatever the text. -/
theorem render_in_bounds (destination : Destination) (text : List UInt8) {cells : List UInt8}
    (h : destination.cells = some cells) :
    ∃ after, (render destination text).data = some after ∧ after.length = cells.length := by
  have hroom := destination.room cells (by simp [h])
  unfold render
  split
  · refine ⟨writeCells cells 0 (text.take (destination.capacity - 1) ++ [0]), by simp [h], ?_⟩
    rw [writeCells_zero]
    simp only [List.length_append, List.length_take, List.length_singleton, List.length_drop]
    omega
  · exact ⟨cells, h, rfl⟩

theorem appends_nil : Appends id [] := by
  intro destination before
  simp

theorem Appends.comp {f g : Builder → Builder} {text more : List UInt8} (hf : Appends f text)
    (hg : Appends g more) : Appends (g ∘ f) (text ++ more) := by
  intro destination before
  rw [Function.comp_apply, hf, hg, List.append_assoc]

/-- A loop of appends. -/
theorem appends_foldl {α : Type*} {f : α → Builder → Builder} {text : α → List UInt8}
    (h : ∀ x, Appends (f x) (text x)) (xs : List α) :
    Appends (fun builder => xs.foldl (fun builder x => f x builder) builder) (xs.flatMap text) := by
  induction xs with
  | nil => exact appends_nil
  | cons x xs ih =>
    intro destination before
    have hrest := ih destination (before ++ text x)
    simp only [List.foldl_cons, List.flatMap_cons, h x destination before] at hrest ⊢
    rw [hrest, List.append_assoc]

theorem appends_formatted {bufferSize : ℕ} {text : List UInt8} (h : text.length < bufferSize) :
    Appends (builderAppendFormatted bufferSize text) text := by
  intro destination before
  rw [builderAppendFormatted, if_neg (by omega), appends_bytes]

theorem appends_literal (text : String) : Appends (builderAppendLiteral text) (bytes text) :=
  appends_bytes _

theorem appends_u32 (value : UInt32) :
    Appends (builderAppendU32 value) (decimal value.toNat) := by
  have hlen := length_decimal_le (n := value.toNat) (k := 10) (by norm_num)
    (value.toNat_lt.trans (by norm_num))
  exact appends_formatted (by omega)

theorem appends_u64 (value : UInt64) :
    Appends (builderAppendU64 value) (decimal value.toNat) := by
  have hlen := length_decimal_le (n := value.toNat) (k := 20) (by norm_num)
    (value.toNat_lt.trans (by norm_num))
  exact appends_formatted (by omega)

theorem appends_i64 (value : Int64) :
    Appends (builderAppendI64 value) (signedDecimal value.toInt) := by
  have habs : value.toInt.natAbs < 10 ^ 20 := by
    have h1 := value.toInt_lt
    have h2 := value.le_toInt
    omega
  have hlen := length_signedDecimal_le (z := value.toInt) (k := 20) (by norm_num) habs
  exact appends_formatted (by omega)

theorem appends_double (value : Binary64) :
    Appends (builderAppendDouble value) (printG17 value) := by
  have hlen := length_printG17_le value
  exact appends_formatted (by omega)

/-! ### The result -/

/-- What a serializer leaves behind: its answer, the destination buffer and the length it
stores, if it gets that far. -/
structure Serialized where
  result : SerializeResult
  data : Option (List UInt8)
  requiredLength : Option ℕ

def builderResult (builder : Builder) : Serialized where
  result := if builder.overflow then .bufferTooSmall else .ok
  data := builder.data
  requiredLength := some builder.length

/-- The buffer holds the text and its terminator, and the stored length is the text's. -/
def Serialized.Holds (serialized : Serialized) (text : List UInt8) : Prop :=
  serialized.result = .ok ∧ serialized.requiredLength = some text.length ∧
  ∃ cells, serialized.data = some (text ++ 0 :: cells)

theorem builderResult_ok_iff (destination : Destination) (text : List UInt8) :
    (builderResult (render destination text)).result = .ok ↔
      text.length ≤ destination.space := by
  simp [builderResult, render]

/-- With room for the text and its terminator nothing is cut. -/
theorem builderResult_holds {destination : Destination} {text : List UInt8}
    (hcells : destination.cells.isSome) (h : text.length < destination.capacity) :
    (builderResult (render destination text)).Holds text := by
  have hcap := destination.capacity_le
  obtain ⟨cells, hc⟩ := Option.isSome_iff_exists.mp hcells
  have hspace : destination.space = destination.capacity - 1 := by simp [Destination.space, hc]
  refine ⟨(builderResult_ok_iff destination text).mpr (by omega), ?_, cells.drop (text.length + 1), ?_⟩
  · simp only [builderResult, render, Option.some.injEq]
    omega
  · have hpos : destination.capacity > 0 := by omega
    simp only [builderResult, render, hpos, if_true, hc, Option.map_some, writeCells_zero]
    rw [List.take_of_length_le (by omega)]
    simp

/-- The text that a buffer holds is the appended one. -/
theorem builderResult_holds_eq {destination : Destination} {text line : List UInt8}
    (h : (builderResult (render destination text)).Holds line) : line = text := by
  obtain ⟨hok, hlength, cells, hdata⟩ := h
  have hcap := destination.capacity_le
  have hroom := (builderResult_ok_iff destination text).mp hok
  have hspace : destination.space ≤ destination.capacity - 1 := by
    unfold Destination.space
    split <;> omega
  have hlen : text.length = line.length := by
    simp only [builderResult, render, Option.some.injEq] at hlength
    omega
  rcases Nat.eq_zero_or_pos destination.capacity with hzero | hpos
  · have htext : text = [] := List.eq_nil_of_length_eq_zero (by omega)
    have hline : line = [] := List.eq_nil_of_length_eq_zero (by omega)
    rw [htext, hline]
  · simp only [builderResult, render, gt_iff_lt, if_pos hpos, Option.map_eq_some_iff] at hdata
    obtain ⟨before, -, hwrite⟩ := hdata
    rw [writeCells_zero, List.take_of_length_le (by omega), List.append_assoc] at hwrite
    exact (List.append_inj hwrite hlen).1.symm

end TcdOran.Collector
