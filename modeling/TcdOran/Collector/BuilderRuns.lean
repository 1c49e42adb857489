import Mathlib.Tactic
import TcdOran.Collector.TextBuilder

/-! Runs of the bounded text builder: any sequence of its append operations on any destination,
with the stores it makes on the way. -/
namespace TcdOran.Collector
open TcdOran.Lib

/-- A store to the destination: the bytes that go to `data + offset`. -/
structure CellWrite where
  offset : ℕ
  source : List UInt8

namespace CellWrite

def apply (cells : List UInt8) (write : CellWrite) : List UInt8 :=
  writeCells cells write.offset write.source

/-- The cells after a sequence of stores. -/
def applyAll (writes : List CellWrite) (cells : List UInt8) : List UInt8 :=
  writes.foldl apply cells

/-- Only bytes below the capacity are written. -/
def Below (capacity : ℕ) (write : CellWrite) : Prop :=
  write.offset + write.source.length ≤ capacity

@[simp] theorem applyAll_nil (cells : List UInt8) : applyAll [] cells = cells := rfl

@[simp] theorem applyAll_cons (write : CellWrite) (writes : List CellWrite) (cells : List UInt8) :
    applyAll (write :: writes) cells = applyAll writes (write.apply cells) := rfl

theorem applyAll_append (first second : List CellWrite) (cells : List UInt8) :
    applyAll (first ++ second) cells = applyAll second (applyAll first cells) :=
  List.foldl_append

end CellWrite

/-- The store of `builder_init`. -/
def builderInitWrites (destination : Destination) : List CellWrite :=
  if destination.cells.isSome ∧ destination.capacity > 0 then [⟨0, [0]⟩] else []

/-- The stores of `builder_append_bytes`: the `memcpy`, if anything fits, and the terminator. -/
def builderAppendWrites (text : List UInt8) (builder : Builder) : List CellWrite :=
  let copyLength :=
    if builder.data.isSome ∧ builder.capacity > 0 ∧ builder.length < builder.capacity - 1 then
      min text.length (builder.capacity - 1 - builder.length)
    else 0
  let length :=
    if text.length > sizeMax - builder.length then sizeMax else builder.length + text.length
  (if copyLength > 0 then [⟨builder.length, text.take copyLength⟩] else []) ++
  (if builder.data.isSome ∧ builder.capacity > 0 then
    [⟨if length < builder.capacity then length else builder.capacity - 1, [0]⟩] else [])

/-- The append operations; the text of a literal ends at its NUL. -/
inductive AppendOperation where
  | bytes (text : List UInt8)
  | literal (text : {text : String // (0 : UInt8) ∉ bytes text})
  | u32 (value : UInt32)
  | u64 (value : UInt64)
  | i64 (value : Int64)
  | double (value : Binary64)

namespace AppendOperation

def run : AppendOperation → Builder → Builder
  | .bytes text => builderAppendBytes text
  | .literal text => builderAppendLiteral text
  | .u32 value => builderAppendU32 value
  | .u64 value => builderAppendU64 value
  | .i64 value => builderAppendI64 value
  | .double value => builderAppendDouble value

/-- What the operation appends. -/
def text : AppendOperation → List UInt8
  | .bytes text => text
  | .literal text => Lib.bytes text
  | .u32 value => decimal value.toNat
  | .u64 value => decimal value.toNat
  | .i64 value => signedDecimal value.toInt
  | .double value => printG17 value

/-- A number whose text does not fit the local buffer is not stored. -/
def writes : AppendOperation → Builder → List CellWrite
  | .bytes text, builder => builderAppendWrites text builder
  | .literal text, builder => builderAppendWrites (Lib.bytes text) builder
  | .u32 value, builder => formatted 32 (decimal value.toNat) builder
  | .u64 value, builder => formatted 32 (decimal value.toNat) builder
  | .i64 value, builder => formatted 32 (signedDecimal value.toInt) builder
  | .double value, builder => formatted 64 (printG17 value) builder
where
  formatted (bufferSize : ℕ) (text : List UInt8) (builder : Builder) : List CellWrite :=
    if text.length ≥ bufferSize then [] else builderAppendWrites text builder

theorem appends_run (operation : AppendOperation) : Appends operation.run operation.text := by
  cases operation with
  | bytes text => exact appends_bytes text
  | literal text => exact appends_literal text
  | u32 value => exact appends_u32 value
  | u64 value => exact appends_u64 value
  | i64 value => exact appends_i64 value
  | double value => exact appends_double value

end AppendOperation

/-- The text of a sequence of operations. -/
def appendedText (operations : List AppendOperation) : List UInt8 :=
  operations.flatMap AppendOperation.text

/-- The operations one after the other. -/
def builderRun (destination : Destination) (operations : List AppendOperation) : Builder :=
  operations.foldl (fun builder operation => operation.run builder) (builderInit destination)

/-- The stores of the operations from this builder on. -/
def writesFrom : Builder → List AppendOperation → List CellWrite
  | _, [] => []
  | builder, operation :: operations =>
      operation.writes builder ++ writesFrom (operation.run builder) operations

def builderRunWrites (destination : Destination) (operations : List AppendOperation) :
    List CellWrite :=
  builderInitWrites destination ++ writesFrom (builderInit destination) operations

/-! ### The stores make the cells -/

theorem builderInit_writes (destination : Destination) :
    (builderInit destination).data =
      destination.cells.map (CellWrite.applyAll (builderInitWrites destination)) := by
  unfold builderInit builderInitWrites
  cases hcells : destination.cells with
  | none => simp
  | some cells =>
    by_cases hpos : destination.capacity > 0
    · simp [hpos, CellWrite.apply]
    · simp [hpos]

/-- A `memcpy` of nothing may as well be left out. -/
theorem applyAll_copy (cells text : List UInt8) (offset copyLength : ℕ) :
    CellWrite.applyAll (if copyLength > 0 then [⟨offset, text.take copyLength⟩] else []) cells =
      writeCells cells offset (text.take copyLength) := by
  by_cases hcopy : copyLength > 0
  · rw [if_pos hcopy]
    rfl
  · obtain rfl : copyLength = 0 := by omega
    simp [writeCells]

theorem builderAppendBytes_writes (text : List UInt8) (builder : Builder) :
    (builderAppendBytes text builder).data =
      builder.data.map (CellWrite.applyAll (builderAppendWrites text builder)) := by
  unfold builderAppendBytes builderAppendWrites
  cases hdata : builder.data with
  | none => simp
  | some cells =>
    by_cases hpos : builder.capacity > 0
    · simp only [hpos, if_true, Option.map_some, CellWrite.applyAll_append, applyAll_copy,
        Option.isSome_some, and_self, CellWrite.applyAll_cons, CellWrite.applyAll_nil,
        CellWrite.apply]
    · simp [hpos]

theorem AppendOperation.formatted_writes (bufferSize : ℕ) (text : List UInt8)
    (builder : Builder) : (builderAppendFormatted bufferSize text builder).data =
      builder.data.map (CellWrite.applyAll (writes.formatted bufferSize text builder)) := by
  unfold builderAppendFormatted AppendOperation.writes.formatted
  split
  · cases builder.data <;> rfl
  · exact builderAppendBytes_writes text builder

theorem AppendOperation.run_writes (operation : AppendOperation) (builder : Builder) :
    (operation.run builder).data =
      builder.data.map (CellWrite.applyAll (operation.writes builder)) := by
  cases operation with
  | bytes text => exact builderAppendBytes_writes text builder
  | literal text => exact builderAppendBytes_writes (Lib.bytes text) builder
  | u32 value => exact formatted_writes 32 _ builder
  | u64 value => exact formatted_writes 32 _ builder
  | i64 value => exact formatted_writes 32 _ builder
  | double value => exact formatted_writes 64 _ builder

theorem foldl_run_writes (operations : List AppendOperation) (builder : Builder) :
    (operations.foldl (fun builder operation => operation.run builder) builder).data =
      builder.data.map (CellWrite.applyAll (writesFrom builder operations)) := by
  induction operations generalizing builder with
  | nil => cases hdata : builder.data <;> simp [writesFrom, hdata]
  | cons operation operations ih =>
    rw [List.foldl_cons, ih, operation.run_writes, Option.map_map, writesFrom]
    congr 1
    funext cells
    rw [Function.comp_apply, CellWrite.applyAll_append]

theorem builderRun_writes (destination : Destination) (operations : List AppendOperation) :
    (builderRun destination operations).data =
      destination.cells.map (CellWrite.applyAll (builderRunWrites destination operations)) := by
  rw [builderRun, foldl_run_writes, builderInit_writes, Option.map_map, builderRunWrites]
  congr 1
  funext cells
  rw [Function.comp_apply, CellWrite.applyAll_append]

/-! ### Every store is below the capacity -/

theorem builderAppendWrites_below (text : List UInt8) (builder : Builder) {write : CellWrite}
    (h : write ∈ builderAppendWrites text builder) : write.Below builder.capacity := by
  simp only [builderAppendWrites, List.mem_append] at h
  rcases h with hcopy | hterminator
  · split_ifs at hcopy with hroom hsome hnone
    · rw [List.mem_singleton] at hcopy
      rw [hcopy, CellWrite.Below, List.length_take]
      simp only
      omega
    · simp at hcopy
    · exact absurd hnone (by omega)
    · simp at hcopy
  · split_ifs at hterminator with hdata hfits
    all_goals
      simp only [List.mem_singleton, List.not_mem_nil] at hterminator
    all_goals
      rw [hterminator, CellWrite.Below, List.length_singleton]
      simp only
      omega

theorem AppendOperation.writes_below (operation : AppendOperation) (builder : Builder)
    {write : CellWrite} (h : write ∈ operation.writes builder) : write.Below builder.capacity := by
  have hformatted (bufferSize : ℕ) (text : List UInt8)
      (hmem : write ∈ writes.formatted bufferSize text builder) :
      write.Below builder.capacity := by
    rw [writes.formatted] at hmem
    split at hmem
    · simp at hmem
    · exact builderAppendWrites_below text builder hmem
  cases operation with
  | bytes text => exact builderAppendWrites_below _ builder h
  | literal text => exact builderAppendWrites_below _ builder h
  | u32 value => exact hformatted 32 _ h
  | u64 value => exact hformatted 32 _ h
  | i64 value => exact hformatted 32 _ h
  | double value => exact hformatted 64 _ h

theorem writesFrom_below (destination : Destination) (operations : List AppendOperation)
    (before : List UInt8) {write : CellWrite}
    (h : write ∈ writesFrom (render destination before) operations) :
    write.Below destination.capacity := by
  induction operations generalizing before with
  | nil => simp [writesFrom] at h
  | cons operation operations ih =>
    rw [writesFrom, List.mem_append] at h
    rcases h with hfirst | hrest
    · exact operation.writes_below (render destination before) hfirst
    · rw [operation.appends_run destination before] at hrest
      exact ih (before ++ operation.text) hrest

theorem builderRunWrites_below (destination : Destination) (operations : List AppendOperation)
    {write : CellWrite} (h : write ∈ builderRunWrites destination operations) :
    write.Below destination.capacity := by
  rw [builderRunWrites, List.mem_append] at h
  rcases h with hinit | hrest
  · rw [builderInitWrites] at hinit
    split at hinit
    · next hroom =>
      rw [List.mem_singleton] at hinit
      rw [hinit]
      exact hroom.2
    · simp at hinit
  · rw [builderInit_eq] at hrest
    exact writesFrom_below destination operations [] hrest

/-! ### What a run leaves -/

theorem builderRun_eq (destination : Destination) (operations : List AppendOperation) :
    builderRun destination operations = render destination (appendedText operations) := by
  have h := appends_foldl AppendOperation.appends_run operations destination []
  rw [builderRun, builderInit_eq]
  exact h

/-- What the buffer holds behind a non-null pointer: the part of the text that fits, a NUL, and
the cells behind it as they were. -/
theorem builderRun_cells {destination : Destination} {cells : List UInt8}
    (hcells : destination.cells = some cells) (hpos : 0 < destination.capacity)
    (operations : List AppendOperation) :
    let kept := min (appendedText operations).length (destination.capacity - 1)
    (builderRun destination operations).data =
      some ((appendedText operations).take kept ++ 0 :: cells.drop (kept + 1)) := by
  have hlen : ((appendedText operations).take (destination.capacity - 1)).length =
      min (appendedText operations).length (destination.capacity - 1) := by
    rw [List.length_take, Nat.min_comm]
  have htake : (appendedText operations).take
      (min (appendedText operations).length (destination.capacity - 1)) =
        (appendedText operations).take (destination.capacity - 1) := by
    rw [List.take_eq_take_iff]
    omega
  simp only [builderRun_eq, render, gt_iff_lt, hpos, if_true, hcells, Option.map_some,
    writeCells_zero, htake]
  rw [List.length_append, hlen, List.length_singleton, List.append_assoc, List.singleton_append]

theorem builderResult_run_ok_iff {destination : Destination} {operations : List AppendOperation}
    (hne : appendedText operations ≠ []) :
    (builderResult (builderRun destination operations)).result = .ok ↔
      destination.cells.isSome ∧ (appendedText operations).length < destination.capacity := by
  have hpos := List.length_pos_of_ne_nil hne
  rw [builderRun_eq, builderResult_ok_iff, Destination.space]
  split
  · next hsome => simp only [hsome, true_and]; omega
  · next hnone => simp only [hnone]; simp; omega

theorem length_appendedText_replicate (count length : ℕ) (byte : UInt8) :
    (appendedText (List.replicate count (.bytes (List.replicate length byte)))).length =
      count * length := by
  simp [appendedText, AppendOperation.text, List.length_flatMap, List.map_replicate,
    List.sum_replicate]

/-- The two passes over any sequence of operations with a non-empty text: the length that the
first one reports does not depend on the destination, the second succeeds exactly with a
destination longer than it, and no store of either reaches the capacity. -/
theorem builderRun_correct (destination : Destination) (operations : List AppendOperation)
    (hne : appendedText operations ≠ []) :
    (builderResult (builderRun destination operations)).requiredLength =
      some (min (appendedText operations).length sizeMax) ∧
    ((builderResult (builderRun destination operations)).result = .ok ↔
      destination.cells.isSome ∧ (appendedText operations).length < destination.capacity) ∧
    (∀ cells, destination.cells = some cells → 0 < destination.capacity →
      ∀ before after, operations = before ++ after →
        let kept := min (appendedText before).length (destination.capacity - 1)
        (builderRun destination before).data =
          some ((appendedText before).take kept ++ 0 :: cells.drop (kept + 1))) ∧
    (builderRun destination operations).data =
      destination.cells.map (CellWrite.applyAll (builderRunWrites destination operations)) ∧
    ∀ write ∈ builderRunWrites destination operations, write.Below destination.capacity := by
  refine ⟨?_, builderResult_run_ok_iff hne, ?_, builderRun_writes destination operations, ?_⟩
  · rw [builderRun_eq]
    rfl
  · intro cells hcells hpos before after _
    exact builderRun_cells hcells hpos before
  · intro write hwrite
    exact builderRunWrites_below destination operations hwrite

theorem builderRun_correct_sample :
    let destination : Destination := ⟨some [1, 1, 1, 1], 3, by simp, by decide⟩
    let operations := [AppendOperation.bytes [0x61, 0x62], .literal ⟨"c", by decide⟩]
    (builderResult (builderRun destination operations)).requiredLength =
      some (min (appendedText operations).length sizeMax) ∧
    ((builderResult (builderRun destination operations)).result = .ok ↔
      destination.cells.isSome ∧ (appendedText operations).length < destination.capacity) := by
  intro destination operations
  have h := builderRun_correct destination operations (by decide)
  exact ⟨h.1, h.2.1⟩

/-- A null pointer never gets the text, whatever capacity goes with it, and a total that
`size_t` cannot hold is reported as its largest value. -/
theorem null_and_saturated_runs :
    (let destination : Destination := ⟨none, 2, by simp, by decide⟩
    let operations := [AppendOperation.bytes [0x61]]
    (appendedText operations).length = 1 ∧ 1 < destination.capacity ∧
    (builderResult (builderRun destination operations)).requiredLength = some 1 ∧
    (builderResult (builderRun destination operations)).result = .bufferTooSmall) ∧
    (let destination : Destination := ⟨none, 0, by simp, by decide⟩
    let operations :=
      List.replicate (2 ^ 32) (AppendOperation.bytes (List.replicate (2 ^ 32) 0x61))
    (appendedText operations).length = 2 ^ 64 ∧
    (builderResult (builderRun destination operations)).requiredLength = some (2 ^ 64 - 1)) := by
  constructor
  · exact ⟨rfl, by decide, rfl, rfl⟩
  · intro destination operations
    have hlength : (appendedText operations).length = 2 ^ 64 := by
      rw [length_appendedText_replicate]
      norm_num
    refine ⟨hlength, ?_⟩
    rw [builderRun_eq]
    simp only [builderResult, render, hlength, sizeMax]
    norm_num

end TcdOran.Collector
