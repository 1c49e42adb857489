import Mathlib.Data.Nat.ModEq
import Mathlib.Data.Vector.Basic

/-! Circular buffers. A ring stores its elements in a fixed array and keeps a head, a
tail and a count; its meaning is the list read from the head. -/
namespace TcdOran.Lib

structure Ring (α : Type*) (cap : ℕ) where
  cells : Vector α cap
  head : ℕ
  tail : ℕ
  count : ℕ

namespace Ring
variable {α : Type*} {cap : ℕ}

/-- The slot `i` places after the head, with wrap-around. -/
def slot [NeZero cap] (r : Ring α cap) (i : ℕ) : α :=
  have hlt : (r.head + i) % cap < cap := Nat.mod_lt _ (Nat.pos_of_neZero cap)
  r.cells[(r.head + i) % cap]

/-- The elements in order: `count` slots read from the head. -/
def contents [NeZero cap] (r : Ring α cap) : List α := (List.range r.count).map r.slot

def push (r : Ring α cap) (x : α) : Ring α cap :=
  { cells := r.cells.setIfInBounds r.tail x
    head := r.head
    tail := (r.tail + 1) % cap
    count := r.count + 1 }

/-- Reading outside the array answers `none`. -/
def pop (r : Ring α cap) : Option (α × Ring α cap) := do
  let x ← r.cells[r.head]?
  return (x, { r with head := (r.head + 1) % cap, count := r.count - 1 })

structure Valid (r : Ring α cap) : Prop where
  head_lt : r.head < cap
  count_le : r.count ≤ cap
  tail_eq : r.tail = (r.head + r.count) % cap

/-- Two offsets below the capacity that reach the same slot are equal. -/
theorem wrap_injective {h i j : ℕ} (hi : i < cap) (hj : j < cap)
    (heq : (h + i) % cap = (h + j) % cap) : i = j := by
  have hmod : i ≡ j [MOD cap] := Nat.ModEq.add_left_cancel' h heq
  exact Nat.ModEq.eq_of_lt_of_lt hmod hi hj

variable {r : Ring α cap}

theorem Valid.push (hv : r.Valid) (hspace : r.count < cap) (x : α) : (r.push x).Valid where
  head_lt := hv.head_lt
  count_le := hspace
  tail_eq := by
    simp only [Ring.push, hv.tail_eq, Nat.mod_add_mod, Nat.add_assoc]

variable [NeZero cap]

theorem length_contents (r : Ring α cap) : r.contents.length = r.count := by
  simp [contents]

theorem contents_eq_nil_iff : r.contents = [] ↔ r.count = 0 := by
  rw [← List.length_eq_zero_iff, length_contents]

theorem slot_push_last (hv : r.Valid) (x : α) : (r.push x).slot r.count = x := by
  have ht : (r.head + r.count) % cap = r.tail := hv.tail_eq.symm
  simp [slot, Ring.push, ht]

theorem slot_push_of_lt (hv : r.Valid) (hspace : r.count < cap) (x : α) {i : ℕ}
    (hi : i < r.count) : (r.push x).slot i = r.slot i := by
  have hne : r.tail ≠ (r.head + i) % cap := by
    intro heq
    have := wrap_injective hspace (hi.trans hspace) (hv.tail_eq.symm.trans heq)
    omega
  simp [slot, Ring.push, hne]

/-- Pushing into a ring with space appends. -/
theorem contents_push (hv : r.Valid) (hspace : r.count < cap) (x : α) :
    (r.push x).contents = r.contents ++ [x] := by
  have hold : (List.range r.count).map (r.push x).slot = (List.range r.count).map r.slot := by
    apply List.map_congr_left
    intro i hi
    exact slot_push_of_lt hv hspace x (List.mem_range.mp hi)
  change (List.range (r.count + 1)).map (r.push x).slot = _
  rw [List.range_succ, List.map_append, hold]
  simp [contents, slot_push_last hv]

/-- Popping a valid non-empty ring succeeds, and removes the first element. -/
theorem pop_spec (hv : r.Valid) (hne : 0 < r.count) :
    ∃ x r', r.pop = some (x, r') ∧ r'.Valid ∧ r'.count = r.count - 1 ∧
      r.contents = x :: r'.contents := by
  have hlt := hv.head_lt
  have hslot0 : r.slot 0 = r.cells[r.head] := by
    simp [slot, Nat.mod_eq_of_lt hlt]
  let r' : Ring α cap := { r with head := (r.head + 1) % cap, count := r.count - 1 }
  refine ⟨r.cells[r.head], r', ?_, ⟨?_, ?_, ?_⟩, rfl, ?_⟩
  · simp [pop, hlt, r']
  · exact Nat.mod_lt _ (Nat.pos_of_neZero cap)
  · exact (Nat.sub_le _ _).trans hv.count_le
  · change r.tail = ((r.head + 1) % cap + (r.count - 1)) % cap
    rw [hv.tail_eq, Nat.mod_add_mod]
    congr 1
    omega
  · have hslot (i : ℕ) : r'.slot i = r.slot (i + 1) := by
      have hidx : ((r.head + 1) % cap + i) % cap = (r.head + (i + 1)) % cap := by
        rw [Nat.mod_add_mod]
        congr 1
        omega
      simp only [slot, r', hidx]
    obtain ⟨n, hn⟩ : ∃ n, r.count = n + 1 := ⟨r.count - 1, by omega⟩
    have hn' : r'.count = n := by simp [r', hn]
    simp only [contents, hn, hn', List.range_succ_eq_map, List.map_cons, List.map_map, hslot0]
    congr 1
    apply List.map_congr_left
    intro i _
    exact (hslot i).symm

/-- A ring whose head and tail agree and whose count is zero. -/
theorem Valid.empty (cells : Vector α cap) : (⟨cells, 0, 0, 0⟩ : Ring α cap).Valid :=
  ⟨Nat.pos_of_neZero cap, Nat.zero_le _, by simp⟩

end Ring
end TcdOran.Lib
