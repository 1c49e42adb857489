import Mathlib.Algebra.Order.Group.Multiset

/-! Functions of C that build an object out of blocks from `calloc`, any of which may be refused:
what they leave allocated, and when they succeed. -/
namespace TcdOran.Lib

/-- The blocks in use, and which of the calls of `calloc` get one. -/
structure Heap where
  grants : ℕ → Bool
  calls : ℕ
  live : Multiset ℕ

/-- A pointer that is not null, with what stands there. -/
structure Pointee (α : Type) where
  block : ℕ
  value : α

/-- A computation on the heap. It has no result where it frees a block that is not in use. -/
abbrev HeapM := StateT Heap Option

section
variable {α β : Type}

def Heap.called (h : Heap) : Heap := { h with calls := h.calls + 1 }

def Heap.allocated (h : Heap) : Heap := { h.called with live := h.live + {h.calls} }

def calloc : HeapM (Option ℕ) := fun h =>
  if h.grants h.calls then some (some h.calls, h.allocated) else some (none, h.called)

/-- The block behind a pointer, and those that its contents own. -/
def blocksOf (inner : α → Multiset ℕ) : Option (Pointee α) → Multiset ℕ
  | none => 0
  | some p => {p.block} + inner p.value

/-- `p = calloc(…); if (p == NULL) return false;`, with what has been built so far. -/
def allocate (failed : α) (rest : ℕ → HeapM (α × Bool)) : HeapM (α × Bool) := do
  let p ← calloc
  p.elim (pure (failed, false)) rest

/-- `if (!f(&part)) return false;`, where the part is left in the whole. -/
def orReturn (f : HeapM (β × Bool)) (failed : β → α) (rest : β → HeapM (α × Bool)) :
    HeapM (α × Bool) := fun h => do
  let ((part, ok), h) ← f h
  if ok then rest part h else return ((failed part, false), h)

/-- Of a function that is called when `held` belongs to the object: it never frees, what it leaves
allocated is what the object then holds, and it succeeds exactly when its input is valid and its
`needs` calls of `calloc` are granted. Behind a success `built` holds of the object. -/
def Builds (f : HeapM (α × Bool)) (held : Multiset ℕ) (holds : α → Multiset ℕ) (needs : ℕ)
    (valid : Prop) (built : α → Prop) : Prop :=
  ∀ h, ∃ a ok h', f h = some ((a, ok), h') ∧ h'.live + held = h.live + holds a ∧
    h'.grants = h.grants ∧ (ok = true ↔ valid ∧ ∀ i < needs, h.grants (h.calls + i) = true) ∧
    (ok = true → h'.calls = h.calls + needs ∧ built a)

theorem HeapM.bind_eq {x : HeapM β} {f : β → HeapM α} {h h' : Heap} {b : β}
    (hx : x h = some (b, h')) : (x >>= f) h = f b h' := by
  show (x h).bind _ = _
  rw [hx]
  rfl

theorem calloc_granted {h : Heap} (hgrant : h.grants h.calls = true) :
    calloc h = some (some h.calls, h.allocated) := if_pos hgrant

theorem calloc_refused {h : Heap} (hgrant : ¬ h.grants h.calls = true) :
    calloc h = some (none, h.called) := if_neg hgrant

variable {holds : α → Multiset ℕ} {held : Multiset ℕ} {needs needs' : ℕ} {valid valid' : Prop}
  {built : α → Prop}

theorem builds_return {a : α} (hheld : held = holds a) (hbuilt : built a) :
    Builds (pure (a, true)) held holds 0 True built := fun h =>
  ⟨a, true, h, rfl, by rw [hheld], rfl, by simp, fun _ => ⟨rfl, hbuilt⟩⟩

theorem builds_refuse {a : α} (hheld : held = holds a) (hvalid : ¬ valid) :
    Builds (pure (a, false)) held holds needs valid built := fun h =>
  ⟨a, false, h, rfl, by rw [hheld], rfl, by simp [hvalid], by simp⟩

theorem Builds.congr {f : HeapM (α × Bool)} (hvalid : valid ↔ valid')
    (h : Builds f held holds needs valid built) : Builds f held holds needs valid' built :=
  propext hvalid ▸ h

/-- The calls in front of the others are granted, and so are the others. -/
theorem granted_append {grants : ℕ → Bool} {calls : ℕ} :
    (∀ i < needs + needs', grants (calls + i) = true) ↔
      (∀ i < needs, grants (calls + i) = true) ∧
        ∀ i < needs', grants (calls + needs + i) = true := by
  constructor
  · intro h
    refine ⟨fun i hi => h i (by omega), fun i hi => ?_⟩
    rw [Nat.add_assoc]
    exact h (needs + i) (by omega)
  · rintro ⟨hfront, hbehind⟩ i hi
    by_cases hlt : i < needs
    · exact hfront i hlt
    · have h := hbehind (i - needs) (by omega)
      rwa [Nat.add_assoc, Nat.add_sub_cancel' (by omega)] at h

theorem builds_allocate {failed : α} {rest : ℕ → HeapM (α × Bool)} (hfailed : held = holds failed)
    (hrest : ∀ block, Builds (rest block) (held + {block}) holds needs valid built) :
    Builds (allocate failed rest) held holds (1 + needs) valid built := by
  intro h
  unfold allocate
  by_cases hgrant : h.grants h.calls = true
  · rw [HeapM.bind_eq (calloc_granted hgrant)]
    obtain ⟨a, ok, h', hrun, hlive, hgrants, hok, hbuilt⟩ := hrest h.calls h.allocated
    refine ⟨a, ok, h', hrun, ?_, hgrants, ?_, fun htrue => ?_⟩
    · have hsum : h'.live + held + {h.calls} = h.live + holds a + {h.calls} := by
        rw [add_assoc, hlive]
        exact add_right_comm _ _ _
      exact add_right_cancel hsum
    · rw [hok, granted_append]
      simp only [Nat.lt_one_iff, forall_eq, Nat.add_zero, hgrant, true_and]
      exact Iff.rfl
    · obtain ⟨hcalls, hb⟩ := hbuilt htrue
      exact ⟨by rw [hcalls]; simp only [Heap.allocated, Heap.called]; omega, hb⟩
  · rw [HeapM.bind_eq (calloc_refused hgrant)]
    refine ⟨failed, false, h.called, rfl, by rw [hfailed]; rfl, rfl, ?_, by simp⟩
    rw [granted_append]
    simp [hgrant]

theorem builds_orReturn {f : HeapM (β × Bool)} {failed : β → α} {rest : β → HeapM (α × Bool)}
    {part : β → Multiset ℕ} {made : β → Prop} (hf : Builds f 0 part needs valid made)
    (hfailed : ∀ b, held + part b = holds (failed b))
    (hrest : ∀ b, made b → Builds (rest b) (held + part b) holds needs' valid' built) :
    Builds (orReturn f failed rest) held holds (needs + needs') (valid ∧ valid') built := by
  intro h
  obtain ⟨b, ok, h₁, hrun, hlive, hgrants, hok, hmade⟩ := hf h
  rw [add_zero] at hlive
  have hstart : orReturn f failed rest h =
      if ok then rest b h₁ else some ((failed b, false), h₁) := by
    simp only [orReturn, hrun]
    rfl
  rw [hstart]
  cases ok with
  | false =>
    refine ⟨failed b, false, h₁, rfl, ?_, hgrants, ?_, by simp⟩
    · rw [hlive, ← hfailed b, add_assoc, add_comm (part b)]
    · rw [granted_append]
      simp only [Bool.false_eq_true, false_iff] at hok ⊢
      exact fun hall => hok ⟨hall.1.1, hall.2.1⟩
  | true =>
    obtain ⟨hcalls, hb⟩ := hmade rfl
    obtain ⟨a, ok, h₂, hrun₂, hlive₂, hgrants₂, hok₂, hbuilt⟩ := hrest b hb h₁
    refine ⟨a, ok, h₂, hrun₂, ?_, hgrants₂.trans hgrants, ?_, fun htrue => ?_⟩
    · have hsum : h₂.live + held + part b = h.live + holds a + part b := by
        rw [add_assoc, hlive₂, hlive]
        exact add_right_comm _ _ _
      exact add_right_cancel hsum
    · obtain ⟨hv, hg⟩ := hok.mp rfl
      rw [hok₂, granted_append, hgrants, hcalls]
      exact ⟨fun hall => ⟨⟨hv, hall.1⟩, hg, hall.2⟩, fun hall => ⟨hall.1.2, hall.2.2⟩⟩
    · obtain ⟨hcalls₂, hbuilt⟩ := hbuilt htrue
      exact ⟨by rw [hcalls₂, hcalls, Nat.add_assoc], hbuilt⟩

end
end TcdOran.Lib
