import Mathlib.Data.List.Forall2

/-! Sequences of guards that end with the first failing one. -/
namespace TcdOran.Lib

/-- Continue when the condition holds, else end with the given error. -/
def require {ε : Type} (c : Prop) [Decidable c] (e : ε) : Except ε Unit :=
  if c then .ok () else .error e

/-- End with the given error when the condition holds. -/
def rejectIf {ε : Type} (c : Prop) [Decidable c] (e : ε) : Except ε Unit :=
  if c then .error e else .ok ()

section
variable {ε α β : Type} {c : Prop} [Decidable c] {e : ε}

@[simp] theorem require_eq_ok {u : Unit} : (require c e : Except ε Unit) = .ok u ↔ c := by
  unfold require
  split <;> simp_all

@[simp] theorem rejectIf_eq_ok {u : Unit} :
    (rejectIf c e : Except ε Unit) = .ok u ↔ ¬ c := by
  unfold rejectIf
  split <;> simp_all

/-- A sequence of computations succeeds exactly when each of them does. -/
theorem bind_eq_ok {x : Except ε α} {f : α → Except ε β} {b : β} :
    (x >>= f) = .ok b ↔ ∃ a, x = .ok a ∧ f a = .ok b := by
  cases x <;> simp [bind, Except.bind]

theorem ok_bind {a : α} {f : α → Except ε β} : (Except.ok a >>= f) = f a := rfl

theorem ok_of_require (h : c) : require c e = .ok () := if_pos h

theorem exists_ok {result : Except ε α} (h : result.toBool = true) : ∃ a, result = .ok a := by
  cases result with
  | error => cases h
  | ok a => exact ⟨a, rfl⟩

theorem unit_bind_eq_ok {x : Except ε Unit} {f : Unit → Except ε β} {b : β} :
    (x >>= f) = .ok b ↔ x = .ok () ∧ f () = .ok b := by
  cases x <;> simp [bind, Except.bind]

@[simp] theorem require_bind_eq_ok {f : Unit → Except ε α} {a : α} :
    (require c e >>= f) = .ok a ↔ c ∧ f () = .ok a := by
  unfold require
  split <;> simp_all [bind, Except.bind]

@[simp] theorem rejectIf_bind_eq_ok {f : Unit → Except ε α} {a : α} :
    (rejectIf c e >>= f) = .ok a ↔ ¬ c ∧ f () = .ok a := by
  unfold rejectIf
  split <;> simp_all [bind, Except.bind]

/-- A computation that succeeds on every element succeeds on the list. -/
theorem mapM_eq_ok {f : α → Except ε β} {xs : List α} {ys : List β}
    (h : List.Forall₂ (fun x y => f x = .ok y) xs ys) : xs.mapM f = .ok ys := by
  induction h with
  | nil => rfl
  | cons hx _ ih => simp [List.mapM_cons, hx, ih, bind, Except.bind, pure, Except.pure]

theorem forall₂_of_mapM_ok {f : α → Except ε β} {xs : List α} {ys : List β}
    (h : xs.mapM f = .ok ys) : List.Forall₂ (fun x y => f x = .ok y) xs ys := by
  induction xs generalizing ys with
  | nil =>
    cases h
    exact .nil
  | cons x xs ih =>
    rw [List.mapM_cons] at h
    obtain ⟨y, hy, h⟩ := bind_eq_ok.mp h
    obtain ⟨rest, hrest, h⟩ := bind_eq_ok.mp h
    cases h
    exact .cons hy (ih hrest)

theorem exists_mapM_eq_ok {f : α → Except ε β} {xs : List α} (h : ∀ x ∈ xs, ∃ y, f x = .ok y) :
    ∃ ys, xs.mapM f = .ok ys := by
  induction xs with
  | nil => exact ⟨[], rfl⟩
  | cons x xs ih =>
    obtain ⟨⟨y, hy⟩, hall⟩ := List.forall_mem_cons.mp h
    obtain ⟨ys, hrest⟩ := ih hall
    exact ⟨y :: ys, mapM_eq_ok (.cons hy (forall₂_of_mapM_ok hrest))⟩

theorem forM_eq_ok {f : α → Except ε Unit} {xs : List α} {u : Unit} :
    xs.forM f = .ok u ↔ ∀ x ∈ xs, f x = .ok () := by
  induction xs with
  | nil => simp [pure, Except.pure]
  | cons x xs ih =>
    simp only [List.forM_eq_forM, List.forM_cons, unit_bind_eq_ok, List.forall_mem_cons] at ih ⊢
    rw [ih]

theorem mapM_eq_some {f : α → Option β} {xs : List α} {ys : List β} :
    xs.mapM f = some ys ↔ List.Forall₂ (fun x y => f x = some y) xs ys := by
  induction xs generalizing ys with
  | nil => cases ys <;> simp
  | cons x xs ih =>
    simp only [List.mapM_cons, Option.bind_eq_bind, Option.bind_eq_some_iff, Option.pure_def,
      Option.some.injEq]
    constructor
    · rintro ⟨y, hy, rest, hrest, rfl⟩
      exact .cons hy (ih.mp hrest)
    · intro h
      cases h with
      | cons hy hrest => exact ⟨_, hy, _, ih.mpr hrest, rfl⟩

theorem exists_mapM_eq_some {f : α → Option β} {xs : List α} :
    (∃ ys, xs.mapM f = some ys) ↔ ∀ x ∈ xs, ∃ y, f x = some y := by
  induction xs with
  | nil => simp
  | cons x xs ih =>
    simp only [mapM_eq_some] at ih ⊢
    constructor
    · rintro ⟨ys, h⟩
      cases h with
      | cons hy hrest => exact List.forall_mem_cons.mpr ⟨⟨_, hy⟩, ih.mp ⟨_, hrest⟩⟩
    · intro h
      obtain ⟨⟨y, hy⟩, hall⟩ := List.forall_mem_cons.mp h
      obtain ⟨ys, hrest⟩ := ih.mpr hall
      exact ⟨y :: ys, .cons hy hrest⟩

theorem countP_of_forall₂ {R : α → β → Prop} {p : α → Bool} {q : β → Bool} {xs : List α}
    {ys : List β} (h : List.Forall₂ R xs ys) (hpq : ∀ x y, R x y → q y = p x) :
    ys.countP q = xs.countP p := by
  induction h with
  | nil => rfl
  | cons hxy _ ih => simp only [List.countP_cons, hpq _ _ hxy, ih]

end
end TcdOran.Lib
