import Mathlib.Logic.Basic

/-! Programs over a state that may raise an exception. What was done before a raise stays done, so
a specification speaks of both ends. -/
namespace TcdOran.Lib

abbrev Attempt (σ ε : Type) := ExceptT ε (StateM σ)

namespace Attempt
variable {σ ε α β : Type}

/-- The answer or exception, and the state at the end. -/
def outcome (x : Attempt σ ε α) (s : σ) : Except ε α × σ := StateT.run (ExceptT.run x) s

def ofExcept (x : Except ε α) : Attempt σ ε α :=
  match x with
  | .ok a => pure a
  | .error e => throw e

section
variable (s : σ)

@[simp] theorem outcome_pure (a : α) : outcome (pure a : Attempt σ ε α) s = (.ok a, s) := rfl

@[simp] theorem outcome_throw (e : ε) : outcome (throw e : Attempt σ ε α) s = (.error e, s) := rfl

@[simp] theorem outcome_modify (f : σ → σ) :
    outcome (modify f : Attempt σ ε PUnit) s = (.ok ⟨⟩, f s) := rfl

@[simp] theorem outcome_get : outcome (get : Attempt σ ε σ) s = (.ok s, s) := rfl

theorem outcome_bind (x : Attempt σ ε α) (f : α → Attempt σ ε β) :
    outcome (x >>= f) s =
      match outcome x s with
      | (.ok a, t) => outcome (f a) t
      | (.error e, t) => (.error e, t) := by
  simp only [outcome, ExceptT.run_bind, StateT.run_bind]
  rcases StateT.run (ExceptT.run x) s with ⟨r, t⟩
  cases r <;> rfl

theorem outcome_map (g : α → β) (x : Attempt σ ε α) :
    outcome (g <$> x) s = ((outcome x s).1.map g, (outcome x s).2) := by
  rw [← bind_pure_comp, outcome_bind]
  rcases outcome x s with ⟨_ | a, t⟩ <;> rfl

theorem outcome_tryCatch (x : Attempt σ ε α) (handle : ε → Attempt σ ε α) :
    outcome (tryCatch x handle) s =
      match outcome x s with
      | (.ok a, t) => (.ok a, t)
      | (.error e, t) => outcome (handle e) t := by
  change outcome (ExceptT.tryCatch x handle) s = _
  simp only [outcome, ExceptT.tryCatch, ExceptT.run_mk, StateT.run_bind]
  change _ = match StateT.run x s with
    | (.ok a, t) => _
    | (.error e, t) => _
  rcases StateT.run x s with ⟨r, t⟩
  cases r <;> rfl

theorem outcome_ofExcept (x : Except ε α) : outcome (ofExcept x) s = (x, s) := by
  cases x <;> rfl

/-- The finalizer runs behind either end, and what it raises replaces the first end. -/
theorem outcome_finally (x : Attempt σ ε α) (finalizer : Attempt σ ε β) :
    outcome (tryFinally x finalizer) s =
      match outcome finalizer (outcome x s).2 with
      | (.ok _, u) => ((outcome x s).1, u)
      | (.error e, u) => (.error e, u) := by
  have hx : outcome x s = x s := rfl
  have hf (t : σ) : outcome finalizer t = finalizer t := rfl
  simp only [hx, hf]
  simp only [outcome, tryFinally, MonadFinally.tryFinally', ExceptT.run, StateT.run, Functor.map,
    ExceptT.map, ExceptT.mk, bind, StateT.bind, pure]
  rcases x s with ⟨_ | a, t⟩
  · simp only []
    rcases finalizer t with ⟨_ | b, u⟩ <;> rfl
  · simp only []
    rcases finalizer t with ⟨_ | b, u⟩ <;> rfl

end

/-- From a state with `P` the program answers with `Q` or raises with `E`. -/
def Triple (P : σ → Prop) (x : Attempt σ ε α) (Q : α → σ → Prop) (E : ε → σ → Prop) : Prop :=
  ∀ s, P s →
    match outcome x s with
    | (.ok a, t) => Q a t
    | (.error e, t) => E e t

variable {P P' R : σ → Prop} {x : Attempt σ ε α} {f : α → Attempt σ ε β} {Q Q' : α → σ → Prop}
  {E E' : ε → σ → Prop}

theorem Triple.ok (h : Triple P x Q E) {s t : σ} {a : α} (hs : P s)
    (hx : outcome x s = (.ok a, t)) : Q a t := by
  have hq := h s hs
  rwa [hx] at hq

theorem Triple.error (h : Triple P x Q E) {s t : σ} {e : ε} (hs : P s)
    (hx : outcome x s = (.error e, t)) : E e t := by
  have he := h s hs
  rwa [hx] at he

theorem triple_of (hok : ∀ s a t, P s → outcome x s = (.ok a, t) → Q a t)
    (herror : ∀ s e t, P s → outcome x s = (.error e, t) → E e t) : Triple P x Q E := by
  intro s hs
  rcases hx : outcome x s with ⟨_ | a, t⟩
  · exact herror s _ t hs hx
  · exact hok s a t hs hx

theorem triple_pure {a : α} (h : ∀ s, P s → Q a s) : Triple P (pure a) Q E := h

theorem triple_throw {e : ε} (h : ∀ s, P s → E e s) : Triple P (throw e) Q E := h

theorem triple_modify {g : σ → σ} {Q : PUnit → σ → Prop} (h : ∀ s, P s → Q ⟨⟩ (g s)) :
    Triple P (modify g) Q E := h

theorem Triple.bind {R : α → σ → Prop} {Q : β → σ → Prop} (hx : Triple P x R E)
    (hf : ∀ a, Triple (R a) (f a) Q E) : Triple P (x >>= f) Q E := by
  intro s hs
  have hR := hx s hs
  rw [outcome_bind]
  rcases houtcome : outcome x s with ⟨_ | a, t⟩
  · rwa [houtcome] at hR
  · rw [houtcome] at hR
    exact hf a t hR

theorem Triple.conseq (h : Triple P x Q E) (hP : ∀ s, P' s → P s) (hQ : ∀ a s, Q a s → Q' a s)
    (hE : ∀ e s, E e s → E' e s) : Triple P' x Q' E' := by
  apply triple_of
  · intro s a t hs hx
    exact hQ a t (h.ok (hP s hs) hx)
  · intro s e t hs hx
    exact hE e t (h.error (hP s hs) hx)

theorem Triple.finally {finalizer : Attempt σ ε β} (hx : Triple P x Q E)
    (hQ : ∀ a, Triple (Q a) finalizer (fun _ => Q' a) E')
    (hE : ∀ e, Triple (E e) finalizer (fun _ => E' e) E') :
    Triple P (tryFinally x finalizer) Q' E' := by
  intro s hs
  rw [outcome_finally]
  rcases houtcome : outcome x s with ⟨e | a, t⟩
  · have he := hE e t (hx.error hs houtcome)
    simp only
    rcases hfinal : outcome finalizer t with ⟨_ | _, u⟩ <;> rwa [hfinal] at he
  · have ha := hQ a t (hx.ok hs houtcome)
    simp only
    rcases hfinal : outcome finalizer t with ⟨_ | _, u⟩ <;> rwa [hfinal] at ha

theorem Triple.tryCatch {handle : ε → Attempt σ ε α} (hx : Triple P x Q E)
    (hhandle : ∀ e, Triple (E e) (handle e) Q E') : Triple P (tryCatch x handle) Q E' := by
  intro s hs
  rw [outcome_tryCatch]
  rcases houtcome : outcome x s with ⟨e | a, t⟩
  · exact hhandle e t (hx.error hs houtcome)
  · exact hx.ok hs houtcome

/-- The program keeps `P`, however it ends. -/
def Keeps (P : σ → Prop) (x : Attempt σ ε α) : Prop := Triple P x (fun _ => P) (fun _ => P)

theorem keeps_pure (a : α) : Keeps P (pure a : Attempt σ ε α) := fun _ hs => hs

theorem keeps_throw (e : ε) : Keeps P (throw e : Attempt σ ε α) := fun _ hs => hs

theorem keeps_ofExcept (r : Except ε α) : Keeps P (ofExcept r : Attempt σ ε α) := by
  cases r with
  | ok a => exact keeps_pure a
  | error e => exact keeps_throw e

theorem keeps_modify {g : σ → σ} (h : ∀ s, P s → P (g s)) :
    Keeps P (modify g : Attempt σ ε PUnit) := h

theorem Keeps.bind (hx : Keeps P x) (hf : ∀ a, Keeps P (f a)) : Keeps P (x >>= f) :=
  Triple.bind hx hf

/-- What keeps `P` may stand in front of what needs it. -/
theorem Keeps.bind_triple {Q : β → σ → Prop} (hx : Keeps P x) (hE : ∀ e s, P s → E e s)
    (hf : ∀ a, Triple P (f a) Q E) : Triple P (x >>= f) Q E :=
  Triple.bind (Triple.conseq hx (fun _ hs => hs) (fun _ _ hs => hs) hE) hf

theorem Keeps.finally {finalizer : Attempt σ ε β} (hx : Keeps P x) (hfinal : Keeps P finalizer) :
    Keeps P (tryFinally x finalizer) :=
  Triple.finally hx (fun _ => hfinal) fun _ => hfinal

theorem Keeps.outcome (h : Keeps P x) {s : σ} (hs : P s) : P (outcome x s).2 := by
  have hend := h s hs
  rcases houtcome : Attempt.outcome x s with ⟨_ | a, t⟩ <;> rwa [houtcome] at hend

/-- What has been answered is known behind it. -/
theorem Triple.bind_known {G : α → Prop} {E₀ : ε → σ → Prop} {Q : β → σ → Prop}
    (hx : Triple P x (fun a s => R s ∧ G a) E₀) (hE : ∀ e s, E₀ e s → E e s)
    (hf : ∀ a, G a → Triple R (f a) Q E) : Triple P (x >>= f) Q E := by
  apply Triple.bind (Triple.conseq hx (fun _ hs => hs) (fun _ _ hs => hs) hE)
  rintro a s ⟨hs, ha⟩
  exact hf a ha s hs

/-- The program keeps `P`, and answers with values that meet `G` only. -/
def Yields (P : σ → Prop) (G : α → Prop) (x : Attempt σ ε α) : Prop :=
  Triple P x (fun a s => P s ∧ G a) (fun _ => P)

section
variable {G : α → Prop} {H : β → Prop}

theorem yields_pure {a : α} (h : G a) : Yields P G (pure a : Attempt σ ε α) :=
  triple_pure fun _ hs => ⟨hs, h⟩

theorem yields_throw (e : ε) : Yields P G (throw e : Attempt σ ε α) := triple_throw fun _ hs => hs

theorem yields_ofExcept (r : Except ε α) :
    Yields P (fun a => r = .ok a) (ofExcept r : Attempt σ ε α) := by
  cases r with
  | ok a => exact yields_pure rfl
  | error e => exact yields_throw e

theorem Yields.bind_triple {Q : β → σ → Prop} (hx : Yields P G x) (hE : ∀ e s, P s → E e s)
    (hf : ∀ a, G a → Triple P (f a) Q E) : Triple P (x >>= f) Q E :=
  Triple.bind_known hx hE hf

theorem Yields.bind (hx : Yields P G x) (hf : ∀ a, G a → Yields P H (f a)) :
    Yields P H (x >>= f) :=
  hx.bind_triple (fun _ _ hs => hs) hf

theorem Yields.keeps (hx : Yields P G x) : Keeps P x :=
  Triple.conseq hx (fun _ hs => hs) (fun _ _ hs => hs.1) (fun _ _ hs => hs)

theorem Keeps.yields (hx : Keeps P x) : Yields P (fun _ => True) x :=
  Triple.conseq hx (fun _ hs => hs) (fun _ _ hs => ⟨hs, trivial⟩) (fun _ _ hs => hs)

end

/-- The program keeps `P`, answers with values that meet `G` only, and raises only where no value
meets `G`. -/
def Decides (P : σ → Prop) (G : α → Prop) (x : Attempt σ ε α) : Prop :=
  Triple P x (fun a s => P s ∧ G a) (fun _ s => P s ∧ ∀ a, ¬ G a)

section
variable {G : α → Prop} {H : β → Prop} {g : σ → σ}

theorem decides_pure {a : α} (h : G a) : Decides P G (pure a : Attempt σ ε α) :=
  triple_pure fun _ hs => ⟨hs, h⟩

theorem decides_throw {e : ε} (h : ∀ a, ¬ G a) : Decides P G (throw e : Attempt σ ε α) :=
  triple_throw fun _ hs => ⟨hs, h⟩

/-- Where the first part raises, no answer of the whole may meet `H`. -/
theorem Decides.bind (hx : Decides P G x) (hf : ∀ a, G a → Decides P H (f a))
    (hnone : (∀ a, ¬ G a) → ∀ b, ¬ H b) : Decides P H (x >>= f) := by
  have hx' : Triple P x (fun a s => P s ∧ G a) (fun _ s => P s ∧ ∀ b, ¬ H b) := by
    apply Triple.conseq hx (fun _ hs => hs) fun _ _ hs => hs
    exact fun _ s hs => ⟨hs.1, hnone hs.2⟩
  apply hx'.bind
  rintro a s ⟨hs, ha⟩
  exact hf a ha s hs

theorem Decides.modify {f : PUnit → Attempt σ ε β} (hg : ∀ s, P s → P (g s))
    (hf : Decides P H (f ⟨⟩)) : Decides P H (modify g >>= f) := by
  intro s hs
  rw [outcome_bind, outcome_modify]
  exact hf (g s) (hg s hs)

end

end Attempt
end TcdOran.Lib
