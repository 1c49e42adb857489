import TcdOran.Lib.Check

/-! A sequence of checks that ends with the error of the first one that does not hold. -/
namespace TcdOran.Lib

/-- What a check demands, and its error. -/
structure Demand (ε : Type) where
  holds : Prop
  error : ε

/-- The first demand that does not hold has this error. -/
def Fails {ε : Type} (demands : List (Demand ε)) (e : ε) : Prop :=
  ∃ before demand after, demands = before ++ demand :: after ∧
    (∀ d ∈ before, d.holds) ∧ ¬ demand.holds ∧ demand.error = e

/-- The computation fails exactly with the error of the first demand that does not hold. -/
def Validates {ε α : Type} (demands : List (Demand ε)) (x : Except ε α) : Prop :=
  ∀ e, x = .error e ↔ Fails demands e

section
variable {ε α β : Type} {demands behind : List (Demand ε)} {demand : Demand ε} {e : ε}

@[simp] theorem not_fails_nil : ¬ Fails ([] : List (Demand ε)) e := by
  rintro ⟨before, demand, after, h, -⟩
  cases before <;> cases h

theorem fails_cons : Fails (demand :: demands) e ↔
    ¬ demand.holds ∧ demand.error = e ∨ demand.holds ∧ Fails demands e := by
  constructor
  · rintro ⟨before, d, after, h, hbefore, hnot, rfl⟩
    cases before with
    | nil =>
      obtain ⟨rfl, rfl⟩ := List.cons.inj h
      exact .inl ⟨hnot, rfl⟩
    | cons first before =>
      obtain ⟨rfl, rfl⟩ := List.cons.inj h
      obtain ⟨hfirst, hrest⟩ := List.forall_mem_cons.mp hbefore
      exact .inr ⟨hfirst, before, d, after, rfl, hrest, hnot, rfl⟩
  · rintro (⟨hnot, rfl⟩ | ⟨hholds, before, d, after, rfl, hbefore, hnot, rfl⟩)
    · exact ⟨[], demand, demands, rfl, by simp, hnot, rfl⟩
    · exact ⟨demand :: before, d, after, rfl, List.forall_mem_cons.mpr ⟨hholds, hbefore⟩, hnot, rfl⟩

theorem fails_of_not (h : ¬ demand.holds) : Fails (demand :: demands) e ↔ demand.error = e := by
  rw [fails_cons]
  simp [h]

theorem fails_of_holds (h : demand.holds) : Fails (demand :: demands) e ↔ Fails demands e := by
  rw [fails_cons]
  simp [h]

theorem fails_append : Fails (demands ++ behind) e ↔
    Fails demands e ∨ (∀ d ∈ demands, d.holds) ∧ Fails behind e := by
  induction demands with
  | nil => simp
  | cons d ds ih =>
    rw [List.cons_append, fails_cons, fails_cons, ih, List.forall_mem_cons]
    by_cases hd : d.holds <;> simp [hd]

/-- Either every demand holds or one of them fails first. -/
theorem exists_fails (h : ¬ ∀ d ∈ demands, d.holds) : ∃ e, Fails demands e := by
  induction demands with
  | nil => exact absurd (by simp) h
  | cons d ds ih =>
    by_cases hd : d.holds
    · obtain ⟨e, he⟩ := ih fun hall => h (List.forall_mem_cons.mpr ⟨hd, hall⟩)
      exact ⟨e, fails_cons.mpr (.inr ⟨hd, he⟩)⟩
    · exact ⟨d.error, fails_cons.mpr (.inl ⟨hd, rfl⟩)⟩

/-- Only one demand fails first. -/
theorem Fails.unique {e' : ε} (h : Fails demands e) (h' : Fails demands e') : e = e' := by
  induction demands with
  | nil => exact absurd h not_fails_nil
  | cons d ds ih =>
    by_cases hd : d.holds
    · exact ih ((fails_of_holds hd).mp h) ((fails_of_holds hd).mp h')
    · exact ((fails_of_not hd).mp h).symm.trans ((fails_of_not hd).mp h')

theorem Fails.not_all (h : Fails demands e) : ¬ ∀ d ∈ demands, d.holds := by
  obtain ⟨before, d, after, rfl, -, hnot, -⟩ := h
  exact fun hall => hnot (hall d (List.mem_append_right _ List.mem_cons_self))

theorem Validates.ok_iff {x : Except ε α} (h : Validates demands x) :
    (∃ a, x = .ok a) ↔ ∀ d ∈ demands, d.holds := by
  constructor
  · rintro ⟨a, rfl⟩
    by_contra hnot
    obtain ⟨e, he⟩ := exists_fails hnot
    cases (h e).mpr he
  · intro hall
    cases hx : x with
    | ok a => exact ⟨a, rfl⟩
    | error e => exact absurd hall ((h e).mp hx).not_all

theorem Validates.of_ok {x : Except ε α} (h : Validates demands x) {a : α} (hx : x = .ok a) :
    ∀ d ∈ demands, d.holds := h.ok_iff.mp ⟨a, hx⟩

theorem validates_ok (a : α) : Validates [] (.ok a : Except ε α) := by
  intro e
  simp

/-- One demand, whose error is the only one. -/
theorem validates_single {x : Except ε α} (hok : demand.holds → ∃ a, x = .ok a)
    (herror : ¬ demand.holds → x = .error demand.error) : Validates [demand] x := by
  intro e
  rw [fails_cons]
  by_cases hd : demand.holds
  · obtain ⟨a, rfl⟩ := hok hd
    simp [hd]
  · rw [herror hd]
    simp [hd]

theorem validates_require {c : Prop} [Decidable c] :
    Validates [⟨c, e⟩] (require c e) :=
  validates_single (fun h => ⟨(), if_pos h⟩) fun h => if_neg h

/-- Demands in sequence; those behind may depend on what the first computation has given. -/
theorem Validates.bind {x : Except ε α} {f : α → Except ε β} (hx : Validates demands x)
    (hf : ∀ a, x = .ok a → Validates behind (f a)) : Validates (demands ++ behind) (x >>= f) := by
  intro e
  rw [fails_append]
  cases h : x with
  | error e' =>
    have hfails := (hx e').mp h
    have hsame : Fails demands e ↔ e' = e := by
      rw [← hx e, h, Except.error.injEq]
    have hstop : (Except.error e' >>= f) = (Except.error e' : Except ε β) := rfl
    rw [hstop, Except.error.injEq, hsame]
    simp [hfails.not_all]
  | ok a =>
    have hall := hx.of_ok h
    have hnone : ¬ Fails demands e := fun hfails => hfails.not_all hall
    rw [ok_bind, hf a h e]
    exact ⟨fun hb => .inr ⟨hall, hb⟩, fun hb => hb.elim (fun hd => absurd hd hnone) And.right⟩

theorem Validates.bind_pure {x : Except ε α} (hx : Validates demands x) (f : α → β) :
    Validates demands (x >>= fun a => pure (f a)) := by
  have h := hx.bind (f := fun a => pure (f a)) fun a _ => validates_ok (f a)
  rwa [List.append_nil] at h

theorem Validates.congr {demands' : List (Demand ε)} {x : Except ε α} (h : Validates demands x)
    (hsame : ∀ e, Fails demands e ↔ Fails demands' e) : Validates demands' x :=
  fun e => (h e).trans (hsame e)

end
end TcdOran.Lib
