import TcdOran.Lib.PythonPattern

/-! The parts of a text that the parts of a pattern match. -/
namespace TcdOran.Lib.Python
open Pattern

variable {accept : List ℕ → Bool} {items : Pattern} {holds : ℕ → Bool} {text : List ℕ}

theorem matchThen_one : matchThen accept (⟨holds, false⟩ :: items) text = true ↔
    ∃ u behind, text = u :: behind ∧ holds u = true ∧ matchThen accept items behind = true := by
  cases text with
  | nil => simp [matchThen]
  | cons u behind => simp [matchThen]

theorem matchThen_times {n : ℕ} : matchThen accept (times holds n ++ items) text = true ↔
    ∃ part behind, text = part ++ behind ∧ part.length = n ∧ (∀ u ∈ part, holds u = true) ∧
      matchThen accept items behind = true := by
  induction n generalizing text with
  | zero =>
    constructor
    · intro h
      exact ⟨[], text, rfl, rfl, by simp, h⟩
    · rintro ⟨part, behind, rfl, hlength, -, h⟩
      rwa [List.length_eq_zero_iff.mp hlength]
  | succ n ih =>
    rw [times, List.replicate_succ, List.cons_append, matchThen_one]
    constructor
    · rintro ⟨u, behind, rfl, hu, h⟩
      obtain ⟨part, behind, rfl, hlength, hpart, h⟩ := ih.mp h
      exact ⟨u :: part, behind, rfl, congrArg Nat.succ hlength,
        List.forall_mem_cons.mpr ⟨hu, hpart⟩, h⟩
    · rintro ⟨part, behind, rfl, hlength, hpart, h⟩
      cases part with
      | nil => cases hlength
      | cons u part =>
        obtain ⟨hu, hpart⟩ := List.forall_mem_cons.mp hpart
        exact ⟨u, part ++ behind, rfl, hu,
          ih.mpr ⟨part, behind, rfl, Nat.succ.inj hlength, hpart, h⟩⟩

theorem matchThen_literal {word : String} : matchThen accept (literal word ++ items) text = true ↔
    ∃ behind, text = chars word ++ behind ∧ matchThen accept items behind = true := by
  rw [literal]
  induction chars word generalizing text with
  | nil => simp
  | cons v vs ih =>
    rw [List.map_cons, List.cons_append, matchThen_one]
    constructor
    · rintro ⟨u, behind, rfl, hu, h⟩
      obtain ⟨behind', rfl, h'⟩ := ih.mp h
      rw [of_decide_eq_true hu]
      exact ⟨behind', rfl, h'⟩
    · rintro ⟨behind, rfl, h⟩
      exact ⟨v, vs ++ behind, rfl, decide_eq_true rfl, ih.mpr ⟨behind, rfl, h⟩⟩

/-- A part that a repeated class can take. -/
theorem matchThen_many {part behind : List ℕ} (hne : part ≠ []) (hpart : ∀ u ∈ part, holds u = true)
    (h : matchThen accept items behind = true) :
    matchThen accept (many holds ++ items) (part ++ behind) = true := by
  induction part with
  | nil => exact absurd rfl hne
  | cons u part ih =>
    obtain ⟨hu, hrest⟩ := List.forall_mem_cons.mp hpart
    simp only [many, List.cons_append, matchThen, hu, Bool.true_and,
      Bool.or_eq_true] at ih ⊢
    by_cases hnil : part = []
    · subst hnil
      exact .inl h
    · exact .inr (ih hnil hrest)

theorem fullmatch_nil : fullmatch [] text = true ↔ text = [] := by
  rw [fullmatch, matchThen, decide_eq_true_iff]

end TcdOran.Lib.Python
