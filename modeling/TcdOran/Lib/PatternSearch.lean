import Mathlib.Data.List.Forall2
import Mathlib.Data.List.Infix
import TcdOran.Lib.PythonPattern

/-! What a search finds, and when it finds something: the text is split in front of the place. -/
namespace TcdOran.Lib.Python

variable {α : Type}

/-! ### Pieces at the front -/

theorem takeFixed_eq_some {classes : List (ℕ → Bool)} {text taken rest : List ℕ} :
    takeFixed classes text = some (taken, rest) ↔
      text = taken ++ rest ∧ List.Forall₂ (fun holds u => holds u = true) classes taken := by
  induction classes generalizing text taken with
  | nil =>
    simp only [takeFixed, Option.some.injEq, Prod.mk.injEq, List.forall₂_nil_left_iff]
    constructor
    · rintro ⟨rfl, rfl⟩
      exact ⟨rfl, rfl⟩
    · rintro ⟨rfl, rfl⟩
      exact ⟨rfl, rfl⟩
  | cons holds classes ih =>
    cases text with
    | nil =>
      constructor
      · intro h
        cases h
      · rintro ⟨htext, htaken⟩
        obtain ⟨rfl, -⟩ := List.append_eq_nil_iff.mp htext.symm
        cases htaken
    | cons u text =>
      unfold takeFixed
      rw [Option.ite_none_right_eq_some, Option.map_eq_some_iff]
      constructor
      · rintro ⟨hholds, ⟨taken', rest'⟩, hrest, heq⟩
        obtain ⟨rfl, rfl⟩ := Prod.mk.inj heq
        obtain ⟨rfl, hall⟩ := ih.mp hrest
        exact ⟨rfl, .cons hholds hall⟩
      · rintro ⟨htext, hall⟩
        cases hall with
        | cons hholds hall =>
          obtain ⟨rfl, rfl⟩ := List.cons.inj htext
          exact ⟨hholds, _, ih.mpr ⟨rfl, hall⟩, rfl⟩

theorem takeLiteral_eq_some {literal text rest : List ℕ} :
    takeLiteral literal text = some rest ↔ text = literal ++ rest := by
  unfold takeLiteral
  rw [Option.ite_none_right_eq_some, Option.some.injEq]
  constructor
  · rintro ⟨⟨rest', rfl⟩, hrest⟩
    rw [← hrest, List.drop_left]
  · rintro rfl
    exact ⟨List.prefix_append literal rest, List.drop_left⟩

/-! ### Searches -/

theorem scan_eq_some {find : Option ℕ → List ℕ → Option α} {before : Option ℕ} {text : List ℕ}
    {a : α} (h : scan find before text = some a) :
    ∃ front rest, text = front ++ rest ∧ find (front.getLast?.or before) rest = some a := by
  induction text generalizing before with
  | nil => exact ⟨[], [], rfl, h⟩
  | cons u text ih =>
    unfold scan at h
    split at h
    · next found hfound =>
      exact ⟨[], u :: text, rfl, hfound.trans h⟩
    · obtain ⟨front, rest, rfl, hrest⟩ := ih h
      refine ⟨u :: front, rest, rfl, ?_⟩
      rw [List.getLast?_cons]
      rw [← hrest]
      cases front.getLast? <;> rfl

theorem scan_of_front {find : Option ℕ → List ℕ → Option α} {before : Option ℕ} {text : List ℕ} {a : α}
    (h : find before text = some a) : scan find before text = some a := by
  cases text with
  | nil => exact h
  | cons u text => rw [scan, h]

theorem isSome_scan {find : Option ℕ → List ℕ → Option α} {before : Option ℕ} {front rest : List ℕ}
    (h : (find (front.getLast?.or before) rest).isSome) : (scan find before (front ++ rest)).isSome := by
  induction front generalizing before with
  | nil =>
    obtain ⟨a, ha⟩ := Option.isSome_iff_exists.mp h
    have hscan : scan find before rest = some a := scan_of_front ha
    rw [List.nil_append, hscan]
    rfl
  | cons u front ih =>
    rw [List.cons_append]
    unfold scan
    split
    · rfl
    · apply ih
      rw [List.getLast?_cons] at h
      cases hlast : front.getLast? <;> simpa [hlast] using h

theorem scanLast_eq_some {find : List ℕ → Option α} {text : List ℕ} {a : α}
    (h : scanLast find text = some a) : ∃ front rest, text = front ++ rest ∧ find rest = some a := by
  induction text with
  | nil => exact ⟨[], [], rfl, h⟩
  | cons u text ih =>
    unfold scanLast at h
    split at h
    · exact ⟨[], u :: text, rfl, h⟩
    · rcases Option.or_eq_some_iff.mp h with hlater | ⟨-, hhere⟩
      · obtain ⟨front, rest, rfl, hrest⟩ := ih hlater
        exact ⟨u :: front, rest, rfl, hrest⟩
      · exact ⟨[], u :: text, rfl, hhere⟩

theorem isSome_scanLast {find : List ℕ → Option α} {front rest : List ℕ} (hline : 10 ∉ front ++ rest)
    (h : (find rest).isSome) : (scanLast find (front ++ rest)).isSome := by
  induction front with
  | nil =>
    cases rest with
    | nil => exact h
    | cons u rest =>
      have hu : u ≠ 10 := fun hu => hline (hu ▸ List.mem_cons_self)
      rw [List.nil_append, scanLast, if_neg hu, Option.isSome_or, h, Bool.or_true]
  | cons u front ih =>
    have hu : u ≠ 10 := fun hu => hline (hu ▸ List.mem_cons_self)
    rw [List.cons_append, scanLast, if_neg hu, Option.isSome_or,
      ih fun hmem => hline (List.mem_cons_of_mem u hmem), Bool.true_or]

/-! ### Places of a literal -/

/-- In how many places of the text the literal stands. -/
def occurrences (literal text : List ℕ) : ℕ := text.tails.countP fun rest => literal.isPrefixOf rest

theorem eq_of_occurrences_le_one {literal text front front' rest rest' : List ℕ}
    (h : occurrences literal text ≤ 1) (htext : text = front ++ literal ++ rest)
    (htext' : text = front' ++ literal ++ rest') : front = front' ∧ rest = rest' := by
  have hmem {front rest : List ℕ} (htext : text = front ++ literal ++ rest) :
      literal ++ rest ∈ text.tails.filter fun rest => literal.isPrefixOf rest := by
    rw [List.append_assoc] at htext
    exact List.mem_filter.mpr ⟨(List.mem_tails _ _).mpr ⟨front, htext.symm⟩,
      List.isPrefixOf_iff_prefix.mpr (List.prefix_append literal rest)⟩
  unfold occurrences at h
  rw [List.countP_eq_length_filter] at h
  have hsame : literal ++ rest = literal ++ rest' := by
    have h₁ := hmem htext
    have h₂ := hmem htext'
    match hplaces : text.tails.filter fun rest => literal.isPrefixOf rest with
    | [] => rw [hplaces] at h₁; cases h₁
    | [place] =>
      rw [hplaces, List.mem_singleton] at h₁ h₂
      exact h₁.trans h₂.symm
    | _ :: _ :: _ => rw [hplaces] at h; simp at h
  obtain rfl := List.append_cancel_left hsame
  refine ⟨?_, rfl⟩
  rw [htext, List.append_assoc, List.append_assoc] at htext'
  exact List.append_cancel_right htext'

/-- A character that is not in the first part stands behind it. -/
theorem split_behind {front rest front' rest' : List ℕ} {u : ℕ}
    (h : front ++ rest = front' ++ u :: rest') (hu : u ∉ front) :
    ∃ between, front' = front ++ between ∧ rest = between ++ u :: rest' := by
  rcases List.append_eq_append_iff.mp h with ⟨between, hfront, hrest⟩ | ⟨between, hfront, hrest⟩
  · exact ⟨between, hfront, hrest⟩
  · cases between with
    | nil => exact ⟨[], by simpa using hfront.symm, hrest.symm⟩
    | cons v between =>
      obtain ⟨rfl, -⟩ := List.cons.inj hrest
      exact absurd (hfront ▸ List.mem_append_right front' List.mem_cons_self) hu

end TcdOran.Lib.Python
