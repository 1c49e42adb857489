import TcdOran.Lib.PythonText
import TcdOran.Lib.Check

/-! The lines of a text that is stored as UTF-8: as a binary file gives them, which end at line
feeds, and as a text file opened with `newline=""` does, which end at carriage returns too. -/
namespace TcdOran.Lib.Python

section
variable {α : Type}

/-- A unit at the front of the first line. -/
def ontoFirst (u : α) : List (List α) → List (List α)
  | [] => [[u]]
  | line :: lines => (u :: line) :: lines

theorem ontoFirst_length (u : α) (lines : List (List α)) :
    (ontoFirst u lines).length = max 1 lines.length := by
  cases lines with
  | nil => rfl
  | cons line lines =>
    rw [ontoFirst, List.length_cons, List.length_cons]
    omega

theorem ontoFirst_flatten (u : α) (lines : List (List α)) :
    (ontoFirst u lines).flatten = u :: lines.flatten := by
  cases lines <;> rfl

end

/-- The lines of a text, each with the line feed that ends it. -/
def feedLines : List ℕ → List (List ℕ)
  | [] => []
  | u :: us => if u = 10 then [u] :: feedLines us else ontoFirst u (feedLines us)

/-- The lines of a file opened with `newline=""`: a line feed, a carriage return or the two of them
end a line, and stay as they are. -/
def untranslatedLines : List ℕ → List (List ℕ)
  | [] => []
  | u :: us =>
      if u = 10 ∨ (u = 13 ∧ us.head? ≠ some 10) then [u] :: untranslatedLines us
      else ontoFirst u (untranslatedLines us)

/-- Every carriage return stands in front of a line feed or at the end. -/
def PairedReturns : List ℕ → Prop
  | [] => True
  | u :: us => (u = 13 → us = [] ∨ us.head? = some 10) ∧ PairedReturns us

example : untranslatedLines [97, 13, 10, 98, 13, 99] = [[97, 13, 10], [98, 13], [99]] := by decide

instance decidablePairedReturns : (text : List ℕ) → Decidable (PairedReturns text)
  | [] => isTrue trivial
  | u :: us =>
      have := decidablePairedReturns us
      inferInstanceAs (Decidable ((u = 13 → us = [] ∨ us.head? = some 10) ∧ PairedReturns us))

/-! ### One text, two ways of reading -/

theorem feedLines_pos {text : List ℕ} (h : text ≠ []) : 1 ≤ (feedLines text).length := by
  cases text with
  | nil => exact absurd rfl h
  | cons u us =>
    rw [feedLines]
    split_ifs
    · exact Nat.le_add_left 1 _
    · rw [ontoFirst_length]
      exact le_max_left _ _

theorem untranslatedLines_paired {text : List ℕ} (h : PairedReturns text) :
    untranslatedLines text = feedLines text := by
  induction text with
  | nil => rfl
  | cons u us ih =>
    obtain ⟨hreturn, hrest⟩ := h
    rw [untranslatedLines, feedLines, ih hrest]
    by_cases hfeed : u = 10
    · rw [if_pos (.inl hfeed), if_pos hfeed]
    · by_cases hcr : u = 13
      · rcases hreturn hcr with rfl | hhead
        · rw [if_pos (.inr ⟨hcr, by simp⟩), if_neg hfeed]
          rfl
        · have hkeep : ¬ (u = 10 ∨ (u = 13 ∧ us.head? ≠ some 10)) := by
            rintro (h10 | ⟨-, hne⟩)
            · exact hfeed h10
            · exact hne hhead
          rw [if_neg hkeep, if_neg hfeed]
      · rw [if_neg (by simp [hfeed, hcr]), if_neg hfeed]

theorem feedLines_le (text : List ℕ) :
    (feedLines text).length ≤ (untranslatedLines text).length := by
  induction text with
  | nil => exact le_refl 0
  | cons u us ih =>
    rw [feedLines, untranslatedLines]
    split_ifs with hfeed hends hends
    · simpa using ih
    · exact absurd (.inl hfeed) hends
    · rw [ontoFirst_length, List.length_cons]
      omega
    · rw [ontoFirst_length, ontoFirst_length]
      exact max_le_max le_rfl ih

/-- A carriage return that stands alone makes one line more. -/
theorem paired_of_length {text : List ℕ}
    (h : (untranslatedLines text).length = (feedLines text).length) : PairedReturns text := by
  induction text with
  | nil => trivial
  | cons u us ih =>
    have hle := feedLines_le us
    rw [feedLines, untranslatedLines] at h
    by_cases hfeed : u = 10
    · rw [if_pos (.inl hfeed), if_pos hfeed, List.length_cons, List.length_cons] at h
      refine ⟨fun hcr => ?_, ih (by omega)⟩
      omega
    · rw [if_neg hfeed, ontoFirst_length] at h
      by_cases hnil : us = []
      · subst hnil
        exact ⟨fun _ => .inl rfl, trivial⟩
      · have hpos := feedLines_pos hnil
        by_cases hends : u = 10 ∨ (u = 13 ∧ us.head? ≠ some 10)
        · rw [if_pos hends, List.length_cons] at h
          omega
        · rw [if_neg hends, ontoFirst_length] at h
          refine ⟨fun hcr => .inr ?_, ih (by omega)⟩
          by_contra hhead
          exact hends (.inr ⟨hcr, hhead⟩)

theorem feedLines_ne_nil {text : List ℕ} (h : text ≠ []) : feedLines text ≠ [] := by
  intro hnil
  have hpos := feedLines_pos h
  rw [hnil] at hpos
  exact absurd hpos (by decide)

theorem untranslatedLines_ne_nil {text : List ℕ} (h : text ≠ []) : untranslatedLines text ≠ [] := by
  intro hnil
  have hle := (feedLines_pos h).trans (feedLines_le text)
  rw [hnil] at hle
  exact absurd hle (by decide)

/-- The first line with every ending is the front of the first line with the line feeds. -/
theorem first_in_front {text first line : List ℕ} {rest lines : List (List ℕ)}
    (hfirst : untranslatedLines text = first :: rest) (hline : feedLines text = line :: lines) :
    first <+: line := by
  induction text generalizing first line rest lines with
  | nil => cases hfirst
  | cons u us ih =>
    rw [untranslatedLines] at hfirst
    rw [feedLines] at hline
    by_cases hfeed : u = 10
    · rw [if_pos (.inl hfeed)] at hfirst
      rw [if_pos hfeed] at hline
      rw [← (List.cons.inj hfirst).1, ← (List.cons.inj hline).1]
    · rw [if_neg hfeed] at hline
      have hu : [u] <+: line := by
        generalize feedLines us = behind at hline
        cases behind with
        | nil => rw [← (List.cons.inj hline).1]
        | cons next behind =>
          rw [← (List.cons.inj hline).1]
          exact ⟨next, rfl⟩
      split_ifs at hfirst with hends
      · rwa [← (List.cons.inj hfirst).1]
      · by_cases hnil : us = []
        · subst hnil
          rwa [← (List.cons.inj hfirst).1]
        · obtain ⟨next, behind, hnext⟩ := List.exists_cons_of_ne_nil (untranslatedLines_ne_nil hnil)
          obtain ⟨next', behind', hnext'⟩ := List.exists_cons_of_ne_nil (feedLines_ne_nil hnil)
          rw [hnext] at hfirst
          rw [hnext'] at hline
          rw [← (List.cons.inj hfirst).1, ← (List.cons.inj hline).1, List.cons_prefix_cons]
          exact ⟨rfl, ih hnext hnext'⟩

/-! ### The stored text -/

theorem flatten_splitLines (bs : List UInt8) : (splitLines bs).flatten = bs := by
  induction bs with
  | nil => rfl
  | cons b bs ih =>
    rw [splitLines]
    split_ifs with hb
    · rw [List.flatten_cons, ih, hb]
      rfl
    · split
      · next hnil =>
        rw [hnil] at ih
        rw [← ih]
        rfl
      · next line lines hlines =>
        rw [hlines] at ih
        rw [← ih]
        rfl

/-- Bytes that end no line stand at the front of the first one. -/
theorem splitLines_front {body : List UInt8} (hne : body ≠ []) (h : (10 : UInt8) ∉ body)
    (rest : List UInt8) :
    splitLines (body ++ rest) =
      match splitLines rest with
      | [] => [body]
      | line :: lines => (body ++ line) :: lines := by
  induction body with
  | nil => exact absurd rfl hne
  | cons b body ih =>
    simp only [List.mem_cons, not_or] at h
    rw [List.cons_append, splitLines, if_neg fun h10 => h.1 h10.symm]
    by_cases hbody : body = []
    · subst hbody
      rw [List.nil_append]
      cases splitLines rest <;> rfl
    · rw [ih hbody h.2]
      cases splitLines rest <;> rfl

theorem feed_notMem_encode {c : Char} (h : c.toNat ≠ 10) :
    (10 : UInt8) ∉ String.utf8EncodeChar c := by
  intro hmem
  by_cases hlow : c.val.toNat ≤ 0x7F
  · rw [String.utf8EncodeChar] at hmem
    simp only [hlow, if_true, List.mem_singleton] at hmem
    have htoNat := congrArg UInt8.toNat hmem
    rw [UInt8.toNat_ofNat_of_lt' (Nat.lt_of_le_of_lt hlow (by decide))] at htoNat
    exact h htoNat.symm
  · have hge := utf8EncodeChar_ge (c := c) (by change 32 ≤ c.val.toNat; omega) 10 hmem
    exact absurd hge (by decide)

/-- The lines of the bytes are the stored lines of the text. -/
theorem splitLines_codePoints {bs : List UInt8} {text : List ℕ} (h : codePoints bs = some text) :
    List.Forall₂ (fun line part => codePoints line = some part) (splitLines bs)
      (feedLines text) := by
  simp only [codePoints, Option.map_eq_some_iff, decodeUtf8_eq_some_iff] at h
  obtain ⟨cs, rfl, rfl⟩ := h
  induction cs with
  | nil => exact .nil
  | cons c cs ih =>
    have hcons : encodeUtf8 (c :: cs) = String.utf8EncodeChar c ++ encodeUtf8 cs := rfl
    rw [hcons, List.map_cons, feedLines]
    have hfirst : codePoints (String.utf8EncodeChar c) = some [c.toNat] := by
      have hone := codePoints_encodeUtf8 [c]
      rwa [encodeUtf8, List.flatMap_singleton] at hone
    by_cases hfeed : c.toNat = 10
    · have hc : c = Char.ofNat 10 := by rw [← hfeed, Char.ofNat_toNat]
      have hencode : String.utf8EncodeChar c = [10] := by
        rw [hc]
        decide
      rw [if_pos hfeed, hencode, List.singleton_append, splitLines, if_pos rfl]
      exact .cons (hencode ▸ hfirst) ih
    · have hne : String.utf8EncodeChar c ≠ [] := by
        intro hnil
        rw [hnil] at hfirst
        cases hfirst
      rw [if_neg hfeed, splitLines_front hne (feed_notMem_encode hfeed)]
      generalize splitLines (encodeUtf8 cs) = lines, feedLines (cs.map Char.toNat) = parts at ih
      cases ih with
      | nil => exact .cons hfirst .nil
      | cons hline hlines => exact .cons (codePoints_append hfirst hline) hlines

theorem codePoints_flatten {lines : List (List UInt8)} {parts : List (List ℕ)}
    (h : List.Forall₂ (fun line part => codePoints line = some part) lines parts) :
    codePoints lines.flatten = some parts.flatten := by
  induction h with
  | nil => exact codePoints_encodeUtf8 []
  | cons hline _ ih => exact codePoints_append hline ih

/-- Where each line of the bytes is a text, their whole is, and the lines are its lines. -/
theorem feedLines_of_splitLines {bs : List UInt8} {parts : List (List ℕ)}
    (h : (splitLines bs).mapM codePoints = some parts) :
    codePoints bs = some parts.flatten ∧ feedLines parts.flatten = parts := by
  have hparts := mapM_eq_some.mp h
  have hwhole := codePoints_flatten hparts
  rw [flatten_splitLines] at hwhole
  have hlines := mapM_eq_some.mpr (splitLines_codePoints hwhole)
  rw [h] at hlines
  exact ⟨hwhole, (Option.some.inj hlines).symm⟩

end TcdOran.Lib.Python
