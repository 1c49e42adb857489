import TcdOran.Lib.Decimal
import TcdOran.Lib.Text

/-! The patterns of Python's `re` that the programs and schemas use: sequences of character classes,
each of which stands for one character or, where it is repeated, for one or more. -/
namespace TcdOran.Lib.Python

structure PatternItem where
  holds : ℕ → Bool
  repeated : Bool

abbrev Pattern := List PatternItem

namespace Pattern

def upper (u : ℕ) : Bool := 65 ≤ u ∧ u ≤ 90

def lower (u : ℕ) : Bool := 97 ≤ u ∧ u ≤ 122

def hexDigit (u : ℕ) : Bool := isDigit u ∨ (97 ≤ u ∧ u ≤ 102)

def literal (text : String) : Pattern := (chars text).map fun v => ⟨fun u => u = v, false⟩

/-- `P{n}`. -/
def times (holds : ℕ → Bool) (n : ℕ) : Pattern := List.replicate n ⟨holds, false⟩

/-- `P+`. -/
def many (holds : ℕ → Bool) : Pattern := [⟨holds, true⟩]

end Pattern

/-- The pattern matches a text whose rest is accepted. -/
def matchThen (accept : List ℕ → Bool) : Pattern → List ℕ → Bool
  | [], text => accept text
  | _ :: _, [] => false
  | item :: items, u :: rest =>
      item.holds u && (matchThen accept items rest ||
        (item.repeated && matchThen accept (item :: items) rest))

/-- `re.fullmatch`. -/
def fullmatch (pattern : Pattern) (text : List ℕ) : Bool :=
  matchThen (fun rest => rest = []) pattern text

/-- `re.search` with `^P$`; the dollar also matches in front of a line feed at the end. -/
def searchWhole (pattern : Pattern) (text : List ℕ) : Bool :=
  matchThen (fun rest => rest = [] ∨ rest = [10]) pattern text

theorem head_of_matchThen {accept : List ℕ → Bool} {item : PatternItem} {items : Pattern}
    {text : List ℕ} (h : matchThen accept (item :: items) text = true) :
    ∃ u rest, text = u :: rest ∧ item.holds u = true := by
  cases text with
  | nil => cases h
  | cons u rest => exact ⟨u, rest, rfl, (Bool.and_eq_true_iff.mp h).1⟩

theorem matchThen_mono {accept accept' : List ℕ → Bool} (hmono : ∀ text, accept text → accept' text)
    {pattern : Pattern} {text : List ℕ} (h : matchThen accept pattern text = true) :
    matchThen accept' pattern text = true := by
  induction text generalizing pattern with
  | nil =>
    cases pattern with
    | nil => exact hmono [] h
    | cons => exact h
  | cons u rest ih =>
    cases pattern with
    | nil => exact hmono (u :: rest) h
    | cons item items =>
      simp only [matchThen, Bool.and_eq_true, Bool.or_eq_true] at h ⊢
      obtain ⟨hholds, hrest | ⟨hrepeated, hrest⟩⟩ := h
      · exact ⟨hholds, .inl (ih hrest)⟩
      · exact ⟨hholds, .inr ⟨hrepeated, ih hrest⟩⟩

theorem searchWhole_of_fullmatch {pattern : Pattern} {text : List ℕ}
    (h : fullmatch pattern text = true) : searchWhole pattern text = true := by
  apply matchThen_mono _ h
  intro rest hrest
  exact decide_eq_true (.inl (of_decide_eq_true hrest))

/-- Every character of a matched text is in one of the classes. -/
theorem exists_item_of_mem_fullmatch {pattern : Pattern} {text : List ℕ}
    (h : fullmatch pattern text = true) {u : ℕ} (hu : u ∈ text) :
    ∃ item ∈ pattern, item.holds u = true := by
  induction text generalizing pattern with
  | nil => exact absurd hu List.not_mem_nil
  | cons v rest ih =>
    cases pattern with
    | nil => exact absurd (of_decide_eq_true (p := v :: rest = []) h) (List.cons_ne_nil v rest)
    | cons item items =>
      rw [fullmatch, matchThen, Bool.and_eq_true, Bool.or_eq_true] at h
      obtain ⟨hholds, hrest⟩ := h
      rcases List.mem_cons.mp hu with rfl | hmem
      · exact ⟨item, List.mem_cons_self, hholds⟩
      rcases hrest with hnext | hagain
      · obtain ⟨found, hfound, hin⟩ := ih hnext hmem
        exact ⟨found, List.mem_cons_of_mem item hfound, hin⟩
      · exact ih (Bool.and_eq_true_iff.mp hagain).2 hmem

/-! ### Searching -/

/-- The text of one character for each class, and what follows it. -/
def takeFixed : List (ℕ → Bool) → List ℕ → Option (List ℕ × List ℕ)
  | [], text => some ([], text)
  | _ :: _, [] => none
  | holds :: classes, u :: rest =>
      if holds u then (takeFixed classes rest).map fun (taken, rest) => (u :: taken, rest)
      else none

/-- What follows a literal text. -/
def takeLiteral (literal text : List ℕ) : Option (List ℕ) :=
  if literal <+: text then some (text.drop literal.length) else none

/-- The first position, from the front, at which `find` succeeds. A position is given by the
character in front of it and the text behind it. -/
def scan {α : Type} (find : Option ℕ → List ℕ → Option α) : Option ℕ → List ℕ → Option α
  | before, [] => find before []
  | before, u :: rest =>
      match find before (u :: rest) with
      | some a => some a
      | none => scan find (some u) rest

/-- The last position of the line at which `find` succeeds, as behind a greedy `.*`. -/
def scanLast {α : Type} (find : List ℕ → Option α) : List ℕ → Option α
  | [] => find []
  | u :: rest => if u = 10 then find (u :: rest) else (scanLast find rest).or (find (u :: rest))

end TcdOran.Lib.Python
