import TcdOran.Lib.Json

/-! What the JSON decoder makes of texts that a printer has written, without blanks or indented. -/
namespace TcdOran.Lib.Json

/-- The texts of a string's units between its quotes. -/
inductive StringBody : List ℕ → List ℕ → Prop
  | nil : StringBody [] []
  | plain {u : ℕ} {text units : List ℕ} : 32 ≤ u → u ≠ 34 → u ≠ 92 → StringBody text units →
      StringBody (u :: text) (u :: units)
  | short {c u : ℕ} {text units : List ℕ} : shortEscape c = some u → StringBody text units →
      StringBody (92 :: c :: text) (u :: units)
  | unicode {a b c d u : ℕ} {text units : List ℕ} : (hexQuad [a, b, c, d]) = some (u, []) →
      u < 0xD800 → StringBody text units →
      StringBody (92 :: 117 :: a :: b :: c :: d :: text) (u :: units)

theorem StringBody.append {text text' units units' : List ℕ} (h : StringBody text units)
    (h' : StringBody text' units') : StringBody (text ++ text') (units ++ units') := by
  induction h with
  | nil => exact h'
  | plain h32 h34 h92 _ ih => exact .plain h32 h34 h92 ih
  | short hc _ ih => exact .short hc ih
  | unicode hquad hlow _ ih => exact .unicode hquad hlow ih

theorem hexQuad_append {a b c d u : ℕ} (h : hexQuad [a, b, c, d] = some (u, []))
    (rest : List ℕ) : hexQuad (a :: b :: c :: d :: rest) = some (u, rest) := by
  simp only [hexQuad, Option.bind_eq_bind, Option.bind_eq_some_iff] at h ⊢
  obtain ⟨va, ha, vb, hb, vc, hc, vd, hd, hu⟩ := h
  refine ⟨va, ha, vb, hb, vc, hc, vd, hd, ?_⟩
  simp only [Option.pure_def, Option.some.injEq, Prod.mk.injEq, and_true] at hu ⊢
  exact hu

theorem parseString_body {text units : List ℕ} (h : StringBody text units) (fuel : ℕ)
    (hf : text.length < fuel) (rest : List ℕ) :
    parseString fuel (text ++ 34 :: rest) = some (units, rest) := by
  induction h generalizing fuel with
  | nil =>
    obtain ⟨fuel, rfl⟩ := Nat.exists_eq_succ_of_ne_zero (by omega : fuel ≠ 0)
    simp [parseString]
  | @plain u text units h32 h34 h92 _ ih =>
    obtain ⟨fuel, rfl⟩ := Nat.exists_eq_succ_of_ne_zero (by omega : fuel ≠ 0)
    have hnot : ¬ u < 32 := by omega
    simp only [List.length_cons] at hf
    simp [parseString, h34, h92, hnot, ih fuel (by omega)]
  | @short c u text units hc _ ih =>
    obtain ⟨fuel, rfl⟩ := Nat.exists_eq_succ_of_ne_zero (by omega : fuel ≠ 0)
    have h117 : c ≠ 117 := by
      rintro rfl
      simp [shortEscape] at hc
    simp only [List.length_cons] at hf
    simp [parseString, parseEscape, h117, hc, ih fuel (by omega)]
  | @unicode a b c d u text units hquad hlow _ ih =>
    obtain ⟨fuel, rfl⟩ := Nat.exists_eq_succ_of_ne_zero (by omega : fuel ≠ 0)
    have hhigh : ¬ (0xD800 ≤ u ∧ u ≤ 0xDBFF) := by omega
    simp only [List.length_cons] at hf
    simp [parseString, parseEscape, unicodeEscape, hexQuad_append hquad, hhigh,
      ih fuel (by omega)]

/-- The decoder reads the value off the front of any input that starts with the text. -/
def Prints (text : List ℕ) (value : Json) : Prop :=
  ∀ fuel rest, text.length ≤ fuel → Delimited rest →
    parseValue fuel (text ++ rest) = some (value, rest)

theorem skipBlank_cons {u : ℕ} (h : isBlank u = false) (rest : List ℕ) :
    skipBlank (u :: rest) = u :: rest := by
  simp [skipBlank, h]

theorem expect_cons (u : ℕ) (h : isBlank u = false) (rest : List ℕ) :
    expect u (u :: rest) = some rest := by
  simp [expect, skipBlank_cons h]

theorem expect_ne {u v : ℕ} (h : isBlank v = false) (hne : v ≠ u) (rest : List ℕ) :
    expect u (v :: rest) = none := by
  simp [expect, skipBlank_cons h, hne]

theorem prints_str {text units : List ℕ} (h : StringBody text units) :
    Prints (34 :: (text ++ [34])) (.str units) := by
  intro fuel rest hf _
  simp only [List.length_cons, List.length_append, List.length_nil] at hf
  obtain ⟨fuel, rfl⟩ := Nat.exists_eq_succ_of_ne_zero (by omega : fuel ≠ 0)
  simp [parseValue, skipBlank_cons (u := 34) (by decide),
    parseString_body h fuel (by omega)]

/-- A text that neither a quote nor a bracket starts is one of the words or a number. -/
theorem parseValue_literal {u : ℕ} {us rest : List ℕ} {fuel : ℕ} (hblank : isBlank u = false)
    (h34 : u ≠ 34) (h123 : u ≠ 123) (h91 : u ≠ 91) :
    parseValue (fuel + 1) (u :: us ++ rest) = parseLiteral (u :: us ++ rest) := by
  simp [parseValue, skipBlank_cons hblank, h34, h123, h91]

theorem prints_null : Prints (chars "null") .null := by
  intro fuel rest hf _
  obtain ⟨fuel, rfl⟩ := Nat.exists_eq_succ_of_ne_zero (by rintro rfl; simp [chars] at hf :
    fuel ≠ 0)
  exact parseValue_literal (u := 110) (by decide) (by decide) (by decide) (by decide)

theorem prints_true : Prints (chars "true") (.bool true) := by
  intro fuel rest hf _
  obtain ⟨fuel, rfl⟩ := Nat.exists_eq_succ_of_ne_zero (by rintro rfl; simp [chars] at hf :
    fuel ≠ 0)
  exact parseValue_literal (u := 116) (by decide) (by decide) (by decide) (by decide)

theorem prints_false : Prints (chars "false") (.bool false) := by
  intro fuel rest hf _
  obtain ⟨fuel, rfl⟩ := Nat.exists_eq_succ_of_ne_zero (by rintro rfl; simp [chars] at hf :
    fuel ≠ 0)
  exact parseValue_literal (u := 102) (by decide) (by decide) (by decide) (by decide)

theorem text_head {n : NumberLiteral} (hn : n.Valid) :
    ∃ u us, n.text = u :: us ∧ (u = 45 ∨ isDigit u = true) := by
  obtain ⟨d, ds, hds⟩ := List.exists_cons_of_ne_nil hn.integer_ne_nil
  unfold NumberLiteral.text
  rw [hds]
  cases n.negative
  · exact ⟨d, _, rfl, .inr (hn.integer d (by simp [hds]))⟩
  · exact ⟨45, _, rfl, .inl rfl⟩

theorem prints_num {n : NumberLiteral} (hn : n.Valid) : Prints n.text (.num n) := by
  intro fuel rest hf hr
  obtain ⟨u, us, htext, hu⟩ := text_head hn
  have hrange : u = 45 ∨ 48 ≤ u ∧ u ≤ 57 := by
    rcases hu with rfl | hu
    · exact .inl rfl
    · exact .inr (by simpa [isDigit] using hu)
  obtain ⟨fuel, rfl⟩ := Nat.exists_eq_succ_of_ne_zero (by rintro rfl; simp [htext] at hf :
    fuel ≠ 0)
  have hblank : isBlank u = false := by
    simp only [isBlank, decide_eq_false_iff_not]
    omega
  have hnumber : parseNumber (u :: us ++ rest) = some (n, rest) :=
    htext ▸ parseNumber_text hn hr
  have hword {w : ℕ} {ws : List ℕ} (hw : 57 < w) :
      stripPrefix (w :: ws) (u :: us ++ rest) = none := by
    rw [List.cons_append, stripPrefix, if_neg (by omega)]
  rw [htext, parseValue_literal hblank (by omega) (by omega) (by omega), parseLiteral,
    show chars "null" = 110 :: chars "ull" from rfl, show chars "true" = 116 :: chars "rue" from rfl,
    show chars "false" = 102 :: chars "alse" from rfl, hword (by norm_num), hword (by norm_num),
    hword (by norm_num), hnumber]
  rfl

/-- The text of a member: the key in quotes, a colon and the text of the value. -/
def PrintsMember (text : List ℕ) (member : List ℕ × Json) : Prop :=
  ∃ keyText valueText, text = 34 :: (keyText ++ 34 :: 58 :: valueText) ∧
    StringBody keyText member.1 ∧ Prints valueText member.2

theorem prints_ne_nil {text : List ℕ} {value : Json} (h : Prints text value) : text ≠ [] := by
  rintro rfl
  have := h 0 [] le_rfl (by rintro u us ⟨⟩)
  simp [parseValue] at this

/-- Up to the value, a member is read as it is written; what follows decides how it goes on. -/
theorem parseMembers_step {text : List ℕ} {member : List ℕ × Json} (h : PrintsMember text member)
    {fuel : ℕ} (hf : text.length ≤ fuel) {rest : List ℕ} (hr : Delimited rest) :
    parseMembers (fuel + 1) (text ++ rest) =
      match expect 44 rest with
      | some rest => do
          let (members, rest) ← parseMembers fuel rest
          return (member :: members, rest)
      | none => do
          let rest ← expect 125 rest
          return ([member], rest) := by
  obtain ⟨keyText, valueText, rfl, hkey, hvalue⟩ := h
  obtain ⟨key, value⟩ := member
  simp only [List.length_cons, List.length_append] at hf
  have hread := hvalue fuel rest (by omega) hr
  rw [parseMembers]
  cases hcomma : expect 44 rest <;>
    simp only [List.cons_append, List.append_assoc, expect_cons 34 (by decide),
      parseString_body hkey fuel (by omega), expect_cons 58 (by decide), hread, hcomma,
      Option.bind_eq_bind, Option.bind_some]

theorem delimited_comma (us : List ℕ) : Delimited (44 :: us) :=
  delimited_cons (by decide) (by decide) (by decide) (by decide)

theorem delimited_brace (us : List ℕ) : Delimited (125 :: us) :=
  delimited_cons (by decide) (by decide) (by decide) (by decide)

/-! ### Blanks of an indented text -/

section
variable {blanks : List ℕ} (hblanks : ∀ u ∈ blanks, isBlank u = true)
include hblanks

theorem skipBlank_append (input : List ℕ) : skipBlank (blanks ++ input) = skipBlank input :=
  List.dropWhile_append_of_pos hblanks

theorem expect_append (u : ℕ) (input : List ℕ) : expect u (blanks ++ input) = expect u input := by
  simp [expect, skipBlank_append hblanks]

theorem parseValue_append (fuel : ℕ) (input : List ℕ) :
    parseValue fuel (blanks ++ input) = parseValue fuel input := by
  cases fuel with
  | zero => simp [parseValue]
  | succ fuel => simp only [parseValue, skipBlank_append hblanks]

theorem parseMembers_append (fuel : ℕ) (input : List ℕ) :
    parseMembers fuel (blanks ++ input) = parseMembers fuel input := by
  cases fuel with
  | zero => simp [parseMembers]
  | succ fuel => simp only [parseMembers, expect_append hblanks]

theorem Prints.blanks_append {text : List ℕ} {value : Json} (h : Prints text value) :
    Prints (blanks ++ text) value := by
  intro fuel rest hf hr
  rw [List.append_assoc, parseValue_append hblanks]
  exact h fuel rest ((List.length_append ▸ Nat.le_add_left _ _).trans hf) hr

theorem delimited_blanks {rest : List ℕ} (h : Delimited rest) : Delimited (blanks ++ rest) := by
  cases blanks with
  | nil => exact h
  | cons u us =>
    have hu := hblanks u List.mem_cons_self
    simp only [isBlank, decide_eq_true_eq] at hu
    refine delimited_cons ?_ (by omega) (by omega) (by omega)
    simp only [isDigit, decide_eq_false_iff_not]
    omega

end

/-- Members with blanks behind every comma and in front of the closing brace. -/
theorem parseMembers_texts {indent closing : List ℕ} (hindent : ∀ u ∈ indent, isBlank u = true)
    (hclosing : ∀ u ∈ closing, isBlank u = true) {texts : List (List ℕ)}
    {members : List (List ℕ × Json)} (h : List.Forall₂ PrintsMember texts members)
    (hne : texts ≠ []) (fuel : ℕ) (hf : (List.intercalate (44 :: indent) texts).length < fuel)
    (rest : List ℕ) :
    parseMembers fuel (List.intercalate (44 :: indent) texts ++ (closing ++ 125 :: rest)) =
      some (members, rest) := by
  induction h generalizing fuel with
  | nil => exact absurd rfl hne
  | @cons text member texts members hm hrest ih =>
    obtain ⟨fuel, rfl⟩ := Nat.exists_eq_succ_of_ne_zero (by omega : fuel ≠ 0)
    cases hrest with
    | nil =>
      simp only [List.intercalate, List.intersperse_singleton, List.flatten_cons, List.flatten_nil,
        List.append_nil] at hf ⊢
      rw [parseMembers_step hm (by omega) (delimited_blanks hclosing (delimited_brace rest)),
        expect_append hclosing, expect_append hclosing, expect_ne (by decide) (by decide),
        expect_cons 125 (by decide)]
      rfl
    | @cons next nextMember texts' members' hnext hrest =>
      have hsplit : List.intercalate (44 :: indent) (text :: next :: texts') =
          text ++ 44 :: (indent ++ List.intercalate (44 :: indent) (next :: texts')) := by
        simp [List.intercalate]
      rw [hsplit, List.length_append, List.length_cons, List.length_append] at hf
      rw [hsplit, List.append_assoc, List.cons_append, parseMembers_step hm (by omega)
        (delimited_comma _), expect_cons 44 (by decide)]
      simp only [List.append_assoc, parseMembers_append hindent, ih (by simp) fuel (by omega),
        Option.bind_eq_bind, Option.bind_some]
      rfl

theorem prints_obj_indented {indent closing : List ℕ} (hindent : ∀ u ∈ indent, isBlank u = true)
    (hclosing : ∀ u ∈ closing, isBlank u = true) {texts : List (List ℕ)}
    {members : List (List ℕ × Json)} (h : List.Forall₂ PrintsMember texts members)
    (hne : texts ≠ []) :
    Prints (123 :: (indent ++ List.intercalate (44 :: indent) texts ++ (closing ++ [125])))
      (.obj members) := by
  intro fuel rest hf _
  simp only [List.length_cons, List.length_append, List.length_nil] at hf
  obtain ⟨fuel, rfl⟩ := Nat.exists_eq_succ_of_ne_zero (by omega : fuel ≠ 0)
  have hread := parseMembers_texts hindent hclosing h hne fuel (by omega) rest
  have hopen (rest : List ℕ) : expect 125 (List.intercalate (44 :: indent) texts ++ rest) = none := by
    cases h with
    | nil => exact absurd rfl hne
    | @cons text member texts members hm _ =>
      obtain ⟨keyText, valueText, rfl, -, -⟩ := hm
      cases texts <;> exact expect_ne (u := 125) (v := 34) (by decide) (by decide) _
  simp [parseValue, skipBlank_cons (u := 123) (by decide), expect_append hindent, hopen,
    parseMembers_append hindent, hread]

theorem prints_obj {texts : List (List ℕ)} {members : List (List ℕ × Json)}
    (h : List.Forall₂ PrintsMember texts members) (hne : texts ≠ []) :
    Prints (123 :: (List.intercalate [44] texts ++ [125])) (.obj members) := by
  have hnone : ∀ u ∈ ([] : List ℕ), isBlank u = true := by simp
  simpa using prints_obj_indented hnone hnone h hne

/-- A printed value is a document, also with a line feed behind it. -/
theorem parse_prints {text : List ℕ} {value : Json} (h : Prints text value) :
    parse (text ++ [10]) = some value := by
  have hdelimited : Delimited [10] :=
    delimited_cons (by decide) (by decide) (by decide) (by decide)
  rw [parse, h _ [10] (by simp; omega) hdelimited]
  rfl

end TcdOran.Lib.Json
