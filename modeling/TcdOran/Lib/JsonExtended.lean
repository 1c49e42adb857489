import TcdOran.Lib.JsonText

/-! What the decoder reads at the front of a text it reads with more text behind it too, where the
value does not end with the text. -/
namespace TcdOran.Lib.Json

variable {extra rest text : List ℕ}

/-! ### Pieces -/

theorem takeWhile_extended (extra : List ℕ) {p : ℕ → Bool} (h : text.dropWhile p ≠ []) :
    (text ++ extra).takeWhile p = text.takeWhile p ∧
      (text ++ extra).dropWhile p = text.dropWhile p ++ extra := by
  induction text with
  | nil => exact absurd rfl h
  | cons u text ih =>
    by_cases hu : p u = true
    · rw [List.dropWhile_cons_of_pos hu] at h
      obtain ⟨htake, hdrop⟩ := ih h
      rw [List.cons_append, List.takeWhile_cons_of_pos hu, List.dropWhile_cons_of_pos hu,
        List.takeWhile_cons_of_pos hu, List.dropWhile_cons_of_pos hu, htake, hdrop]
      exact ⟨rfl, rfl⟩
    · rw [List.cons_append, List.takeWhile_cons_of_neg hu, List.dropWhile_cons_of_neg hu,
        List.takeWhile_cons_of_neg hu, List.dropWhile_cons_of_neg hu]
      exact ⟨rfl, rfl⟩

theorem skipBlank_extended {u : ℕ} {behind : List ℕ} (h : skipBlank text = u :: behind) :
    skipBlank (text ++ extra) = u :: (behind ++ extra) := by
  have hne : text.dropWhile isBlank ≠ [] := by
    intro hnil
    rw [skipBlank, hnil] at h
    cases h
  rw [skipBlank, (takeWhile_extended extra hne).2, ← skipBlank, h, List.cons_append]

theorem skipBlank_of_expect {u : ℕ} {behind : List ℕ} (h : expect u text = some behind) :
    skipBlank text = u :: behind := by
  unfold expect at h
  split at h
  · cases h
  · next v rest hskip =>
    simp only [Option.ite_none_right_eq_some, Option.some.injEq] at h
    rw [hskip, h.1, h.2]

theorem expect_extended {u : ℕ} (h : expect u text = some rest) :
    expect u (text ++ extra) = some (rest ++ extra) := by
  rw [expect, skipBlank_extended (skipBlank_of_expect h)]
  exact if_pos rfl

/-- What is not expected at the front is not expected there with more text behind it. -/
theorem expect_eq_none_extended {u v : ℕ} {behind : List ℕ} (hskip : skipBlank text = v :: behind)
    (h : expect u text = none) : expect u (text ++ extra) = none := by
  unfold expect at h ⊢
  rw [hskip] at h
  rw [skipBlank_extended hskip]
  simp only [ite_eq_right_iff] at h ⊢
  intro hv
  cases h hv

theorem stripPrefix_extended {front : List ℕ} (h : stripPrefix front text = some rest) :
    stripPrefix front (text ++ extra) = some (rest ++ extra) := by
  induction front generalizing text with
  | nil =>
    obtain rfl := Option.some.inj h
    rfl
  | cons u front ih =>
    cases text with
    | nil => cases h
    | cons v text =>
      simp only [stripPrefix, List.cons_append, Option.ite_none_right_eq_some] at h ⊢
      exact ⟨h.1, ih h.2⟩

theorem hexQuad_extended {n : ℕ} (h : hexQuad text = some (n, rest)) :
    hexQuad (text ++ extra) = some (n, rest ++ extra) := by
  unfold hexQuad at h
  split at h
  · simp only [Option.bind_eq_bind, Option.bind_eq_some_iff] at h
    obtain ⟨a, ha, b, hb, c, hc, d, hd, heq⟩ := h
    obtain ⟨rfl, rfl⟩ := Prod.mk.inj (Option.some.inj heq)
    simp only [List.cons_append, hexQuad, ha, hb, hc, hd]
    rfl
  · cases h

/-! ### Strings -/

theorem pairedLow_extended {n : ℕ} (h : pairedLow text = some (n, rest)) :
    pairedLow (text ++ extra) = some (n, rest ++ extra) := by
  simp only [pairedLow, Option.bind_eq_bind, Option.bind_eq_some_iff,
    Option.ite_none_right_eq_some] at h ⊢
  obtain ⟨behind, hbehind, ⟨low, rest'⟩, hquad, hrange, heq⟩ := h
  obtain ⟨rfl, rfl⟩ := Prod.mk.inj (Option.some.inj heq)
  exact ⟨_, stripPrefix_extended hbehind, _, hexQuad_extended hquad, hrange, rfl⟩

/-- A surrogate that no second escape follows stays alone, where the string goes on. -/
theorem pairedLow_none_extended {fuel : ℕ} {found : List ℕ × List ℕ}
    (hnone : pairedLow text = none) (hstring : parseString fuel text = some found) :
    pairedLow (text ++ extra) = none := by
  cases fuel with
  | zero => cases hstring
  | succ fuel =>
    match text with
    | [] => cases hstring
    | [u] =>
      by_cases hu : u = 92
      · subst hu
        cases hstring
      · simp [pairedLow, chars, stripPrefix, hu]
    | u :: w :: behind =>
      by_cases hu : u = 92 ∧ w = 117
      · obtain ⟨rfl, rfl⟩ := hu
        -- The string goes on with a whole escape, so that its four digits are there.
        simp only [parseString, Nat.reduceEqDiff, if_false, if_true, parseEscape, unicodeEscape,
          Option.bind_eq_bind, Option.bind_eq_some_iff] at hstring
        obtain ⟨-, ⟨⟨low, rest⟩, hquad, -⟩, -⟩ := hstring
        have hinFront (behind : List ℕ) : stripPrefix (chars "\\u") (92 :: 117 :: behind) = some behind :=
          rfl
        simp only [pairedLow, hinFront, hquad, Option.bind_eq_bind, Option.bind_some] at hnone
        rw [List.cons_append, List.cons_append]
        simp only [pairedLow, hinFront, hexQuad_extended hquad, Option.bind_eq_bind, Option.bind_some]
        split at hnone
        · cases hnone
        · next hrange => rw [if_neg hrange]
      · have hinFront : stripPrefix (chars "\\u") (u :: w :: behind ++ extra) = none := by
          by_cases h92 : u = 92
          · have h117 : w ≠ 117 := fun h => hu ⟨h92, h⟩
            simp [chars, h92, h117, stripPrefix]
          · simp [chars, h92, stripPrefix]
        simp only [pairedLow, hinFront]
        rfl

theorem parseEscape_extended {fuel n : ℕ} {found : List ℕ × List ℕ}
    (h : parseEscape text = some (n, rest)) (hstring : parseString fuel rest = some found) :
    parseEscape (text ++ extra) = some (n, rest ++ extra) := by
  cases text with
  | nil => cases h
  | cons u text =>
    rw [List.cons_append]
    unfold parseEscape at h ⊢
    simp only at h ⊢
    split_ifs at h ⊢ with hu
    · simp only [unicodeEscape, Option.bind_eq_bind, Option.bind_eq_some_iff] at h ⊢
      obtain ⟨⟨high, behind⟩, hquad, h⟩ := h
      refine ⟨_, hexQuad_extended hquad, ?_⟩
      simp only at h ⊢
      split_ifs at h ⊢ with hrange
      · cases hlow : pairedLow behind with
        | none =>
          rw [hlow] at h
          obtain ⟨rfl, rfl⟩ := Prod.mk.inj (Option.some.inj h)
          rw [pairedLow_none_extended hlow hstring]
        | some low =>
          rw [hlow] at h
          obtain ⟨rfl, rfl⟩ := Prod.mk.inj (Option.some.inj h)
          rw [pairedLow_extended hlow]
      · obtain ⟨rfl, rfl⟩ := Prod.mk.inj (Option.some.inj h)
        rfl
    · obtain ⟨unit, hunit, heq⟩ := Option.map_eq_some_iff.mp h
      obtain ⟨rfl, rfl⟩ := Prod.mk.inj heq
      rw [hunit]
      rfl

theorem parseString_extended {fuel fuel' : ℕ} {units : List ℕ} (hfuel : fuel ≤ fuel')
    (h : parseString fuel text = some (units, rest)) :
    parseString fuel' (text ++ extra) = some (units, rest ++ extra) := by
  induction fuel generalizing fuel' text units with
  | zero => cases h
  | succ fuel ih =>
    obtain ⟨fuel', rfl⟩ : ∃ k, fuel' = k + 1 := ⟨fuel' - 1, by omega⟩
    have hle : fuel ≤ fuel' := by omega
    cases text with
    | nil => cases h
    | cons u text =>
      unfold parseString at h
      rw [List.cons_append, parseString]
      split_ifs at h ⊢ with hquote hescape hcontrol
      · obtain ⟨rfl, rfl⟩ := Prod.mk.inj (Option.some.inj h)
        rfl
      · simp only [Option.bind_eq_bind, Option.bind_eq_some_iff] at h ⊢
        obtain ⟨⟨unit, behind⟩, hunit, ⟨units', rest'⟩, hunits, heq⟩ := h
        obtain ⟨rfl, rfl⟩ := Prod.mk.inj (Option.some.inj heq)
        exact ⟨_, parseEscape_extended hunit hunits, _, ih hle hunits, rfl⟩
      · simp only [Option.bind_eq_bind, Option.bind_eq_some_iff] at h ⊢
        obtain ⟨⟨units', rest'⟩, hunits, heq⟩ := h
        obtain ⟨rfl, rfl⟩ := Prod.mk.inj (Option.some.inj heq)
        exact ⟨_, ih hle hunits, rfl⟩

/-! ### Numbers -/

theorem parseSign_extended (h : text ≠ []) :
    parseSign (text ++ extra) = ((parseSign text).1, (parseSign text).2 ++ extra) := by
  cases text with
  | nil => exact absurd rfl h
  | cons u text =>
    simp only [List.cons_append, parseSign]
    split_ifs <;> rfl

theorem parseInteger_extended {digits : List ℕ} (h : parseInteger text = some (digits, rest))
    (hne : rest ≠ []) : parseInteger (text ++ extra) = some (digits, rest ++ extra) := by
  cases text with
  | nil => cases h
  | cons u text =>
    simp only [List.cons_append, parseInteger] at h ⊢
    split_ifs at h ⊢
    · obtain ⟨rfl, rfl⟩ := Prod.mk.inj (Option.some.inj h)
      rfl
    · obtain ⟨rfl, rfl⟩ := Prod.mk.inj (Option.some.inj h)
      obtain ⟨htake, hdrop⟩ := takeWhile_extended extra hne
      rw [htake, hdrop]

/-- A fraction that the text goes on behind, with something else than a point. -/
theorem parseFraction_extended (extra : List ℕ)
    (hne : (parseFraction text).2 ≠ [])
    (hpoint : (parseFraction text).2.head? ≠ some 46) :
    parseFraction (text ++ extra) = ((parseFraction text).1, (parseFraction text).2 ++ extra) := by
  cases text with
  | nil => exact absurd rfl hne
  | cons u text =>
    by_cases hu : u = 46
    · by_cases hdigits : text.takeWhile isDigit = []
      · rw [parseFraction, if_neg fun h => h.2 hdigits] at hpoint
        exact absurd (by rw [hu]; rfl) hpoint
      · rw [parseFraction, if_pos ⟨hu, hdigits⟩] at hne
        obtain ⟨htake, hdrop⟩ := takeWhile_extended extra hne
        rw [List.cons_append, parseFraction, parseFraction, htake, hdrop, if_pos ⟨hu, hdigits⟩,
          if_pos ⟨hu, hdigits⟩]
    · rw [List.cons_append, parseFraction, parseFraction, if_neg fun h => hu h.1,
        if_neg fun h => hu h.1]
      rfl

theorem parseExponent_extended (extra : List ℕ)
    (hne : (parseExponent text).2 ≠ [])
    (hmarker : ∀ u us, (parseExponent text).2 = u :: us → u ≠ 101 ∧ u ≠ 69) :
    parseExponent (text ++ extra) = ((parseExponent text).1, (parseExponent text).2 ++ extra) := by
  cases text with
  | nil => exact absurd rfl hne
  | cons u text =>
    by_cases hexponent : (u = 101 ∨ u = 69) ∧ (parseExponentSign text).2.takeWhile isDigit ≠ []
    · have hsign : parseExponentSign (text ++ extra) =
          ((parseExponentSign text).1, (parseExponentSign text).2 ++ extra) := by
        cases text with
        | nil => exact absurd rfl hexponent.2
        | cons v text =>
          simp only [List.cons_append, parseExponentSign]
          split_ifs <;> rfl
      simp only [parseExponent, if_pos hexponent] at hne
      obtain ⟨htake, hdrop⟩ := takeWhile_extended extra hne
      simp only [List.cons_append, parseExponent, hsign, htake, hdrop, if_pos hexponent]
    · have hself : parseExponent (u :: text) = (none, u :: text) := by
        simp only [parseExponent, if_neg hexponent]
      rw [hself] at hmarker
      have hu := hmarker u text rfl
      simp only [List.cons_append, parseExponent, hu.1, hu.2, false_or, false_and, if_false]

theorem parseNumber_extended (extra : List ℕ) {n : NumberLiteral} (h : parseNumber text = some (n, rest))
    (hne : rest ≠ []) (hdelimited : Delimited rest) :
    parseNumber (text ++ extra) = some (n, rest ++ extra) := by
  simp only [parseNumber, Option.bind_eq_bind, Option.bind_eq_some_iff] at h
  obtain ⟨⟨integer, behind⟩, hinteger, heq⟩ := h
  obtain ⟨rfl, rfl⟩ := Prod.mk.inj (Option.some.inj heq)
  have hmarker (u : ℕ) (us : List ℕ) (h : (parseExponent (parseFraction behind).2).2 = u :: us) :
      u ≠ 101 ∧ u ≠ 69 := ⟨(hdelimited u us h).2.2.1, (hdelimited u us h).2.2.2⟩
  have hexponent := parseExponent_extended extra hne hmarker
  -- What is left behind the fraction is not empty, and does not begin with a point.
  have hleft : (parseFraction behind).2 ≠ [] := by
    intro hnil
    rw [hnil] at hne
    exact hne rfl
  have hpoint : (parseFraction behind).2.head? ≠ some 46 := by
    intro hhead
    obtain ⟨us, hus⟩ := List.head?_eq_some_iff.mp hhead
    have hrest : parseExponent (46 :: us) = (none, 46 :: us) := by simp [parseExponent]
    rw [hus, hrest] at hdelimited
    exact (hdelimited 46 us rfl).2.1 rfl
  have hfraction := parseFraction_extended extra hleft hpoint
  have hbehind : behind ≠ [] := by
    rintro rfl
    exact hleft rfl
  have htext : text ≠ [] := by
    rintro rfl
    cases hinteger
  simp only [parseNumber, parseSign_extended htext, parseInteger_extended hinteger hbehind,
    Option.bind_eq_bind, Option.bind_some, hfraction, hexponent]
  rfl

/-! ### Values -/

/-- Only a number may go on with the text behind it. -/
def Closed : Json → Prop
  | .num _ => False
  | _ => True

/-- The value ends at the end of what has been read. -/
def Ends (value : Json) (rest : List ℕ) : Prop := Closed value ∨ rest ≠ [] ∧ Delimited rest

theorem ends_of_expect {u : ℕ} {value : Json} {behind : List ℕ} (h : expect u text = some behind)
    (hu : u = 44 ∨ u = 93 ∨ u = 125) : Ends value text := by
  cases text with
  | nil => cases h
  | cons v text =>
    have hv : v = u ∨ isBlank v = true := by
      by_cases hblank : isBlank v = true
      · exact .inr hblank
      · rw [expect, skipBlank_cons (Bool.not_eq_true _ ▸ hblank)] at h
        simp only [Option.ite_none_right_eq_some] at h
        exact .inl h.1
    refine .inr ⟨List.cons_ne_nil _ _, ?_⟩
    rcases hv with rfl | hblank
    · rcases hu with rfl | rfl | rfl <;>
        exact delimited_cons (by decide) (by decide) (by decide) (by decide)
    · simp only [isBlank, decide_eq_true_eq] at hblank
      rcases hblank with rfl | rfl | rfl | rfl <;>
        exact delimited_cons (by decide) (by decide) (by decide) (by decide)

theorem stripPrefix_head {u v : ℕ} {front : List ℕ} (h : v ≠ u) :
    stripPrefix (u :: front) (v :: text) = none := by
  rw [stripPrefix, if_neg h]

/-- The first unit tells which of the words may follow. -/
theorem parseLiteral_word {u : ℕ} (word : ℕ × List ℕ × Json)
    (hword : word ∈ [(110, chars "ull", Json.null), (116, chars "rue", Json.bool true),
      (102, chars "alse", Json.bool false)]) (hu : u = word.1) :
    parseLiteral (u :: text) =
      (stripPrefix word.2.1 text).map (word.2.2, ·) := by
  simp only [List.mem_cons, List.not_mem_nil, or_false] at hword
  have hmiss (u v : ℕ) (h : v ≠ u) (front : List ℕ) : stripPrefix (u :: front) (v :: text) = none :=
    stripPrefix_head h
  rcases hword with rfl | rfl | rfl
  · subst hu
    have hnull : stripPrefix (chars "null") (110 :: text) = stripPrefix (chars "ull") text := rfl
    have hnumber : parseNumber (110 :: text) = none := rfl
    rw [parseLiteral, hnull, hnumber, show chars "true" = 116 :: chars "rue" from rfl,
      show chars "false" = 102 :: chars "alse" from rfl, hmiss _ _ (by decide), hmiss _ _ (by decide)]
    cases stripPrefix (chars "ull") text <;> rfl
  · subst hu
    have htrue : stripPrefix (chars "true") (116 :: text) = stripPrefix (chars "rue") text := rfl
    have hnumber : parseNumber (116 :: text) = none := rfl
    rw [parseLiteral, htrue, hnumber, show chars "null" = 110 :: chars "ull" from rfl,
      show chars "false" = 102 :: chars "alse" from rfl, hmiss _ _ (by decide), hmiss _ _ (by decide)]
    cases stripPrefix (chars "rue") text <;> rfl
  · subst hu
    have hfalse : stripPrefix (chars "false") (102 :: text) = stripPrefix (chars "alse") text := rfl
    have hnumber : parseNumber (102 :: text) = none := rfl
    rw [parseLiteral, hfalse, hnumber, show chars "null" = 110 :: chars "ull" from rfl,
      show chars "true" = 116 :: chars "rue" from rfl, hmiss _ _ (by decide), hmiss _ _ (by decide)]
    cases stripPrefix (chars "alse") text <;> rfl

theorem parseLiteral_number {u : ℕ} (h110 : u ≠ 110) (h116 : u ≠ 116) (h102 : u ≠ 102) :
    parseLiteral (u :: text) =
      (parseNumber (u :: text)).map fun (literal, rest) => (Json.num literal, rest) := by
  have hnull : stripPrefix (chars "null") (u :: text) = none := stripPrefix_head h110
  have htrue : stripPrefix (chars "true") (u :: text) = none := stripPrefix_head h116
  have hfalse : stripPrefix (chars "false") (u :: text) = none := stripPrefix_head h102
  rw [parseLiteral, hnull, htrue, hfalse]
  rfl

theorem parseLiteral_extended {u : ℕ} {value : Json} (h : parseLiteral (u :: text) = some (value, rest))
    (hends : Ends value rest) : parseLiteral (u :: text ++ extra) = some (value, rest ++ extra) := by
  by_cases hword : ∃ word ∈ [(110, chars "ull", Json.null), (116, chars "rue", Json.bool true),
      (102, chars "alse", Json.bool false)], u = word.1
  · obtain ⟨word, hmem, hu⟩ := hword
    rw [parseLiteral_word word hmem hu] at h
    obtain ⟨rest', hrest, heq⟩ := Option.map_eq_some_iff.mp h
    obtain ⟨rfl, rfl⟩ := Prod.mk.inj heq
    rw [List.cons_append, parseLiteral_word word hmem hu, stripPrefix_extended hrest]
    rfl
  · have hne (first : ℕ) (hfirst : first = 110 ∨ first = 116 ∨ first = 102) : u ≠ first := by
      rintro rfl
      apply hword
      rcases hfirst with rfl | rfl | rfl <;> simp
    rw [parseLiteral_number (hne _ (by simp)) (hne _ (by simp)) (hne _ (by simp))] at h
    obtain ⟨⟨literal, rest'⟩, hnumber, heq⟩ := Option.map_eq_some_iff.mp h
    obtain ⟨rfl, rfl⟩ := Prod.mk.inj heq
    obtain ⟨hnonempty, hdelimited⟩ := hends.resolve_left id
    have hextended := parseNumber_extended extra hnumber hnonempty hdelimited
    rw [List.cons_append] at hextended ⊢
    rw [parseLiteral_number (hne _ (by simp)) (hne _ (by simp)) (hne _ (by simp)), hextended]
    rfl

/-- The three decoders of values, at one fuel. -/
structure Extended (extra : List ℕ) (fuel : ℕ) : Prop where
  value : ∀ text value rest fuel', fuel ≤ fuel' → parseValue fuel text = some (value, rest) →
    Ends value rest → parseValue fuel' (text ++ extra) = some (value, rest ++ extra)
  members : ∀ text members rest fuel', fuel ≤ fuel' → parseMembers fuel text = some (members, rest) →
    parseMembers fuel' (text ++ extra) = some (members, rest ++ extra)
  elements : ∀ text elements rest fuel', fuel ≤ fuel' →
    parseElements fuel text = some (elements, rest) →
      parseElements fuel' (text ++ extra) = some (elements, rest ++ extra)

theorem parseValue_skipBlank {fuel : ℕ} {found : Json × List ℕ} (h : parseValue fuel text = some found) :
    ∃ u behind, skipBlank text = u :: behind := by
  cases fuel with
  | zero => cases h
  | succ fuel =>
    cases hskip : skipBlank text with
    | nil =>
      simp only [parseValue, hskip] at h
      cases h
    | cons u behind => exact ⟨u, behind, rfl⟩

theorem parseMembers_skipBlank {fuel : ℕ} {found : List (List ℕ × Json) × List ℕ}
    (h : parseMembers fuel text = some found) : ∃ u behind, skipBlank text = u :: behind := by
  cases fuel with
  | zero => cases h
  | succ fuel =>
    simp only [parseMembers, Option.bind_eq_bind, Option.bind_eq_some_iff] at h
    obtain ⟨behind, hquote, -⟩ := h
    exact ⟨34, behind, skipBlank_of_expect hquote⟩

theorem parseElements_skipBlank {fuel : ℕ} {found : List Json × List ℕ}
    (h : parseElements fuel text = some found) : ∃ u behind, skipBlank text = u :: behind := by
  cases fuel with
  | zero => cases h
  | succ fuel =>
    simp only [parseElements, Option.bind_eq_bind, Option.bind_eq_some_iff] at h
    obtain ⟨element, hvalue, -⟩ := h
    exact parseValue_skipBlank hvalue

theorem extended_value {fuel : ℕ} (ih : Extended extra fuel) (text : List ℕ) (value : Json)
    (rest : List ℕ) (fuel' : ℕ) (hfuel : fuel + 1 ≤ fuel')
    (h : parseValue (fuel + 1) text = some (value, rest)) (hends : Ends value rest) :
    parseValue fuel' (text ++ extra) = some (value, rest ++ extra) := by
  obtain ⟨fuel', rfl⟩ : ∃ k, fuel' = k + 1 := ⟨fuel' - 1, by omega⟩
  have hle : fuel ≤ fuel' := by omega
  obtain ⟨u, behind, hskip⟩ := parseValue_skipBlank h
  simp only [parseValue, hskip] at h
  simp only [parseValue, skipBlank_extended hskip]
  split_ifs at h ⊢ with hquote hbrace hbracket
  · obtain ⟨⟨units, rest'⟩, hunits, heq⟩ := Option.map_eq_some_iff.mp h
    obtain ⟨rfl, rfl⟩ := Prod.mk.inj heq
    rw [parseString_extended hle hunits]
    rfl
  · cases hclose : expect 125 behind with
    | some rest' =>
      rw [hclose] at h
      obtain ⟨rfl, rfl⟩ := Prod.mk.inj (Option.some.inj h)
      rw [expect_extended hclose]
    | none =>
      rw [hclose] at h
      obtain ⟨⟨members, rest'⟩, hmembers, heq⟩ := Option.map_eq_some_iff.mp h
      obtain ⟨rfl, rfl⟩ := Prod.mk.inj heq
      obtain ⟨v, behind', hbehind⟩ := parseMembers_skipBlank hmembers
      rw [expect_eq_none_extended hbehind hclose, ih.members _ _ _ _ hle hmembers]
      rfl
  · cases hclose : expect 93 behind with
    | some rest' =>
      rw [hclose] at h
      obtain ⟨rfl, rfl⟩ := Prod.mk.inj (Option.some.inj h)
      rw [expect_extended hclose]
    | none =>
      rw [hclose] at h
      obtain ⟨⟨elements, rest'⟩, helements, heq⟩ := Option.map_eq_some_iff.mp h
      obtain ⟨rfl, rfl⟩ := Prod.mk.inj heq
      obtain ⟨v, behind', hbehind⟩ := parseElements_skipBlank helements
      rw [expect_eq_none_extended hbehind hclose, ih.elements _ _ _ _ hle helements]
      rfl
  · exact parseLiteral_extended h hends

theorem extended_members {fuel : ℕ} (ih : Extended extra fuel) (text : List ℕ)
    (members : List (List ℕ × Json)) (rest : List ℕ) (fuel' : ℕ) (hfuel : fuel + 1 ≤ fuel')
    (h : parseMembers (fuel + 1) text = some (members, rest)) :
    parseMembers fuel' (text ++ extra) = some (members, rest ++ extra) := by
  obtain ⟨fuel', rfl⟩ : ∃ k, fuel' = k + 1 := ⟨fuel' - 1, by omega⟩
  have hle : fuel ≤ fuel' := by omega
  simp only [parseMembers, Option.bind_eq_bind, Option.bind_eq_some_iff] at h
  obtain ⟨behind₁, hquote, ⟨key, behind₂⟩, hkey, behind₃, hcolon, ⟨value, behind₄⟩, hvalue, h⟩ := h
  simp only [parseMembers, expect_extended hquote, parseString_extended hle hkey,
    expect_extended hcolon, Option.bind_eq_bind, Option.bind_some]
  simp only at h
  split at h
  · next behind₅ hcomma =>
    simp only [Option.bind_eq_some_iff] at h
    obtain ⟨⟨members', rest'⟩, hmembers, heq⟩ := h
    obtain ⟨rfl, rfl⟩ := Prod.mk.inj (Option.some.inj heq)
    rw [ih.value _ _ _ _ hle hvalue (ends_of_expect hcomma (by simp))]
    simp only [Option.bind_some, expect_extended hcomma, ih.members _ _ _ _ hle hmembers]
    rfl
  · next hcomma =>
    simp only [Option.bind_eq_some_iff] at h
    obtain ⟨rest', hclose, heq⟩ := h
    obtain ⟨rfl, rfl⟩ := Prod.mk.inj (Option.some.inj heq)
    rw [ih.value _ _ _ _ hle hvalue (ends_of_expect hclose (by simp))]
    simp only [Option.bind_some, expect_eq_none_extended (skipBlank_of_expect hclose) hcomma,
      expect_extended hclose]
    rfl

theorem extended_elements {fuel : ℕ} (ih : Extended extra fuel) (text : List ℕ)
    (elements : List Json) (rest : List ℕ) (fuel' : ℕ) (hfuel : fuel + 1 ≤ fuel')
    (h : parseElements (fuel + 1) text = some (elements, rest)) :
    parseElements fuel' (text ++ extra) = some (elements, rest ++ extra) := by
  obtain ⟨fuel', rfl⟩ : ∃ k, fuel' = k + 1 := ⟨fuel' - 1, by omega⟩
  have hle : fuel ≤ fuel' := by omega
  simp only [parseElements, Option.bind_eq_bind, Option.bind_eq_some_iff] at h
  obtain ⟨⟨element, behind⟩, hvalue, h⟩ := h
  simp only [parseElements, Option.bind_eq_bind]
  simp only at h
  split at h
  · next behind' hcomma =>
    simp only [Option.bind_eq_some_iff] at h
    obtain ⟨⟨elements', rest'⟩, helements, heq⟩ := h
    obtain ⟨rfl, rfl⟩ := Prod.mk.inj (Option.some.inj heq)
    rw [ih.value _ _ _ _ hle hvalue (ends_of_expect hcomma (by simp))]
    simp only [Option.bind_some, expect_extended hcomma, ih.elements _ _ _ _ hle helements]
    rfl
  · next hcomma =>
    simp only [Option.bind_eq_some_iff] at h
    obtain ⟨rest', hclose, heq⟩ := h
    obtain ⟨rfl, rfl⟩ := Prod.mk.inj (Option.some.inj heq)
    rw [ih.value _ _ _ _ hle hvalue (ends_of_expect hclose (by simp))]
    simp only [Option.bind_some, expect_eq_none_extended (skipBlank_of_expect hclose) hcomma,
      expect_extended hclose]
    rfl

/-- Induction on the fuel, for the three decoders at once. -/
theorem extended (extra : List ℕ) (fuel : ℕ) : Extended extra fuel := by
  induction fuel with
  | zero => exact ⟨by simp [parseValue], by simp [parseMembers], by simp [parseElements]⟩
  | succ fuel ih => exact ⟨extended_value ih, extended_members ih, extended_elements ih⟩

/-- A text that goes on behind a whole value, other than a number, is that value only where it goes
on with blanks. -/
theorem parse_append {front behind : List ℕ} {value : Json} (h : parse front = some value)
    (hclosed : Closed value) :
    parse (front ++ behind) = if skipBlank behind = [] then some value else none := by
  unfold parse at h
  split at h
  · next value' rest hvalue =>
    simp only [Option.ite_none_right_eq_some, Option.some.injEq] at h
    obtain ⟨hblank, rfl⟩ := h
    have hle : front.length + 1 ≤ (front ++ behind).length + 1 := by simp
    have hextended := (extended behind (front.length + 1)).value _ _ _ _ hle hvalue (.inl hclosed)
    have hskip : skipBlank (rest ++ behind) = skipBlank behind := by
      unfold skipBlank at hblank ⊢
      rw [List.dropWhile_append, hblank]
      rfl
    rw [parse, hextended]
    simp only [hskip]
  · cases h

/-- Blanks in front of a closed value change nothing. -/
theorem parse_blank_front {u : ℕ} {value : Json} (hu : isBlank u = true) (h : parse text = some value)
    (hclosed : Closed value) : parse (u :: text) = some value := by
  unfold parse at h
  split at h
  · next value' rest hvalue =>
    simp only [Option.ite_none_right_eq_some, Option.some.injEq] at h
    obtain ⟨hblank, rfl⟩ := h
    have hle : text.length + 1 ≤ (u :: text).length + 1 := by simp
    have hextended := (extended [] (text.length + 1)).value _ _ _ _ hle hvalue (.inl hclosed)
    rw [List.append_nil, List.append_nil] at hextended
    have hskip : skipBlank (u :: text) = skipBlank text := List.dropWhile_cons_of_pos hu
    have hfront : parseValue ((u :: text).length + 1) (u :: text) =
        parseValue ((u :: text).length + 1) text := by
      rw [parseValue, parseValue, hskip]
    rw [parse, hfront, hextended]
    exact if_pos hblank
  · cases h

/-- A text of blanks is no value. -/
theorem parse_blank {text : List ℕ} (h : skipBlank text = []) : parse text = none := by
  rw [parse, parseValue, h]

end TcdOran.Lib.Json
