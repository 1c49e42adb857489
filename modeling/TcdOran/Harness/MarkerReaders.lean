import TcdOran.Harness.Readback
import TcdOran.Lib.PatternSearch
import TcdOran.Timeline.ActuatorTimeline

/-! The applied marker as the readback and as the builder of the timeline read it. The readback
searches from the front and up to word boundaries, the builder from the end. -/
namespace TcdOran.Harness
open TcdOran.Lib Python

/-! ### Digits -/

theorem isDecimal_of_isDigit {u : ℕ} (h : isDigit u = true) : isDecimal u = true := by
  obtain ⟨hlow, hhigh⟩ := of_decide_eq_true h
  have hfirst : digitOf u = some (u - 48) := by
    rw [digitOf, digitZeros, List.find?_cons_of_pos]
    · rfl
    · exact decide_eq_true ⟨hlow, by omega⟩
  rw [isDecimal, hfirst]
  rfl

/-- The decimal digits of the text are those of ASCII. -/
def AsciiDigits (text : List ℕ) : Prop := ∀ u ∈ text, isDecimal u = true → isDigit u = true

instance (text : List ℕ) : Decidable (AsciiDigits text) :=
  inferInstanceAs (Decidable (∀ u ∈ text, _ → _))

theorem AsciiDigits.mono {text part : List ℕ} (h : AsciiDigits text) (hpart : part ⊆ text) :
    AsciiDigits part := fun u hu => h u (hpart hu)

theorem AsciiDigits.run {text : List ℕ} (h : AsciiDigits text) :
    text.takeWhile isDecimal = text.takeWhile isDigit ∧
      text.dropWhile isDecimal = text.dropWhile isDigit := by
  induction text with
  | nil => exact ⟨rfl, rfl⟩
  | cons u text ih =>
    have hsame : isDecimal u = isDigit u :=
      Bool.eq_iff_iff.mpr ⟨h u List.mem_cons_self, isDecimal_of_isDigit⟩
    obtain ⟨htake, hdrop⟩ := ih (h.mono (List.subset_cons_self u text))
    simp only [List.takeWhile_cons, List.dropWhile_cons, hsame, htake, hdrop, and_self]

/-- A run of decimal digits that are all ASCII digits. -/
theorem takeWhile_digits_of_all {text : List ℕ}
    (h : (text.takeWhile isDecimal).all isDigit = true) :
    text.takeWhile isDigit = text.takeWhile isDecimal := by
  induction text with
  | nil => rfl
  | cons u text ih =>
    by_cases hu : isDecimal u = true
    · rw [List.takeWhile_cons_of_pos hu] at h ⊢
      simp only [List.all_cons, Bool.and_eq_true] at h
      rw [List.takeWhile_cons_of_pos h.1, ih h.2]
    · rw [List.takeWhile_cons_of_neg hu, List.takeWhile_cons_of_neg fun hdigit => hu
        (isDecimal_of_isDigit hdigit)]

/-! ### The fields -/

def fieldLiteral (name : String) : List ℕ := chars name ++ [61]

/-- Behind the literal of the field stand the digits and the rest of the text. -/
structure FieldAt (holds : ℕ → Bool) (name : String) (text digits rest : List ℕ) : Prop where
  text_eq : text = fieldLiteral name ++ (digits ++ rest)
  digits_eq : digits = (digits ++ rest).takeWhile holds
  rest_eq : rest = (digits ++ rest).dropWhile holds
  nonempty : digits ≠ []

theorem fieldAt_of_takeLiteral {holds : ℕ → Bool} {name : String} {text behind : List ℕ}
    (h : takeLiteral (fieldLiteral name) text = some behind)
    (hne : behind.takeWhile holds ≠ []) :
    FieldAt holds name text (behind.takeWhile holds) (behind.dropWhile holds) := by
  have hsplit := List.takeWhile_append_dropWhile (p := holds) (l := behind)
  exact ⟨by rw [hsplit]; exact takeLiteral_eq_some.mp h, by rw [hsplit], by rw [hsplit], hne⟩

theorem fieldAt_of_takeField {alnum : ℕ → Bool} {name : String} {before : Option ℕ}
    {text digits rest : List ℕ} (h : takeField alnum name before text = some (digits, rest)) :
    FieldAt isDecimal name text digits rest := by
  simp only [takeField, Option.bind_eq_bind, Option.bind_eq_some_iff,
    Option.ite_none_right_eq_some] at h
  obtain ⟨behind, hbehind, ⟨-, hne, -⟩, heq⟩ := h
  obtain ⟨rfl, rfl⟩ := Prod.mk.inj (Option.some.inj heq)
  exact fieldAt_of_takeLiteral hbehind hne

theorem takeNumber_eq_some {name : String} {text digits rest : List ℕ} :
    Timeline.takeNumber name text = some (digits, rest) ↔
      FieldAt isDigit name text digits rest := by
  simp only [Timeline.takeNumber, Option.bind_eq_bind, Option.bind_eq_some_iff,
    Option.ite_none_left_eq_some]
  constructor
  · rintro ⟨behind, hbehind, hne, heq⟩
    obtain ⟨rfl, rfl⟩ := Prod.mk.inj (Option.some.inj heq)
    exact fieldAt_of_takeLiteral hbehind hne
  · rintro ⟨htext, hdigits, hrest, hne⟩
    refine ⟨digits ++ rest, takeLiteral_eq_some.mpr htext, ?_, ?_⟩
    · rwa [← hdigits]
    · rw [← hdigits, ← hrest]

/-- In a text with ASCII digits both readers read the same field. -/
theorem FieldAt.ascii {name : String} {text digits rest : List ℕ} (hascii : AsciiDigits text)
    (h : FieldAt isDecimal name text digits rest) : FieldAt isDigit name text digits rest := by
  have hrun : AsciiDigits (digits ++ rest) := by
    apply hascii.mono
    rw [h.text_eq]
    exact List.subset_append_right _ _
  exact ⟨h.text_eq, h.digits_eq.trans hrun.run.1, h.rest_eq.trans hrun.run.2, h.nonempty⟩

/-! ### The marker with its fields -/

/-- The marker is at the front of the text, and the two fields stand behind it in order. -/
def MarkerAt (holds : ℕ → Bool) (text minimum maximum : List ℕ) : Prop :=
  ∃ gap first behind gap' second rest, text = marker ++ (gap ++ first) ∧
    FieldAt holds "applied_min_prbs" first minimum behind ∧ behind = gap' ++ second ∧
      FieldAt holds "applied_max_prbs" second maximum rest

theorem markerAt_of_findMarker {alnum : ℕ → Bool} {before : Option ℕ}
    {text minimum maximum : List ℕ}
    (h : findMarker alnum before text = some (minimum, maximum)) :
    MarkerAt isDecimal text minimum maximum := by
  simp only [findMarker, Option.bind_eq_bind, Option.bind_eq_some_iff,
    Option.ite_none_right_eq_some] at h
  obtain ⟨behind, hbehind, -, hscan⟩ := h
  obtain ⟨gap, first, rfl, hfirst⟩ := scan_eq_some hscan
  simp only [findMinimum, Option.bind_eq_bind, Option.bind_eq_some_iff] at hfirst
  obtain ⟨⟨minimum', behind'⟩, hminimum, maximum', hscan', heq⟩ := hfirst
  obtain ⟨rfl, rfl⟩ := Prod.mk.inj (Option.some.inj heq)
  obtain ⟨gap', second, hbehind', hsecond⟩ := scan_eq_some hscan'
  simp only [findMaximum, Option.bind_eq_bind, Option.bind_eq_some_iff] at hsecond
  obtain ⟨⟨maximum, rest⟩, hmaximum, heq⟩ := hsecond
  obtain rfl := Option.some.inj heq
  exact ⟨gap, first, behind', gap', second, rest, takeLiteral_eq_some.mp hbehind,
    fieldAt_of_takeField hminimum, hbehind', fieldAt_of_takeField hmaximum⟩

theorem markerAt_of_matchApplied {text minimum maximum : List ℕ}
    (h : Timeline.matchApplied text = some (minimum, maximum)) :
    MarkerAt isDigit text minimum maximum := by
  simp only [Timeline.matchApplied, Option.bind_eq_bind, Option.bind_eq_some_iff] at h
  obtain ⟨behind, hbehind, hscan⟩ := h
  obtain ⟨gap, first, rfl, hfirst⟩ := scanLast_eq_some hscan
  simp only [Option.bind_eq_some_iff] at hfirst
  obtain ⟨⟨minimum', behind'⟩, hminimum, ⟨maximum', rest⟩, hscan', heq⟩ := hfirst
  obtain ⟨rfl, rfl⟩ := Prod.mk.inj (Option.some.inj heq)
  obtain ⟨gap', second, hbehind', hmaximum⟩ := scanLast_eq_some hscan'
  exact ⟨gap, first, behind', gap', second, rest, takeLiteral_eq_some.mp hbehind,
    takeNumber_eq_some.mp hminimum, hbehind', takeNumber_eq_some.mp hmaximum⟩

/-- The builder finds a marker with its fields on one line. -/
theorem isSome_matchApplied {text minimum maximum : List ℕ} (hline : 10 ∉ text)
    (h : MarkerAt isDigit text minimum maximum) : (Timeline.matchApplied text).isSome := by
  obtain ⟨gap, first, behind, gap', second, rest, htext, hminimum, hbehind, hmaximum⟩ := h
  have hbehind_line : 10 ∉ gap ++ first := fun hmem =>
    hline (htext ▸ List.mem_append_right marker hmem)
  have hsecond_line : 10 ∉ gap' ++ second := by
    intro hmem
    apply hbehind_line
    rw [hminimum.text_eq, hbehind]
    simp only [List.mem_append] at hmem ⊢
    tauto
  have hsecond : (scanLast (Timeline.takeNumber "applied_max_prbs") behind).isSome := by
    rw [hbehind]
    apply isSome_scanLast hsecond_line
    rw [takeNumber_eq_some.mpr hmaximum]
    rfl
  unfold Timeline.matchApplied
  rw [show takeLiteral (chars "PRB_ACTUATOR_APPLIED") text = some (gap ++ first) from
    takeLiteral_eq_some.mpr htext]
  apply isSome_scanLast hbehind_line
  obtain ⟨found, hfound⟩ := Option.isSome_iff_exists.mp hsecond
  simp only [takeNumber_eq_some.mpr hminimum, Option.bind_eq_bind, Option.bind_some, hfound]
  rfl

theorem MarkerAt.ascii {text minimum maximum : List ℕ} (hascii : AsciiDigits text)
    (h : MarkerAt isDecimal text minimum maximum) : MarkerAt isDigit text minimum maximum := by
  obtain ⟨gap, first, behind, gap', second, rest, htext, hminimum, hbehind, hmaximum⟩ := h
  have hfirst : AsciiDigits first := by
    apply hascii.mono
    rw [htext, ← List.append_assoc]
    exact List.subset_append_right _ _
  have hsecond : AsciiDigits second := by
    apply hfirst.mono
    rw [hminimum.text_eq, hbehind, ← List.append_assoc, ← List.append_assoc]
    exact List.subset_append_right _ _
  exact ⟨gap, first, behind, gap', second, rest, htext, hminimum.ascii hfirst, hbehind,
    hmaximum.ascii hsecond⟩

/-! ### One reading of a plain line -/

/-- Every decimal digit of the line is one of ASCII, and each of the two fields is named once. -/
structure PlainLine (line : List ℕ) : Prop where
  digits : AsciiDigits line
  minimum : occurrences (fieldLiteral "applied_min_prbs") line ≤ 1
  maximum : occurrences (fieldLiteral "applied_max_prbs") line ≤ 1

/-- A field that is named once has one value. -/
theorem FieldAt.unique {name : String} {line front front' text text' digits digits' rest rest' : List ℕ}
    (honce : occurrences (fieldLiteral name) line ≤ 1) (hline : line = front ++ text)
    (hline' : line = front' ++ text') (h : FieldAt isDigit name text digits rest)
    (h' : FieldAt isDigit name text' digits' rest') : digits = digits' := by
  have hsame : digits ++ rest = digits' ++ rest' := by
    apply (eq_of_occurrences_le_one honce _ _).2
    · exact front
    · exact front'
    · rw [hline, h.text_eq, List.append_assoc]
    · rw [hline', h'.text_eq, List.append_assoc]
  rw [h.digits_eq, hsame, ← h'.digits_eq]

theorem MarkerAt.unique {line front front' text text' minimum minimum' maximum maximum' : List ℕ}
    (hplain : PlainLine line) (hline : line = front ++ text) (hline' : line = front' ++ text')
    (h : MarkerAt isDigit text minimum maximum) (h' : MarkerAt isDigit text' minimum' maximum') :
    minimum = minimum' ∧ maximum = maximum' := by
  obtain ⟨gap, first, behind, gap₂, second, rest, htext, hminimum, hbehind, hmaximum⟩ := h
  obtain ⟨gap', first', behind', gap₂', second', rest', htext', hminimum', hbehind', hmaximum'⟩ := h'
  constructor
  · apply hminimum.unique hplain.minimum _ _ hminimum'
    · exact front ++ (marker ++ gap)
    · exact front' ++ (marker ++ gap')
    · simp only [hline, htext, List.append_assoc]
    · simp only [hline', htext', List.append_assoc]
  · apply hmaximum.unique hplain.maximum _ _ hmaximum'
    · exact front ++ (marker ++ (gap ++ (fieldLiteral "applied_min_prbs" ++ (minimum ++ gap₂))))
    · exact front' ++ (marker ++ (gap' ++ (fieldLiteral "applied_min_prbs" ++ (minimum' ++ gap₂'))))
    · simp only [hline, htext, hminimum.text_eq, hbehind, List.append_assoc]
    · simp only [hline', htext', hminimum'.text_eq, hbehind', List.append_assoc]

/-! ### The match of the readback -/

/-- What a match of the readback has found: a timestamp and, behind it, a marker with fields. -/
theorem searchMarker_eq_some {alnum : ℕ → Bool} {line : List ℕ} {found : MarkerMatch}
    (h : searchMarker alnum line = some found) :
    ∃ front text behind gap tail, line = front ++ text ∧
      takeTimestamp text = some (found.timestamp, behind) ∧ behind = gap ++ tail ∧
        findMarker alnum (gap.getLast?.or found.timestamp.getLast?) tail =
          some (found.minimum, found.maximum) := by
  obtain ⟨front, text, hline, htext⟩ := scan_eq_some h
  simp only [findTimestamped, Option.bind_eq_bind, Option.bind_eq_some_iff] at htext
  obtain ⟨⟨timestamp, behind⟩, htimestamp, ⟨minimum, maximum⟩, hscan, heq⟩ := htext
  obtain rfl := Option.some.inj heq
  obtain ⟨gap, tail, hbehind, htail⟩ := scan_eq_some hscan
  exact ⟨front, text, behind, gap, tail, hline, htimestamp, hbehind, htail⟩

theorem takeTimestamp_eq_some {text timestamp behind : List ℕ}
    (h : takeTimestamp text = some (timestamp, behind)) : text = timestamp ++ behind ∧
      ∃ taken fraction, takeFixed timestampClasses text = some (taken, fraction ++ behind) ∧
        timestamp = taken ++ fraction ∧ ∀ u ∈ fraction, u = 46 ∨ isDecimal u = true := by
  simp only [takeTimestamp, Option.bind_eq_bind, Option.bind_eq_some_iff] at h
  obtain ⟨⟨taken, rest⟩, hfixed, h⟩ := h
  have htext := (takeFixed_eq_some.mp hfixed).1
  split at h
  · next rest' hrest =>
    obtain rfl : rest = 46 :: rest' := hrest
    split at h
    · obtain ⟨rfl, rfl⟩ := Prod.mk.inj (Option.some.inj h)
      exact ⟨htext, taken, [], hfixed, (List.append_nil taken).symm, by simp⟩
    · obtain ⟨rfl, rfl⟩ := Prod.mk.inj (Option.some.inj h)
      have hrun := List.takeWhile_append_dropWhile (p := isDecimal) (l := rest')
      refine ⟨?_, taken, 46 :: rest'.takeWhile isDecimal, ?_, rfl, ?_⟩
      · rw [List.append_assoc, List.cons_append, hrun]
        exact htext
      · rw [List.cons_append, hrun]
        exact hfixed
      · intro u hu
        rcases List.mem_cons.mp hu with rfl | hu
        · exact .inl rfl
        · exact .inr (List.mem_takeWhile_imp hu)
  · obtain ⟨rfl, rfl⟩ := Prod.mk.inj (Option.some.inj h)
    exact ⟨htext, taken, [], hfixed, (List.append_nil taken).symm, by simp⟩

theorem timestamp_ne_nil {text timestamp behind : List ℕ}
    (h : takeTimestamp text = some (timestamp, behind)) : timestamp ≠ [] := by
  obtain ⟨-, taken, fraction, hfixed, rfl, -⟩ := takeTimestamp_eq_some h
  intro hnil
  have hlength := (takeFixed_eq_some.mp hfixed).2.length_eq
  rw [(List.append_eq_nil_iff.mp hnil).1] at hlength
  cases hlength

/-- No character of a timestamp begins the marker. -/
theorem notMem_timestamp {text timestamp behind : List ℕ}
    (h : takeTimestamp text = some (timestamp, behind)) : 80 ∉ timestamp := by
  obtain ⟨-, taken, fraction, hfixed, rfl, hfraction⟩ := takeTimestamp_eq_some h
  intro hmem
  rcases List.mem_append.mp hmem with hmem | hmem
  · obtain ⟨i, hi, hu⟩ := List.getElem_of_mem hmem
    have hall := (takeFixed_eq_some.mp hfixed).2
    have hclass : ∀ holds ∈ timestampClasses, holds 80 = false := by decide
    have hlength := hall.length_eq
    have hholds := hall.get (by omega : i < timestampClasses.length) hi
    simp only [List.get_eq_getElem, hu] at hholds
    rw [hclass _ (List.getElem_mem _)] at hholds
    cases hholds
  · rcases hfraction 80 hmem with h | h
    · cases h
    · revert h
      decide

/-- Where the line begins with a timestamp, a match of the readback begins there. -/
theorem timestamp_of_front {alnum : ℕ → Bool} {line timestamp behind : List ℕ} {found : MarkerMatch}
    (hfront : takeTimestamp line = some (timestamp, behind))
    (h : searchMarker alnum line = some found) : found.timestamp = timestamp := by
  obtain ⟨front, text, behind', gap, tail, hline, htext, hbehind, hmarker⟩ := searchMarker_eq_some h
  -- The marker of the match lies behind the first timestamp too.
  obtain ⟨gap₂, first, -, -, -, -, htail, -⟩ := markerAt_of_findMarker hmarker
  have hcons : tail = 80 :: (marker.drop 1 ++ (gap₂ ++ first)) := htail
  have hsplit : timestamp ++ behind = (front ++ found.timestamp ++ gap) ++
      80 :: (marker.drop 1 ++ (gap₂ ++ first)) := by
    rw [← (takeTimestamp_eq_some hfront).1, hline, (takeTimestamp_eq_some htext).1, hbehind, hcons]
    simp only [List.append_assoc]
  obtain ⟨between, hfronts, hbetween⟩ := split_behind hsplit (notMem_timestamp hfront)
  have hbefore : between.getLast?.or timestamp.getLast? =
      gap.getLast?.or found.timestamp.getLast? := by
    have hlast := congrArg List.getLast? hfronts
    rw [List.append_assoc, List.getLast?_append, List.getLast?_append, List.getLast?_append] at hlast
    rw [← hlast]
    have hsome := List.getLast?_isSome.mpr (timestamp_ne_nil htext)
    obtain ⟨u, hu⟩ := Option.isSome_iff_exists.mp hsome
    rw [hu]
    cases gap.getLast? <;> rfl
  have hscan : (scan (findMarker alnum) timestamp.getLast? behind).isSome := by
    rw [hbetween, ← hcons]
    apply isSome_scan
    rw [hbefore, hmarker]
    rfl
  obtain ⟨⟨minimum, maximum⟩, hfields⟩ := Option.isSome_iff_exists.mp hscan
  have hfound : findTimestamped alnum line = some ⟨timestamp, minimum, maximum⟩ := by
    simp only [findTimestamped, hfront, Option.bind_eq_bind, Option.bind_some, hfields]
    rfl
  have hsearch : searchMarker alnum line = some ⟨timestamp, minimum, maximum⟩ := scan_of_front hfound
  obtain rfl := Option.some.inj (h.symm.trans hsearch)
  rfl

/-! ### The instant -/

/-- The fields of a timestamp of ASCII digits. -/
def fieldsOf (taken : List ℕ) : DateTime :=
  let field (first length : ℕ) := digitsValue ((taken.drop first).take length)
  ⟨field 0 4, field 5 2, field 8 2, field 11 2, field 14 2, field 17 2⟩

/-- The digits of a fraction at the front. -/
def fractionBy (holds : ℕ → Bool) (rest : List ℕ) : List ℕ :=
  match rest with
  | 46 :: rest => rest.takeWhile holds
  | _ => []

theorem fractionBy_of_not_dot {holds : ℕ → Bool} {rest : List ℕ} (h : ∀ rest', rest ≠ 46 :: rest') :
    fractionBy holds rest = [] := by
  unfold fractionBy
  split
  · next rest' => exact absurd rfl (h rest')
  · rfl

theorem exactTimestampUtcNs_of_fixed {line taken rest : List ℕ}
    (h : takeFixed Timeline.timestampClasses line = some (taken, rest)) :
    Timeline.exactTimestampUtcNs line = do
      require ((fractionBy isDigit rest).length ≤ 9) "timestamp precision exceeds nanoseconds"
      require (fieldsOf taken).valid "invalid UTC timestamp"
      return (fieldsOf taken).epochSeconds * 1000000000 +
        Timeline.fractionalNs (fractionBy isDigit rest) := by
  unfold Timeline.exactTimestampUtcNs
  rw [h]
  rfl

theorem exactTimestampUtcNs_eq_ok {line : List ℕ} {ns : ℤ} :
    Timeline.exactTimestampUtcNs line = .ok ns ↔ ∃ taken rest,
      takeFixed Timeline.timestampClasses line = some (taken, rest) ∧
        (fractionBy isDigit rest).length ≤ 9 ∧ (fieldsOf taken).valid = true ∧
          ns = (fieldsOf taken).epochSeconds * 1000000000 +
            Timeline.fractionalNs (fractionBy isDigit rest) := by
  constructor
  · intro h
    cases hfixed : takeFixed Timeline.timestampClasses line with
    | none =>
      unfold Timeline.exactTimestampUtcNs at h
      rw [hfixed] at h
      cases h
    | some found =>
      rw [exactTimestampUtcNs_of_fixed hfixed, require_bind_eq_ok, require_bind_eq_ok] at h
      exact ⟨found.1, found.2, rfl, h.1, h.2.1, (Except.ok.inj h.2.2).symm⟩
  · rintro ⟨taken, rest, hfixed, hlength, hvalid, rfl⟩
    rw [exactTimestampUtcNs_of_fixed hfixed, require_bind_eq_ok, require_bind_eq_ok]
    exact ⟨hlength, hvalid, rfl⟩

theorem fractionBy_ascii {rest : List ℕ} (h : (fractionBy isDecimal rest).all isDigit = true) :
    fractionBy isDigit rest = fractionBy isDecimal rest := by
  unfold fractionBy at h ⊢
  split
  · exact takeWhile_digits_of_all h
  · rfl

theorem takeTimestamp_of_fixed {line taken rest : List ℕ}
    (h : takeFixed timestampClasses line = some (taken, rest)) :
    ∃ fraction behind, takeTimestamp line = some (taken ++ fraction, behind) ∧
      fraction.drop 1 = fractionBy isDecimal rest := by
  unfold takeTimestamp
  rw [h]
  simp only [Option.bind_eq_bind, Option.bind_some]
  split
  · next rest' =>
    split_ifs with hnil
    · exact ⟨[], _, by rw [List.append_nil]; rfl, hnil.symm⟩
    · exact ⟨46 :: rest'.takeWhile isDecimal, _, rfl, rfl⟩
  · next hnot =>
    refine ⟨[], _, by rw [List.append_nil]; rfl, ?_⟩
    exact (fractionBy_of_not_dot fun rest' hrest => hnot rest' hrest).symm

theorem asciiNumber_eq_some {text : List ℕ} {n : ℕ} (h : asciiNumber text = some n) :
    n = digitsValue text := by
  unfold asciiNumber at h
  split at h
  · exact (Option.some.inj h).symm
  · cases h

theorem take_drop_append {first length : ℕ} {front rest : List ℕ} (h : first + length ≤ front.length) :
    ((front ++ rest).drop first).take length = (front.drop first).take length := by
  rw [List.drop_append_of_le_length (by omega), List.take_append_of_le_length]
  rw [List.length_drop]
  omega

theorem parseTime_eq_some {taken fraction : List ℕ} {us : ℤ} (hlength : taken.length = 19)
    (h : parseTime (taken ++ fraction) = some us) :
    (fieldsOf taken).valid = true ∧ (fraction.drop 1).all isDigit = true ∧
      us = (fieldsOf taken).epochSeconds * 1000000 + microseconds (fraction.drop 1) := by
  have hdrop : (taken ++ fraction).drop 20 = fraction.drop 1 := by
    rw [List.drop_append, hlength, List.drop_eq_nil_of_le (by omega), List.nil_append]
  have hfield {first length n : ℕ} (hle : first + length ≤ 19)
      (hn : asciiNumber (((taken ++ fraction).drop first).take length) = some n) :
      n = digitsValue ((taken.drop first).take length) := by
    rw [take_drop_append (by omega)] at hn
    exact asciiNumber_eq_some hn
  simp only [parseTime, Option.bind_eq_bind, Option.bind_eq_some_iff,
    Option.ite_none_right_eq_some] at h
  obtain ⟨year, hyear, month, hmonth, day, hday, hour, hhour, minute, hminute, second, hsecond,
    ⟨hvalid, hdigits⟩, hus⟩ := h
  have hfields : (⟨year, month, day, hour, minute, second⟩ : DateTime) = fieldsOf taken := by
    rw [hfield (by decide) hyear, hfield (by decide) hmonth, hfield (by decide) hday,
      hfield (by decide) hhour, hfield (by decide) hminute, hfield (by decide) hsecond]
    rfl
  rw [hfields] at hvalid hus
  rw [hdrop] at hdigits hus
  exact ⟨hvalid, hdigits, (Option.some.inj hus).symm⟩

theorem digitsValue_lt {text : List ℕ} (h : text.all isDigit = true) :
    digitsValue text < 10 ^ text.length := by
  have hlt := Nat.ofDigits_lt_base_pow_length' (b := 8) (l := text.reverse.map (· - 48)) (by
    intro d hd
    obtain ⟨u, hu, rfl⟩ := List.mem_map.mp hd
    have hdigit := List.all_eq_true.mp h u (List.mem_reverse.mp hu)
    have hbound := (of_decide_eq_true hdigit).2
    omega)
  rw [List.length_map, List.length_reverse] at hlt
  exact hlt

/-- The microseconds of a fraction of nine digits at most are its nanoseconds, rounded down. -/
theorem microseconds_eq {digits : List ℕ} (h : digits.all isDigit = true) (hlength : digits.length ≤ 9) :
    microseconds digits = Timeline.fractionalNs digits / 1000 := by
  have hns : Timeline.fractionalNs digits = digitsValue digits * 10 ^ (9 - digits.length) := by
    rw [Timeline.fractionalNs, digitsValue_append, digitsValue_replicate_zero, List.length_replicate,
      Nat.add_zero]
  rw [hns, microseconds]
  by_cases hshort : digits.length ≤ 6
  · rw [List.take_of_length_le hshort, show 9 - digits.length = 6 - digits.length + 3 by omega,
      pow_add, ← mul_assoc]
    exact (Nat.mul_div_cancel _ (by norm_num : 0 < 1000)).symm
  · have hsplit := List.take_append_drop 6 digits
    have htake : (digits.take 6).length = 6 := by
      rw [List.length_take]
      omega
    have hdrop : (digits.drop 6).length = digits.length - 6 := List.length_drop
    have hlow : digitsValue (digits.drop 6) < 10 ^ (digits.length - 6) := by
      rw [← hdrop]
      apply digitsValue_lt
      exact List.all_eq_true.mpr fun u hu => List.all_eq_true.mp h u (List.mem_of_mem_drop hu)
    have hvalue : digitsValue digits =
        digitsValue (digits.take 6) * 10 ^ (digits.length - 6) + digitsValue (digits.drop 6) := by
      conv_lhs => rw [← hsplit, digitsValue_append, hdrop]
    have hpow : 10 ^ (digits.length - 6) * 10 ^ (9 - digits.length) = 1000 := by
      rw [← pow_add, show digits.length - 6 + (9 - digits.length) = 3 by omega]
      rfl
    rw [htake, hvalue, Nat.add_mul, mul_assoc, hpow, Nat.sub_self, pow_zero, mul_one]
    have hrest : digitsValue (digits.drop 6) * 10 ^ (9 - digits.length) < 1000 := by
      rw [← hpow]
      exact Nat.mul_lt_mul_of_pos_right hlow (by positivity)
    omega

theorem takeFixed_mono {classes classes' : List (ℕ → Bool)} {text taken rest : List ℕ}
    (hmono : List.Forall₂ (fun holds holds' => ∀ u, holds u = true → holds' u = true) classes classes')
    (h : takeFixed classes text = some (taken, rest)) : takeFixed classes' text = some (taken, rest) := by
  obtain ⟨htext, hall⟩ := takeFixed_eq_some.mp h
  refine takeFixed_eq_some.mpr ⟨htext, ?_⟩
  clear h htext
  induction hmono generalizing taken with
  | nil => exact hall
  | cons himp _ ih =>
    cases hall with
    | cons hholds hall => exact .cons (himp _ hholds) (ih hall)

/-- A timestamp of the builder is one of the readback. -/
theorem takeFixed_readback {line taken rest : List ℕ}
    (h : takeFixed Timeline.timestampClasses line = some (taken, rest)) :
    takeFixed timestampClasses line = some (taken, rest) := by
  apply takeFixed_mono _ h
  have hdigit : ∀ u, isDigit u = true → isDecimal u = true := fun _ => isDecimal_of_isDigit
  have hletter : ∀ u : ℕ, decide (u = 84) = true → decide (u = 84 ∨ u = 32) = true := by
    intro u hu
    exact decide_eq_true (.inl (of_decide_eq_true hu))
  repeat' first
    | exact .nil
    | apply List.Forall₂.cons
    | exact hdigit
    | exact hletter
    | exact fun _ hu => hu

/-- Both readers find the same instant, to the microsecond. -/
theorem instant_agrees {alnum : ℕ → Bool} {line : List ℕ} {found : MarkerMatch} {us ns : ℤ}
    (hsearch : searchMarker alnum line = some found) (hus : parseTime found.timestamp = some us)
    (hns : Timeline.exactTimestampUtcNs line = .ok ns) : us = ns / 1000 := by
  obtain ⟨taken, rest, hfixed, hlength, -, rfl⟩ := exactTimestampUtcNs_eq_ok.mp hns
  obtain ⟨fraction, behind, hfront, hfraction⟩ := takeTimestamp_of_fixed (takeFixed_readback hfixed)
  rw [timestamp_of_front hfront hsearch] at hus
  have htaken : taken.length = 19 := (takeFixed_eq_some.mp hfixed).2.length_eq.symm
  obtain ⟨-, hdigits, rfl⟩ := parseTime_eq_some htaken hus
  rw [hfraction] at hdigits ⊢
  have hsame := fractionBy_ascii hdigits
  rw [hsame] at hlength ⊢
  rw [microseconds_eq hdigits hlength]
  omega

/-! ### The selected line -/

theorem lineBreak_notMem_splitlinesFrom {line text : List ℕ} (hline : ∀ u ∈ line, isLineBreak u = false) :
    ∀ piece ∈ splitlinesFrom line text, ∀ u ∈ piece, isLineBreak u = false := by
  induction text generalizing line with
  | nil =>
    intro piece hpiece
    unfold splitlinesFrom at hpiece
    split at hpiece
    · cases hpiece
    · obtain rfl := List.mem_singleton.mp hpiece
      exact hline
  | cons v text ih =>
    intro piece hpiece
    unfold splitlinesFrom at hpiece
    split_ifs at hpiece with hcr hbreak
    · exact ih hline piece hpiece
    · rcases List.mem_cons.mp hpiece with rfl | hpiece
      · exact hline
      · exact ih (by simp) piece hpiece
    · apply ih _ piece hpiece
      intro u hu
      rcases List.mem_append.mp hu with hu | hu
      · exact hline u hu
      · obtain rfl := List.mem_singleton.mp hu
        exact Bool.not_eq_true _ ▸ hbreak

theorem newline_notMem_splitlines {text line : List ℕ} (h : line ∈ splitlines text) : 10 ∉ line := by
  intro hmem
  have hno := lineBreak_notMem_splitlinesFrom (by simp) line h 10 hmem
  cases hno

theorem exists_of_forall₂ {α β : Type} {R : α → β → Prop} {xs : List α} {ys : List β}
    (h : List.Forall₂ R xs ys) : ∀ y ∈ ys, ∃ x ∈ xs, R x y := by
  induction h with
  | nil => simp
  | cons hxy _ ih =>
    rintro y hy
    rcases List.mem_cons.mp hy with rfl | hy
    · exact ⟨_, List.mem_cons_self, hxy⟩
    · obtain ⟨x, hx, hR⟩ := ih y hy
      exact ⟨x, List.mem_cons_of_mem _ hx, hR⟩

/-- A selected item comes from a line that the pattern matches, with the expected values. -/
theorem selected_eq_some {alnum : ℕ → Bool} {w : ReadbackWindow} {text : List ℕ}
    {result : ReadbackResult} {item : PrbMarker} (hresult : w.readback alnum text = some result)
    (hselected : result.selected = some item) : item.raw ∈ splitlines text ∧
      ∃ found us, searchMarker alnum item.raw = some found ∧ parseTime found.timestamp = some us ∧
        intOfText found.minimum = some w.expectedMin ∧ intOfText found.maximum = some w.expectedMax := by
  obtain ⟨markers, hmarkers, rfl⟩ := Option.map_eq_some_iff.mp hresult
  have hmem : item ∈ (markers.filter fun item => w.contains item.timestamp).filter w.expects := by
    unfold ReadbackWindow.evaluateMarkers at hselected
    simp only at hselected
    split at hselected
    · next hexpected =>
      rw [hexpected, List.mem_singleton]
      exact (Option.some.inj hselected).symm
    · cases hselected
    · cases hselected
  obtain ⟨hwindow, hexpects⟩ := List.mem_filter.mp hmem
  obtain ⟨⟨line, n⟩, hline, hparse⟩ :=
    exists_of_forall₂ (mapM_eq_some.mp hmarkers) item (List.mem_filter.mp hwindow).1
  have hsplit : line ∈ splitlines text := List.fst_mem_of_mem_zipIdx (List.mem_filter.mp hline).1
  unfold parseMarker at hparse
  cases hsearch : searchMarker alnum line with
  | none =>
    simp only [hsearch, Option.some.injEq] at hparse
    rw [← hparse] at hexpects
    simp [ReadbackWindow.expects] at hexpects
  | some found =>
    simp only [hsearch, Option.bind_eq_bind, Option.bind_eq_some_iff, Option.pure_def,
      Option.some.injEq] at hparse
    obtain ⟨us, hus, minimum, hminimum, maximum, hmaximum, rfl⟩ := hparse
    simp only [ReadbackWindow.expects, Option.some.injEq, decide_eq_true_eq] at hexpects
    obtain ⟨rfl, rfl⟩ := hexpects
    exact ⟨hsplit, found, us, hsearch, hus, hminimum, hmaximum⟩

/-! ### The readers -/

/-- The line begins with a timestamp of the builder, of nine fraction digits at most. -/
def BuilderTimestamp (line : List ℕ) : Prop :=
  ∃ taken rest, takeFixed Timeline.timestampClasses line = some (taken, rest) ∧
    (fractionBy isDigit rest).length ≤ 9

/-- The builder takes the line as the applied readback of a control with the ratio, whatever command
and acknowledgement are around its time. -/
def AcceptsApplied (ratio : ℤ) (line : List ℕ) : Prop :=
  ∃ ns minimum maximum, Timeline.exactTimestampUtcNs line = .ok ns ∧
    ∀ experimentId runId index previousAckNs commandLine ackLine commandNs ackNs,
      Timeline.exactTimestampUtcNs commandLine = .ok commandNs →
      Timeline.exactTimestampUtcNs ackLine = .ok ackNs → (∀ t ∈ previousAckNs, t < commandNs) →
      commandNs < ns → ns < ackNs →
        Timeline.buildControl experimentId runId index previousAckNs
            ⟨ratio, commandLine, line, ackLine⟩ =
          .ok ([Timeline.commandEvent experimentId runId index commandNs ratio,
            Timeline.appliedEvent experimentId runId index ns minimum maximum,
            Timeline.acknowledgementEvent experimentId runId index ackNs], ackNs)

theorem acceptsApplied_of {ratio ns expectedMax : ℤ} {line minimum maximum : List ℕ}
    (hns : Timeline.exactTimestampUtcNs line = .ok ns)
    (hsearch : Timeline.searchApplied line = some (minimum, maximum))
    (hminimum : intOfText minimum = some 0) (hmaximum : intOfText maximum = some expectedMax)
    (hratio : Timeline.ratioToPrbs ratio = some expectedMax) : AcceptsApplied ratio line := by
  refine ⟨ns, 0, expectedMax, hns, ?_⟩
  intro experimentId runId index previousAckNs commandLine ackLine commandNs ackNs hcommand hack
    hprevious happlied hacknowledged
  have hbehind : previousAckNs.all (fun previous => decide (previous < commandNs)) = true := by
    cases previousAckNs with
    | none => rfl
    | some previous => exact decide_eq_true (hprevious previous rfl)
  unfold Timeline.buildControl
  simp only [hcommand, hns, hack, hsearch, hminimum, hmaximum, hratio, Timeline.orError, ok_bind]
  rw [ok_of_require trivial, ok_of_require trivial, ok_of_require ⟨happlied, hacknowledged⟩,
    ok_of_require hbehind]
  rfl

/-- The values that both readers find in a plain line are the same. -/
theorem values_agree {alnum : ℕ → Bool} {line minimum maximum : List ℕ} {found : MarkerMatch}
    (hplain : PlainLine line) (hsearch : searchMarker alnum line = some found)
    (happlied : Timeline.searchApplied line = some (minimum, maximum)) :
    found.minimum = minimum ∧ found.maximum = maximum := by
  obtain ⟨front, text, behind, gap, tail, hline, htext, hbehind, hmarker⟩ :=
    searchMarker_eq_some hsearch
  obtain ⟨front', text', hline', htext'⟩ := scan_eq_some happlied
  have htail : line = front ++ found.timestamp ++ gap ++ tail := by
    rw [hline, (takeTimestamp_eq_some htext).1, hbehind]
    simp only [List.append_assoc]
  have hascii : AsciiDigits tail := by
    apply hplain.digits.mono
    rw [htail]
    exact List.subset_append_right _ _
  exact MarkerAt.unique hplain htail hline' ((markerAt_of_findMarker hmarker).ascii hascii)
    (markerAt_of_matchApplied htext')

/-- In a plain line of one piece the builder finds what the readback finds. -/
theorem searchApplied_of_searchMarker {alnum : ℕ → Bool} {line : List ℕ} {found : MarkerMatch}
    (hplain : PlainLine line) (hnewline : 10 ∉ line) (hsearch : searchMarker alnum line = some found) :
    Timeline.searchApplied line = some (found.minimum, found.maximum) := by
  obtain ⟨front, text, behind, gap, tail, hline, htext, hbehind, hmarker⟩ :=
    searchMarker_eq_some hsearch
  have htail : line = front ++ found.timestamp ++ gap ++ tail := by
    rw [hline, (takeTimestamp_eq_some htext).1, hbehind]
    simp only [List.append_assoc]
  have hsubset : tail ⊆ line := by
    rw [htail]
    exact List.subset_append_right _ _
  have hat := (markerAt_of_findMarker hmarker).ascii (hplain.digits.mono hsubset)
  have hsome : (Timeline.searchApplied line).isSome := by
    rw [htail]
    exact isSome_scan (isSome_matchApplied (fun hmem => hnewline (hsubset hmem)) hat)
  obtain ⟨⟨minimum, maximum⟩, happlied⟩ := Option.isSome_iff_exists.mp hsome
  obtain ⟨rfl, rfl⟩ := values_agree hplain hsearch happlied
  exact happlied

/-- How far the two readers of the applied marker agree. -/
structure MarkerReadersAgree (alnum : ℕ → Bool) : Prop where
  instant : ∀ line found us ns, searchMarker alnum line = some found →
    parseTime found.timestamp = some us → Timeline.exactTimestampUtcNs line = .ok ns → us = ns / 1000
  values : ∀ line found minimum maximum, PlainLine line → searchMarker alnum line = some found →
    Timeline.searchApplied line = some (minimum, maximum) →
      found.minimum = minimum ∧ found.maximum = maximum
  selected : ∀ (w : ReadbackWindow) text result item ratio, w.readback alnum text = some result →
    result.selected = some item → PlainLine item.raw → BuilderTimestamp item.raw →
      w.expectedMin = 0 → Timeline.ratioToPrbs ratio = some w.expectedMax →
        AcceptsApplied ratio item.raw

theorem marker_readers_agree (alnum : ℕ → Bool) : MarkerReadersAgree alnum where
  instant _ _ _ _ hsearch hus hns := instant_agrees hsearch hus hns
  values _ _ _ _ hplain hsearch happlied := values_agree hplain hsearch happlied
  selected := by
    intro w text result item ratio hresult hselected hplain htimestamp hzero hratio
    obtain ⟨hline, found, us, hsearch, hus, hminimum, hmaximum⟩ :=
      selected_eq_some hresult hselected
    obtain ⟨taken, rest, hfixed, hlength⟩ := htimestamp
    obtain ⟨fraction, behind, hfront, -⟩ := takeTimestamp_of_fixed (takeFixed_readback hfixed)
    rw [timestamp_of_front hfront hsearch] at hus
    have htaken : taken.length = 19 := (takeFixed_eq_some.mp hfixed).2.length_eq.symm
    obtain ⟨hvalid, -, -⟩ := parseTime_eq_some htaken hus
    rw [hzero] at hminimum
    exact acceptsApplied_of (exactTimestampUtcNs_eq_ok.mpr ⟨taken, rest, hfixed, hlength, hvalid, rfl⟩)
      (searchApplied_of_searchMarker hplain (newline_notMem_splitlines hline) hsearch) hminimum
      hmaximum hratio

/-! Lines that the readers read differently: with a field twice, with a digit beyond ASCII, and with
a blank inside the timestamp. -/

def markerLine (timestamp maxima : String) : List ℕ :=
  chars timestamp ++ chars " PRB_ACTUATOR_APPLIED applied_min_prbs=0 applied_max_prbs=" ++ chars maxima

def repeatedLine : List ℕ := markerLine "2026-10-04T09:18:27" "26 applied_max_prbs=39"

def arabicLine : List ℕ := markerLine "2026-10-04T09:18:27" "2" ++ [0x666]

def spacedLine : List ℕ := markerLine "2026-10-04 09:18:27" "26"

theorem marker_lines_apart :
    ((searchMarker (fun _ => false) repeatedLine).map MarkerMatch.maximum = some (chars "26") ∧
        Timeline.searchApplied repeatedLine = some (chars "0", chars "39")) ∧
      ((searchMarker (fun _ => false) arabicLine).map MarkerMatch.maximum = some (chars "2" ++ [0x666]) ∧
        Timeline.searchApplied arabicLine = some (chars "0", chars "2")) ∧
      ((sampleWindow.readback (fun _ => false) spacedLine).bind ReadbackResult.selected).map
          PrbMarker.raw = some spacedLine ∧
        ∀ ns, Timeline.exactTimestampUtcNs spacedLine ≠ .ok ns := by
  refine ⟨⟨by decide +kernel, by decide +kernel⟩, ⟨by decide +kernel, by decide +kernel⟩,
    by decide +kernel, ?_⟩
  have hfixed : takeFixed Timeline.timestampClasses spacedLine = none := by decide +kernel
  intro ns hns
  obtain ⟨taken, rest, hsome, -⟩ := exactTimestampUtcNs_eq_ok.mp hns
  cases hfixed.symm.trans hsome

example : AsciiDigits (markerLine "2026-10-04T09:18:27.644785" "26") ∧
    occurrences (fieldLiteral "applied_max_prbs") (markerLine "2026-10-04T09:18:27.644785" "26") = 1 := by
  decide +kernel

end TcdOran.Harness
