import TcdOran.Lib.JsonExtended
import TcdOran.Parquet.Conversion
import TcdOran.Parquet.TypedRow

/-! The pass that checks the input and the pass that writes its rows. They cut it into lines in
different ways, and agree where no carriage return stands alone. -/
namespace TcdOran.Parquet
open TcdOran.Lib Python

/-- Reading runs into no error. -/
def undisturbed : Reading := fun _ => none

variable {reading : Reading} {source : SourceFile} {fields : List Field} {maxRows : ℤ}
  {rows : List Row} {lines : List (List ℕ)} {lineNumber : ℕ}

/-! ### What each pass has parsed -/

theorem inspectLine_eq_ok {rawLine : List UInt8} {row : Row}
    (h : inspectLine fields lineNumber rawLine = .ok row) :
    ∃ line, codePoints rawLine = some line ∧ parseRow line lineNumber fields = .ok row := by
  unfold inspectLine at h
  split at h
  · cases h
  · next line hline =>
    rw [require_bind_eq_ok] at h
    exact ⟨line, hline, h.2⟩

theorem inspectLine_text {rawLine : List UInt8} {line : List ℕ}
    (h : codePoints rawLine = some line) (hstrip : strip line ≠ []) :
    inspectLine fields lineNumber rawLine = parseRow line lineNumber fields := by
  simp only [inspectLine, h, ok_of_require hstrip]
  rfl

theorem rowsOfLines_cons {line : List ℕ} :
    rowsOfLines reading fields (line :: lines) lineNumber = .ok rows ↔
      readLine reading lineNumber = .ok () ∧ ∃ row, parseRow line lineNumber fields = .ok row ∧
        ∃ behind, rowsOfLines reading fields lines (lineNumber + 1) = .ok behind ∧
          row :: behind = rows := by
  rw [rowsOfLines, unit_bind_eq_ok]
  simp only [bind_eq_ok, pure, Except.pure, Except.ok.injEq]

theorem inspectLines_rows {rawLines : List (List UInt8)}
    (h : inspectLines reading fields maxRows rawLines lineNumber = .ok rows) :
    ∃ lines, rawLines.mapM codePoints = some lines ∧
      rowsOfLines undisturbed fields lines lineNumber = .ok rows := by
  induction rawLines generalizing lineNumber rows with
  | nil =>
    rw [inspectLines, unit_bind_eq_ok] at h
    obtain rfl := Except.ok.inj h.2
    exact ⟨[], rfl, rfl⟩
  | cons rawLine rawLines ih =>
    rw [inspectLines, unit_bind_eq_ok, bind_eq_ok] at h
    obtain ⟨-, row, hrow, h⟩ := h
    rw [rejectIf_bind_eq_ok, bind_eq_ok] at h
    obtain ⟨-, behind, hbehind, heq⟩ := h
    obtain ⟨line, hline, hparse⟩ := inspectLine_eq_ok hrow
    obtain ⟨lines, hlines, hrows⟩ := ih hbehind
    exact ⟨line :: lines, mapM_eq_some.mpr (.cons hline (mapM_eq_some.mp hlines)),
      rowsOfLines_cons.mpr ⟨rfl, row, hparse, behind, hrows, Except.ok.inj heq⟩⟩

/-- What has been read with the errors that may come is read without any. -/
theorem inspectLines_without {reading' : Reading} (hreading : ∀ n, reading' n = none)
    {rawLines : List (List UInt8)}
    (h : inspectLines reading fields maxRows rawLines lineNumber = .ok rows) :
    inspectLines reading' fields maxRows rawLines lineNumber = .ok rows := by
  have hread (n : ℕ) : readLine reading' n = .ok () := by rw [readLine, hreading]
  induction rawLines generalizing lineNumber rows with
  | nil =>
    rw [inspectLines, unit_bind_eq_ok] at h ⊢
    exact ⟨hread _, h.2⟩
  | cons rawLine rawLines ih =>
    rw [inspectLines, unit_bind_eq_ok, bind_eq_ok] at h ⊢
    obtain ⟨-, row, hrow, h⟩ := h
    refine ⟨hread _, row, hrow, ?_⟩
    rw [rejectIf_bind_eq_ok, bind_eq_ok] at h ⊢
    obtain ⟨hmax, behind, hbehind, heq⟩ := h
    exact ⟨hmax, behind, ih hbehind, heq⟩

theorem inspectSource_without {reading' : Reading} (hreading : ∀ n, reading' n = none)
    (h : inspectSource reading source fields maxRows = .ok rows) :
    inspectSource reading' source fields maxRows = .ok rows := by
  simp only [inspectSource] at h ⊢
  rw [bind_eq_ok] at h ⊢
  obtain ⟨rows', hrows, hrest⟩ := h
  exact ⟨rows', inspectLines_without (fun n => by rw [hreading]; rfl) hrows, hrest⟩

/-- An input that passes has a row, which the limit admits. -/
theorem one_le_maxRows (h : inspectSource reading source fields maxRows = .ok rows) :
    1 ≤ maxRows := by
  simp only [inspectSource] at h
  rw [bind_eq_ok] at h
  obtain ⟨rows', hrows, h⟩ := h
  rw [rejectIf_bind_eq_ok] at h
  cases hlines : splitLines source.bytes with
  | nil =>
    rw [hlines, inspectLines, unit_bind_eq_ok] at hrows
    exact absurd (Except.ok.inj hrows.2).symm h.1
  | cons rawLine rawLines =>
    rw [hlines, inspectLines, unit_bind_eq_ok, bind_eq_ok] at hrows
    obtain ⟨-, row, -, hrows⟩ := hrows
    rw [rejectIf_bind_eq_ok] at hrows
    exact not_lt.mp hrows.1

/-- The checking pass has parsed the lines that end with line feeds. -/
theorem inspectSource_rows (h : inspectSource reading source fields maxRows = .ok rows) :
    ∃ text, codePoints source.bytes = some text ∧
      rowsOfLines undisturbed fields (feedLines text) 1 = .ok rows := by
  simp only [inspectSource] at h
  rw [bind_eq_ok] at h
  obtain ⟨rows', hrows, h⟩ := h
  rw [rejectIf_bind_eq_ok] at h
  obtain rfl := Except.ok.inj h.2
  obtain ⟨lines, hlines, hparsed⟩ := inspectLines_rows hrows
  obtain ⟨hwhole, hfeed⟩ := feedLines_of_splitLines hlines
  exact ⟨lines.flatten, hwhole, hfeed.symm ▸ hparsed⟩

theorem iterRows_eq {text : List ℕ} (h : codePoints source.bytes = some text) :
    iterRows reading source fields = rowsOfLines reading fields (untranslatedLines text) 1 := by
  rw [iterRows, sourceText, h]
  rfl

/-- A line that a row has been parsed from holds an object. -/
def IsObject (line : List ℕ) : Prop := ∃ members, Json.parse line = some (.obj members)

theorem isObject_of_parseRow {line : List ℕ} {row : Row}
    (h : parseRow line lineNumber fields = .ok row) : IsObject line := by
  rw [parseRow, bind_eq_ok] at h
  obtain ⟨value, hvalue, h⟩ := h
  unfold loadsStrict at hvalue
  split at hvalue
  · cases hvalue
  · next parsed hparsed =>
    split at hvalue
    · cases hvalue
    · obtain rfl := Except.ok.inj hvalue
      split at h
      · exact ⟨_, hparsed⟩
      · cases h

theorem rowsOfLines_objects (h : rowsOfLines reading fields lines lineNumber = .ok rows) :
    rows.length = lines.length ∧ ∀ line ∈ lines, IsObject line := by
  induction lines generalizing lineNumber rows with
  | nil =>
    rw [rowsOfLines, unit_bind_eq_ok] at h
    obtain rfl := Except.ok.inj h.2
    exact ⟨rfl, by simp⟩
  | cons line lines ih =>
    obtain ⟨-, row, hrow, behind, hbehind, rfl⟩ := rowsOfLines_cons.mp h
    obtain ⟨hlength, hobjects⟩ := ih hbehind
    refine ⟨by rw [List.length_cons, List.length_cons, hlength], ?_⟩
    exact List.forall_mem_cons.mpr ⟨isObject_of_parseRow hrow, hobjects⟩

/-! ### Where they agree -/

/-- The two passes read the same rows exactly where the two kinds of lines are the same. -/
theorem agree_iff {text : List ℕ} (htext : codePoints source.bytes = some text)
    (h : rowsOfLines undisturbed fields (feedLines text) 1 = .ok rows) :
    iterRows undisturbed source fields = .ok rows ↔ PairedReturns text := by
  rw [iterRows_eq htext]
  constructor
  · intro hiter
    apply paired_of_length
    rw [← (rowsOfLines_objects hiter).1, ← (rowsOfLines_objects h).1]
  · intro hpaired
    rwa [untranslatedLines_paired hpaired]

theorem blank_in_front {first line : List ℕ} (h : first <+: line) (hline : Json.skipBlank line = []) :
    Json.skipBlank first = [] := by
  rw [Json.skipBlank, List.dropWhile_eq_nil_iff] at hline ⊢
  exact fun u hu => hline u (h.subset hu)

/-- An object that a carriage return cuts off has nothing but blanks behind it in its line, and so
the line behind the return holds no object. -/
theorem not_object_behind {front first line : List ℕ} (hfront : IsObject front)
    (hwhole : IsObject (front ++ line)) (hinFront : first <+: line) : ¬ IsObject first := by
  rintro ⟨members, hfirst⟩
  obtain ⟨value, hfront⟩ := hfront
  obtain ⟨value', hwhole⟩ := hwhole
  rw [Json.parse_append hfront trivial] at hwhole
  split_ifs at hwhole with hblank
  rw [Json.parse_blank (blank_in_front hinFront hblank)] at hfirst
  cases hfirst

theorem modifyHead_ontoFirst {α : Type} (front : List α) (u : α) {lines : List (List α)}
    (h : lines ≠ []) : (ontoFirst u lines).modifyHead (front ++ ·) =
      lines.modifyHead (front ++ [u] ++ ·) := by
  cases lines with
  | nil => exact absurd rfl h
  | cons line lines => simp [ontoFirst]

/-- Where both kinds of lines are objects, no carriage return stands alone. The front is what has
been read of the first line. -/
theorem paired_of_objects {text : List ℕ} (front : List ℕ)
    (hfeed : ∀ line ∈ (feedLines text).modifyHead (front ++ ·), IsObject line)
    (huntranslated : ∀ line ∈ (untranslatedLines text).modifyHead (front ++ ·), IsObject line) :
    PairedReturns text := by
  induction text generalizing front with
  | nil => trivial
  | cons u us ih =>
    by_cases hnil : us = []
    · subst hnil
      exact ⟨fun _ => .inl rfl, trivial⟩
    have hmodify : (feedLines us).modifyHead ([] ++ ·) = feedLines us := by
      cases feedLines us <;> rfl
    have hmodify' : (untranslatedLines us).modifyHead ([] ++ ·) = untranslatedLines us := by
      cases untranslatedLines us <;> rfl
    rw [feedLines] at hfeed
    rw [untranslatedLines] at huntranslated
    by_cases hu : u = 10
    · rw [if_pos hu] at hfeed
      rw [if_pos (.inl hu)] at huntranslated
      refine ⟨fun hcr => absurd (hu.symm.trans hcr) (by decide), ih [] ?_ ?_⟩
      · exact hmodify.symm ▸ (List.forall_mem_cons.mp hfeed).2
      · exact hmodify'.symm ▸ (List.forall_mem_cons.mp huntranslated).2
    · rw [if_neg hu, modifyHead_ontoFirst _ _ (feedLines_ne_nil hnil)] at hfeed
      by_cases hends : u = 10 ∨ (u = 13 ∧ us.head? ≠ some 10)
      · rw [if_pos hends] at huntranslated
        obtain ⟨hfront, hbehind⟩ := List.forall_mem_cons.mp huntranslated
        obtain ⟨first, rest, hfirst⟩ :=
          List.exists_cons_of_ne_nil (untranslatedLines_ne_nil hnil)
        obtain ⟨line, lines, hline⟩ := List.exists_cons_of_ne_nil (feedLines_ne_nil hnil)
        rw [hline] at hfeed
        rw [hfirst] at hbehind
        have hwhole := (List.forall_mem_cons.mp hfeed).1
        have hobject := (List.forall_mem_cons.mp hbehind).1
        exact absurd hobject (not_object_behind hfront hwhole (first_in_front hfirst hline))
      · rw [if_neg hends, modifyHead_ontoFirst _ _ (untranslatedLines_ne_nil hnil)]
          at huntranslated
        refine ⟨fun hcr => .inr ?_, ih _ hfeed huntranslated⟩
        by_contra hhead
        exact hends (.inr ⟨hcr, hhead⟩)

/-- Where both passes end well, they have read the same rows. -/
theorem rows_eq {text : List ℕ} {written : List Row}
    (h : rowsOfLines undisturbed fields (feedLines text) 1 = .ok rows)
    (hwritten : rowsOfLines undisturbed fields (untranslatedLines text) 1 = .ok written) :
    written = rows := by
  have hmodify (lines : List (List ℕ)) : lines.modifyHead ([] ++ ·) = lines := by
    cases lines <;> rfl
  have hpaired : PairedReturns text := by
    apply paired_of_objects []
    · rw [hmodify]
      exact (rowsOfLines_objects h).2
    · rw [hmodify]
      exact (rowsOfLines_objects hwritten).2
  rw [untranslatedLines_paired hpaired, h] at hwritten
  exact (Except.ok.inj hwritten).symm

end TcdOran.Parquet
