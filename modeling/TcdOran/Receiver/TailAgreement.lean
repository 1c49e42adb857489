import TcdOran.Receiver.Canonicalizer
import TcdOran.Receiver.TailReader

/-! The tail reader sees the end of what the parser and the canonicalizer make of the whole files. -/
namespace TcdOran.Receiver
open TcdOran.Lib Python

/-! ### The rows as they are read back -/

def CaptureRow.json (row : CaptureRow) : Json := .obj (loadedMembers row.fields)

/-- The texts of a row are sequences of scalar values. -/
structure CaptureRow.Printable (row : CaptureRow) : Prop where
  digest : ∀ u ∈ row.rawLineSha256, Scalar u
  line : ∀ u ∈ row.lineUtf8, Scalar u

theorem scalar_hexText (digest : List UInt8) : ∀ u ∈ hexText digest, Scalar u := by
  have hhex (d : ℕ) (hd : d < 16) : Scalar (hexUnit d) := by
    unfold hexUnit
    split_ifs <;> exact .inl (by omega)
  intro u hu
  obtain ⟨b, -, hu⟩ := List.mem_flatMap.mp hu
  have hb := b.toNat_lt
  simp only [List.mem_cons, List.not_mem_nil, or_false] at hu
  rcases hu with rfl | rfl
  · exact hhex _ (by omega)
  · exact hhex _ (by omega)

theorem scalar_lineText (line : List UInt8) : ∀ u ∈ lineText line, Scalar u := by
  intro u hu
  exact decodeReplace_scalar line u ((List.rdropWhile_prefix _ _).subset hu)

theorem printable_captureRows (sha256 : List UInt8 → List UInt8) (sequence rawOffset : ℕ)
    (lines : List ReceivedLine) :
    ∀ row ∈ captureRows sha256 sequence rawOffset lines, row.Printable := by
  induction lines generalizing sequence rawOffset with
  | nil => simp [captureRows]
  | cons received lines ih =>
    intro row hrow
    rcases List.mem_cons.mp hrow with rfl | hrow
    · exact ⟨scalar_hexText _, scalar_lineText _⟩
    · exact ih _ _ row hrow

section
variable {row : CaptureRow} {rows : List CaptureRow}

theorem plainKeys (row : CaptureRow) : ∀ field ∈ row.fields, PlainKey field.1 := by
  have hall : ∀ key ∈ ["schema", "sequence", "rx_wall_ns", "rx_mono_ns", "raw_offset_start",
      "raw_offset_end", "raw_line_length_bytes", "raw_line_sha256", "line_utf8"], PlainKey key := by
    decide
  intro field hfield
  exact hall field.1 (List.mem_map_of_mem (f := Prod.fst) hfield)

theorem scalar_text (h : row.Printable) : ∀ u ∈ row.text, Scalar u ∧ 32 ≤ u := by
  apply scalar_dumps (plainKeys row)
  intro field hfield text htext
  have hschema : ∀ u ∈ chars captureSchema, Scalar u := by
    intro u hu
    have hsmall : ∀ v ∈ chars captureSchema, v < 128 := by decide
    exact .inl (by have := hsmall u hu; omega)
  simp only [CaptureRow.fields, List.mem_cons, List.not_mem_nil, or_false] at hfield
  rcases hfield with rfl | rfl | rfl | rfl | rfl | rfl | rfl | rfl | rfl <;>
    simp only [PyScalar.str.injEq, reduceCtorEq] at htext
  · exact htext ▸ hschema
  · exact htext ▸ h.digest
  · exact htext ▸ h.line

theorem prints_text (row : CaptureRow) : Json.Prints row.text row.json :=
  prints_dumps (by simp [CaptureRow.fields]) (plainKeys row)

theorem codePoints_bytes (h : row.Printable) : codePoints row.bytes = some row.text :=
  codePoints_scalars fun u hu => (scalar_text h u hu).1

theorem break_notMem_bytes (h : row.Printable) : (10 : UInt8) ∉ row.bytes ∧ (13 : UInt8) ∉ row.bytes := by
  have hcontrol := control_notMem_utf8 (scalar_text h)
  exact ⟨fun hmem => absurd (hcontrol 10 hmem) (by decide),
    fun hmem => absurd (hcontrol 13 hmem) (by decide)⟩

/-- The first character of a row is a brace. -/
theorem brace_mem (row : CaptureRow) : 123 ∈ row.text := by
  simp [CaptureRow.text, dumps, dictText, chars]

theorem not_all_byteSpace (row : CaptureRow) : (!row.bytes.all isByteSpace) = true := by
  have hbytes : row.bytes = 123 :: utf8OfCodePoints (row.text.drop 1) := by
    have htext : row.text = [123] ++ row.text.drop 1 := rfl
    have hopen : utf8OfCodePoints [123] = [123] := by decide
    rw [CaptureRow.bytes, htext, utf8OfCodePoints_append, hopen]
    rfl
  rw [hbytes, List.all_cons]
  rfl

/-! ### The whole file -/

theorem timestampFile_eq (rows : List CaptureRow) :
    timestampFile rows = utf8OfCodePoints (rows.flatMap fun row => row.text ++ [10]) := by
  have hlf : utf8OfCodePoints [10] = [10] := by decide
  have hrow : (fun row : CaptureRow => row.bytes ++ [10]) =
      fun row => utf8OfCodePoints (row.text ++ [10]) := by
    funext row
    rw [utf8OfCodePoints_append, hlf, CaptureRow.bytes]
  rw [utf8OfCodePoints_flatMap, timestampFile, hrow]

theorem codePoints_timestampFile (h : ∀ row ∈ rows, row.Printable) :
    codePoints (timestampFile rows) = some (rows.flatMap fun row => row.text ++ [10]) := by
  have hscalar : ∀ u ∈ rows.flatMap fun row => row.text ++ [10], Scalar u := by
    intro u hu
    obtain ⟨row, hrow, hu⟩ := List.mem_flatMap.mp hu
    rcases List.mem_append.mp hu with hu | hu
    · exact (scalar_text (h row hrow) u hu).1
    · rw [List.mem_singleton.mp hu]
      exact .inl (by decide)
  rw [timestampFile_eq, codePoints_scalars hscalar]

theorem fileLines_timestampFile (h : ∀ row ∈ rows, row.Printable) :
    fileLines (rows.flatMap fun row => row.text ++ [10]) = rows.map fun row => row.text ++ [10] := by
  have hbodies : ∀ body ∈ rows.map CaptureRow.text, 10 ∉ body ∧ 13 ∉ body := by
    intro body hbody
    obtain ⟨row, hrow, rfl⟩ := List.mem_map.mp hbody
    have hcontrol := scalar_text (h row hrow)
    exact ⟨fun hmem => absurd (hcontrol 10 hmem).2 (by decide),
      fun hmem => absurd (hcontrol 13 hmem).2 (by decide)⟩
  have hsplit : universalLinesFrom 10 13 [10] [] ((rows.map CaptureRow.text).flatMap (· ++ [10])) =
      (rows.map CaptureRow.text).map (· ++ [10]) :=
    universalLinesFrom_bodies (by decide) hbodies
  rw [List.flatMap_map, List.map_map] at hsplit
  exact hsplit

theorem loadTimestampRows_file (h : ∀ row ∈ rows, row.Printable) :
    loadTimestampRows (timestampFile rows) = .ok (rows.map CaptureRow.json) := by
  have hfilter : ((rows.map fun row => row.text ++ [10]).filter fun line => strip line ≠ []) =
      rows.map fun row => row.text ++ [10] := by
    rw [List.filter_eq_self]
    intro line hline
    obtain ⟨row, -, rfl⟩ := List.mem_map.mp hline
    exact decide_eq_true (strip_ne_nil (List.mem_append_left _ (brace_mem row)) (by decide))
  have hparse : (rows.map fun row => row.text ++ [10]).mapM
      (fun line => orRaise "JSONDecodeError" (Json.parse line)) = .ok (rows.map CaptureRow.json) := by
    apply mapM_eq_ok
    rw [List.forall₂_map_left_iff, List.forall₂_map_right_iff, List.forall₂_same]
    intro row _
    rw [Json.parse_prints (prints_text row)]
    rfl
  rw [loadTimestampRows, codePoints_timestampFile h]
  show ((fileLines (rows.flatMap fun row => row.text ++ [10])).filter fun line =>
    strip line ≠ []).mapM _ = _
  rw [fileLines_timestampFile h, hfilter, hparse]

/-! ### The end of the file -/

theorem timestampFile_bodies (rows : List CaptureRow) :
    timestampFile rows = (rows.map CaptureRow.bytes).flatMap (· ++ [10]) := by
  rw [timestampFile, List.flatMap_map]

theorem timestampFile_cons (row : CaptureRow) (rows : List CaptureRow) :
    timestampFile (row :: rows) = row.bytes ++ 10 :: timestampFile rows := by
  simp [timestampFile]

theorem endsLine_timestampFile : endsLine (timestampFile rows) = true ↔ rows ≠ [] := by
  cases rows with
  | nil => simp [timestampFile, endsLine]
  | cons row rows =>
    have hlast : timestampFile (row :: rows) =
        timestampFile (row :: rows).dropLast ++ ((row :: rows).getLast (by simp)).bytes ++ [10] := by
      conv_lhs => rw [← List.dropLast_append_getLast (l := row :: rows) (by simp)]
      simp [timestampFile]
    rw [hlast]
    simp [endsLine]

/-- The rows at the end whose lines are shorter than a limit. -/
def rowsWithin (limit : ℕ) : List CaptureRow → List CaptureRow
  | [] => []
  | row :: rows =>
      if (timestampFile (row :: rows)).length < limit then row :: rows else rowsWithin limit rows

/-- The rows that are wholly in the tail of the file and not at its start, or all rows of a file that
is no longer than the tail. -/
def rowsInTail (rows : List CaptureRow) : List CaptureRow :=
  if (timestampFile rows).length ≤ tailBytes then rows else rowsWithin tailBytes rows

theorem rowsWithin_all {limit : ℕ} (h : (timestampFile rows).length < limit) :
    rowsWithin limit rows = rows := by
  cases rows with
  | nil => rfl
  | cons row rows => rw [rowsWithin, if_pos h]

theorem rowsWithin_drop (limit : ℕ) (rows : List CaptureRow) : ∃ k, rowsWithin limit rows = rows.drop k := by
  induction rows with
  | nil => exact ⟨0, rfl⟩
  | cons row rows ih =>
    obtain ⟨k, hk⟩ := ih
    rw [rowsWithin]
    split_ifs
    · exact ⟨0, rfl⟩
    · exact ⟨k + 1, hk⟩

theorem rowsInTail_drop (rows : List CaptureRow) : ∃ k, rowsInTail rows = rows.drop k := by
  rw [rowsInTail]
  split_ifs
  · exact ⟨0, rfl⟩
  · exact rowsWithin_drop tailBytes rows

/-- Behind the first line feed after any position, a file goes on with whole lines. -/
theorem drop_after_lf (h : ∀ row ∈ rows, row.Printable) {n : ℕ}
    (hmem : (10 : UInt8) ∈ (timestampFile rows).drop n) :
    ((timestampFile rows).drop n).drop (((timestampFile rows).drop n).idxOf 10 + 1) =
      timestampFile (rowsWithin ((timestampFile rows).length - n) rows) := by
  induction rows generalizing n with
  | nil => simp [timestampFile] at hmem
  | cons row rows ih =>
    have hrow := (break_notMem_bytes (h row List.mem_cons_self)).1
    have hlength : (timestampFile (row :: rows)).length =
        row.bytes.length + ((timestampFile rows).length + 1) := by
      rw [timestampFile_cons, List.length_append, List.length_cons]
    rw [rowsWithin, if_neg (by omega), hlength]
    rw [timestampFile_cons] at hmem ⊢
    by_cases hn : n ≤ row.bytes.length
    · have hnot : (10 : UInt8) ∉ row.bytes.drop n := fun hmem => hrow (List.mem_of_mem_drop hmem)
      rw [rowsWithin_all (by omega), List.drop_append_of_le_length hn, List.idxOf_append_of_notMem hnot,
        List.idxOf_cons_self, Nat.add_zero, List.drop_length_add_append]
      rfl
    · have hsplit : (row.bytes ++ 10 :: timestampFile rows).drop n =
          (timestampFile rows).drop (n - (row.bytes.length + 1)) := by
        have hbehind : n - row.bytes.length = n - (row.bytes.length + 1) + 1 := by omega
        rw [List.drop_append, List.drop_eq_nil_of_le (by omega), List.nil_append, hbehind,
          List.drop_succ_cons]
      have hlimit : row.bytes.length + ((timestampFile rows).length + 1) - n =
          (timestampFile rows).length - (n - (row.bytes.length + 1)) := by
        omega
      rw [hsplit] at hmem ⊢
      rw [hlimit]
      exact ih (fun other hother => h other (List.mem_cons_of_mem row hother)) hmem

theorem tailLines_file_iff (h : ∀ row ∈ rows, row.Printable) {buf : List UInt8} :
    tailLines (timestampFile rows) = .ok buf ↔ rows ≠ [] ∧ buf = timestampFile (rowsInTail rows) := by
  have hends : endsLine ((timestampFile rows).drop
      ((timestampFile rows).length - min (timestampFile rows).length tailBytes)) = true ↔ rows ≠ [] := by
    rw [← endsLine_timestampFile]
    by_cases hnil : timestampFile rows = []
    · simp [hnil]
    · have hpos := List.length_pos_iff.mpr hnil
      have htail : 0 < tailBytes := by decide
      rw [endsLine, List.getLast?_drop, if_neg (by omega), endsLine]
  simp only [tailLines, require_bind_eq_ok, hends]
  refine and_congr_right fun hne => ?_
  by_cases hsize : (timestampFile rows).length ≤ tailBytes
  · have hall : (timestampFile rows).length - min (timestampFile rows).length tailBytes = 0 := by omega
    rw [if_neg (by omega), rowsInTail, if_pos hsize, hall, List.drop_zero]
    exact ⟨fun hbuf => (Except.ok.inj hbuf).symm, fun hbuf => hbuf ▸ rfl⟩
  · have hmin : min (timestampFile rows).length tailBytes = tailBytes := by omega
    have hmem : (10 : UInt8) ∈ (timestampFile rows).drop ((timestampFile rows).length - tailBytes) :=
      List.mem_of_getLast? (of_decide_eq_true (hmin ▸ hends.mpr hne))
    have hlimit : (timestampFile rows).length - ((timestampFile rows).length - tailBytes) = tailBytes := by
      omega
    rw [if_pos (by omega), hmin, require_bind_eq_ok, drop_after_lf h hmem, hlimit, rowsInTail,
      if_neg hsize]
    exact ⟨fun hbuf => (Except.ok.inj hbuf.2).symm, fun hbuf => ⟨hmem, hbuf ▸ rfl⟩⟩

theorem tailRows_file (h : ∀ row ∈ rows, row.Printable) :
    ((byteLines (timestampFile rows)).filter fun raw => !raw.all isByteSpace).mapM
      (fun raw => do
        let row ← orRaise "TIMESTAMP_BAD_JSON" (loadsBytes raw)
        match row with
        | .obj _ => return row
        | _ => throw "TIMESTAMP_NOT_OBJECT") = .ok (rows.map CaptureRow.json) := by
  have hlines : byteLines (timestampFile rows) = rows.map CaptureRow.bytes := by
    have hbodies : ∀ body ∈ rows.map CaptureRow.bytes, (10 : UInt8) ∉ body ∧ 13 ∉ body := by
      intro body hbody
      obtain ⟨row, hrow, rfl⟩ := List.mem_map.mp hbody
      exact break_notMem_bytes (h row hrow)
    have hsplit : universalLinesFrom 10 13 [] [] ((rows.map CaptureRow.bytes).flatMap (· ++ [10])) =
        (rows.map CaptureRow.bytes).map (· ++ []) :=
      universalLinesFrom_bodies (by decide) hbodies
    rw [← timestampFile_bodies] at hsplit
    simp only [List.append_nil, List.map_id'] at hsplit
    exact hsplit
  have hfilter : (rows.map CaptureRow.bytes).filter (fun raw => !raw.all isByteSpace) =
      rows.map CaptureRow.bytes := by
    rw [List.filter_eq_self]
    intro body hbody
    obtain ⟨row, -, rfl⟩ := List.mem_map.mp hbody
    exact not_all_byteSpace row
  rw [hlines, hfilter]
  apply mapM_eq_ok
  rw [List.forall₂_map_left_iff, List.forall₂_map_right_iff, List.forall₂_same]
  intro row hrow
  have hload : loadsBytes row.bytes = some row.json := by
    rw [loadsBytes, codePoints_bytes (h row hrow), Option.bind_some,
      parse_prints_end (prints_text row)]
  rw [hload]
  rfl

theorem timestampTail_file_iff (h : ∀ row ∈ rows, row.Printable) {values : List Json} :
    timestampTail (timestampFile rows) = .ok values ↔
      2 ≤ (rowsInTail rows).length ∧ values = (rowsInTail rows).map CaptureRow.json := by
  have htail : ∀ row ∈ rowsInTail rows, row.Printable := by
    obtain ⟨k, hk⟩ := rowsInTail_drop rows
    exact fun row hrow => h row (List.mem_of_mem_drop (hk ▸ hrow))
  simp only [timestampTail, bind_eq_ok, tailLines_file_iff h]
  constructor
  · rintro ⟨buf, ⟨-, rfl⟩, read, hread, _, hcount, hvalues⟩
    obtain rfl := Except.ok.inj (hread.symm.trans (tailRows_file htail))
    rw [require_eq_ok, List.length_map] at hcount
    exact ⟨hcount, (Except.ok.inj hvalues).symm⟩
  · rintro ⟨hcount, rfl⟩
    have hne : rows ≠ [] := by
      rintro rfl
      simp [rowsInTail, rowsWithin] at hcount
    refine ⟨_, ⟨hne, rfl⟩, _, tailRows_file htail, (), ?_, rfl⟩
    rw [require_eq_ok, List.length_map]
    exact hcount

theorem timestampTail_file (h : ∀ row ∈ rows, row.Printable) {values : List Json}
    (htail : timestampTail (timestampFile rows) = .ok values) :
    ∃ k, values = (rows.drop k).map CaptureRow.json := by
  obtain ⟨k, hk⟩ := rowsInTail_drop rows
  exact ⟨k, hk ▸ ((timestampTail_file_iff h).mp htail).2⟩

/-! ### A row -/

def CaptureRow.decoded (row : CaptureRow) : TimestampRow where
  sequence := row.sequence
  rawOffsetStart := row.rawOffsetStart
  rawOffsetEnd := row.rawOffsetEnd
  rxWallNs := row.rxWallNs
  rxMonoNs := row.rxMonoNs
  rawLineLengthBytes := row.rawLineLengthBytes
  rawLineSha256 := .str row.rawLineSha256
  lineUtf8 := .str row.lineUtf8

theorem intOfJson_int (z : ℤ) : intOfJson (PyScalar.int z).json = some z := by
  rw [PyScalar.json, intOfJson, if_pos (NumberLiteral.ofInt_isInteger z),
    NumberLiteral.intValue_ofInt]

/-- Every field is found under its key. -/
theorem member_json (row : CaptureRow) :
    (member row.json "schema" = .ok (.str (chars captureSchema)) ∧
      member row.json "raw_line_sha256" = .ok (.str row.rawLineSha256) ∧
      member row.json "line_utf8" = .ok (.str row.lineUtf8)) ∧
    (member row.json "sequence" = .ok (PyScalar.int row.sequence).json ∧
      member row.json "rx_wall_ns" = .ok (PyScalar.int row.rxWallNs).json ∧
      member row.json "rx_mono_ns" = .ok (PyScalar.int row.rxMonoNs).json ∧
      member row.json "raw_offset_start" = .ok (PyScalar.int row.rawOffsetStart).json ∧
      member row.json "raw_offset_end" = .ok (PyScalar.int row.rawOffsetEnd).json ∧
      member row.json "raw_line_length_bytes" = .ok (PyScalar.int row.rawLineLengthBytes).json) := by
  simp [member, CaptureRow.json, dictLookup, loadedMembers, CaptureRow.fields, List.lookup_cons, chars,
    orRaise, PyScalar.json]

theorem isText_str (text : List ℕ) : isText (.str text) text = true := by simp [isText]

theorem timestampRow_json (row : CaptureRow) : timestampRow row.json = .ok row.decoded := by
  obtain ⟨⟨hschema, hsha, hline⟩, hsequence, hwall, hmono, hstart, hend, hlength⟩ := member_json row
  simp only [timestampRow, hschema, hsha, hline, hsequence, hwall, hmono, hstart, hend, hlength,
    ok_bind, isText_str, intOfJson_int, orRaise, require, if_true]
  rfl

theorem tailRow_json (row : CaptureRow) : tailRow row.json = .ok row.decoded := by
  obtain ⟨⟨hschema, hsha, hline⟩, hsequence, hwall, hmono, hstart, hend, hlength⟩ := member_json row
  simp only [tailRow, hschema, hsha, hline, hsequence, hwall, hmono, hstart, hend, hlength,
    Except.toOption, Option.any_some, ok_bind, isText_str, intOfJson_int, orRaise, require, if_true]
  rfl

end

/-! ### The loops -/

section
variable {sha256 : List UInt8 → List UInt8} {raw : List UInt8}

/-- The record that the parser makes of a row. -/
def CaptureRow.staging (row : CaptureRow) : Option StagingRow :=
  match parseInterval row.lineUtf8 with
  | .ok (some interval) => some ⟨row.sequence, row.rxWallNs, row.rxMonoNs, row.rawOffsetStart,
      row.rawOffsetEnd, .str row.rawLineSha256, interval⟩
  | _ => none

theorem isText_str_iff {text other : List ℕ} : isText (.str text) other = true ↔ text = other := by
  simp [isText]

theorem parseRow_ok {row : CaptureRow} {state state' : ParserState} {staging : Option StagingRow}
    (h : parseRow sha256 raw state row.json = .ok (state', staging)) : staging = row.staging := by
  simp only [parseRow, timestampRow_json, ok_bind, bind_eq_ok, require_eq_ok] at h
  obtain ⟨-, -, -, -, -, -, -, -, -, htext, -, -, -, -, -, -, interval, hparse, h⟩ := h
  obtain ⟨-, rfl⟩ := Prod.mk.inj (Except.ok.inj h)
  have hline := isText_str_iff.mp htext
  rw [← hline] at hparse
  rw [CaptureRow.staging, hparse]
  cases interval <;> rfl

theorem parseRows_ok {rows : List CaptureRow} {state : ParserState} {staging : List StagingRow}
    (h : parseRows sha256 raw state (rows.map CaptureRow.json) = .ok staging) :
    staging = rows.filterMap CaptureRow.staging := by
  induction rows generalizing state staging with
  | nil =>
    obtain rfl := Except.ok.inj h
    rfl
  | cons row rows ih =>
    simp only [List.map_cons, parseRows, bind_eq_ok] at h
    obtain ⟨⟨state', first⟩, hfirst, rest, hrest, h⟩ := h
    obtain rfl := Except.ok.inj h
    rw [parseRow_ok hfirst, ih hrest, List.filterMap_cons]
    cases row.staging <;> rfl

/-- What the tail reader lists of a record. -/
def StagingRow.listed (staging : StagingRow) : Option TailInterval :=
  if 1000001 / 1000000 < reprDecimal staging.interval.intervalEndS then
    some ⟨staging.sourceSequence, staging.rxWallNs, staging.rxMonoNs, staging.interval,
      staging.sourceRawLineSha256⟩
  else none

theorem tailInterval_ok {row : TimestampRow} {parsed : Option Interval}
    {listed : Option TailInterval} (h : tailInterval row parsed = .ok listed) :
    (∀ interval ∈ parsed, interval.shape = .complete0p2) ∧
      listed = parsed.bind fun interval =>
        (⟨row.sequence, row.rxWallNs, row.rxMonoNs, row.rawOffsetStart, row.rawOffsetEnd,
          row.rawLineSha256, interval⟩ : StagingRow).listed := by
  cases parsed with
  | none =>
    obtain rfl := Except.ok.inj h
    exact ⟨by simp, rfl⟩
  | some interval =>
    simp only [tailInterval, require_bind_eq_ok] at h
    obtain ⟨hshape, -, h⟩ := h
    refine ⟨by simpa using hshape, ?_⟩
    rw [Option.bind_some, StagingRow.listed]
    split_ifs at h with hend
    · rw [if_pos hend]
      exact (Except.ok.inj h).symm
    · rw [if_neg hend]
      exact (Except.ok.inj h).symm

theorem inspectRow_ok {row : CaptureRow} {last : Option TimestampRow} {row' : TimestampRow}
    {listed : Option TailInterval} (h : inspectRow sha256 raw last row.json = .ok (row', listed)) :
    (∀ staging ∈ row.staging, staging.interval.shape = .complete0p2) ∧
      listed = row.staging.bind StagingRow.listed := by
  simp only [inspectRow, tailRow_json, ok_bind, bind_eq_ok, require_eq_ok] at h
  obtain ⟨-, -, -, -, -, -, -, -, -, -, -, -, -, -, -, htext, parsed, hparse, other, hlisted, h⟩ := h
  obtain ⟨-, rfl⟩ := Prod.mk.inj (Except.ok.inj h)
  rw [← isText_str_iff.mp htext] at hparse
  obtain ⟨hshape, rfl⟩ := tailInterval_ok hlisted
  rw [CaptureRow.staging, hparse]
  cases parsed with
  | none => exact ⟨by simp, rfl⟩
  | some interval =>
    refine ⟨?_, rfl⟩
    intro staging hstaging
    obtain rfl := Option.some.inj hstaging
    exact hshape interval rfl

theorem inspectRows_ok {rows : List CaptureRow} {last : Option TimestampRow}
    {intervals : List TailInterval}
    (h : inspectRows sha256 raw last (rows.map CaptureRow.json) = .ok intervals) :
    (∀ staging ∈ rows.filterMap CaptureRow.staging, staging.interval.shape = .complete0p2) ∧
      intervals = (rows.filterMap CaptureRow.staging).filterMap StagingRow.listed := by
  induction rows generalizing last intervals with
  | nil =>
    obtain rfl := Except.ok.inj h
    exact ⟨by simp, rfl⟩
  | cons row rows ih =>
    simp only [List.map_cons, inspectRows, bind_eq_ok] at h
    obtain ⟨⟨row', listed⟩, hfirst, rest, hrest, h⟩ := h
    obtain rfl := Except.ok.inj h
    obtain ⟨hshape, rfl⟩ := inspectRow_ok hfirst
    obtain ⟨hshapes, rfl⟩ := ih hrest
    rw [List.filterMap_cons]
    cases hstaging : row.staging with
    | none => exact ⟨hshapes, rfl⟩
    | some staging =>
      refine ⟨?_, ?_⟩
      · intro other hother
        rcases List.mem_cons.mp hother with rfl | hother
        · exact hshape other hstaging
        · exact hshapes other hother
      · rw [Option.bind_some, List.filterMap_cons]
        cases staging.listed <;> rfl

end

/-! ### The canonical rows -/

section
variable {experimentId runId : List ℕ}

theorem canonicalRows_ok {appliedTimestamps : List ℤ} {previous : Option (ℤ × ℤ)}
    {staging : List StagingRow} {records : List IntervalRow}
    (h : canonicalRows experimentId runId appliedTimestamps previous staging = .ok records) :
    List.Forall₂ (fun row record =>
      canonicalRecord experimentId runId row appliedTimestamps = .ok record) staging records := by
  induction staging generalizing previous records with
  | nil =>
    obtain rfl := Except.ok.inj h
    exact .nil
  | cons row rows ih =>
    simp only [canonicalRows, bind_eq_ok, require_eq_ok] at h
    obtain ⟨-, -, -, -, record, hrecord, -, -, rest, hrest, h⟩ := h
    obtain rfl := Except.ok.inj h
    exact .cons hrecord (ih hrest)

/-- The canonical row of an interval that the tail reader lists. -/
structure TailInterval.Canonical (interval : TailInterval) (record : IntervalRow) : Prop where
  sequence : 0 ≤ interval.sequence
  recordId : record.recordId = intervalRecordId interval.sequence.toNat
  rxWallNs : record.rxWallNs = interval.wallNs
  rxMonoNs : record.rxMonoNs = interval.monoNs
  intervalStartS : record.intervalStartS = interval.parsed.intervalStartS
  intervalEndS : record.intervalEndS = interval.parsed.intervalEndS

theorem canonicalRecord_listed {row : StagingRow} {record : IntervalRow}
    (hshape : row.interval.shape = .complete0p2)
    (h : canonicalRecord experimentId runId row [] = .ok record) :
    (record.intervalClass = .complete ∧ ∃ interval, row.listed = some interval ∧
      interval.Canonical record) ∨ (record.intervalClass ≠ .complete ∧ row.listed = none) := by
  simp only [canonicalRecord, classifyInterval, baseIntervalClass, hshape, bind_eq_ok,
    require_eq_ok, if_true] at h
  obtain ⟨-, hsequence, -, -, -, -, intervalClass, ⟨base, ⟨-, -, hbase⟩, hclass⟩, h⟩ := h
  obtain rfl := Except.ok.inj hclass
  obtain rfl := Except.ok.inj h
  have hguard : startupGuardS + epsilon = 1000001 / 1000000 := by
    norm_num [startupGuardS, epsilon]
  rw [hguard] at hbase
  unfold StagingRow.listed
  split_ifs at hbase with hend
  · obtain rfl := Except.ok.inj hbase
    exact .inr ⟨by simp, if_neg (not_lt.mpr hend)⟩
  · obtain rfl := Except.ok.inj hbase
    exact .inl ⟨rfl, _, if_pos (not_le.mp hend), ⟨hsequence, rfl, rfl, rfl, rfl, rfl⟩⟩

theorem completeRows_listed {staging : List StagingRow} {records : List IntervalRow}
    (hshapes : ∀ row ∈ staging, row.interval.shape = .complete0p2)
    (h : List.Forall₂ (fun row record =>
      canonicalRecord experimentId runId row [] = .ok record) staging records) :
    List.Forall₂ TailInterval.Canonical (staging.filterMap StagingRow.listed)
      (completeRows records) := by
  induction h with
  | nil => exact .nil
  | @cons row record rows records hrecord hrest ih =>
    have hrows := ih fun other hother => hshapes other (List.mem_cons_of_mem row hother)
    rcases canonicalRecord_listed (hshapes row List.mem_cons_self) hrecord with
      ⟨hclass, interval, hlisted, hcanonical⟩ | ⟨hclass, hlisted⟩
    · rw [List.filterMap_cons_some hlisted, completeRows, List.filter_cons_of_pos (by simpa using hclass)]
      exact .cons hcanonical hrows
    · rw [List.filterMap_cons_none hlisted, completeRows, List.filter_cons_of_neg (by simpa using hclass)]
      exact hrows

/-! ### The files as a whole -/

theorem forall₂_append_left {α β : Type} {R : α → β → Prop} {xs xs' : List α} {ys : List β}
    (h : List.Forall₂ R (xs ++ xs') ys) :
    ∃ front rest, List.Forall₂ R xs front ∧ List.Forall₂ R xs' rest ∧ ys = front ++ rest := by
  induction xs generalizing ys with
  | nil => exact ⟨[], ys, .nil, h, rfl⟩
  | cons x xs ih =>
    obtain ⟨y, ys, hy, hys, rfl⟩ := List.forall₂_cons_left_iff.mp h
    obtain ⟨front, rest, hfront, hrest, rfl⟩ := ih hys
    exact ⟨y :: front, rest, .cons hy hfront, hrest, rfl⟩

theorem lastPair_ok {intervals : List TailInterval} {a b : TailInterval}
    (h : lastPair intervals = .ok (a, b)) : ∃ before, intervals = before ++ [a, b] := by
  unfold lastPair at h
  split at h
  · next b' a' rest hreverse =>
    obtain ⟨rfl, rfl⟩ := Prod.mk.inj (Except.ok.inj h)
    refine ⟨rest.reverse, ?_⟩
    rw [← List.reverse_reverse intervals, hreverse]
    simp
  · cases h

/-- The sample is the last complete canonical row, and the complete row before it ends where that one
starts. -/
structure TailSample.LatestOf (sample : TailSample) (records : List IntervalRow) (previous last : IntervalRow) :
    Prop where
  rows : ∃ before, completeRows records = before ++ [previous, last]
  sequence : 0 ≤ sample.lastSequence
  recordId : last.recordId = intervalRecordId sample.lastSequence.toNat
  rxWallNs : last.rxWallNs = sample.latestSampleTimestampUtcNs
  rxMonoNs : last.rxMonoNs = sample.latestSampleRxMonoNs
  intervalEndS : last.intervalEndS = sample.latestIntervalEndS
  prephase : 26 ≤ reprDecimal last.intervalEndS
  contiguous : reprDecimal previous.intervalEndS = reprDecimal last.intervalStartS

/-- On the files of the capture program, to whose raw file some bytes may have been added since, what
the tail reader selects is what the parser and the canonicalizer put last. -/
theorem inspect_agrees {sha256 : List UInt8 → List UInt8} {lines : List ReceivedLine}
    {more : List UInt8} {decisionNs : ℤ} {sample : TailSample} {staging : List StagingRow}
    {records : List IntervalRow}
    (hinspect : inspect sha256 (rawFile lines ++ more)
      (timestampFile (captureRows sha256 0 0 lines)) decisionNs = .ok sample)
    (hparser : parserMain sha256 (rawFile lines ++ more)
      (timestampFile (captureRows sha256 0 0 lines)) = .ok staging)
    (hcanonical : canonicalizerMain experimentId runId [] staging = .ok records) :
    ∃ previous last, sample.LatestOf records previous last := by
  have hprintable := printable_captureRows sha256 0 0 lines
  generalize captureRows sha256 0 0 lines = rows at hinspect hparser hprintable
  -- the parser reads all rows
  simp only [parserMain, loadTimestampRows_file hprintable, ok_bind] at hparser
  obtain rfl := parseRows_ok hparser
  -- the tail reader reads those from some row on
  simp only [inspect, bind_eq_ok, require_eq_ok] at hinspect
  obtain ⟨-, -, -, -, values, htail, intervals, hrows, ⟨a, b⟩, hpair, hinspect⟩ := hinspect
  obtain ⟨-, hcontiguous, -, hprephase, -, -, hsample⟩ := hinspect
  obtain rfl := Except.ok.inj hsample
  obtain ⟨k, rfl⟩ := timestampTail_file hprintable htail
  obtain ⟨hshapes, rfl⟩ := inspectRows_ok hrows
  -- the canonical rows are split where the tail begins
  simp only [canonicalizerMain, require_bind_eq_ok] at hcanonical
  have hrecords := canonicalRows_ok hcanonical.2.2
  rw [← List.take_append_drop k rows, List.filterMap_append] at hrecords
  obtain ⟨front, tail, -, hrest, rfl⟩ := forall₂_append_left hrecords
  have hcomplete := completeRows_listed hshapes hrest
  obtain ⟨listed, hlisted⟩ := lastPair_ok hpair
  rw [hlisted] at hcomplete
  obtain ⟨before, pair, -, hpairs, hsplit⟩ := forall₂_append_left hcomplete
  obtain ⟨previous, _, hprevious, hsecond, rfl⟩ := List.forall₂_cons_left_iff.mp hpairs
  obtain ⟨last, _, hlast, hnil, rfl⟩ := List.forall₂_cons_left_iff.mp hsecond
  obtain rfl := List.forall₂_nil_left_iff.mp hnil
  refine ⟨previous, last, ⟨completeRows front ++ before, ?_⟩, hlast.sequence, hlast.recordId,
    hlast.rxWallNs, hlast.rxMonoNs, hlast.intervalEndS, ?_, ?_⟩
  · rw [completeRows, List.filter_append]
    show completeRows front ++ completeRows tail = _
    rw [hsplit, List.append_assoc]
  · rw [hlast.intervalEndS]
    exact hprephase
  · rw [hprevious.intervalEndS, hlast.intervalStartS]
    exact hcontiguous

/-- Two intervals of the receiver, at 26 s of the traffic. -/
def sampleLines : List ReceivedLine :=
  [⟨bytes "[  5]  25.80-26.00  sec   449 KBytes  18.4 Mbits/sec\n", 1000, 10⟩,
    ⟨bytes "[  5]  26.00-26.20  sec   449 KBytes  18.4 Mbits/sec\n", 2000, 20⟩]

def sampleDigest (data : List UInt8) : List UInt8 := [data.length.toUInt8]

def sampleRows : List CaptureRow := captureRows sampleDigest 0 0 sampleLines

theorem sample_timestampTail : timestampTail (timestampFile sampleRows) =
    .ok (sampleRows.map CaptureRow.json) := by
  have hlength : (timestampFile sampleRows).length ≤ tailBytes := by decide +kernel
  have hall : rowsInTail sampleRows = sampleRows := if_pos hlength
  rw [@timestampTail_file_iff sampleRows (printable_captureRows sampleDigest 0 0 sampleLines) _, hall]
  exact ⟨by decide, rfl⟩

theorem sample_inspect : (inspect sampleDigest (rawFile sampleLines ++ [])
    (timestampFile sampleRows) 2000).toBool = true := by
  simp only [inspect, sample_timestampTail, ok_bind]
  decide +kernel

theorem sample_canonical : ((parserMain sampleDigest (rawFile sampleLines ++ [])
    (timestampFile sampleRows)).bind (canonicalizerMain (chars "EXP-20260101-DL-18000K-R01")
      (chars "RUN-20260101T000000Z-001") [])).toBool = true := by
  have hload : loadTimestampRows (timestampFile sampleRows) = .ok (sampleRows.map CaptureRow.json) :=
    loadTimestampRows_file (printable_captureRows sampleDigest 0 0 sampleLines)
  simp only [parserMain, hload, ok_bind]
  decide +kernel

theorem inspect_agrees_sample : ∃ sample staging records,
    inspect sampleDigest (rawFile sampleLines ++ []) (timestampFile sampleRows) 2000 = .ok sample ∧
    parserMain sampleDigest (rawFile sampleLines ++ []) (timestampFile sampleRows) = .ok staging ∧
    canonicalizerMain (chars "EXP-20260101-DL-18000K-R01") (chars "RUN-20260101T000000Z-001") []
      staging = .ok records ∧ ∃ previous last, sample.LatestOf records previous last := by
  obtain ⟨sample, hsample⟩ := exists_ok sample_inspect
  obtain ⟨records, hrecords⟩ := exists_ok sample_canonical
  obtain ⟨staging, hstaging, hrecords⟩ := bind_eq_ok.mp hrecords
  exact ⟨sample, staging, records, hsample, hstaging, hrecords,
    inspect_agrees hsample hstaging hrecords⟩

end

end TcdOran.Receiver
