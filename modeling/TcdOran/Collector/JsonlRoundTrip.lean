import TcdOran.Collector.CsvRoundTrip
import TcdOran.Lib.JsonText

/-! The JSONL file read back by a JSON decoder. -/
namespace TcdOran.Collector
open TcdOran.Lib
open TcdOran.Lib.Json (StringBody Prints)

/-! ### Strings -/

theorem jsonEscape_ascii {b : UInt8} (h : b.toNat < 128) : ∀ c ∈ jsonEscape b, c.toNat < 128 := by
  have hall : ∀ n : Fin 128, ∀ c ∈ jsonEscape (UInt8.ofNat n.val), c.toNat < 128 := by
    decide +kernel
  simpa using hall ⟨b.toNat, h⟩

theorem jsonEscape_high {b : UInt8} (h : 128 ≤ b.toNat) : jsonEscape b = [b] := by
  have hall : ∀ n : Fin 256, 128 ≤ n.val → jsonEscape (UInt8.ofNat n.val) = [UInt8.ofNat n.val] := by
    decide +kernel
  simpa using hall ⟨b.toNat, b.toNat_lt⟩ h

theorem lineFeed_notMem_jsonEscape (b : UInt8) : (10 : UInt8) ∉ jsonEscape b := by
  have hall : ∀ n : Fin 256, (10 : UInt8) ∉ jsonEscape (UInt8.ofNat n.val) := by decide +kernel
  simpa using hall ⟨b.toNat, b.toNat_lt⟩

/-- Every control character is escaped, either by name or by number. -/
theorem jsonEscape_body {b : UInt8} (h : b.toNat < 128) :
    StringBody ((jsonEscape b).map UInt8.toNat) [b.toNat] := by
  have hcontrol : ∀ n : Fin 32, Json.hexQuad [48, 48,
      (hexDigit ((UInt8.ofNat n.val >>> 4) &&& 0x0F).toNat).toNat,
      (hexDigit (UInt8.ofNat n.val &&& 0x0F).toNat).toNat] = some (n.val, []) := by decide +kernel
  unfold jsonEscape
  split_ifs with h34 h92 h8 h12 h10 h13 h9 hlow
  · subst h34
    exact .short rfl .nil
  · subst h92
    exact .short rfl .nil
  · subst h8
    exact .short rfl .nil
  · subst h12
    exact .short rfl .nil
  · subst h10
    exact .short rfl .nil
  · subst h13
    exact .short rfl .nil
  · subst h9
    exact .short rfl .nil
  · have hlow : b.toNat < 32 := hlow
    have hquad := hcontrol ⟨b.toNat, hlow⟩
    simp only [UInt8.ofNat_toNat] at hquad
    exact .unicode hquad (by omega) .nil
  · have hge : 32 ≤ b.toNat := Nat.le_of_not_lt hlow
    have hne {c : UInt8} (hc : b ≠ c) : b.toNat ≠ c.toNat := fun heq => hc (UInt8.toNat_inj.mp heq)
    exact .plain hge (hne h34) (hne h92) .nil

theorem encodeChar_high {c : Char} (h : 128 ≤ c.toNat) :
    ∀ b ∈ String.utf8EncodeChar c, 128 ≤ b.toNat := by
  have hvalid : c.val.toNat < 0xD800 ∨ (0xDFFF < c.val.toNat ∧ c.val.toNat < 0x110000) := c.valid
  have hc : 128 ≤ c.val.toNat := h
  have hbyte (k : ℕ) (hk : k < 256) : (UInt8.ofNat k).toNat = k := by
    rw [UInt8.toNat_ofNat', Nat.mod_eq_of_lt hk]
  intro b hb
  rw [String.utf8EncodeChar] at hb
  set v := c.val.toNat
  split_ifs at hb with h1 h2 h3
  · omega
  all_goals
    simp only [List.mem_cons, List.not_mem_nil, or_false] at hb
    rcases hb with rfl | hb
    · rw [hbyte _ (by omega)]
      omega
  · rw [hb, hbyte _ (by omega)]
    omega
  · rcases hb with rfl | rfl <;> rw [hbyte _ (by omega)] <;> omega
  · rcases hb with rfl | rfl | rfl <;> rw [hbyte _ (by omega)] <;> omega

/-- The escaped text of one character, as code points, is a string body for it. -/
theorem jsonEscape_char (c : Char) : ∃ body,
    codePoints ((String.utf8EncodeChar c).flatMap jsonEscape) = some body ∧
      StringBody body [c.toNat] := by
  by_cases hc : c.toNat < 128
  · have henc : String.utf8EncodeChar c = [UInt8.ofNat c.toNat] := by
      have hle : c.val.toNat ≤ 0x7F := Nat.le_of_lt_succ hc
      rw [String.utf8EncodeChar]
      simp only [hle, if_true]
      rfl
    have hb : (UInt8.ofNat c.toNat).toNat = c.toNat := by
      rw [UInt8.toNat_ofNat', Nat.mod_eq_of_lt (by omega)]
    have hlow : (UInt8.ofNat c.toNat).toNat < 128 := by omega
    rw [henc, List.flatMap_singleton]
    refine ⟨_, codePoints_ascii (jsonEscape_ascii hlow), ?_⟩
    have hbody := jsonEscape_body hlow
    rwa [hb] at hbody
  · have hhigh := encodeChar_high (Nat.le_of_not_lt hc)
    have hsame : (String.utf8EncodeChar c).flatMap jsonEscape = encodeUtf8 [c] := by
      rw [encodeUtf8, List.flatMap_singleton, List.flatMap_congr fun b hb =>
        jsonEscape_high (hhigh b hb), List.flatMap_singleton']
    rw [hsame, codePoints_encodeUtf8, List.map_singleton]
    exact ⟨_, rfl, .plain (by omega) (by omega) (by omega) .nil⟩

theorem jsonEscape_text {text : List UInt8} {units : List ℕ} (h : codePoints text = some units) :
    ∃ body, codePoints (text.flatMap jsonEscape) = some body ∧ StringBody body units := by
  simp only [codePoints, Option.map_eq_some_iff, decodeUtf8_eq_some_iff] at h
  obtain ⟨cs, rfl, rfl⟩ := h
  induction cs with
  | nil => exact ⟨[], codePoints_encodeUtf8 [], .nil⟩
  | cons c cs ih =>
    obtain ⟨first, hfirst, hc⟩ := jsonEscape_char c
    obtain ⟨body, hbody, hcs⟩ := ih
    refine ⟨first ++ body, ?_, hc.append hcs⟩
    rw [encodeUtf8, List.flatMap_cons, List.flatMap_append]
    exact codePoints_append hfirst hbody

theorem lineFeed_notMem_jsonString (text : List UInt8) : (10 : UInt8) ∉ jsonString text := by
  simp only [jsonString, List.mem_append, List.mem_singleton, List.mem_flatMap, not_or, not_exists,
    not_and]
  exact ⟨⟨by decide, fun b _ => lineFeed_notMem_jsonEscape b⟩, by decide⟩

/-! ### Values -/

/-- The value a decoder finds where a field is printed. -/
def fieldJson : Option FieldValue → Json
  | none => .null
  | some (.string text) => .str ((codePoints text).getD [])
  | some (.natural value) => .num (.ofInt value)
  | some (.integer value) => .num (.ofInt value)
  | some (.real value) => .num (literalG17 value)
  | some (.boolean value) => .bool value

/-- The text denotes the value: as code points it is what the decoder reads the value from. -/
def Denotes (text : List UInt8) (value : Json) : Prop :=
  ∃ units, codePoints text = some units ∧ Prints units value

theorem codePoints_bytes_chars (name : String) (h : PlainAscii (bytes name))
    (hchars : (bytes name).map UInt8.toNat = chars name) :
    codePoints (bytes name) = some (chars name) := by
  rw [h.codePoints, hchars]

theorem codePoints_jsonString {text : List UInt8} {units : List ℕ}
    (h : codePoints text = some units) :
    ∃ body, codePoints (jsonString text) = some (34 :: (body ++ [34])) ∧ StringBody body units := by
  obtain ⟨body, hbody, hstring⟩ := jsonEscape_text h
  have hquote : codePoints [34] = some [34] := codePoints_singleton (by decide)
  exact ⟨body, codePoints_append (codePoints_append hquote hbody) hquote, hstring⟩

theorem denotes_string {text : List UInt8} {units : List ℕ} (h : codePoints text = some units) :
    Denotes (jsonString text) (.str units) := by
  obtain ⟨body, hbody, hstring⟩ := codePoints_jsonString h
  exact ⟨_, hbody, Json.prints_str hstring⟩

theorem denotes_number {text : List UInt8} {literal : NumberLiteral} (hvalid : literal.Valid)
    (h : text.map UInt8.toNat = literal.text) : Denotes text (.num literal) := by
  have hascii : ∀ b ∈ text, b.toNat < 128 := by
    intro b hb
    have hmem : b.toNat ∈ literal.text := h ▸ List.mem_map_of_mem hb
    rcases NumberLiteral.isNumberUnit_of_mem_text hvalid hmem with hu | hu | hu | hu | hu | hu
    iterate 5 omega
    · simp only [isDigit, decide_eq_true_eq] at hu
      omega
  exact ⟨literal.text, h ▸ codePoints_ascii hascii, Json.prints_num hvalid⟩

theorem exists_codePoints {text : List UInt8} (h : WellFormedUtf8 text) :
    ∃ units, codePoints text = some units := by
  obtain ⟨cs, rfl⟩ := h
  exact ⟨_, codePoints_encodeUtf8 cs⟩

theorem denotes_jsonValue {field : Option FieldValue} (h : ∀ value ∈ field, value.Printable) :
    Denotes (jsonValue field) (fieldJson field) := by
  match field with
  | none => exact ⟨_, codePoints_bytes_chars "null" (by decide) (by decide),
      Json.prints_null⟩
  | some (.string text) =>
    obtain ⟨units, hunits⟩ := exists_codePoints (h _ rfl)
    have hdenotes := denotes_string hunits
    rwa [show Json.str units = fieldJson (some (.string text)) by simp [fieldJson, hunits]]
      at hdenotes
  | some (.natural value) =>
    exact denotes_number (NumberLiteral.ofInt_valid _) (NumberLiteral.text_ofInt_natCast value).symm
  | some (.integer value) =>
    exact denotes_number (NumberLiteral.ofInt_valid _) (NumberLiteral.text_ofInt value).symm
  | some (.real value) =>
    exact denotes_number (literalG17_valid value) (toNat_printG17 (h _ rfl))
  | some (.boolean true) =>
    exact ⟨_, codePoints_bytes_chars "true" (by decide) (by decide), Json.prints_true⟩
  | some (.boolean false) =>
    exact ⟨_, codePoints_bytes_chars "false" (by decide) (by decide), Json.prints_false⟩

theorem lineFeed_notMem_of_bare {text : List UInt8} (h : ∀ b ∈ text, Csv.Bare b) :
    (10 : UInt8) ∉ text := fun hmem => (h 10 hmem).2.2.1 rfl

theorem lineFeed_notMem_jsonValue {field : Option FieldValue}
    (h : ∀ value ∈ field, value.Printable) : (10 : UInt8) ∉ jsonValue field := by
  match field with
  | none => decide
  | some (.string text) => exact lineFeed_notMem_jsonString text
  | some (.natural value) => exact lineFeed_notMem_of_bare (bare_decimal value)
  | some (.integer value) => exact lineFeed_notMem_of_bare (bare_signedDecimal value)
  | some (.real value) => exact lineFeed_notMem_of_bare (bare_printG17 (h _ rfl))
  | some (.boolean true) => decide
  | some (.boolean false) => decide

/-! ### The line -/

theorem codePoints_catalogueNames :
    ∀ name ∈ catalogueNames, codePoints (bytes name) = some (chars name) := by
  have hall : ∀ name ∈ catalogueNames,
      PlainAscii (bytes name) ∧ (bytes name).map UInt8.toNat = chars name := by decide +kernel
  exact fun name hname => codePoints_bytes_chars name (hall name hname).1 (hall name hname).2

theorem member_jsonMember {field : String × Option FieldValue}
    (hname : codePoints (bytes field.1) = some (chars field.1))
    (h : ∀ value ∈ field.2, value.Printable) :
    ∃ units, codePoints (jsonMember field) = some units ∧
      Json.PrintsMember units (chars field.1, fieldJson field.2) := by
  obtain ⟨key, hkey, hkeyBody⟩ := codePoints_jsonString hname
  obtain ⟨value, hvalue, hprints⟩ := denotes_jsonValue h
  have hcolon : codePoints [58] = some [58] := codePoints_singleton (by decide)
  refine ⟨_, codePoints_append (codePoints_append hkey hcolon) hvalue, key, value, ?_, hkeyBody,
    hprints⟩
  simp

theorem codePoints_intercalate {texts : List (List UInt8)} {units : List (List ℕ)}
    (h : List.Forall₂ (fun text us => codePoints text = some us) texts units) :
    codePoints (List.intercalate [44] texts) = some (List.intercalate [44] units) := by
  have hcomma : codePoints [44] = some [44] := codePoints_singleton (by decide)
  induction h with
  | nil => exact codePoints_encodeUtf8 []
  | @cons text us texts units htext hrest ih =>
    cases hrest with
    | nil => simpa [List.intercalate] using htext
    | @cons next nextUnits texts units hnext hrest =>
      have hsplit {α : Type} (x y : List α) (xs : List (List α)) (c : α) :
          List.intercalate [c] (x :: y :: xs) = x ++ ([c] ++ List.intercalate [c] (y :: xs)) := by
        simp [List.intercalate]
      rw [hsplit, hsplit]
      exact codePoints_append htext (codePoints_append hcomma ih)

theorem mem_intercalate {α : Type} {x separator : α} {texts : List (List α)}
    (h : x ∈ List.intercalate [separator] texts) : x = separator ∨ ∃ text ∈ texts, x ∈ text := by
  induction texts with
  | nil => simp [List.intercalate] at h
  | cons text texts ih =>
    cases texts with
    | nil => exact .inr ⟨text, by simp, by simpa [List.intercalate] using h⟩
    | cons next texts =>
      have hsplit : List.intercalate [separator] (text :: next :: texts) =
          text ++ separator :: List.intercalate [separator] (next :: texts) := by
        simp [List.intercalate]
      rw [hsplit, List.mem_append, List.mem_cons] at h
      rcases h with h | h | h
      · exact .inr ⟨text, by simp, h⟩
      · exact .inl h
      · rcases ih h with h | ⟨t, ht, hx⟩
        · exact .inl h
        · exact .inr ⟨t, List.mem_cons_of_mem text ht, hx⟩

/-- The members a decoder finds in the line of a record. -/
def recordMembers (record : CanonicalRecord) : List (List ℕ × Json) :=
  (recordFields record).map fun field => (chars field.1, fieldJson field.2)

/-- A decoder of JSON lines: UTF-8, then one JSON value. -/
def parseLine (line : List UInt8) : Option Json := (codePoints line).bind Json.parse

theorem exists_members {fields : List (String × Option FieldValue)}
    (hname : ∀ field ∈ fields, codePoints (bytes field.1) = some (chars field.1))
    (h : ∀ field ∈ fields, ∀ value ∈ field.2, value.Printable) :
    ∃ units, List.Forall₂ (fun text us => codePoints text = some us) (fields.map jsonMember) units ∧
      List.Forall₂ Json.PrintsMember units (fields.map fun f => (chars f.1, fieldJson f.2)) := by
  induction fields with
  | nil => exact ⟨[], .nil, .nil⟩
  | cons field fields ih =>
    simp only [List.forall_mem_cons] at hname h
    obtain ⟨us, hus, hmember⟩ := member_jsonMember hname.1 h.1
    obtain ⟨units, hunits, hmembers⟩ := ih hname.2 h.2
    exact ⟨us :: units, .cons hus hunits, .cons hmember hmembers⟩

theorem parseLine_jsonlLine {record : CanonicalRecord} (h : Accepted record) :
    parseLine (jsonlLine record) = some (.obj (recordMembers record)) := by
  have hname : ∀ field ∈ recordFields record,
      codePoints (bytes field.1) = some (chars field.1) := by
    intro field hfield
    apply codePoints_catalogueNames
    rw [← recordFields_names record]
    exact List.mem_map_of_mem hfield
  obtain ⟨units, hunits, hmembers⟩ := exists_members hname h.printable
  have hne : units ≠ [] := by
    rintro rfl
    simp [recordFields] at hunits
  have hopen : codePoints [123] = some [123] := codePoints_singleton (by decide)
  have hclose : codePoints [125, 10] = some [125, 10] := codePoints_ascii (by simp)
  have hline := codePoints_append (codePoints_append hopen (codePoints_intercalate hunits)) hclose
  have hsplit : [123] ++ List.intercalate [44] units ++ [125, 10] =
      123 :: (List.intercalate [44] units ++ [125]) ++ [10] := by simp
  rw [parseLine, jsonlLine, hline, Option.bind_some, hsplit]
  exact Json.parse_prints (Json.prints_obj hmembers hne)

theorem jsonlLine_body {record : CanonicalRecord} (h : Accepted record) :
    ∃ body, jsonlLine record = body ++ [10] ∧ (10 : UInt8) ∉ body := by
  refine ⟨[123] ++ List.intercalate [44] ((recordFields record).map jsonMember) ++ [125],
    by simp [jsonlLine], ?_⟩
  have hmember : ∀ text ∈ (recordFields record).map jsonMember, (10 : UInt8) ∉ text := by
    intro text htext
    obtain ⟨field, hfield, rfl⟩ := List.mem_map.mp htext
    simp only [jsonMember, List.mem_append, List.mem_singleton, not_or]
    exact ⟨⟨lineFeed_notMem_jsonString _, by decide⟩,
      lineFeed_notMem_jsonValue (h.printable field hfield)⟩
  simp only [List.mem_append, List.mem_singleton, not_or]
  refine ⟨⟨by decide, fun hmem => ?_⟩, by decide⟩
  rcases mem_intercalate hmem with h10 | ⟨text, htext, h10⟩
  · exact absurd h10 (by decide)
  · exact hmember text htext h10

/-! ### The round trip -/

/-- The decoded value carries exactly the field: null when it is absent, the bytes of a string,
the value of an integer, the printed token of a real number. -/
inductive Recovers : Option FieldValue → Json → Prop
  | absent : Recovers none .null
  | string (text : List UInt8) (units : List ℕ) : utf8OfCodePoints units = text →
      Recovers (some (.string text)) (.str units)
  | natural (value : ℕ) (literal : NumberLiteral) : literal.isInteger = true →
      literal.intValue = value → Recovers (some (.natural value)) (.num literal)
  | integer (value : ℤ) (literal : NumberLiteral) : literal.isInteger = true →
      literal.intValue = value → Recovers (some (.integer value)) (.num literal)
  | real (value : Binary64) (literal : NumberLiteral) :
      literal.text = (printG17 value).map UInt8.toNat →
      Recovers (some (.real value)) (.num literal)
  | boolean (value : Bool) : Recovers (some (.boolean value)) (.bool value)

theorem recovers_fieldJson {field : Option FieldValue} (h : ∀ value ∈ field, value.Printable) :
    Recovers field (fieldJson field) := by
  match field with
  | none => exact .absent
  | some (.string text) =>
    obtain ⟨units, hunits⟩ := exists_codePoints (h _ rfl)
    exact .string text _ (by simp [hunits, utf8OfCodePoints_of_codePoints hunits])
  | some (.natural value) =>
    exact .natural value _ (NumberLiteral.ofInt_isInteger _) (NumberLiteral.intValue_ofInt _)
  | some (.integer value) =>
    exact .integer value _ (NumberLiteral.ofInt_isInteger _) (NumberLiteral.intValue_ofInt _)
  | some (.real value) => exact .real value _ (toNat_printG17 (h _ rfl)).symm
  | some (.boolean value) => exact .boolean value

/-- What the line of a record is: every call with room for it writes it, its only line feed is
its last byte, and it is an object with the catalogue keys in order and the record's values. -/
structure JsonlLineOf (record : CanonicalRecord) (line : List UInt8) : Prop where
  written : ∀ destination : Destination, destination.cells.isSome = true →
    line.length < destination.capacity → (serializeJsonlRecord (some record) destination).Holds line
  lineFeed : ∃ body, line = body ++ [10] ∧ (10 : UInt8) ∉ body
  object : ∃ members, parseLine line = some (.obj members) ∧
    members.map Prod.fst = catalogueNames.map chars ∧
    List.Forall₂ (fun field member => Recovers field.2 member.2) (recordFields record) members

theorem jsonlLineOf_jsonlLine {record : CanonicalRecord} (h : Accepted record) :
    JsonlLineOf record (jsonlLine record) where
  written destination hcells hroom := by
    rw [serializeJsonlRecord_accepted h hcells]
    exact builderResult_holds hcells hroom
  lineFeed := jsonlLine_body h
  object := by
    refine ⟨recordMembers record, parseLine_jsonlLine h, ?_, ?_⟩
    · rw [recordMembers, ← recordFields_names record, List.map_map, List.map_map]
      rfl
    rw [recordMembers, List.forall₂_map_right_iff, List.forall₂_same]
    exact fun field hfield => recovers_fieldJson (h.printable field hfield)

/-- Lines that are written one after the other split at their line feeds into the records. -/
theorem jsonl_round_trip (records : List CanonicalRecord)
    (h : ∀ record ∈ records, (canonicalRecordValidate (some record)).1 = .ok) :
    ∃ lines, List.Forall₂ JsonlLineOf records lines ∧ splitLines lines.flatten = lines ∧
      catalogueNames.length = 28 ∧ (catalogueNames.map chars).Nodup := by
  have haccepted (record : CanonicalRecord) (hr : record ∈ records) : Accepted record :=
    canonicalRecordValidate_eq_ok.mp (h record hr)
  refine ⟨records.map jsonlLine, ?_, splitLines_flatten ?_, rfl, catalogueNames_nodup⟩
  · rw [List.forall₂_map_right_iff, List.forall₂_same]
    exact fun record hr => jsonlLineOf_jsonlLine (haccepted record hr)
  · intro line hline
    obtain ⟨record, hr, rfl⟩ := List.mem_map.mp hline
    exact jsonlLine_body (haccepted record hr)

theorem jsonl_round_trip_sample :
    ∃ lines, List.Forall₂ JsonlLineOf [emptyMessageSample, emptyMessageSample] lines ∧
      splitLines lines.flatten = lines ∧
      catalogueNames.length = 28 ∧ (catalogueNames.map chars).Nodup := by
  have hvalid : (canonicalRecordValidate (some emptyMessageSample)).1 = .ok := by decide +kernel
  exact jsonl_round_trip [emptyMessageSample, emptyMessageSample] (by simp [hvalid])

end TcdOran.Collector
