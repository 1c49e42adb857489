import TcdOran.Collector.Catalogue
import TcdOran.Lib.Csv

/-! The CSV file read back by an RFC 4180 decoder. -/
namespace TcdOran.Collector
open TcdOran.Lib

/-- What a decoder recovers of a field: a string in a quoted cell, anything else in a bare one
that holds its printed token. -/
def fieldCell : Option FieldValue → Csv.Cell
  | none => ⟨false, []⟩
  | some (.string text) => ⟨true, text⟩
  | some value => ⟨false, numberText value⟩

theorem bare_of_digit {u : ℕ} (h : isDigit u = true) : Csv.Bare (UInt8.ofNat u) := by
  have hall : ∀ n : Fin 58, 48 ≤ n.val → Csv.Bare (UInt8.ofNat n.val) := by decide
  simp only [isDigit, decide_eq_true_eq] at h
  exact hall ⟨u, by omega⟩ h.1

theorem bare_of_numberUnit {u : ℕ} (h : NumberLiteral.IsNumberUnit u) :
    Csv.Bare (UInt8.ofNat u) := by
  rcases h with rfl | rfl | rfl | rfl | rfl | h
  iterate 5 decide
  · exact bare_of_digit h

theorem bare_decimal (n : ℕ) : ∀ b ∈ decimal n, Csv.Bare b := by
  intro b hb
  obtain ⟨u, hu, rfl⟩ := List.mem_map.mp hb
  exact bare_of_digit (isDigit_of_mem_decimalUnits hu)

theorem bare_signedDecimal (z : ℤ) : ∀ b ∈ signedDecimal z, Csv.Bare b := by
  intro b hb
  unfold signedDecimal at hb
  split at hb
  · rcases List.mem_cons.mp hb with rfl | hb
    · decide
    · exact bare_decimal _ b hb
  · exact bare_decimal _ b hb

theorem bare_printG17 {x : Binary64} (h : x.isFinite = true) : ∀ b ∈ printG17 x, Csv.Bare b := by
  intro b hb
  rw [printG17, if_pos h] at hb
  obtain ⟨u, hu, rfl⟩ := List.mem_map.mp hb
  exact bare_of_numberUnit (NumberLiteral.isNumberUnit_of_mem_text (literalG17_valid x) hu)

/-- The cell of a printable field is what the decoder reads from its text. -/
theorem writes_csvCell {field : Option FieldValue} (h : ∀ value ∈ field, value.Printable) :
    Csv.Writes (csvCell field) (fieldCell field) := by
  match field with
  | none => exact Csv.writes_bare fun _ hb => absurd hb List.not_mem_nil
  | some (.string text) => exact Csv.writes_quoted text
  | some (.natural n) => exact Csv.writes_bare (bare_decimal n)
  | some (.integer z) => exact Csv.writes_bare (bare_signedDecimal z)
  | some (.real x) => exact Csv.writes_bare (bare_printG17 (h _ rfl))
  | some (.boolean true) => exact Csv.writes_bare (Csv.bare_of_all (by decide))
  | some (.boolean false) => exact Csv.writes_bare (Csv.bare_of_all (by decide))

def recordCells (record : CanonicalRecord) : List Csv.Cell :=
  (recordFields record).map fun field => fieldCell field.2

def headerCells : List Csv.Cell := catalogueNames.map fun name => ⟨false, bytes name⟩

theorem run_csvLine {record : CanonicalRecord} (h : Accepted record)
    (rows : List (List Csv.Cell)) :
    (Csv.Decoder.mk rows [] .start).run (csvLine record) =
      some ⟨rows ++ [recordCells record], [], .start⟩ := by
  have hcells : List.Forall₂ Csv.Writes ((recordFields record).map fun field => csvCell field.2)
      (recordCells record) := by
    rw [recordCells, List.forall₂_map_left_iff, List.forall₂_map_right_iff, List.forall₂_same]
    exact fun field hfield => writes_csvCell (h.printable field hfield)
  exact Csv.run_row hcells (by simp [recordFields]) rows []

theorem csvHeader_eq :
    bytes csvHeader = List.intercalate [44] (catalogueNames.map bytes) ++ [10] := by
  decide +kernel

theorem bare_catalogueNames : ∀ name ∈ catalogueNames, ∀ b ∈ bytes name, Csv.Bare b := by
  decide +kernel

theorem run_csvHeader (rows : List (List Csv.Cell)) :
    (Csv.Decoder.mk rows [] .start).run (bytes csvHeader) =
      some ⟨rows ++ [headerCells], [], .start⟩ := by
  have hcells : List.Forall₂ Csv.Writes (catalogueNames.map bytes) headerCells := by
    rw [headerCells, List.forall₂_map_left_iff, List.forall₂_map_right_iff, List.forall₂_same]
    exact fun name hname => Csv.writes_bare (bare_catalogueNames name hname)
  rw [csvHeader_eq]
  exact Csv.run_row hcells (by simp [catalogueNames]) rows []

theorem decimal_ne_nil (n : ℕ) : decimal n ≠ [] := by
  simpa [decimal] using decimalUnits_ne_nil n

theorem signedDecimal_ne_nil (z : ℤ) : signedDecimal z ≠ [] := by
  unfold signedDecimal
  split
  · simp
  · exact decimal_ne_nil _

theorem printG17_ne_nil {x : Binary64} (h : x.isFinite = true) : printG17 x ≠ [] := by
  obtain ⟨u, us, hds⟩ := List.exists_cons_of_ne_nil (literalG17_valid x).integer_ne_nil
  rw [printG17, if_pos h, Ne, List.map_eq_nil_iff, NumberLiteral.text, hds]
  simp

/-- An empty bare cell is an absent field: a string is quoted and a number is not empty. -/
theorem fieldCell_eq_empty_iff {field : Option FieldValue}
    (h : ∀ value ∈ field, value.Printable) : fieldCell field = ⟨false, []⟩ ↔ field = none := by
  match field with
  | none => simp [fieldCell]
  | some (.string text) => simp [fieldCell]
  | some (.natural n) => simp [fieldCell, numberText, decimal_ne_nil]
  | some (.integer z) => simp [fieldCell, numberText, signedDecimal_ne_nil]
  | some (.real x) => simp [fieldCell, numberText, printG17_ne_nil (h _ rfl)]
  | some (.boolean true) => simpa [fieldCell, numberText] using by decide
  | some (.boolean false) => simpa [fieldCell, numberText] using by decide

/-- What the row of a record is: every call with room for it writes it, and the decoder gets
from it one cell for each catalogue name, an empty bare one exactly for an absent field. -/
structure CsvRowOf (record : CanonicalRecord) (row : List UInt8) : Prop where
  written : ∀ destination : Destination, destination.cells.isSome = true →
    row.length < destination.capacity → (serializeCsvRecord (some record) destination).Holds row
  names : (recordFields record).map Prod.fst = catalogueNames
  count : (recordCells record).length = 28
  cells : Csv.decode row = some [recordCells record]
  absent : ∀ field ∈ recordFields record, fieldCell field.2 = ⟨false, []⟩ ↔ field.2 = none

theorem csvRowOf_csvLine {record : CanonicalRecord} (h : Accepted record) :
    CsvRowOf record (csvLine record) where
  written destination hcells hroom := by
    rw [serializeCsvRecord_accepted h hcells]
    exact builderResult_holds hcells hroom
  names := rfl
  count := rfl
  cells := by simpa using Csv.decode_rows (.cons (run_csvLine h) .nil)
  absent field hfield := fieldCell_eq_empty_iff (h.printable field hfield)

/-- Header and rows, decoded, are the catalogue names and the fields of the records in order. -/
theorem csv_round_trip (records : List CanonicalRecord)
    (h : ∀ record ∈ records, (canonicalRecordValidate (some record)).1 = .ok) :
    ∃ header rows,
      (∀ destination : Destination, destination.cells.isSome = true →
        header.length < destination.capacity → (serializeCsvHeader destination).Holds header) ∧
      List.Forall₂ CsvRowOf records rows ∧
      Csv.decode header = some [headerCells] ∧
      Csv.decode (header ++ rows.flatten) = some (headerCells :: records.map recordCells) := by
  have haccepted (record : CanonicalRecord) (hr : record ∈ records) : Accepted record :=
    canonicalRecordValidate_eq_ok.mp (h record hr)
  have hrows : List.Forall₂ (fun line row => ∀ rows, (Csv.Decoder.mk rows [] .start).run line =
      some ⟨rows ++ [row], [], .start⟩) (records.map csvLine) (records.map recordCells) := by
    rw [List.forall₂_map_left_iff, List.forall₂_map_right_iff, List.forall₂_same]
    exact fun record hr => run_csvLine (haccepted record hr)
  refine ⟨bytes csvHeader, records.map csvLine, fun destination hcells hroom => ?_, ?_, ?_, ?_⟩
  · have hsome : ¬ (destination.cells = none ∧ destination.capacity ≠ 0) := by
      rintro ⟨hnone, -⟩
      simp [hnone] at hcells
    rw [serializeCsvHeader, if_neg hsome, builderInit_eq, appends_literal, List.nil_append]
    exact builderResult_holds hcells hroom
  · rw [List.forall₂_map_right_iff, List.forall₂_same]
    exact fun record hr => csvRowOf_csvLine (haccepted record hr)
  · have hheader := Csv.decode_rows (.cons run_csvHeader .nil)
    rwa [List.flatten_singleton] at hheader
  · have hall := Csv.decode_rows (.cons run_csvHeader hrows)
    rwa [List.flatten_cons] at hall

/-- A diagnostic whose node type is absent and whose message is present and empty. -/
def emptyMessageSample : CanonicalRecord :=
  { canonicalRecordInit with
    recordKind := .diagnostic
    ueIdType := canonicalRecordInit.ueIdType.store (bytes "unknown")
    structuralStatus := .invalidInput
    hasDiagnosticCode := true
    diagnosticCode := canonicalRecordInit.diagnosticCode.store (bytes "a\"b,\n")
    hasDiagnosticMessage := true }

theorem csv_round_trip_sample :
    ∃ header rows,
      (∀ destination : Destination, destination.cells.isSome = true →
        header.length < destination.capacity → (serializeCsvHeader destination).Holds header) ∧
      List.Forall₂ CsvRowOf [emptyMessageSample, emptyMessageSample] rows ∧
      Csv.decode header = some [headerCells] ∧
      Csv.decode (header ++ rows.flatten) =
        some [headerCells, recordCells emptyMessageSample, recordCells emptyMessageSample] := by
  have hvalid : (canonicalRecordValidate (some emptyMessageSample)).1 = .ok := by decide +kernel
  exact csv_round_trip [emptyMessageSample, emptyMessageSample] (by simp [hvalid])

end TcdOran.Collector
