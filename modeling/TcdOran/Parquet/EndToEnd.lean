import TcdOran.Collector.RecordDelivery
import TcdOran.Parquet.Agreement

/-! A record that the pipeline accepts, from the output adapter to the converter's row. -/
namespace TcdOran.Parquet
open TcdOran.Lib
open TcdOran.Collector (CanonicalRecord FieldValue Accepted MeasurementRecord System ThreadId
  canonicalImage recordFields catalogueNames jsonlLine fileSinkSerialize stepAdapterSubmit
  stepSubmit)

/-- The value of a row for a field of a record: none exactly where the field is absent, the same
string, integer or truth value, and of a real number what the printed token denotes. -/
inductive RowValue : Option FieldValue → Option Scalar → Prop
  | absent : RowValue none none
  | string (text : List UInt8) (units : List ℕ) : codePoints text = some units →
      RowValue (some (.string text)) (some (.str units))
  | natural (value : ℕ) : RowValue (some (.natural value)) (some (.int value))
  | integer (value : ℤ) : RowValue (some (.integer value)) (some (.int value))
  | real (value : Binary64) (token : NumberLiteral) (denoted : ℚ) :
      token.text = (printG17 value).map UInt8.toNat →
      nearestBinary64 token.value = some denoted → denoted = value.toRat →
      RowValue (some (.real value)) (some (.float denoted))
  | boolean (value : Bool) : RowValue (some (.boolean value)) (some (.bool value))

theorem rowValue_fieldScalar {field : Option FieldValue}
    (h : ∀ value ∈ field, value.Printable) : RowValue field (fieldScalar field) := by
  match field with
  | none => exact .absent
  | some (.string text) =>
    obtain ⟨units, hunits⟩ := Collector.exists_codePoints (h _ rfl)
    exact .string text _ (by simp [hunits])
  | some (.natural value) => exact .natural value
  | some (.integer value) => exact .integer value
  | some (.real value) =>
    exact .real value (literalG17 value) _ (toNat_printG17 (h _ rfl)).symm
      (nearestBinary64_literalG17 (h _ rfl)) rfl
  | some (.boolean value) => exact .boolean value

/-- What the converter makes of a line: one row with the catalogue's names in order and the
values of the record. -/
def ConvertsTo (line : List UInt8) (record : CanonicalRecord) : Prop :=
  ∃ units row, codePoints line = some units ∧
    (∀ lineNumber, parseRow units lineNumber catalogue = .ok row) ∧
    row.map Prod.fst = catalogueNames.map chars ∧
    List.Forall₂ (fun field entry => RowValue field.2 entry.2) (recordFields record) row

theorem convertsTo_jsonlLine {record : CanonicalRecord} (h : Accepted record)
    (hrule : ConverterRule (typedRowOf record h)) : ConvertsTo (jsonlLine record) record := by
  have hline := Collector.parseLine_jsonlLine h
  simp only [Collector.parseLine, Option.bind_eq_some_iff] at hline
  obtain ⟨units, hunits, hparse⟩ := hline
  have hrow := typedRowOf_toRow record h
  have hsemantics : validateSemantics (typedRowOf record h).toRow = .ok () :=
    (validateSemantics_eq_ok _).mpr ⟨sharedRules_typedRowOf h, hrule⟩
  refine ⟨units, recordRow record, hunits, fun lineNumber => ?_, ?_, ?_⟩
  · exact (parseRow_of_denotes (denotes_typedRowOf h) hparse).mpr ⟨hsemantics, hrow⟩
  · rw [recordRow, ← Collector.recordFields_names record, List.map_map, List.map_map]
    rfl
  · rw [recordRow, List.forall₂_map_right_iff, List.forall₂_same]
    exact fun field hfield => rowValue_fieldScalar (h.printable field hfield)

/-! ### The adapter -/

/-- Every diagnostic that the adapter builds has a message. -/
theorem canonicalImage_message {m : MeasurementRecord}
    (h : (canonicalImage m).recordKind = .diagnostic) :
    (canonicalImage m).hasDiagnosticMessage = true := by
  unfold canonicalImage at h ⊢
  split at h
  · next hm =>
    simp only [Collector.copyMeasurement, Collector.copyMeasuredValue,
      Collector.copyMeasuredName] at h
    split at h <;> split at h <;> cases h
  · next hm => rw [if_neg hm, Collector.copyDiagnostic]

theorem converterRule_canonicalImage {m : MeasurementRecord} (h : Accepted (canonicalImage m)) :
    ConverterRule (typedRowOf (canonicalImage m) h) := by
  intro hdiagnostic
  have hkind : (canonicalImage m).recordKind = .diagnostic :=
    kindText_injective (hdiagnostic.trans (kindText_eq .diagnostic).symm)
  have hmessage : (typedRowOf (canonicalImage m) h).diagnosticMessage = _ :=
    optionalText_of (canonicalImage_message hkind)
  rw [hmessage, Option.isSome_some]

/-- A submission that answers yes has passed the validator. -/
theorem accepted_of_submitted {s s' : System} {thread : ThreadId} {m : MeasurementRecord}
    {contended : Bool} (h : stepAdapterSubmit s thread m contended =
      some (s', [.submitReturned thread (some (canonicalImage m)) true])) :
    Accepted (canonicalImage m) := by
  unfold stepAdapterSubmit stepSubmit at h
  split at h
  · next present hpc hpresent =>
    split at h
    · next hok =>
      simp only [Collector.submitAccepts, Bool.decide_and, Bool.and_eq_true,
        decide_eq_true_eq] at hok
      exact Collector.canonicalRecordValidate_eq_ok.mp hok.1
    · simp at h
  · simp at h
  · simp at h

/-- The file sink prints every record that the pipeline accepts, and the converter reads the
line as the values of the record. -/
theorem accepted_record_converts (s s' : System) (thread : ThreadId) (m : MeasurementRecord)
    (contended : Bool)
    (h : stepAdapterSubmit s thread m contended =
      some (s', [.submitReturned thread (some (canonicalImage m)) true])) :
    (fileSinkSerialize .jsonl (canonicalImage m)).result = .ok ∧
    ConvertsTo (fileSinkSerialize .jsonl (canonicalImage m)).written (canonicalImage m) := by
  have haccepted := accepted_of_submitted h
  have hok := Collector.fileSinkSerialize_ok haccepted .jsonl
  have hwritten : (fileSinkSerialize .jsonl (canonicalImage m)).written =
      jsonlLine (canonicalImage m) := Collector.fileSinkSerialize_written haccepted rfl hok
  refine ⟨hok, ?_⟩
  rw [hwritten]
  exact convertsTo_jsonlLine haccepted (converterRule_canonicalImage haccepted)

/-- A named real number reaches the converter. -/
theorem accepted_record_converts_sample :
    let m := Collector.singlePairRecord (.name (.ofList (bytes "DRB.UEThpDl")))
      (.real ⟨false, 1023, 0⟩)
    (fileSinkSerialize .jsonl (canonicalImage m)).result = .ok ∧
    ConvertsTo (fileSinkSerialize .jsonl (canonicalImage m)).written (canonicalImage m) := by
  intro m
  have hok : (Collector.canonicalRecordValidate (some (canonicalImage m))).1 = .ok := by
    decide +kernel
  have haccepted : Accepted (canonicalImage m) := Collector.canonicalRecordValidate_eq_ok.mp hok
  have hready : Collector.ReadyFor (System.start Collector.zeroPipeline) 0 :=
    ⟨rfl, rfl, rfl, by decide⟩
  exact accepted_record_converts _ _ 0 m false
    ((Collector.stepAdapterSubmit_ready hready m).1 haccepted)

end TcdOran.Parquet
