import TcdOran.Collector.Catalogue

/-! The line of an accepted record fits the local array that the file sink prints to. -/
namespace TcdOran.Collector
open TcdOran.Lib

/-! ### Values -/

theorem length_jsonEscape_le (b : UInt8) : (jsonEscape b).length ≤ 6 := by
  unfold jsonEscape
  split_ifs <;> simp

theorem length_csvEscape_le (b : UInt8) : (csvEscape b).length ≤ (jsonEscape b).length := by
  unfold csvEscape jsonEscape
  split_ifs <;> simp

theorem length_flatMap_le {f : UInt8 → List UInt8} {k : ℕ} (h : ∀ b, (f b).length ≤ k)
    (text : List UInt8) : (text.flatMap f).length ≤ k * text.length := by
  induction text with
  | nil => simp
  | cons b text ih =>
    have hb := h b
    rw [List.flatMap_cons, List.length_append, List.length_cons, Nat.mul_add, Nat.mul_one]
    omega

theorem length_flatMap_mono {f g : UInt8 → List UInt8} (h : ∀ b, (f b).length ≤ (g b).length)
    (text : List UInt8) : (text.flatMap f).length ≤ (text.flatMap g).length := by
  induction text with
  | nil => simp
  | cons b text ih =>
    have hb := h b
    rw [List.flatMap_cons, List.flatMap_cons, List.length_append, List.length_append]
    omega

theorem length_jsonString_le (text : List UInt8) :
    (jsonString text).length ≤ 6 * text.length + 2 := by
  have h := length_flatMap_le length_jsonEscape_le text
  simp only [jsonString, List.length_append, List.length_singleton]
  omega

theorem length_csvCell_le (field : Option FieldValue) :
    (csvCell field).length ≤ (jsonValue field).length := by
  match field with
  | none => simp [csvCell]
  | some (.string text) =>
    have h := length_flatMap_mono length_csvEscape_le text
    simp only [csvCell, jsonValue, csvString, jsonString, List.length_append,
      List.length_singleton]
    omega
  | some (.natural value) => exact le_rfl
  | some (.integer value) => exact le_rfl
  | some (.real value) => exact le_rfl
  | some (.boolean value) => exact le_rfl

theorem length_optionalField {present : Bool} {value : FieldValue} {k : ℕ} (hk : 4 ≤ k)
    (h : present = true → (jsonValue (some value)).length ≤ k) :
    (jsonValue (optionalField present value)).length ≤ k := by
  cases present
  · exact hk
  · exact h rfl

theorem length_u32 (v : UInt32) : (jsonValue (some (.natural v.toNat))).length ≤ 10 :=
  length_decimal_le (by norm_num) (v.toNat_lt.trans (by norm_num))

theorem length_u64 (v : UInt64) : (jsonValue (some (.natural v.toNat))).length ≤ 20 :=
  length_decimal_le (by norm_num) (v.toNat_lt.trans (by norm_num))

theorem length_i64 (v : Int64) : (jsonValue (some (.integer v.toInt))).length ≤ 21 := by
  have hlt := v.toInt_lt
  have hle := v.le_toInt
  exact length_signedDecimal_le (by norm_num) (by omega)

theorem length_boolean (v : Bool) : (jsonValue (some (.boolean v))).length ≤ 5 := by
  cases v <;> decide

theorem length_array {n : ℕ} {value : CharArray n} (h : value.Terminated) :
    (jsonValue (some (.string value.cString))).length ≤ 6 * n := by
  have hlt := CharArray.length_cString_lt h
  have hle := length_jsonString_le value.cString
  rw [jsonValue_string]
  omega

/-- The longest names of the enumerations. -/
theorem length_names (record : CanonicalRecord) :
    (jsonValue (some (.string (nameOrEmpty (recordKindName record.recordKind))))).length ≤ 13 ∧
    (jsonValue (some (.string
      (nameOrEmpty (structuralStatusName record.structuralStatus))))).length ≤ 24 ∧
    (jsonValue (some (.string
      (nameOrEmpty (descriptorTypeName record.descriptorType))))).length ≤ 9 ∧
    (jsonValue (some (.string (nameOrEmpty (valueTypeName record.valueType))))).length ≤ 10 := by
  refine ⟨?_, ?_, ?_, ?_⟩
  · cases record.recordKind <;> decide
  · cases record.structuralStatus <;> decide
  · cases record.descriptorType <;> decide
  · cases record.valueType <;> decide

/-! ### The line -/

/-- The room each value needs at most, in the order of the catalogue. -/
def valueBounds : List ℕ :=
  [35, 13, 20, 20, 20, 10, 6 * nodeTypeCapacity, 6 * nodeIdCapacity, 10, 6 * ueIdTypeCapacity,
   6 * ueIdValueCapacity, 10, 10, 10, 10, 10, 10, 5, 5, 24, 9, 6 * measurementNameCapacity, 10, 10,
   21, 24, 6 * diagnosticCodeCapacity, 6 * diagnosticMessageCapacity]

theorem recordFields_bounds {record : CanonicalRecord} (h : Accepted record) :
    List.Forall₂ (fun field bound => (jsonValue field.2).length ≤ bound) (recordFields record)
      valueBounds := by
  obtain ⟨hkind, hstatus, hdescriptor, hvalue⟩ := length_names record
  have hc := h.common
  have hu32 (present : Bool) (v : UInt32) :
      (jsonValue (optionalField present (.natural v.toNat))).length ≤ 10 :=
    length_optionalField (by norm_num) fun _ => length_u32 v
  simp only [recordFields, valueBounds, List.forall₂_cons, List.forall₂_nil_left_iff, and_true]
  exact ⟨by decide, hkind, length_u64 _, length_u64 _,
    length_optionalField (by norm_num) fun _ => length_u64 _, length_u32 _,
    length_optionalField (by norm_num) fun hp => length_array (hc.nodeType hp).1,
    length_optionalField (by norm_num) fun hp => length_array (hc.nodeId hp).1,
    hu32 _ _, length_array hc.ueIdType.1,
    length_optionalField (by norm_num) fun hp => length_array (hc.ueIdValue hp).1,
    hu32 _ _, hu32 _ _, hu32 _ _, length_u32 _, length_u32 _, length_u32 _, length_boolean _,
    length_optionalField (by norm_num) fun _ => length_boolean _, hstatus, hdescriptor,
    length_optionalField (by norm_num) fun hp => length_array (hc.measurementName hp).1,
    hu32 _ _, hvalue, length_optionalField (by norm_num) fun _ => length_i64 _,
    length_optionalField (by norm_num) fun _ => length_printG17_le _,
    length_optionalField (by norm_num) fun hp => length_array (hc.diagnosticCode hp).1,
    length_optionalField (by norm_num) fun hp => length_array (hc.diagnosticMessage hp).1⟩

theorem length_intercalate_le (separator : UInt8) (texts : List (List UInt8)) :
    (List.intercalate [separator] texts).length ≤ (texts.map fun text => text.length + 1).sum := by
  induction texts with
  | nil => simp [List.intercalate]
  | cons text texts ih =>
    cases texts with
    | nil => simp [List.intercalate]
    | cons next texts =>
      have hsplit : List.intercalate [separator] (text :: next :: texts) =
          text ++ separator :: List.intercalate [separator] (next :: texts) := by
        simp [List.intercalate]
      rw [hsplit, List.length_append, List.length_cons, List.map_cons, List.sum_cons]
      omega

/-- The keys with their quotes and colons. -/
def keyLength (name : String) : ℕ := (jsonString (bytes name)).length + 1

theorem sum_members_le {fields : List (String × Option FieldValue)} {bounds : List ℕ}
    (h : List.Forall₂ (fun field bound => (jsonValue field.2).length ≤ bound) fields bounds) :
    ((fields.map jsonMember).map fun text => text.length + 1).sum ≤
      ((fields.map Prod.fst).map fun name => keyLength name + 1).sum + bounds.sum := by
  induction h with
  | nil => simp
  | @cons field bound fields bounds hfield _ ih =>
    have hmember : (jsonMember field).length ≤ keyLength field.1 + bound := by
      simp only [jsonMember, keyLength, List.length_append, List.length_singleton]
      omega
    simp only [List.map_cons, List.sum_cons] at ih ⊢
    omega

theorem sum_cells_le {fields : List (String × Option FieldValue)} {bounds : List ℕ}
    (h : List.Forall₂ (fun field bound => (jsonValue field.2).length ≤ bound) fields bounds) :
    ((fields.map fun field => csvCell field.2).map fun text => text.length + 1).sum ≤
      bounds.sum + fields.length := by
  induction h with
  | nil => simp
  | @cons field bound fields bounds hfield _ ih =>
    have hcell := length_csvCell_le field.2
    simp only [List.map_cons, List.sum_cons, List.length_cons] at ih ⊢
    omega

theorem length_jsonlLine_lt {record : CanonicalRecord} (h : Accepted record) :
    (jsonlLine record).length < serializedRecordCapacity := by
  have hnames : (catalogueNames.map fun name => keyLength name + 1).sum ≤ 600 := by decide +kernel
  have hsum := sum_members_le (recordFields_bounds h)
  have hbounds : valueBounds.sum ≤ 5800 := by decide
  have hline := length_intercalate_le 44 ((recordFields record).map jsonMember)
  rw [recordFields_names] at hsum
  simp only [jsonlLine, List.length_append, List.length_cons, List.length_nil,
    serializedRecordCapacity]
  omega

/-- A row is never longer than the line of the same record. -/
theorem length_csvLine_lt {record : CanonicalRecord} (h : Accepted record) :
    (csvLine record).length < serializedRecordCapacity := by
  have hbounds : valueBounds.sum ≤ 5800 := by decide
  have hsum := sum_cells_le (recordFields_bounds h)
  have hline := length_intercalate_le 44 ((recordFields record).map fun field => csvCell field.2)
  rw [recordFields_length] at hsum
  simp only [csvLine, List.length_append, List.length_singleton, serializedRecordCapacity]
  omega

/-! ### The sink -/

/-- An accepted record is never refused for want of room. -/
theorem fileSinkSerialize_ok {record : CanonicalRecord} (h : Accepted record)
    (format : FileSinkFormat) : (fileSinkSerialize format record).result = .ok := by
  have hcells : serializeBuffer.cells.isSome := rfl
  unfold fileSinkSerialize
  rw [serializeCsvRecord_accepted h hcells, serializeJsonlRecord_accepted h hcells]
  split
  · exact (builderResult_holds hcells (length_csvLine_lt h)).1
  · exact (builderResult_holds hcells (length_jsonlLine_lt h)).1

theorem serializeJsonlRecord_buffer {record : CanonicalRecord} (h : Accepted record) :
    (serializeJsonlRecord (some record) serializeBuffer).Holds (jsonlLine record) := by
  have hcells : serializeBuffer.cells.isSome := rfl
  rw [serializeJsonlRecord_accepted h hcells]
  exact builderResult_holds hcells (length_jsonlLine_lt h)

/-- Both serializers, called with any buffer they take, report a length below the capacity. -/
structure FitsLine (record : CanonicalRecord) (destination : Destination) : Prop where
  csv : ∃ length, (serializeCsvRecord (some record) destination).requiredLength = some length ∧
    length < serializedRecordCapacity
  jsonl : ∃ length, (serializeJsonlRecord (some record) destination).requiredLength = some length ∧
    length < serializedRecordCapacity

theorem requiredLength_render_lt {text : List UInt8} (destination : Destination)
    (h : text.length < serializedRecordCapacity) :
    ∃ length, (builderResult (render destination text)).requiredLength = some length ∧
      length < serializedRecordCapacity :=
  ⟨min text.length sizeMax, rfl, (Nat.min_le_left _ _).trans_lt h⟩

theorem fitsLine_of_accepted {record : CanonicalRecord} (h : Accepted record)
    {destination : Destination} (hsome : ¬ (destination.cells = none ∧ destination.capacity ≠ 0)) :
    FitsLine record destination where
  csv := by
    rw [serializeCsvRecord, serializeChecked_eq h (appends_csvLine record) hsome]
    exact requiredLength_render_lt destination (length_csvLine_lt h)
  jsonl := by
    rw [serializeJsonlRecord, serializeChecked_eq h (appends_jsonlLine record) hsome]
    exact requiredLength_render_lt destination (length_jsonlLine_lt h)

theorem writeAndFlush_ne_serializeFailed (sink : FileSink) (data : List UInt8)
    (outcome : WriteOutcome) : (writeAndFlush sink data outcome).1 ≠ .serializeFailed := by
  unfold writeAndFlush
  split
  · simp
  · split <;> simp

theorem fileSinkWrite_ne_serializeFailed {record : CanonicalRecord} (h : Accepted record)
    (sink : FileSink) (outcome : WriteOutcome) :
    (fileSinkWrite sink record outcome).1 ≠ .serializeFailed := by
  unfold fileSinkWrite
  split
  · simp
  split
  · simp
  have hok := fileSinkSerialize_ok h sink.format
  have hne := writeAndFlush_ne_serializeFailed sink (fileSinkSerialize sink.format record).written
    outcome
  simp only [hok, ne_eq, not_true_eq_false, if_false]
  split
  · simp
  · next hwrite => rwa [hwrite] at hne

/-- A record that passes the validation fits the local array of the sink, and no write of it fails
for want of room. -/
theorem valid_record_fits (record : CanonicalRecord)
    (h : (canonicalRecordValidate (some record)).1 = .ok) :
    (∀ destination : Destination, ¬ (destination.cells = none ∧ destination.capacity ≠ 0) →
      FitsLine record destination) ∧
      ∀ (sink : FileSink) (outcome : WriteOutcome),
        (fileSinkWrite sink record outcome).1 ≠ .serializeFailed :=
  have haccepted := canonicalRecordValidate_eq_ok.mp h
  ⟨fun _ hsome => fitsLine_of_accepted haccepted hsome, fileSinkWrite_ne_serializeFailed haccepted⟩

theorem valid_record_fits_sample : FitsLine diagnosticSample serializeBuffer :=
  (valid_record_fits diagnosticSample (by decide +kernel)).1 serializeBuffer (by simp [serializeBuffer])

end TcdOran.Collector
