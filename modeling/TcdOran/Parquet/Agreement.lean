import TcdOran.Collector.LineLength
import TcdOran.Parquet.ImageRow

/-! Which typed rows the converter accepts and which are the line of an accepted record. -/
namespace TcdOran.Parquet
open TcdOran.Lib
open TcdOran.Collector (CanonicalRecord Accepted RecordKind StructuralStatus DescriptorType
  ValueType Destination canonicalRecordValidate serializeJsonlRecord parseLine jsonlLine
  recordMembers FieldValue optionalField)

/-! ### A row determines its values -/

theorem textScalar_injective {n : ℕ} : Function.Injective (textScalar : CText n → Scalar) := by
  intro a b h
  have hunits : a.units = b.units := Scalar.str.inj h
  have hbytes : a.bytes = b.bytes := by
    rw [← utf8OfCodePoints_of_codePoints a.encoded, ← utf8OfCodePoints_of_codePoints b.encoded,
      hunits]
  obtain ⟨_, _, _, _, _⟩ := a
  obtain ⟨_, _, _, _, _⟩ := b
  cases hunits
  cases hbytes
  rfl

theorem u32Scalar_injective : Function.Injective u32Scalar := fun _ _ h => u32Scalar_inj.mp h

theorem u64Scalar_injective : Function.Injective u64Scalar := by
  intro a b h
  have hnat : a.toNat = b.toNat := by simpa [u64Scalar] using h
  exact UInt64.toNat_inj.mp hnat

theorem i64Scalar_injective : Function.Injective i64Scalar :=
  fun _ _ h => Int64.toInt_inj.mp (Scalar.int.inj h)

theorem realScalar_injective : Function.Injective realScalar := by
  rintro ⟨a, _⟩ ⟨b, _⟩ h
  cases Scalar.float.inj h
  rfl

theorem boolScalar_injective : Function.Injective Scalar.bool := fun _ _ h => Scalar.bool.inj h

theorem toRow_injective : Function.Injective TypedRow.toRow := by
  intro r s h
  have htext {n : ℕ} : Function.Injective (Option.map (textScalar : CText n → Scalar)) :=
    Option.map_injective textScalar_injective
  have hu32 := Option.map_injective u32Scalar_injective
  have hu64 := Option.map_injective u64Scalar_injective
  have hi64 := Option.map_injective i64Scalar_injective
  have hreal := Option.map_injective realScalar_injective
  have hbool := Option.map_injective boolScalar_injective
  simp only [TypedRow.toRow, List.cons.injEq, Prod.mk.injEq, true_and, and_true, Option.some.injEq,
    Scalar.str.injEq, Scalar.bool.injEq, htext.eq_iff, hu32.eq_iff, hu64.eq_iff, hi64.eq_iff,
    hreal.eq_iff, hbool.eq_iff, textScalar_injective.eq_iff, u32Scalar_injective.eq_iff,
    u64Scalar_injective.eq_iff] at h
  cases r
  cases s
  simp_all only

/-! ### Rows of accepted records -/

/-- The row is what the line of some accepted record denotes. -/
def IsImage (r : TypedRow) : Prop :=
  ∃ record line members, (canonicalRecordValidate (some record)).1 = .ok ∧
    (∃ destination : Destination, (serializeJsonlRecord (some record) destination).Holds line) ∧
    parseLine line = some (.obj members) ∧ Denotes members r

theorem IsImage.rules {r : TypedRow} (h : IsImage r) : SharedRules r ∧ CollectorRule r := by
  obtain ⟨record, line, members, hok, ⟨destination, hholds⟩, hparse, hdenotes⟩ := h
  have haccepted : Accepted record := Collector.canonicalRecordValidate_eq_ok.mp hok
  rw [Collector.serializeJsonlRecord_holds_eq haccepted hholds,
    Collector.parseLine_jsonlLine haccepted, Option.some.injEq, Json.obj.injEq] at hparse
  subst hparse
  have hrow := (denotes_recordMembers haccepted).mp hdenotes
  obtain rfl : typedRowOf record haccepted = r :=
    toRow_injective ((typedRowOf_toRow record haccepted).symm.trans hrow)
  exact ⟨sharedRules_typedRowOf haccepted, collectorRule_typedRowOf haccepted⟩

theorem isImage_of_row {r : TypedRow} {record : CanonicalRecord} (h : Accepted record)
    (hrow : recordRow record = r.toRow) : IsImage r :=
  ⟨record, jsonlLine record, recordMembers record, Collector.canonicalRecordValidate_eq_ok.mpr h,
    ⟨_, Collector.serializeJsonlRecord_buffer h⟩, Collector.parseLine_jsonlLine h,
    (denotes_recordMembers h).mpr hrow⟩

/-! ### A record for a row -/

def CText.array {n : ℕ} (text : CText n) : Lib.CharArray n :=
  CharArray.store (Vector.replicate n 0) text.bytes

def arrayOf {n : ℕ} (text : Option (CText n)) : Lib.CharArray n :=
  (text.map CText.array).getD (Vector.replicate n 0)

section
variable {n : ℕ}

theorem CText.cString_array (text : CText n) : text.array.cString = text.bytes := by
  have hfits := text.fits
  rw [CText.array, CharArray.cString_store _ (by omega) text.nul_free,
    List.take_of_length_le (by omega)]

theorem CText.validString_array (text : CText n) : Collector.ValidString text.array := by
  have hfits := text.fits
  refine ⟨CharArray.terminated_store _ _ (by omega), ?_⟩
  have hencoded := text.encoded
  simp only [codePoints, Option.map_eq_some_iff, decodeUtf8_eq_some_iff] at hencoded
  obtain ⟨cs, hcs, -⟩ := hencoded
  exact ⟨cs, text.cString_array.trans hcs⟩

theorem validString_arrayOf {text : Option (CText n)} (h : text.isSome = true) :
    Collector.ValidString (arrayOf text) := by
  obtain ⟨t, rfl⟩ := Option.isSome_iff_exists.mp h
  exact t.validString_array

theorem CText.bytes_ne_nil {text : CText n} (h : text.units ≠ []) : text.array.cString ≠ [] :=
  fun hnil => h ((codePoints_eq_nil_iff text.encoded).mpr (text.cString_array.symm.trans hnil))

theorem fieldScalar_text (text : CText n) :
    fieldScalar (some (.string text.array.cString)) = some (textScalar text) := by
  simp only [fieldScalar, text.cString_array, text.encoded, Option.getD_some, textScalar]

theorem fieldScalar_optionalText (text : Option (CText n)) :
    fieldScalar (optionalField text.isSome (.string (arrayOf text).cString)) =
      text.map textScalar := by
  cases text with
  | none => rfl
  | some t => exact fieldScalar_text t

theorem fieldScalar_optional {α : Type} {f : α → Scalar} {g : α → FieldValue} (value : Option α)
    (default : α) (h : ∀ a, fieldScalar (some (g a)) = some (f a)) :
    fieldScalar (optionalField value.isSome (g (value.getD default))) = value.map f := by
  cases value with
  | none => rfl
  | some a => exact h a

end

/-- A record with the values of the row. -/
def imageRecord (r : TypedRow) (kind : RecordKind) (status : StructuralStatus)
    (descriptor : DescriptorType) (value : ValueType) (real : Binary64) : CanonicalRecord where
  recordKind := kind
  indicationSequence := r.indicationSequence
  receiveTimestampUs := r.receiveTimestampUs
  hasKpmHeaderTimestampUs := r.kpmHeaderTimestampUs.isSome
  kpmHeaderTimestampUs := r.kpmHeaderTimestampUs.getD 0
  messageFormat := r.messageFormat
  hasNodeType := r.nodeType.isSome
  nodeType := arrayOf r.nodeType
  hasNodeId := r.nodeId.isSome
  nodeId := arrayOf r.nodeId
  hasUeReportIndex := r.ueReportIndex.isSome
  ueReportIndex := r.ueReportIndex.getD 0
  ueIdType := r.ueIdType.array
  hasUeIdValue := r.ueIdValue.isSome
  ueIdValue := arrayOf r.ueIdValue
  hasMeasDataIndex := r.measDataIndex.isSome
  measDataIndex := r.measDataIndex.getD 0
  hasMeasInfoIndex := r.measInfoIndex.isSome
  measInfoIndex := r.measInfoIndex.getD 0
  hasMeasRecordIndex := r.measRecordIndex.isSome
  measRecordIndex := r.measRecordIndex.getD 0
  measDataLstLen := r.measDataLstLen
  measInfoLstLen := r.measInfoLstLen
  measRecordLen := r.measRecordLen
  incompleteFlagPresent := r.incompleteFlagPresent
  incompleteFlag := r.incompleteFlag.getD false
  structuralStatus := status
  descriptorType := descriptor
  hasMeasurementName := r.measurementName.isSome
  measurementName := arrayOf r.measurementName
  hasMeasurementId := r.measurementId.isSome
  measurementId := r.measurementId.getD 0
  valueType := value
  hasIntegerValue := r.integerValue.isSome
  integerValue := r.integerValue.getD 0
  hasRealValue := r.realValue.isSome
  realValue := real
  hasDiagnosticCode := r.diagnosticCode.isSome
  diagnosticCode := arrayOf r.diagnosticCode
  hasDiagnosticMessage := r.diagnosticMessage.isSome
  diagnosticMessage := arrayOf r.diagnosticMessage

theorem exists_real (value : Option FiniteReal) :
    ∃ real : Binary64, ∀ v ∈ value, real.isFinite = true ∧ real.toRat = v.value := by
  cases value with
  | none => exact ⟨⟨false, 0, 0⟩, by simp⟩
  | some v =>
    obtain ⟨real, hreal⟩ := v.finite
    refine ⟨real, fun w hw => ?_⟩
    cases Option.some.inj hw
    exact hreal

section
variable {r : TypedRow} {kind : RecordKind} {status : StructuralStatus}
  {descriptor : DescriptorType} {value : ValueType} {real : Binary64}

/-- The enumerations and the real number that a row names. -/
structure Names (r : TypedRow) (kind : RecordKind) (status : StructuralStatus)
    (descriptor : DescriptorType) (value : ValueType) (real : Binary64) : Prop where
  kind_valid : kind ≠ .invalid
  status_valid : status ≠ .invalid
  descriptor_valid : descriptor ≠ .invalid
  value_valid : value ≠ .invalid
  kind : kindText kind = r.recordKind
  status : statusText status = r.structuralStatus
  descriptor : descriptorText descriptor = r.descriptorType
  value : valueText value = r.valueType
  real : ∀ v ∈ r.realValue, real.isFinite = true ∧ real.toRat = v.value

theorem imageRecord_row (hn : Names r kind status descriptor value real) (hc : CommonRules r) :
    recordRow (imageRecord r kind status descriptor value real) = r.toRow := by
  have hu32 (v : Option UInt32) :
      fieldScalar (optionalField v.isSome (.natural (v.getD 0).toNat)) = v.map u32Scalar :=
    fieldScalar_optional (g := fun v : UInt32 => .natural v.toNat) v 0 fun _ => rfl
  have hu64 (v : Option UInt64) :
      fieldScalar (optionalField v.isSome (.natural (v.getD 0).toNat)) = v.map u64Scalar :=
    fieldScalar_optional (g := fun v : UInt64 => .natural v.toNat) v 0 fun _ => rfl
  have hi64 (v : Option Int64) :
      fieldScalar (optionalField v.isSome (.integer (v.getD 0).toInt)) = v.map i64Scalar :=
    fieldScalar_optional (g := fun v : Int64 => .integer v.toInt) v 0 fun _ => rfl
  have hflag : fieldScalar (optionalField r.incompleteFlagPresent
      (.boolean (r.incompleteFlag.getD false))) = r.incompleteFlag.map Scalar.bool := by
    rw [← hc.incompleteFlag]
    exact fieldScalar_optional r.incompleteFlag false fun _ => rfl
  have hreal : fieldScalar (optionalField r.realValue.isSome (.real real)) =
      r.realValue.map realScalar := by
    cases hv : r.realValue with
    | none => rfl
    | some v =>
      have hvalue := (hn.real v hv).2
      simp [optionalField, fieldScalar, realScalar, hvalue]
  have hversion : fieldScalar (some (.string Collector.canonicalSchemaVersion)) =
      some (.str r.schemaVersion) := by
    rw [hc.schemaVersion, ← schemaVersion_text]
    rfl
  have hkind : fieldScalar (some (.string (Collector.nameOrEmpty (Collector.recordKindName kind)))) =
      some (.str r.recordKind) := by
    rw [← hn.kind]
    rfl
  have hstatus : fieldScalar (some (.string
      (Collector.nameOrEmpty (Collector.structuralStatusName status)))) =
      some (.str r.structuralStatus) := by
    rw [← hn.status]
    rfl
  have hdescriptor : fieldScalar (some (.string
      (Collector.nameOrEmpty (Collector.descriptorTypeName descriptor)))) =
      some (.str r.descriptorType) := by
    rw [← hn.descriptor]
    rfl
  have hvalue : fieldScalar (some (.string
      (Collector.nameOrEmpty (Collector.valueTypeName value)))) = some (.str r.valueType) := by
    rw [← hn.value]
    rfl
  simp only [recordRow, imageRecord, Collector.recordFields, List.map_cons, List.map_nil, hu32, hu64,
    hi64, hflag, hreal, hversion, hkind, hstatus, hdescriptor, hvalue, fieldScalar_text,
    fieldScalar_optionalText]
  rfl

theorem exists_names (hc : CommonRules r) :
    ∃ kind status descriptor value real, Names r kind status descriptor value real := by
  obtain ⟨kind, hkind, hkindText⟩ := mem_kinds.mp hc.recordKind
  obtain ⟨status, hstatus, hstatusText⟩ := mem_statuses.mp hc.structuralStatus
  obtain ⟨descriptor, hdescriptor, hdescriptorText⟩ := mem_descriptors.mp hc.descriptorType
  obtain ⟨value, hvalue, hvalueText⟩ := mem_values.mp hc.valueType
  obtain ⟨real, hreal⟩ := exists_real r.realValue
  exact ⟨kind, status, descriptor, value, real, hkind, hstatus, hdescriptor, hvalue, hkindText,
    hstatusText, hdescriptorText, hvalueText, hreal⟩

theorem imageRecord_common (hn : Names r kind status descriptor value real) (hc : CommonRules r) :
    Collector.CommonRules (imageRecord r kind status descriptor value real) where
  recordKind := hn.kind_valid
  structuralStatus := hn.status_valid
  descriptorType := hn.descriptor_valid
  valueType := hn.value_valid
  ueIdType := r.ueIdType.validString_array
  ueIdType_ne_nil := CText.bytes_ne_nil hc.ueIdType
  nodeType := validString_arrayOf
  nodeId := validString_arrayOf
  ueIdValue := validString_arrayOf
  measurementName := validString_arrayOf
  diagnosticCode := validString_arrayOf
  diagnosticMessage := validString_arrayOf
  incompleteFlag hpresent := by
    have hnone : r.incompleteFlag.isSome = false := hc.incompleteFlag.trans hpresent
    simp only [Option.isSome_eq_false_iff, Option.isNone_iff_eq_none] at hnone
    simp [imageRecord, hnone]

theorem arrayOf_ne_nil {n : ℕ} {text : Option (CText n)} (hsome : text.isSome = true)
    (h : ∀ t ∈ text, t.units ≠ []) : (arrayOf text).cString ≠ [] := by
  obtain ⟨t, rfl⟩ := Option.isSome_iff_exists.mp hsome
  exact CText.bytes_ne_nil (h t rfl)

theorem imageRecord_diagnostic (hn : Names r kind status descriptor value real)
    (hkind : r.recordKind = chars "diagnostic") (hd : DiagnosticRules r) (hr : CollectorRule r) :
    Collector.DiagnosticRules (imageRecord r kind status descriptor value real) where
  hasMeasInfoIndex := by simp [imageRecord, hd.measInfoIndex]
  hasMeasRecordIndex := by simp [imageRecord, hd.measRecordIndex]
  descriptorType := descriptorText_injective
    ((hn.descriptor.trans hd.descriptorType).trans (descriptorText_eq .unknown).symm)
  valueType := valueText_injective ((hn.value.trans hd.valueType).trans (valueText_eq .unknown).symm)
  hasMeasurementName := by simp [imageRecord, hd.measurementName]
  hasMeasurementId := by simp [imageRecord, hd.measurementId]
  hasIntegerValue := by simp [imageRecord, hd.integerValue]
  hasRealValue := by simp [imageRecord, hd.realValue]
  hasDiagnosticCode := hd.diagnosticCode
  diagnosticCode_ne_nil := arrayOf_ne_nil hd.diagnosticCode (hr.code hkind)
  status_ne_ok := by
    rintro (rfl : status = .ok)
    exact (hr.diagnosticStatus hkind).1 (hn.status.symm.trans (statusText_eq .ok))
  status_ne_noValue := by
    rintro (rfl : status = .noValue)
    exact (hr.diagnosticStatus hkind).2 (hn.status.symm.trans (statusText_eq .noValue))
  lengths := by
    rintro (rfl : status = .lengthMismatch)
    exact hd.lengths (hn.status.symm.trans (statusText_eq .lengthMismatch))

theorem imageRecord_descriptor (hn : Names r kind status descriptor value real)
    (hm : DescriptorRules r) (hname : ∀ name ∈ r.measurementName, name.units ≠ []) :
    Collector.DescriptorRules (imageRecord r kind status descriptor value real) := by
  rcases hm with ⟨htype, hsome, hid⟩ | ⟨htype, hsome, hnone⟩
  · refine .name (descriptorText_injective ?_) hsome (arrayOf_ne_nil hsome hname)
      (by simp [imageRecord, hid])
    exact (hn.descriptor.trans htype).trans (descriptorText_eq .name).symm
  · refine .id (descriptorText_injective ?_) hsome (by simp [imageRecord, hnone])
    exact (hn.descriptor.trans htype).trans (descriptorText_eq .id).symm

theorem imageRecord_value (hn : Names r kind status descriptor value real) (hm : ValueRules r)
    (hstatus : r.structuralStatus =
      if r.valueType = chars "no_value" then chars "no_value" else chars "ok") :
    Collector.ValueRules (imageRecord r kind status descriptor value real) := by
  have hne : chars "integer" ≠ chars "no_value" ∧ chars "real" ≠ chars "no_value" := by decide
  have htext := hn.status.trans hstatus
  rcases hm with ⟨htype, hint, hreal⟩ | ⟨htype, hreal, hint⟩ | ⟨htype, hint, hreal⟩
  · rw [htype, if_neg hne.1] at htext
    exact .integer (valueText_injective ((hn.value.trans htype).trans (valueText_eq .integer).symm))
      hint (by simp [imageRecord, hreal])
      (statusText_injective (htext.trans (statusText_eq .ok).symm))
  · rw [htype, if_neg hne.2] at htext
    obtain ⟨v, hv⟩ := Option.isSome_iff_exists.mp hreal
    exact .real (valueText_injective ((hn.value.trans htype).trans (valueText_eq .real).symm))
      hreal (by simp [imageRecord, hint]) (hn.real v hv).1
      (statusText_injective (htext.trans (statusText_eq .ok).symm))
  · rw [htype, if_pos rfl] at htext
    exact .noValue (valueText_injective ((hn.value.trans htype).trans (valueText_eq .noValue).symm))
      (by simp [imageRecord, hint]) (by simp [imageRecord, hreal])
      (statusText_injective (htext.trans (statusText_eq .noValue).symm))

theorem imageRecord_measurement (hn : Names r kind status descriptor value real)
    (hkind : r.recordKind = chars "measurement") (hm : MeasurementRules r)
    (hr : CollectorRule r) :
    Collector.MeasurementRules (imageRecord r kind status descriptor value real) where
  hasMeasInfoIndex := hm.measInfoIndex
  hasMeasRecordIndex := (congrArg Option.isSome hm.indexes).symm.trans hm.measInfoIndex
  indexes := congrArg (fun index => index.getD 0) hm.indexes
  hasDiagnosticCode := by simp [imageRecord, hm.diagnosticCode]
  hasDiagnosticMessage := by simp [imageRecord, hm.diagnosticMessage]
  descriptor := imageRecord_descriptor hn hm.descriptor (hr.name hkind)
  value := imageRecord_value hn hm.value (hr.measurementStatus hkind)

theorem imageRecord_accepted (hn : Names r kind status descriptor value real)
    (hs : SharedRules r) (hr : CollectorRule r) :
    Accepted (imageRecord r kind status descriptor value real) := by
  cases hs with
  | diagnostic hkind hc hd =>
    refine .diagnostic (kindText_injective ?_) (imageRecord_common hn hc)
      (imageRecord_diagnostic hn hkind hd hr)
    exact (hn.kind.trans hkind).trans (kindText_eq .diagnostic).symm
  | measurement hkind hc hm =>
    refine .measurement (kindText_injective ?_) (imageRecord_common hn hc)
      (imageRecord_measurement hn hkind hm hr)
    exact (hn.kind.trans hkind).trans (kindText_eq .measurement).symm

theorem SharedRules.common (h : SharedRules r) : CommonRules r := by
  cases h <;> assumption

/-- The lines of accepted records are exactly what the shared rules and the collector's own
rules allow. -/
theorem isImage_iff : IsImage r ↔ SharedRules r ∧ CollectorRule r := by
  refine ⟨IsImage.rules, fun ⟨hs, hr⟩ => ?_⟩
  obtain ⟨kind, status, descriptor, value, real, hn⟩ := exists_names hs.common
  exact isImage_of_row (imageRecord_accepted hn hs hr) (imageRecord_row hn hs.common)

end

/-! ### The two validators -/

/-- The fields of the row on which the rules that only one of the validators has are settled
alike. -/
structure SettledAlike (r : TypedRow) : Prop where
  diagnostic : r.recordKind = chars "diagnostic" →
    (r.diagnosticMessage.isSome = true ↔ (∀ code ∈ r.diagnosticCode, code.units ≠ []) ∧
      r.structuralStatus ≠ chars "ok" ∧ r.structuralStatus ≠ chars "no_value")
  measurement : r.recordKind = chars "measurement" →
    (∀ name ∈ r.measurementName, name.units ≠ []) ∧
    r.structuralStatus = if r.valueType = chars "no_value" then chars "no_value" else chars "ok"

theorem rules_agree_iff {r : TypedRow} (hs : SharedRules r) :
    (ConverterRule r ↔ CollectorRule r) ↔ SettledAlike r := by
  have hne : chars "measurement" ≠ chars "diagnostic" := by decide
  cases hs with
  | diagnostic hkind _ _ =>
    have hnot : r.recordKind ≠ chars "measurement" := fun hm => hne (hm.symm.trans hkind)
    have hconverter : ConverterRule r ↔ r.diagnosticMessage.isSome = true :=
      ⟨fun h => h hkind, fun h _ => h⟩
    have hcollector : CollectorRule r ↔ (∀ code ∈ r.diagnosticCode, code.units ≠ []) ∧
        r.structuralStatus ≠ chars "ok" ∧ r.structuralStatus ≠ chars "no_value" :=
      ⟨fun h => ⟨h.code hkind, h.diagnosticStatus hkind⟩, fun h => ⟨fun _ => h.1, fun _ => h.2,
        fun hm => absurd hm hnot, fun hm => absurd hm hnot⟩⟩
    rw [hconverter, hcollector]
    exact ⟨fun h => ⟨fun _ => h, fun hm => absurd hm hnot⟩, fun h => h.diagnostic hkind⟩
  | measurement hkind _ _ =>
    have hnot : r.recordKind ≠ chars "diagnostic" := fun hd => hne (hkind.symm.trans hd)
    have hconverter : ConverterRule r := fun hd => absurd hd hnot
    constructor
    · intro h
      have hcollector := h.mp hconverter
      exact ⟨fun hd => absurd hd hnot,
        fun _ => ⟨hcollector.name hkind, hcollector.measurementStatus hkind⟩⟩
    · intro h
      obtain ⟨hname, hstatus⟩ := h.measurement hkind
      have hcollector : CollectorRule r := ⟨fun hd => absurd hd hnot, fun hd => absurd hd hnot,
        fun _ => hname, fun _ => hstatus⟩
      exact iff_of_true hconverter hcollector

/-- The converter accepts a well-typed object exactly when it is the line of an accepted record,
exactly when the row breaks a shared rule or settles the remaining fields alike. -/
theorem validators_agree_iff (line : List ℕ) (lineNumber : ℕ) (members : List (List ℕ × Json))
    (r : TypedRow) (hparse : Json.parse line = some (.obj members)) (hdenotes : Denotes members r) :
    ((∃ row, parseRow line lineNumber catalogue = .ok row) ↔ IsImage r) ↔
      (SharedRules r → SettledAlike r) := by
  have haccepts : (∃ row, parseRow line lineNumber catalogue = .ok row) ↔
      SharedRules r ∧ ConverterRule r := by
    simp only [parseRow_of_denotes hdenotes hparse, exists_and_left, exists_eq, and_true]
    exact validateSemantics_eq_ok r
  rw [haccepts, isImage_iff, and_congr_right_iff]
  exact forall_congr' rules_agree_iff

theorem parse_textUnits {record : CanonicalRecord} (h : Accepted record) :
    Json.parse (textUnits (jsonlLine record)) = some (.obj (recordMembers record)) := by
  have hline := Collector.parseLine_jsonlLine h
  simp only [parseLine, Option.bind_eq_some_iff] at hline
  obtain ⟨units, hunits, hparse⟩ := hline
  rw [textUnits, hunits, Option.getD_some, hparse]

/-- A diagnostic without a message. -/
def silentSample : CanonicalRecord :=
  { Collector.emptyMessageSample with hasDiagnosticMessage := false }

theorem silentSample_accepted : Accepted silentSample :=
  Collector.canonicalRecordValidate_eq_ok.mp (by decide +kernel)

theorem denotes_typedRowOf {record : CanonicalRecord} (h : Accepted record) :
    Denotes (recordMembers record) (typedRowOf record h) :=
  (denotes_recordMembers h).mpr (typedRowOf_toRow record h)

theorem validators_agree_iff_sample :
    ((∃ row, parseRow (textUnits (jsonlLine silentSample)) 1 catalogue = .ok row) ↔
      IsImage (typedRowOf silentSample silentSample_accepted)) ↔
    (SharedRules (typedRowOf silentSample silentSample_accepted) →
      SettledAlike (typedRowOf silentSample silentSample_accepted)) :=
  validators_agree_iff _ 1 _ _ (parse_textUnits silentSample_accepted)
    (denotes_typedRowOf silentSample_accepted)

/-- The collector writes the line of a diagnostic without a message; the converter refuses it. -/
theorem silent_diagnostic_refused :
    Json.parse (textUnits (jsonlLine silentSample)) = some (.obj (recordMembers silentSample)) ∧
    Denotes (recordMembers silentSample) (typedRowOf silentSample silentSample_accepted) ∧
    ¬ ((∃ row, parseRow (textUnits (jsonlLine silentSample)) 1 catalogue = .ok row) ↔
      IsImage (typedRowOf silentSample silentSample_accepted)) := by
  have hparse := parse_textUnits silentSample_accepted
  have hdenotes := denotes_typedRowOf silentSample_accepted
  refine ⟨hparse, hdenotes, fun hiff => ?_⟩
  have himage : IsImage (typedRowOf silentSample silentSample_accepted) :=
    isImage_of_row silentSample_accepted (typedRowOf_toRow silentSample silentSample_accepted)
  obtain ⟨row, hrow⟩ := hiff.mpr himage
  have hrule := ((validateSemantics_eq_ok _).mp
    ((parseRow_of_denotes hdenotes hparse).mp hrow).1).2
  have hkind : (typedRowOf silentSample silentSample_accepted).recordKind = chars "diagnostic" :=
    (recordKind_typedRowOf silentSample_accepted rfl).trans (kindText_eq .diagnostic)
  have hmessage : (typedRowOf silentSample silentSample_accepted).diagnosticMessage = none :=
    optionalText_none (h := silentSample_accepted.common.diagnosticMessage) rfl
  have hsome := hrule hkind
  rw [hmessage] at hsome
  exact Bool.false_ne_true hsome

end TcdOran.Parquet
