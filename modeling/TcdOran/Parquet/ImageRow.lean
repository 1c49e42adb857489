import TcdOran.Parquet.RecordRow

/-! The rules on typed rows that the collector's validator implies. -/
namespace TcdOran.Parquet
open TcdOran.Lib
open TcdOran.Collector (CanonicalRecord Accepted RecordKind StructuralStatus DescriptorType
  ValueType nameOrEmpty recordKindName structuralStatusName descriptorTypeName valueTypeName)

/-- The rules the collector adds: a diagnostic has a code that is not empty and the status of a
diagnostic, a measurement the status of its value type and no empty name. -/
structure CollectorRule (r : TypedRow) : Prop where
  code : r.recordKind = chars "diagnostic" → ∀ code ∈ r.diagnosticCode, code.units ≠ []
  diagnosticStatus : r.recordKind = chars "diagnostic" →
    r.structuralStatus ≠ chars "ok" ∧ r.structuralStatus ≠ chars "no_value"
  name : r.recordKind = chars "measurement" → ∀ name ∈ r.measurementName, name.units ≠ []
  measurementStatus : r.recordKind = chars "measurement" →
    r.structuralStatus = if r.valueType = chars "no_value" then chars "no_value" else chars "ok"

/-! ### The names of the enumerations -/

def kindText (kind : RecordKind) : List ℕ := textUnits (nameOrEmpty (recordKindName kind))
def statusText (status : StructuralStatus) : List ℕ :=
  textUnits (nameOrEmpty (structuralStatusName status))
def descriptorText (descriptor : DescriptorType) : List ℕ :=
  textUnits (nameOrEmpty (descriptorTypeName descriptor))
def valueText (value : ValueType) : List ℕ := textUnits (nameOrEmpty (valueTypeName value))

theorem textUnits_bytes (text : String) (h : PlainAscii (bytes text))
    (hchars : (bytes text).map UInt8.toNat = chars text) : textUnits (bytes text) = chars text := by
  rw [textUnits, h.codePoints, hchars, Option.getD_some]

theorem textUnits_nil : textUnits [] = [] := textUnits_bytes "" (by decide) (by decide)

theorem kindText_eq (kind : RecordKind) : kindText kind =
    match kind with
    | .invalid => []
    | .measurement => chars "measurement"
    | .diagnostic => chars "diagnostic" := by
  cases kind
  case invalid => exact textUnits_nil
  all_goals exact textUnits_bytes _ (by decide) (by decide)

theorem statusText_eq (status : StructuralStatus) : statusText status =
    match status with
    | .invalid => []
    | .ok => chars "ok"
    | .noValue => chars "no_value"
    | .lengthMismatch => chars "length_mismatch"
    | .invalidInput => chars "invalid_input"
    | .unsupportedUeId => chars "unsupported_ue_id"
    | .unsupportedDescriptor => chars "unsupported_descriptor"
    | .unsupportedValueType => chars "unsupported_value_type" := by
  cases status
  case invalid => exact textUnits_nil
  all_goals exact textUnits_bytes _ (by decide) (by decide)

theorem descriptorText_eq (descriptor : DescriptorType) : descriptorText descriptor =
    match descriptor with
    | .unknown => chars "unknown"
    | .name => chars "name"
    | .id => chars "id"
    | .invalid => [] := by
  cases descriptor
  case invalid => exact textUnits_nil
  all_goals exact textUnits_bytes _ (by decide) (by decide)

theorem valueText_eq (value : ValueType) : valueText value =
    match value with
    | .unknown => chars "unknown"
    | .integer => chars "integer"
    | .real => chars "real"
    | .noValue => chars "no_value"
    | .invalid => [] := by
  cases value
  case invalid => exact textUnits_nil
  all_goals exact textUnits_bytes _ (by decide) (by decide)

/-! Different values have different names. -/

theorem kindText_injective : Function.Injective kindText := by
  intro a b h
  rw [kindText_eq, kindText_eq] at h
  cases a <;> cases b <;> first | rfl | exact absurd h (by decide)

theorem descriptorText_injective : Function.Injective descriptorText := by
  intro a b h
  rw [descriptorText_eq, descriptorText_eq] at h
  cases a <;> cases b <;> first | rfl | exact absurd h (by decide)

theorem valueText_injective : Function.Injective valueText := by
  intro a b h
  rw [valueText_eq, valueText_eq] at h
  cases a <;> cases b <;> first | rfl | exact absurd h (by decide)

theorem statusText_injective : Function.Injective statusText := by
  intro a b h
  rw [statusText_eq, statusText_eq] at h
  cases a <;> cases b <;> first | rfl | exact absurd h (by decide)

theorem mem_kinds {units : List ℕ} : units ∈ recordKinds.map chars ↔
    ∃ kind : RecordKind, kind ≠ .invalid ∧ kindText kind = units := by
  constructor
  · intro h
    simp only [recordKinds, List.map_cons, List.map_nil, List.mem_cons, List.not_mem_nil,
      or_false] at h
    rcases h with rfl | rfl
    · exact ⟨.measurement, by decide, kindText_eq _⟩
    · exact ⟨.diagnostic, by decide, kindText_eq _⟩
  · rintro ⟨kind, hkind, rfl⟩
    cases kind
    case invalid => exact absurd rfl hkind
    all_goals
      rw [kindText_eq]
      simp [recordKinds]

theorem mem_statuses {units : List ℕ} : units ∈ structuralStatuses.map chars ↔
    ∃ status : StructuralStatus, status ≠ .invalid ∧ statusText status = units := by
  constructor
  · intro h
    simp only [structuralStatuses, List.map_cons, List.map_nil, List.mem_cons, List.not_mem_nil,
      or_false] at h
    rcases h with rfl | rfl | rfl | rfl | rfl | rfl | rfl
    · exact ⟨.ok, by decide, statusText_eq _⟩
    · exact ⟨.noValue, by decide, statusText_eq _⟩
    · exact ⟨.lengthMismatch, by decide, statusText_eq _⟩
    · exact ⟨.invalidInput, by decide, statusText_eq _⟩
    · exact ⟨.unsupportedUeId, by decide, statusText_eq _⟩
    · exact ⟨.unsupportedDescriptor, by decide, statusText_eq _⟩
    · exact ⟨.unsupportedValueType, by decide, statusText_eq _⟩
  · rintro ⟨status, hstatus, rfl⟩
    cases status
    case invalid => exact absurd rfl hstatus
    all_goals
      rw [statusText_eq]
      simp [structuralStatuses]

theorem mem_descriptors {units : List ℕ} : units ∈ descriptorTypes.map chars ↔
    ∃ descriptor : DescriptorType, descriptor ≠ .invalid ∧ descriptorText descriptor = units := by
  constructor
  · intro h
    simp only [descriptorTypes, List.map_cons, List.map_nil, List.mem_cons, List.not_mem_nil,
      or_false] at h
    rcases h with rfl | rfl | rfl
    · exact ⟨.name, by decide, descriptorText_eq _⟩
    · exact ⟨.id, by decide, descriptorText_eq _⟩
    · exact ⟨.unknown, by decide, descriptorText_eq _⟩
  · rintro ⟨descriptor, hdescriptor, rfl⟩
    cases descriptor
    case invalid => exact absurd rfl hdescriptor
    all_goals
      rw [descriptorText_eq]
      simp [descriptorTypes]

theorem mem_values {units : List ℕ} : units ∈ valueTypes.map chars ↔
    ∃ value : ValueType, value ≠ .invalid ∧ valueText value = units := by
  constructor
  · intro h
    simp only [valueTypes, List.map_cons, List.map_nil, List.mem_cons, List.not_mem_nil,
      or_false] at h
    rcases h with rfl | rfl | rfl | rfl
    · exact ⟨.integer, by decide, valueText_eq _⟩
    · exact ⟨.real, by decide, valueText_eq _⟩
    · exact ⟨.noValue, by decide, valueText_eq _⟩
    · exact ⟨.unknown, by decide, valueText_eq _⟩
  · rintro ⟨value, hvalue, rfl⟩
    cases value
    case invalid => exact absurd rfl hvalue
    all_goals
      rw [valueText_eq]
      simp [valueTypes]

theorem schemaVersion_text : textUnits Collector.canonicalSchemaVersion = chars schemaVersion :=
  textUnits_bytes _ (by decide) (by decide)

/-! ### Texts -/

theorem codePoints_eq_nil_iff {text : List UInt8} {units : List ℕ}
    (h : codePoints text = some units) : units = [] ↔ text = [] := by
  constructor
  · rintro rfl
    rw [← utf8OfCodePoints_of_codePoints h]
    rfl
  · rintro rfl
    exact (Option.some.inj ((codePoints_encodeUtf8 []).symm.trans h)).symm

theorem textOfArray_units {n : ℕ} {value : Lib.CharArray n} (h : Collector.ValidString value) :
    (textOfArray value h).units = [] ↔ value.cString = [] :=
  codePoints_eq_nil_iff (textOfArray value h).encoded

theorem optionalText_of {n : ℕ} {present : Bool} {value : Lib.CharArray n}
    {h : present = true → Collector.ValidString value} (hp : present = true) :
    optionalText present value h = some (textOfArray value (h hp)) := dif_pos hp

theorem optionalText_none {n : ℕ} {present : Bool} {value : Lib.CharArray n}
    {h : present = true → Collector.ValidString value} (hp : present = false) :
    optionalText present value h = none := by
  subst hp
  rfl

/-! ### The rules -/

section
variable {record : CanonicalRecord}

theorem recordKind_typedRowOf (h : Accepted record) {kind : RecordKind}
    (hkind : record.recordKind = kind) : (typedRowOf record h).recordKind = kindText kind := by
  rw [← hkind]
  rfl

theorem status_typedRowOf (h : Accepted record) {status : StructuralStatus}
    (hstatus : record.structuralStatus = status) :
    (typedRowOf record h).structuralStatus = statusText status := by
  rw [← hstatus]
  rfl

theorem descriptorType_typedRowOf (h : Accepted record) {descriptor : DescriptorType}
    (htype : record.descriptorType = descriptor) :
    (typedRowOf record h).descriptorType = descriptorText descriptor := by
  rw [← htype]
  rfl

theorem valueType_typedRowOf (h : Accepted record) {value : ValueType}
    (htype : record.valueType = value) : (typedRowOf record h).valueType = valueText value := by
  rw [← htype]
  rfl

theorem commonRules_typedRowOf (h : Accepted record) : CommonRules (typedRowOf record h) where
  schemaVersion := schemaVersion_text
  recordKind := mem_kinds.mpr ⟨_, h.common.recordKind, rfl⟩
  structuralStatus := mem_statuses.mpr ⟨_, h.common.structuralStatus, rfl⟩
  descriptorType := mem_descriptors.mpr ⟨_, h.common.descriptorType, rfl⟩
  valueType := mem_values.mpr ⟨_, h.common.valueType, rfl⟩
  ueIdType := fun hnil =>
    h.common.ueIdType_ne_nil ((textOfArray_units h.common.ueIdType).mp hnil)
  incompleteFlag := by
    simp only [typedRowOf, optionalOf]
    cases record.incompleteFlagPresent <;> rfl

theorem diagnosticRules_typedRowOf (h : Accepted record)
    (hd : Collector.DiagnosticRules record) : DiagnosticRules (typedRowOf record h) where
  measInfoIndex := by simp [typedRowOf, optionalOf, hd.hasMeasInfoIndex]
  measRecordIndex := by simp [typedRowOf, optionalOf, hd.hasMeasRecordIndex]
  descriptorType := (descriptorType_typedRowOf h hd.descriptorType).trans (descriptorText_eq _)
  valueType := (valueType_typedRowOf h hd.valueType).trans (valueText_eq _)
  measurementName := optionalText_none hd.hasMeasurementName
  measurementId := by simp [typedRowOf, optionalOf, hd.hasMeasurementId]
  integerValue := by simp [typedRowOf, optionalOf, hd.hasIntegerValue]
  realValue := by simp [typedRowOf, optionalReal, hd.hasRealValue]
  diagnosticCode := by
    have hcode : (typedRowOf record h).diagnosticCode = _ := optionalText_of hd.hasDiagnosticCode
    rw [hcode, Option.isSome_some]
  lengths hstatus := by
    exact hd.lengths (statusText_injective (hstatus.trans (statusText_eq .lengthMismatch).symm))

theorem descriptorRules_typedRowOf (h : Accepted record)
    (hm : Collector.DescriptorRules record) : DescriptorRules (typedRowOf record h) := by
  rcases hm with ⟨htype, hname, -, hid⟩ | ⟨htype, hid, hname⟩
  · have htext : (typedRowOf record h).measurementName = _ := optionalText_of hname
    refine .name ?_ (by rw [htext, Option.isSome_some]) (by simp [typedRowOf, optionalOf, hid])
    exact (descriptorType_typedRowOf h htype).trans (descriptorText_eq _)
  · refine .id ?_ (by simp [typedRowOf, optionalOf, hid]) (optionalText_none hname)
    exact (descriptorType_typedRowOf h htype).trans (descriptorText_eq _)

theorem valueRules_typedRowOf (h : Accepted record) (hm : Collector.ValueRules record) :
    ValueRules (typedRowOf record h) := by
  rcases hm with ⟨htype, hint, hreal, -⟩ | ⟨htype, hreal, hint, -, -⟩ | ⟨htype, hint, hreal, -⟩
  · refine .integer ?_ (by simp [typedRowOf, optionalOf, hint])
      (by simp [typedRowOf, optionalReal, hreal])
    exact (valueType_typedRowOf h htype).trans (valueText_eq _)
  · refine .real ?_ (by simp [typedRowOf, optionalReal, hreal])
      (by simp [typedRowOf, optionalOf, hint])
    exact (valueType_typedRowOf h htype).trans (valueText_eq _)
  · refine .noValue ?_ (by simp [typedRowOf, optionalOf, hint])
      (by simp [typedRowOf, optionalReal, hreal])
    exact (valueType_typedRowOf h htype).trans (valueText_eq _)

theorem measurementRules_typedRowOf (h : Accepted record)
    (hm : Collector.MeasurementRules record) : MeasurementRules (typedRowOf record h) where
  measInfoIndex := by simp [typedRowOf, optionalOf, hm.hasMeasInfoIndex]
  indexes := by
    simp [typedRowOf, optionalOf, hm.hasMeasInfoIndex, hm.hasMeasRecordIndex, hm.indexes]
  diagnosticCode := optionalText_none hm.hasDiagnosticCode
  diagnosticMessage := optionalText_none hm.hasDiagnosticMessage
  descriptor := descriptorRules_typedRowOf h hm.descriptor
  value := valueRules_typedRowOf h hm.value

theorem sharedRules_typedRowOf (h : Accepted record) : SharedRules (typedRowOf record h) := by
  have hcommon := commonRules_typedRowOf h
  cases id h with
  | measurement hkind _ hm =>
    exact .measurement ((recordKind_typedRowOf h hkind).trans (kindText_eq _)) hcommon
      (measurementRules_typedRowOf h hm)
  | diagnostic hkind _ hd =>
    exact .diagnostic ((recordKind_typedRowOf h hkind).trans (kindText_eq _)) hcommon
      (diagnosticRules_typedRowOf h hd)

theorem units_typedRowOf_code (h : Accepted record) (hcode : record.hasDiagnosticCode = true)
    (hne : record.diagnosticCode.cString ≠ []) :
    ∀ code ∈ (typedRowOf record h).diagnosticCode, code.units ≠ [] := by
  have htext : (typedRowOf record h).diagnosticCode = _ := optionalText_of hcode
  rintro code hmem hnil
  rw [htext, Option.mem_some_iff] at hmem
  subst hmem
  exact hne ((textOfArray_units (h.common.diagnosticCode hcode)).mp hnil)

theorem units_typedRowOf_name (h : Accepted record) (hm : Collector.DescriptorRules record) :
    ∀ name ∈ (typedRowOf record h).measurementName, name.units ≠ [] := by
  rcases hm with ⟨-, hname, hne, -⟩ | ⟨-, -, hname⟩
  · have htext : (typedRowOf record h).measurementName = _ := optionalText_of hname
    rintro name hmem hnil
    rw [htext, Option.mem_some_iff] at hmem
    subst hmem
    exact hne ((textOfArray_units (h.common.measurementName hname)).mp hnil)
  · have htext : (typedRowOf record h).measurementName = none := optionalText_none hname
    simp [htext]

theorem status_typedRowOf_value (h : Accepted record) (hm : Collector.ValueRules record) :
    (typedRowOf record h).structuralStatus =
      if (typedRowOf record h).valueType = chars "no_value" then chars "no_value"
      else chars "ok" := by
  have hne : chars "integer" ≠ chars "no_value" ∧ chars "real" ≠ chars "no_value" := by decide
  rcases hm with ⟨htype, -, -, hstatus⟩ | ⟨htype, -, -, -, hstatus⟩ | ⟨htype, -, -, hstatus⟩
  · rw [valueType_typedRowOf h htype, valueText_eq, if_neg hne.1, status_typedRowOf h hstatus,
      statusText_eq]
  · rw [valueType_typedRowOf h htype, valueText_eq, if_neg hne.2, status_typedRowOf h hstatus,
      statusText_eq]
  · rw [valueType_typedRowOf h htype, valueText_eq, if_pos rfl, status_typedRowOf h hstatus,
      statusText_eq]

theorem collectorRule_typedRowOf (h : Accepted record) : CollectorRule (typedRowOf record h) := by
  have hne : chars "measurement" ≠ chars "diagnostic" := by decide
  cases id h with
  | measurement hkind _ hm =>
    have htext := (recordKind_typedRowOf h hkind).trans (kindText_eq .measurement)
    refine ⟨fun hd => ?_, fun hd => ?_, fun _ => units_typedRowOf_name h hm.descriptor,
      fun _ => status_typedRowOf_value h hm.value⟩
    · exact absurd (htext.symm.trans hd) hne
    · exact absurd (htext.symm.trans hd) hne
  | diagnostic hkind _ hd =>
    have htext := (recordKind_typedRowOf h hkind).trans (kindText_eq .diagnostic)
    refine ⟨fun _ => units_typedRowOf_code h hd.hasDiagnosticCode hd.diagnosticCode_ne_nil,
      fun _ => ⟨fun hok => ?_, fun hno => ?_⟩, fun hm => ?_, fun hm => ?_⟩
    · exact hd.status_ne_ok (statusText_injective (hok.trans (statusText_eq .ok).symm))
    · exact hd.status_ne_noValue (statusText_injective (hno.trans (statusText_eq .noValue).symm))
    · exact absurd (hm.symm.trans htext) hne
    · exact absurd (hm.symm.trans htext) hne

end

end TcdOran.Parquet
