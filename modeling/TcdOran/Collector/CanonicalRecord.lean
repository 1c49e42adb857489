import TcdOran.Collector.BoundedString
import TcdOran.Lib.Binary64
import TcdOran.Lib.Check

/-! The canonical record of canonical_record.h and its validator in canonical_serialize.c. -/
namespace TcdOran.Collector
open TcdOran.Lib

def canonicalSchemaVersion : List UInt8 := bytes "tcd.kpm.record.emulator-draft-0.1"

abbrev nodeTypeCapacity : ℕ := 32
abbrev nodeIdCapacity : ℕ := 128
abbrev ueIdTypeCapacity : ℕ := 32
abbrev ueIdValueCapacity : ℕ := 128
abbrev measurementNameCapacity : ℕ := 256
abbrev diagnosticCodeCapacity : ℕ := 64
abbrev diagnosticMessageCapacity : ℕ := 256

/-- `invalid` stands for every number that is not one of the named values. -/
inductive RecordKind
  | invalid | measurement | diagnostic
  deriving DecidableEq

inductive StructuralStatus
  | invalid | ok | noValue | lengthMismatch | invalidInput | unsupportedUeId
  | unsupportedDescriptor | unsupportedValueType
  deriving DecidableEq

/-- `invalid` is a number outside the enumeration. -/
inductive DescriptorType
  | unknown | name | id | invalid
  deriving DecidableEq

inductive ValueType
  | unknown | integer | real | noValue | invalid
  deriving DecidableEq

structure CanonicalRecord where
  recordKind : RecordKind
  indicationSequence : UInt64
  receiveTimestampUs : UInt64
  hasKpmHeaderTimestampUs : Bool
  kpmHeaderTimestampUs : UInt64
  messageFormat : UInt32
  hasNodeType : Bool
  nodeType : CharArray nodeTypeCapacity
  hasNodeId : Bool
  nodeId : CharArray nodeIdCapacity
  hasUeReportIndex : Bool
  ueReportIndex : UInt32
  ueIdType : CharArray ueIdTypeCapacity
  hasUeIdValue : Bool
  ueIdValue : CharArray ueIdValueCapacity
  hasMeasDataIndex : Bool
  measDataIndex : UInt32
  hasMeasInfoIndex : Bool
  measInfoIndex : UInt32
  hasMeasRecordIndex : Bool
  measRecordIndex : UInt32
  measDataLstLen : UInt32
  measInfoLstLen : UInt32
  measRecordLen : UInt32
  incompleteFlagPresent : Bool
  incompleteFlag : Bool
  structuralStatus : StructuralStatus
  descriptorType : DescriptorType
  hasMeasurementName : Bool
  measurementName : CharArray measurementNameCapacity
  hasMeasurementId : Bool
  measurementId : UInt32
  valueType : ValueType
  hasIntegerValue : Bool
  integerValue : Int64
  hasRealValue : Bool
  realValue : Binary64
  hasDiagnosticCode : Bool
  diagnosticCode : CharArray diagnosticCodeCapacity
  hasDiagnosticMessage : Bool
  diagnosticMessage : CharArray diagnosticMessageCapacity

def recordKindName : RecordKind → Option (List UInt8)
  | .measurement => some (bytes "measurement")
  | .diagnostic => some (bytes "diagnostic")
  | .invalid => none

def structuralStatusName : StructuralStatus → Option (List UInt8)
  | .ok => some (bytes "ok")
  | .noValue => some (bytes "no_value")
  | .lengthMismatch => some (bytes "length_mismatch")
  | .invalidInput => some (bytes "invalid_input")
  | .unsupportedUeId => some (bytes "unsupported_ue_id")
  | .unsupportedDescriptor => some (bytes "unsupported_descriptor")
  | .unsupportedValueType => some (bytes "unsupported_value_type")
  | .invalid => none

def descriptorTypeName : DescriptorType → Option (List UInt8)
  | .name => some (bytes "name")
  | .id => some (bytes "id")
  | .unknown => some (bytes "unknown")
  | .invalid => none

def valueTypeName : ValueType → Option (List UInt8)
  | .integer => some (bytes "integer")
  | .real => some (bytes "real")
  | .noValue => some (bytes "no_value")
  | .unknown => some (bytes "unknown")
  | .invalid => none

def canonicalRecordInit : CanonicalRecord where
  recordKind := .invalid
  indicationSequence := 0
  receiveTimestampUs := 0
  hasKpmHeaderTimestampUs := false
  kpmHeaderTimestampUs := 0
  messageFormat := 0
  hasNodeType := false
  nodeType := Vector.replicate _ 0
  hasNodeId := false
  nodeId := Vector.replicate _ 0
  hasUeReportIndex := false
  ueReportIndex := 0
  ueIdType := Vector.replicate _ 0
  hasUeIdValue := false
  ueIdValue := Vector.replicate _ 0
  hasMeasDataIndex := false
  measDataIndex := 0
  hasMeasInfoIndex := false
  measInfoIndex := 0
  hasMeasRecordIndex := false
  measRecordIndex := 0
  measDataLstLen := 0
  measInfoLstLen := 0
  measRecordLen := 0
  incompleteFlagPresent := false
  incompleteFlag := false
  structuralStatus := .invalid
  descriptorType := .unknown
  hasMeasurementName := false
  measurementName := Vector.replicate _ 0
  hasMeasurementId := false
  measurementId := 0
  valueType := .unknown
  hasIntegerValue := false
  integerValue := 0
  hasRealValue := false
  realValue := ⟨false, 0, 0⟩
  hasDiagnosticCode := false
  diagnosticCode := Vector.replicate _ 0
  hasDiagnosticMessage := false
  diagnosticMessage := Vector.replicate _ 0

/-! ### The validator -/

def validateStrings (record : CanonicalRecord) : Bool :=
  optionalStringValid record.hasNodeType record.nodeType &&
  optionalStringValid record.hasNodeId record.nodeId &&
  optionalStringValid record.hasUeIdValue record.ueIdValue &&
  optionalStringValid record.hasMeasurementName record.measurementName &&
  optionalStringValid record.hasDiagnosticCode record.diagnosticCode &&
  optionalStringValid record.hasDiagnosticMessage record.diagnosticMessage

def validateDiagnostic (record : CanonicalRecord) : Except String Unit := do
  rejectIf (record.hasMeasInfoIndex ∨ record.hasMeasRecordIndex) "diagnostic_has_pair_indexes"
  rejectIf (record.descriptorType ≠ .unknown ∨ record.valueType ≠ .unknown)
    "diagnostic_has_descriptor_or_value_type"
  rejectIf (record.hasMeasurementName ∨ record.hasMeasurementId ∨
      record.hasIntegerValue ∨ record.hasRealValue)
    "diagnostic_has_measurement_value"
  rejectIf (!record.hasDiagnosticCode ∨ record.diagnosticCode[0] = 0) "diagnostic_code_missing"
  rejectIf (record.structuralStatus = .ok ∨ record.structuralStatus = .noValue)
    "diagnostic_has_measurement_status"
  rejectIf (record.structuralStatus = .lengthMismatch ∧
      record.measInfoLstLen = record.measRecordLen)
    "length_mismatch_lengths_equal"

def validateDescriptor (record : CanonicalRecord) : Except String Unit :=
  match record.descriptorType with
  | .name =>
      rejectIf (!record.hasMeasurementName ∨ record.measurementName[0] = 0 ∨
        record.hasMeasurementId) "name_descriptor_invalid"
  | .id =>
      rejectIf (!record.hasMeasurementId ∨ record.hasMeasurementName) "id_descriptor_invalid"
  | _ => .error "measurement_descriptor_unknown"

def validateValue (record : CanonicalRecord) : Except String Unit :=
  match record.valueType with
  | .integer => do
      rejectIf (!record.hasIntegerValue ∨ record.hasRealValue) "integer_value_invalid"
      rejectIf (record.structuralStatus ≠ .ok) "integer_status_invalid"
  | .real => do
      rejectIf (!record.hasRealValue ∨ record.hasIntegerValue ∨ !record.realValue.isFinite)
        "real_value_invalid"
      rejectIf (record.structuralStatus ≠ .ok) "real_status_invalid"
  | .noValue =>
      rejectIf (record.hasIntegerValue ∨ record.hasRealValue ∨
        record.structuralStatus ≠ .noValue) "no_value_invalid"
  | _ => .error "measurement_value_unknown"

def validateMeasurement (record : CanonicalRecord) : Except String Unit := do
  rejectIf (!record.hasMeasInfoIndex ∨ !record.hasMeasRecordIndex ∨
      record.measInfoIndex ≠ record.measRecordIndex)
    "measurement_pair_indexes_invalid"
  rejectIf (record.structuralStatus ≠ .ok ∧ record.structuralStatus ≠ .noValue)
    "measurement_has_diagnostic_status"
  rejectIf (record.hasDiagnosticCode ∨ record.hasDiagnosticMessage)
    "measurement_has_diagnostic_fields"
  validateDescriptor record
  validateValue record

/-- `tcd_kpm_canonical_record_validate` on a record; the error is the reason. -/
def validateRecord (record : CanonicalRecord) : Except String Unit := do
  rejectIf (recordKindName record.recordKind = none) "invalid_record_kind"
  rejectIf (structuralStatusName record.structuralStatus = none) "invalid_structural_status"
  rejectIf (descriptorTypeName record.descriptorType = none) "invalid_descriptor_type"
  rejectIf (valueTypeName record.valueType = none) "invalid_value_type"
  rejectIf (!boundedStringValid record.ueIdType ∨ record.ueIdType[0] = 0) "invalid_ue_id_type"
  rejectIf (!validateStrings record) "invalid_utf8_or_unterminated_string"
  rejectIf (!record.incompleteFlagPresent ∧ record.incompleteFlag)
    "incomplete_flag_without_presence"
  if record.recordKind = .diagnostic then validateDiagnostic record
  else validateMeasurement record

inductive SerializeResult
  | ok | invalidArgument | invalidRecord | bufferTooSmall
  deriving DecidableEq

/-- `tcd_kpm_canonical_record_validate` on a pointer, with the reason it stores. -/
def canonicalRecordValidate : Option CanonicalRecord → SerializeResult × Option String
  | none => (.invalidArgument, none)
  | some record =>
      match validateRecord record with
      | .ok () => (.ok, none)
      | .error reason => (.invalidRecord, some reason)

/-! ### What is accepted -/

/-- The rules for every record. -/
structure CommonRules (record : CanonicalRecord) : Prop where
  recordKind : record.recordKind ≠ .invalid
  structuralStatus : record.structuralStatus ≠ .invalid
  descriptorType : record.descriptorType ≠ .invalid
  valueType : record.valueType ≠ .invalid
  ueIdType : ValidString record.ueIdType
  ueIdType_ne_nil : record.ueIdType.cString ≠ []
  nodeType : record.hasNodeType = true → ValidString record.nodeType
  nodeId : record.hasNodeId = true → ValidString record.nodeId
  ueIdValue : record.hasUeIdValue = true → ValidString record.ueIdValue
  measurementName : record.hasMeasurementName = true → ValidString record.measurementName
  diagnosticCode : record.hasDiagnosticCode = true → ValidString record.diagnosticCode
  diagnosticMessage : record.hasDiagnosticMessage = true → ValidString record.diagnosticMessage
  incompleteFlag : record.incompleteFlagPresent = false → record.incompleteFlag = false

structure DiagnosticRules (record : CanonicalRecord) : Prop where
  hasMeasInfoIndex : record.hasMeasInfoIndex = false
  hasMeasRecordIndex : record.hasMeasRecordIndex = false
  descriptorType : record.descriptorType = .unknown
  valueType : record.valueType = .unknown
  hasMeasurementName : record.hasMeasurementName = false
  hasMeasurementId : record.hasMeasurementId = false
  hasIntegerValue : record.hasIntegerValue = false
  hasRealValue : record.hasRealValue = false
  hasDiagnosticCode : record.hasDiagnosticCode = true
  diagnosticCode_ne_nil : record.diagnosticCode.cString ≠ []
  status_ne_ok : record.structuralStatus ≠ .ok
  status_ne_noValue : record.structuralStatus ≠ .noValue
  lengths : record.structuralStatus = .lengthMismatch → record.measInfoLstLen ≠ record.measRecordLen

/-- Exactly one way to name the measured quantity. -/
inductive DescriptorRules (record : CanonicalRecord) : Prop
  | name : record.descriptorType = .name → record.hasMeasurementName = true →
      record.measurementName.cString ≠ [] → record.hasMeasurementId = false →
      DescriptorRules record
  | id : record.descriptorType = .id → record.hasMeasurementId = true →
      record.hasMeasurementName = false → DescriptorRules record

/-- The value that is present fits the value type and the status. -/
inductive ValueRules (record : CanonicalRecord) : Prop
  | integer : record.valueType = .integer → record.hasIntegerValue = true →
      record.hasRealValue = false → record.structuralStatus = .ok → ValueRules record
  | real : record.valueType = .real → record.hasRealValue = true →
      record.hasIntegerValue = false → record.realValue.isFinite = true →
      record.structuralStatus = .ok → ValueRules record
  | noValue : record.valueType = .noValue → record.hasIntegerValue = false →
      record.hasRealValue = false → record.structuralStatus = .noValue → ValueRules record

structure MeasurementRules (record : CanonicalRecord) : Prop where
  hasMeasInfoIndex : record.hasMeasInfoIndex = true
  hasMeasRecordIndex : record.hasMeasRecordIndex = true
  indexes : record.measInfoIndex = record.measRecordIndex
  hasDiagnosticCode : record.hasDiagnosticCode = false
  hasDiagnosticMessage : record.hasDiagnosticMessage = false
  descriptor : DescriptorRules record
  value : ValueRules record

/-- What the serializers print: the records that pass the validator. -/
inductive Accepted (record : CanonicalRecord) : Prop
  | measurement : record.recordKind = .measurement → CommonRules record →
      MeasurementRules record → Accepted record
  | diagnostic : record.recordKind = .diagnostic → CommonRules record →
      DiagnosticRules record → Accepted record

theorem validateStrings_iff {record : CanonicalRecord} :
    validateStrings record = true ↔
      (record.hasNodeType = true → ValidString record.nodeType) ∧
      (record.hasNodeId = true → ValidString record.nodeId) ∧
      (record.hasUeIdValue = true → ValidString record.ueIdValue) ∧
      (record.hasMeasurementName = true → ValidString record.measurementName) ∧
      (record.hasDiagnosticCode = true → ValidString record.diagnosticCode) ∧
      (record.hasDiagnosticMessage = true → ValidString record.diagnosticMessage) := by
  simp only [validateStrings, Bool.and_eq_true, optionalStringValid_iff, and_assoc]

theorem validateDiagnostic_eq_ok {record : CanonicalRecord} :
    validateDiagnostic record = .ok () ↔ DiagnosticRules record := by
  have hcode := CharArray.cString_eq_nil_iff record.diagnosticCode (by norm_num)
  simp only [validateDiagnostic, rejectIf_bind_eq_ok, rejectIf_eq_ok, ← hcode]
  constructor
  · rintro ⟨h1, h2, h3, h4, h5, h6⟩
    constructor <;> simp_all
  · rintro ⟨⟩
    simp_all

theorem validateDescriptor_eq_ok {record : CanonicalRecord} :
    validateDescriptor record = .ok () ↔ DescriptorRules record := by
  have hname := CharArray.cString_eq_nil_iff record.measurementName (by norm_num)
  constructor
  · intro h
    unfold validateDescriptor at h
    split at h
    · next ht =>
      simp only [rejectIf_eq_ok, ← hname] at h
      exact .name ht (by simp_all) (by simp_all) (by simp_all)
    · next ht =>
      simp only [rejectIf_eq_ok] at h
      exact .id ht (by simp_all) (by simp_all)
    · simp at h
  · rintro (⟨ht, h1, h2, h3⟩ | ⟨ht, h1, h2⟩)
    · simp [validateDescriptor, ht, h1, h3, ← hname, h2]
    · simp [validateDescriptor, ht, h1, h2]

theorem validateValue_eq_ok {record : CanonicalRecord} :
    validateValue record = .ok () ↔ ValueRules record := by
  constructor
  · intro h
    unfold validateValue at h
    split at h
    · next ht =>
      simp only [rejectIf_bind_eq_ok, rejectIf_eq_ok] at h
      exact .integer ht (by simp_all) (by simp_all) (by simp_all)
    · next ht =>
      simp only [rejectIf_bind_eq_ok, rejectIf_eq_ok] at h
      exact .real ht (by simp_all) (by simp_all) (by simp_all) (by simp_all)
    · next ht =>
      simp only [rejectIf_eq_ok] at h
      exact .noValue ht (by simp_all) (by simp_all) (by simp_all)
    · simp at h
  · rintro (⟨ht, h1, h2, h3⟩ | ⟨ht, h1, h2, h3, h4⟩ | ⟨ht, h1, h2, h3⟩)
    · simp [validateValue, ht, h1, h2, h3]
    · simp [validateValue, ht, h1, h2, h3, h4]
    · simp [validateValue, ht, h1, h2, h3]

theorem ValueRules.status {record : CanonicalRecord} (h : ValueRules record) :
    record.structuralStatus = .ok ∨ record.structuralStatus = .noValue := by
  cases h <;> simp_all

theorem validateMeasurement_eq_ok {record : CanonicalRecord} :
    validateMeasurement record = .ok () ↔ MeasurementRules record := by
  simp only [validateMeasurement, unit_bind_eq_ok, rejectIf_eq_ok, validateDescriptor_eq_ok,
    validateValue_eq_ok]
  constructor
  · rintro ⟨h1, h2, h3, h4, h5⟩
    constructor <;> simp_all
  · rintro ⟨h1, h2, h3, h4, h5, h6, h7⟩
    have hstatus : ¬ (record.structuralStatus ≠ .ok ∧ record.structuralStatus ≠ .noValue) := by
      rcases h7.status with h | h <;> simp [h]
    exact ⟨by simp [h1, h2, h3], hstatus, by simp [h4, h5], h6, h7⟩

/-- The validator accepts exactly the records that keep every rule. -/
theorem validateRecord_eq_ok {record : CanonicalRecord} :
    validateRecord record = .ok () ↔ Accepted record := by
  have hue := CharArray.cString_eq_nil_iff record.ueIdType (by norm_num)
  have hkind : recordKindName record.recordKind = none ↔ record.recordKind = .invalid := by
    cases record.recordKind <;> simp [recordKindName]
  have hstatus : structuralStatusName record.structuralStatus = none ↔
      record.structuralStatus = .invalid := by
    cases record.structuralStatus <;> simp [structuralStatusName]
  have hdesc : descriptorTypeName record.descriptorType = none ↔
      record.descriptorType = .invalid := by
    cases record.descriptorType <;> simp [descriptorTypeName]
  have hvalue : valueTypeName record.valueType = none ↔ record.valueType = .invalid := by
    cases record.valueType <;> simp [valueTypeName]
  simp only [validateRecord, rejectIf_bind_eq_ok, hkind, hstatus, hdesc, hvalue, ← hue,
    Bool.not_eq_true', not_or, Bool.not_eq_false, boundedStringValid_iff, validateStrings_iff]
  constructor
  · rintro ⟨h1, h2, h3, h4, ⟨h5, h6⟩, ⟨s1, s2, s3, s4, s5, s6⟩, h7, h8⟩
    have hc : CommonRules record :=
      ⟨h1, h2, h3, h4, h5, h6, s1, s2, s3, s4, s5, s6, by simpa using h7⟩
    split at h8
    · next hk => exact .diagnostic hk hc (validateDiagnostic_eq_ok.mp h8)
    · next hk =>
      refine .measurement ?_ hc (validateMeasurement_eq_ok.mp h8)
      cases hr : record.recordKind <;> simp_all
  · rintro (⟨hk, hc, h⟩ | ⟨hk, hc, h⟩)
    all_goals
      refine ⟨hc.recordKind, hc.structuralStatus, hc.descriptorType, hc.valueType,
        ⟨hc.ueIdType, hc.ueIdType_ne_nil⟩, ⟨hc.nodeType, hc.nodeId, hc.ueIdValue,
        hc.measurementName, hc.diagnosticCode, hc.diagnosticMessage⟩, ?_, ?_⟩
    · simpa using hc.incompleteFlag
    · simpa [hk] using validateMeasurement_eq_ok.mpr h
    · simpa using hc.incompleteFlag
    · simpa [hk] using validateDiagnostic_eq_ok.mpr h

theorem Accepted.common {record : CanonicalRecord} (h : Accepted record) : CommonRules record := by
  cases h <;> assumption

theorem canonicalRecordValidate_eq_ok {record : CanonicalRecord} :
    (canonicalRecordValidate (some record)).1 = .ok ↔ Accepted record := by
  rw [← validateRecord_eq_ok, canonicalRecordValidate]
  split <;> simp_all

def diagnosticSample : CanonicalRecord :=
  { canonicalRecordInit with
    recordKind := .diagnostic
    indicationSequence := 1
    messageFormat := 1
    ueIdType := canonicalRecordInit.ueIdType.store (bytes "none")
    structuralStatus := .invalidInput
    hasDiagnosticCode := true
    diagnosticCode := canonicalRecordInit.diagnosticCode.store (bytes "invalid_message_pointer") }

end TcdOran.Collector
