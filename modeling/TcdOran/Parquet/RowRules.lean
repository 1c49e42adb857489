import TcdOran.Parquet.TypedRow

/-! `validate_semantics` as rules on typed rows: the rules that the collector's validator has as
well, and the one it has not. -/
namespace TcdOran.Parquet
open TcdOran.Lib

structure CommonRules (r : TypedRow) : Prop where
  schemaVersion : r.schemaVersion = chars schemaVersion
  recordKind : r.recordKind ∈ recordKinds.map chars
  structuralStatus : r.structuralStatus ∈ structuralStatuses.map chars
  descriptorType : r.descriptorType ∈ descriptorTypes.map chars
  valueType : r.valueType ∈ valueTypes.map chars
  ueIdType : r.ueIdType.units ≠ []
  incompleteFlag : r.incompleteFlag.isSome = r.incompleteFlagPresent

structure DiagnosticRules (r : TypedRow) : Prop where
  measInfoIndex : r.measInfoIndex = none
  measRecordIndex : r.measRecordIndex = none
  descriptorType : r.descriptorType = chars "unknown"
  valueType : r.valueType = chars "unknown"
  measurementName : r.measurementName = none
  measurementId : r.measurementId = none
  integerValue : r.integerValue = none
  realValue : r.realValue = none
  diagnosticCode : r.diagnosticCode.isSome = true
  lengths : r.structuralStatus = chars "length_mismatch" → r.measInfoLstLen ≠ r.measRecordLen

inductive DescriptorRules (r : TypedRow) : Prop
  | name : r.descriptorType = chars "name" → r.measurementName.isSome = true →
      r.measurementId = none → DescriptorRules r
  | id : r.descriptorType = chars "id" → r.measurementId.isSome = true →
      r.measurementName = none → DescriptorRules r

inductive ValueRules (r : TypedRow) : Prop
  | integer : r.valueType = chars "integer" → r.integerValue.isSome = true →
      r.realValue = none → ValueRules r
  | real : r.valueType = chars "real" → r.realValue.isSome = true →
      r.integerValue = none → ValueRules r
  | noValue : r.valueType = chars "no_value" → r.integerValue = none →
      r.realValue = none → ValueRules r

structure MeasurementRules (r : TypedRow) : Prop where
  measInfoIndex : r.measInfoIndex.isSome = true
  indexes : r.measInfoIndex = r.measRecordIndex
  diagnosticCode : r.diagnosticCode = none
  diagnosticMessage : r.diagnosticMessage = none
  descriptor : DescriptorRules r
  value : ValueRules r

/-- The rules that both validators have. -/
inductive SharedRules (r : TypedRow) : Prop
  | diagnostic : r.recordKind = chars "diagnostic" → CommonRules r → DiagnosticRules r →
      SharedRules r
  | measurement : r.recordKind = chars "measurement" → CommonRules r → MeasurementRules r →
      SharedRules r

/-- The rule the converter adds. -/
def ConverterRule (r : TypedRow) : Prop :=
  r.recordKind = chars "diagnostic" → r.diagnosticMessage.isSome = true

/-! ### The checks -/

@[simp] theorem check_bind_eq_ok {c : Prop} [Decidable c] {message : String} {α : Type}
    {f : Unit → Except Message α} {a : α} :
    (check c message >>= f) = .ok a ↔ c ∧ f () = .ok a := require_bind_eq_ok

@[simp] theorem check_eq_ok {c : Prop} [Decidable c] {message : String} {u : Unit} :
    check c message = .ok u ↔ c := require_eq_ok

@[simp] theorem isStr_str {units : List ℕ} {text : String} :
    isStr (some (.str units)) text ↔ units = chars text := by
  simp [isStr]

theorem isOneOf_str {units : List ℕ} {texts : List String} :
    isOneOf (some (.str units)) texts ↔ units ∈ texts.map chars := by
  simp [isOneOf, isStr, eq_comm]

@[simp] theorem truthy_str {units : List ℕ} :
    truthy (some (.str units)) = true ↔ units ≠ [] := by
  simp [truthy]

section
variable (r : TypedRow)

theorem validateCommon_eq_ok : validateCommon r.toRow = .ok () ↔ CommonRules r := by
  have h1 : r.toRow.get "schema_version" = some (.str r.schemaVersion) := rfl
  have h2 : r.toRow.get "record_kind" = some (.str r.recordKind) := rfl
  have h3 : r.toRow.get "structural_status" = some (.str r.structuralStatus) := rfl
  have h4 : r.toRow.get "descriptor_type" = some (.str r.descriptorType) := rfl
  have h5 : r.toRow.get "value_type" = some (.str r.valueType) := rfl
  have h6 : r.toRow.get "ue_id_type" = some (.str r.ueIdType.units) := rfl
  have h7 : r.toRow.get "incomplete_flag_present" = some (.bool r.incompleteFlagPresent) := rfl
  have h8 : r.toRow.get "incomplete_flag" = r.incompleteFlag.map Scalar.bool := rfl
  simp only [validateCommon, h1, h2, h3, h4, h5, h6, h7, h8, check_bind_eq_ok, isOneOf_str,
    isStr_str, truthy_str]
  have hflag : (if !truthy (some (.bool r.incompleteFlagPresent)) then
      check (r.incompleteFlag.map Scalar.bool = none) "absent incomplete flag must be null"
      else check (r.incompleteFlag.map Scalar.bool ≠ none)
        "present incomplete flag must have a value") = .ok () ↔
      r.incompleteFlag.isSome = r.incompleteFlagPresent := by
    cases r.incompleteFlagPresent <;> cases r.incompleteFlag <;> simp [truthy]
  rw [hflag]
  constructor
  · rintro ⟨h1, h2, h3, h4, h5, h6, h7⟩
    exact ⟨h1, h2, h3, h4, h5, h6, h7⟩
  · rintro ⟨h1, h2, h3, h4, h5, h6, h7⟩
    exact ⟨h1, h2, h3, h4, h5, h6, h7⟩

theorem get_indexes :
    r.toRow.get "meas_info_index" = r.measInfoIndex.map u32Scalar ∧
    r.toRow.get "meas_record_index" = r.measRecordIndex.map u32Scalar := ⟨rfl, rfl⟩

theorem get_descriptor :
    r.toRow.get "descriptor_type" = some (.str r.descriptorType) ∧
    r.toRow.get "measurement_name" = r.measurementName.map textScalar ∧
    r.toRow.get "measurement_id" = r.measurementId.map u32Scalar := ⟨rfl, rfl, rfl⟩

theorem get_value :
    r.toRow.get "value_type" = some (.str r.valueType) ∧
    r.toRow.get "integer_value" = r.integerValue.map i64Scalar ∧
    r.toRow.get "real_value" = r.realValue.map realScalar := ⟨rfl, rfl, rfl⟩

theorem get_diagnostics :
    r.toRow.get "diagnostic_code" = r.diagnosticCode.map textScalar ∧
    r.toRow.get "diagnostic_message" = r.diagnosticMessage.map textScalar := ⟨rfl, rfl⟩

theorem get_status :
    r.toRow.get "structural_status" = some (.str r.structuralStatus) ∧
    r.toRow.get "meas_info_lst_len" = some (u32Scalar r.measInfoLstLen) ∧
    r.toRow.get "meas_record_len" = some (u32Scalar r.measRecordLen) := ⟨rfl, rfl, rfl⟩

theorem u32Scalar_inj {a b : UInt32} : u32Scalar a = u32Scalar b ↔ a = b := by
  simp [u32Scalar, UInt32.toNat_inj]

theorem validateDiagnostic_eq_ok : validateDiagnostic r.toRow = .ok () ↔
    DiagnosticRules r ∧ r.diagnosticMessage.isSome = true := by
  obtain ⟨hinfo, hrecord⟩ := get_indexes r
  obtain ⟨htype, hname, hid⟩ := get_descriptor r
  obtain ⟨hvalue, hinteger, hreal⟩ := get_value r
  obtain ⟨hcode, hmessage⟩ := get_diagnostics r
  obtain ⟨hstatus, hinfoLen, hrecordLen⟩ := get_status r
  have hlengths : (if r.structuralStatus = chars "length_mismatch" then
      check (some (u32Scalar r.measInfoLstLen) ≠ some (u32Scalar r.measRecordLen))
        "length_mismatch diagnostic requires unequal lengths" else pure ()) = .ok () ↔
      (r.structuralStatus = chars "length_mismatch" → r.measInfoLstLen ≠ r.measRecordLen) := by
    split <;> simp_all [u32Scalar_inj, pure, Except.pure]
  simp only [validateDiagnostic, hinfo, hrecord, htype, hname, hid, hvalue, hinteger, hreal, hcode,
    hmessage, hstatus, hinfoLen, hrecordLen, check_bind_eq_ok, isStr_str, Option.map_eq_none_iff,
    ne_eq, ← Option.isSome_iff_ne_none, hlengths]
  constructor
  · rintro ⟨h1, h2, h3, h4, h5, h6, h7, h8, h9, h10, h11⟩
    exact ⟨⟨h1, h2, h3, h4, h5, h6, h7, h8, h9, h11⟩, h10⟩
  · rintro ⟨⟨h1, h2, h3, h4, h5, h6, h7, h8, h9, h11⟩, h10⟩
    exact ⟨h1, h2, h3, h4, h5, h6, h7, h8, h9, h10, h11⟩

theorem validateDescriptor_eq_ok : validateDescriptor r.toRow = .ok () ↔ DescriptorRules r := by
  obtain ⟨htype, hname, hid⟩ := get_descriptor r
  have hne : chars "name" ≠ chars "id" := by decide
  simp only [validateDescriptor, htype, hname, hid, isStr_str]
  constructor
  · intro h
    split at h
    · next ht =>
      simp only [check_bind_eq_ok, check_eq_ok, ne_eq, Option.map_eq_none_iff,
        ← Option.isSome_iff_ne_none] at h
      exact .name ht h.1 h.2
    · split at h
      · next ht =>
        simp only [check_bind_eq_ok, check_eq_ok, ne_eq, Option.map_eq_none_iff,
          ← Option.isSome_iff_ne_none] at h
        exact .id ht h.1 h.2
      · simp at h
  · rintro (⟨ht, h1, h2⟩ | ⟨ht, h1, h2⟩)
    · simp [ht, h2, Option.isSome_iff_ne_none.mp h1]
    · simp [ht, hne.symm, h2, Option.isSome_iff_ne_none.mp h1]

theorem validateValue_eq_ok : validateValue r.toRow = .ok () ↔ ValueRules r := by
  obtain ⟨htype, hinteger, hreal⟩ := get_value r
  have hne : chars "integer" ≠ chars "real" ∧ chars "integer" ≠ chars "no_value" ∧
      chars "real" ≠ chars "no_value" := by decide
  simp only [validateValue, htype, hinteger, hreal, isStr_str]
  constructor
  · intro h
    split at h
    · next ht =>
      simp only [check_bind_eq_ok, check_eq_ok, ne_eq, Option.map_eq_none_iff,
        ← Option.isSome_iff_ne_none] at h
      exact .integer ht h.1 h.2
    · split at h
      · next ht =>
        simp only [check_bind_eq_ok, check_eq_ok, ne_eq, Option.map_eq_none_iff,
          ← Option.isSome_iff_ne_none] at h
        exact .real ht h.1 h.2
      · split at h
        · next ht =>
          simp only [check_bind_eq_ok, check_eq_ok, Option.map_eq_none_iff] at h
          exact .noValue ht h.1 h.2
        · simp at h
  · rintro (⟨ht, h1, h2⟩ | ⟨ht, h1, h2⟩ | ⟨ht, h1, h2⟩)
    · simp [ht, h2, Option.isSome_iff_ne_none.mp h1]
    · simp [ht, hne.1.symm, h2, Option.isSome_iff_ne_none.mp h1]
    · simp [ht, hne.2.1.symm, hne.2.2.symm, h1, h2]

theorem validateMeasurement_eq_ok :
    validateMeasurement r.toRow = .ok () ↔ MeasurementRules r := by
  obtain ⟨hinfo, hrecord⟩ := get_indexes r
  obtain ⟨hcode, hmessage⟩ := get_diagnostics r
  have hindexes : r.measInfoIndex.map u32Scalar = r.measRecordIndex.map u32Scalar ↔
      r.measInfoIndex = r.measRecordIndex := by
    cases r.measInfoIndex <;> cases r.measRecordIndex <;> simp [u32Scalar_inj]
  simp only [validateMeasurement, hinfo, hrecord, hcode, hmessage, check_eq_ok,
    unit_bind_eq_ok, ne_eq, Option.map_eq_none_iff, ← Option.isSome_iff_ne_none, hindexes,
    validateDescriptor_eq_ok, validateValue_eq_ok]
  constructor
  · rintro ⟨h1, -, h3, h4, h5, h6, h7⟩
    exact ⟨h1, h3, h4, h5, h6, h7⟩
  · rintro ⟨h1, h3, h4, h5, h6, h7⟩
    exact ⟨h1, h3 ▸ h1, h3, h4, h5, h6, h7⟩

/-- The converter accepts a typed row exactly when the shared rules and its own rule hold. -/
theorem validateSemantics_eq_ok :
    validateSemantics r.toRow = .ok () ↔ SharedRules r ∧ ConverterRule r := by
  have hkind : r.toRow.get "record_kind" = some (.str r.recordKind) := rfl
  have hne : chars "diagnostic" ≠ chars "measurement" := by decide
  simp only [validateSemantics, unit_bind_eq_ok, validateCommon_eq_ok, hkind, isStr_str]
  constructor
  · rintro ⟨hc, h⟩
    split at h
    · next hk =>
      obtain ⟨hd, hm⟩ := (validateDiagnostic_eq_ok r).mp h
      exact ⟨.diagnostic hk hc hd, fun _ => hm⟩
    · next hk =>
      refine ⟨.measurement ?_ hc ((validateMeasurement_eq_ok r).mp h), fun h => absurd h hk⟩
      simpa [recordKinds, hk] using hc.recordKind
  · rintro ⟨⟨hk, hc, hd⟩ | ⟨hk, hc, hm⟩, hrule⟩
    · exact ⟨hc, by rw [if_pos hk]; exact (validateDiagnostic_eq_ok r).mpr ⟨hd, hrule hk⟩⟩
    · refine ⟨hc, ?_⟩
      rw [if_neg (by rw [hk]; exact hne.symm)]
      exact (validateMeasurement_eq_ok r).mpr hm

end

end TcdOran.Parquet
