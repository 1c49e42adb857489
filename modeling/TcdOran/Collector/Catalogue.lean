import TcdOran.Collector.FileSink

/-! The catalogue of the 28 fields, and what the validator says about their values. -/
namespace TcdOran.Collector
open TcdOran.Lib

def catalogueNames : List String :=
  ["schema_version", "record_kind", "indication_sequence", "receive_timestamp_us",
   "kpm_header_timestamp_us", "message_format", "node_type", "node_id", "ue_report_index",
   "ue_id_type", "ue_id_value", "meas_data_index", "meas_info_index", "meas_record_index",
   "meas_data_lst_len", "meas_info_lst_len", "meas_record_len", "incomplete_flag_present",
   "incomplete_flag", "structural_status", "descriptor_type", "measurement_name",
   "measurement_id", "value_type", "integer_value", "real_value", "diagnostic_code",
   "diagnostic_message"]

theorem recordFields_names (record : CanonicalRecord) :
    (recordFields record).map Prod.fst = catalogueNames := rfl

theorem recordFields_length (record : CanonicalRecord) : (recordFields record).length = 28 := rfl

theorem catalogueNames_nodup : (catalogueNames.map chars).Nodup := by decide +kernel

/-- What the validator guarantees of a value that is printed. -/
def FieldValue.Printable : FieldValue → Prop
  | .string text => WellFormedUtf8 text
  | .real value => value.isFinite = true
  | _ => True

theorem printable_optionalField {present : Bool} {value : FieldValue}
    (h : present = true → value.Printable) : ∀ v ∈ optionalField present value, v.Printable := by
  cases present <;> simp_all [optionalField]

theorem Accepted.finite {record : CanonicalRecord} (h : Accepted record)
    (hreal : record.hasRealValue = true) : record.realValue.isFinite = true := by
  rcases h with ⟨-, -, hm⟩ | ⟨-, -, hd⟩
  · rcases hm.value with ⟨-, -, h0, -⟩ | ⟨-, -, -, hfin, -⟩ | ⟨-, -, h0, -⟩
    · simp [h0] at hreal
    · exact hfin
    · simp [h0] at hreal
  · simp [hd.hasRealValue] at hreal

theorem plainAscii_names (record : CanonicalRecord) :
    PlainAscii (nameOrEmpty (recordKindName record.recordKind)) ∧
    PlainAscii (nameOrEmpty (structuralStatusName record.structuralStatus)) ∧
    PlainAscii (nameOrEmpty (descriptorTypeName record.descriptorType)) ∧
    PlainAscii (nameOrEmpty (valueTypeName record.valueType)) := by
  refine ⟨?_, ?_, ?_, ?_⟩
  · cases record.recordKind <;> decide
  · cases record.structuralStatus <;> decide
  · cases record.descriptorType <;> decide
  · cases record.valueType <;> decide

/-- Every string of an accepted record is UTF-8, and every real number is finite. -/
theorem Accepted.printable {record : CanonicalRecord} (h : Accepted record) :
    ∀ field ∈ recordFields record, ∀ value ∈ field.2, value.Printable := by
  obtain ⟨hkind, hstatus, hdescriptor, hvalue⟩ := plainAscii_names record
  have hc := h.common
  have hversion : PlainAscii canonicalSchemaVersion := by decide
  have hsome {v : FieldValue} (hv : v.Printable) : ∀ w ∈ some v, w.Printable := by simp [hv]
  have hnatural (n : ℕ) : ∀ w ∈ some (FieldValue.natural n), w.Printable := hsome trivial
  have hoptional (present : Bool) (n : ℕ) :
      ∀ w ∈ optionalField present (.natural n), w.Printable :=
    printable_optionalField fun _ => trivial
  simp only [recordFields, List.forall_mem_cons]
  exact ⟨hsome hversion.wellFormedUtf8, hsome hkind.wellFormedUtf8, hnatural _, hnatural _,
    hoptional _ _, hnatural _,
    printable_optionalField fun hp => (hc.nodeType hp).2,
    printable_optionalField fun hp => (hc.nodeId hp).2,
    hoptional _ _, hsome hc.ueIdType.2,
    printable_optionalField fun hp => (hc.ueIdValue hp).2,
    hoptional _ _, hoptional _ _, hoptional _ _, hnatural _, hnatural _, hnatural _,
    hsome trivial, printable_optionalField fun _ => trivial,
    hsome hstatus.wellFormedUtf8, hsome hdescriptor.wellFormedUtf8,
    printable_optionalField fun hp => (hc.measurementName hp).2,
    hoptional _ _, hsome hvalue.wellFormedUtf8,
    printable_optionalField fun _ => trivial,
    printable_optionalField fun hp => h.finite hp,
    printable_optionalField fun hp => (hc.diagnosticCode hp).2,
    printable_optionalField fun hp => (hc.diagnosticMessage hp).2,
    fun _ hmem => absurd hmem List.not_mem_nil⟩

end TcdOran.Collector
