import TcdOran.Collector.OutputAdapter

/-! Which records of an indication the pipeline's validator lets through. -/
namespace TcdOran.Collector
open TcdOran.Lib

/-! ### The records of an indication -/

/-- What a value record's status says about its value. -/
inductive ValueStatus : MeasurementStatus → MeasurementValue → Prop
  | integer (value : Int64) : ValueStatus .ok (.integer value)
  | real (value : Binary64) : ValueStatus .ok (.real value)
  | noValue : ValueStatus .noValue .noValue

structure MeasurementShape (record : MeasurementRecord) : Prop where
  indexes : record.measInfoIndex = record.measRecordIndex
  descriptor : record.descriptor.type = .name ∧ record.descriptor.measurementName.Terminated ∨
    record.descriptor.type = .id
  value : ValueStatus record.structuralStatus record.value

/-- The shape of every record that the callback hands to the output adapter. -/
structure Handed (record : MeasurementRecord) : Prop where
  nodeId_terminated : record.indication.e2NodeId.Terminated
  nodeId : PlainAscii record.indication.e2NodeId.cString
  incompleteFlag : record.incompleteFlagPresent = false → record.incompleteFlag = false
  lengths : record.structuralStatus = .lengthMismatch →
    record.measInfoLstLen ≠ record.measRecordLen
  measurement : record.IsMeasurement → MeasurementShape record

theorem copyDescriptor_supported {info : Option MeasType} (h : (copyDescriptor info).2 = true) :
    (copyDescriptor info).1.type = .name ∧ (copyDescriptor info).1.measurementName.Terminated ∨
      (copyDescriptor info).1.type = .id := by
  match info with
  | none => simp [copyDescriptor] at h
  | some .other => simp [copyDescriptor] at h
  | some (.id id) => exact .inr rfl
  | some (.name buf) =>
    left
    simp only [copyDescriptor] at h ⊢
    split at h
    · simp at h
    · next hbuf =>
      rw [if_neg hbuf]
      exact ⟨rfl, CharArray.terminated_store _ _ (by norm_num)⟩

theorem copyValue_supported {record : Option MeasRecord} (h : (copyValue record).2.1 = true) :
    ValueStatus (if (copyValue record).2.2 then .noValue else .ok) (copyValue record).1 := by
  match record with
  | none => simp [copyValue] at h
  | some .other => simp [copyValue] at h
  | some (.integer value) => exact .integer value
  | some (.real value) => exact .real value
  | some .noValue => exact .noValue

theorem valueStatus_measurement {ue descriptor value noValue : Bool}
    (h : valueStatus ue descriptor value noValue = .ok ∨
      valueStatus ue descriptor value noValue = .noValue) :
    descriptor = true ∧ value = true ∧
      valueStatus ue descriptor value noValue = if noValue then .noValue else .ok := by
  cases ue <;> cases descriptor <;> cases value <;> simp_all [valueStatus]

theorem lengthToU32_of_le {n : ℕ} (h : n ≤ 65535) : (lengthToU32 n).toNat = n := by
  have hmax : ¬ n > uint32Max.toNat := by
    have : uint32Max.toNat = 4294967295 := rfl
    omega
  rw [lengthToU32, if_neg hmax, UInt32.toNat_ofNat', Nat.mod_eq_of_lt (by omega)]

/-- A mismatch is reported only for two supported lengths. -/
theorem validateRowShape_lengthMismatch {shape : RowShape}
    (h : (validateRowShape shape).status = .lengthMismatch) :
    shape.recordLen ≤ shape.maximumSupportedLength ∧
      shape.metadataLen ≤ shape.maximumSupportedLength ∧
      shape.metadataLen ≠ shape.recordLen := by
  unfold validateRowShape at h
  split_ifs at h with h1 h2 h3 h4 h5 h6 <;> simp [rowRejected, rowAccepted] at h
  simp only [not_or] at h2 h5
  exact ⟨by omega, by omega, h6⟩

/-- The facts about an indication's context that its records keep. -/
structure ContextShape (indication : IndicationContext) : Prop where
  nodeId_terminated : indication.e2NodeId.Terminated
  nodeId : PlainAscii indication.e2NodeId.cString

section
variable {indication : IndicationContext} {ueReportIndex : UInt32} {copiedUe : UeId}
  {message : IndMsgFormat1} {data : MeasData} {dataIndex : ℕ}

theorem incompleteFlag_absent (h : data.incompleteFlag.isSome = false) :
    data.incompleteFlag.getD false = false := by
  cases hflag : data.incompleteFlag <;> simp_all

theorem handed_rejectedRecord (hctx : ContextShape indication) :
    Handed (rejectedRecord (rowRecord indication ueReportIndex copiedUe message data dataIndex)
      (validateRowShape (rowShape message data)).status) := by
  refine ⟨hctx.nodeId_terminated, hctx.nodeId, incompleteFlag_absent, fun hstatus heq => ?_,
    fun hm => ?_⟩
  · have hmismatch : (validateRowShape (rowShape message data)).status = .lengthMismatch := by
      revert hstatus
      simp only [rejectedRecord]
      cases (validateRowShape (rowShape message data)).status <;> simp [rejectedStatus]
    obtain ⟨hrec, hinfo, hne⟩ := validateRowShape_lengthMismatch hmismatch
    change data.measRecordLst.len ≤ 65535 at hrec
    change message.measInfoLst.len ≤ 65535 at hinfo
    have hlen : (lengthToU32 message.measInfoLst.len).toNat =
        (lengthToU32 data.measRecordLst.len).toNat := congrArg UInt32.toNat heq
    rw [lengthToU32_of_le hinfo, lengthToU32_of_le hrec] at hlen
    exact hne hlen
  · exfalso
    revert hm
    simp only [MeasurementRecord.IsMeasurement, rejectedRecord]
    cases (validateRowShape (rowShape message data)).status <;> simp [rejectedStatus]

theorem handed_valueRecord {ueSupported : Bool} {info : Option MeasType}
    {value : Option MeasRecord} {index : ℕ} (hctx : ContextShape indication) :
    Handed (valueRecord (rowRecord indication ueReportIndex copiedUe message data dataIndex)
      ueSupported info value index) := by
  refine ⟨hctx.nodeId_terminated, hctx.nodeId, incompleteFlag_absent, fun hstatus => ?_,
    fun hm => ?_⟩
  · exfalso
    revert hstatus
    simp only [valueRecord, valueStatus]
    split_ifs <;> simp
  · obtain ⟨hd, hv, hstatus⟩ := valueStatus_measurement hm
    refine ⟨rfl, copyDescriptor_supported hd, ?_⟩
    simp only [valueRecord]
    rw [hstatus]
    exact copyValue_supported hv

theorem handed_of_mem_processRow {ueSupported : Bool} {record : MeasurementRecord}
    (hctx : ContextShape indication)
    (h : record ∈ processRow indication ueReportIndex copiedUe ueSupported message data
      dataIndex) : Handed record := by
  simp only [processRow] at h
  split at h
  · obtain rfl := List.mem_singleton.mp h
    exact handed_rejectedRecord hctx
  · obtain ⟨index, -, rfl⟩ := List.mem_map.mp h
    exact handed_valueRecord hctx

end

theorem handed_of_mem_processFormat1 {indication : IndicationContext} {ueReportIndex : UInt32}
    {ueSource : Option UeIdE2sm} {message : IndMsgFormat1} {record : MeasurementRecord}
    (hctx : ContextShape indication)
    (h : record ∈ (processFormat1 indication ueReportIndex ueSource message).records) :
    Handed record := by
  unfold processFormat1 at h
  split at h
  · simp at h
  · obtain ⟨⟨data, dataIndex⟩, -, hrow⟩ := List.mem_flatMap.mp h
    exact handed_of_mem_processRow hctx hrow

theorem handed_unknownFormatRecord {indication : IndicationContext}
    (hctx : ContextShape indication) : Handed (unknownFormatRecord indication) := by
  refine ⟨hctx.nodeId_terminated, hctx.nodeId, fun _ => rfl, fun h => ?_, fun h => ?_⟩
  · simp [unknownFormatRecord] at h
  · simp [MeasurementRecord.IsMeasurement, unknownFormatRecord] at h

theorem ContextShape.withCount {indication : IndicationContext} (h : ContextShape indication)
    (ueReportCount : UInt32) : ContextShape { indication with ueReportCount } :=
  ⟨h.nodeId_terminated, h.nodeId⟩

theorem handed_of_mem_processMessage {indication : IndicationContext} {msg : IndMsg}
    {record : MeasurementRecord} (hctx : ContextShape indication)
    (h : record ∈ (processMessage indication msg).records) : Handed record := by
  cases msg with
  | format1 message => exact handed_of_mem_processFormat1 (hctx.withCount _) h
  | format3 reports =>
    simp only [processMessage] at h
    split at h
    · simp at h
    · obtain ⟨processed, hmem, hrecord⟩ := List.mem_flatMap.mp h
      obtain ⟨⟨report, ueIndex⟩, -, rfl⟩ := List.mem_map.mp hmem
      exact handed_of_mem_processFormat1 (hctx.withCount _) hrecord
  | other type =>
    obtain rfl := List.mem_singleton.mp h
    exact handed_unknownFormatRecord hctx

theorem plainAscii_nodeIdText (node : GlobalE2NodeId) : PlainAscii (nodeIdText node) := by
  have hnb : PlainAscii (bytes "nb_id=") := by decide
  have hcuDu : PlainAscii (bytes ";cu_du_id=") := by decide
  unfold nodeIdText
  split
  · exact ((hnb.append (plainAscii_decimal _)).append hcuDu).append (plainAscii_decimal _)
  · exact hnb.append (plainAscii_decimal _)

theorem plainAscii_store {n : ℕ} (d : CharArray n) {text : List UInt8} (hn : 0 < n)
    (h : PlainAscii text) : (d.store text).Terminated ∧ PlainAscii (d.store text).cString := by
  refine ⟨CharArray.terminated_store d text hn, ?_⟩
  rw [CharArray.cString_store d hn h.zero_notMem]
  exact h.take _

theorem plainAscii_formatNodeId {n : ℕ} (node : GlobalE2NodeId) (d : CharArray n) (hn : 0 < n) :
    (formatNodeId node d).1.Terminated ∧ PlainAscii (formatNodeId node d).1.cString :=
  plainAscii_store d hn (plainAscii_nodeIdText node)

theorem plainAscii_indicationNodeId (node : GlobalE2NodeId) :
    (indicationNodeId node).1.Terminated ∧ PlainAscii (indicationNodeId node).1.cString := by
  have hunavailable : PlainAscii (bytes "unavailable") := by decide
  have hformat := plainAscii_formatNodeId node (Vector.replicate nodeIdCapacity 0) (by norm_num)
  unfold indicationNodeId
  generalize formatNodeId node (Vector.replicate nodeIdCapacity 0) = formatted at hformat ⊢
  cases hfits : formatted.2 <;> simp only [hfits, if_true, Bool.false_eq_true, if_false]
  · exact plainAscii_store formatted.1 (by norm_num) hunavailable
  · exact hformat

theorem contextShape_indicationContext (context : CallbackContext) (kpm : KpmIndData)
    (node : GlobalE2NodeId) (clock : Option Int64) :
    ContextShape (indicationContext context kpm node clock) :=
  ⟨(plainAscii_indicationNodeId node).1, (plainAscii_indicationNodeId node).2⟩

theorem handed_of_mem_flexricCallback {context : CallbackContext} {rd : Option AgentRead}
    {e2Node : Option GlobalE2NodeId} {clock : Option Int64} {record : MeasurementRecord}
    (h : record ∈ (flexricCallback context rd e2Node clock).2) : Handed record := by
  unfold flexricCallback at h
  split at h
  · next kpm node =>
    exact handed_of_mem_processMessage (contextShape_indicationContext context kpm node clock) h
  · simp at h

/-! ### The image of a record -/

/-- The name and the value the validator lets through. -/
structure Presentable (record : MeasurementRecord) : Prop where
  name_ne_nil : record.descriptor.type = .name → record.descriptor.measurementName.cString ≠ []
  name : record.descriptor.type = .name →
    WellFormedUtf8 record.descriptor.measurementName.cString
  finite : ∀ value, record.value = .real value → value.isFinite = true

theorem plainAscii_ueIdTexts (ueId : UeId) :
    PlainAscii (bytes (ueIdTexts ueId).1) ∧ bytes (ueIdTexts ueId).1 ≠ [] ∧
      ∀ text, (ueIdTexts ueId).2 = some text → PlainAscii text := by
  have hamf : PlainAscii (bytes "amf_ue_ngap_id=") := by decide
  have hf1ap : PlainAscii (bytes "gnb_cu_ue_f1ap=") := by decide
  have he1ap : PlainAscii (bytes "gnb_cu_cp_ue_e1ap=") := by decide
  cases htype : ueId.type <;> simp only [ueIdTexts, htype]
  · exact ⟨by decide, by decide, by simp⟩
  · refine ⟨by decide, by decide, fun text htext => ?_⟩
    split at htext
    · obtain rfl := Option.some.inj htext
      exact hamf.append (plainAscii_decimal _)
    · simp at htext
  · refine ⟨by decide, by decide, fun text htext => ?_⟩
    split at htext
    · obtain rfl := Option.some.inj htext
      exact hf1ap.append (plainAscii_decimal _)
    · simp at htext
  · refine ⟨by decide, by decide, fun text htext => ?_⟩
    split at htext
    · obtain rfl := Option.some.inj htext
      exact he1ap.append (plainAscii_decimal _)
    · simp at htext

theorem validString_storeOptional {n : ℕ} (d : CharArray n) (hn : 0 < n)
    {text : Option (List UInt8)} (h : ∀ t, text = some t → PlainAscii t)
    (hsome : text.isSome = true) : ValidString (storeOptional d text) := by
  obtain ⟨t, rfl⟩ := Option.isSome_iff_exists.mp hsome
  exact validString_store d hn (h t rfl)

theorem cString_store_ne_nil {n : ℕ} (d : CharArray n) {text : List UInt8} (hn : 1 < n)
    (h : PlainAscii text) (hne : text ≠ []) : (d.store text).cString ≠ [] := by
  rw [CharArray.cString_store d (by omega) h.zero_notMem, Ne, List.take_eq_nil_iff]
  rintro (h0 | h0)
  · omega
  · exact hne h0

theorem plainAscii_nodeIdOf {record : MeasurementRecord} (h : Handed record) :
    ∀ text, nodeIdOf record = some text → PlainAscii text := by
  intro text htext
  unfold nodeIdOf at htext
  split at htext
  · exact Option.some.inj htext ▸ h.nodeId
  · simp at htext

/-- What an image has of the rules for every record, before its kind is filled in. -/
structure CommonStrings (record : CanonicalRecord) : Prop where
  ueIdType : ValidString record.ueIdType
  ueIdType_ne_nil : record.ueIdType.cString ≠ []
  nodeType : record.hasNodeType = true → ValidString record.nodeType
  nodeId : record.hasNodeId = true → ValidString record.nodeId
  ueIdValue : record.hasUeIdValue = true → ValidString record.ueIdValue
  incompleteFlag : record.incompleteFlagPresent = false → record.incompleteFlag = false

theorem commonStrings_copyCommon {record : MeasurementRecord} (h : Handed record) :
    CommonStrings (copyCommon canonicalRecordInit record) := by
  obtain ⟨htype, hne, hvalue⟩ := plainAscii_ueIdTexts record.ueId
  have hraw : PlainAscii (bytes "raw_") := by decide
  exact
    { ueIdType := validString_store _ (by norm_num) htype
      ueIdType_ne_nil := cString_store_ne_nil _ (by norm_num) htype hne
      nodeType := fun _ => validString_store _ (by norm_num) (hraw.append (plainAscii_decimal _))
      nodeId := validString_storeOptional _ (by norm_num) (plainAscii_nodeIdOf h)
      ueIdValue := validString_storeOptional _ (by norm_num) hvalue
      incompleteFlag := h.incompleteFlag }

theorem plainAscii_diagnosticCodeText (status : MeasurementStatus) :
    PlainAscii (bytes (diagnosticCodeText status)) ∧ bytes (diagnosticCodeText status) ≠ [] := by
  cases status <;> decide

theorem plainAscii_diagnosticMessageText (record : MeasurementRecord) :
    PlainAscii (diagnosticMessageText record) := by
  have hinfo : PlainAscii (bytes "meas_info_lst_len=") := by decide
  have hrecord : PlainAscii (bytes " meas_record_len=") := by decide
  exact ((hinfo.append (plainAscii_decimal _)).append hrecord).append (plainAscii_decimal _)

theorem mapDiagnosticStatus_lengthMismatch {status : MeasurementStatus}
    (h : mapDiagnosticStatus status = .lengthMismatch) : status = .lengthMismatch := by
  cases status <;> simp_all [mapDiagnosticStatus]

/-- The image of a diagnostic is always accepted. -/
theorem accepted_copyDiagnostic {record : MeasurementRecord} (h : Handed record) :
    Accepted (copyDiagnostic (copyCommon canonicalRecordInit record) record) := by
  obtain ⟨hcode, hcode_ne⟩ := plainAscii_diagnosticCodeText record.structuralStatus
  have hs := commonStrings_copyCommon h
  have hstatus (status : StructuralStatus)
      (hs : status = .ok ∨ status = .noValue ∨ status = .invalid) :
      mapDiagnosticStatus record.structuralStatus ≠ status := by
    cases record.structuralStatus <;> rcases hs with rfl | rfl | rfl <;>
      simp [mapDiagnosticStatus]
  refine .diagnostic rfl ?_ ?_
  · exact
      { recordKind := by simp [copyDiagnostic]
        structuralStatus := hstatus _ (by simp)
        descriptorType := by simp [copyDiagnostic]
        valueType := by simp [copyDiagnostic]
        ueIdType := hs.ueIdType
        ueIdType_ne_nil := hs.ueIdType_ne_nil
        nodeType := hs.nodeType
        nodeId := hs.nodeId
        ueIdValue := hs.ueIdValue
        measurementName := fun hname => absurd hname Bool.false_ne_true
        diagnosticCode := fun _ => validString_store _ (by norm_num) hcode
        diagnosticMessage := fun _ =>
          validString_store _ (by norm_num) (plainAscii_diagnosticMessageText record)
        incompleteFlag := hs.incompleteFlag }
  · exact
      { hasMeasInfoIndex := rfl
        hasMeasRecordIndex := rfl
        descriptorType := rfl
        valueType := rfl
        hasMeasurementName := rfl
        hasMeasurementId := rfl
        hasIntegerValue := rfl
        hasRealValue := rfl
        hasDiagnosticCode := rfl
        diagnosticCode_ne_nil := cString_store_ne_nil _ (by norm_num) hcode hcode_ne
        status_ne_ok := hstatus _ (by simp)
        status_ne_noValue := hstatus _ (by simp)
        lengths := fun hmismatch => h.lengths (mapDiagnosticStatus_lengthMismatch hmismatch) }

section
variable (destination : CanonicalRecord)

variable {record : MeasurementRecord}

/-- Neither the name nor the value of a measurement touches the fields of every record. -/
theorem commonStrings_copyMeasurement (hs : CommonStrings destination) :
    CommonStrings (copyMeasurement destination record) := by
  unfold copyMeasurement copyMeasuredName
  cases record.descriptor.type <;> cases record.value <;>
    exact ⟨hs.ueIdType, hs.ueIdType_ne_nil, hs.nodeType, hs.nodeId, hs.ueIdValue,
      hs.incompleteFlag⟩

/-- The fields of a measurement that depend on neither its name nor its value. -/
theorem copyMeasurement_fields :
    let image := copyMeasurement destination record
    image.recordKind = .measurement ∧
    image.structuralStatus = (if record.structuralStatus = .noValue then .noValue else .ok) ∧
    image.hasMeasInfoIndex = true ∧ image.hasMeasRecordIndex = true ∧
    image.measInfoIndex = record.measInfoIndex ∧ image.measRecordIndex = record.measRecordIndex ∧
    image.hasDiagnosticCode = destination.hasDiagnosticCode ∧
    image.hasDiagnosticMessage = destination.hasDiagnosticMessage := by
  unfold copyMeasurement copyMeasuredName
  cases record.descriptor.type <;> cases record.value <;>
    exact ⟨rfl, rfl, rfl, rfl, rfl, rfl, rfl, rfl⟩

theorem copyMeasurement_types :
    (copyMeasurement destination record).descriptorType ≠ .invalid ∧
    (copyMeasurement destination record).valueType ≠ .invalid := by
  unfold copyMeasurement copyMeasuredName
  cases record.descriptor.type <;> cases record.value <;>
    simp [copyMeasuredValue]

theorem copyMeasurement_measurementName (h : destination.hasMeasurementName = false)
    (hname : (copyMeasurement destination record).hasMeasurementName = true) :
    record.descriptor.type = .name ∧ (copyMeasurement destination record).measurementName =
      destination.measurementName.store record.descriptor.measurementName.cString := by
  revert hname
  unfold copyMeasurement copyMeasuredName
  cases record.descriptor.type <;> cases record.value <;> simp [copyMeasuredValue, h]

/-- The descriptor of an image is in order exactly when a name that is copied is not empty. -/
theorem descriptorRules_copyMeasurement (hname : destination.hasMeasurementName = false)
    (hid : destination.hasMeasurementId = false)
    (hd : record.descriptor.type = .name ∧ record.descriptor.measurementName.Terminated ∨
      record.descriptor.type = .id) :
    DescriptorRules (copyMeasurement destination record) ↔
      (record.descriptor.type = .name → record.descriptor.measurementName.cString ≠ []) := by
  unfold copyMeasurement copyMeasuredName
  rcases hd with ⟨htype, hterm⟩ | htype <;> rw [htype]
  · have hstore := CharArray.cString_store_cString destination.measurementName hterm
    constructor
    · rintro (⟨-, -, hne, -⟩ | ⟨ht, -⟩) -
      · intro hnil
        rw [← hstore] at hnil
        revert hne
        cases record.value <;> exact fun hne => hne hnil
      · revert ht
        cases record.value <;> simp [copyMeasuredValue]
    · intro h
      have hne : (destination.measurementName.store
          record.descriptor.measurementName.cString).cString ≠ [] := by
        rw [hstore]
        exact h rfl
      cases record.value <;> exact .name rfl rfl hne hid
  · refine ⟨fun _ h => by simp at h, fun _ => ?_⟩
    cases record.value <;> exact .id rfl rfl hname

/-- The value of an image is in order exactly when a real number that is copied is finite. -/
theorem valueRules_copyMeasurement (hint : destination.hasIntegerValue = false)
    (hreal : destination.hasRealValue = false)
    (hv : ValueStatus record.structuralStatus record.value) :
    ValueRules (copyMeasurement destination record) ↔
      ∀ value, record.value = .real value → value.isFinite = true := by
  unfold copyMeasurement copyMeasuredName
  generalize record.structuralStatus = status at hv ⊢
  generalize record.value = value at hv ⊢
  cases hv with
  | integer value =>
    refine ⟨fun _ x hx => by simp at hx, fun _ => ?_⟩
    cases record.descriptor.type <;> exact .integer rfl rfl hreal rfl
  | real value =>
    constructor
    · rintro h x ⟨⟩
      cases htype : record.descriptor.type <;> rw [htype] at h <;>
        rcases h with ⟨ht, -⟩ | ⟨-, -, -, hfin, -⟩ | ⟨ht, -⟩ <;>
        first
          | exact hfin
          | simp [copyMeasuredValue] at ht
    · intro h
      have hfin := h value rfl
      cases record.descriptor.type <;> exact .real rfl rfl hint hfin rfl
  | noValue =>
    refine ⟨fun _ x hx => by simp at hx, fun _ => ?_⟩
    cases record.descriptor.type <;> exact .noValue rfl hint hreal rfl

end

/-- The image of a measurement is accepted exactly when its name and its value are presentable. -/
theorem accepted_copyMeasurement {record : MeasurementRecord} (h : Handed record)
    (hm : MeasurementShape record) :
    Accepted (copyMeasurement (copyCommon canonicalRecordInit record) record) ↔
      Presentable record := by
  set common := copyCommon canonicalRecordInit record with hcommon
  obtain ⟨hkind, hstatus, hinfo, hrecord, hinfoIdx, hrecordIdx, hcode, hmessage⟩ :=
    @copyMeasurement_fields common record
  have hdesc := descriptorRules_copyMeasurement common rfl rfl hm.descriptor
  have hval := valueRules_copyMeasurement common rfl rfl hm.value
  have hstored (hname : record.descriptor.type = .name) :
      WellFormedUtf8 (common.measurementName.store record.descriptor.measurementName.cString).cString
        ↔ WellFormedUtf8 record.descriptor.measurementName.cString := by
    rcases hm.descriptor with ⟨-, hterm⟩ | hid
    · rw [CharArray.cString_store_cString _ hterm]
    · simp [hid] at hname
  constructor
  · rintro (⟨-, hc, hr⟩ | ⟨hdiag, -⟩)
    · refine ⟨hdesc.mp hr.descriptor, fun hname => ?_, hval.mp hr.value⟩
      have hhas : (copyMeasurement common record).hasMeasurementName = true := by
        rcases hr.descriptor with ⟨-, hn, -⟩ | ⟨hid, -⟩
        · exact hn
        · exfalso
          revert hid
          unfold copyMeasurement copyMeasuredName
          rw [hname]
          cases record.value <;> simp [copyMeasuredValue]
      have hvalid := hc.measurementName hhas
      rw [(copyMeasurement_measurementName common rfl hhas).2] at hvalid
      exact (hstored hname).mp hvalid.2
    · simp [hkind] at hdiag
  · intro hp
    have hs := @commonStrings_copyMeasurement common record (commonStrings_copyCommon h)
    refine .measurement hkind ?_ ?_
    · exact
        { recordKind := by simp [hkind]
          structuralStatus := by
            rw [hstatus]
            split <;> simp
          descriptorType := (copyMeasurement_types common).1
          valueType := (copyMeasurement_types common).2
          ueIdType := hs.ueIdType
          ueIdType_ne_nil := hs.ueIdType_ne_nil
          nodeType := hs.nodeType
          nodeId := hs.nodeId
          ueIdValue := hs.ueIdValue
          measurementName := fun hhas => by
            obtain ⟨hname, hstore⟩ := copyMeasurement_measurementName common rfl hhas
            rw [hstore]
            exact ⟨CharArray.terminated_store _ _ (by norm_num), (hstored hname).mpr (hp.name hname)⟩
          diagnosticCode := fun hhas => absurd (hcode.symm.trans hhas) Bool.false_ne_true
          diagnosticMessage := fun hhas => absurd (hmessage.symm.trans hhas) Bool.false_ne_true
          incompleteFlag := hs.incompleteFlag }
    · exact
        { hasMeasInfoIndex := hinfo
          hasMeasRecordIndex := hrecord
          indexes := by rw [hinfoIdx, hrecordIdx, hm.indexes]
          hasDiagnosticCode := hcode
          hasDiagnosticMessage := hmessage
          descriptor := hdesc.mpr hp.name_ne_nil
          value := hval.mpr hp.finite }

/-! ### Delivery -/

/-- A name or a value the validator rejects. A name that was cut inside a character is left to
`Presentable`. -/
inductive Unpresentable (record : MeasurementRecord) : Prop
  | emptyName : record.descriptor.type = .name →
      record.descriptor.measurementName.cString = [] → Unpresentable record
  | illFormedName : record.descriptor.type = .name →
      record.descriptor.measurementNameTruncated = false →
      ¬ WellFormedUtf8 record.descriptor.measurementName.cString → Unpresentable record
  | notFinite (value : Binary64) : record.value = .real value → value.isFinite = false →
      Unpresentable record

theorem Unpresentable.not_presentable {record : MeasurementRecord} (h : Unpresentable record) :
    ¬ Presentable record := by
  intro hp
  cases h with
  | emptyName hname hnil => exact hp.name_ne_nil hname hnil
  | illFormedName hname _ hill => exact hill (hp.name hname)
  | notFinite value hvalue hinf => simp [hp.finite value hvalue] at hinf

/-- A thread outside `try_submit`, and a pipeline that neither is locked nor is full nor stops. -/
structure ReadyFor (s : System) (thread : ThreadId) : Prop where
  idle : s.submitters thread = .idle
  unlocked : s.mutex = none
  running : s.pipeline.stopRequested = false
  room : s.pipeline.queue.count < outputQueueCapacity

theorem stepAdapterSubmit_ready {s : System} {thread : ThreadId} (hs : ReadyFor s thread)
    (record : MeasurementRecord) :
    (Accepted (canonicalImage record) → stepAdapterSubmit s thread record false =
      some ({ s with pipeline := enqueue s.pipeline (canonicalImage record) },
        [.submitReturned thread (some (canonicalImage record)) true])) ∧
    (¬ Accepted (canonicalImage record) → stepAdapterSubmit s thread record false =
      some (s.setSubmitter thread (.countDrop (some (canonicalImage record))), [])) := by
  have haccepts : submitAccepts s (some (canonicalImage record)) false = true ↔
      Accepted (canonicalImage record) := by
    simp [submitAccepts, canonicalRecordValidate_eq_ok, hs.unlocked, hs.running, hs.room]
  constructor
  · intro h
    simp [stepAdapterSubmit, stepSubmit, hs.idle, haccepts.mpr h]
  · intro h
    have hno : submitAccepts s (some (canonicalImage record)) false = false := by
      simpa using mt haccepts.mp h
    simp [stepAdapterSubmit, stepSubmit, hs.idle, hno]

/-- With room in the queue and no contention a record of an indication is queued when it is a
diagnostic or when its name and value are presentable, and dropped when they are not. -/
theorem indication_record_delivered (context : CallbackContext) (rd : Option AgentRead)
    (e2Node : Option GlobalE2NodeId) (clock : Option Int64) (record : MeasurementRecord)
    (h : record ∈ (flexricCallback context rd e2Node clock).2) (s : System) (thread : ThreadId)
    (hs : ReadyFor s thread) :
    ((record.IsMeasurement → Presentable record) → stepAdapterSubmit s thread record false =
      some ({ s with pipeline := enqueue s.pipeline (canonicalImage record) },
        [.submitReturned thread (some (canonicalImage record)) true])) ∧
    (record.IsMeasurement → Unpresentable record → stepAdapterSubmit s thread record false =
      some (s.setSubmitter thread (.countDrop (some (canonicalImage record))), [])) := by
  have hhanded := handed_of_mem_flexricCallback h
  obtain ⟨hqueued, hdropped⟩ := stepAdapterSubmit_ready hs record
  constructor
  · intro hp
    apply hqueued
    by_cases hm : record.IsMeasurement
    · rw [canonicalImage, if_pos hm]
      exact (accepted_copyMeasurement hhanded (hhanded.measurement hm)).mpr (hp hm)
    · rw [canonicalImage, if_neg hm]
      exact accepted_copyDiagnostic hhanded
  · intro hm hu
    apply hdropped
    rw [canonicalImage, if_pos hm, accepted_copyMeasurement hhanded (hhanded.measurement hm)]
    exact hu.not_presentable

/-- A format 1 indication of one row with one pair. -/
def singlePair (info : MeasType) (value : MeasRecord) : AgentRead :=
  .kpmIndication
    { collectStartTime := 1
      msg := .format1
        { measDataLst := .ofList [{ measRecordLst := .ofList [value], incompleteFlag := none }]
          measInfoLst := .ofList [info] } }

def freshContext : CallbackContext where
  logicalSubscriptionId := 1
  maxIndications := 0
  nextIndicationSequence := 0
  stopRequested := false
  counters := ⟨0, 0, 0, 0, 0, 0⟩

def singlePairRecords (info : MeasType) (value : MeasRecord) : List MeasurementRecord :=
  (flexricCallback freshContext (some (singlePair info value))
    (some { type := 2, nbId := 3584, cuDuId := none }) (some 1000)).2

def singlePairRecord (info : MeasType) (value : MeasRecord) : MeasurementRecord :=
  (singlePairRecords info value).headD measurementRecordReset

theorem singlePairRecord_mem (info : MeasType) (value : MeasRecord) :
    singlePairRecord info value ∈ singlePairRecords info value := by
  have h : singlePairRecords info value = [singlePairRecord info value] := rfl
  rw [h]
  exact List.mem_singleton_self _

/-- A named integer reaches the queue. -/
theorem indication_record_delivered_sample :
    let record := singlePairRecord (.name (.ofList (bytes "DRB.UEThpDl"))) (.integer 5)
    stepAdapterSubmit (System.start zeroPipeline) 0 record false =
      some ({ System.start zeroPipeline with
        pipeline := enqueue zeroPipeline (canonicalImage record) },
        [.submitReturned 0 (some (canonicalImage record)) true]) := by
  refine (indication_record_delivered _ _ _ _ _ (singlePairRecord_mem _ _)
    (System.start zeroPipeline) 0 ⟨rfl, rfl, rfl, by decide⟩).1 fun _ => ?_
  refine ⟨fun _ => by decide +kernel, fun _ => wellFormedUtf8_iff_isSome.mpr (by decide +kernel),
    fun value hvalue => ?_⟩
  have hinteger : (singlePairRecord (.name (.ofList (bytes "DRB.UEThpDl")))
    (.integer 5)).value = .integer 5 := rfl
  rw [hinteger] at hvalue
  cases hvalue

/-- A measurement whose name has no byte is handed over and rejected. -/
theorem empty_name_rejected :
    ¬ ∀ (context : CallbackContext) (rd : Option AgentRead) (e2Node : Option GlobalE2NodeId)
        (clock : Option Int64), ∀ record ∈ (flexricCallback context rd e2Node clock).2,
        (canonicalRecordValidate (some (canonicalImage record))).1 = .ok := by
  intro h
  have hok := h _ _ _ _ _ (singlePairRecord_mem (.name (.ofList [])) (.integer 5))
  revert hok
  decide +kernel

end TcdOran.Collector
