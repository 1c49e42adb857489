import TcdOran.Collector.Indication
import TcdOran.Collector.PipelineMachine

/-! output_adapter.c: the canonical image of an internal record, and which records of an
indication reach the queue. -/
namespace TcdOran.Collector
open TcdOran.Lib

/-! ### The canonical image -/

def storeOptional {n : ℕ} (destination : CharArray n) : Option (List UInt8) → CharArray n
  | some text => destination.store text
  | none => destination

/-- The node identifier, absent when its text is empty. -/
def nodeIdOf (source : MeasurementRecord) : Option (List UInt8) :=
  if source.indication.e2NodeId[0] ≠ 0 then some source.indication.e2NodeId.cString else none

def copyNode (destination : CanonicalRecord) (source : MeasurementRecord) : CanonicalRecord :=
  { destination with
    hasNodeType := true
    nodeType := destination.nodeType.store
      (bytes "raw_" ++ decimal source.indication.e2NodeTypeRaw.toNat)
    hasNodeId := destination.hasNodeId || (nodeIdOf source).isSome
    nodeId := storeOptional destination.nodeId (nodeIdOf source) }

/-- The name of the UE type, and the identifier when it is present. -/
def ueIdTexts (ueId : UeId) : String × Option (List UInt8) :=
  match ueId.type with
  | .gnb =>
      ("gnb", if ueId.amfUeNgapIdPresent then
        some (bytes "amf_ue_ngap_id=" ++ decimal ueId.amfUeNgapId.toNat) else none)
  | .gnbDu =>
      ("gnb_du", if ueId.gnbCuUeF1apPresent then
        some (bytes "gnb_cu_ue_f1ap=" ++ decimal ueId.gnbCuUeF1ap.toNat) else none)
  | .gnbCuUp =>
      ("gnb_cu_up", if ueId.gnbCuCpUeE1apPresent then
        some (bytes "gnb_cu_cp_ue_e1ap=" ++ decimal ueId.gnbCuCpUeE1ap.toNat) else none)
  | .unknown => ("unknown", none)

def copyUe (destination : CanonicalRecord) (source : MeasurementRecord) : CanonicalRecord :=
  let texts := ueIdTexts source.ueId
  { destination with
    ueIdType := destination.ueIdType.store (bytes texts.1)
    hasUeIdValue := destination.hasUeIdValue || texts.2.isSome
    ueIdValue := storeOptional destination.ueIdValue texts.2 }

def mapDiagnosticStatus : MeasurementStatus → StructuralStatus
  | .lengthMismatch => .lengthMismatch
  | .unsupportedUeId => .unsupportedUeId
  | .unsupportedDescriptor => .unsupportedDescriptor
  | .unsupportedValueType => .unsupportedValueType
  | _ => .invalidInput

def diagnosticCodeText : MeasurementStatus → String
  | .lengthMismatch => "length_mismatch"
  | .unsupportedUeId => "unsupported_ue_id"
  | .unsupportedDescriptor => "unsupported_descriptor"
  | .unsupportedValueType => "unsupported_value_type"
  | .unknownMessageFormat => "unknown_message_format"
  | _ => "invalid_input"

/-- Nanoseconds to microseconds; a clock that failed or lies before the epoch gives zero. -/
def receiveTimestampUs (ns : Int64) : UInt64 :=
  if ns.toInt > 0 then UInt64.ofNat (ns.toInt.toNat / 1000) else 0

/-- The largest 32-bit number marks an index that is absent. -/
def copyCommon (destination : CanonicalRecord) (source : MeasurementRecord) : CanonicalRecord :=
  let indication := source.indication
  let stamped :=
    { destination with
      indicationSequence := indication.indicationSequence
      receiveTimestampUs := receiveTimestampUs indication.receiveTimestampUnixNs
      hasKpmHeaderTimestampUs := destination.hasKpmHeaderTimestampUs ||
        indication.kpmHeaderTimestampRaw > 0
      kpmHeaderTimestampUs :=
        if indication.kpmHeaderTimestampRaw > 0 then indication.kpmHeaderTimestampRaw
        else destination.kpmHeaderTimestampUs
      messageFormat := indication.messageFormatRaw }
  let noded := copyNode stamped source
  let reported :=
    { noded with
      hasUeReportIndex := noded.hasUeReportIndex || source.ueReportIndex ≠ uint32Max
      ueReportIndex :=
        if source.ueReportIndex ≠ uint32Max then source.ueReportIndex else noded.ueReportIndex }
  let identified := copyUe reported source
  { identified with
    hasMeasDataIndex := identified.hasMeasDataIndex || source.measDataIndex ≠ uint32Max
    measDataIndex :=
      if source.measDataIndex ≠ uint32Max then source.measDataIndex else identified.measDataIndex
    measDataLstLen := source.measDataLstLen
    measInfoLstLen := source.measInfoLstLen
    measRecordLen := source.measRecordLen
    incompleteFlagPresent := source.incompleteFlagPresent
    incompleteFlag := source.incompleteFlag }

def copyMeasuredName (destination : CanonicalRecord) (descriptor : MeasurementDescriptor) :
    CanonicalRecord :=
  match descriptor.type with
  | .name =>
      { destination with
        descriptorType := .name
        hasMeasurementName := true
        measurementName := destination.measurementName.store descriptor.measurementName.cString }
  | _ =>
      { destination with
        descriptorType := .id
        hasMeasurementId := true
        measurementId := descriptor.measurementId }

def copyMeasuredValue (destination : CanonicalRecord) : MeasurementValue → CanonicalRecord
  | .integer value =>
      { destination with valueType := .integer, hasIntegerValue := true, integerValue := value }
  | .real value =>
      { destination with valueType := .real, hasRealValue := true, realValue := value }
  | _ => { destination with valueType := .noValue }

def copyMeasurement (destination : CanonicalRecord) (source : MeasurementRecord) :
    CanonicalRecord :=
  let indexed :=
    { destination with
      recordKind := .measurement
      hasMeasInfoIndex := true
      measInfoIndex := source.measInfoIndex
      hasMeasRecordIndex := true
      measRecordIndex := source.measRecordIndex
      structuralStatus := if source.structuralStatus = .noValue then .noValue else .ok }
  copyMeasuredValue (copyMeasuredName indexed source.descriptor) source.value

def diagnosticMessageText (source : MeasurementRecord) : List UInt8 :=
  bytes "meas_info_lst_len=" ++ decimal source.measInfoLstLen.toNat ++
    bytes " meas_record_len=" ++ decimal source.measRecordLen.toNat

def copyDiagnostic (destination : CanonicalRecord) (source : MeasurementRecord) :
    CanonicalRecord :=
  { destination with
    recordKind := .diagnostic
    structuralStatus := mapDiagnosticStatus source.structuralStatus
    descriptorType := .unknown
    valueType := .unknown
    hasDiagnosticCode := true
    diagnosticCode :=
      destination.diagnosticCode.store (bytes (diagnosticCodeText source.structuralStatus))
    hasDiagnosticMessage := true
    diagnosticMessage := destination.diagnosticMessage.store (diagnosticMessageText source) }

def MeasurementRecord.IsMeasurement (record : MeasurementRecord) : Prop :=
  record.structuralStatus = .ok ∨ record.structuralStatus = .noValue

instance (record : MeasurementRecord) : Decidable record.IsMeasurement :=
  inferInstanceAs (Decidable (_ ∨ _))

/-- What `tcd_kpm_output_adapter_submit` builds before it submits. -/
def canonicalImage (record : MeasurementRecord) : CanonicalRecord :=
  let common := copyCommon canonicalRecordInit record
  if record.IsMeasurement then copyMeasurement common record else copyDiagnostic common record

/-- `tcd_kpm_output_adapter_submit` on a pipeline. -/
def stepAdapterSubmit (s : System) (thread : ThreadId) (record : MeasurementRecord)
    (contended : Bool) : Step :=
  stepSubmit s thread (some (canonicalImage record)) contended

end TcdOran.Collector
