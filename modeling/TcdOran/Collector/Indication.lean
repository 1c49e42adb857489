import TcdOran.Collector.CanonicalRecord
import TcdOran.Lib.Decimal

/-! The KPM indication callback of kpm_callback.c: how FlexRIC's indication becomes the internal
measurement records of record.h. -/
namespace TcdOran.Collector
open TcdOran.Lib

/-! ### FlexRIC's data -/

/-- A length and a pointer that is null or points to that many elements. -/
structure FlexArray (α : Type) where
  len : ℕ
  elements : Option (List α)
  sized : ∀ xs ∈ elements, xs.length = len

def FlexArray.ofList {α : Type} (xs : List α) : FlexArray α :=
  ⟨xs.length, some xs, by simp⟩

/-- `ue_id_e2sm_t`; `other` is a type the collector does not know. -/
inductive UeIdE2sm
  | gnb (amfUeNgapId : UInt64) (gnbCuUeF1ap : FlexArray UInt32) (ranUeId : Option UInt64)
  | gnbDu (gnbCuUeF1ap : UInt32) (ranUeId : Option UInt64)
  | gnbCuUp (gnbCuCpUeE1ap : UInt32) (ranUeId : Option UInt64)
  | other

/-- The `meas_type` of a `meas_info_format_1_lst_t`. -/
inductive MeasType
  | name (buf : FlexArray UInt8)
  | id (id : UInt32)
  | other

/-- `meas_record_lst_t`. -/
inductive MeasRecord
  | integer (value : Int64)
  | real (value : Binary64)
  | noValue
  | other

/-- `meas_data_lst_t`; the flag says whether the value pointed to is `TRUE_ENUM_VALUE`. -/
structure MeasData where
  measRecordLst : FlexArray MeasRecord
  incompleteFlag : Option Bool

structure IndMsgFormat1 where
  measDataLst : FlexArray MeasData
  measInfoLst : FlexArray MeasType

structure MeasReportPerUe where
  ueMeasReportLst : UeIdE2sm
  indMsgFormat1 : IndMsgFormat1

/-- The message types of FlexRIC are numbered 0 (format 1), 1 (format 2) and 2 (format 3). -/
inductive IndMsg
  | format1 (message : IndMsgFormat1)
  | format3 (measReportPerUe : FlexArray MeasReportPerUe)
  | other (type : { type : UInt32 // type ≠ 0 ∧ type ≠ 2 })

def IndMsg.type : IndMsg → UInt32
  | .format1 _ => 0
  | .format3 _ => 2
  | .other type => type.val

structure KpmIndData where
  collectStartTime : UInt64
  msg : IndMsg

structure GlobalE2NodeId where
  type : UInt32
  nbId : UInt64
  cuDuId : Option UInt64

/-! ### record.h -/

inductive MeasurementStatus
  | ok | lengthMismatch | noValue | unsupportedDescriptor | unsupportedValueType
  | unsupportedUeId | unknownMessageFormat | invalidInput
  deriving DecidableEq

inductive MeasurementDescriptorType
  | unknown | name | id
  deriving DecidableEq

inductive UeIdType
  | unknown | gnb | gnbDu | gnbCuUp
  deriving DecidableEq

structure UeId where
  type : UeIdType
  amfUeNgapIdPresent : Bool
  amfUeNgapId : UInt64
  gnbCuUeF1apPresent : Bool
  gnbCuUeF1ap : UInt32
  gnbCuCpUeE1apPresent : Bool
  gnbCuCpUeE1ap : UInt32
  ranUeIdPresent : Bool
  ranUeId : UInt64

structure MeasurementDescriptor where
  type : MeasurementDescriptorType
  measurementNamePresent : Bool
  measurementNameLength : ℕ
  measurementNameTruncated : Bool
  measurementName : CharArray measurementNameCapacity
  measurementIdPresent : Bool
  measurementId : UInt32

/-- The type selects the member of the union. -/
inductive MeasurementValue
  | unknown
  | integer (value : Int64)
  | real (value : Binary64)
  | noValue

structure IndicationContext where
  indicationSequence : UInt64
  logicalSubscriptionId : UInt64
  receiveTimestampUnixNs : Int64
  kpmHeaderTimestampRaw : UInt64
  messageFormatRaw : UInt32
  e2NodeTypeRaw : UInt32
  e2NodeId : CharArray nodeIdCapacity
  ueReportCount : UInt32

structure MeasurementRecord where
  indication : IndicationContext
  ueReportIndex : UInt32
  ueId : UeId
  measDataIndex : UInt32
  measRecordIndex : UInt32
  measInfoIndex : UInt32
  measDataLstLen : UInt32
  measInfoLstLen : UInt32
  measRecordLen : UInt32
  descriptor : MeasurementDescriptor
  value : MeasurementValue
  incompleteFlagPresent : Bool
  incompleteFlag : Bool
  structuralStatus : MeasurementStatus

abbrev uint32Max : UInt32 := 0xFFFFFFFF

def zeroUeId : UeId where
  type := .unknown
  amfUeNgapIdPresent := false
  amfUeNgapId := 0
  gnbCuUeF1apPresent := false
  gnbCuUeF1ap := 0
  gnbCuCpUeE1apPresent := false
  gnbCuCpUeE1ap := 0
  ranUeIdPresent := false
  ranUeId := 0

def zeroDescriptor : MeasurementDescriptor where
  type := .unknown
  measurementNamePresent := false
  measurementNameLength := 0
  measurementNameTruncated := false
  measurementName := Vector.replicate _ 0
  measurementIdPresent := false
  measurementId := 0

def zeroIndicationContext : IndicationContext where
  indicationSequence := 0
  logicalSubscriptionId := 0
  receiveTimestampUnixNs := 0
  kpmHeaderTimestampRaw := 0
  messageFormatRaw := 0
  e2NodeTypeRaw := 0
  e2NodeId := Vector.replicate _ 0
  ueReportCount := 0

def measurementRecordReset : MeasurementRecord where
  indication := zeroIndicationContext
  ueReportIndex := uint32Max
  ueId := zeroUeId
  measDataIndex := uint32Max
  measRecordIndex := uint32Max
  measInfoIndex := uint32Max
  measDataLstLen := 0
  measInfoLstLen := 0
  measRecordLen := 0
  descriptor := zeroDescriptor
  value := .unknown
  incompleteFlagPresent := false
  incompleteFlag := false
  structuralStatus := .invalidInput

/-! ### Copying -/

def lengthToU32 (value : ℕ) : UInt32 :=
  if value > uint32Max.toNat then uint32Max else UInt32.ofNat value

def UeId.withRanUeId (destination : UeId) : Option UInt64 → UeId
  | some ranUeId => { destination with ranUeIdPresent := true, ranUeId }
  | none => destination

/-- The first element, when there is one and the pointer is not null. -/
def UeId.withFirstF1ap (destination : UeId) (list : FlexArray UInt32) : UeId :=
  match list.elements with
  | some (gnbCuUeF1ap :: _) => { destination with gnbCuUeF1apPresent := true, gnbCuUeF1ap }
  | _ => destination

/-- The copy, and whether the type is supported. -/
def copyUeId : Option UeIdE2sm → UeId × Bool
  | none => (zeroUeId, true)
  | some (.gnb amfUeNgapId gnbCuUeF1ap ranUeId) =>
      ((({ zeroUeId with type := .gnb, amfUeNgapIdPresent := true, amfUeNgapId }
        : UeId).withFirstF1ap gnbCuUeF1ap).withRanUeId ranUeId, true)
  | some (.gnbDu gnbCuUeF1ap ranUeId) =>
      (({ zeroUeId with type := .gnbDu, gnbCuUeF1apPresent := true, gnbCuUeF1ap }
        : UeId).withRanUeId ranUeId, true)
  | some (.gnbCuUp gnbCuCpUeE1ap ranUeId) =>
      (({ zeroUeId with type := .gnbCuUp, gnbCuCpUeE1apPresent := true, gnbCuCpUeE1ap }
        : UeId).withRanUeId ranUeId, true)
  | some .other => (zeroUeId, false)

/-- A name that does not fit is cut; a null pointer with a positive length is refused. -/
def copyDescriptor : Option MeasType → MeasurementDescriptor × Bool
  | none => (zeroDescriptor, false)
  | some (.name buf) =>
      let named :=
        { zeroDescriptor with
          type := .name
          measurementNamePresent := true
          measurementNameLength := buf.len }
      if buf.len > 0 ∧ buf.elements = none then (named, false)
      else
        ({ named with
          measurementNameTruncated := buf.len ≥ measurementNameCapacity
          measurementName := named.measurementName.store (buf.elements.getD []) }, true)
  | some (.id id) =>
      ({ zeroDescriptor with type := .id, measurementIdPresent := true, measurementId := id }, true)
  | some .other => (zeroDescriptor, false)

/-- The copy, whether the type is supported, and `no_value`. -/
def copyValue : Option MeasRecord → MeasurementValue × Bool × Bool
  | none => (.unknown, false, false)
  | some (.integer value) => (.integer value, true, false)
  | some (.real value) => (.real value, true, false)
  | some .noValue => (.noValue, true, true)
  | some .other => (.unknown, false, false)

/-! ### kpm_validation.c -/

inductive RowStatus
  | ok | lengthMismatch | metadataUnavailable | invalidRecordLength | invalidInput
  deriving DecidableEq

structure RowValidationResult where
  status : RowStatus
  normalisedValueCount : ℕ
  diagnosticCount : ℕ
  processContinues : Bool
  rowAccepted : Bool
  deriving DecidableEq

structure RowShape where
  metadataAvailable : Bool
  metadataPresent : Bool
  metadataLen : ℕ
  recordPresent : Bool
  recordLen : ℕ
  maximumSupportedLength : ℕ

def rowAccepted (valueCount : ℕ) : RowValidationResult := ⟨.ok, valueCount, 0, true, true⟩

def rowRejected (status : RowStatus) : RowValidationResult := ⟨status, 0, 1, true, false⟩

def validateRowShape (shape : RowShape) : RowValidationResult :=
  if shape.maximumSupportedLength = 0 then rowRejected .invalidInput
  else if shape.recordLen = 0 ∨ shape.recordLen > shape.maximumSupportedLength then
    rowRejected .invalidRecordLength
  else if !shape.recordPresent then rowRejected .invalidInput
  else if !shape.metadataAvailable ∨ shape.metadataLen = 0 then rowRejected .metadataUnavailable
  else if !shape.metadataPresent ∨ shape.metadataLen > shape.maximumSupportedLength then
    rowRejected .invalidInput
  else if shape.metadataLen ≠ shape.recordLen then rowRejected .lengthMismatch
  else rowAccepted shape.recordLen

/-! ### The rows of a message -/

def rowShape (message : IndMsgFormat1) (data : MeasData) : RowShape where
  metadataAvailable := message.measInfoLst.len > 0
  metadataPresent := message.measInfoLst.elements.isSome
  metadataLen := message.measInfoLst.len
  recordPresent := data.measRecordLst.elements.isSome
  recordLen := data.measRecordLst.len
  maximumSupportedLength := 65535

/-- The fields every record of a row shares. -/
def rowRecord (indication : IndicationContext) (ueReportIndex : UInt32) (copiedUe : UeId)
    (message : IndMsgFormat1) (data : MeasData) (dataIndex : ℕ) : MeasurementRecord :=
  { measurementRecordReset with
    indication
    ueReportIndex
    ueId := copiedUe
    measDataIndex := lengthToU32 dataIndex
    measDataLstLen := lengthToU32 message.measDataLst.len
    measInfoLstLen := lengthToU32 message.measInfoLst.len
    measRecordLen := lengthToU32 data.measRecordLst.len
    incompleteFlagPresent := data.incompleteFlag.isSome
    incompleteFlag := data.incompleteFlag.getD false }

def rejectedStatus : RowStatus → MeasurementStatus
  | .lengthMismatch => .lengthMismatch
  | _ => .invalidInput

/-- The diagnostic for a row that is not accepted. -/
def rejectedRecord (row : MeasurementRecord) (status : RowStatus) : MeasurementRecord :=
  { row with structuralStatus := rejectedStatus status }

def valueStatus (ueSupported descriptorSupported valueSupported noValue : Bool) :
    MeasurementStatus :=
  if !ueSupported then .unsupportedUeId
  else if !descriptorSupported then .unsupportedDescriptor
  else if !valueSupported then .unsupportedValueType
  else if noValue then .noValue
  else .ok

def valueRecord (row : MeasurementRecord) (ueSupported : Bool) (info : Option MeasType)
    (record : Option MeasRecord) (index : ℕ) : MeasurementRecord :=
  let descriptor := copyDescriptor info
  let value := copyValue record
  { row with
    measRecordIndex := lengthToU32 index
    measInfoIndex := lengthToU32 index
    descriptor := descriptor.1
    value := value.1
    structuralStatus := valueStatus ueSupported descriptor.2 value.2.1 value.2.2 }

/-- What one row is turned into: a diagnostic, or one record for each pair. -/
def processRow (indication : IndicationContext) (ueReportIndex : UInt32) (copiedUe : UeId)
    (ueSupported : Bool) (message : IndMsgFormat1) (data : MeasData) (dataIndex : ℕ) :
    List MeasurementRecord :=
  let row := rowRecord indication ueReportIndex copiedUe message data dataIndex
  let validation := validateRowShape (rowShape message data)
  if !validation.rowAccepted then
    [rejectedRecord row validation.status]
  else
    let infos := message.measInfoLst.elements.getD []
    let records := data.measRecordLst.elements.getD []
    (List.range validation.normalisedValueCount).map fun index =>
      valueRecord row ueSupported infos[index]? records[index]? index

/-- The records in the order in which they are retained, and the callback errors counted. -/
structure Processed where
  records : List MeasurementRecord
  callbackErrors : ℕ

def processFormat1 (indication : IndicationContext) (ueReportIndex : UInt32)
    (ueSource : Option UeIdE2sm) (message : IndMsgFormat1) : Processed :=
  if message.measDataLst.len > 0 ∧ message.measDataLst.elements = none then ⟨[], 1⟩
  else
    let ue := copyUeId ueSource
    let rows := message.measDataLst.elements.getD []
    ⟨rows.zipIdx.flatMap fun (data, dataIndex) =>
      processRow indication ueReportIndex ue.1 ue.2 message data dataIndex, 0⟩

/-! ### The callback -/

structure CallbackCounters where
  indicationsReceived : UInt64
  recordsCreated : UInt64
  lengthMismatchRecords : UInt64
  noValueRecords : UInt64
  unsupportedRecords : UInt64
  callbackErrors : UInt64

structure CallbackContext where
  logicalSubscriptionId : UInt64
  maxIndications : UInt64
  nextIndicationSequence : UInt64
  stopRequested : Bool
  counters : CallbackCounters

/-- `sm_ag_if_rd_t`: an indication of the KPM service model, or anything else. -/
inductive AgentRead
  | kpmIndication (kpm : KpmIndData)
  | other

/-- The counters of `retain_record`, behind which the record goes to the output adapter. -/
def retainRecord (counters : CallbackCounters) (record : MeasurementRecord) : CallbackCounters :=
  let counted := { counters with recordsCreated := counters.recordsCreated + 1 }
  match record.structuralStatus with
  | .lengthMismatch =>
      { counted with lengthMismatchRecords := counters.lengthMismatchRecords + 1 }
  | .noValue => { counted with noValueRecords := counters.noValueRecords + 1 }
  | .unsupportedDescriptor | .unsupportedValueType | .unsupportedUeId | .unknownMessageFormat =>
      { counted with unsupportedRecords := counters.unsupportedRecords + 1 }
  | .invalidInput => { counted with callbackErrors := counters.callbackErrors + 1 }
  | .ok => counted

def nodeIdText (node : GlobalE2NodeId) : List UInt8 :=
  match node.cuDuId with
  | some cuDuId =>
      bytes "nb_id=" ++ decimal node.nbId.toNat ++ bytes ";cu_du_id=" ++ decimal cuDuId.toNat
  | none => bytes "nb_id=" ++ decimal node.nbId.toNat

/-- The formatted text and whether it was complete. -/
def formatNodeId {n : ℕ} (node : GlobalE2NodeId) (destination : CharArray n) :
    CharArray n × Bool :=
  let text := nodeIdText node
  (destination.store text, text.length < n)

/-- `realtime_unix_ns`, whose clock may fail. -/
def realtimeUnixNs (clock : Option Int64) : Int64 := clock.getD 0

/-- The node text of an indication, and the callback errors counted for it. -/
def indicationNodeId (node : GlobalE2NodeId) : CharArray nodeIdCapacity × ℕ :=
  let formatted := formatNodeId node (Vector.replicate _ 0)
  if formatted.2 then (formatted.1, 0) else (formatted.1.store (bytes "unavailable"), 1)

def indicationContext (context : CallbackContext) (kpm : KpmIndData) (node : GlobalE2NodeId)
    (clock : Option Int64) : IndicationContext :=
  { zeroIndicationContext with
    indicationSequence := context.nextIndicationSequence + 1
    logicalSubscriptionId := context.logicalSubscriptionId
    receiveTimestampUnixNs := realtimeUnixNs clock
    kpmHeaderTimestampRaw := kpm.collectStartTime
    messageFormatRaw := kpm.msg.type
    e2NodeTypeRaw := node.type
    e2NodeId := (indicationNodeId node).1 }

/-- The diagnostic for a message of neither format. -/
def unknownFormatRecord (indication : IndicationContext) : MeasurementRecord :=
  { measurementRecordReset with
    indication
    structuralStatus := .unknownMessageFormat }

def processMessage (indication : IndicationContext) : IndMsg → Processed
  | .format1 message =>
      processFormat1 { indication with ueReportCount := 0 } uint32Max none message
  | .format3 reports =>
      let indication := { indication with ueReportCount := lengthToU32 reports.len }
      if reports.len > 0 ∧ reports.elements = none then ⟨[], 1⟩
      else
        let processed := (reports.elements.getD []).zipIdx.map fun (report, ueIndex) =>
          processFormat1 indication (lengthToU32 ueIndex) (some report.ueMeasReportLst)
            report.indMsgFormat1
        ⟨processed.flatMap Processed.records, (processed.map Processed.callbackErrors).sum⟩
  | .other _ => ⟨[unknownFormatRecord indication], 0⟩

def CallbackCounters.addErrors (counters : CallbackCounters) (errors : ℕ) : CallbackCounters :=
  { counters with callbackErrors := counters.callbackErrors + UInt64.ofNat errors }

/-- `tcd_kpm_flexric_callback` on an installed context: the context behind it and the records
handed to the output adapter, in order. -/
def flexricCallback (context : CallbackContext) (rd : Option AgentRead)
    (e2Node : Option GlobalE2NodeId) (clock : Option Int64) :
    CallbackContext × List MeasurementRecord :=
  match rd, e2Node with
  | some (.kpmIndication kpm), some node =>
      let sequence := context.nextIndicationSequence + 1
      let indication := indicationContext context kpm node clock
      let processed := processMessage indication kpm.msg
      let received :=
        { context.counters with
          indicationsReceived := context.counters.indicationsReceived + 1 }
      ({ context with
        nextIndicationSequence := sequence
        stopRequested := context.stopRequested ||
          (context.maxIndications > 0 && sequence ≥ context.maxIndications)
        counters := (processed.records.foldl retainRecord received).addErrors
          ((indicationNodeId node).2 + processed.callbackErrors) }, processed.records)
  | _, _ => ({ context with counters := context.counters.addErrors 1 }, [])

end TcdOran.Collector
