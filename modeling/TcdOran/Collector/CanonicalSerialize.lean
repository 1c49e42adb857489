import TcdOran.Collector.TextBuilder

/-! The CSV and JSONL serializers of canonical_serialize.c. Both print the same 28 fields in
the same order; `recordFields` names them, and the text each serializer appends is a function
of that list. -/
namespace TcdOran.Collector
open TcdOran.Lib

/-! ### The CSV serializer -/

def csvAppendByte (byte : UInt8) : Builder → Builder :=
  if byte = 34 then builderAppendLiteral "\"\"" else builderAppendBytes [byte]

/-- The loop reads up to the terminator, so it sees the string that the array holds. -/
def csvAppendString (value : List UInt8) (builder : Builder) : Builder :=
  builderAppendLiteral "\"" <|
    value.foldl (fun builder byte => csvAppendByte byte builder) <|
      builderAppendLiteral "\"" builder

def csvSeparator : Builder → Builder := builderAppendLiteral ","

/-- The `csv_append_optional_*` family: an absent value appends nothing. -/
def csvAppendOptional {α : Type} (append : α → Builder → Builder) (present : Bool) (value : α) :
    Builder → Builder :=
  if present then append value else id

def csvAppendOptionalString (present : Bool) (value : List UInt8) : Builder → Builder :=
  csvAppendOptional csvAppendString present value

def csvAppendOptionalU32 (present : Bool) (value : UInt32) : Builder → Builder :=
  csvAppendOptional builderAppendU32 present value

def csvAppendOptionalU64 (present : Bool) (value : UInt64) : Builder → Builder :=
  csvAppendOptional builderAppendU64 present value

def appendBool (value : Bool) : Builder → Builder :=
  builderAppendLiteral (if value then "true" else "false")

def csvAppendOptionalBool (present value : Bool) : Builder → Builder :=
  csvAppendOptional appendBool present value

def csvAppendOptionalI64 (present : Bool) (value : Int64) : Builder → Builder :=
  csvAppendOptional builderAppendI64 present value

def csvAppendOptionalDouble (present : Bool) (value : Binary64) : Builder → Builder :=
  csvAppendOptional builderAppendDouble present value

def csvHeader : String :=
  "schema_version,record_kind,indication_sequence,receive_timestamp_us," ++
  "kpm_header_timestamp_us,message_format,node_type,node_id," ++
  "ue_report_index,ue_id_type,ue_id_value,meas_data_index," ++
  "meas_info_index,meas_record_index,meas_data_lst_len," ++
  "meas_info_lst_len,meas_record_len,incomplete_flag_present," ++
  "incomplete_flag,structural_status,descriptor_type,measurement_name," ++
  "measurement_id,value_type,integer_value,real_value,diagnostic_code," ++
  "diagnostic_message\n"

/-- The name functions answer the null pointer only for what the validator rejects. -/
def nameOrEmpty (name : Option (List UInt8)) : List UInt8 := name.getD []

/-- The appends between the separators of a row. -/
def csvRecordAppends (record : CanonicalRecord) : List (Builder → Builder) :=
  [csvAppendString canonicalSchemaVersion,
   csvAppendString (nameOrEmpty (recordKindName record.recordKind)),
   builderAppendU64 record.indicationSequence,
   builderAppendU64 record.receiveTimestampUs,
   csvAppendOptionalU64 record.hasKpmHeaderTimestampUs record.kpmHeaderTimestampUs,
   builderAppendU32 record.messageFormat,
   csvAppendOptionalString record.hasNodeType record.nodeType.cString,
   csvAppendOptionalString record.hasNodeId record.nodeId.cString,
   csvAppendOptionalU32 record.hasUeReportIndex record.ueReportIndex,
   csvAppendString record.ueIdType.cString,
   csvAppendOptionalString record.hasUeIdValue record.ueIdValue.cString,
   csvAppendOptionalU32 record.hasMeasDataIndex record.measDataIndex,
   csvAppendOptionalU32 record.hasMeasInfoIndex record.measInfoIndex,
   csvAppendOptionalU32 record.hasMeasRecordIndex record.measRecordIndex,
   builderAppendU32 record.measDataLstLen,
   builderAppendU32 record.measInfoLstLen,
   builderAppendU32 record.measRecordLen,
   appendBool record.incompleteFlagPresent,
   csvAppendOptionalBool record.incompleteFlagPresent record.incompleteFlag,
   csvAppendString (nameOrEmpty (structuralStatusName record.structuralStatus)),
   csvAppendString (nameOrEmpty (descriptorTypeName record.descriptorType)),
   csvAppendOptionalString record.hasMeasurementName record.measurementName.cString,
   csvAppendOptionalU32 record.hasMeasurementId record.measurementId,
   csvAppendString (nameOrEmpty (valueTypeName record.valueType)),
   csvAppendOptionalI64 record.hasIntegerValue record.integerValue,
   csvAppendOptionalDouble record.hasRealValue record.realValue,
   csvAppendOptionalString record.hasDiagnosticCode record.diagnosticCode.cString,
   csvAppendOptionalString record.hasDiagnosticMessage record.diagnosticMessage.cString]

/-- The appends in order, with `csv_separator` between two of them. -/
def appendSeparated : List (Builder → Builder) → Builder → Builder
  | [], builder => builder
  | [append], builder => append builder
  | append :: rest, builder => appendSeparated rest (csvSeparator (append builder))

/-- The checks both record serializers make before the first append. -/
def serializeChecked (record : Option CanonicalRecord) (destination : Destination)
    (append : CanonicalRecord → Builder → Builder) : Serialized :=
  let refuse (result : SerializeResult) : Serialized := ⟨result, destination.cells, none⟩
  if destination.cells = none ∧ destination.capacity ≠ 0 then refuse .invalidArgument
  else
    match record with
    | none => refuse .invalidArgument
    | some present =>
        match (canonicalRecordValidate (some present)).1 with
        | .ok => builderResult (append present (builderInit destination))
        | result => refuse result

def serializeCsvHeader (destination : Destination) : Serialized :=
  if destination.cells = none ∧ destination.capacity ≠ 0 then
    ⟨.invalidArgument, destination.cells, none⟩
  else builderResult (builderAppendLiteral csvHeader (builderInit destination))

def serializeCsvRecord (record : Option CanonicalRecord) (destination : Destination) :
    Serialized :=
  serializeChecked record destination fun record builder =>
    builderAppendLiteral "\n" (appendSeparated (csvRecordAppends record) builder)

/-! ### The JSONL serializer -/

def hex : String := "0123456789abcdef"

def hexDigit (n : ℕ) : UInt8 := (bytes hex).getD n 0

def jsonAppendByte (byte : UInt8) : Builder → Builder :=
  if byte = 34 then builderAppendLiteral "\\\""
  else if byte = 92 then builderAppendLiteral "\\\\"
  else if byte = 8 then builderAppendLiteral "\\b"
  else if byte = 12 then builderAppendLiteral "\\f"
  else if byte = 10 then builderAppendLiteral "\\n"
  else if byte = 13 then builderAppendLiteral "\\r"
  else if byte = 9 then builderAppendLiteral "\\t"
  else if byte < 0x20 then
    builderAppendBytes (bytes "\\u00" ++
      [hexDigit ((byte >>> 4) &&& 0x0F).toNat, hexDigit (byte &&& 0x0F).toNat])
  else builderAppendBytes [byte]

def jsonAppendString (value : List UInt8) (builder : Builder) : Builder :=
  builderAppendLiteral "\"" <|
    value.foldl (fun builder byte => jsonAppendByte byte builder) <|
      builderAppendLiteral "\"" builder

/-- The key with its comma, and the flag `first` that it clears. -/
def jsonKey (key : String) (state : Builder × Bool) : Builder × Bool :=
  let builder := if !state.2 then builderAppendLiteral "," state.1 else state.1
  (builderAppendLiteral ":" (jsonAppendString (bytes key) builder), false)

/-- The `json_optional_*` family: an absent value appends `null`. -/
def jsonOptional {α : Type} (append : α → Builder → Builder) (present : Bool) (value : α) :
    Builder → Builder :=
  if present then append value else builderAppendLiteral "null"

def jsonOptionalString (present : Bool) (value : List UInt8) : Builder → Builder :=
  jsonOptional jsonAppendString present value

def jsonOptionalU32 (present : Bool) (value : UInt32) : Builder → Builder :=
  jsonOptional builderAppendU32 present value

def jsonOptionalU64 (present : Bool) (value : UInt64) : Builder → Builder :=
  jsonOptional builderAppendU64 present value

def jsonOptionalBool (present value : Bool) : Builder → Builder :=
  jsonOptional appendBool present value

def jsonOptionalI64 (present : Bool) (value : Int64) : Builder → Builder :=
  jsonOptional builderAppendI64 present value

def jsonOptionalDouble (present : Bool) (value : Binary64) : Builder → Builder :=
  jsonOptional builderAppendDouble present value

/-- The keys of a line with the append that follows each. -/
def jsonlRecordAppends (record : CanonicalRecord) : List (String × (Builder → Builder)) :=
  [("schema_version", jsonAppendString canonicalSchemaVersion),
   ("record_kind", jsonAppendString (nameOrEmpty (recordKindName record.recordKind))),
   ("indication_sequence", builderAppendU64 record.indicationSequence),
   ("receive_timestamp_us", builderAppendU64 record.receiveTimestampUs),
   ("kpm_header_timestamp_us",
     jsonOptionalU64 record.hasKpmHeaderTimestampUs record.kpmHeaderTimestampUs),
   ("message_format", builderAppendU32 record.messageFormat),
   ("node_type", jsonOptionalString record.hasNodeType record.nodeType.cString),
   ("node_id", jsonOptionalString record.hasNodeId record.nodeId.cString),
   ("ue_report_index", jsonOptionalU32 record.hasUeReportIndex record.ueReportIndex),
   ("ue_id_type", jsonAppendString record.ueIdType.cString),
   ("ue_id_value", jsonOptionalString record.hasUeIdValue record.ueIdValue.cString),
   ("meas_data_index", jsonOptionalU32 record.hasMeasDataIndex record.measDataIndex),
   ("meas_info_index", jsonOptionalU32 record.hasMeasInfoIndex record.measInfoIndex),
   ("meas_record_index", jsonOptionalU32 record.hasMeasRecordIndex record.measRecordIndex),
   ("meas_data_lst_len", builderAppendU32 record.measDataLstLen),
   ("meas_info_lst_len", builderAppendU32 record.measInfoLstLen),
   ("meas_record_len", builderAppendU32 record.measRecordLen),
   ("incomplete_flag_present", appendBool record.incompleteFlagPresent),
   ("incomplete_flag", jsonOptionalBool record.incompleteFlagPresent record.incompleteFlag),
   ("structural_status",
     jsonAppendString (nameOrEmpty (structuralStatusName record.structuralStatus))),
   ("descriptor_type", jsonAppendString (nameOrEmpty (descriptorTypeName record.descriptorType))),
   ("measurement_name",
     jsonOptionalString record.hasMeasurementName record.measurementName.cString),
   ("measurement_id", jsonOptionalU32 record.hasMeasurementId record.measurementId),
   ("value_type", jsonAppendString (nameOrEmpty (valueTypeName record.valueType))),
   ("integer_value", jsonOptionalI64 record.hasIntegerValue record.integerValue),
   ("real_value", jsonOptionalDouble record.hasRealValue record.realValue),
   ("diagnostic_code", jsonOptionalString record.hasDiagnosticCode record.diagnosticCode.cString),
   ("diagnostic_message",
     jsonOptionalString record.hasDiagnosticMessage record.diagnosticMessage.cString)]

def appendMembers (members : List (String × (Builder → Builder))) (builder : Builder) :
    Builder :=
  (members.foldl (fun state member =>
    let state := jsonKey member.1 state
    (member.2 state.1, state.2)) (builder, true)).1

def serializeJsonlRecord (record : Option CanonicalRecord) (destination : Destination) :
    Serialized :=
  serializeChecked record destination fun record builder =>
    builderAppendLiteral "\x7d\n" (appendMembers (jsonlRecordAppends record)
      (builderAppendLiteral "\x7b" builder))

/-! ### The fields of a record -/

/-- A value as both formats print it. -/
inductive FieldValue
  | string (text : List UInt8)
  | natural (value : ℕ)
  | integer (value : ℤ)
  | real (value : Binary64)
  | boolean (value : Bool)

def optionalField (present : Bool) (value : FieldValue) : Option FieldValue :=
  if present then some value else none

/-- The catalogue: the names in order, each with the value of the record, if it has one. -/
def recordFields (record : CanonicalRecord) : List (String × Option FieldValue) :=
  [("schema_version", some (.string canonicalSchemaVersion)),
   ("record_kind", some (.string (nameOrEmpty (recordKindName record.recordKind)))),
   ("indication_sequence", some (.natural record.indicationSequence.toNat)),
   ("receive_timestamp_us", some (.natural record.receiveTimestampUs.toNat)),
   ("kpm_header_timestamp_us",
     optionalField record.hasKpmHeaderTimestampUs (.natural record.kpmHeaderTimestampUs.toNat)),
   ("message_format", some (.natural record.messageFormat.toNat)),
   ("node_type", optionalField record.hasNodeType (.string record.nodeType.cString)),
   ("node_id", optionalField record.hasNodeId (.string record.nodeId.cString)),
   ("ue_report_index",
     optionalField record.hasUeReportIndex (.natural record.ueReportIndex.toNat)),
   ("ue_id_type", some (.string record.ueIdType.cString)),
   ("ue_id_value", optionalField record.hasUeIdValue (.string record.ueIdValue.cString)),
   ("meas_data_index",
     optionalField record.hasMeasDataIndex (.natural record.measDataIndex.toNat)),
   ("meas_info_index",
     optionalField record.hasMeasInfoIndex (.natural record.measInfoIndex.toNat)),
   ("meas_record_index",
     optionalField record.hasMeasRecordIndex (.natural record.measRecordIndex.toNat)),
   ("meas_data_lst_len", some (.natural record.measDataLstLen.toNat)),
   ("meas_info_lst_len", some (.natural record.measInfoLstLen.toNat)),
   ("meas_record_len", some (.natural record.measRecordLen.toNat)),
   ("incomplete_flag_present", some (.boolean record.incompleteFlagPresent)),
   ("incomplete_flag",
     optionalField record.incompleteFlagPresent (.boolean record.incompleteFlag)),
   ("structural_status",
     some (.string (nameOrEmpty (structuralStatusName record.structuralStatus)))),
   ("descriptor_type", some (.string (nameOrEmpty (descriptorTypeName record.descriptorType)))),
   ("measurement_name",
     optionalField record.hasMeasurementName (.string record.measurementName.cString)),
   ("measurement_id",
     optionalField record.hasMeasurementId (.natural record.measurementId.toNat)),
   ("value_type", some (.string (nameOrEmpty (valueTypeName record.valueType)))),
   ("integer_value",
     optionalField record.hasIntegerValue (.integer record.integerValue.toInt)),
   ("real_value", optionalField record.hasRealValue (.real record.realValue)),
   ("diagnostic_code",
     optionalField record.hasDiagnosticCode (.string record.diagnosticCode.cString)),
   ("diagnostic_message",
     optionalField record.hasDiagnosticMessage (.string record.diagnosticMessage.cString))]

/-- The number a value prints, where it is one. -/
def numberText : FieldValue → List UInt8
  | .string _ => []
  | .natural value => decimal value
  | .integer value => signedDecimal value
  | .real value => printG17 value
  | .boolean value => bytes (if value then "true" else "false")

/-! ### The text of a row -/

def csvEscape (byte : UInt8) : List UInt8 := if byte = 34 then [34, 34] else [byte]

def csvString (value : List UInt8) : List UInt8 := [34] ++ value.flatMap csvEscape ++ [34]

def csvCell : Option FieldValue → List UInt8
  | none => []
  | some (.string text) => csvString text
  | some value => numberText value

@[simp] theorem csvCell_string (text : List UInt8) :
    csvCell (some (.string text)) = csvString text := rfl

@[simp] theorem csvCell_natural (value : ℕ) : csvCell (some (.natural value)) = decimal value := rfl

@[simp] theorem csvCell_boolean (value : Bool) :
    csvCell (some (.boolean value)) = bytes (if value then "true" else "false") := rfl

def csvLine (record : CanonicalRecord) : List UInt8 :=
  List.intercalate [44] ((recordFields record).map fun field => csvCell field.2) ++ [10]

theorem appends_csvByte (byte : UInt8) : Appends (csvAppendByte byte) (csvEscape byte) := by
  unfold csvAppendByte csvEscape
  split
  · exact appends_literal _
  · exact appends_bytes _

theorem appends_csvString (value : List UInt8) :
    Appends (csvAppendString value) (csvString value) :=
  ((appends_literal "\"").comp (appends_foldl appends_csvByte value)).comp (appends_literal "\"")

theorem appends_bool (value : Bool) :
    Appends (appendBool value) (bytes (if value then "true" else "false")) :=
  appends_literal _

theorem appends_csvOptional {α : Type} {append : α → Builder → Builder} {value : α}
    (field : FieldValue) (h : Appends (append value) (csvCell (some field))) (present : Bool) :
    Appends (csvAppendOptional append present value) (csvCell (optionalField present field)) := by
  cases present
  · exact appends_nil
  · exact h

theorem appends_separated {appends : List (Builder → Builder)} {texts : List (List UInt8)}
    (h : List.Forall₂ Appends appends texts) :
    Appends (appendSeparated appends) (List.intercalate [44] texts) := by
  induction h with
  | nil => exact appends_nil
  | cons hf hrest ih =>
    cases hrest with
    | nil =>
      intro destination before
      simpa [appendSeparated, List.intercalate] using hf destination before
    | cons hg hrest =>
      have hcomma : bytes "," = [44] := by decide
      intro destination before
      rw [appendSeparated.eq_3 _ _ _ (by simp), hf, csvSeparator, appends_literal, ih, hcomma]
      simp [List.intercalate]

section
variable (present : Bool)

theorem appends_csvOptionalString (value : List UInt8) :
    Appends (csvAppendOptionalString present value)
      (csvCell (optionalField present (.string value))) :=
  appends_csvOptional (.string value) (appends_csvString value) present

theorem appends_csvOptionalU32 (value : UInt32) :
    Appends (csvAppendOptionalU32 present value)
      (csvCell (optionalField present (.natural value.toNat))) :=
  appends_csvOptional (.natural value.toNat) (appends_u32 value) present

theorem appends_csvOptionalU64 (value : UInt64) :
    Appends (csvAppendOptionalU64 present value)
      (csvCell (optionalField present (.natural value.toNat))) :=
  appends_csvOptional (.natural value.toNat) (appends_u64 value) present

theorem appends_csvOptionalBool (value : Bool) :
    Appends (csvAppendOptionalBool present value)
      (csvCell (optionalField present (.boolean value))) :=
  appends_csvOptional (.boolean value) (appends_bool value) present

theorem appends_csvOptionalI64 (value : Int64) :
    Appends (csvAppendOptionalI64 present value)
      (csvCell (optionalField present (.integer value.toInt))) :=
  appends_csvOptional (.integer value.toInt) (appends_i64 value) present

theorem appends_csvOptionalDouble (value : Binary64) :
    Appends (csvAppendOptionalDouble present value)
      (csvCell (optionalField present (.real value))) :=
  appends_csvOptional (.real value) (appends_double value) present

end

/-- Field by field the row prints the catalogue. -/
theorem csvRecordAppends_spec (record : CanonicalRecord) :
    List.Forall₂ Appends (csvRecordAppends record)
      ((recordFields record).map fun field => csvCell field.2) := by
  simp only [csvRecordAppends, recordFields, List.map_cons, List.map_nil, List.forall₂_cons,
    List.forall₂_nil_left_iff, appends_csvOptionalString, appends_csvOptionalU32,
    appends_csvOptionalU64, appends_csvOptionalBool, appends_csvOptionalI64,
    appends_csvOptionalDouble, csvCell_string, csvCell_natural, csvCell_boolean, appends_csvString, appends_u32, appends_u64,
    appends_bool, and_self]

/-! ### The text of a line -/

def jsonEscape (byte : UInt8) : List UInt8 :=
  if byte = 34 then [92, 34]
  else if byte = 92 then [92, 92]
  else if byte = 8 then [92, 98]
  else if byte = 12 then [92, 102]
  else if byte = 10 then [92, 110]
  else if byte = 13 then [92, 114]
  else if byte = 9 then [92, 116]
  else if byte < 0x20 then
    [92, 117, 48, 48, hexDigit ((byte >>> 4) &&& 0x0F).toNat, hexDigit (byte &&& 0x0F).toNat]
  else [byte]

def jsonString (value : List UInt8) : List UInt8 := [34] ++ value.flatMap jsonEscape ++ [34]

def jsonValue : Option FieldValue → List UInt8
  | none => bytes "null"
  | some (.string text) => jsonString text
  | some value => numberText value

@[simp] theorem jsonValue_string (text : List UInt8) :
    jsonValue (some (.string text)) = jsonString text := rfl

@[simp] theorem jsonValue_natural (value : ℕ) :
    jsonValue (some (.natural value)) = decimal value := rfl

@[simp] theorem jsonValue_boolean (value : Bool) :
    jsonValue (some (.boolean value)) = bytes (if value then "true" else "false") := rfl

def jsonMember (field : String × Option FieldValue) : List UInt8 :=
  jsonString (bytes field.1) ++ [58] ++ jsonValue field.2

def jsonlLine (record : CanonicalRecord) : List UInt8 :=
  [123] ++ List.intercalate [44] ((recordFields record).map jsonMember) ++ [125, 10]

theorem appends_jsonByte (byte : UInt8) : Appends (jsonAppendByte byte) (jsonEscape byte) := by
  unfold jsonAppendByte jsonEscape
  split_ifs
  iterate 7 exact appends_literal _
  · exact appends_bytes _
  · exact appends_bytes _

theorem appends_jsonString (value : List UInt8) :
    Appends (jsonAppendString value) (jsonString value) :=
  ((appends_literal "\"").comp (appends_foldl appends_jsonByte value)).comp (appends_literal "\"")

theorem appends_jsonOptional {α : Type} {append : α → Builder → Builder} {value : α}
    (field : FieldValue) (h : Appends (append value) (jsonValue (some field))) (present : Bool) :
    Appends (jsonOptional append present value) (jsonValue (optionalField present field)) := by
  cases present
  · exact appends_literal _
  · exact h

/-- The keys agree, and each append prints the value. -/
def PrintsMember (member : String × (Builder → Builder)) (field : String × Option FieldValue) :
    Prop :=
  member.1 = field.1 ∧ Appends member.2 (jsonValue field.2)

section
variable (present : Bool)

theorem appends_jsonOptionalString (value : List UInt8) :
    Appends (jsonOptionalString present value)
      (jsonValue (optionalField present (.string value))) :=
  appends_jsonOptional (.string value) (appends_jsonString value) present

theorem appends_jsonOptionalU32 (value : UInt32) :
    Appends (jsonOptionalU32 present value)
      (jsonValue (optionalField present (.natural value.toNat))) :=
  appends_jsonOptional (.natural value.toNat) (appends_u32 value) present

theorem appends_jsonOptionalU64 (value : UInt64) :
    Appends (jsonOptionalU64 present value)
      (jsonValue (optionalField present (.natural value.toNat))) :=
  appends_jsonOptional (.natural value.toNat) (appends_u64 value) present

theorem appends_jsonOptionalBool (value : Bool) :
    Appends (jsonOptionalBool present value)
      (jsonValue (optionalField present (.boolean value))) :=
  appends_jsonOptional (.boolean value) (appends_bool value) present

theorem appends_jsonOptionalI64 (value : Int64) :
    Appends (jsonOptionalI64 present value)
      (jsonValue (optionalField present (.integer value.toInt))) :=
  appends_jsonOptional (.integer value.toInt) (appends_i64 value) present

theorem appends_jsonOptionalDouble (value : Binary64) :
    Appends (jsonOptionalDouble present value)
      (jsonValue (optionalField present (.real value))) :=
  appends_jsonOptional (.real value) (appends_double value) present

end

/-- Member by member the line prints the catalogue. -/
theorem jsonlRecordAppends_spec (record : CanonicalRecord) :
    List.Forall₂ PrintsMember (jsonlRecordAppends record) (recordFields record) := by
  simp only [jsonlRecordAppends, recordFields, List.forall₂_cons,
    List.forall₂_nil_left_iff, PrintsMember, appends_jsonOptionalString,
    appends_jsonOptionalU32, appends_jsonOptionalU64, appends_jsonOptionalBool,
    appends_jsonOptionalI64, appends_jsonOptionalDouble, jsonValue_string, jsonValue_natural,
    jsonValue_boolean, appends_jsonString, appends_u32, appends_u64, appends_bool, and_self]

/-- The text of the members that are appended when `first` says whether one came before. -/
def membersText (first : Bool) (fields : List (String × Option FieldValue)) : List UInt8 :=
  match fields with
  | [] => []
  | field :: rest => (if first then [] else [44]) ++ jsonMember field ++ membersText false rest

theorem membersText_cons (field : String × Option FieldValue)
    (rest : List (String × Option FieldValue)) :
    membersText true (field :: rest) =
      List.intercalate [44] ((field :: rest).map jsonMember) := by
  induction rest generalizing field with
  | nil => simp [membersText, List.intercalate]
  | cons next rest ih =>
    have h := ih next
    simp only [membersText, if_true, List.nil_append, Bool.false_eq_true, if_false, List.map_cons,
      List.intercalate] at h ⊢
    simp [h]

theorem appends_members_from {members : List (String × (Builder → Builder))}
    {fields : List (String × Option FieldValue)} (h : List.Forall₂ PrintsMember members fields)
    (destination : Destination) (before : List UInt8) (first : Bool) :
    (members.foldl (fun state member =>
      let state := jsonKey member.1 state
      (member.2 state.1, state.2)) (render destination before, first)).1 =
    render destination (before ++ membersText first fields) := by
  have hcomma : bytes "," = [44] := by decide
  have hcolon : bytes ":" = [58] := by decide
  induction h generalizing before first with
  | nil => simp [membersText]
  | @cons member field members fields hm _ ih =>
    obtain ⟨hkey, hvalue⟩ := hm
    have hstep : jsonKey member.1 (render destination before, first) =
        (render destination (before ++ (if first then [] else [44]) ++
          jsonString (bytes field.1) ++ [58]), false) := by
      cases first <;> simp [jsonKey, appends_literal _ _ _, appends_jsonString _ _ _, hcomma,
        hcolon, hkey]
    simp only [List.foldl_cons, hstep]
    rw [hvalue, ih]
    simp [membersText, jsonMember]

theorem appends_members {members : List (String × (Builder → Builder))}
    {fields : List (String × Option FieldValue)} (h : List.Forall₂ PrintsMember members fields) :
    Appends (appendMembers members) (List.intercalate [44] (fields.map jsonMember)) := by
  intro destination before
  rw [appendMembers, appends_members_from h]
  cases fields with
  | nil => rfl
  | cons field rest => rw [membersText_cons]

/-! ### What the serializers print -/

section
variable {record : CanonicalRecord} {destination : Destination}

theorem serializeChecked_eq {append : CanonicalRecord → Builder → Builder} {text : List UInt8}
    (h : Accepted record) (happend : Appends (append record) text)
    (hsome : ¬ (destination.cells = none ∧ destination.capacity ≠ 0)) :
    serializeChecked (some record) destination append = builderResult (render destination text) := by
  have hvalid : (canonicalRecordValidate (some record)).1 = .ok :=
    canonicalRecordValidate_eq_ok.mpr h
  simp only [serializeChecked, if_neg hsome, hvalid]
  rw [builderInit_eq, happend, List.nil_append]

theorem serializeChecked_accepted {append : CanonicalRecord → Builder → Builder}
    {text : List UInt8} (h : Accepted record) (happend : Appends (append record) text)
    (hcells : destination.cells.isSome) :
    serializeChecked (some record) destination append = builderResult (render destination text) := by
  refine serializeChecked_eq h happend ?_
  rintro ⟨hnone, -⟩
  simp [hnone] at hcells

theorem appends_csvLine (record : CanonicalRecord) :
    Appends (fun builder => builderAppendLiteral "\n"
      (appendSeparated (csvRecordAppends record) builder)) (csvLine record) :=
  (appends_separated (csvRecordAppends_spec record)).comp (appends_literal "\n")

theorem appends_jsonlLine (record : CanonicalRecord) :
    Appends (fun builder => builderAppendLiteral "\x7d\n" (appendMembers (jsonlRecordAppends record)
      (builderAppendLiteral "\x7b" builder))) (jsonlLine record) :=
  ((appends_literal "\x7b").comp (appends_members (jsonlRecordAppends_spec record))).comp
    (appends_literal "\x7d\n")

theorem serializeCsvRecord_accepted (h : Accepted record) (hcells : destination.cells.isSome) :
    serializeCsvRecord (some record) destination =
      builderResult (render destination (csvLine record)) :=
  serializeChecked_accepted h (appends_csvLine record) hcells

theorem serializeJsonlRecord_accepted (h : Accepted record) (hcells : destination.cells.isSome) :
    serializeJsonlRecord (some record) destination =
      builderResult (render destination (jsonlLine record)) :=
  serializeChecked_accepted h (appends_jsonlLine record) hcells

/-- A call that leaves a line in its buffer leaves the line of the record. -/
theorem serializeJsonlRecord_holds_eq {line : List UInt8} (h : Accepted record)
    (hholds : (serializeJsonlRecord (some record) destination).Holds line) :
    line = jsonlLine record := by
  by_cases hrefused : destination.cells = none ∧ destination.capacity ≠ 0
  · have hok := hholds.1
    simp [serializeJsonlRecord, serializeChecked, hrefused] at hok
  · rw [serializeJsonlRecord, serializeChecked_eq h (appends_jsonlLine record) hrefused] at hholds
    exact builderResult_holds_eq hholds

end

end TcdOran.Collector
