import TcdOran.Lib.Binary64
import TcdOran.Lib.Check
import TcdOran.Lib.Json

/-! `parse_row` of jsonl_to_parquet.py, with the catalogue it is given. A Python string is the
list of its code points. -/
namespace TcdOran.Parquet
open TcdOran.Lib

inductive LogicalType
  | string | enum | uint64 | uint32 | boolean | int64 | float64
  deriving DecidableEq

structure Field where
  name : List ℕ
  logicalType : LogicalType
  nullable : Bool

/-- The catalogue file canonical-record-emulator-draft-0.1.tsv, as `load_catalogue` reads it. -/
def catalogue : List Field :=
  [⟨chars "schema_version", .string, false⟩,
   ⟨chars "record_kind", .enum, false⟩,
   ⟨chars "indication_sequence", .uint64, false⟩,
   ⟨chars "receive_timestamp_us", .uint64, false⟩,
   ⟨chars "kpm_header_timestamp_us", .uint64, true⟩,
   ⟨chars "message_format", .uint32, false⟩,
   ⟨chars "node_type", .string, true⟩,
   ⟨chars "node_id", .string, true⟩,
   ⟨chars "ue_report_index", .uint32, true⟩,
   ⟨chars "ue_id_type", .string, false⟩,
   ⟨chars "ue_id_value", .string, true⟩,
   ⟨chars "meas_data_index", .uint32, true⟩,
   ⟨chars "meas_info_index", .uint32, true⟩,
   ⟨chars "meas_record_index", .uint32, true⟩,
   ⟨chars "meas_data_lst_len", .uint32, false⟩,
   ⟨chars "meas_info_lst_len", .uint32, false⟩,
   ⟨chars "meas_record_len", .uint32, false⟩,
   ⟨chars "incomplete_flag_present", .boolean, false⟩,
   ⟨chars "incomplete_flag", .boolean, true⟩,
   ⟨chars "structural_status", .enum, false⟩,
   ⟨chars "descriptor_type", .enum, false⟩,
   ⟨chars "measurement_name", .string, true⟩,
   ⟨chars "measurement_id", .uint32, true⟩,
   ⟨chars "value_type", .enum, false⟩,
   ⟨chars "integer_value", .int64, true⟩,
   ⟨chars "real_value", .float64, true⟩,
   ⟨chars "diagnostic_code", .string, true⟩,
   ⟨chars "diagnostic_message", .string, true⟩]

def schemaVersion : String := "tcd.kpm.record.emulator-draft-0.1"

def uint32Max : ℤ := 2 ^ 32 - 1
def uint64Max : ℤ := 2 ^ 64 - 1
def int64Min : ℤ := -2 ^ 63
def int64Max : ℤ := 2 ^ 63 - 1

def structuralStatuses : List String :=
  ["ok", "no_value", "length_mismatch", "invalid_input", "unsupported_ue_id",
   "unsupported_descriptor", "unsupported_value_type"]
def descriptorTypes : List String := ["name", "id", "unknown"]
def valueTypes : List String := ["integer", "real", "no_value", "unknown"]
def recordKinds : List String := ["measurement", "diagnostic"]

/-- A value of a row; `None` is the absent one. -/
inductive Scalar
  | str (units : List ℕ)
  | bool (value : Bool)
  | int (value : ℤ)
  | float (value : ℚ)
  deriving DecidableEq

/-- The text of a `ConversionError`. -/
abbrev Message := List ℕ

abbrev Row := List (List ℕ × Option Scalar)

def Row.get (row : Row) (name : String) : Option Scalar := (row.lookup (chars name)).getD none

/-! ### Scalars -/

def fieldMessage (field : Field) (text : String) : Message :=
  chars "field " ++ field.name ++ chars text

/-- An integer literal is an `int`; one with a fraction or an exponent is a `float`. -/
def validateInteger (field : Field) (typeName : String) (low high : ℤ) (value : Json) :
    Except Message (Option Scalar) :=
  match value with
  | .num literal =>
      if literal.isInteger then
        if low ≤ literal.intValue ∧ literal.intValue ≤ high then
          .ok (some (.int literal.intValue))
        else .error (fieldMessage field s!" is outside {typeName} range")
      else .error (fieldMessage field " must be an integer")
  | _ => .error (fieldMessage field " must be an integer")

/-- `float` of an `int`, or the float that the decoder has made of the literal. -/
def validateFloat (field : Field) (value : Json) : Except Message (Option Scalar) :=
  match value with
  | .num literal =>
      match nearestBinary64 literal.value with
      | some converted => .ok (some (.float converted))
      | none => .error (fieldMessage field " must be finite")
  | _ => .error (fieldMessage field " must be numeric")

def validateString (field : Field) (value : Json) : Except Message (Option Scalar) :=
  match value with
  | .str units => .ok (some (.str units))
  | _ => .error (fieldMessage field " must be a string")

def validateBoolean (field : Field) (value : Json) : Except Message (Option Scalar) :=
  match value with
  | .bool value => .ok (some (.bool value))
  | _ => .error (fieldMessage field " must be a boolean")

def validateScalar (field : Field) (value : Json) : Except Message (Option Scalar) :=
  match value with
  | .null => if field.nullable then .ok none else .error (fieldMessage field " is not nullable")
  | value =>
      match field.logicalType with
      | .string | .enum => validateString field value
      | .boolean => validateBoolean field value
      | .uint32 => validateInteger field "uint32" 0 uint32Max value
      | .uint64 => validateInteger field "uint64" 0 uint64Max value
      | .int64 => validateInteger field "int64" int64Min int64Max value
      | .float64 => validateFloat field value

/-! ### Semantics -/

def isStr (value : Option Scalar) (text : String) : Prop := value = some (.str (chars text))

instance (value : Option Scalar) (text : String) : Decidable (isStr value text) :=
  inferInstanceAs (Decidable (_ = _))

def isOneOf (value : Option Scalar) (texts : List String) : Prop :=
  ∃ text ∈ texts, isStr value text

instance (value : Option Scalar) (texts : List String) : Decidable (isOneOf value texts) :=
  inferInstanceAs (Decidable (∃ text ∈ texts, _))

def truthy : Option Scalar → Bool
  | none => false
  | some (.str units) => units ≠ []
  | some (.bool value) => value
  | some (.int value) => value ≠ 0
  | some (.float value) => value ≠ 0

def check (condition : Prop) [Decidable condition] (message : String) : Except Message Unit :=
  require condition (chars message)

def validateCommon (row : Row) : Except Message Unit := do
  check (isStr (row.get "schema_version") schemaVersion) "schema_version mismatch"
  check (isOneOf (row.get "record_kind") recordKinds) "invalid record_kind"
  check (isOneOf (row.get "structural_status") structuralStatuses) "invalid structural_status"
  check (isOneOf (row.get "descriptor_type") descriptorTypes) "invalid descriptor_type"
  check (isOneOf (row.get "value_type") valueTypes) "invalid value_type"
  check (truthy (row.get "ue_id_type")) "ue_id_type must not be empty"
  if !truthy (row.get "incomplete_flag_present") then
    check (row.get "incomplete_flag" = none) "absent incomplete flag must be null"
  else
    check (row.get "incomplete_flag" ≠ none) "present incomplete flag must have a value"

def validateDiagnostic (row : Row) : Except Message Unit := do
  check (row.get "meas_info_index" = none) "diagnostic meas_info_index must be null"
  check (row.get "meas_record_index" = none) "diagnostic meas_record_index must be null"
  check (isStr (row.get "descriptor_type") "unknown") "diagnostic descriptor_type must be unknown"
  check (isStr (row.get "value_type") "unknown") "diagnostic value_type must be unknown"
  check (row.get "measurement_name" = none) "diagnostic measurement_name must be null"
  check (row.get "measurement_id" = none) "diagnostic measurement_id must be null"
  check (row.get "integer_value" = none) "diagnostic integer_value must be null"
  check (row.get "real_value" = none) "diagnostic real_value must be null"
  check (row.get "diagnostic_code" ≠ none) "diagnostic_code must be present"
  check (row.get "diagnostic_message" ≠ none) "diagnostic_message must be present"
  if isStr (row.get "structural_status") "length_mismatch" then
    check (row.get "meas_info_lst_len" ≠ row.get "meas_record_len")
      "length_mismatch diagnostic requires unequal lengths"

def validateDescriptor (row : Row) : Except Message Unit :=
  if isStr (row.get "descriptor_type") "name" then do
    check (row.get "measurement_name" ≠ none) "name descriptor requires measurement_name"
    check (row.get "measurement_id" = none) "name descriptor requires null measurement_id"
  else if isStr (row.get "descriptor_type") "id" then do
    check (row.get "measurement_id" ≠ none) "id descriptor requires measurement_id"
    check (row.get "measurement_name" = none) "id descriptor requires null measurement_name"
  else .error (chars "measurement descriptor_type must be name or id")

def validateValue (row : Row) : Except Message Unit :=
  if isStr (row.get "value_type") "integer" then do
    check (row.get "integer_value" ≠ none) "integer value requires integer_value"
    check (row.get "real_value" = none) "integer value requires null real_value"
  else if isStr (row.get "value_type") "real" then do
    check (row.get "real_value" ≠ none) "real value requires real_value"
    check (row.get "integer_value" = none) "real value requires null integer_value"
  else if isStr (row.get "value_type") "no_value" then do
    check (row.get "integer_value" = none) "no_value requires null integer_value"
    check (row.get "real_value" = none) "no_value requires null real_value"
  else .error (chars "measurement value_type must be integer, real, or no_value")

def validateMeasurement (row : Row) : Except Message Unit := do
  check (row.get "meas_info_index" ≠ none) "measurement meas_info_index must be present"
  check (row.get "meas_record_index" ≠ none) "measurement meas_record_index must be present"
  check (row.get "meas_info_index" = row.get "meas_record_index")
    "measurement metadata and record indexes must match"
  check (row.get "diagnostic_code" = none) "measurement diagnostic_code must be null"
  check (row.get "diagnostic_message" = none) "measurement diagnostic_message must be null"
  validateDescriptor row
  validateValue row

def validateSemantics (row : Row) : Except Message Unit := do
  validateCommon row
  if isStr (row.get "record_kind") "diagnostic" then validateDiagnostic row
  else validateMeasurement row

/-! ### One line -/

/-- The first key that occurs a second time. -/
def repeatedKey : List (List ℕ) → List (List ℕ) → Option (List ℕ)
  | _, [] => none
  | seen, key :: keys => if key ∈ seen then some key else repeatedKey (key :: seen) keys

mutual

/-- `strict_object` sees the objects of a document from the inside out. -/
def duplicateKey : Json → Option (List ℕ)
  | .arr elements => duplicateInElements elements
  | .obj members => (duplicateInMembers members).or (repeatedKey [] (members.map Prod.fst))
  | _ => none

def duplicateInElements : List Json → Option (List ℕ)
  | [] => none
  | element :: elements => (duplicateKey element).or (duplicateInElements elements)

def duplicateInMembers : List (List ℕ × Json) → Option (List ℕ)
  | [] => none
  | (_, value) :: members => (duplicateKey value).or (duplicateInMembers members)

end

def lineMessage (lineNumber : ℕ) (text : Message) : Message :=
  chars "line " ++ decimalUnits lineNumber ++ chars ": " ++ text

/-- `json.loads` with the two hooks; the decoder's own description of a syntax error is not
part of the message. -/
def loadsStrict (line : List ℕ) (lineNumber : ℕ) : Except Message Json :=
  match Json.parse line with
  | none => .error (lineMessage lineNumber (chars "invalid JSON: "))
  | some value =>
      match duplicateKey value with
      | some key =>
          .error (lineMessage lineNumber (chars "invalid JSON: duplicate field: " ++ key))
      | none => .ok value

def joined (names : List (List ℕ)) : Message :=
  List.intercalate (chars ",") (names.insertionSort (· ≤ ·))

def checkNames (names actual : List (List ℕ)) (lineNumber : ℕ) : Except Message Unit := do
  let missing := names.filter (· ∉ actual)
  let unknown := actual.filter (· ∉ names)
  require (missing = []) (lineMessage lineNumber (chars "missing fields: " ++ joined missing))
  require (unknown = []) (lineMessage lineNumber (chars "unknown fields: " ++ joined unknown))

def validateField (members : List (List ℕ × Json)) (field : Field) :
    Except Message (List ℕ × Option Scalar) := do
  let value ← validateScalar field ((members.lookup field.name).getD .null)
  return (field.name, value)

def parseRow (line : List ℕ) (lineNumber : ℕ) (fields : List Field) : Except Message Row := do
  match ← loadsStrict line lineNumber with
  | .obj members =>
      checkNames (fields.map Field.name) (members.map Prod.fst) lineNumber
      let row ← fields.mapM (validateField members)
      (validateSemantics row).mapError (lineMessage lineNumber)
      return row
  | _ => .error (lineMessage lineNumber (chars "record must be a JSON object"))

end TcdOran.Parquet
