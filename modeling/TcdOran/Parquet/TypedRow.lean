import TcdOran.Collector.CanonicalRecord
import TcdOran.Lib.Association
import TcdOran.Parquet.Converter

/-! Rows whose values have the types of the catalogue and fit the fields of the canonical
record, and what `parse_row` makes of a JSON object that denotes one. -/
namespace TcdOran.Parquet
open TcdOran.Lib
open TcdOran.Collector (nodeTypeCapacity nodeIdCapacity ueIdTypeCapacity ueIdValueCapacity
  measurementNameCapacity diagnosticCodeCapacity diagnosticMessageCapacity)

/-- A text whose UTF-8 form a character array can hold, terminator included. -/
structure CText (capacity : ℕ) where
  units : List ℕ
  bytes : List UInt8
  encoded : codePoints bytes = some units
  nul_free : (0 : UInt8) ∉ bytes
  fits : bytes.length < capacity

/-- The value of a finite double. -/
structure FiniteReal where
  value : ℚ
  finite : ∃ b : Binary64, b.isFinite = true ∧ b.toRat = value

structure TypedRow where
  schemaVersion : List ℕ
  recordKind : List ℕ
  indicationSequence : UInt64
  receiveTimestampUs : UInt64
  kpmHeaderTimestampUs : Option UInt64
  messageFormat : UInt32
  nodeType : Option (CText nodeTypeCapacity)
  nodeId : Option (CText nodeIdCapacity)
  ueReportIndex : Option UInt32
  ueIdType : CText ueIdTypeCapacity
  ueIdValue : Option (CText ueIdValueCapacity)
  measDataIndex : Option UInt32
  measInfoIndex : Option UInt32
  measRecordIndex : Option UInt32
  measDataLstLen : UInt32
  measInfoLstLen : UInt32
  measRecordLen : UInt32
  incompleteFlagPresent : Bool
  incompleteFlag : Option Bool
  structuralStatus : List ℕ
  descriptorType : List ℕ
  measurementName : Option (CText measurementNameCapacity)
  measurementId : Option UInt32
  valueType : List ℕ
  integerValue : Option Int64
  realValue : Option FiniteReal
  diagnosticCode : Option (CText diagnosticCodeCapacity)
  diagnosticMessage : Option (CText diagnosticMessageCapacity)

def textScalar {capacity : ℕ} (text : CText capacity) : Scalar := .str text.units
def u32Scalar (value : UInt32) : Scalar := .int value.toNat
def u64Scalar (value : UInt64) : Scalar := .int value.toNat
def i64Scalar (value : Int64) : Scalar := .int value.toInt
def realScalar (value : FiniteReal) : Scalar := .float value.value

/-- The row as the converter holds it. -/
def TypedRow.toRow (r : TypedRow) : Row :=
  [(chars "schema_version", some (.str r.schemaVersion)),
   (chars "record_kind", some (.str r.recordKind)),
   (chars "indication_sequence", some (u64Scalar r.indicationSequence)),
   (chars "receive_timestamp_us", some (u64Scalar r.receiveTimestampUs)),
   (chars "kpm_header_timestamp_us", r.kpmHeaderTimestampUs.map u64Scalar),
   (chars "message_format", some (u32Scalar r.messageFormat)),
   (chars "node_type", r.nodeType.map textScalar),
   (chars "node_id", r.nodeId.map textScalar),
   (chars "ue_report_index", r.ueReportIndex.map u32Scalar),
   (chars "ue_id_type", some (textScalar r.ueIdType)),
   (chars "ue_id_value", r.ueIdValue.map textScalar),
   (chars "meas_data_index", r.measDataIndex.map u32Scalar),
   (chars "meas_info_index", r.measInfoIndex.map u32Scalar),
   (chars "meas_record_index", r.measRecordIndex.map u32Scalar),
   (chars "meas_data_lst_len", some (u32Scalar r.measDataLstLen)),
   (chars "meas_info_lst_len", some (u32Scalar r.measInfoLstLen)),
   (chars "meas_record_len", some (u32Scalar r.measRecordLen)),
   (chars "incomplete_flag_present", some (.bool r.incompleteFlagPresent)),
   (chars "incomplete_flag", r.incompleteFlag.map Scalar.bool),
   (chars "structural_status", some (.str r.structuralStatus)),
   (chars "descriptor_type", some (.str r.descriptorType)),
   (chars "measurement_name", r.measurementName.map textScalar),
   (chars "measurement_id", r.measurementId.map u32Scalar),
   (chars "value_type", some (.str r.valueType)),
   (chars "integer_value", r.integerValue.map i64Scalar),
   (chars "real_value", r.realValue.map realScalar),
   (chars "diagnostic_code", r.diagnosticCode.map textScalar),
   (chars "diagnostic_message", r.diagnosticMessage.map textScalar)]

/-! ### Objects that denote a row -/

/-- The value of a JSON value under a logical type, where it has one; the range of the type and
nullability are not looked at. -/
def readScalar (type : LogicalType) : Json → Option (Option Scalar)
  | .null => some none
  | .str units => if type = .string ∨ type = .enum then some (some (.str units)) else none
  | .bool value => if type = .boolean then some (some (.bool value)) else none
  | .num literal =>
      if type = .float64 then (nearestBinary64 literal.value).map fun value => some (.float value)
      else if (type = .uint32 ∨ type = .uint64 ∨ type = .int64) ∧ literal.isInteger then
        some (some (.int literal.intValue))
      else none
  | _ => none

/-- The object has exactly the catalogue keys, in any order, and the values of the row. -/
structure Denotes (members : List (List ℕ × Json)) (r : TypedRow) : Prop where
  keys : (members.map Prod.fst).Perm (catalogue.map Field.name)
  values : List.Forall₂ (fun field entry => ∃ value, (field.name, value) ∈ members ∧
    readScalar field.logicalType value = some entry.2) catalogue r.toRow

theorem catalogue_nodup : (catalogue.map Field.name).Nodup := by decide +kernel

theorem Denotes.nodup {members : List (List ℕ × Json)} {r : TypedRow} (h : Denotes members r) :
    (members.map Prod.fst).Nodup := h.keys.nodup_iff.mpr catalogue_nodup

/-! ### Scalars -/

/-- Every JSON value that denotes the scalar is accepted and gives it. -/
def Fits (field : Field) (scalar : Option Scalar) : Prop :=
  ∀ value, readScalar field.logicalType value = some scalar →
    validateScalar field value = .ok scalar

inductive Reads : Json → Option Scalar → Prop
  | null : Reads .null none
  | str (units : List ℕ) : Reads (.str units) (some (.str units))
  | bool (value : Bool) : Reads (.bool value) (some (.bool value))
  | int (literal : NumberLiteral) : literal.isInteger = true →
      Reads (.num literal) (some (.int literal.intValue))
  | float (literal : NumberLiteral) (value : ℚ) : nearestBinary64 literal.value = some value →
      Reads (.num literal) (some (.float value))

theorem reads_of_readScalar {type : LogicalType} {value : Json} {scalar : Option Scalar}
    (h : readScalar type value = some scalar) : Reads value scalar := by
  cases value with
  | null =>
    obtain rfl := Option.some.inj h
    exact .null
  | str units =>
    simp only [readScalar, Option.ite_none_right_eq_some, Option.some.injEq] at h
    obtain ⟨-, rfl⟩ := h
    exact .str units
  | bool b =>
    simp only [readScalar, Option.ite_none_right_eq_some, Option.some.injEq] at h
    obtain ⟨-, rfl⟩ := h
    exact .bool b
  | num literal =>
    simp only [readScalar] at h
    split at h
    · obtain ⟨v, hv, rfl⟩ := Option.map_eq_some_iff.mp h
      exact .float literal v hv
    · split at h
      · next hint =>
        obtain rfl := Option.some.inj h
        exact .int literal hint.2
      · simp at h
  | arr elements => simp [readScalar] at h
  | obj members => simp [readScalar] at h

section
variable (name : List ℕ) (nullable : Bool)

theorem fits_none (type : LogicalType) : Fits ⟨name, type, true⟩ none := by
  intro value h
  cases reads_of_readScalar h
  simp [validateScalar]

theorem fits_string (units : List ℕ) : Fits ⟨name, .string, nullable⟩ (some (.str units)) := by
  intro value h
  cases reads_of_readScalar h
  simp [validateScalar, validateString]

theorem fits_enum (units : List ℕ) : Fits ⟨name, .enum, nullable⟩ (some (.str units)) := by
  intro value h
  cases reads_of_readScalar h
  simp [validateScalar, validateString]

theorem fits_boolean (b : Bool) : Fits ⟨name, .boolean, nullable⟩ (some (.bool b)) := by
  intro value h
  cases reads_of_readScalar h
  simp [validateScalar, validateBoolean]

theorem validateInteger_in_range (field : Field) (typeName : String) {low high z : ℤ}
    {type : LogicalType} {value : Json} (h : readScalar type value = some (some (.int z)))
    (hlow : low ≤ z) (hhigh : z ≤ high) :
    validateInteger field typeName low high value = .ok (some (.int z)) ∧ value ≠ .null := by
  cases reads_of_readScalar h with
  | int literal hint => simp [validateInteger, hint, hlow, hhigh]

theorem fits_uint32 (v : UInt32) : Fits ⟨name, .uint32, nullable⟩ (some (u32Scalar v)) := by
  intro value h
  have hlt := v.toNat_lt
  have hlow : (0 : ℤ) ≤ v.toNat := Int.natCast_nonneg _
  have hhigh : (v.toNat : ℤ) ≤ uint32Max := by
    unfold uint32Max
    omega
  obtain ⟨hok, hnull⟩ :=
    validateInteger_in_range ⟨name, .uint32, nullable⟩ "uint32" h hlow hhigh
  cases value <;> first | exact hok | exact absurd rfl hnull

theorem fits_uint64 (v : UInt64) : Fits ⟨name, .uint64, nullable⟩ (some (u64Scalar v)) := by
  intro value h
  have hlt := v.toNat_lt
  have hlow : (0 : ℤ) ≤ v.toNat := Int.natCast_nonneg _
  have hhigh : (v.toNat : ℤ) ≤ uint64Max := by
    unfold uint64Max
    omega
  obtain ⟨hok, hnull⟩ :=
    validateInteger_in_range ⟨name, .uint64, nullable⟩ "uint64" h hlow hhigh
  cases value <;> first | exact hok | exact absurd rfl hnull

theorem fits_int64 (v : Int64) : Fits ⟨name, .int64, nullable⟩ (some (i64Scalar v)) := by
  intro value h
  have hlow : int64Min ≤ v.toInt := v.le_toInt
  have hlt := v.toInt_lt
  have hhigh : v.toInt ≤ int64Max := by
    unfold int64Max
    omega
  obtain ⟨hok, hnull⟩ := validateInteger_in_range ⟨name, .int64, nullable⟩ "int64" h hlow hhigh
  cases value <;> first | exact hok | exact absurd rfl hnull

theorem fits_float64 (v : FiniteReal) : Fits ⟨name, .float64, nullable⟩ (some (realScalar v)) := by
  intro value h
  cases reads_of_readScalar h with
  | float literal _ hval => simp [validateScalar, validateFloat, hval, realScalar]

/-- A nullable field takes an absent value as well. -/
theorem fits_optional {α : Type} {f : α → Scalar} {type : LogicalType}
    (h : ∀ a, Fits ⟨name, type, true⟩ (some (f a))) (value : Option α) :
    Fits ⟨name, type, true⟩ (value.map f) := by
  cases value with
  | none => exact fits_none name type
  | some a => exact h a

end

/-- Every value of a typed row has the type of its field and the field's range. -/
theorem toRow_fits (r : TypedRow) :
    List.Forall₂ (fun field entry => field.name = entry.1 ∧ Fits field entry.2) catalogue r.toRow := by
  simp only [catalogue, TypedRow.toRow, List.forall₂_cons, true_and, List.forall₂_nil_left_iff,
    and_true]
  exact ⟨fits_string _ _ _, fits_enum _ _ _, fits_uint64 _ _ _, fits_uint64 _ _ _,
    fits_optional _ (fits_uint64 _ _) _, fits_uint32 _ _ _,
    fits_optional _ (fun t : CText _ => fits_string _ _ t.units) _,
    fits_optional _ (fun t : CText _ => fits_string _ _ t.units) _,
    fits_optional _ (fits_uint32 _ _) _, fits_string _ _ _,
    fits_optional _ (fun t : CText _ => fits_string _ _ t.units) _,
    fits_optional _ (fits_uint32 _ _) _, fits_optional _ (fits_uint32 _ _) _,
    fits_optional _ (fits_uint32 _ _) _, fits_uint32 _ _ _, fits_uint32 _ _ _, fits_uint32 _ _ _,
    fits_boolean _ _ _, fits_optional _ (fits_boolean _ _) _, fits_enum _ _ _, fits_enum _ _ _,
    fits_optional _ (fun t : CText _ => fits_string _ _ t.units) _,
    fits_optional _ (fits_uint32 _ _) _, fits_enum _ _ _,
    fits_optional _ (fits_int64 _ _) _, fits_optional _ (fits_float64 _ _) _,
    fits_optional _ (fun t : CText _ => fits_string _ _ t.units) _,
    fits_optional _ (fun t : CText _ => fits_string _ _ t.units) _⟩

/-! ### One line -/

theorem forall₂_left {α β : Type} {R : α → β → Prop} {xs : List α} {ys : List β}
    (h : List.Forall₂ R xs ys) {x : α} (hx : x ∈ xs) : ∃ y ∈ ys, R x y := by
  induction h with
  | nil => simp at hx
  | @cons a b xs ys hab _ ih =>
    rcases List.mem_cons.mp hx with rfl | hx
    · exact ⟨b, List.mem_cons_self, hab⟩
    · obtain ⟨y, hy, hR⟩ := ih hx
      exact ⟨y, List.mem_cons_of_mem b hy, hR⟩

theorem repeatedKey_eq_none {seen keys : List (List ℕ)} (hnodup : keys.Nodup)
    (hseen : ∀ key ∈ keys, key ∉ seen) : repeatedKey seen keys = none := by
  induction keys generalizing seen with
  | nil => rfl
  | cons key keys ih =>
    rw [List.nodup_cons] at hnodup
    rw [repeatedKey, if_neg (hseen key List.mem_cons_self)]
    refine ih hnodup.2 fun k hk hmem => ?_
    rcases List.mem_cons.mp hmem with rfl | hmem
    · exact hnodup.1 hk
    · exact hseen k (List.mem_cons_of_mem key hk) hmem

theorem duplicateKey_of_reads {value : Json} {scalar : Option Scalar} (h : Reads value scalar) :
    duplicateKey value = none := by
  cases h <;> simp [duplicateKey]

theorem duplicateInMembers_eq_none {members : List (List ℕ × Json)}
    (h : ∀ m ∈ members, ∃ scalar, Reads m.2 scalar) : duplicateInMembers members = none := by
  induction members with
  | nil => simp [duplicateInMembers]
  | cons m members ih =>
    obtain ⟨scalar, hm⟩ := h m List.mem_cons_self
    rw [duplicateInMembers, duplicateKey_of_reads hm, Option.none_or,
      ih fun k hk => h k (List.mem_cons_of_mem m hk)]

section
variable {members : List (List ℕ × Json)} {r : TypedRow}

theorem Denotes.reads (h : Denotes members r) : ∀ m ∈ members, ∃ scalar, Reads m.2 scalar := by
  intro m hm
  have hkey : m.1 ∈ catalogue.map Field.name := h.keys.subset (List.mem_map_of_mem hm)
  obtain ⟨field, hfield, hname⟩ := List.mem_map.mp hkey
  obtain ⟨entry, -, value, hvalue, hread⟩ := forall₂_left h.values hfield
  have heq := List.inj_on_of_nodup_map h.nodup hvalue hm hname
  exact ⟨entry.2, heq ▸ reads_of_readScalar hread⟩

theorem Denotes.loadsStrict (h : Denotes members r) {line : List ℕ}
    (hparse : Json.parse line = some (.obj members)) (lineNumber : ℕ) :
    loadsStrict line lineNumber = .ok (.obj members) := by
  have hduplicate : duplicateKey (.obj members) = none := by
    rw [duplicateKey, duplicateInMembers_eq_none h.reads, Option.none_or,
      repeatedKey_eq_none h.nodup (by simp)]
  simp only [Parquet.loadsStrict, hparse, hduplicate]

theorem Denotes.checkNames (h : Denotes members r) (lineNumber : ℕ) :
    checkNames (catalogue.map Field.name) (members.map Prod.fst) lineNumber = .ok () := by
  have hmissing : (catalogue.map Field.name).filter (· ∉ members.map Prod.fst) = [] := by
    rw [List.filter_eq_nil_iff]
    intro name hname
    simpa using h.keys.mem_iff.mpr hname
  have hunknown : (members.map Prod.fst).filter (· ∉ catalogue.map Field.name) = [] := by
    rw [List.filter_eq_nil_iff]
    intro name hname
    simpa using h.keys.mem_iff.mp hname
  simp only [Parquet.checkNames, hmissing, hunknown, require_bind_eq_ok, require_eq_ok, and_self]

theorem Denotes.validateFields (h : Denotes members r) :
    catalogue.mapM (validateField members) = .ok r.toRow := by
  apply mapM_eq_ok
  refine h.values.mp (fun field entry hvalue hfield => ?_) (toRow_fits r)
  obtain ⟨value, hmem, hread⟩ := hvalue
  obtain ⟨hname, hfits⟩ := hfield
  rw [validateField, lookup_of_mem h.nodup hmem, Option.getD_some, hfits value hread]
  simp only [bind, Except.bind, pure, Except.pure, hname]

theorem mapError_eq_ok {ε ε' α : Type} {f : ε → ε'} {x : Except ε α} {a : α} :
    x.mapError f = .ok a ↔ x = .ok a := by
  cases x <;> simp [Except.mapError]

/-- On an object that denotes a row, only the semantic rules are left to decide. -/
theorem parseRow_of_denotes (h : Denotes members r) {line : List ℕ}
    (hparse : Json.parse line = some (.obj members)) {lineNumber : ℕ} {row : Row} :
    parseRow line lineNumber catalogue = .ok row ↔
      validateSemantics r.toRow = .ok () ∧ row = r.toRow := by
  simp only [parseRow, h.loadsStrict hparse, bind_eq_ok, Except.ok.injEq, exists_eq_left',
    h.checkNames, h.validateFields, mapError_eq_ok, pure, Except.pure]
  constructor
  · rintro ⟨-, -, ⟨⟩, hok, rfl⟩
    exact ⟨hok, rfl⟩
  · rintro ⟨hok, rfl⟩
    exact ⟨(), trivial, (), hok, rfl⟩

end

end TcdOran.Parquet
