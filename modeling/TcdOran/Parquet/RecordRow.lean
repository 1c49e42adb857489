import TcdOran.Collector.JsonlRoundTrip
import TcdOran.Parquet.RowRules

/-! The row that the converter reads from the line of a canonical record. -/
namespace TcdOran.Parquet
open TcdOran.Lib
open TcdOran.Collector (CanonicalRecord FieldValue Accepted recordFields recordMembers fieldJson
  optionalField catalogueNames ValidString)

/-- The value a row holds for a field. -/
def fieldScalar : Option FieldValue → Option Scalar
  | none => none
  | some (.string text) => some (.str ((codePoints text).getD []))
  | some (.natural value) => some (.int value)
  | some (.integer value) => some (.int value)
  | some (.real value) => some (.float value.toRat)
  | some (.boolean value) => some (.bool value)

def recordRow (record : CanonicalRecord) : Row :=
  (recordFields record).map fun field => (chars field.1, fieldScalar field.2)

/-- A field is read back as the value it prints. -/
def ReadsBack (type : LogicalType) (field : Option FieldValue) : Prop :=
  readScalar type (fieldJson field) = some (fieldScalar field)

section
variable {type : LogicalType}

theorem readsBack_string (h : type = .string ∨ type = .enum) (text : List UInt8) :
    ReadsBack type (some (.string text)) := by
  simp [ReadsBack, fieldJson, fieldScalar, readScalar, h]

theorem readsBack_natural (h : type = .uint32 ∨ type = .uint64) (n : ℕ) :
    ReadsBack type (some (.natural n)) := by
  have hfloat : type ≠ .float64 := by rcases h with rfl | rfl <;> decide
  have hint : type = .uint32 ∨ type = .uint64 ∨ type = .int64 := by
    rcases h with h | h <;> simp [h]
  simp only [ReadsBack, fieldJson, fieldScalar, readScalar, if_neg hfloat,
    if_pos (And.intro hint (NumberLiteral.ofInt_isInteger _)), NumberLiteral.intValue_ofInt]

theorem readsBack_integer (z : ℤ) : ReadsBack .int64 (some (.integer z)) := by
  simp [ReadsBack, fieldJson, fieldScalar, readScalar, NumberLiteral.ofInt_isInteger]

/-- The printed token rounds back to the double it was printed from. -/
theorem readsBack_real {x : Binary64} (h : x.isFinite = true) :
    ReadsBack .float64 (some (.real x)) := by
  simp [ReadsBack, fieldJson, fieldScalar, readScalar, nearestBinary64_literalG17 h]

theorem readsBack_boolean (b : Bool) : ReadsBack .boolean (some (.boolean b)) := by
  simp [ReadsBack, fieldJson, fieldScalar, readScalar]

theorem readsBack_optional {present : Bool} {value : FieldValue}
    (h : present = true → ReadsBack type (some value)) :
    ReadsBack type (optionalField present value) := by
  cases present
  · rfl
  · exact h rfl

end

theorem recordFields_readBack {record : CanonicalRecord} (h : Accepted record) :
    List.Forall₂ (fun field entry => field.name = chars entry.1 ∧
      ReadsBack field.logicalType entry.2) catalogue (recordFields record) := by
  have hstring {text : List UInt8} : ReadsBack .string (some (.string text)) :=
    readsBack_string (.inl rfl) text
  have henum {text : List UInt8} : ReadsBack .enum (some (.string text)) :=
    readsBack_string (.inr rfl) text
  have hu32 {n : ℕ} : ReadsBack .uint32 (some (.natural n)) := readsBack_natural (.inl rfl) n
  have hu64 {n : ℕ} : ReadsBack .uint64 (some (.natural n)) := readsBack_natural (.inr rfl) n
  simp only [catalogue, recordFields, List.forall₂_cons, true_and, List.forall₂_nil_left_iff,
    and_true]
  exact ⟨hstring, henum, hu64, hu64, readsBack_optional fun _ => hu64, hu32,
    readsBack_optional fun _ => hstring, readsBack_optional fun _ => hstring,
    readsBack_optional fun _ => hu32, hstring, readsBack_optional fun _ => hstring,
    readsBack_optional fun _ => hu32, readsBack_optional fun _ => hu32,
    readsBack_optional fun _ => hu32, hu32, hu32, hu32, readsBack_boolean _,
    readsBack_optional fun _ => readsBack_boolean _, henum, henum,
    readsBack_optional fun _ => hstring, readsBack_optional fun _ => hu32, henum,
    readsBack_optional fun _ => readsBack_integer _,
    readsBack_optional fun hp => readsBack_real (h.finite hp),
    readsBack_optional fun _ => hstring, readsBack_optional fun _ => hstring⟩

theorem forall₂_join {α β γ : Type} {P : α → β → Prop} {Q : α → γ → Prop} {S : β → γ → Prop}
    {xs : List α} {ys : List β} {zs : List γ} (hP : List.Forall₂ P xs ys)
    (hQ : List.Forall₂ Q xs zs) (h : ∀ x y z, P x y → Q x z → S y z) : List.Forall₂ S ys zs := by
  induction hP generalizing zs with
  | nil =>
    cases hQ
    exact .nil
  | cons hxy _ ih =>
    cases hQ with
    | cons hxz hrest => exact .cons (h _ _ _ hxy hxz) (ih hrest)

theorem forall₂_mem {α β : Type} {P : α → β → Prop} {xs : List α} {ys : List β}
    (h : List.Forall₂ P xs ys) : List.Forall₂ (fun x y => y ∈ ys ∧ P x y) xs ys := by
  induction h with
  | nil => exact .nil
  | cons hxy _ ih =>
    exact .cons ⟨List.mem_cons_self, hxy⟩ (ih.imp fun _ _ h => ⟨List.mem_cons_of_mem _ h.1, h.2⟩)

theorem catalogue_names : catalogue.map Field.name = catalogueNames.map chars := rfl

theorem recordMembers_keys (record : CanonicalRecord) :
    (recordMembers record).map Prod.fst = catalogue.map Field.name := rfl

/-- The object of an accepted record denotes the typed row that equals the record's row. -/
theorem denotes_recordMembers {record : CanonicalRecord} (h : Accepted record) {r : TypedRow} :
    Denotes (recordMembers record) r ↔ recordRow record = r.toRow := by
  have hread := forall₂_mem (recordFields_readBack h)
  have hmem {field : String × Option FieldValue} (hf : field ∈ recordFields record) :
      (chars field.1, fieldJson field.2) ∈ recordMembers record :=
    List.mem_map_of_mem (f := fun f => (chars f.1, fieldJson f.2)) hf
  constructor
  · intro hd
    have hvalues := hd.values.mp (fun field entry hvalue hname => And.intro hvalue hname)
      ((toRow_fits r).imp fun _ _ h => h.1)
    have hjoin : List.Forall₂ (fun field entry => (chars field.1, fieldScalar field.2) = entry)
        (recordFields record) r.toRow := by
      refine forall₂_join hread hvalues fun field f entry hf hentry => ?_
      obtain ⟨hf, hname, hback⟩ := hf
      obtain ⟨⟨value, hvalue, hscalar⟩, hkey⟩ := hentry
      have heq := List.inj_on_of_nodup_map hd.nodup (hname ▸ hmem hf) hvalue (by simp [hname])
      have hjson : fieldJson f.2 = value := (Prod.mk.inj heq).2
      rw [ReadsBack, hjson, hscalar] at hback
      exact Prod.ext (hname.symm.trans hkey) (Option.some.inj hback).symm
    rw [recordRow]
    exact List.forall₂_eq_eq_eq ▸ (List.forall₂_map_left_iff.mpr hjoin)
  · intro heq
    refine ⟨by rw [recordMembers_keys], ?_⟩
    rw [← heq, recordRow, List.forall₂_map_right_iff]
    refine hread.imp fun field f hf => ?_
    obtain ⟨hf, hname, hback⟩ := hf
    exact ⟨_, hname ▸ hmem hf, hback⟩

/-! ### The typed row of an accepted record -/

section
variable {n : ℕ}

def textOfArray (value : Lib.CharArray n) (h : ValidString value) : CText n where
  units := (codePoints value.cString).getD []
  bytes := value.cString
  encoded := by
    obtain ⟨units, hunits⟩ := Collector.exists_codePoints h.2
    simp [hunits]
  nul_free := CharArray.zero_notMem_cString value
  fits := CharArray.length_cString_lt h.1

def optionalText (present : Bool) (value : Lib.CharArray n)
    (h : present = true → ValidString value) : Option (CText n) :=
  if hp : present = true then some (textOfArray value (h hp)) else none

def optionalReal (present : Bool) (value : Binary64)
    (h : present = true → value.isFinite = true) : Option FiniteReal :=
  if hp : present = true then some ⟨value.toRat, value, h hp, rfl⟩ else none

def optionalOf {α : Type} (present : Bool) (value : α) : Option α :=
  if present then some value else none

theorem optionalText_map {present : Bool} {value : Lib.CharArray n}
    {h : present = true → ValidString value} :
    fieldScalar (optionalField present (.string value.cString)) =
      (optionalText present value h).map textScalar := by
  cases present <;> rfl

theorem optionalReal_map {present : Bool} {value : Binary64}
    {h : present = true → value.isFinite = true} :
    fieldScalar (optionalField present (.real value)) =
      (optionalReal present value h).map realScalar := by
  cases present <;> rfl

theorem optionalOf_map {α : Type} {present : Bool} {value : α} {field : FieldValue}
    {f : α → Scalar} (h : fieldScalar (some field) = some (f value)) :
    fieldScalar (optionalField present field) = (optionalOf present value).map f := by
  cases present
  · rfl
  · exact h

end

def textUnits (text : List UInt8) : List ℕ := (codePoints text).getD []

def typedRowOf (record : CanonicalRecord) (h : Accepted record) : TypedRow where
  schemaVersion := textUnits Collector.canonicalSchemaVersion
  recordKind := textUnits (Collector.nameOrEmpty (Collector.recordKindName record.recordKind))
  indicationSequence := record.indicationSequence
  receiveTimestampUs := record.receiveTimestampUs
  kpmHeaderTimestampUs := optionalOf record.hasKpmHeaderTimestampUs record.kpmHeaderTimestampUs
  messageFormat := record.messageFormat
  nodeType := optionalText record.hasNodeType record.nodeType h.common.nodeType
  nodeId := optionalText record.hasNodeId record.nodeId h.common.nodeId
  ueReportIndex := optionalOf record.hasUeReportIndex record.ueReportIndex
  ueIdType := textOfArray record.ueIdType h.common.ueIdType
  ueIdValue := optionalText record.hasUeIdValue record.ueIdValue h.common.ueIdValue
  measDataIndex := optionalOf record.hasMeasDataIndex record.measDataIndex
  measInfoIndex := optionalOf record.hasMeasInfoIndex record.measInfoIndex
  measRecordIndex := optionalOf record.hasMeasRecordIndex record.measRecordIndex
  measDataLstLen := record.measDataLstLen
  measInfoLstLen := record.measInfoLstLen
  measRecordLen := record.measRecordLen
  incompleteFlagPresent := record.incompleteFlagPresent
  incompleteFlag := optionalOf record.incompleteFlagPresent record.incompleteFlag
  structuralStatus :=
    textUnits (Collector.nameOrEmpty (Collector.structuralStatusName record.structuralStatus))
  descriptorType :=
    textUnits (Collector.nameOrEmpty (Collector.descriptorTypeName record.descriptorType))
  measurementName :=
    optionalText record.hasMeasurementName record.measurementName h.common.measurementName
  measurementId := optionalOf record.hasMeasurementId record.measurementId
  valueType := textUnits (Collector.nameOrEmpty (Collector.valueTypeName record.valueType))
  integerValue := optionalOf record.hasIntegerValue record.integerValue
  realValue := optionalReal record.hasRealValue record.realValue h.finite
  diagnosticCode :=
    optionalText record.hasDiagnosticCode record.diagnosticCode h.common.diagnosticCode
  diagnosticMessage :=
    optionalText record.hasDiagnosticMessage record.diagnosticMessage h.common.diagnosticMessage

theorem typedRowOf_toRow (record : CanonicalRecord) (h : Accepted record) :
    recordRow record = (typedRowOf record h).toRow := by
  have hu32 (present : Bool) (v : UInt32) :
      fieldScalar (optionalField present (.natural v.toNat)) =
        (optionalOf present v).map u32Scalar := optionalOf_map rfl
  have hu64 (present : Bool) (v : UInt64) :
      fieldScalar (optionalField present (.natural v.toNat)) =
        (optionalOf present v).map u64Scalar := optionalOf_map rfl
  have hbool (present v : Bool) :
      fieldScalar (optionalField present (.boolean v)) =
        (optionalOf present v).map Scalar.bool := optionalOf_map rfl
  have hi64 (present : Bool) (v : Int64) :
      fieldScalar (optionalField present (.integer v.toInt)) =
        (optionalOf present v).map i64Scalar := optionalOf_map rfl
  simp only [recordRow, recordFields, List.map_cons, List.map_nil, hu32, hu64, hbool, hi64,
    optionalText_map (h := h.common.nodeType), optionalText_map (h := h.common.nodeId),
    optionalText_map (h := h.common.ueIdValue), optionalText_map (h := h.common.measurementName),
    optionalText_map (h := h.common.diagnosticCode),
    optionalText_map (h := h.common.diagnosticMessage), optionalReal_map (h := h.finite)]
  rfl

end TcdOran.Parquet
