import TcdOran.Collector.Indication

/-! The elements that the loops of kpm_callback.c read from the lists of an indication, in order
and between the records they retain. -/
namespace TcdOran.Collector
open TcdOran.Lib

/-- The lists that are indexed. -/
inductive RowList
  | reports | rows | metadata | values | f1ap
  deriving DecidableEq

/-- An access `list[index]` to a list of length `len`, or an effect of the loops. -/
inductive RowEvent
  | read (list : RowList) (index len : ℕ)
  | retain (record : MeasurementRecord)
  | callbackError

def RowEvent.retained? : RowEvent → Option MeasurementRecord
  | .retain record => some record
  | _ => none

def retained (events : List RowEvent) : List MeasurementRecord :=
  events.filterMap RowEvent.retained?

@[simp] theorem retained_append (before after : List RowEvent) :
    retained (before ++ after) = retained before ++ retained after := List.filterMap_append

@[simp] theorem retained_read (list : RowList) (index len : ℕ) (events : List RowEvent) :
    retained (.read list index len :: events) = retained events := rfl

@[simp] theorem retained_retain (record : MeasurementRecord) (events : List RowEvent) :
    retained (.retain record :: events) = record :: retained events := rfl

@[simp] theorem retained_nil : retained [] = [] := rfl

theorem retained_flatMap {α : Type} (xs : List α) (f : α → List RowEvent) :
    retained (xs.flatMap f) = xs.flatMap fun x => retained (f x) := by
  induction xs with
  | nil => rfl
  | cons x xs ih => rw [List.flatMap_cons, retained_append, ih, List.flatMap_cons]

/-- What `xs[i]` yields; behind a null pointer or past the end there is nothing to yield. -/
def FlexArray.at? {α : Type} (xs : FlexArray α) (i : ℕ) : Option α :=
  xs.elements.bind fun elements => elements[i]?

/-! ### The loops -/

/-- `for (i = 0; i < n; ++i)`. A body without a result is an undefined access. -/
def forIndex (body : ℕ → Option (List RowEvent)) : ℕ → Option (List RowEvent)
  | 0 => some []
  | n + 1 => do
      let before ← forIndex body n
      let events ← body n
      return before ++ events

theorem forIndex_eq {body : ℕ → Option (List RowEvent)} {events : ℕ → List RowEvent} {n : ℕ}
    (h : ∀ i < n, body i = some (events i)) :
    forIndex body n = some ((List.range n).flatMap events) := by
  induction n with
  | zero => rfl
  | succ n ih =>
    rw [forIndex, ih fun i hi => h i (Nat.lt_succ_of_lt hi), h n (Nat.lt_succ_self n)]
    simp [List.range_succ]

/-- `copy_ue_id` reads the first CU identifier when there is one. -/
def ueAccess : Option UeIdE2sm → List RowEvent
  | some (.gnb _ gnbCuUeF1ap _) =>
      if gnbCuUeF1ap.len > 0 ∧ gnbCuUeF1ap.elements.isSome then
        [.read .f1ap 0 gnbCuUeF1ap.len]
      else []
  | _ => []

def pairAccess (row : MeasurementRecord) (ueSupported : Bool) (message : IndMsgFormat1)
    (data : MeasData) (index : ℕ) : Option (List RowEvent) := do
  let info ← message.measInfoLst.at? index
  let record ← data.measRecordLst.at? index
  return [.read .metadata index message.measInfoLst.len,
    .read .values index data.measRecordLst.len,
    .retain (valueRecord row ueSupported (some info) (some record) index)]

def rowAccess (indication : IndicationContext) (ueReportIndex : UInt32) (copiedUe : UeId)
    (ueSupported : Bool) (message : IndMsgFormat1) (dataIndex : ℕ) : Option (List RowEvent) := do
  let data ← message.measDataLst.at? dataIndex
  let row := rowRecord indication ueReportIndex copiedUe message data dataIndex
  let validation := validateRowShape (rowShape message data)
  let events ←
    if !validation.rowAccepted then some [.retain (rejectedRecord row validation.status)]
    else forIndex (pairAccess row ueSupported message data) validation.normalisedValueCount
  return .read .rows dataIndex message.measDataLst.len :: events

def format1Access (indication : IndicationContext) (ueReportIndex : UInt32)
    (ueSource : Option UeIdE2sm) (message : IndMsgFormat1) : Option (List RowEvent) :=
  if message.measDataLst.len > 0 ∧ message.measDataLst.elements = none then some [.callbackError]
  else do
    let ue := copyUeId ueSource
    let events ← forIndex (rowAccess indication ueReportIndex ue.1 ue.2 message)
      message.measDataLst.len
    return ueAccess ueSource ++ events

def reportAccess (indication : IndicationContext) (reports : FlexArray MeasReportPerUe)
    (ueIndex : ℕ) : Option (List RowEvent) := do
  let report ← reports.at? ueIndex
  let events ← format1Access indication (lengthToU32 ueIndex) (some report.ueMeasReportLst)
    report.indMsgFormat1
  return .read .reports ueIndex reports.len :: events

def messageAccess (indication : IndicationContext) : IndMsg → Option (List RowEvent)
  | .format1 message =>
      format1Access { indication with ueReportCount := 0 } uint32Max none message
  | .format3 reports =>
      let indication := { indication with ueReportCount := lengthToU32 reports.len }
      if reports.len > 0 ∧ reports.elements = none then some [.callbackError]
      else forIndex (reportAccess indication reports) reports.len
  | .other _ => some [.retain (unknownFormatRecord indication)]

/-! ### Rows -/

/-- Both lists are there, and they are equally long and neither empty nor too long. -/
def RowAccepted (message : IndMsgFormat1) (data : MeasData) : Prop :=
  message.measInfoLst.elements ≠ none ∧ data.measRecordLst.elements ≠ none ∧
    message.measInfoLst.len = data.measRecordLst.len ∧
    1 ≤ data.measRecordLst.len ∧ data.measRecordLst.len ≤ 65535

instance (message : IndMsgFormat1) (data : MeasData) : Decidable (RowAccepted message data) :=
  decidable_of_iff (message.measInfoLst.elements.isSome ∧ data.measRecordLst.elements.isSome ∧
    message.measInfoLst.len = data.measRecordLst.len ∧
    1 ≤ data.measRecordLst.len ∧ data.measRecordLst.len ≤ 65535)
    (by simp only [RowAccepted, Option.isSome_iff_ne_none])

section
variable (message : IndMsgFormat1) (data : MeasData)

theorem validateRowShape_accepted (h : RowAccepted message data) :
    validateRowShape (rowShape message data) = rowAccepted data.measRecordLst.len := by
  obtain ⟨hinfo, hrecord, hlen, hone, hmax⟩ := h
  have hinfo' := Option.isSome_iff_ne_none.mpr hinfo
  have hrecord' := Option.isSome_iff_ne_none.mpr hrecord
  unfold validateRowShape rowShape
  simp only [hinfo', hrecord', hlen]
  rw [if_neg (by decide), if_neg (by omega), if_neg (by decide), if_neg (by simp; omega),
    if_neg (by simp; omega), if_neg (by simp)]

theorem validateRowShape_rejected (h : ¬RowAccepted message data) :
    ∃ status, status ≠ .ok ∧ validateRowShape (rowShape message data) = rowRejected status := by
  unfold validateRowShape
  split_ifs with h1 h2 h3 h4 h5 h6
  · exact ⟨_, by decide, rfl⟩
  · exact ⟨_, by decide, rfl⟩
  · exact ⟨_, by decide, rfl⟩
  · exact ⟨_, by decide, rfl⟩
  · exact ⟨_, by decide, rfl⟩
  · exact ⟨_, by decide, rfl⟩
  · refine absurd ?_ h
    simp only [rowShape, not_or, not_not, not_lt, Bool.not_eq_true', Bool.not_eq_false,
      Option.isSome_iff_ne_none] at h1 h2 h3 h4 h5 h6
    exact ⟨h5.1, by simpa using h3, h6, by omega, h2.2⟩

theorem rowAccepted_iff :
    (validateRowShape (rowShape message data)).rowAccepted = true ↔ RowAccepted message data := by
  by_cases h : RowAccepted message data
  · rw [validateRowShape_accepted _ _ h]
    exact iff_of_true rfl h
  · obtain ⟨status, -, hstatus⟩ := validateRowShape_rejected _ _ h
    rw [hstatus]
    exact iff_of_false Bool.false_ne_true h

end

/-- The accesses to two lists of the same length and the records between them. -/
def pairEvents (row : MeasurementRecord) (ueSupported : Bool) (infos : List MeasType)
    (records : List MeasRecord) : List RowEvent :=
  (infos.zip records).zipIdx.flatMap fun ((info, record), index) =>
    [.read .metadata index infos.length, .read .values index records.length,
      .retain (valueRecord row ueSupported (some info) (some record) index)]

/-- What happens for one row: an accepted one is paired off element by element, a rejected one
leaves a diagnostic and none of its elements is looked at. -/
structure RowExact (row : MeasurementRecord) (ueSupported : Bool) (message : IndMsgFormat1)
    (data : MeasData) (dataIndex : ℕ) (events : List RowEvent) : Prop where
  accepted : RowAccepted message data → ∃ infos records,
    message.measInfoLst.elements = some infos ∧ data.measRecordLst.elements = some records ∧
    events = .read .rows dataIndex message.measDataLst.len ::
      pairEvents row ueSupported infos records
  rejected : ¬RowAccepted message data → ∃ status, status ≠ .ok ∧
    events = [.read .rows dataIndex message.measDataLst.len, .retain (rejectedRecord row status)]

/-- Every access is to an element of its list. -/
def InBounds (events : List RowEvent) : Prop :=
  ∀ list index len, .read list index len ∈ events → index < len

theorem InBounds.append {before after : List RowEvent} (hb : InBounds before)
    (ha : InBounds after) : InBounds (before ++ after) := by
  intro list index len h
  rcases List.mem_append.mp h with h | h
  · exact hb _ _ _ h
  · exact ha _ _ _ h

theorem InBounds.cons {list : RowList} {index len : ℕ} {events : List RowEvent}
    (h : index < len) (he : InBounds events) : InBounds (.read list index len :: events) := by
  intro list' index' len' hmem
  rcases List.mem_cons.mp hmem with heq | hmem
  · cases heq
    exact h
  · exact he _ _ _ hmem

theorem InBounds.flatten {parts : List (List RowEvent)} (h : ∀ part ∈ parts, InBounds part) :
    InBounds parts.flatten := by
  intro list index len hmem
  obtain ⟨part, hpart, hmem⟩ := List.mem_flatten.mp hmem
  exact h part hpart _ _ _ hmem

section
variable (row : MeasurementRecord) (ueSupported : Bool) (infos : List MeasType)
  (records : List MeasRecord)

theorem retained_pairEvents : retained (pairEvents row ueSupported infos records) =
    (infos.zip records).zipIdx.map fun ((info, record), index) =>
      valueRecord row ueSupported (some info) (some record) index := by
  rw [pairEvents, retained_flatMap]
  induction (infos.zip records).zipIdx with
  | nil => rfl
  | cons x xs ih => rw [List.flatMap_cons, ih]; rfl

theorem inBounds_pairEvents : InBounds (pairEvents row ueSupported infos records) := by
  intro list index len h
  obtain ⟨⟨⟨info, record⟩, i⟩, hmem, h⟩ := List.mem_flatMap.mp h
  have hi := List.snd_lt_of_mem_zipIdx hmem
  simp only [List.length_zip] at hi
  simp only [List.mem_cons, RowEvent.read.injEq, reduceCtorEq, List.not_mem_nil, or_false] at h
  rcases h with ⟨-, rfl, rfl⟩ | ⟨-, rfl, rfl⟩ <;> omega

theorem range_flatMap_eq {n : ℕ} (hi : infos.length = n) (hr : records.length = n) :
    (List.range n).flatMap (fun index =>
      [.read .metadata index n, .read .values index n,
        .retain (valueRecord row ueSupported infos[index]? records[index]? index)]) =
      pairEvents row ueSupported infos records := by
  have hmap : (List.range n).map (fun index => [RowEvent.read .metadata index n,
        .read .values index n,
        .retain (valueRecord row ueSupported infos[index]? records[index]? index)]) =
      (infos.zip records).zipIdx.map fun ((info, record), index) =>
        [.read .metadata index infos.length, .read .values index records.length,
          .retain (valueRecord row ueSupported (some info) (some record) index)] := by
    apply List.ext_getElem
    · simp [hi, hr]
    · intro i h1 h2
      simp only [List.length_map, List.length_range] at h1
      simp [hi, hr, h1]
  rw [List.flatMap_def, hmap, pairEvents, List.flatMap_def]

end

theorem FlexArray.at?_eq {α : Type} {xs : FlexArray α} {elements : List α}
    (h : xs.elements = some elements) (i : ℕ) : xs.at? i = elements[i]? := by
  rw [FlexArray.at?, h, Option.bind_some]

theorem FlexArray.length_eq {α : Type} {xs : FlexArray α} {elements : List α}
    (h : xs.elements = some elements) : elements.length = xs.len := xs.sized _ h

/-- What the access to a row and its elements comes to. -/
structure RowOutcome (row : MeasurementRecord) (ueSupported : Bool) (message : IndMsgFormat1)
    (data : MeasData) (dataIndex : ℕ) (events : List RowEvent) : Prop where
  exact : RowExact row ueSupported message data dataIndex events
  inBounds : InBounds events
  length : (retained events).length =
    if RowAccepted message data then data.measRecordLst.len else 1

section
variable (indication : IndicationContext) (ueReportIndex : UInt32) (copiedUe : UeId)
  (ueSupported : Bool) {message : IndMsgFormat1} {data : MeasData} {dataIndex : ℕ}
  {rows : List MeasData}

theorem rowAccess_accepted (hrows : message.measDataLst.elements = some rows)
    (hdata : rows[dataIndex]? = some data) (h : RowAccepted message data) :
    ∃ infos records, message.measInfoLst.elements = some infos ∧
      data.measRecordLst.elements = some records ∧ infos.length = data.measRecordLst.len ∧
      records.length = data.measRecordLst.len ∧
      rowAccess indication ueReportIndex copiedUe ueSupported message dataIndex =
        some (.read .rows dataIndex message.measDataLst.len :: pairEvents
          (rowRecord indication ueReportIndex copiedUe message data dataIndex) ueSupported infos
          records) := by
  obtain ⟨infos, hinfos⟩ := Option.ne_none_iff_exists'.mp h.1
  obtain ⟨records, hrecords⟩ := Option.ne_none_iff_exists'.mp h.2.1
  have hi : infos.length = data.measRecordLst.len := by
    rw [FlexArray.length_eq hinfos, h.2.2.1]
  have hr : records.length = data.measRecordLst.len := FlexArray.length_eq hrecords
  refine ⟨infos, records, hinfos, hrecords, hi, hr, ?_⟩
  have hloop : forIndex (pairAccess (rowRecord indication ueReportIndex copiedUe message data
        dataIndex) ueSupported message data) data.measRecordLst.len =
      some (pairEvents (rowRecord indication ueReportIndex copiedUe message data dataIndex)
        ueSupported infos records) := by
    rw [← range_flatMap_eq _ _ _ _ hi hr]
    apply forIndex_eq
    intro i hlt
    obtain ⟨info, hinfo⟩ : ∃ info, infos[i]? = some info := ⟨_, List.getElem?_eq_getElem (by omega)⟩
    obtain ⟨record, hrecord⟩ : ∃ record, records[i]? = some record :=
      ⟨_, List.getElem?_eq_getElem (by omega)⟩
    simp only [pairAccess, FlexArray.at?_eq hinfos, FlexArray.at?_eq hrecords, hinfo, hrecord,
      Option.bind_eq_bind, Option.bind_some, h.2.2.1]
    rfl
  simp only [rowAccess, FlexArray.at?_eq hrows, hdata, validateRowShape_accepted _ _ h,
    Option.bind_eq_bind, Option.bind_some, rowAccepted, hloop, Bool.not_true,
    Bool.false_eq_true, if_false]
  rfl

theorem rowAccess_rejected (hrows : message.measDataLst.elements = some rows)
    (hdata : rows[dataIndex]? = some data) (h : ¬RowAccepted message data) :
    rowAccess indication ueReportIndex copiedUe ueSupported message dataIndex =
      some [.read .rows dataIndex message.measDataLst.len, .retain (rejectedRecord
        (rowRecord indication ueReportIndex copiedUe message data dataIndex)
        (validateRowShape (rowShape message data)).status)] := by
  obtain ⟨status, -, hstatus⟩ := validateRowShape_rejected _ _ h
  simp only [rowAccess, FlexArray.at?_eq hrows, hdata, hstatus, Option.bind_eq_bind,
    Option.bind_some, rowRejected, Bool.not_false, if_true]
  rfl

/-- A row is read to its outcome, whatever the state of the message around it. -/
theorem rowAccess_outcome (hrows : message.measDataLst.elements = some rows)
    (hdata : rows[dataIndex]? = some data) :
    ∃ events, rowAccess indication ueReportIndex copiedUe ueSupported message dataIndex =
        some events ∧
      RowOutcome (rowRecord indication ueReportIndex copiedUe message data dataIndex) ueSupported
        message data dataIndex events ∧
      retained events =
        processRow indication ueReportIndex copiedUe ueSupported message data dataIndex := by
  have hindex : dataIndex < message.measDataLst.len := by
    rw [← FlexArray.length_eq hrows]
    exact (List.getElem?_eq_some_iff.mp hdata).1
  by_cases h : RowAccepted message data
  · obtain ⟨infos, records, hinfos, hrecords, hi, hr, haccess⟩ :=
      rowAccess_accepted indication ueReportIndex copiedUe ueSupported hrows hdata h
    have hlength : (infos.zip records).length = data.measRecordLst.len := by
      rw [List.length_zip, hi, hr, Nat.min_self]
    refine ⟨_, haccess, ⟨⟨fun _ => ⟨infos, records, hinfos, hrecords, rfl⟩, absurd h⟩,
      .cons hindex (inBounds_pairEvents _ _ _ _), ?_⟩, ?_⟩
    · rw [retained_read, retained_pairEvents, List.length_map, List.length_zipIdx, hlength,
        if_pos h]
    · rw [retained_read, retained_pairEvents, processRow, validateRowShape_accepted _ _ h]
      simp only [rowAccepted, Bool.not_true, Bool.false_eq_true, if_false, hinfos, hrecords,
        Option.getD_some]
      apply List.ext_getElem
      · simp [hi, hr]
      · intro i h1 h2
        simp only [List.length_map, List.length_range] at h2
        simp [hi, hr, h2]
  · obtain ⟨status, hne, hstatus⟩ := validateRowShape_rejected _ _ h
    refine ⟨_, rowAccess_rejected indication ueReportIndex copiedUe ueSupported hrows hdata h,
      ⟨⟨fun hrow => absurd hrow h, fun _ => ⟨_, ?_, rfl⟩⟩, .cons hindex ?_, ?_⟩, ?_⟩
    · rw [hstatus]
      exact hne
    · intro list index len hmem
      simp at hmem
    · rw [if_neg h]
      rfl
    · rw [processRow, hstatus]
      rfl

end

/-! ### Messages -/

/-- What happens for a message of format 1, alone or in the report of a UE. -/
structure Format1Exact (indication : IndicationContext) (ueReportIndex : UInt32)
    (ueSource : Option UeIdE2sm) (message : IndMsgFormat1) (events : List RowEvent) : Prop where
  unread : message.measDataLst.len > 0 → message.measDataLst.elements = none →
    events = [.callbackError]
  empty : message.measDataLst.len = 0 → events = ueAccess ueSource
  rows : ∀ rows, message.measDataLst.elements = some rows → ∃ parts : List (List RowEvent),
    parts.length = rows.length ∧ events = ueAccess ueSource ++ parts.flatten ∧
    ∀ dataIndex data, rows[dataIndex]? = some data → ∃ part, parts[dataIndex]? = some part ∧
      RowExact (rowRecord indication ueReportIndex (copyUeId ueSource).1 message data dataIndex)
        (copyUeId ueSource).2 message data dataIndex part
  count : ∀ rows, message.measDataLst.elements = some rows → (retained events).length =
    (rows.map fun data => if RowAccepted message data then data.measRecordLst.len else 1).sum

theorem retained_ueAccess (ueSource : Option UeIdE2sm) : retained (ueAccess ueSource) = [] := by
  unfold ueAccess
  split
  · split_ifs <;> rfl
  · rfl

theorem inBounds_ueAccess (ueSource : Option UeIdE2sm) : InBounds (ueAccess ueSource) := by
  intro list index len h
  unfold ueAccess at h
  split at h
  · split_ifs at h with hlen
    · obtain ⟨-, rfl, rfl⟩ : list = .f1ap ∧ index = 0 ∧ len = _ := by simpa using h
      exact hlen.1
    · cases h
  · cases h

/-- A loop whose passes all have an outcome comes to their concatenation. -/
theorem forIndex_parts {f : ℕ → Option (List RowEvent)} {n : ℕ}
    {P : ℕ → List RowEvent → Prop} (h : ∀ i < n, ∃ events, f i = some events ∧ P i events) :
    ∃ parts : List (List RowEvent), parts.length = n ∧ forIndex f n = some parts.flatten ∧
      ∀ i < n, ∃ part, parts[i]? = some part ∧ f i = some part ∧ P i part := by
  induction n with
  | zero => exact ⟨[], rfl, rfl, fun i hi => absurd hi (Nat.not_lt_zero i)⟩
  | succ n ih =>
    obtain ⟨parts, hlen, hloop, hparts⟩ := ih fun i hi => h i (Nat.lt_succ_of_lt hi)
    obtain ⟨events, hbody, hP⟩ := h n (Nat.lt_succ_self n)
    refine ⟨parts ++ [events], by simp [hlen], ?_, fun i hi => ?_⟩
    · rw [forIndex, hloop, hbody]
      simp
    · rcases Nat.lt_succ_iff_lt_or_eq.mp hi with hi | rfl
      · obtain ⟨part, hpart, hrest⟩ := hparts i hi
        exact ⟨part, (List.getElem?_append_left (by omega)).trans hpart, hrest⟩
      · exact ⟨events, by simp [← hlen], hbody, hP⟩

theorem retained_flatten (parts : List (List RowEvent)) :
    retained parts.flatten = (parts.map retained).flatten := by
  induction parts with
  | nil => rfl
  | cons part parts ih => rw [List.flatten_cons, retained_append, ih, List.map_cons,
      List.flatten_cons]

theorem map_parts_eq {α β : Type} {parts : List (List RowEvent)} {xs : List α}
    (hlen : parts.length = xs.length) {f : List RowEvent → β} {g : α × ℕ → β}
    (h : ∀ i x, xs[i]? = some x → ∃ part, parts[i]? = some part ∧ f part = g (x, i)) :
    parts.map f = xs.zipIdx.map g := by
  apply List.ext_getElem
  · simp [hlen]
  · intro i h1 h2
    simp only [List.length_map] at h1
    have hi : i < xs.length := by omega
    obtain ⟨part, hpart, heq⟩ := h i xs[i] (List.getElem?_eq_getElem hi)
    rw [List.getElem?_eq_getElem h1] at hpart
    simp [Option.some.inj hpart, heq]

section
variable (indication : IndicationContext) (ueReportIndex : UInt32) (ueSource : Option UeIdE2sm)
  (message : IndMsgFormat1)

/-- A message of format 1 is gone through without an undefined access. -/
theorem format1Access_exact : ∃ events,
    format1Access indication ueReportIndex ueSource message = some events ∧
    Format1Exact indication ueReportIndex ueSource message events ∧ InBounds events ∧
    retained events = (processFormat1 indication ueReportIndex ueSource message).records := by
  by_cases hnull : message.measDataLst.len > 0 ∧ message.measDataLst.elements = none
  · rw [format1Access, processFormat1, if_pos hnull, if_pos hnull]
    refine ⟨_, rfl, ⟨fun _ _ => rfl, fun hzero => ?_, fun rows hrows => ?_, fun rows hrows => ?_⟩,
      fun list index len hmem => ?_, rfl⟩
    · omega
    · exact absurd (hnull.2.symm.trans hrows) (by simp)
    · exact absurd (hnull.2.symm.trans hrows) (by simp)
    · simp at hmem
  rw [format1Access, processFormat1, if_neg hnull, if_neg hnull]
  cases hrows : message.measDataLst.elements with
  | none =>
    have hzero : message.measDataLst.len = 0 := by simpa [hrows] using hnull
    simp only [hzero, forIndex, Option.bind_eq_bind, Option.bind_some, List.append_nil]
    refine ⟨_, rfl, ⟨fun hpos => ?_, fun _ => rfl, fun rows hsome => ?_, fun rows hsome => ?_⟩,
      inBounds_ueAccess _, retained_ueAccess _⟩
    · omega
    · exact absurd (hrows.symm.trans hsome) (by simp)
    · exact absurd (hrows.symm.trans hsome) (by simp)
  | some rows =>
    have hlen : rows.length = message.measDataLst.len := FlexArray.length_eq hrows
    obtain ⟨parts, hparts, hloop, hpart⟩ := forIndex_parts
      (f := rowAccess indication ueReportIndex (copyUeId ueSource).1 (copyUeId ueSource).2
        message)
      (P := fun dataIndex events => ∀ data, rows[dataIndex]? = some data →
        RowOutcome (rowRecord indication ueReportIndex (copyUeId ueSource).1 message data dataIndex)
          (copyUeId ueSource).2 message data dataIndex events ∧
        retained events = processRow indication ueReportIndex (copyUeId ueSource).1
          (copyUeId ueSource).2 message data dataIndex)
      (n := message.measDataLst.len) (by
        intro dataIndex hindex
        obtain ⟨data, hdata⟩ : ∃ data, rows[dataIndex]? = some data :=
          ⟨_, List.getElem?_eq_getElem (by omega)⟩
        obtain ⟨events, haccess, houtcome, hretained⟩ := rowAccess_outcome indication
          ueReportIndex (copyUeId ueSource).1 (copyUeId ueSource).2 hrows hdata
        refine ⟨events, haccess, fun data hsome => ?_⟩
        obtain rfl := Option.some.inj (hdata.symm.trans hsome)
        exact ⟨houtcome, hretained⟩)
    have hrow (dataIndex : ℕ) (data : MeasData) (hdata : rows[dataIndex]? = some data) :=
      have hindex := (List.getElem?_eq_some_iff.mp hdata).1
      hpart dataIndex (hlen ▸ hindex)
    have hretained : parts.map retained = rows.zipIdx.map fun indexed =>
        processRow indication ueReportIndex (copyUeId ueSource).1 (copyUeId ueSource).2 message
          indexed.1 indexed.2 := by
      apply map_parts_eq (hparts.trans hlen.symm)
      intro dataIndex data hdata
      obtain ⟨part, hsome, -, hP⟩ := hrow dataIndex data hdata
      exact ⟨part, hsome, (hP data hdata).2⟩
    have hcount : (parts.map fun part => (retained part).length) =
        rows.zipIdx.map fun indexed =>
          if RowAccepted message indexed.1 then indexed.1.measRecordLst.len else 1 := by
      apply map_parts_eq (hparts.trans hlen.symm)
      intro dataIndex data hdata
      obtain ⟨part, hsome, -, hP⟩ := hrow dataIndex data hdata
      exact ⟨part, hsome, (hP data hdata).1.length⟩
    simp only [hloop, Option.bind_eq_bind, Option.bind_some]
    refine ⟨_, rfl, ⟨fun _ hnone => ?_, fun hzero => ?_, fun rows' hsome => ?_,
      fun rows' hsome => ?_⟩, (inBounds_ueAccess _).append (.flatten fun part hmem => ?_), ?_⟩
    · exact absurd (hrows.symm.trans hnone) (by simp)
    · have hnil : parts = [] := List.eq_nil_of_length_eq_zero (hparts.trans hzero)
      rw [hnil, List.flatten_nil, List.append_nil]
    · obtain rfl := Option.some.inj (hrows.symm.trans hsome)
      refine ⟨parts, hparts.trans hlen.symm, rfl, fun dataIndex data hdata => ?_⟩
      obtain ⟨part, hsome, -, hP⟩ := hrow dataIndex data hdata
      exact ⟨part, hsome, (hP data hdata).1.exact⟩
    · obtain rfl := Option.some.inj (hrows.symm.trans hsome)
      rw [retained_append, retained_ueAccess, List.nil_append, retained_flatten,
        List.length_flatten, List.map_map]
      have hsum := congrArg List.sum hcount
      rw [show (List.length ∘ retained) = fun part => (retained part).length from rfl, hsum]
      nth_rewrite 2 [← List.zipIdx_map_fst 0 rows]
      rw [List.map_map]
      rfl
    · obtain ⟨dataIndex, hlt, rfl⟩ := List.mem_iff_getElem.mp hmem
      obtain ⟨data, hdata⟩ : ∃ data, rows[dataIndex]? = some data :=
        ⟨_, List.getElem?_eq_getElem (by omega)⟩
      obtain ⟨part, hsome, -, hP⟩ := hrow dataIndex _ hdata
      rw [List.getElem?_eq_getElem hlt] at hsome
      rw [Option.some.inj hsome]
      exact (hP _ hdata).1.inBounds
    · rw [retained_append, retained_ueAccess, List.nil_append, retained_flatten, hretained,
        Option.getD_some, List.flatMap_def]

end

/-- What happens for a message of either format. -/
def MessageExact (indication : IndicationContext) (events : List RowEvent) : IndMsg → Prop
  | .format1 message =>
      Format1Exact { indication with ueReportCount := 0 } uint32Max none message events
  | .format3 reports =>
      let indication := { indication with ueReportCount := lengthToU32 reports.len }
      (reports.len > 0 → reports.elements = none → events = [.callbackError]) ∧
      (reports.len = 0 → events = []) ∧
      (∀ ues, reports.elements = some ues → ∃ parts : List (List RowEvent),
        parts.length = ues.length ∧ events = parts.flatten ∧
        ∀ ueIndex report, ues[ueIndex]? = some report → ∃ part,
          parts[ueIndex]? = some (.read .reports ueIndex reports.len :: part) ∧
          Format1Exact indication (lengthToU32 ueIndex) (some report.ueMeasReportLst)
            report.indMsgFormat1 part)
  | .other _ => events = [.retain (unknownFormatRecord indication)]

theorem messageAccess_format3 (indication : IndicationContext)
    (reports : FlexArray MeasReportPerUe) : ∃ events,
    messageAccess indication (.format3 reports) = some events ∧
    MessageExact indication events (.format3 reports) ∧ InBounds events ∧
    retained events = (processMessage indication (.format3 reports)).records := by
  simp only [messageAccess, processMessage, MessageExact]
  generalize { indication with ueReportCount := lengthToU32 reports.len } = counted
  by_cases hnull : reports.len > 0 ∧ reports.elements = none
  · rw [if_pos hnull, if_pos hnull]
    refine ⟨_, rfl, ⟨fun _ _ => rfl, fun hzero => ?_, fun ues hues => ?_⟩,
      fun list index len hmem => ?_, rfl⟩
    · omega
    · exact absurd (hnull.2.symm.trans hues) (by simp)
    · simp at hmem
  rw [if_neg hnull, if_neg hnull]
  cases hues : reports.elements with
  | none =>
    have hzero : reports.len = 0 := by simpa [hues] using hnull
    rw [hzero]
    exact ⟨_, rfl, ⟨fun hpos => absurd hpos (lt_irrefl 0), fun _ => rfl, fun ues h => (by cases h)⟩,
      fun list index len hmem => (List.not_mem_nil hmem).elim, rfl⟩
  | some ues =>
    have hlen : ues.length = reports.len := FlexArray.length_eq hues
    obtain ⟨parts, hparts, hloop, hpart⟩ := forIndex_parts (f := reportAccess counted reports)
      (P := fun ueIndex events => ∀ report, ues[ueIndex]? = some report → ∃ part,
        events = .read .reports ueIndex reports.len :: part ∧
        Format1Exact counted (lengthToU32 ueIndex) (some report.ueMeasReportLst)
          report.indMsgFormat1 part ∧ InBounds part ∧
        retained part = (processFormat1 counted (lengthToU32 ueIndex)
          (some report.ueMeasReportLst) report.indMsgFormat1).records)
      (n := reports.len) (by
        intro ueIndex hindex
        obtain ⟨report, hreport⟩ : ∃ report, ues[ueIndex]? = some report :=
          ⟨_, List.getElem?_eq_getElem (by omega)⟩
        obtain ⟨part, haccess, hrest⟩ := format1Access_exact counted (lengthToU32 ueIndex)
          (some report.ueMeasReportLst) report.indMsgFormat1
        refine ⟨.read .reports ueIndex reports.len :: part, ?_, fun report hsome => ?_⟩
        · simp only [reportAccess, FlexArray.at?_eq hues, hreport, haccess, Option.bind_eq_bind,
            Option.bind_some]
          rfl
        · obtain rfl := Option.some.inj (hreport.symm.trans hsome)
          exact ⟨part, rfl, hrest⟩)
    have hreports (ueIndex : ℕ) (report : MeasReportPerUe) (hreport : ues[ueIndex]? = some report) :=
      have hindex := (List.getElem?_eq_some_iff.mp hreport).1
      hpart ueIndex (hlen ▸ hindex)
    have hretained : parts.map retained = ues.zipIdx.map fun indexed =>
        (processFormat1 counted (lengthToU32 indexed.2) (some indexed.1.ueMeasReportLst)
          indexed.1.indMsgFormat1).records := by
      apply map_parts_eq (hparts.trans hlen.symm)
      intro ueIndex report hreport
      obtain ⟨events, hsome, -, hP⟩ := hreports ueIndex report hreport
      obtain ⟨part, rfl, -, -, hrecords⟩ := hP report hreport
      exact ⟨_, hsome, hrecords⟩
    refine ⟨_, hloop, ⟨fun _ h => (by cases h), fun hzero => ?_, fun ues' hsome => ?_⟩,
      .flatten fun events hmem => ?_, ?_⟩
    · rw [List.eq_nil_of_length_eq_zero (hparts.trans hzero), List.flatten_nil]
    · obtain rfl := Option.some.inj hsome
      refine ⟨parts, hparts.trans hlen.symm, rfl, fun ueIndex report hreport => ?_⟩
      obtain ⟨events, hsome, -, hP⟩ := hreports ueIndex report hreport
      obtain ⟨part, rfl, hexact, -⟩ := hP report hreport
      exact ⟨part, hsome, hexact⟩
    · obtain ⟨ueIndex, hlt, rfl⟩ := List.mem_iff_getElem.mp hmem
      obtain ⟨report, hreport⟩ : ∃ report, ues[ueIndex]? = some report :=
        ⟨_, List.getElem?_eq_getElem (by omega)⟩
      obtain ⟨events, hsome, -, hP⟩ := hreports ueIndex _ hreport
      obtain ⟨part, rfl, -, hbounds, -⟩ := hP _ hreport
      rw [List.getElem?_eq_getElem hlt] at hsome
      rw [Option.some.inj hsome]
      exact .cons (by omega) hbounds
    · rw [retained_flatten, hretained, Option.getD_some, List.flatMap_map, List.flatMap_def]

theorem messageAccess_exact (indication : IndicationContext) (msg : IndMsg) : ∃ events,
    messageAccess indication msg = some events ∧ MessageExact indication events msg ∧
    InBounds events ∧ retained events = (processMessage indication msg).records := by
  cases msg with
  | format1 message => exact format1Access_exact _ _ _ _
  | format3 reports => exact messageAccess_format3 _ _
  | other type =>
    exact ⟨_, rfl, rfl, fun list index len hmem => (by simp at hmem), rfl⟩

theorem recordsCreated_foldl (records : List MeasurementRecord) (counters : CallbackCounters) :
    (records.foldl retainRecord counters).recordsCreated =
      counters.recordsCreated + UInt64.ofNat records.length := by
  induction records generalizing counters with
  | nil => simp
  | cons record records ih =>
    have hone : (retainRecord counters record).recordsCreated = counters.recordsCreated + 1 := by
      unfold retainRecord
      cases record.structuralStatus <;> rfl
    rw [List.foldl_cons, ih, hone, List.length_cons, UInt64.ofNat_add]
    ac_rfl

/-- Every indication is gone through row by row without an undefined access; each row is either
paired off element by element or leaves one diagnostic. -/
theorem row_classification (context : CallbackContext) (kpm : KpmIndData) (node : GlobalE2NodeId)
    (clock : Option Int64) :
    (∀ message data, (validateRowShape (rowShape message data)).rowAccepted = true ↔
      RowAccepted message data) ∧
    ∃ events,
      messageAccess (indicationContext context kpm node clock) kpm.msg = some events ∧
      MessageExact (indicationContext context kpm node clock) events kpm.msg ∧
      InBounds events ∧
      let after := flexricCallback context (some (.kpmIndication kpm)) (some node) clock
      after.2 = retained events ∧
      after.1.counters.recordsCreated =
        context.counters.recordsCreated + UInt64.ofNat (retained events).length := by
  refine ⟨rowAccepted_iff, ?_⟩
  obtain ⟨events, haccess, hexact, hbounds, hretained⟩ :=
    messageAccess_exact (indicationContext context kpm node clock) kpm.msg
  refine ⟨events, haccess, hexact, hbounds, hretained.symm, ?_⟩
  rw [hretained]
  exact recordsCreated_foldl _ _

end TcdOran.Collector
