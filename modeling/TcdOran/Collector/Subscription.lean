import TcdOran.Collector.NodeSelection
import TcdOran.Lib.Heap

/-! kpm_subscription.c: the subscription request that the collector builds for the selected node,
and the memory it owns. -/
namespace TcdOran.Collector.Subscription
open TcdOran.Lib

/-! ### The profiles of FlexRIC's configuration -/

/-- `act_name_id_t`. -/
structure ActNameId where
  name : Option (List UInt8)
  id : Int32

/-- `sub_oran_sm_t`, whose `actions` has `act_len` entries. -/
structure SubOranSm where
  name : Option (List UInt8)
  ranType : Option (List UInt8)
  time : Int32
  format : Int32
  actions : Option (List ActNameId)

/-! ### `kpm_sub_data_t` -/

structure NameBuffer where
  buf : Option (Pointee (List UInt8))
  len : ℕ

inductive MeasType
  | name (name : NameBuffer)
  | id (id : UInt16)

structure LabelInfo where
  noLabel : Option (Pointee Bool)

structure MeasInfo where
  measType : MeasType
  labelInfoLst : Option (Pointee LabelInfo)
  labelInfoLstLen : ℕ

structure ActDefFormat1 where
  granPeriodMs : UInt32
  measInfoLst : Option (Pointee (List MeasInfo))
  measInfoLstLen : ℕ

inductive TestCond
  | equal

structure TestCondValue where
  intValue : Option (Pointee ℤ)

/-- `test_info_lst_t` for the condition on the S-NSSAI. -/
structure TestInfo where
  testCond : Option (Pointee TestCond)
  testCondValue : Option (Pointee TestCondValue)

structure ActDefFormat4 where
  matchingCondLst : Option (Pointee TestInfo)
  matchingCondLstLen : ℕ
  actionDefFormat1 : ActDefFormat1

inductive ActionDefinition
  | format1 (definition : ActDefFormat1)
  | format4 (definition : ActDefFormat4)

/-- `kpm_sub_data_t` with a trigger of format 1. -/
structure KpmSubData where
  reportPeriodMs : UInt32
  ad : Option (Pointee ActionDefinition)
  szAd : ℕ

/-- `tcd_kpm_subscription_request_t`. -/
structure Request where
  data : KpmSubData
  actionFormat : UInt32
  profilePeriodMs : UInt32
  measurementCount : ℕ
  initialised : Bool

/-- What `memset` leaves of an element of `meas_info_lst`. -/
def zeroMeasInfo : MeasInfo := ⟨.name ⟨none, 0⟩, none, 0⟩

def zeroFormat1 : ActDefFormat1 := ⟨0, none, 0⟩

def zeroFormat4 : ActDefFormat4 := ⟨none, 0, zeroFormat1⟩

/-- `tcd_kpm_subscription_request_init`. -/
def requestInit : Request := ⟨⟨0, none, 0⟩, 0, 0, 0, false⟩

/-! ### Building -/

/-- The name that a measurement is requested by, unless it is by its identifier. -/
def ActNameId.named? (action : ActNameId) : Option (List UInt8) :=
  action.name.filter fun name => !sameIgnoringCase name (bytes "null")

def copyMeasurementName (source : List UInt8) : HeapM (NameBuffer × Bool) :=
  if source = [] then pure (⟨none, 0⟩, false)
  else allocate ⟨none, 0⟩ fun buf => pure (⟨some ⟨buf, source⟩, source.length⟩, true)

/-- The first half of `build_measurement_info`. -/
def buildMeasType (action : ActNameId) : HeapM (MeasType × Bool) :=
  match action.named? with
  | some name => orReturn (copyMeasurementName name) .name fun copied => pure (.name copied, true)
  | none =>
      if action.id < 0 ∨ action.id > 65535 then pure (zeroMeasInfo.measType, false)
      else pure (.id action.id.toUInt32.toUInt16, true)

def buildMeasurementInfo (action : ActNameId) : HeapM (MeasInfo × Bool) :=
  orReturn (buildMeasType action) (fun measType => ⟨measType, none, 0⟩) fun measType =>
  allocate ⟨measType, none, 0⟩ fun labels =>
  allocate ⟨measType, some ⟨labels, ⟨none⟩⟩, 1⟩ fun noLabel =>
  pure (⟨measType, some ⟨labels, ⟨some ⟨noLabel, true⟩⟩⟩, 1⟩, true)

/-- The loop over the actions of a profile. -/
def buildMeasurements : List ActNameId → HeapM (List MeasInfo × Bool)
  | [] => pure ([], true)
  | action :: actions =>
      orReturn (buildMeasurementInfo action) (fun info => info :: actions.map fun _ => zeroMeasInfo)
      fun info => orReturn (buildMeasurements actions) (info :: ·)
      fun infos => pure (info :: infos, true)

def SubOranSm.actionList (profile : SubOranSm) : List ActNameId := profile.actions.getD []

def buildActionFormat1 (profile : SubOranSm) (periodMs : UInt32) : HeapM (ActDefFormat1 × Bool) :=
  let whole (block : ℕ) (infos : List MeasInfo) : ActDefFormat1 :=
    ⟨periodMs, some ⟨block, infos⟩, profile.actionList.length⟩
  if profile.actionList = [] then pure (zeroFormat1, false)
  else
    allocate ⟨periodMs, none, 0⟩ fun block =>
    orReturn (buildMeasurements profile.actionList) (whole block) fun infos =>
    pure (whole block infos, true)

def buildActionFormat4 (profile : SubOranSm) (periodMs : UInt32) : HeapM (ActDefFormat4 × Bool) :=
  allocate zeroFormat4 fun list =>
  allocate ⟨some ⟨list, ⟨none, none⟩⟩, 1, zeroFormat1⟩ fun cond =>
  allocate ⟨some ⟨list, ⟨some ⟨cond, .equal⟩, none⟩⟩, 1, zeroFormat1⟩ fun value =>
  allocate ⟨some ⟨list, ⟨some ⟨cond, .equal⟩, some ⟨value, ⟨none⟩⟩⟩⟩, 1, zeroFormat1⟩ fun int =>
  let whole (definition : ActDefFormat1) : ActDefFormat4 :=
    ⟨some ⟨list, ⟨some ⟨cond, .equal⟩, some ⟨value, ⟨some ⟨int, 1⟩⟩⟩⟩⟩, 1, definition⟩
  orReturn (buildActionFormat1 profile periodMs) whole fun definition => pure (whole definition, true)

def buildAction (profile : SubOranSm) (periodMs : UInt32) : HeapM (ActionDefinition × Bool) :=
  if profile.format = 1 then
    orReturn (buildActionFormat1 profile periodMs) .format1 fun d => pure (.format1 d, true)
  else orReturn (buildActionFormat4 profile periodMs) .format4 fun d => pure (.format4 d, true)

def isKpmProfile (selected : SelectedNode) (candidate : SubOranSm) : Bool :=
  candidate.name.any (sameIgnoringCase · (bytes "KPM")) &&
    candidate.ranType.any (sameIgnoringCase · selected.nodeType.cString)

/-- `select_kpm_profile`: the last match and the number of matches. -/
def selectKpmProfile (args : List SubOranSm) (selected : SelectedNode) : Option SubOranSm × ℕ :=
  args.foldl (fun found candidate =>
    if isKpmProfile selected candidate then (some candidate, found.2 + 1) else found) (none, 0)

section
variable (free : KpmSubData → HeapM Unit)

/-- `tcd_kpm_subscription_request_destroy`. -/
def requestDestroy (request : Request) : HeapM Request := do
  if request.initialised then free request.data
  return requestInit

/-- The lines behind the checks of the profile. -/
def buildData (profile : SubOranSm) (periodMs : UInt32) : HeapM (Request × Except String Unit) := do
  match ← calloc with
  | none =>
      return ({ requestInit with data := ⟨periodMs, none, 0⟩ }, .error "KPM action allocation failed")
  | some ad =>
      let (action, built) ← buildAction profile periodMs
      let request : Request := {
        data := ⟨periodMs, some ⟨ad, action⟩, 1⟩
        actionFormat := profile.format.toUInt32
        profilePeriodMs := profile.time.toUInt32
        measurementCount := profile.actionList.length
        initialised := true }
      if built then return (request, .ok ())
      else return (← requestDestroy free request, .error "KPM action construction failed")

/-- `tcd_kpm_subscription_request_build`. -/
def requestBuild (request : Request) (args : List SubOranSm) (selected : SelectedNode)
    (config : LoadedConfig) : HeapM (Request × Except String Unit) := do
  let request ← requestDestroy free request
  let found := selectKpmProfile args selected
  match found.1 with
  | none => return (request, .error "no KPM profile matched the selected E2 node type")
  | some profile =>
      if found.2 > 1 then
        return (request, .error "multiple KPM profiles matched the selected E2 node type")
      else if profile.time ≤ 0 ∨ profile.actionList = [] then
        return (request, .error "invalid KPM profile")
      else if profile.format ≠ 1 ∧ profile.format ≠ 4 then
        return (request, .error "KPM action definition must use format 1 or 4")
      else if profile.time.toUInt32 ≠ config.subscriptionPeriodMs then
        return (request, .error "collector period does not match the selected KPM profile")
      else buildData free profile config.subscriptionPeriodMs

end

/-! ### What a request owns -/

def MeasType.blocks : MeasType → Multiset ℕ
  | .name copied => blocksOf (fun _ => 0) copied.buf
  | .id _ => 0

def LabelInfo.blocks (label : LabelInfo) : Multiset ℕ := blocksOf (fun _ => 0) label.noLabel

def MeasInfo.blocks (info : MeasInfo) : Multiset ℕ :=
  info.measType.blocks + blocksOf LabelInfo.blocks info.labelInfoLst

def measurementBlocks (infos : List MeasInfo) : Multiset ℕ := (infos.map MeasInfo.blocks).sum

def ActDefFormat1.blocks (d : ActDefFormat1) : Multiset ℕ := blocksOf measurementBlocks d.measInfoLst

def TestCondValue.blocks (value : TestCondValue) : Multiset ℕ :=
  blocksOf (fun _ => 0) value.intValue

def TestInfo.blocks (info : TestInfo) : Multiset ℕ :=
  blocksOf (fun _ => 0) info.testCond + blocksOf TestCondValue.blocks info.testCondValue

def ActDefFormat4.blocks (d : ActDefFormat4) : Multiset ℕ :=
  blocksOf TestInfo.blocks d.matchingCondLst + d.actionDefFormat1.blocks

def ActionDefinition.blocks : ActionDefinition → Multiset ℕ
  | .format1 d => d.blocks
  | .format4 d => d.blocks

def KpmSubData.blocks (data : KpmSubData) : Multiset ℕ := blocksOf ActionDefinition.blocks data.ad

/-! ### What a request asks for -/

inductive Measurement
  | name (name : List UInt8)
  | id (id : ℕ)

/-- A subscription; format 4 is for the UEs of one S-NSSAI. -/
structure Subscribed where
  reportPeriodMs : UInt32
  granularityMs : UInt32
  sNssai : Option ℤ
  measurements : List Measurement

def MeasType.read : MeasType → Option Measurement
  | .name copied => do
      let buf ← copied.buf
      if buf.value.length = copied.len then some (.name buf.value) else none
  | .id value => some (.id value.toNat)

def MeasInfo.read (info : MeasInfo) : Option Measurement := do
  let labels ← info.labelInfoLst
  let noLabel ← labels.value.noLabel
  if info.labelInfoLstLen = 1 ∧ noLabel.value then info.measType.read else none

def ActDefFormat1.read (d : ActDefFormat1) : Option (UInt32 × List Measurement) := do
  let infos ← d.measInfoLst
  let measurements ← infos.value.mapM MeasInfo.read
  if d.measInfoLstLen = measurements.length then some (d.granPeriodMs, measurements) else none

def TestInfo.read (info : TestInfo) : Option ℤ := do
  let _ ← info.testCond
  let value ← info.testCondValue
  let int ← value.value.intValue
  some int.value

def ActionDefinition.read : ActionDefinition → Option (Option ℤ × UInt32 × List Measurement)
  | .format1 d => d.read.map fun read => (none, read)
  | .format4 d => do
      let cond ← d.matchingCondLst
      let sNssai ← cond.value.read
      let read ← d.actionDefFormat1.read
      if d.matchingCondLstLen = 1 then some (some sNssai, read) else none

def KpmSubData.read (data : KpmSubData) : Option Subscribed := do
  let ad ← data.ad
  let (sNssai, granularityMs, measurements) ← ad.value.read
  if data.szAd = 1 then some ⟨data.reportPeriodMs, granularityMs, sNssai, measurements⟩ else none

/-! ### What a profile asks for -/

/-- A name that is not empty, or an identifier of 16 bits. -/
def ActNameId.Representable (action : ActNameId) : Prop :=
  match action.named? with
  | some name => name ≠ []
  | none => 0 ≤ action.id ∧ action.id ≤ 65535

def ActNameId.measurement (action : ActNameId) : Measurement :=
  match action.named? with
  | some name => .name name
  | none => .id action.id.toInt.toNat

/-- The blocks of one measurement. -/
def ActNameId.needs (action : ActNameId) : ℕ := (if action.named?.isSome then 1 else 0) + 2

def SubOranSm.needs (profile : SubOranSm) : ℕ :=
  (if profile.format = 1 then 0 else 4) + (1 + (profile.actionList.map ActNameId.needs).sum)

def SubOranSm.subscribed (profile : SubOranSm) (periodMs : UInt32) : Subscribed where
  reportPeriodMs := periodMs
  granularityMs := periodMs
  sNssai := if profile.format = 1 then none else some 1
  measurements := profile.actionList.map ActNameId.measurement

/-- The checks of a build in their order, on the heap it starts with. -/
def buildDemands (args : List SubOranSm) (selected : SelectedNode) (config : LoadedConfig) (h : Heap) :
    List (Demand String) :=
  let profiles := args.filter (isKpmProfile selected)
  [⟨profiles ≠ [], "no KPM profile matched the selected E2 node type"⟩,
    ⟨profiles.length ≤ 1, "multiple KPM profiles matched the selected E2 node type"⟩,
    ⟨∀ p ∈ profiles, 0 < p.time ∧ p.actionList ≠ [], "invalid KPM profile"⟩,
    ⟨∀ p ∈ profiles, p.format = 1 ∨ p.format = 4, "KPM action definition must use format 1 or 4"⟩,
    ⟨∀ p ∈ profiles, p.time.toUInt32 = config.subscriptionPeriodMs,
      "collector period does not match the selected KPM profile"⟩,
    ⟨h.grants h.calls = true, "KPM action allocation failed"⟩,
    ⟨∀ p ∈ profiles, (∀ action ∈ p.actionList, action.Representable) ∧
      ∀ i < p.needs, h.grants (h.calls + 1 + i) = true, "KPM action construction failed"⟩]

/-! ### Each function -/

theorem builds_copyMeasurementName (source : List UInt8) :
    Builds (copyMeasurementName source) 0 (fun copied => MeasType.blocks (.name copied)) 1 (source ≠ [])
      (fun copied => MeasType.read (.name copied) = some (.name source)) := by
  unfold copyMeasurementName
  by_cases hempty : source = []
  · rw [if_pos hempty]
    exact builds_refuse rfl (not_not.mpr hempty)
  · rw [if_neg hempty]
    refine Builds.congr (iff_of_true trivial hempty) ?_
    show Builds _ _ _ (1 + 0) _ _
    refine builds_allocate rfl fun buf => builds_return ?_ ?_
    · simp [MeasType.blocks, blocksOf]
    · simp [MeasType.read]

theorem toNat_of_range {id : Int32} (hlow : 0 ≤ id) (hhigh : id ≤ 65535) :
    id.toUInt32.toUInt16.toNat = id.toInt.toNat := by
  have hbound : id.toInt ≤ 65535 := Int32.le_iff_toInt_le.mp hhigh
  have hnat : id.toUInt32.toNat = id.toInt.toNat := Int32.toNat_toUInt32_of_le hlow
  rw [UInt32.toNat_toUInt16, hnat]
  exact Nat.mod_eq_of_lt (by omega)

theorem builds_measType (action : ActNameId) :
    Builds (buildMeasType action) 0 MeasType.blocks (if action.named?.isSome then 1 else 0)
      action.Representable (fun measType => measType.read = some action.measurement) := by
  unfold buildMeasType ActNameId.Representable ActNameId.measurement
  cases action.named? with
  | some name =>
    refine Builds.congr (iff_of_eq (and_true _)) ?_
    show Builds _ _ _ (1 + 0) _ _
    exact builds_orReturn (builds_copyMeasurementName name) (fun copied => zero_add _)
      fun copied hread => builds_return (zero_add _) hread
  | none =>
    by_cases hrange : 0 ≤ action.id ∧ action.id ≤ 65535
    · have hnot : ¬ (action.id < 0 ∨ action.id > 65535) := by
        rintro (h | h)
        · exact absurd hrange.1 (Int32.not_le.mpr h)
        · exact absurd hrange.2 (Int32.not_le.mpr h)
      simp only [if_neg hnot]
      refine Builds.congr (iff_of_true trivial hrange) ?_
      show Builds _ _ _ 0 _ _
      refine builds_return rfl ?_
      rw [MeasType.read, toNat_of_range hrange.1 hrange.2]
    · have hbad : action.id < 0 ∨ action.id > 65535 := by
        rcases not_and_or.mp hrange with h | h
        · exact .inl (Int32.not_le.mp h)
        · exact .inr (Int32.not_le.mp h)
      simp only [if_pos hbad]
      exact builds_refuse rfl hrange

theorem builds_measurementInfo (action : ActNameId) :
    Builds (buildMeasurementInfo action) 0 MeasInfo.blocks action.needs action.Representable
      (fun info => info.read = some action.measurement) := by
  refine Builds.congr (iff_of_eq (and_true _)) ?_
  show Builds _ _ _ (_ + (1 + (1 + 0))) _ _
  refine builds_orReturn (builds_measType action) (fun measType => ?_)
    fun measType hread => builds_allocate ?_ fun labels =>
      builds_allocate ?_ fun noLabel => builds_return ?_ ?_
  · simp only [MeasInfo.blocks, blocksOf, zero_add, add_zero]
  · simp only [MeasInfo.blocks, blocksOf, zero_add, add_zero]
  · simp only [MeasInfo.blocks, blocksOf, LabelInfo.blocks, zero_add, add_zero]
  · simp only [MeasInfo.blocks, blocksOf, LabelInfo.blocks, zero_add, add_zero, add_assoc]
  · simp [MeasInfo.read, hread]

theorem measurementBlocks_zero (actions : List ActNameId) :
    measurementBlocks (actions.map fun _ => zeroMeasInfo) = 0 := by
  induction actions with
  | nil => rfl
  | cons action actions ih =>
    rw [List.map_cons, measurementBlocks, List.map_cons, List.sum_cons]
    rw [measurementBlocks] at ih
    rw [ih]
    rfl

theorem measurementBlocks_cons (info : MeasInfo) (infos : List MeasInfo) :
    measurementBlocks (info :: infos) = info.blocks + measurementBlocks infos := by
  rw [measurementBlocks, List.map_cons, List.sum_cons]
  rfl

theorem builds_measurements (actions : List ActNameId) :
    Builds (buildMeasurements actions) 0 measurementBlocks (actions.map ActNameId.needs).sum
      (∀ action ∈ actions, action.Representable)
      (fun infos => infos.mapM MeasInfo.read = some (actions.map ActNameId.measurement)) := by
  induction actions with
  | nil =>
    refine Builds.congr (iff_of_true trivial (by simp)) ?_
    exact builds_return rfl rfl
  | cons action actions ih =>
    rw [List.map_cons, List.sum_cons]
    have hvalid : (action.Representable ∧ (∀ action ∈ actions, action.Representable) ∧ True) ↔
        ∀ a ∈ action :: actions, a.Representable := by simp
    refine Builds.congr hvalid ?_
    show Builds _ _ _ (_ + (_ + 0)) _ _
    refine builds_orReturn (builds_measurementInfo action) (fun info => ?_)
      fun info hinfo => builds_orReturn ih (fun infos => ?_)
        fun infos hinfos => builds_return ?_ ?_
    · rw [measurementBlocks_cons, measurementBlocks_zero, zero_add, add_zero]
    · rw [measurementBlocks_cons, zero_add]
    · rw [measurementBlocks_cons, zero_add]
    · rw [List.mapM_cons, hinfo, hinfos]
      rfl

theorem builds_format1 {profile : SubOranSm} {periodMs : UInt32} (hactions : profile.actionList ≠ []) :
    Builds (buildActionFormat1 profile periodMs) 0 ActDefFormat1.blocks
      (1 + (profile.actionList.map ActNameId.needs).sum)
      (∀ action ∈ profile.actionList, action.Representable)
      (fun d => d.read = some (periodMs, profile.actionList.map ActNameId.measurement)) := by
  unfold buildActionFormat1
  rw [if_neg hactions]
  refine builds_allocate rfl fun block => Builds.congr (iff_of_eq (and_true _)) ?_
  show Builds _ _ _ (_ + 0) _ _
  refine builds_orReturn (builds_measurements profile.actionList) (fun infos => ?_)
    fun infos hinfos => builds_return ?_ ?_
  · simp [ActDefFormat1.blocks, blocksOf]
  · simp [ActDefFormat1.blocks, blocksOf]
  · simp [ActDefFormat1.read, hinfos]

theorem builds_format4 {profile : SubOranSm} {periodMs : UInt32} (hactions : profile.actionList ≠ []) :
    Builds (buildActionFormat4 profile periodMs) 0 ActDefFormat4.blocks
      (4 + (1 + (profile.actionList.map ActNameId.needs).sum))
      (∀ action ∈ profile.actionList, action.Representable)
      (fun d => (ActionDefinition.format4 d).read =
        some (some 1, periodMs, profile.actionList.map ActNameId.measurement)) := by
  have hneeds (n : ℕ) : 4 + n = 1 + (1 + (1 + (1 + (n + 0)))) := by omega
  rw [hneeds]
  refine builds_allocate rfl fun list => builds_allocate ?_ fun cond => builds_allocate ?_ fun value =>
    builds_allocate ?_ fun int => Builds.congr (iff_of_eq (and_true _)) <|
      builds_orReturn (builds_format1 hactions) (fun d => ?_) fun d hread => builds_return ?_ ?_
  all_goals try
    simp only [ActDefFormat4.blocks, ActDefFormat1.blocks, blocksOf, TestInfo.blocks,
      TestCondValue.blocks, zeroFormat1, zero_add, add_zero]
  · ac_rfl
  · ac_rfl
  · ac_rfl
  · simp [ActionDefinition.read, TestInfo.read, hread]

theorem builds_action {profile : SubOranSm} {periodMs : UInt32} (hactions : profile.actionList ≠ []) :
    Builds (buildAction profile periodMs) 0 ActionDefinition.blocks profile.needs
      (∀ action ∈ profile.actionList, action.Representable)
      (fun action => action.read = some (if profile.format = 1 then none else some 1, periodMs,
        profile.actionList.map ActNameId.measurement)) := by
  unfold buildAction SubOranSm.needs
  by_cases hformat : profile.format = 1
  · rw [if_pos hformat, if_pos hformat, if_pos hformat, Nat.zero_add]
    refine Builds.congr (iff_of_eq (and_true _)) ?_
    show Builds _ _ _ (_ + 0) _ _
    refine builds_orReturn (builds_format1 hactions) (fun d => zero_add d.blocks)
      fun d hread => builds_return (zero_add d.blocks) ?_
    rw [ActionDefinition.read, hread]
    rfl
  · rw [if_neg hformat, if_neg hformat, if_neg hformat]
    refine Builds.congr (iff_of_eq (and_true _)) ?_
    show Builds _ _ _ (_ + 0) _ _
    exact builds_orReturn (builds_format4 hactions) (fun d => zero_add d.blocks)
      fun d hread => builds_return (zero_add d.blocks) hread

theorem selectKpmProfile_eq (args : List SubOranSm) (selected : SelectedNode) :
    selectKpmProfile args selected = ((args.filter (isKpmProfile selected)).getLast?,
      (args.filter (isKpmProfile selected)).length) := by
  induction args using List.reverseRecOn with
  | nil => rfl
  | append_singleton args candidate ih =>
    unfold selectKpmProfile at ih ⊢
    rw [List.foldl_append, ih, List.filter_append]
    by_cases hmatch : isKpmProfile selected candidate = true
    · simp [hmatch]
    · simp [hmatch]

/-! ### Building and releasing -/

/-- `free_kpm_sub_data` frees the blocks of its argument, once each. -/
structure Frees (free : KpmSubData → HeapM Unit) : Prop where
  frees : ∀ data (h : Heap), data.blocks ≤ h.live →
    free data h = some ((), { h with live := h.live - data.blocks })

/-- Besides the blocks of the request the heap holds the others; a request that is not initialised
has none. -/
structure Owns (request : Request) (h : Heap) (others : Multiset ℕ) : Prop where
  live : h.live = others + request.data.blocks
  uninitialised : request.initialised = false → request.data.blocks = 0

/-- What a build leaves. -/
structure AfterBuild (args : List SubOranSm) (selected : SelectedNode) (config : LoadedConfig)
    (h : Heap) (others : Multiset ℕ) (request : Request) (result : Except String Unit) (h' : Heap) :
    Prop where
  owns : Owns request h' others
  validates : Validates (buildDemands args selected config h) result
  asks : result = .ok () → ∃ profile, args.filter (isKpmProfile selected) = [profile] ∧
    request.data.read = some (profile.subscribed config.subscriptionPeriodMs) ∧
    request.actionFormat = profile.format.toUInt32 ∧
    request.profilePeriodMs = config.subscriptionPeriodMs ∧
    request.measurementCount = profile.actionList.length
  released : result ≠ .ok () → request.data.blocks = 0

section
variable {free : KpmSubData → HeapM Unit} {request : Request} {args : List SubOranSm}
  {selected : SelectedNode} {config : LoadedConfig} {profile : SubOranSm} {h : Heap}
  {others : Multiset ℕ}

theorem owns_init : Owns requestInit h h.live := ⟨(add_zero _).symm, fun _ => rfl⟩

theorem requestDestroy_eq (hfree : Frees free) (howns : Owns request h others) :
    requestDestroy free request h = some (requestInit, { h with live := others }) := by
  unfold requestDestroy
  cases hinit : request.initialised with
  | false =>
    have hlive : h.live = others := by rw [howns.live, howns.uninitialised hinit, add_zero]
    rw [← hlive]
    rfl
  | true =>
    have hfreed := hfree.frees request.data h (by rw [howns.live]; exact Multiset.le_add_left _ _)
    rw [howns.live, add_tsub_cancel_right] at hfreed
    exact HeapM.bind_eq hfreed

/-- Behind the checks of a profile: the allocation of the action, and its construction. -/
theorem buildData_eq (hfree : Frees free) (hactions : profile.actionList ≠ []) (periodMs : UInt32)
    (h : Heap) :
    ∃ request result h', buildData free profile periodMs h = some ((request, result), h') ∧
      Owns request h' h.live ∧
      Validates [⟨h.grants h.calls = true, "KPM action allocation failed"⟩,
        ⟨(∀ action ∈ profile.actionList, action.Representable) ∧
          ∀ i < profile.needs, h.grants (h.calls + 1 + i) = true,
          "KPM action construction failed"⟩] result ∧
      (result = .ok () → request.data.read = some (profile.subscribed periodMs) ∧
        request.actionFormat = profile.format.toUInt32 ∧
        request.profilePeriodMs = profile.time.toUInt32 ∧
        request.measurementCount = profile.actionList.length) ∧
      (result ≠ .ok () → request.data.blocks = 0) := by
  unfold buildData
  by_cases hgrant : h.grants h.calls = true
  · rw [HeapM.bind_eq (calloc_granted hgrant)]
    dsimp only
    obtain ⟨action, ok, h', hrun, hlive, -, hok, hbuilt⟩ := builds_action hactions h.allocated
    rw [add_zero] at hlive
    have hdata : h'.live = h.live + ({h.calls} + action.blocks) := by
      rw [hlive, ← add_assoc]
      rfl
    rw [HeapM.bind_eq hrun]
    cases ok with
    | true =>
      have hall := hok.mp rfl
      refine ⟨_, _, h', rfl, ⟨hdata, (by simp)⟩, fun e => ?_, fun _ => ⟨?_, rfl, rfl, rfl⟩,
        fun hno => absurd rfl hno⟩
      · rw [fails_cons, fails_cons]
        simp only [hgrant, not_true, false_and, true_and, false_or, not_fails_nil, and_false, or_false]
        exact iff_of_false (by simp) fun hnot => hnot.1 hall
      · rw [KpmSubData.read, Option.bind_eq_bind, Option.bind_some, (hbuilt rfl).2]
        rfl
    | false =>
      have hnot : ¬ _ := fun hall => Bool.false_ne_true (hok.mpr hall)
      have howns : Owns ⟨⟨periodMs, some ⟨h.calls, action⟩, 1⟩, profile.format.toUInt32,
          profile.time.toUInt32, profile.actionList.length, true⟩ h' h.live :=
        ⟨hdata, by simp⟩
      refine ⟨requestInit, .error "KPM action construction failed", { h' with live := h.live },
        HeapM.bind_eq (requestDestroy_eq hfree howns), ⟨(add_zero _).symm, fun _ => rfl⟩, fun e => ?_,
        by simp, fun _ => rfl⟩
      rw [fails_cons, fails_cons]
      simp only [hgrant, not_true, false_and, true_and, false_or, not_fails_nil, and_false, or_false,
        Except.error.injEq]
      exact ⟨fun he => ⟨hnot, he⟩, fun he => he.2⟩
  · rw [HeapM.bind_eq (calloc_refused hgrant)]
    refine ⟨_, _, h.called, rfl, ⟨(add_zero _).symm, fun _ => rfl⟩, fun e => ?_, by simp,
      fun _ => rfl⟩
    rw [fails_cons]
    simp [hgrant]

theorem requestBuild_eq (hfree : Frees free) (howns : Owns request h others) (args : List SubOranSm)
    (selected : SelectedNode) (config : LoadedConfig) :
    ∃ built result h', requestBuild free request args selected config h =
        some ((built, result), h') ∧ AfterBuild args selected config h others built result h' := by
  have hrefused : ∀ error, (∀ e, Fails (buildDemands args selected config h) e ↔ error = e) →
      AfterBuild args selected config h others requestInit (.error error) { h with live := others } :=
    fun error hfails => ⟨⟨(add_zero _).symm, fun _ => rfl⟩,
      fun e => by rw [hfails e, Except.error.injEq], by simp, fun _ => rfl⟩
  unfold requestBuild
  rw [HeapM.bind_eq (requestDestroy_eq hfree howns), selectKpmProfile_eq]
  unfold buildDemands at hrefused
  cases hprofiles : args.filter (isKpmProfile selected) with
  | nil =>
    rw [hprofiles] at hrefused
    exact ⟨_, _, _, rfl, hrefused _ fun e => fails_of_not (not_not.mpr rfl)⟩
  | cons profile profiles =>
    rw [hprofiles] at hrefused
    cases profiles with
    | cons second profiles =>
      obtain ⟨last, hlast⟩ : ∃ last, (profile :: second :: profiles).getLast? = some last :=
        ⟨_, List.getLast?_eq_some_getLast (List.cons_ne_nil _ _)⟩
      refine ⟨requestInit, .error "multiple KPM profiles matched the selected E2 node type", _, ?_,
        hrefused _ fun e => ?_⟩
      · rw [hlast]
        dsimp only
        rw [if_pos (by rw [List.length_cons, List.length_cons]; omega)]
        rfl
      · rw [fails_of_holds (List.cons_ne_nil _ _)]
        exact fails_of_not (by simp)
    | nil =>
      simp only [List.mem_singleton, forall_eq] at hrefused
      rw [List.getLast?_singleton]
      dsimp only
      rw [if_neg (by simp)]
      by_cases hprofile : profile.time ≤ 0 ∨ profile.actionList = []
      · rw [if_pos hprofile]
        refine ⟨_, _, _, rfl, hrefused _ fun e => ?_⟩
        rw [fails_of_holds (List.cons_ne_nil _ _), fails_of_holds (Nat.le_refl 1)]
        exact fails_of_not fun hvalid => hprofile.elim (Int32.not_le.mpr hvalid.1) hvalid.2
      rw [if_neg hprofile]
      obtain ⟨htime, hactions⟩ := not_or.mp hprofile
      have hvalid : 0 < profile.time ∧ profile.actionList ≠ [] := ⟨Int32.not_le.mp htime, hactions⟩
      by_cases hformat : profile.format ≠ 1 ∧ profile.format ≠ 4
      · rw [if_pos hformat]
        refine ⟨_, _, _, rfl, hrefused _ fun e => ?_⟩
        rw [fails_of_holds (List.cons_ne_nil _ _), fails_of_holds (Nat.le_refl 1),
          fails_of_holds hvalid]
        exact fails_of_not fun hvalid => hvalid.elim hformat.1 hformat.2
      rw [if_neg hformat]
      have hformats : profile.format = 1 ∨ profile.format = 4 := by
        by_contra hneither
        exact hformat (not_or.mp hneither)
      by_cases hperiod : profile.time.toUInt32 ≠ config.subscriptionPeriodMs
      · rw [if_pos hperiod]
        refine ⟨_, _, _, rfl, hrefused _ fun e => ?_⟩
        rw [fails_of_holds (List.cons_ne_nil _ _), fails_of_holds (Nat.le_refl 1),
          fails_of_holds hvalid, fails_of_holds hformats]
        exact fails_of_not hperiod
      rw [if_neg hperiod]
      have hperiod := not_not.mp hperiod
      obtain ⟨built, result, h', hrun, howned, hchecks, hasks, hreleased⟩ :=
        buildData_eq hfree hactions config.subscriptionPeriodMs { h with live := others }
      refine ⟨built, result, h', hrun, howned, fun e => ?_, fun hok => ?_, hreleased⟩
      · rw [buildDemands, hprofiles]
        simp only [List.mem_singleton, forall_eq]
        rw [fails_of_holds (List.cons_ne_nil _ _), fails_of_holds (Nat.le_refl 1),
          fails_of_holds hvalid, fails_of_holds hformats,
          fails_of_holds hperiod]
        exact hchecks e
      · obtain ⟨hread, hfmt, hprofilePeriod, hcount⟩ := hasks hok
        exact ⟨profile, hprofiles, hread, hfmt, hprofilePeriod.trans hperiod, hcount⟩

/-! ### Runs -/

/-- What main does with its request. -/
inductive RequestOp
  | build (args : List SubOranSm) (selected : SelectedNode) (config : LoadedConfig)
  | destroy

def requestStep (free : KpmSubData → HeapM Unit) (request : Request) : RequestOp → HeapM Request
  | .build args selected config => do return (← requestBuild free request args selected config).1
  | .destroy => requestDestroy free request

/-- Nothing is allocated for the request, or it asks for all that one profile asks for. -/
def Request.Whole (request : Request) : Prop :=
  request.data.blocks = 0 ∨ ∃ (profile : SubOranSm) (periodMs : UInt32),
    request.data.read = some (profile.subscribed periodMs)

theorem requestStep_eq (hfree : Frees free) (howns : Owns request h others)
    (op : RequestOp) :
    ∃ request' h', requestStep free request op h = some (request', h') ∧ Owns request' h' others ∧
      request'.Whole := by
  cases op with
  | destroy =>
    exact ⟨requestInit, _, requestDestroy_eq hfree howns, ⟨(add_zero _).symm, fun _ => rfl⟩, .inl rfl⟩
  | build args selected config =>
    obtain ⟨built, result, h', hrun, hafter⟩ := requestBuild_eq hfree howns args selected config
    refine ⟨built, h', HeapM.bind_eq hrun, hafter.owns, ?_⟩
    by_cases hok : result = .ok ()
    · obtain ⟨profile, -, hread, -⟩ := hafter.asks hok
      exact .inr ⟨profile, _, hread⟩
    · exact .inl (hafter.released hok)

theorem requestRun_eq (hfree : Frees free) (ops : List RequestOp) :
    ∀ request h, Owns request h others → request.Whole →
      ∃ request' h', ops.foldlM (requestStep free) request h = some (request', h') ∧
        Owns request' h' others ∧ request'.Whole := by
  induction ops with
  | nil => exact fun request h howns hwhole => ⟨request, h, rfl, howns, hwhole⟩
  | cons op ops ih =>
    intro request h howns hwhole
    obtain ⟨request₁, h₁, hstep, howns₁, hwhole₁⟩ := requestStep_eq hfree howns op
    obtain ⟨request', h', hrun, hrest⟩ := ih request₁ h₁ howns₁ hwhole₁
    refine ⟨request', h', ?_, hrest⟩
    rw [List.foldlM_cons, HeapM.bind_eq hstep]
    exact hrun

end

/-- Whatever sequence of builds and releases a request goes through, with any refusals of `calloc`:
no block is freed that is not in use, the heap holds what it held before and the blocks of the
request, which is empty or complete, and after a release it holds what it held before. A build from
there fails exactly with the first of its demands that does not hold, and asks for the one profile
that matches otherwise. -/
theorem subscription_requests (free : KpmSubData → HeapM Unit) (hfree : Frees free)
    (ops : List RequestOp) (h : Heap) :
    ∃ request h', ops.foldlM (requestStep free) requestInit h = some (request, h') ∧
      h'.live = h.live + request.data.blocks ∧ request.Whole ∧
      (∃ h'', requestDestroy free request h' = some (requestInit, h'') ∧ h''.live = h.live) ∧
      ∀ args selected config, ∃ built result h'',
        requestBuild free request args selected config h' = some ((built, result), h'') ∧
        AfterBuild args selected config h' h.live built result h'' := by
  obtain ⟨request, h', hrun, howns, hwhole⟩ := requestRun_eq hfree ops requestInit h owns_init (.inl rfl)
  exact ⟨request, h', hrun, howns.live, hwhole, ⟨_, requestDestroy_eq hfree howns, rfl⟩,
    fun args selected config => requestBuild_eq hfree howns args selected config⟩

def freeBlocks (data : KpmSubData) : HeapM Unit := fun h =>
  if data.blocks ≤ h.live then some ((), { h with live := h.live - data.blocks }) else none

/-- Two profiles are for the gNB, and one is for its DU. -/
def sampleProfiles : List SubOranSm :=
  let gnb : SubOranSm := ⟨some (bytes "KPM"), some (bytes "gNB"), 1000, 4,
    some [⟨some (bytes "DRB.UEThpDl"), 0⟩, ⟨some (bytes "null"), 7⟩]⟩
  [gnb, { gnb with ranType := some (bytes "gNB_DU") }, gnb]

def sampleSelected : SelectedNode :=
  { zeroSelectedNode with nodeType := zeroSelectedNode.nodeType.store (bytes "gNB_DU") }

theorem subscription_requests_sample : ∃ request h',
    (List.replicate 2 (.build sampleProfiles sampleSelected configDefaults)).foldlM
      (requestStep freeBlocks) requestInit ⟨fun call => call ≠ 6, 0, {40}⟩ = some (request, h') ∧
    h'.live = {40} + request.data.blocks := by
  obtain ⟨request, h', hrun, hlive, -⟩ := subscription_requests freeBlocks
    ⟨fun _ _ hle => if_pos hle⟩
    (List.replicate 2 (.build sampleProfiles sampleSelected configDefaults))
    ⟨fun call => call ≠ 6, 0, {40}⟩
  exact ⟨request, h', hrun, hlive⟩

end TcdOran.Collector.Subscription
