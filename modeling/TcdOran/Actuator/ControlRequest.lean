import TcdOran.Lib.Strtol

/-! xapp_oran_slice_ctrl.prompt12.c: the xApp that sends one RAN control request, for the share of
the PRBs that its environment names. -/
namespace TcdOran.Actuator
open TcdOran.Lib

/-- `sci_oran_prompt12_max_prb_ratio_pct`, which ends the process where it has no value. -/
def maxPrbRatioPct (raw : Option (List UInt8)) : Option ℤ :=
  match raw with
  | none | some [] => none
  | some text =>
      let parsed := strtol text
      if !parsed.whole ∨ (parsed.value ≠ 25 ∧ parsed.value ≠ 50 ∧ parsed.value ≠ 75 ∧
          parsed.value ≠ 100) then none
      else some parsed.value

/-! ### The request -/

/-- The identifiers of 8.4.3.6. -/
inductive ParamId
  | rrmPolicyRatioList | rrmPolicy | rrmPolicyMemberList | plmnIdentity | sNssai | sst
  | minPrbPolicyRatio | maxPrbPolicyRatio
  deriving DecidableEq

/-- `seq_ran_param_t`: an element without a key flag, a structure, or a list of structures. -/
inductive RanParam
  | int (id : ParamId) (value : ℤ)
  | octets (id : ParamId) (value : List UInt8)
  | struct (id : ParamId) (fields : List RanParam)
  | list (id : ParamId) (items : List (List RanParam))

def RanParam.id : RanParam → ParamId
  | .int id _ | .octets id _ | .struct id _ | .list id _ => id

structure GnbUeId where
  amfUeNgapId : ℕ
  mcc : ℕ
  mnc : ℕ
  mncDigitLen : ℕ
  amfRegionId : ℕ
  amfSetId : ℕ
  amfPtr : ℕ

/-- `gen_rc_ue_id(GNB_UE_ID_E2SM)`. -/
def genRcUeId : GnbUeId := ⟨0, 1, 1, 2, 0, 0, 0⟩

/-- The actions of `ctrl_act_id`. -/
inductive ControlAction
  | sliceLevelPrbQuota

/-- `rc_ctrl_req_data_t` with a header and a message of format 1. -/
structure RcCtrlReq where
  ueId : GnbUeId
  ricStyleType : ℕ
  ctrlActId : ControlAction
  ranParam : List RanParam

def genRrmPolicyRatioGroup (maxPrbRatioPct : ℤ) : List RanParam := [
  .struct .rrmPolicy [
    .list .rrmPolicyMemberList [[
      .octets .plmnIdentity [0x00, 0xf1, 0x10],
      .struct .sNssai [.octets .sst [0x01]]]]],
  .int .minPrbPolicyRatio 0,
  .int .maxPrbPolicyRatio maxPrbRatioPct]

def genRrmPolicyRatioList (maxPrbRatioPct : ℤ) : RanParam :=
  .list .rrmPolicyRatioList [genRrmPolicyRatioGroup maxPrbRatioPct]

def genRcCtrlReq (maxPrbRatioPct : ℤ) : RcCtrlReq :=
  ⟨genRcUeId, 2, .sliceLevelPrbQuota, [genRrmPolicyRatioList maxPrbRatioPct]⟩

/-! ### `main` -/

/-- What a run of the xApp meets: the number of connected E2 nodes, and whether every `calloc` gets
its block. -/
structure XappHost where
  nodes : ℕ
  memory : Bool

inductive XappEvent
  | requestedMaxPrbRatioPct (ratio : ℤ)
  | connectedNodes (nodes : ℕ)
  | actuatorContract (ratio : ℤ)
  | control (node : ℕ) (request : RcCtrlReq)
  | ranSuccessfully

inductive XappExit
  | failure | aborted | success
  deriving DecidableEq

/-- `main`. An assertion that does not hold aborts. -/
def xappMain (raw : Option (List UInt8)) (host : XappHost) : List XappEvent × XappExit :=
  match maxPrbRatioPct raw with
  | none => ([], .failure)
  | some ratio =>
      let requested := [XappEvent.requestedMaxPrbRatioPct ratio]
      if host.nodes = 0 then (requested, .aborted)
      else
        let connected := requested ++ [.connectedNodes host.nodes]
        if !host.memory then (connected, .aborted)
        else if host.nodes ≠ 1 then (connected, .aborted)
        else (connected ++ [.actuatorContract ratio, .control 0 (genRcCtrlReq ratio),
          .ranSuccessfully], .success)

/-! ### What a request means -/

/-- The policy of one slice: which share of the PRBs it has at least and at most. -/
structure SlicePolicy where
  plmn : List UInt8
  sst : List UInt8
  minPrbRatioPct : ℤ
  maxPrbRatioPct : ℤ
  deriving DecidableEq

def findParam (id : ParamId) (params : List RanParam) : Option RanParam :=
  params.find? fun param => param.id = id

def RanParam.fields? : RanParam → Option (List RanParam)
  | .struct _ fields => some fields
  | _ => none

/-- The only structure of a list. -/
def RanParam.item? : RanParam → Option (List RanParam)
  | .list _ [item] => some item
  | _ => none

def RanParam.octets? : RanParam → Option (List UInt8)
  | .octets _ value => some value
  | _ => none

def RanParam.int? : RanParam → Option ℤ
  | .int _ value => some value
  | _ => none

/-- A message of the control service for slice-level PRB quotas, as 8.4.3.6 nests its parameters. -/
def slicePolicy (request : RcCtrlReq) : Option SlicePolicy := do
  let group ← (← findParam .rrmPolicyRatioList request.ranParam).item?
  let policy ← (← findParam .rrmPolicy group).fields?
  let member ← (← findParam .rrmPolicyMemberList policy).item?
  let plmn ← (← findParam .plmnIdentity member).octets?
  let sNssai ← (← findParam .sNssai member).fields?
  let sst ← (← findParam .sst sNssai).octets?
  let minimum ← (← findParam .minPrbPolicyRatio group).int?
  let maximum ← (← findParam .maxPrbPolicyRatio group).int?
  return ⟨plmn, sst, minimum, maximum⟩

/-- The control requests of a run, with the nodes they go to. -/
def controls (events : List XappEvent) : List (ℕ × RcCtrlReq) :=
  events.filterMap fun event =>
    match event with
    | .control node request => some (node, request)
    | _ => none

theorem slicePolicy_genRcCtrlReq (ratio : ℤ) :
    slicePolicy (genRcCtrlReq ratio) = some ⟨[0x00, 0xf1, 0x10], [0x01], 0, ratio⟩ := rfl

/-- The environment asks for a share: a numeral that is read whole, of one of four values. -/
def Asks (raw : Option (List UInt8)) (ratio : ℤ) : Prop :=
  ratio ∈ [(25 : ℤ), 50, 75, 100] ∧ ∃ text negative magnitude, raw = some text ∧
    SpellsNumber text negative magnitude ∧ ratio = if negative then -(magnitude : ℤ) else magnitude

theorem not_spellsNumber_nil {negative : Bool} {magnitude : ℕ} :
    ¬ SpellsNumber [] negative magnitude := by
  rw [spellsNumber_iff]
  exact fun h => h.1 rfl

theorem maxPrbRatioPct_iff {raw : Option (List UInt8)} {ratio : ℤ} :
    maxPrbRatioPct raw = some ratio ↔ Asks raw ratio := by
  rcases raw with _ | _ | ⟨b, rest⟩
  · refine iff_of_false (by simp [maxPrbRatioPct]) ?_
    rintro ⟨-, _, _, _, h, -⟩
    cases h
  · refine iff_of_false (by simp [maxPrbRatioPct]) ?_
    rintro ⟨-, _, _, _, h, hspells, -⟩
    obtain rfl := Option.some.inj h
    exact not_spellsNumber_nil hspells
  · show (if _ then none else some (strtol (b :: rest)).value) = some ratio ↔ _
    constructor
    · intro h
      split_ifs at h with hbad
      obtain rfl := Option.some.inj h
      obtain ⟨hwhole, hvalue⟩ := not_or.mp hbad
      obtain ⟨negative, magnitude, hspells, hsame, -⟩ :=
        strtol_whole_iff.mp ⟨by simpa using hwhole, rfl⟩
      refine ⟨?_, _, negative, magnitude, rfl, hspells, hsame⟩
      simp only [List.mem_cons, List.not_mem_nil, or_false]
      omega
    · rintro ⟨hmem, text, negative, magnitude, htext, hspells, hsame⟩
      obtain rfl := Option.some.inj htext
      simp only [List.mem_cons, List.not_mem_nil, or_false] at hmem
      obtain ⟨hwhole, hvalue⟩ :=
        strtol_whole_iff.mpr ⟨negative, magnitude, hspells, hsame, by omega, by omega⟩
      simp only [hwhole, hvalue]
      rw [if_neg]
      simp only [Bool.not_true, Bool.false_eq_true, false_or]
      omega

/-- A run sends one request, to the first node, exactly where that node is the only one. -/
theorem xappMain_controls {raw : Option (List UInt8)} {ratio : ℤ} (h : maxPrbRatioPct raw = some ratio)
    (host : XappHost) : controls (xappMain raw host).1 =
      if host.nodes = 1 ∧ host.memory = true then [(0, genRcCtrlReq ratio)] else [] := by
  unfold xappMain
  rw [h]
  by_cases hone : host.nodes = 1
  · cases hmemory : host.memory <;> simp [hone, controls]
  · by_cases hzero : host.nodes = 0
    · simp [hzero, controls]
    · cases hmemory : host.memory <;> simp [hone, hzero, controls]

/-- Without a share that is asked for, nothing is sent. -/
theorem xappMain_silent {raw : Option (List UInt8)} (h : maxPrbRatioPct raw = none) (host : XappHost) :
    xappMain raw host = ([], .failure) := by
  rw [xappMain, h]

/-- The xApp sends at most one request: where its environment asks for a share and exactly one node
is connected, the request for this share of the slice to that node. It ends well exactly when it has
sent. -/
theorem xapp_sends_iff (raw : Option (List UInt8)) (host : XappHost) :
    (controls (xappMain raw host).1).length ≤ 1 ∧
    (∀ node request, (node, request) ∈ controls (xappMain raw host).1 ↔
      node = 0 ∧ host.nodes = 1 ∧ host.memory = true ∧ ∃ ratio, Asks raw ratio ∧
        request = genRcCtrlReq ratio) ∧
    ((xappMain raw host).2 = .success ↔ controls (xappMain raw host).1 ≠ []) := by
  cases hratio : maxPrbRatioPct raw with
  | none =>
    have hnone (ratio : ℤ) : ¬ Asks raw ratio := by
      rw [← maxPrbRatioPct_iff, hratio]
      simp
    rw [xappMain_silent hratio]
    simp [controls, hnone]
  | some ratio =>
    have hasks (ratio' : ℤ) : Asks raw ratio' ↔ ratio' = ratio := by
      rw [← maxPrbRatioPct_iff, hratio, Option.some.injEq, eq_comm]
    have hsuccess : (xappMain raw host).2 = .success ↔ host.nodes = 1 ∧ host.memory = true := by
      unfold xappMain
      rw [hratio]
      by_cases hzero : host.nodes = 0
      · simp [hzero]
      · cases host.memory <;> by_cases hone : host.nodes = 1 <;> simp [hone, hzero]
    rw [xappMain_controls hratio, hsuccess]
    by_cases hready : host.nodes = 1 ∧ host.memory = true
    · simp [hready, hasks]
    · rw [if_neg hready]
      refine ⟨by simp, fun node request => ?_, by simpa using hready⟩
      simp only [List.not_mem_nil, false_iff]
      exact fun h => hready ⟨h.2.1, h.2.2.1⟩

end TcdOran.Actuator
