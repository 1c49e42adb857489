import TcdOran.Collector.Environment
import TcdOran.Collector.RecordDelivery

/-! flexric_discovery.c: which of the discovered E2 nodes the collector subscribes to. -/
namespace TcdOran.Collector
open TcdOran.Lib

/-- What the selector uses of FlexRIC: the values of the node types, by their names, and
`get_e2ap_ngran_name`. -/
structure NgranTypes where
  value : String → UInt32
  name : UInt32 → Option (List UInt8)

def nodeTypeMappings : List String :=
  ["eNB", "ng_eNB", "gNB", "eNB_CU", "ng_eNB_CU", "gNB_CU", "eNB_DU", "gNB_DU", "gNB_CUCP", "gNB_CUUP"]

/-- `node_type_from_string`. -/
def nodeTypeFromString (types : NgranTypes) (name : List UInt8) : Option UInt32 :=
  (nodeTypeMappings.find? fun known => sameIgnoringCase name (bytes known)).map types.value

/-- `tcd_kpm_selected_node_t`. -/
structure SelectedNode where
  sourceIndex : ℕ
  nodeTypeRaw : UInt32
  nodeType : CharArray nodeTypeSelectorCapacity
  nbId : UInt64
  cuDuIdPresent : Bool
  cuDuId : UInt64
  nodeId : CharArray nodeSelectorCapacity

def zeroSelectedNode : SelectedNode :=
  ⟨0, 0, Vector.replicate _ 0, 0, false, 0, Vector.replicate _ 0⟩

/-- What the loop over the nodes has found so far. -/
structure SelectionState where
  matchCount : ℕ
  selected : SelectedNode

section
variable (types : NgranTypes) (config : LoadedConfig) (requested : UInt32)

/-- The lines on the first match. -/
def recordMatch (selected : SelectedNode) (index : ℕ) (candidate : GlobalE2NodeId)
    (canonicalId : CharArray nodeSelectorCapacity) : SelectedNode where
  sourceIndex := index
  nodeTypeRaw := candidate.type
  nodeType := selected.nodeType.store ((types.name candidate.type).getD (bytes "unknown"))
  nbId := candidate.nbId
  cuDuIdPresent := selected.cuDuIdPresent || candidate.cuDuId.isSome
  cuDuId := candidate.cuDuId.getD selected.cuDuId
  nodeId := selected.nodeId.store canonicalId.cString

/-- One pass of the loop. -/
def selectStep (found : SelectionState) (entry : GlobalE2NodeId × ℕ) : Except String SelectionState :=
  let candidate := entry.1
  if candidate.type ≠ requested then .ok found
  else
    let canonicalId := formatNodeId candidate (Vector.replicate nodeSelectorCapacity 0)
    if !canonicalId.2 then .error "node identifier formatting failed"
    else if config.nodeId[0] ≠ 0 ∧ config.nodeId.cString ≠ canonicalId.1.cString then .ok found
    else .ok {
      matchCount := found.matchCount + 1
      selected :=
        if found.matchCount = 0 then recordMatch types found.selected entry.2 candidate canonicalId.1
        else found.selected }

def selectAmong (nodes : List GlobalE2NodeId) : Except String SelectedNode := do
  let found ← nodes.zipIdx.foldlM (selectStep types config requested) ⟨0, zeroSelectedNode⟩
  if found.matchCount = 0 then .error "no E2 node matched selector"
  else if found.matchCount > 1 then .error "E2 node selector is ambiguous"
  else .ok found.selected

/-- `tcd_kpm_select_flexric_node`: the counter of the discovered nodes, and the selected one. -/
def selectFlexricNode (nodes : List GlobalE2NodeId) (nodesDiscovered : UInt64) :
    UInt64 × Except String SelectedNode :=
  if !config.requireExactlyOneMatch then (nodesDiscovered, .error "ambiguous selection is forbidden")
  else match nodeTypeFromString types config.nodeType.cString with
    | none => (nodesDiscovered, .error "unsupported node type selector")
    | some requested => (UInt64.ofNat nodes.length, selectAmong types config requested nodes)

end

/-! ### What the selector asks for -/

section
variable (types : NgranTypes) (config : LoadedConfig)

/-- The node is of the requested type and, where an identifier is set, has this identifier. -/
def Wanted (node : GlobalE2NodeId) : Prop :=
  nodeTypeFromString types config.nodeType.cString = some node.type ∧
    (config.nodeId.cString = [] ∨ config.nodeId.cString = nodeIdText node)

instance decidableWanted : DecidablePred (Wanted types config) :=
  fun _ => inferInstanceAs (Decidable (_ ∧ _))

/-- The checks of the selector in their order. -/
def selectionDemands (nodes : List GlobalE2NodeId) : List (Demand String) := [
  ⟨config.requireExactlyOneMatch = true, "ambiguous selection is forbidden"⟩,
  ⟨∃ known ∈ nodeTypeMappings, sameIgnoringCase config.nodeType.cString (bytes known) = true,
    "unsupported node type selector"⟩,
  ⟨∃ node ∈ nodes, Wanted types config node, "no E2 node matched selector"⟩,
  ⟨nodes.countP (Wanted types config) ≤ 1, "E2 node selector is ambiguous"⟩]

/-- The selected node says which entry of the array it is, and what stands there. -/
structure Represents (selected : SelectedNode) (index : ℕ) (node : GlobalE2NodeId) : Prop where
  sourceIndex : selected.sourceIndex = index
  nodeTypeRaw : selected.nodeTypeRaw = node.type
  nodeType : selected.nodeType =
    zeroSelectedNode.nodeType.store ((types.name node.type).getD (bytes "unknown"))
  nbId : selected.nbId = node.nbId
  cuDuId : (if selected.cuDuIdPresent then some selected.cuDuId else none) = node.cuDuId
  nodeId : selected.nodeId.cString = nodeIdText node

end

/-! ### The text of an identifier -/

section
variable {node node' : GlobalE2NodeId}

theorem length_decimal_u64 (x : UInt64) : (decimal x.toNat).length ≤ 20 :=
  length_decimal_le (by decide) (lt_trans x.toNat_lt (by decide))

theorem length_nodeIdText (node : GlobalE2NodeId) : (nodeIdText node).length ≤ 56 := by
  have hnb := length_decimal_u64 node.nbId
  have hfront : (bytes "nb_id=").length = 6 := rfl
  have hmiddle : (bytes ";cu_du_id=").length = 10 := rfl
  unfold nodeIdText
  split
  · next cuDuId _ =>
    have hcuDu := length_decimal_u64 cuDuId
    simp only [List.length_append]
    omega
  · simp only [List.length_append]
    omega

/-- The text always fits: the selector does not fail on it. -/
theorem formatNodeId_selector (node : GlobalE2NodeId) (d : CharArray nodeSelectorCapacity) :
    (formatNodeId node d).2 = true ∧ (formatNodeId node d).1.cString = nodeIdText node := by
  have hlength : (nodeIdText node).length < nodeSelectorCapacity :=
    lt_of_le_of_lt (length_nodeIdText node) (by decide)
  refine ⟨decide_eq_true hlength, ?_⟩
  show (d.store (nodeIdText node)).cString = nodeIdText node
  rw [CharArray.cString_store d (by decide) (plainAscii_nodeIdText node).zero_notMem,
    List.take_of_length_le (by omega)]

theorem decimal_digits (n : ℕ) : ∀ b ∈ decimal n, isDigitByte b = true := by
  intro b hb
  obtain ⟨u, hu, rfl⟩ := List.mem_map.mp hb
  have hdigit := isDigit_of_mem_decimalUnits hu
  have hsame : (UInt8.ofNat u).toNat = u := by
    rw [UInt8.toNat_ofNat', Nat.mod_eq_of_lt (lt_256_of_isDigit hdigit)]
  rw [isDigitByte, hsame]
  exact hdigit

theorem byteDigitsValue_decimal (n : ℕ) : byteDigitsValue (decimal n) = n := by
  rw [byteDigitsValue, toNat_decimal, digitsValue_decimalUnits]

/-- The number in front of a text that does not go on with a digit. -/
theorem takeWhile_decimal (n : ℕ) {rest : List UInt8}
    (hrest : ∀ b ∈ rest.head?, isDigitByte b = false) :
    (decimal n ++ rest).takeWhile isDigitByte = decimal n ∧
      (decimal n ++ rest).dropWhile isDigitByte = rest := by
  rw [List.takeWhile_append_of_pos (decimal_digits n), List.dropWhile_append_of_pos (decimal_digits n)]
  cases rest with
  | nil => exact ⟨List.append_nil _, rfl⟩
  | cons b rest =>
    have hb : isDigitByte b = false := hrest b rfl
    rw [List.takeWhile_cons_of_neg (by simp [hb]), List.dropWhile_cons_of_neg (by simp [hb])]
    exact ⟨List.append_nil _, rfl⟩

/-- What follows the number of the base station in the text of an identifier. -/
def cuDuText : Option UInt64 → List UInt8
  | some cuDuId => bytes ";cu_du_id=" ++ decimal cuDuId.toNat
  | none => []

theorem nodeIdText_eq (node : GlobalE2NodeId) :
    nodeIdText node = bytes "nb_id=" ++ (decimal node.nbId.toNat ++ cuDuText node.cuDuId) := by
  unfold nodeIdText cuDuText
  cases node.cuDuId with
  | none => rw [List.append_nil]
  | some cuDuId => simp only [List.append_assoc]

theorem cuDuText_head (cuDuId : Option UInt64) : ∀ b ∈ (cuDuText cuDuId).head?, isDigitByte b = false := by
  cases cuDuId with
  | none => simp [cuDuText]
  | some cuDuId =>
    intro b hb
    obtain rfl : (59 : UInt8) = b := Option.some.inj hb
    decide

theorem decimal_toNat_inj {x y : UInt64} (h : decimal x.toNat = decimal y.toNat) : x = y := by
  rw [← UInt64.toNat_inj, ← byteDigitsValue_decimal x.toNat, h, byteDigitsValue_decimal]

theorem cuDuText_inj {x y : Option UInt64} (h : cuDuText x = cuDuText y) : x = y := by
  cases x with
  | none =>
    cases y with
    | none => rfl
    | some y => cases h
  | some x =>
    cases y with
    | none => cases h
    | some y => rw [decimal_toNat_inj (List.append_cancel_left h)]

/-- The text determines both numbers, and whether there is a second one. -/
theorem nodeIdText_inj (h : nodeIdText node = nodeIdText node') :
    node.nbId = node'.nbId ∧ node.cuDuId = node'.cuDuId := by
  rw [nodeIdText_eq, nodeIdText_eq] at h
  have hbehind := List.append_cancel_left h
  have hread := takeWhile_decimal node.nbId.toNat (cuDuText_head node.cuDuId)
  have hread' := takeWhile_decimal node'.nbId.toNat (cuDuText_head node'.cuDuId)
  rw [hbehind] at hread
  exact ⟨decimal_toNat_inj (hread.1.symm.trans hread'.1), cuDuText_inj (hread.2.symm.trans hread'.2)⟩

end

/-! ### The loop -/

section
variable {types : NgranTypes} {config : LoadedConfig} {requested : UInt32} {nodes : List GlobalE2NodeId}

/-- One pass counts the nodes that are wanted, and keeps the first. -/
theorem selectStep_eq (htype : nodeTypeFromString types config.nodeType.cString = some requested)
    (found : SelectionState) (node : GlobalE2NodeId) (index : ℕ) :
    selectStep types config requested found (node, index) = .ok (
      if Wanted types config node then
        ⟨found.matchCount + 1, if found.matchCount = 0 then recordMatch types found.selected index node
          (formatNodeId node (Vector.replicate nodeSelectorCapacity 0)).1 else found.selected⟩
      else found) := by
  obtain ⟨hfits, htext⟩ := formatNodeId_selector node (Vector.replicate nodeSelectorCapacity 0)
  have hempty := CharArray.cString_eq_nil_iff config.nodeId (by decide)
  have hwanted : Wanted types config node ↔ node.type = requested ∧
      ¬ (config.nodeId[0] ≠ 0 ∧ config.nodeId.cString ≠ nodeIdText node) := by
    rw [Wanted, htype, Option.some_inj, hempty, eq_comm, not_and_or, not_not, not_not]
  unfold selectStep
  simp only [hfits, htext, Bool.not_true, Bool.false_eq_true, if_false]
  by_cases hsame : node.type = requested
  · rw [if_neg (not_not.mpr hsame)]
    by_cases hother : config.nodeId[0] ≠ 0 ∧ config.nodeId.cString ≠ nodeIdText node
    · rw [if_pos hother, if_neg fun h => (hwanted.mp h).2 hother]
    · rw [if_neg hother, if_pos (hwanted.mpr ⟨hsame, hother⟩)]
  · rw [if_pos hsame, if_neg fun h => hsame (hwanted.mp h).1]

/-- The first wanted node among the entries, with its index. -/
def firstWanted (types : NgranTypes) (config : LoadedConfig) (entries : List (GlobalE2NodeId × ℕ)) :
    Option (GlobalE2NodeId × ℕ) :=
  entries.find? fun entry => Wanted types config entry.1

/-- The whole loop: the number of wanted nodes, and the first of them. -/
theorem foldlM_selectStep (nodes : List GlobalE2NodeId)
    (htype : nodeTypeFromString types config.nodeType.cString = some requested)
    (found : SelectionState) (k : ℕ) :
    ∃ selected, (nodes.zipIdx k).foldlM (selectStep types config requested) found =
        .ok ⟨found.matchCount + nodes.countP (Wanted types config), selected⟩ ∧
      (found.matchCount ≠ 0 → selected = found.selected) ∧
      (found.matchCount = 0 → ∀ node index,
        firstWanted types config (nodes.zipIdx k) = some (node, index) →
        selected = recordMatch types found.selected index node
          (formatNodeId node (Vector.replicate nodeSelectorCapacity 0)).1) := by
  induction nodes generalizing found k with
  | nil => exact ⟨found.selected, rfl, fun _ => rfl, fun _ _ _ h => by cases h⟩
  | cons node nodes ih =>
    rw [List.zipIdx_cons, List.foldlM_cons, selectStep_eq htype, ok_bind, List.countP_cons]
    by_cases hwanted : Wanted types config node
    · rw [if_pos hwanted, if_pos (decide_eq_true hwanted)]
      obtain ⟨selected, hfold, hkept, -⟩ := ih
        ⟨found.matchCount + 1, if found.matchCount = 0 then recordMatch types found.selected k node
          (formatNodeId node (Vector.replicate nodeSelectorCapacity 0)).1 else found.selected⟩ (k + 1)
      have hselected := hkept (Nat.succ_ne_zero _)
      refine ⟨selected, ?_, fun hne => ?_, fun hzero first index hfirst => ?_⟩
      · rw [hfold, Nat.add_assoc, Nat.add_comm 1]
      · rw [hselected]
        exact if_neg hne
      · rw [firstWanted, List.find?_cons_of_pos (by simpa using hwanted)] at hfirst
        obtain ⟨rfl, rfl⟩ := Prod.mk.inj (Option.some.inj hfirst)
        rw [hselected]
        exact if_pos hzero
    · rw [if_neg hwanted, if_neg (by simpa using hwanted), Nat.add_zero]
      obtain ⟨selected, hfold, hkept, hfirst⟩ := ih found (k + 1)
      refine ⟨selected, hfold, hkept, fun hzero first index h => hfirst hzero first index ?_⟩
      rwa [firstWanted, List.find?_cons_of_neg (by simpa using hwanted)] at h

theorem represents_recordMatch (index : ℕ) (node : GlobalE2NodeId) :
    Represents types (recordMatch types zeroSelectedNode index node
      (formatNodeId node (Vector.replicate nodeSelectorCapacity 0)).1) index node where
  sourceIndex := rfl
  nodeTypeRaw := rfl
  nodeType := rfl
  nbId := rfl
  cuDuId := by cases h : node.cuDuId <;> simp [recordMatch, zeroSelectedNode, h]
  nodeId := by
    show (zeroSelectedNode.nodeId.store _).cString = nodeIdText node
    have hlength : (nodeIdText node).length < nodeSelectorCapacity :=
      lt_of_le_of_lt (length_nodeIdText node) (by decide)
    rw [(formatNodeId_selector node _).2,
      CharArray.cString_store _ (by decide) (plainAscii_nodeIdText node).zero_notMem,
      List.take_of_length_le (by omega)]

/-- A wanted node there is stands first among the wanted ones somewhere. -/
theorem exists_firstWanted (h : ∃ node ∈ nodes, Wanted types config node) :
    ∃ node index, firstWanted types config nodes.zipIdx = some (node, index) ∧
      nodes[index]? = some node ∧ Wanted types config node := by
  obtain ⟨node, hmem, hwanted⟩ := h
  obtain ⟨index, hindex⟩ := List.mem_iff_getElem?.mp hmem
  have hentry : (node, index) ∈ nodes.zipIdx := List.mk_mem_zipIdx_iff_getElem?.mpr hindex
  have hsome : (firstWanted types config nodes.zipIdx).isSome :=
    List.find?_isSome.mpr ⟨_, hentry, by simpa using hwanted⟩
  obtain ⟨⟨first, at_⟩, hfirst⟩ := Option.isSome_iff_exists.mp hsome
  have hthere := List.mk_mem_zipIdx_iff_getElem?.mp (List.mem_of_find?_eq_some hfirst)
  exact ⟨first, at_, hfirst, hthere, by simpa using List.find?_some hfirst⟩

/-- Behind the type: the two counts, and what one match gives. -/
theorem selectAmong_spec (nodes : List GlobalE2NodeId)
    (htype : nodeTypeFromString types config.nodeType.cString = some requested) :
    Validates [⟨∃ node ∈ nodes, Wanted types config node, "no E2 node matched selector"⟩,
        ⟨nodes.countP (Wanted types config) ≤ 1, "E2 node selector is ambiguous"⟩]
      (selectAmong types config requested nodes) ∧
    ∀ selected, selectAmong types config requested nodes = .ok selected →
      ∃ index node, nodes[index]? = some node ∧ Wanted types config node ∧
        Represents types selected index node := by
  obtain ⟨found, hfold, -, hfirst⟩ :=
    foldlM_selectStep nodes htype ⟨0, zeroSelectedNode⟩ 0
  have hsome : nodes.countP (Wanted types config) ≠ 0 ↔ ∃ node ∈ nodes, Wanted types config node := by
    rw [← Nat.pos_iff_ne_zero, List.countP_pos_iff]
    simp only [decide_eq_true_eq]
  rw [selectAmong, hfold, ok_bind]
  simp only [Nat.zero_add]
  refine ⟨fun e => ?_, fun selected h => ?_⟩
  · rw [fails_cons, fails_cons, ← hsome]
    split_ifs with hzero hmany
    · simp [hzero]
    · simp [hzero, hmany]
    · simp [hzero, not_lt.mp hmany]
  · split_ifs at h with hzero hmany
    obtain rfl := Except.ok.inj h
    obtain ⟨node, index, hnode, hindex, hwanted⟩ := exists_firstWanted (hsome.mp hzero)
    refine ⟨index, node, hindex, hwanted, ?_⟩
    rw [hfirst rfl node index hnode]
    exact represents_recordMatch index node

theorem nodeTypeFromString_isSome {name : List UInt8} : (nodeTypeFromString types name).isSome ↔
    ∃ known ∈ nodeTypeMappings, sameIgnoringCase name (bytes known) = true := by
  rw [nodeTypeFromString, Option.isSome_map, List.find?_isSome]

theorem selectFlexricNode_forbidden {counter : UInt64} (hone : config.requireExactlyOneMatch = false) :
    selectFlexricNode types config nodes counter =
      (counter, .error "ambiguous selection is forbidden") := by
  rw [selectFlexricNode, hone]
  rfl

theorem selectFlexricNode_unsupported {counter : UInt64} (hone : config.requireExactlyOneMatch = true)
    (htype : nodeTypeFromString types config.nodeType.cString = none) :
    selectFlexricNode types config nodes counter =
      (counter, .error "unsupported node type selector") := by
  rw [selectFlexricNode, hone, htype]
  rfl

theorem selectFlexricNode_typed {counter : UInt64} (hone : config.requireExactlyOneMatch = true)
    (htype : nodeTypeFromString types config.nodeType.cString = some requested) :
    selectFlexricNode types config nodes counter =
      (UInt64.ofNat nodes.length, selectAmong types config requested nodes) := by
  rw [selectFlexricNode, hone, htype]
  rfl

theorem countP_le_one_iff {α : Type} {p : α → Bool} {l : List α} :
    l.countP p ≤ 1 ↔ l.Pairwise fun a b => ¬ (p a = true ∧ p b = true) := by
  induction l with
  | nil => simp
  | cons x xs ih =>
    rw [List.pairwise_cons, ← ih, List.countP_cons]
    by_cases hx : p x = true
    · have hnone : xs.countP p = 0 ↔ ∀ a ∈ xs, ¬ p a = true := List.countP_eq_zero
      simp only [hx, if_true, true_and, ← hnone]
      omega
    · simp [hx]

/-- Where at most one entry has a property, its place is determined. -/
theorem index_unique {α : Type} {p : α → Bool} {l : List α} (h : l.countP p ≤ 1) {i j : ℕ} {a b : α}
    (hi : l[i]? = some a) (ha : p a = true) (hj : l[j]? = some b) (hb : p b = true) : i = j := by
  have hpairs := List.pairwise_iff_getElem.mp (countP_le_one_iff.mp h)
  obtain ⟨hilt, rfl⟩ := List.getElem?_eq_some_iff.mp hi
  obtain ⟨hjlt, rfl⟩ := List.getElem?_eq_some_iff.mp hj
  rcases lt_trichotomy i j with hlt | rfl | hlt
  · exact absurd ⟨ha, hb⟩ (hpairs i j hilt hjlt hlt)
  · rfl
  · exact absurd ⟨hb, ha⟩ (hpairs j i hjlt hilt hlt)

/-- The selector takes the discovered nodes exactly when one of them, and only one, is of the type
and of the identifier that the configuration names; it returns this node, and otherwise the error of
the first demand that does not hold. The discovered nodes are counted as soon as the type is known. -/
theorem node_selection_exact (types : NgranTypes) (config : LoadedConfig)
    (nodes : List GlobalE2NodeId) (counter : UInt64) :
    Validates (selectionDemands types config nodes) (selectFlexricNode types config nodes counter).2 ∧
    (∀ selected, (selectFlexricNode types config nodes counter).2 = .ok selected →
      ∃ index node, nodes[index]? = some node ∧ Wanted types config node ∧
        Represents types selected index node ∧
        ∀ index' node', nodes[index']? = some node' → Wanted types config node' → index' = index) ∧
    (selectFlexricNode types config nodes counter).1 =
      if config.requireExactlyOneMatch ∧ (nodeTypeFromString types config.nodeType.cString).isSome
      then UInt64.ofNat nodes.length else counter := by
  cases hone : config.requireExactlyOneMatch with
  | false =>
    rw [selectFlexricNode_forbidden hone]
    refine ⟨fun e => ?_, fun _ h => (by cases h), by simp⟩
    rw [selectionDemands, fails_cons, hone]
    simp
  | true =>
    cases htype : nodeTypeFromString types config.nodeType.cString with
    | none =>
      have hnone := nodeTypeFromString_isSome.not.mp (Option.not_isSome_iff_eq_none.mpr htype)
      rw [selectFlexricNode_unsupported hone htype]
      refine ⟨fun e => ?_, fun _ h => (by cases h), by simp⟩
      rw [selectionDemands, fails_cons, fails_cons, hone]
      simp [hnone]
    | some requested =>
      have hsome := nodeTypeFromString_isSome.mp (Option.isSome_iff_exists.mpr ⟨requested, htype⟩)
      obtain ⟨hvalid, hok⟩ := selectAmong_spec nodes htype
      rw [selectFlexricNode_typed hone htype]
      refine ⟨fun e => ?_, fun selected h => ?_, by simp⟩
      · rw [selectionDemands, fails_cons, fails_cons, ← hvalid e, hone]
        simp [hsome]
      · obtain ⟨index, node, hindex, hwanted, hrep⟩ := hok selected h
        have hcount := hvalid.of_ok h _ (List.mem_cons_of_mem _ (List.mem_singleton_self _))
        exact ⟨index, node, hindex, hwanted, hrep, fun index' node' hindex' hwanted' =>
          index_unique hcount hindex' (decide_eq_true hwanted') hindex (decide_eq_true hwanted)⟩

/-! ### Naming one node -/

/-- Two wanted nodes are the same where the configuration sets an identifier. -/
theorem Wanted.unique {node node' : GlobalE2NodeId} (hset : config.nodeId.cString ≠ [])
    (h : Wanted types config node) (h' : Wanted types config node') : node = node' := by
  obtain ⟨hnb, hcuDu⟩ := nodeIdText_inj
    ((h.2.resolve_left hset).symm.trans (h'.2.resolve_left hset))
  have htype := Option.some.inj (h.1.symm.trans h'.1)
  cases node
  cases node'
  simp_all

/-- Every node of an array of distinct ones can be named: with its type, in any letter case, and
with the text of its identifier in the environment, the collector selects it and no other. -/
theorem nodes_addressable {types : NgranTypes} {env : Environment} {c : LoadedConfig}
    {nodes : List GlobalE2NodeId} {index : ℕ} {node : GlobalE2NodeId} {name : List UInt8}
    (hload : loadEnvironment env configDefaults = .ok c)
    (hname : env.getenv "TCD_KPM_NODE_TYPE" = some name)
    (htype : nodeTypeFromString types name = some node.type)
    (hid : env.getenv "TCD_KPM_NODE_ID" = some (nodeIdText node))
    (hdistinct : nodes.Nodup) (hnode : nodes[index]? = some node) (counter : UInt64) :
    ∃ selected, selectFlexricNode types c nodes counter = (UInt64.ofNat nodes.length, .ok selected) ∧
      Represents types selected index node := by
  have hd := described_of_load hload
  have hctype : nodeTypeFromString types c.nodeType.cString = some node.type := by
    rw [hd.nodeType, hname]
    exact htype
  have hcid : c.nodeId.cString = nodeIdText node := by
    rw [hd.nodeId, hid]
    rfl
  have hset : c.nodeId.cString ≠ [] := by
    rw [hcid, nodeIdText_eq]
    exact List.append_ne_nil_of_left_ne_nil (by decide) _
  have hwanted : Wanted types c node := ⟨hctype, .inr hcid⟩
  have hcount : nodes.countP (Wanted types c) ≤ 1 :=
    countP_le_one_iff.mpr (hdistinct.imp fun hne hboth =>
      hne (Wanted.unique hset (of_decide_eq_true hboth.1) (of_decide_eq_true hboth.2)))
  obtain ⟨hvalid, hok⟩ := selectAmong_spec nodes hctype
  obtain ⟨selected, hselected⟩ := hvalid.ok_iff.mpr (List.forall_mem_cons.mpr
    ⟨⟨node, List.mem_of_getElem? hnode, hwanted⟩, List.forall_mem_singleton.mpr hcount⟩)
  obtain ⟨index', node', hindex', hwanted', hrep⟩ := hok selected hselected
  obtain rfl : index' = index :=
    index_unique hcount hindex' (decide_eq_true hwanted') hnode (decide_eq_true hwanted)
  obtain rfl : node' = node := Option.some.inj (hindex'.symm.trans hnode)
  exact ⟨selected, by rw [selectFlexricNode_typed hd.requireExactlyOneMatch hctype, hselected], hrep⟩

end

def sampleTypes : NgranTypes := ⟨fun name => UInt32.ofNat (nodeTypeMappings.idxOf name), fun _ => none⟩

def sampleNodes : List GlobalE2NodeId := [⟨7, 2, some 6⟩, ⟨7, 2, some 7⟩]

def namingEnvironment : Environment where
  getenv name :=
    if name = "TCD_KPM_NODE_TYPE" then some (bytes "GNB_du")
    else if name = "TCD_KPM_NODE_ID" then some (bytes "nb_id=2;cu_du_id=7") else none
  noNul h := by
    split_ifs at h
    all_goals
      obtain rfl := Option.some.inj h
      decide

theorem nodes_addressable_sample : ∃ c selected,
    loadEnvironment namingEnvironment configDefaults = .ok c ∧
    selectFlexricNode sampleTypes c sampleNodes 0 = (2, .ok selected) ∧
    Represents sampleTypes selected 1 ⟨7, 2, some 7⟩ := by
  have hloads : (loadEnvironment namingEnvironment configDefaults).toBool = true := by
    decide +kernel
  obtain ⟨c, hload⟩ := exists_ok hloads
  obtain ⟨selected, hselected, hrep⟩ := @nodes_addressable sampleTypes namingEnvironment c
    sampleNodes 1 ⟨7, 2, some 7⟩ (bytes "GNB_du") hload rfl (by decide +kernel) (by decide +kernel)
    (by simp [sampleNodes]) rfl 0
  exact ⟨c, selected, hload, hselected, hrep⟩

end TcdOran.Collector
