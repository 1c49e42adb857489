import TcdOran.Harness.RuntimeProfile

/-! A profile that the materializer writes, as the production binding builder takes it. -/
namespace TcdOran.Harness.RuntimeProfile
open TcdOran.Lib Python ProductionBinding Attempt ResumePrecontrol
open Handoff hiding Command

/-! ### Texts of paths -/

/-- A text that the binding builder takes. -/
def Unbroken (text : List ℕ) : Prop := 0 ∉ text ∧ 10 ∉ text ∧ 13 ∉ text

instance (text : List ℕ) : Decidable (Unbroken text) := inferInstanceAs (Decidable (_ ∧ _ ∧ _))

theorem mem_pathText {path : AbsolutePath} {u : ℕ} (hu : u ≠ 47) :
    u ∈ pathText path ↔ ∃ name ∈ path.names, u ∈ name := by
  have hfront : u ∉ (if path.doubleSlash then [47, 47] else [47]) := by
    cases path.doubleSlash <;> simpa using hu
  rw [pathText, List.mem_append, or_iff_right hfront]
  constructor
  · intro hmem
    exact (mem_posixPath hmem).resolve_left hu
  · rintro ⟨name, hname, hmem⟩
    exact mem_posixPath_of_mem hname hmem

theorem mem_pathText_joinPath {path : AbsolutePath} {names : List (List ℕ)} {u : ℕ} (hu : u ≠ 47) :
    u ∈ pathText (joinPath path names) ↔ u ∈ pathText path ∨ ∃ name ∈ names, u ∈ name := by
  rw [mem_pathText hu, mem_pathText hu]
  simp only [joinPath, List.mem_append, or_and_right, exists_or]

theorem unbroken_joinPath {path : AbsolutePath} {names : List (List ℕ)}
    (hnames : ∀ name ∈ names, Unbroken name) :
    Unbroken (pathText (joinPath path names)) ↔ Unbroken (pathText path) := by
  have hsame {u : ℕ} (hu : u ≠ 47) (hnone : ∀ name ∈ names, u ∉ name) :
      u ∉ pathText (joinPath path names) ↔ u ∉ pathText path := by
    rw [mem_pathText_joinPath hu, not_or]
    exact and_iff_left fun ⟨name, hname, hmem⟩ => hnone name hname hmem
  rw [Unbroken, hsame (by decide) fun name hname => (hnames name hname).1,
    hsame (by decide) fun name hname => (hnames name hname).2.1,
    hsame (by decide) fun name hname => (hnames name hname).2.2, Unbroken]

/-- The text of every path that has been read is read back. -/
theorem absolutePath_text {path : AbsolutePath} (h : Parsed path) :
    absolutePath root (pathText path) = path := by
  by_cases hne : path.names = []
  · obtain ⟨doubleSlash, names⟩ := path
    obtain rfl : names = [] := hne
    cases doubleSlash <;> rfl
  · exact absolutePath_pathText h hne

theorem pathText_injective {path path' : AbsolutePath} (h : Parsed path) (h' : Parsed path')
    (htext : pathText path = pathText path') : path = path' := by
  rw [← absolutePath_text h, htext, absolutePath_text h']

/-! ### The checks of the builder on what the materializer writes -/

section
variable {host : Host} {label : List ℕ}

theorem requireString_iff {value : Json} {text : List ℕ} :
    requireString value label = .ok text ↔ value = .str text ∧ text ≠ [] ∧ Unbroken text := by
  cases value with
  | str units =>
    rw [requireString, require_bind_eq_ok]
    constructor
    · rintro ⟨hvalid, htext⟩
      cases htext
      exact ⟨rfl, hvalid⟩
    · rintro ⟨htext, hvalid⟩
      cases htext
      exact ⟨hvalid, rfl⟩
  | _ => simp [requireString]

theorem pathText_ne_nil (path : AbsolutePath) : pathText path ≠ [] := by
  intro hnil
  exact absurd (hnil ▸ head_pathText path) (by decide)

theorem requireAbsolutePath_iff {path found : AbsolutePath} (h : Parsed path) {mustExist : Bool} :
    requireAbsolutePath host (.str (pathText path)) label mustExist = .ok found ↔
      (Unbroken (pathText path) ∧ (mustExist → host.isFile path)) ∧ found = path := by
  simp only [requireAbsolutePath, bind_eq_ok, requireString_iff, require_eq_ok, Json.str.injEq]
  constructor
  · rintro ⟨_, ⟨rfl, -, hunbroken⟩, _, -, _, hfile, hfound⟩
    rw [absolutePath_text h] at hfile hfound
    cases hfound
    exact ⟨⟨hunbroken, hfile⟩, rfl⟩
  · rintro ⟨⟨hunbroken, hfile⟩, rfl⟩
    refine ⟨_, ⟨rfl, pathText_ne_nil found, hunbroken⟩, ⟨⟩, head_pathText found, ?_⟩
    rw [absolutePath_text h]
    exact ⟨⟨⟩, hfile, rfl⟩

theorem requireInt_iff {z minimum maximum n : ℤ} :
    requireInt (.num (.ofInt z)) minimum maximum label = .ok n ↔
      (minimum ≤ z ∧ z ≤ maximum) ∧ n = z := by
  rw [requireInt, require_bind_eq_ok, NumberLiteral.intValue_ofInt]
  simp only [NumberLiteral.ofInt_isInteger, true_and, pure, Except.pure, Except.ok.injEq, eq_comm]

end

/-! ### The members of a dumped dictionary -/

/-- What is read back of a dictionary. -/
def membersOf (fields : List (String × Document)) : Members :=
  (fields.mergeSort fieldOrder).map fun field => (chars field.1, field.2.json)

theorem member_membersOf {fields : List (String × Document)} (hnodup : (fields.map Prod.fst).Nodup)
    {key : String} {value : Document} (h : (key, value) ∈ fields) :
    member (membersOf fields) (chars key) = value.json := by
  obtain ⟨members, hmembers, hlookup⟩ := dictLookup_dict hnodup h
  obtain rfl : membersOf fields = members := Json.obj.inj ((dict_json fields).symm.trans hmembers)
  rw [member, hlookup, Option.getD_some]

theorem mem_keys_membersOf {fields : List (String × Document)} {key : List ℕ} :
    key ∈ (membersOf fields).map Prod.fst ↔ key ∈ (fields.map Prod.fst).map chars := by
  simp only [membersOf, List.map_map, List.mem_map, List.mem_mergeSort, Function.comp_apply]

/-- A dictionary with exactly the expected keys passes. -/
theorem requireExactKeys_membersOf {fields : List (String × Document)} {expected : List (List ℕ)}
    {label : String} (hkeys : ∀ key, key ∈ (fields.map Prod.fst).map chars ↔ key ∈ expected) :
    ProductionBinding.requireExactKeys (membersOf fields) expected label = .ok () := by
  have hmem (key : List ℕ) : key ∈ (membersOf fields).map Prod.fst ↔ key ∈ expected :=
    mem_keys_membersOf.trans (hkeys key)
  simp only [ProductionBinding.requireExactKeys, require_bind_eq_ok, require_eq_ok,
    List.filter_eq_nil_iff, decide_not, Bool.not_eq_true', decide_eq_false_iff_not, not_not,
    List.mem_dedup, hmem]
  exact ⟨fun _ h => h, fun _ h => h⟩

section
variable {κ : Type} {keys : List κ} {name : κ → String} {paths : κ → AbsolutePath}

/-- A path is read back under its key. -/
theorem member_paths (hnodup : (keys.map name).Nodup) {key : κ} (h : key ∈ keys) :
    member (membersOf (keys.map fun key => (name key, pathField (paths key)))) (chars (name key)) =
      .str (pathText (paths key)) := by
  have hkeys : (keys.map fun key => (name key, pathField (paths key))).map Prod.fst =
      keys.map name := by
    rw [List.map_map]
    rfl
  have hmem : (name key, pathField (paths key)) ∈
      keys.map fun key => (name key, pathField (paths key)) := List.mem_map_of_mem h
  rw [member_membersOf (hkeys ▸ hnodup) hmem]
  rfl

theorem exactKeys_paths {label : String} :
    ProductionBinding.requireExactKeys
      (membersOf (keys.map fun key => (name key, pathField (paths key))))
      (keys.map fun key => chars (name key)) label = .ok () := by
  apply requireExactKeys_membersOf
  intro key
  rw [List.map_map, List.map_map]
  exact Iff.rfl

end

section
variable (p : Prepared) (receiver : List ℕ)

def profileMembers : Members := membersOf (profileFields p receiver)

theorem keys_profileFields : (profileFields p receiver).map Prod.fst =
    ["schema", "experiment_id", "run_id", "run_directory", "receiver_container_name",
      "actuator_fifo_path", "ratio_binding_paths", "python_executable", "tool_paths", "data_paths",
      "traffic_duration_s", "max_age_ms", "trigger_token", "control_authorization_token",
      "stable_ms", "snapshot_timeout_ms", "timeline_readiness_timeout_ms",
      "timeline_readiness_poll_ms", "incremental_timeline_command_json"] := rfl

theorem member_profile {key : String} {value : Document} (h : (key, value) ∈ profileFields p receiver) :
    member (profileMembers p receiver) (chars key) = value.json :=
  member_membersOf (by rw [keys_profileFields]; decide) h

theorem exactKeys_profile :
    ProductionBinding.requireExactKeys (profileMembers p receiver) profileKeys "PROFILE" = .ok () := by
  apply requireExactKeys_membersOf
  intro key
  refine List.Perm.mem_iff (List.Perm.map chars ?_)
  rw [keys_profileFields]
  decide

theorem chars_toolKey (tool : ToolName) : chars (toolKey tool) = tool.key := by
  cases tool <;> rfl

theorem chars_dataKey (data : DataName) : chars (dataKey data) = data.key := by
  cases data <;> rfl

theorem mem_tools (tool : ToolName) : tool ∈ ToolName.all := by
  cases tool <;> decide

theorem mem_data (data : DataName) : data ∈ DataName.all := by
  cases data <;> decide

theorem member_tool (tool : ToolName) : member (membersOf (toolFields p)) tool.key =
    .str (pathText (p.frozen.tools tool)) := by
  rw [← chars_toolKey]
  exact member_paths (by decide) (mem_tools tool)

theorem member_data (data : DataName) : member (membersOf (dataFields p)) data.key =
    .str (pathText (p.data data)) := by
  rw [← chars_dataKey]
  exact member_paths (by decide) (mem_data data)

theorem exactKeys_tools : ProductionBinding.requireExactKeys (membersOf (toolFields p))
    (ToolName.all.map ToolName.key) "TOOL_PATHS" = .ok () := by
  rw [← funext chars_toolKey]
  exact exactKeys_paths

theorem exactKeys_data : ProductionBinding.requireExactKeys (membersOf (dataFields p))
    (DataName.all.map DataName.key) "DATA_PATHS" = .ok () := by
  rw [← funext chars_dataKey]
  exact exactKeys_paths

end

/-! ### Lists of paths -/

theorem mapM_eq_ok_map {ε α β : Type} {f : α → Except ε β} {g : α → β} {holds : α → Prop}
    {xs : List α} (h : ∀ x ∈ xs, ∀ y, f x = .ok y ↔ holds x ∧ y = g x) {ys : List β} :
    xs.mapM f = .ok ys ↔ (∀ x ∈ xs, holds x) ∧ ys = xs.map g := by
  induction xs generalizing ys with
  | nil => simp [pure, Except.pure, eq_comm]
  | cons x xs ih =>
    obtain ⟨hx, hxs⟩ := List.forall_mem_cons.mp h
    simp only [List.mapM_cons, bind_eq_ok, hx, ih hxs, List.forall_mem_cons, List.map_cons]
    constructor
    · rintro ⟨_, ⟨hfirst, rfl⟩, _, ⟨hrest, rfl⟩, hys⟩
      cases hys
      exact ⟨⟨hfirst, hrest⟩, rfl⟩
    · rintro ⟨⟨hfirst, hrest⟩, rfl⟩
      exact ⟨_, ⟨hfirst, rfl⟩, _, ⟨hrest, rfl⟩, rfl⟩

theorem entry_of_forall₂ {κ : Type} [DecidableEq κ] {R : κ → AbsolutePath → Prop} {keys : List κ}
    {paths : List AbsolutePath} (h : List.Forall₂ R keys paths) {key : κ} (hmem : key ∈ keys) :
    R key (entry keys paths key) := by
  induction h with
  | nil => cases hmem
  | @cons first path keys paths hfirst _ ih =>
    by_cases heq : key = first
    · subst heq
      simpa [entry] using hfirst
    · have hrest := ih ((List.mem_cons.mp hmem).resolve_left heq)
      have hbeq : (key == first) = false := beq_false_of_ne heq
      rw [entry] at hrest ⊢
      rw [List.zip_cons_cons, List.lookup_cons, hbeq]
      exact hrest

theorem entry_map {κ : Type} [DecidableEq κ] {keys : List κ} (paths : κ → AbsolutePath) {key : κ}
    (h : key ∈ keys) : entry keys (keys.map paths) key = paths key := by
  have hall : List.Forall₂ (fun key path => path = paths key) keys (keys.map paths) :=
    List.forall₂_map_right_iff.mpr (List.forall₂_same.mpr fun _ _ => rfl)
  exact entry_of_forall₂ hall h

section
variable {host : Host} {path : ℕ → AbsolutePath}

/-- Six paths, as they are read back. -/
def sixPaths (path : ℕ → AbsolutePath) : Json := .arr (indices.map fun index => .str (pathText (path index)))

theorem json_paths (path : ℕ → AbsolutePath) :
    (Document.list (indices.map fun index => pathField (path index))).json = sixPaths path := by
  rw [Document.json, itemValues_eq, List.map_map]
  rfl

theorem zipIdx_indices {α : Type} (f : ℕ → α) :
    (indices.map f).zipIdx 1 = indices.map fun index => (f index, index) := rfl

theorem timelinePaths_iff (hparsed : ∀ index ∈ indices, Parsed (path index))
    (hnodup : (indices.map path).Nodup) {paths : List AbsolutePath} :
    timelinePaths host (sixPaths path) = .ok paths ↔
      (∀ index ∈ indices, Unbroken (pathText (path index)) ∧ host.isFile (path index)) ∧
        paths = indices.map path := by
  have hread : ∀ item ∈ (indices.map fun index => Json.str (pathText (path index))).zipIdx 1,
      ∀ found, requireAbsolutePath host item.1
        (chars "INCREMENTAL_TIMELINE_COMMAND_JSON_" ++ decimalUnits item.2) true = .ok found ↔
          (Unbroken (pathText (path item.2)) ∧ host.isFile (path item.2)) ∧ found = path item.2 := by
    rw [zipIdx_indices, List.forall_mem_map]
    intro index hindex found
    rw [requireAbsolutePath_iff (hparsed index hindex)]
    simp only [forall_const]
  have hsix : requireSix (sixPaths path) (chars "INCREMENTAL_TIMELINE_COMMAND_JSON_COUNT_INVALID") =
      .ok (indices.map fun index => Json.str (pathText (path index))) := rfl
  have hpaths : ((indices.map fun index => Json.str (pathText (path index))).zipIdx 1).map
      (fun item => path item.2) = indices.map path := by
    rw [zipIdx_indices, List.map_map]
    rfl
  rw [timelinePaths, hsix, ok_bind]
  simp only [bind_eq_ok, mapM_eq_ok_map hread, require_eq_ok, hpaths]
  rw [zipIdx_indices, List.forall_mem_map]
  constructor
  · rintro ⟨_, ⟨hall, rfl⟩, _, -, hfound⟩
    cases hfound
    exact ⟨hall, rfl⟩
  · rintro ⟨hall, rfl⟩
    exact ⟨_, ⟨hall, rfl⟩, ⟨⟩, hnodup, rfl⟩

end

/-! ### Paths below the run directory -/

/-- A character of an identity. -/
def IdentityUnit (u : ℕ) : Prop := unicodeDigit u = true ∨ u ∈ chars "EXP-DLKRUNTZ"

instance (u : ℕ) : Decidable (IdentityUnit u) := inferInstanceAs (Decidable (_ ∨ _))

theorem identityUnits_experimentId {text : List ℕ}
    (h : ExperimentIdentity.experimentRule unicodeDigit isDigit text = true) :
    text.head? = some 69 ∧ ∀ u ∈ text, IdentityUnit u := by
  obtain ⟨date, a, b, rfl, -, hdate, hpair⟩ := ExperimentIdentity.experimentRule_iff.mp h
  have hliteral : ∀ u ∈ chars "EXP-" ++ chars "-DL-18000K-R", IdentityUnit u := by decide
  have hdigits : IdentityUnit a ∧ IdentityUnit b := by
    rcases hpair with ⟨rfl, hb⟩ | ⟨ha, hb⟩
    · exact ⟨.inl (by decide), .inl (ExperimentIdentity.unicodeDigit_of_isDigit
        (ExperimentIdentity.isDigit_of_nonzeroDigit hb))⟩
    · exact ⟨.inl (ExperimentIdentity.unicodeDigit_of_isDigit
        (ExperimentIdentity.isDigit_of_nonzeroDigit ha)),
        .inl (ExperimentIdentity.unicodeDigit_of_isDigit hb)⟩
  refine ⟨rfl, ?_⟩
  rw [List.forall_mem_append] at hliteral
  simp only [ExperimentIdentity.experimentText, List.forall_mem_append, List.forall_mem_cons]
  exact ⟨⟨⟨hliteral.1, fun u hu => .inl (hdate u hu)⟩, hliteral.2⟩, hdigits.1, hdigits.2, by simp⟩

theorem identityUnits_runId {text : List ℕ}
    (h : ExperimentIdentity.runRule unicodeDigit text = true) :
    text.head? = some 82 ∧ ∀ u ∈ text, IdentityUnit u := by
  obtain ⟨date, time, number, rfl, -, -, -, hdigits⟩ := ExperimentIdentity.runRule_iff.mp h
  have hliteral : ∀ u ∈ chars "RUN-" ++ chars "T" ++ chars "Z-", IdentityUnit u := by decide
  simp only [List.forall_mem_append] at hliteral hdigits ⊢
  exact ⟨rfl, ⟨⟨⟨⟨hliteral.1.1, fun u hu => .inl (hdigits.1.1 u hu)⟩, hliteral.1.2⟩,
    fun u hu => .inl (hdigits.1.2 u hu)⟩, hliteral.2⟩, fun u hu => .inl (hdigits.2 u hu)⟩

section
variable {text : List ℕ} (h : ∀ u ∈ text, IdentityUnit u)
include h

theorem unbroken_identity : Unbroken text :=
  ⟨fun hmem => absurd (h 0 hmem) (by decide), fun hmem => absurd (h 10 hmem) (by decide),
    fun hmem => absurd (h 13 hmem) (by decide)⟩

theorem kept_identity {u : ℕ} (hhead : text.head? = some u) (hu : u ≠ 46) : Kept text := by
  refine ⟨fun hnil => ?_, fun hdot => ?_, fun hmem => absurd (h 47 hmem) (by decide)⟩
  · rw [hnil] at hhead
    cases hhead
  · rw [hdot] at hhead
    exact hu (Option.some.inj hhead).symm

end

/-! ### What the materializer has checked -/

/-- A file that the materializer has seen. -/
structure SeenFile (w : Surroundings) (path : AbsolutePath) : Prop where
  parsed : Parsed path
  isFile : w.isFile path = true
  clean : Clean path

/-- What is known of what is prepared. -/
structure Prepared.Checked (w : Surroundings) (p : Prepared) : Prop where
  experimentId : ExperimentIdentity.experimentRule unicodeDigit isDigit p.experimentId = true
  runId : ExperimentIdentity.runRule unicodeDigit p.runId = true
  tools : ∀ tool, SeenFile w (p.frozen.tools tool)
  python : SeenFile w p.python
  fifo : Parsed p.fifo
  evidenceRoot : Parsed p.evidenceRoot
  triggerToken : p.frozen.triggerToken ≠ []
  trafficDurationS : 1 ≤ p.frozen.trafficDurationS
  maxAgeMs : 1 ≤ p.maxAgeMs
  stableMs : 0 ≤ p.frozen.stableMs
  snapshotTimeoutMs : 1 ≤ p.frozen.snapshotTimeoutMs
  timelineReadinessTimeoutMs : 1 ≤ p.frozen.timelineReadinessTimeoutMs
  timelineReadinessPollMs : 1 ≤ p.frozen.timelineReadinessPollMs

section
variable {w : Surroundings} {label : List ℕ} {value : Json}

theorem atLeast_eq_ok {minimum z : ℤ} (h : atLeast minimum value label = .ok z) : minimum ≤ z := by
  cases value with
  | num literal =>
    rw [atLeast, require_bind_eq_ok] at h
    obtain ⟨hvalid, hz⟩ := h
    cases hz
    exact hvalid.2
  | _ => cases h

theorem nonemptyText_eq_ok {text found : List ℕ} (h : nonemptyText text label = .ok found) :
    found = text ∧ text ≠ [] ∧ 0 ∉ text := by
  rw [nonemptyText, require_bind_eq_ok] at h
  obtain ⟨hvalid, hfound⟩ := h
  cases hfound
  exact ⟨rfl, hvalid⟩

theorem nonemptyString_eq_ok {text : List ℕ} (h : nonemptyString value label = .ok text) :
    text ≠ [] ∧ 0 ∉ text := by
  cases value with
  | str units =>
    obtain ⟨rfl, hvalid⟩ := nonemptyText_eq_ok h
    exact hvalid
  | _ => cases h

theorem absoluteFile_eq_ok {executable : Bool} {path : AbsolutePath}
    (h : absoluteFile w value label executable = .ok path) : SeenFile w path := by
  simp only [absoluteFile, bind_eq_ok, require_eq_ok] at h
  obtain ⟨text, htext, _, hfile, _, -, hpath⟩ := h
  cases hpath
  exact ⟨parsed_absolutePath hfile.1, hfile.2,
    clean_absolutePath (nonemptyString_eq_ok htext).2 hfile.1⟩

theorem validateFrozen_eq_ok {path : AbsolutePath} {frozen : Frozen}
    (h : validateFrozen w path = .ok frozen) :
    (∀ tool, SeenFile w (frozen.tools tool)) ∧ frozen.triggerToken ≠ [] ∧
      1 ≤ frozen.trafficDurationS ∧ 0 ≤ frozen.stableMs ∧ 1 ≤ frozen.snapshotTimeoutMs ∧
      1 ≤ frozen.timelineReadinessTimeoutMs ∧ 1 ≤ frozen.timelineReadinessPollMs := by
  simp only [validateFrozen, bind_eq_ok] at h
  obtain ⟨members, -, _, -, legacyPython, -, _, -, toolMembers, -, _, -, h⟩ := h
  obtain ⟨toolList, htools, duration, hduration, token, htoken, stable, hstable, h⟩ := h
  obtain ⟨snapshot, hsnapshot, poll, hpoll, timeout, htimeout, h⟩ := h
  cases h
  refine ⟨fun tool => ?_, (nonemptyString_eq_ok htoken).1, atLeast_eq_ok hduration,
    atLeast_eq_ok hstable, atLeast_eq_ok hsnapshot, atLeast_eq_ok htimeout, atLeast_eq_ok hpoll⟩
  exact absoluteFile_eq_ok (entry_of_forall₂ (forall₂_of_mapM_ok htools) (mem_tools tool))

theorem validatePortableRuntimeAdmission_eq_ok {path python : AbsolutePath}
    (h : validatePortableRuntimeAdmission w path = .ok python) : SeenFile w python := by
  simp only [validatePortableRuntimeAdmission, bind_eq_ok] at h
  obtain ⟨members, -, _, -, _, -, host, -, _, -, found, hpython, h⟩ := h
  obtain ⟨_, -, _, -, _, -, _, -, _, -, h⟩ := h
  cases h
  exact absoluteFile_eq_ok hpython

theorem validateFifo_eq_ok {value : List ℕ} {path : AbsolutePath}
    (h : validateFifo w value = .ok path) : Parsed path := by
  simp only [validateFifo, bind_eq_ok, require_eq_ok] at h
  obtain ⟨text, -, _, hslash, _, -, _, -, h⟩ := h
  cases h
  exact parsed_absolutePath hslash

theorem validated_eq_ok {answer : Except (List ℕ) Unit} (h : validated answer = .ok ()) :
    answer = .ok () := by
  cases answer with
  | ok => rfl
  | error reason => cases h

theorem prepare_checked {args : Args} {p : Prepared} (h : prepare w args = .ok p) : p.Checked w := by
  simp only [prepare, bind_eq_ok, require_eq_ok] at h
  obtain ⟨_, hidentity, _, -, frozen, hfrozen, _, -, python, hpython, fifo, hfifo, h⟩ := h
  obtain ⟨_, hmaxAge, _, hroot, _, -, h⟩ := h
  cases h
  have hidentity := validated_eq_ok hidentity
  rw [ExperimentIdentity.validateIdentity, require_bind_eq_ok, require_bind_eq_ok] at hidentity
  obtain ⟨htools, htoken, hduration, hstable, hsnapshot, htimeout, hpoll⟩ :=
    validateFrozen_eq_ok hfrozen
  exact {
    experimentId := hidentity.1
    runId := hidentity.2.1
    tools := htools
    python := validatePortableRuntimeAdmission_eq_ok hpython
    fifo := validateFifo_eq_ok hfifo
    evidenceRoot := parsed_absolutePath hroot.1
    triggerToken := htoken
    trafficDurationS := hduration
    maxAgeMs := hmaxAge
    stableMs := hstable
    snapshotTimeoutMs := hsnapshot
    timelineReadinessTimeoutMs := htimeout
    timelineReadinessPollMs := hpoll }

end

/-! ### The builder takes the profile -/

/-- The profile as the builder has it. -/
def Prepared.profile (p : Prepared) (receiver : List ℕ) : Profile where
  python := p.python
  experimentId := p.experimentId
  runId := p.runId
  runDirectory := p.runDirectory
  receiver := receiver
  trafficDurationS := p.frozen.trafficDurationS
  fifo := p.fifo
  authorization := controlAuthorizationTokenPlaceholder
  triggerToken := p.frozen.triggerToken
  maxAgeMs := p.maxAgeMs
  stableMs := p.frozen.stableMs
  snapshotTimeoutMs := p.frozen.snapshotTimeoutMs
  timelineReadinessTimeoutMs := p.frozen.timelineReadinessTimeoutMs
  timelineReadinessPollMs := p.frozen.timelineReadinessPollMs
  tools := p.frozen.tools
  data := p.data
  timelineJson := indices.map p.timelinePath
  ratioBindingPaths := indices.map p.ratioBindingPath

/-- The paths that come from outside. -/
def Prepared.givenPaths (p : Prepared) : List AbsolutePath :=
  [p.python, p.fifo, p.evidenceRoot] ++ ToolName.all.map p.frozen.tools

/-- What the builder asks beyond the checks of the materializer. -/
structure Fits (host : Host) (p : Prepared) : Prop where
  paths : ∀ path ∈ p.givenPaths, Unbroken (pathText path)
  triggerToken : Unbroken p.frozen.triggerToken
  trafficAdapter : host.isExecutable (p.frozen.tools .trafficAdapter) = true
  receiverPipeline : host.isExecutable (p.frozen.tools .receiverPipeline) = true
  trafficDurationS : 141 ≤ p.frozen.trafficDurationS ∧ p.frozen.trafficDurationS ≤ 180
  maxAgeMs : p.maxAgeMs ≤ 10000
  stableMs : p.frozen.stableMs ≤ 5000
  snapshotTimeoutMs : p.frozen.snapshotTimeoutMs ≤ 60000
  timelineReadinessTimeoutMs : p.frozen.timelineReadinessTimeoutMs ≤ 60000
  timelineReadinessPollMs : p.frozen.timelineReadinessPollMs ≤ 5000

/-- The files are there when the builder looks. -/
structure Present (host : Host) (p : Prepared) : Prop where
  python : host.isFile p.python = true
  tools : ∀ tool, host.isFile (p.frozen.tools tool) = true
  timelines : ∀ index ∈ indices, host.isFile (p.timelinePath index) = true

section
variable {w : Surroundings} {p : Prepared} (h : p.Checked w)
include h

theorem kept_names : ∀ name ∈ [p.experimentId, p.runId], Kept name := by
  obtain ⟨hexperiment, hexperimentUnits⟩ := identityUnits_experimentId h.experimentId
  obtain ⟨hrun, hrunUnits⟩ := identityUnits_runId h.runId
  simp only [List.forall_mem_cons]
  exact ⟨kept_identity hexperimentUnits hexperiment (by decide),
    kept_identity hrunUnits hrun (by decide), by simp⟩

theorem parsed_runDirectory : Parsed p.runDirectory := parsed_joinPath h.evidenceRoot (kept_names h)

theorem unbroken_runDirectory : Unbroken (pathText p.runDirectory) ↔ Unbroken (pathText p.evidenceRoot) := by
  apply unbroken_joinPath
  simp only [List.forall_mem_cons]
  exact ⟨unbroken_identity (identityUnits_experimentId h.experimentId).2,
    unbroken_identity (identityUnits_runId h.runId).2, by simp⟩

theorem parsed_below {names : List String} (hnames : ∀ name ∈ names.map chars, Kept name) :
    Parsed (p.below names) := parsed_joinPath (parsed_runDirectory h) hnames

theorem unbroken_below {names : List String} (hnames : ∀ name ∈ names.map chars, Unbroken name) :
    Unbroken (pathText (p.below names)) ↔ Unbroken (pathText p.evidenceRoot) :=
  (unbroken_joinPath hnames).trans (unbroken_runDirectory h)

theorem parsed_data (data : DataName) : Parsed (p.data data) := by
  cases data <;> exact parsed_below h (by decide)

theorem unbroken_data (data : DataName) :
    Unbroken (pathText (p.data data)) ↔ Unbroken (pathText p.evidenceRoot) := by
  cases data <;> exact unbroken_below h (by decide)

theorem parsed_timelinePath {index : ℕ} (hindex : index ∈ indices) : Parsed (p.timelinePath index) := by
  have hname : ∀ index ∈ indices,
      Kept (ProductionBinding.transitionLabel index ++ chars "-timeline-command.json") := by
    decide
  have hbelow : Parsed (p.below ["runtime", "incremental-timeline"]) := parsed_below h (by decide)
  exact parsed_joinPath hbelow (List.forall_mem_singleton.mpr (hname index hindex))

theorem unbroken_timelinePath {index : ℕ} (hindex : index ∈ indices) :
    Unbroken (pathText (p.timelinePath index)) ↔ Unbroken (pathText p.evidenceRoot) := by
  have hname : ∀ index ∈ indices,
      Unbroken (ProductionBinding.transitionLabel index ++ chars "-timeline-command.json") := by
    decide
  rw [Prepared.timelinePath, unbroken_joinPath (List.forall_mem_singleton.mpr (hname index hindex)),
    unbroken_below h (by decide)]

theorem parsed_ratioBindingPath {index : ℕ} (hindex : index ∈ indices) :
    Parsed (p.ratioBindingPath index) := by
  have hname : ∀ index ∈ indices,
      Kept (ProductionBinding.transitionLabel index ++ chars ".binding.json") := by
    decide
  have hbelow : Parsed (p.below ["runtime", "ratio-bindings"]) := parsed_below h (by decide)
  exact parsed_joinPath hbelow (List.forall_mem_singleton.mpr (hname index hindex))

omit h in
theorem nodup_paths (path : AbsolutePath) (behind : String) :
    (indices.map fun index =>
      joinPath path [ProductionBinding.transitionLabel index ++ chars behind]).Nodup := by
  have hindices : indices.Nodup := by decide
  have hlabels : ∀ i ∈ indices, ∀ j ∈ indices,
      ProductionBinding.transitionLabel i = ProductionBinding.transitionLabel j → i = j := by
    decide
  apply hindices.map_on
  intro i hi j hj hij
  have hnames := congrArg AbsolutePath.names hij
  have hlast := List.append_cancel_left hnames
  exact hlabels i hi j hj (List.append_cancel_right (List.cons.inj hlast).1)

/-- The paths of the ratio bindings are always taken. -/
theorem validateRatioBindingPaths_sixPaths :
    validateRatioBindingPaths (sixPaths p.ratioBindingPath) p.runDirectory =
      .ok (indices.map p.ratioBindingPath) := by
  have hread : ∀ item ∈ (indices.map fun index => Json.str (pathText (p.ratioBindingPath index))).zipIdx 1,
      ∀ found, ProductionBinding.ratioBindingPath p.runDirectory item.1 item.2 = .ok found ↔
        True ∧ found = p.ratioBindingPath item.2 := by
    rw [zipIdx_indices, List.forall_mem_map]
    intro index hindex found
    have hlast : lastName (p.ratioBindingPath index).names =
        ProductionBinding.transitionLabel index ++ chars ".binding.json" := by
      simp [lastName, Prepared.ratioBindingPath, joinPath]
    have hparent : { p.ratioBindingPath index with names := (p.ratioBindingPath index).names.dropLast } =
        joinPath p.runDirectory [chars "runtime", chars "ratio-bindings"] := by
      simp [Prepared.ratioBindingPath, Prepared.below, joinPath]
    have hresult : ProductionBinding.ratioBindingPath p.runDirectory
        (.str (pathText (p.ratioBindingPath index))) index = .ok (p.ratioBindingPath index) := by
      simp only [ProductionBinding.ratioBindingPath, require_bind_eq_ok,
        absolutePath_text (parsed_ratioBindingPath h hindex), hlast, hparent]
      exact ⟨pathText_ne_nil _, head_pathText _, trivial, trivial, rfl⟩
    rw [hresult, Except.ok.injEq, true_and, eq_comm]
  have hsix : requireSix (sixPaths p.ratioBindingPath) (chars "RATIO_BINDING_PATHS_COUNT_INVALID") =
      .ok (indices.map fun index => Json.str (pathText (p.ratioBindingPath index))) := rfl
  have hpaths : ((indices.map fun index => Json.str (pathText (p.ratioBindingPath index))).zipIdx 1).map
      (fun item => p.ratioBindingPath item.2) = indices.map p.ratioBindingPath := by
    rw [zipIdx_indices, List.map_map]
    rfl
  have hnodup : ((indices.map p.ratioBindingPath).map pathText).Nodup := by
    apply (nodup_paths _ ".binding.json").map_on
    intro path hpath path' hpath'
    obtain ⟨i, hi, rfl⟩ := List.mem_map.mp hpath
    obtain ⟨j, hj, rfl⟩ := List.mem_map.mp hpath'
    exact pathText_injective (parsed_ratioBindingPath h hi) (parsed_ratioBindingPath h hj)
  rw [validateRatioBindingPaths, hsix, ok_bind,
    (mapM_eq_ok_map hread).mpr ⟨fun _ _ => trivial, rfl⟩, ok_bind, hpaths, ok_of_require hnodup]
  rfl

end

/-! ### The name of the receiver -/

theorem receiverItem_of_mem {runId receiver : List ℕ} (h : receiverName runId = .ok receiver) :
    receiver ≠ [] ∧ ∀ u ∈ receiver, receiverItem u = true := by
  simp only [receiverName, require_bind_eq_ok, List.all_eq_true] at h
  obtain ⟨⟨-, -, hitems⟩, h⟩ := h
  cases h
  exact ⟨by simp [chars], hitems⟩

theorem receiverName_eq_ok {runId receiver : List ℕ} (h : receiverName runId = .ok receiver) :
    validReceiver receiver = true ∧ receiver ≠ [] ∧ Unbroken receiver := by
  obtain ⟨hne, hall⟩ := receiverItem_of_mem h
  have hmatch : ∀ u ∈ receiver, (Pattern.upper u || Pattern.lower u || isDigit u ||
      (chars "_.-").contains u) = true := by
    intro u hu
    have hitem := hall u hu
    simp only [receiverItem, Bool.or_eq_true] at hitem ⊢
    rcases hitem with (hlower | hdigit) | hpunctuation
    · exact .inl (.inl (.inr hlower))
    · exact .inl (.inr hdigit)
    · exact .inr hpunctuation
  refine ⟨?_, hne, fun hmem => absurd (hall 0 hmem) (by decide),
    fun hmem => absurd (hall 10 hmem) (by decide), fun hmem => absurd (hall 13 hmem) (by decide)⟩
  have hwhole := matchThen_many hne hmatch (fullmatch_nil.mpr rfl)
  rwa [List.append_nil, List.append_nil] at hwhole

section
variable {w : Surroundings} {host : Host} {p : Prepared} {receiver : List ℕ}

theorem mapM_toolPath (h : p.Checked w) (hpresent : Present host p) {paths : List AbsolutePath} :
    ToolName.all.mapM (toolPath host (membersOf (toolFields p))) = .ok paths ↔
      (∀ tool ∈ ToolName.all, Unbroken (pathText (p.frozen.tools tool))) ∧
        paths = ToolName.all.map p.frozen.tools := by
  apply mapM_eq_ok_map
  intro tool _ found
  rw [toolPath, member_tool, requireAbsolutePath_iff (h.tools tool).parsed]
  simp only [forall_const, hpresent.tools tool, and_true]

theorem mapM_dataPath (h : p.Checked w) {paths : List AbsolutePath} :
    DataName.all.mapM (dataPath host (membersOf (dataFields p))) = .ok paths ↔
      (∀ data ∈ DataName.all, Unbroken (pathText (p.data data))) ∧
        paths = DataName.all.map p.data := by
  apply mapM_eq_ok_map
  intro data _ found
  rw [dataPath, member_data, requireAbsolutePath_iff (parsed_data h data)]
  simp

theorem requireExecutable_iff {tools : ToolName → AbsolutePath} {tool : ToolName} {u : Unit} :
    requireExecutable host tools tool = .ok u ↔ host.isExecutable (tools tool) = true :=
  require_eq_ok

/-- What the builder reads under the keys of the profile. -/
structure Reads (members : Members) (p : Prepared) (receiver : List ℕ) : Prop where
  schema : member members (chars "schema") = .str profileSchema
  python : member members (chars "python_executable") = .str (pathText p.python)
  experimentId : member members (chars "experiment_id") = .str p.experimentId
  runId : member members (chars "run_id") = .str p.runId
  runDirectory : member members (chars "run_directory") = .str (pathText p.runDirectory)
  receiver : member members (chars "receiver_container_name") = .str receiver
  fifo : member members (chars "actuator_fifo_path") = .str (pathText p.fifo)
  authorization : member members (chars "control_authorization_token") =
    .str controlAuthorizationTokenPlaceholder
  triggerToken : member members (chars "trigger_token") = .str p.frozen.triggerToken
  toolPaths : member members (chars "tool_paths") = .obj (membersOf (toolFields p))
  dataPaths : member members (chars "data_paths") = .obj (membersOf (dataFields p))
  timelines : member members (chars "incremental_timeline_command_json") = sixPaths p.timelinePath
  trafficDurationS : member members (chars "traffic_duration_s") =
    .num (.ofInt p.frozen.trafficDurationS)
  maxAgeMs : member members (chars "max_age_ms") = .num (.ofInt p.maxAgeMs)
  stableMs : member members (chars "stable_ms") = .num (.ofInt p.frozen.stableMs)
  snapshotTimeoutMs : member members (chars "snapshot_timeout_ms") =
    .num (.ofInt p.frozen.snapshotTimeoutMs)
  timelineReadinessTimeoutMs : member members (chars "timeline_readiness_timeout_ms") =
    .num (.ofInt p.frozen.timelineReadinessTimeoutMs)
  timelineReadinessPollMs : member members (chars "timeline_readiness_poll_ms") =
    .num (.ofInt p.frozen.timelineReadinessPollMs)
  ratioBindingPaths : member members (chars "ratio_binding_paths") = sixPaths p.ratioBindingPath

theorem reads_profile : Reads (profileMembers p receiver) p receiver := by
  have hread (i : ℕ) {key : String} {value : Document}
      (h : (profileFields p receiver)[i]? = some (key, value)) :
      member (profileMembers p receiver) (chars key) = value.json :=
    member_profile p receiver (List.mem_of_getElem? h)
  constructor
  case schema => exact (hread 0 rfl).trans rfl
  case experimentId => exact (hread 1 rfl).trans rfl
  case runId => exact (hread 2 rfl).trans rfl
  case runDirectory => exact (hread 3 rfl).trans rfl
  case receiver => exact (hread 4 rfl).trans rfl
  case fifo => exact (hread 5 rfl).trans rfl
  case ratioBindingPaths => exact (hread 6 rfl).trans (json_paths _)
  case python => exact (hread 7 rfl).trans rfl
  case toolPaths => exact (hread 8 rfl).trans (dict_json _)
  case dataPaths => exact (hread 9 rfl).trans (dict_json _)
  case trafficDurationS => exact (hread 10 rfl).trans rfl
  case maxAgeMs => exact (hread 11 rfl).trans rfl
  case triggerToken => exact (hread 12 rfl).trans rfl
  case authorization => exact (hread 13 rfl).trans rfl
  case stableMs => exact (hread 14 rfl).trans rfl
  case snapshotTimeoutMs => exact (hread 15 rfl).trans rfl
  case timelineReadinessTimeoutMs => exact (hread 16 rfl).trans rfl
  case timelineReadinessPollMs => exact (hread 17 rfl).trans rfl
  case timelines => exact (hread 18 rfl).trans (json_paths _)

theorem validateProfile_iff (h : p.Checked w) (hreceiver : receiverName p.runId = .ok receiver)
    (hpresent : Present host p) {profile : Profile} :
    validateProfile host (profileMembers p receiver) = .ok profile ↔
      Fits host p ∧ profile = { p.profile receiver with ratioBindingPaths := [] } := by
  obtain ⟨hvalid, hne, hunbroken⟩ := receiverName_eq_ok hreceiver
  have hreads : Reads (profileMembers p receiver) p receiver := reads_profile
  have htimelines {paths : List AbsolutePath} :
      timelinePaths host (sixPaths p.timelinePath) = .ok paths ↔ _ :=
    timelinePaths_iff (fun _ hindex => parsed_timelinePath h hindex)
      (nodup_paths _ "-timeline-command.json")
  simp only [validateProfile, bind_eq_ok, exactKeys_profile, hreads.schema, hreads.python,
    hreads.experimentId, hreads.runId, hreads.runDirectory, hreads.receiver, hreads.fifo,
    hreads.authorization, hreads.triggerToken, hreads.toolPaths, hreads.dataPaths, hreads.timelines,
    hreads.trafficDurationS, hreads.maxAgeMs, hreads.stableMs, hreads.snapshotTimeoutMs,
    hreads.timelineReadinessTimeoutMs, hreads.timelineReadinessPollMs, requireString_iff,
    requireAbsolutePath_iff h.python.parsed, requireAbsolutePath_iff h.fifo,
    requireAbsolutePath_iff (parsed_runDirectory h), requireInt_iff, requireObject, exactKeys_tools,
    exactKeys_data, mapM_toolPath h hpresent, mapM_dataPath h, requireExecutable_iff, require_eq_ok,
    htimelines, Json.str.injEq, Except.ok.injEq, exists_const, and_assoc, exists_and_left,
    exists_eq_left, exists_eq_left', true_and]
  have htools : entry ToolName.all (ToolName.all.map p.frozen.tools) = p.frozen.tools :=
    funext fun tool => entry_map p.frozen.tools (mem_tools tool)
  have hdata : entry DataName.all (DataName.all.map p.data) = p.data :=
    funext fun data => entry_map p.data (mem_data data)
  rw [htools, hdata]
  constructor
  · rintro ⟨-, hpython, -, -, -, -, -, -, -, hrun, -, -, -, -, hfifo, -, -, -, -, -, htoken, htoolTexts,
      htraffic, hpipeline, -, -, hlow, hhigh, -, hage, -, hstable, -, hsnapshot, -, htimeout, -, hpoll,
      hprofile⟩
    cases hprofile
    refine ⟨?_, rfl⟩
    constructor
    case paths =>
      rw [Prepared.givenPaths, List.forall_mem_append, List.forall_mem_map]
      simp only [List.forall_mem_cons]
      exact ⟨⟨hpython, hfifo, (unbroken_runDirectory h).mp hrun, by simp⟩, htoolTexts⟩
    case trafficDurationS => exact ⟨hlow, hhigh⟩
    all_goals assumption
  · rintro ⟨hfits, rfl⟩
    have hpaths := hfits.paths
    rw [Prepared.givenPaths, List.forall_mem_append, List.forall_mem_map] at hpaths
    simp only [List.forall_mem_cons] at hpaths
    obtain ⟨⟨hpython, hfifo, hroot, -⟩, htoolTexts⟩ := hpaths
    have hexperiment := identityUnits_experimentId h.experimentId
    have hrun := identityUnits_runId h.runId
    refine ⟨by decide, hpython, fun _ => hpresent.python, (kept_names h _ (by simp)).1,
      unbroken_identity hexperiment.2, (kept_names h _ (by simp)).1, unbroken_identity hrun.2,
      ExperimentIdentity.validExperimentId_of h.experimentId, h.runId,
      (unbroken_runDirectory h).mpr hroot, fun hfalse => absurd hfalse (by decide), hne, hunbroken,
      hvalid, hfifo, fun hfalse => absurd hfalse (by decide), by decide, by decide, rfl,
      h.triggerToken, hfits.triggerToken, htoolTexts, hfits.trafficAdapter, hfits.receiverPipeline,
      fun data _ => (unbroken_data h data).mpr hroot, fun index hindex =>
        ⟨(unbroken_timelinePath h hindex).mpr hroot, hpresent.timelines index hindex⟩,
      hfits.trafficDurationS.1, hfits.trafficDurationS.2, h.maxAgeMs, hfits.maxAgeMs, h.stableMs,
      hfits.stableMs, h.snapshotTimeoutMs, hfits.snapshotTimeoutMs, h.timelineReadinessTimeoutMs,
      hfits.timelineReadinessTimeoutMs, h.timelineReadinessPollMs, hfits.timelineReadinessPollMs, rfl⟩

/-- The builder takes the profile exactly where it fits, with the values of the materializer. -/
theorem acceptProfile_iff (h : p.Checked w) (hreceiver : receiverName p.runId = .ok receiver)
    (hpresent : Present host p) {profile : Profile} :
    acceptProfile host (profileMembers p receiver) = .ok profile ↔
      Fits host p ∧ profile = p.profile receiver := by
  have hratios : member (profileMembers p receiver) (chars "ratio_binding_paths") =
      sixPaths p.ratioBindingPath := reads_profile.ratioBindingPaths
  simp only [acceptProfile, bind_eq_ok, validateProfile_iff h hreceiver hpresent, hratios]
  constructor
  · rintro ⟨_, ⟨hfits, rfl⟩, paths, hpaths, hprofile⟩
    rw [Prepared.profile, validateRatioBindingPaths_sixPaths h] at hpaths
    cases hpaths
    cases hprofile
    exact ⟨hfits, rfl⟩
  · rintro ⟨hfits, rfl⟩
    exact ⟨_, ⟨hfits, rfl⟩, _, validateRatioBindingPaths_sixPaths h, rfl⟩

end

/-! ### What an execution leaves -/

theorem triple_forM {σ ε α : Type} {f : α → Attempt σ ε PUnit} {I : List α → σ → Prop}
    {E : ε → σ → Prop} (h : ∀ done a, Triple (I done) (f a) (fun _ => I (done ++ [a])) E)
    (done xs : List α) : Triple (I done) (xs.forM f) (fun _ => I (done ++ xs)) E := by
  induction xs generalizing done with
  | nil =>
    rw [List.append_nil]
    exact triple_pure fun _ hs => hs
  | cons x xs ih =>
    rw [List.append_cons]
    exact (h done x).bind fun _ => ih (done ++ [x])

/-- The files that have been written. -/
def HasFiles (files : List (AbsolutePath × List ℕ)) (tree : Tree) : Prop := tree.files = files

section
variable {w : Surroundings} {files : List (AbsolutePath × List ℕ)}

theorem triple_mkdir (path : AbsolutePath) (existOk : Bool) :
    Triple (HasFiles files) (mkdir w path existOk) (fun _ => HasFiles files) fun _ _ => True := by
  unfold mkdir
  split
  · exact triple_modify fun _ htree => htree
  · split_ifs
    · exact triple_pure fun _ htree => htree
    · exact triple_throw fun _ _ => trivial

theorem triple_writeJsonExclusive (path : AbsolutePath) (document : Document) :
    Triple (HasFiles files) (writeJsonExclusive w path document)
      (fun _ => HasFiles (files ++ [(path, fileText document)])) fun _ _ => True := by
  unfold writeJsonExclusive
  split
  · exact triple_modify fun tree htree => congrArg (· ++ [(path, fileText document)]) htree
  · exact Triple.bind (R := fun _ _ => True) (triple_modify fun _ _ => trivial)
      fun _ => triple_throw fun _ _ => trivial

/-- The files of an execution that ends well. -/
def written (p : Prepared) (receiver : List ℕ) : List (AbsolutePath × List ℕ) :=
  (indices.map fun index => (p.timelinePath index, fileText (commandDocument (p.timelineCommand index)))) ++
    [(p.profilePath, fileText (.dict (profileFields p receiver))),
      (p.allocationPath, fileText (.dict (allocationFields p receiver)))]

theorem triple_fill (p : Prepared) :
    Triple (HasFiles []) (fill w p)
      (fun report tree => report = reportFields p ∧
        ∃ receiver, receiverName p.runId = .ok receiver ∧ HasFiles (written p receiver) tree)
      fun _ _ => True := by
  have hdirectories : Triple (HasFiles []) ((directories p).forM fun directory => mkdir w directory false)
      (fun _ => HasFiles []) fun _ _ => True :=
    triple_forM (I := fun _ => HasFiles []) (fun _ directory => triple_mkdir directory false) [] _
  have htimelines : Triple (HasFiles []) (indices.forM fun index =>
      writeJsonExclusive w (p.timelinePath index) (commandDocument (p.timelineCommand index)))
      (fun _ => HasFiles (indices.map fun index =>
        (p.timelinePath index, fileText (commandDocument (p.timelineCommand index)))))
      fun _ _ => True := by
    refine triple_forM (I := fun done => HasFiles (done.map fun index =>
      (p.timelinePath index, fileText (commandDocument (p.timelineCommand index))))) ?_ [] indices
    intro done index
    rw [List.map_append]
    exact triple_writeJsonExclusive _ _
  refine hdirectories.bind fun _ => htimelines.bind fun _ => ?_
  refine (yields_ofExcept (receiverName p.runId)).bind_triple (fun _ _ _ => trivial) ?_
  intro receiver hreceiver
  refine (triple_writeJsonExclusive _ _).bind fun _ => (triple_writeJsonExclusive _ _).bind fun _ => ?_
  refine triple_pure fun tree htree => ⟨rfl, receiver, hreceiver, ?_⟩
  rw [HasFiles, htree, List.append_assoc]
  rfl

theorem execute_eq_ok {args : Args} {report : List (String × Document)} {tree : Tree}
    (h : outcome (execute w args) ⟨[], []⟩ = (.ok report, tree)) :
    ∃ p receiver, prepare w args = .ok p ∧ receiverName p.runId = .ok receiver ∧
      report = reportFields p ∧ tree.files = written p receiver := by
  have hexecute : Triple (HasFiles []) (execute w args)
      (fun report tree => ∃ p receiver, prepare w args = .ok p ∧ receiverName p.runId = .ok receiver ∧
        report = reportFields p ∧ tree.files = written p receiver) fun _ _ => True := by
    refine (yields_ofExcept (prepare w args)).bind_triple (fun _ _ _ => trivial) ?_
    intro p hp
    have hmake : Triple (HasFiles []) (makeRunDirectory w p) (fun _ => HasFiles []) fun _ _ => True := by
      refine (triple_mkdir _ _).bind fun _ => ?_
      split_ifs
      · exact Triple.bind (R := fun _ _ => False) (triple_throw fun _ _ => trivial)
          fun _ _ hfalse => hfalse.elim
      · exact triple_mkdir _ _
    refine hmake.bind fun _ => (triple_fill p).conseq (fun _ hs => hs) ?_ fun _ _ hs => hs
    rintro report tree ⟨hreport, receiver, hreceiver, hfiles⟩
    exact ⟨p, receiver, hp, hreceiver, hreport, hfiles⟩
  have hstart : HasFiles [] ⟨[], []⟩ := rfl
  exact hexecute.ok hstart h

end

/-! ### The texts of the files -/

/-- A text that is read back from JSON. -/
def Clear (value : List ℕ) : Prop := ∀ u ∈ value, Unpaired u

instance (value : List ℕ) : Decidable (Clear value) :=
  inferInstanceAs (Decidable (∀ u ∈ value, _ ∧ _))

/-- The texts that come from outside are read back. -/
structure Prepared.Readable (p : Prepared) : Prop where
  experimentId : Clear p.experimentId
  runId : Clear p.runId
  triggerToken : Clear p.frozen.triggerToken
  paths : ∀ path ∈ p.givenPaths, Clear (pathText path)

theorem clear_joinPath {path : AbsolutePath} {names : List (List ℕ)} (h : Clear (pathText path))
    (hnames : ∀ name ∈ names, Clear name) : Clear (pathText (joinPath path names)) := by
  intro u hu
  by_cases hslash : u = 47
  · subst hslash
    exact unpaired_of_lt (by decide)
  · rcases (mem_pathText_joinPath hslash).mp hu with hpath | ⟨name, hname, hmem⟩
    · exact h u hpath
    · exact hnames name hname u hmem

theorem readable_text {value : List ℕ} (h : Clear value) : (text value).Readable := .scalar _ h

theorem clear_receiver {runId receiver : List ℕ} (h : receiverName runId = .ok receiver) :
    Clear receiver := by
  intro u hu
  have hitem := (receiverItem_of_mem h).2 u hu
  simp only [receiverItem, Bool.or_eq_true, Pattern.lower, isDigit, decide_eq_true_eq] at hitem
  apply unpaired_of_lt
  rcases hitem with (hlower | hdigit) | hpunctuation
  · omega
  · omega
  · have hall : ∀ v ∈ chars "_.-", v < 128 := by decide
    exact hall u (List.contains_iff_mem.mp hpunctuation)

section
variable {p : Prepared} (h : p.Readable)
include h

theorem clear_python : Clear (pathText p.python) := h.paths _ (by simp [Prepared.givenPaths])

theorem clear_tool (tool : ToolName) : Clear (pathText (p.frozen.tools tool)) :=
  h.paths _ (List.mem_append_right _ (List.mem_map_of_mem (mem_tools tool)))

theorem clear_runDirectory : Clear (pathText p.runDirectory) := by
  refine clear_joinPath (h.paths _ (by simp [Prepared.givenPaths])) ?_
  simp only [List.forall_mem_cons]
  exact ⟨h.experimentId, h.runId, by simp⟩

theorem clear_below {names : List String} (hnames : ∀ name ∈ names.map chars, Clear name) :
    Clear (pathText (p.below names)) := clear_joinPath (clear_runDirectory h) hnames

theorem clear_data (data : DataName) : Clear (pathText (p.data data)) := by
  cases data <;> exact clear_below h (by decide)

theorem clear_timelinePath {index : ℕ} (hindex : index ∈ indices) :
    Clear (pathText (p.timelinePath index)) := by
  have hname : ∀ index ∈ indices,
      Clear (ProductionBinding.transitionLabel index ++ chars "-timeline-command.json") := by
    decide
  have hbelow : Clear (pathText (p.below ["runtime", "incremental-timeline"])) :=
    clear_below h (by decide)
  exact clear_joinPath hbelow (List.forall_mem_singleton.mpr (hname index hindex))

theorem clear_ratioBindingPath {index : ℕ} (hindex : index ∈ indices) :
    Clear (pathText (p.ratioBindingPath index)) := by
  have hname : ∀ index ∈ indices,
      Clear (ProductionBinding.transitionLabel index ++ chars ".binding.json") := by
    decide
  have hbelow : Clear (pathText (p.below ["runtime", "ratio-bindings"])) := clear_below h (by decide)
  exact clear_joinPath hbelow (List.forall_mem_singleton.mpr (hname index hindex))

theorem readable_profile {receiver : List ℕ} (hreceiver : Clear receiver) :
    (Document.dict (profileFields p receiver)).Readable := by
  have hkeys : ∀ key ∈ (profileFields p receiver).map Prod.fst, PlainKey key := by
    rw [keys_profileFields]
    decide
  have htools : (Document.dict (toolFields p)).Readable := by
    have hplain : ∀ tool ∈ ToolName.all, PlainKey (toolKey tool) := by decide
    refine .dict _ (List.forall_mem_map.mpr hplain) (List.forall_mem_map.mpr fun tool _ => ?_)
    exact readable_text (clear_tool h tool)
  have hdata : (Document.dict (dataFields p)).Readable := by
    have hplain : ∀ data ∈ DataName.all, PlainKey (dataKey data) := by decide
    refine .dict _ (List.forall_mem_map.mpr hplain) (List.forall_mem_map.mpr fun data _ => ?_)
    exact readable_text (clear_data h data)
  have hratios : (Document.list (indices.map fun index => pathField (p.ratioBindingPath index))).Readable :=
    .list _ (List.forall_mem_map.mpr fun index hindex => readable_text (clear_ratioBindingPath h hindex))
  have htimelines : (Document.list (indices.map fun index => pathField (p.timelinePath index))).Readable :=
    .list _ (List.forall_mem_map.mpr fun index hindex => readable_text (clear_timelinePath h hindex))
  have hnumber (value : ℤ) : (number value).Readable := .scalar _ trivial
  refine .dict _ (List.forall_mem_map.mp hkeys) ?_
  simp only [profileFields, List.forall_mem_cons]
  exact ⟨readable_text (by decide), readable_text h.experimentId, readable_text h.runId,
    readable_text (clear_runDirectory h), readable_text hreceiver,
    readable_text (h.paths _ (by simp [Prepared.givenPaths])), hratios,
    readable_text (clear_python h), htools, hdata, hnumber _, hnumber _,
    readable_text h.triggerToken, readable_text (by decide), hnumber _, hnumber _, hnumber _,
    hnumber _, htimelines, by simp⟩

/-- The profile is read back from its file. -/
theorem plainLoads_profile {receiver : List ℕ} (hreceiver : Clear receiver) :
    plainLoads (fileText (.dict (profileFields p receiver))) =
      .value (.obj (profileMembers p receiver)) := by
  rw [plainLoads, fileText, parse_dumpDocument (readable_profile h hreceiver), dict_json]
  rfl

end

/-- Every profile that a materialization writes is read back, and the binding builder takes it exactly
where the values are within the builder's own bounds, which are narrower than the materializer's. -/
theorem materialized_profile_accepted {w : Surroundings} {args : Args}
    {report : List (String × Document)} {tree : Tree}
    (hexecute : outcome (execute w args) ⟨[], []⟩ = (.ok report, tree))
    (hreadable : ∀ p, prepare w args = .ok p → p.Readable) {host : Host}
    (hhost : ∀ path, w.isFile path = true ∨ path ∈ tree.files.map Prod.fst → host.isFile path = true) :
    ∃ p receiver content members, prepare w args = .ok p ∧ report = reportFields p ∧
      (p.profilePath, content) ∈ tree.files ∧ plainLoads content = .value (.obj members) ∧
      ∀ profile, acceptProfile host members = .ok profile ↔
        Fits host p ∧ profile = p.profile receiver := by
  obtain ⟨p, receiver, hprepare, hreceiver, hreport, hfiles⟩ := execute_eq_ok hexecute
  have hchecked := prepare_checked hprepare
  have hpresent : Present host p := by
    constructor
    · exact hhost _ (.inl hchecked.python.isFile)
    · exact fun tool => hhost _ (.inl (hchecked.tools tool).isFile)
    · intro index hindex
      apply hhost _ (.inr _)
      rw [hfiles, written, List.map_append, List.map_map]
      exact List.mem_append_left _ (List.mem_map_of_mem (f := p.timelinePath) hindex)
  refine ⟨p, receiver, _, _, hprepare, hreport, ?_,
    plainLoads_profile (hreadable p hprepare) (clear_receiver hreceiver),
    fun profile => acceptProfile_iff hchecked hreceiver hpresent⟩
  rw [hfiles]
  exact List.mem_append_right _ List.mem_cons_self

instance (p : Prepared) : Decidable p.Readable :=
  decidable_of_iff (Clear p.experimentId ∧ Clear p.runId ∧ Clear p.frozen.triggerToken ∧
    ∀ path ∈ p.givenPaths, Clear (pathText path))
    ⟨fun ⟨h₁, h₂, h₃, h₄⟩ => ⟨h₁, h₂, h₃, h₄⟩, fun h => ⟨h.1, h.2, h.3, h.4⟩⟩

theorem outcome_of_fst {σ ε α : Type} {x : Attempt σ ε α} {s : σ} {a : α}
    (h : (outcome x s).1 = .ok a) : outcome x s = (.ok a, (outcome x s).2) := Prod.ext h rfl

def sampleArgs : Args where
  evidenceRoot := chars "/evidence"
  experimentId := chars "EXP-20261010-DL-18000K-R01"
  runId := chars "RUN-20261010T172303Z-001"
  frozenConfig := chars "/frozen.json"
  portableRuntimeAdmission := chars "/admission.json"
  actuatorFifoPath := chars "/run/actuator.fifo"
  maxAgeMs := 5000

def sampleFrozen : List ℕ :=
  dictText [("python_executable", quoted "/usr/bin/python3.10"),
    ("tool_paths", dictText (ToolName.all.map fun tool =>
      (toolKey tool, chars "\"/tools/" ++ tool.key ++ chars "\""))),
    ("traffic_duration_s", chars "150"), ("trigger_token", quoted "TRIGGER"),
    ("stable_ms", chars "40"), ("snapshot_timeout_ms", chars "1000"),
    ("timeline_readiness_poll_ms", chars "100"), ("timeline_readiness_timeout_ms", chars "5000")]

def sampleAdmission : List ℕ :=
  dictText [("schema", quoted "sci_oran_r6_f_portable_runtime_admission_v1"),
    ("host", quoted "tb3"), ("python_executable", quoted "/usr/bin/python3"),
    ("python_version", quoted "3.11.9"), ("jsonschema_required", chars "true"),
    ("jsonschema_version", quoted "4.23.0"), ("draft202012_capability", chars "true"),
    ("qualification_gate", quoted "PASS")]

def sampleSurroundings : Surroundings where
  opened path := if path.names = [chars "frozen.json"] then .text sampleFrozen else .text sampleAdmission
  loads := plainLoads
  isFile _ := true
  isExecutable _ := true
  isDirectory _ := true
  lexists _ := false
  isFifo _ := some true
  fqdn := chars "tb3"
  mkdirRefused _ := none
  writeEnd _ := .written

def sampleHost : Host where
  isFile _ := true
  isExecutable _ := true
  writer := root

instance (host : Host) (p : Prepared) : Decidable (Fits host p) :=
  decidable_of_iff ((∀ path ∈ p.givenPaths, Unbroken (pathText path)) ∧
    Unbroken p.frozen.triggerToken ∧ host.isExecutable (p.frozen.tools .trafficAdapter) = true ∧
    host.isExecutable (p.frozen.tools .receiverPipeline) = true ∧
    (141 ≤ p.frozen.trafficDurationS ∧ p.frozen.trafficDurationS ≤ 180) ∧ p.maxAgeMs ≤ 10000 ∧
    p.frozen.stableMs ≤ 5000 ∧ p.frozen.snapshotTimeoutMs ≤ 60000 ∧
    p.frozen.timelineReadinessTimeoutMs ≤ 60000 ∧ p.frozen.timelineReadinessPollMs ≤ 5000)
    ⟨fun ⟨h₁, h₂, h₃, h₄, h₅, h₆, h₇, h₈, h₉, h₁₀⟩ => ⟨h₁, h₂, h₃, h₄, h₅, h₆, h₇, h₈, h₉, h₁₀⟩,
      fun h => ⟨h.1, h.2, h.3, h.4, h.5, h.6, h.7, h.8, h.9, h.10⟩⟩

/-- The sample, where what is prepared is read back and fits, with the report. -/
def sampleRun : Made (Prepared × List (String × Document)) := do
  let p ← prepare sampleSurroundings sampleArgs
  require (p.Readable ∧ Fits sampleHost p) .beyondLimits
  let report ← (outcome (execute sampleSurroundings sampleArgs) ⟨[], []⟩).1
  return (p, report)

theorem materialized_profile_accepted_sample : ∃ (p : Prepared) (report : _) (tree : _) (content : _)
    (members : _) (profile : _),
      outcome (execute sampleSurroundings sampleArgs) ⟨[], []⟩ = (.ok report, tree) ∧
      (p.profilePath, content) ∈ tree.files ∧ plainLoads content = .value (.obj members) ∧
      acceptProfile sampleHost members = .ok profile := by
  obtain ⟨run, hrun⟩ : ∃ run, sampleRun = .ok run := exists_ok (by decide +kernel)
  simp only [sampleRun, bind_eq_ok, require_eq_ok] at hrun
  obtain ⟨p, hprepare, _, ⟨hreadable, hfits⟩, report, hreport, -⟩ := hrun
  have hexecute := outcome_of_fst hreport
  have hall : ∀ p', prepare sampleSurroundings sampleArgs = .ok p' → p'.Readable := by
    intro p' hp'
    obtain rfl := Except.ok.inj (hprepare.symm.trans hp')
    exact hreadable
  have hpresent : ∀ path, sampleSurroundings.isFile path = true ∨ path ∈
      (outcome (execute sampleSurroundings sampleArgs) ⟨[], []⟩).2.files.map Prod.fst →
        sampleHost.isFile path = true := fun _ _ => rfl
  obtain ⟨p', receiver, content, members, hp', -, hfile, hload, haccept⟩ :=
    materialized_profile_accepted hexecute hall hpresent
  obtain rfl := Except.ok.inj (hprepare.symm.trans hp')
  exact ⟨_, report, _, content, members, _, hexecute, hfile, hload, (haccept _).mpr ⟨hfits, rfl⟩⟩

end TcdOran.Harness.RuntimeProfile
