import TcdOran.Harness.StationarityAdapter
import TcdOran.Harness.TriggerExecutor

/-! What the programs that are named in the builder's commands make of their arguments. -/
namespace TcdOran.Harness.ProductionBinding
open TcdOran.Lib Python Handoff

/-! ### Arguments that are no option and no token -/

/-- A path without NUL. -/
def Clean (path : AbsolutePath) : Prop := ∀ name ∈ path.names, 0 ∉ name

/-- An argument that begins neither as an option nor as a token. -/
structure Operand (value : List ℕ) : Prop where
  noNul : 0 ∉ value
  head : ∃ u, value.head? = some u ∧ u ≠ 45 ∧ u ≠ 64

theorem Operand.ne_of_head {value literal : List ℕ} (h : Operand value)
    (hliteral : literal.head? = some 45 ∨ literal.head? = some 64) : value ≠ literal := by
  rintro rfl
  obtain ⟨u, hu, hoption, htoken⟩ := h.head
  rcases hliteral with hl | hl <;> rw [hu, Option.some.injEq] at hl
  · exact hoption hl
  · exact htoken hl

theorem Operand.isValue {value : List ℕ} (h : Operand value) (parser : ArgumentParser) :
    parser.isValue value = true := by
  obtain ⟨u, hu, hoption, -⟩ := h.head
  simp [ArgumentParser.isValue, hu, hoption]

theorem head_pathText (path : AbsolutePath) : (pathText path).head? = some 47 := by
  cases hslash : path.doubleSlash <;> simp [pathText, hslash]

theorem operand_pathText {path : AbsolutePath} (h : Clean path) : Operand (pathText path) where
  noNul := by
    intro hmem
    rw [pathText, List.mem_append] at hmem
    rcases hmem with hslash | hnames
    · cases hpath : path.doubleSlash <;> simp [hpath] at hslash
    · obtain hzero | ⟨name, hname, hmem⟩ := mem_posixPath hnames
      · cases hzero
      · exact h name hname hmem
  head := ⟨47, head_pathText path, by decide, by decide⟩

theorem clean_joinPath {path : AbsolutePath} {names : List (List ℕ)} (h : Clean path)
    (hnames : ∀ name ∈ names, 0 ∉ name) : Clean (joinPath path names) := by
  intro name hname
  rcases List.mem_append.mp hname with hpath | hnew
  · exact h name hpath
  · exact hnames name hnew

theorem operand_decimalUnits (n : ℕ) : Operand (decimalUnits n) where
  noNul h := absurd (isDigit_of_mem_decimalUnits h) (by decide)
  head := by
    obtain ⟨u, rest, htext⟩ := List.exists_cons_of_ne_nil (decimalUnits_ne_nil n)
    have hdigit := isDigit_of_mem_decimalUnits (htext ▸ List.mem_cons_self : u ∈ decimalUnits n)
    rw [isDigit, decide_eq_true_eq] at hdigit
    exact ⟨u, by rw [htext, List.head?_cons], by omega, by omega⟩

theorem intText_of_nonneg {z : ℤ} (h : 0 ≤ z) : intText z = decimalUnits z.toNat := by
  obtain ⟨n, rfl⟩ := Int.eq_ofNat_of_zero_le h
  rw [intText, signedDecimal, if_neg (Int.not_lt.mpr h), toNat_decimal, Int.natAbs_natCast,
    Int.toNat_natCast]

theorem operand_intText {z : ℤ} (h : 0 ≤ z) : Operand (intText z) :=
  intText_of_nonneg h ▸ operand_decimalUnits z.toNat

theorem clean_absolutePath {text : List ℕ} (h : 0 ∉ text) (hslash : text.head? = some 47) :
    Clean (absolutePath root text) := by
  have hnames : (absolutePath root text).names = pathNames text := by
    unfold absolutePath
    split
    · rfl
    · rfl
    · rfl
    · rename_i hother
      obtain ⟨rest, rfl⟩ := List.head?_eq_some_iff.mp hslash
      exact absurd rfl (hother rest)
  intro name hname hmem
  rw [hnames, pathNames, List.mem_filter] at hname
  have htext : posixPath (components text) = text := List.intercalate_splitOn 47
  exact h (htext ▸ mem_posixPath_of_mem hname.1 hmem)

/-! ### Accepted profiles -/

/-- What the builder's checks say of a profile. -/
structure Profile.Accepted (profile : Profile) : Prop where
  python : Clean profile.python
  experimentId : validExperimentId profile.experimentId = true ∧ 0 ∉ profile.experimentId
  runId : validRunId profile.runId = true ∧ 0 ∉ profile.runId
  runDirectory : Clean profile.runDirectory
  receiver : validReceiver profile.receiver = true
  trafficDurationS : 141 ≤ profile.trafficDurationS
  fifo : Clean profile.fifo
  authorization : profile.authorization = controlAuthorizationTokenPlaceholder
  triggerToken : profile.triggerToken ≠ [] ∧ 0 ∉ profile.triggerToken
  maxAgeMs : 1 ≤ profile.maxAgeMs
  stableMs : 0 ≤ profile.stableMs
  snapshotTimeoutMs : 1 ≤ profile.snapshotTimeoutMs
  timelineReadinessTimeoutMs : 1 ≤ profile.timelineReadinessTimeoutMs
  timelineReadinessPollMs : 1 ≤ profile.timelineReadinessPollMs
  bounded : ∀ z ∈ [profile.stableMs, profile.snapshotTimeoutMs, profile.timelineReadinessTimeoutMs,
    profile.timelineReadinessPollMs], z ≤ 60000
  tools : ∀ tool, Clean (profile.tools tool)
  timelineJson : ∀ path ∈ profile.timelineJson, Clean path
  timelineCount : profile.timelineJson.length = 6

section
variable {host : Host} {members : Members} {profile : Profile}

theorem requireString_eq_ok {value : Json} {label text : List ℕ}
    (h : requireString value label = .ok text) : text ≠ [] ∧ 0 ∉ text := by
  cases value with
  | str units =>
    rw [requireString, require_bind_eq_ok] at h
    obtain ⟨hvalid, htext⟩ := h
    cases htext
    exact ⟨hvalid.1, hvalid.2.1⟩
  | _ => cases h

theorem requireInt_eq_ok {value : Json} {minimum maximum z : ℤ} {label : List ℕ}
    (h : requireInt value minimum maximum label = .ok z) : minimum ≤ z ∧ z ≤ maximum := by
  cases value with
  | num literal =>
    rw [requireInt, require_bind_eq_ok] at h
    obtain ⟨hvalid, hz⟩ := h
    cases hz
    exact hvalid.2
  | _ => cases h

theorem requireAbsolutePath_clean {value : Json} {label : List ℕ} {mustExist : Bool}
    {path : AbsolutePath} (h : requireAbsolutePath host value label mustExist = .ok path) :
    Clean path := by
  obtain ⟨raw, hraw, h⟩ := bind_eq_ok.mp h
  simp only [require_bind_eq_ok] at h
  obtain ⟨hslash, -, h⟩ := h
  cases h
  exact clean_absolutePath (requireString_eq_ok hraw).2 hslash

theorem clean_root : Clean root := fun _ hname => absurd hname List.not_mem_nil

theorem clean_entry {κ : Type} [DecidableEq κ] {keys : List κ} {paths : List AbsolutePath}
    (h : ∀ path ∈ paths, Clean path) (key : κ) : Clean (entry keys paths key) := by
  unfold entry
  cases hlookup : (keys.zip paths).lookup key with
  | none => exact clean_root
  | some path =>
    obtain ⟨front, behind, hsplit, -⟩ := List.lookup_eq_some_iff.mp hlookup
    have hmem : (key, path) ∈ keys.zip paths := by simp [hsplit]
    exact h path (List.of_mem_zip hmem).2

theorem clean_of_mapM {α : Type} {f : α → Built AbsolutePath} {items : List α}
    {paths : List AbsolutePath} (h : items.mapM f = .ok paths)
    (hclean : ∀ item path, f item = .ok path → Clean path) : ∀ path ∈ paths, Clean path := by
  have hall := forall₂_of_mapM_ok h
  induction hall with
  | nil => exact fun _ hpath => absurd hpath List.not_mem_nil
  | cons hitem hrest ih =>
    exact List.forall_mem_cons.mpr ⟨hclean _ _ hitem, ih (mapM_eq_ok hrest)⟩

theorem timelinePaths_eq_ok {value : Json} {paths : List AbsolutePath}
    (h : timelinePaths host value = .ok paths) : (∀ path ∈ paths, Clean path) ∧ paths.length = 6 := by
  obtain ⟨items, hitems, h⟩ := bind_eq_ok.mp h
  obtain ⟨found, hfound, h⟩ := bind_eq_ok.mp h
  rw [require_bind_eq_ok] at h
  obtain ⟨-, h⟩ := h
  cases h
  refine ⟨clean_of_mapM hfound fun item path => requireAbsolutePath_clean, ?_⟩
  have hlength : items.length = 6 := by
    cases value with
    | arr =>
      rw [requireSix, require_bind_eq_ok] at hitems
      obtain ⟨hsix, hitems⟩ := hitems
      cases hitems
      exact hsix
    | _ => cases hitems
  rw [← (forall₂_of_mapM_ok hfound).length_eq, List.length_zipIdx, hlength]

theorem validateProfile_accepted (h : validateProfile host members = .ok profile) :
    profile.Accepted := by
  unfold validateProfile at h
  simp only [bind_eq_ok, require_eq_ok] at h
  obtain ⟨_, _, _, _, python, hpython, experimentId, hexperiment, runId, hrun, h⟩ := h
  obtain ⟨_, hvalidExperiment, _, hvalidRun, runDirectory, hdirectory, receiver, _, h⟩ := h
  obtain ⟨_, hreceiver, fifo, hfifo, authorization, _, _, hauthorization, h⟩ := h
  obtain ⟨triggerToken, htrigger, toolMembers, _, dataMembers, _, _, _, _, _, h⟩ := h
  obtain ⟨toolList, htools, _, _, _, _, dataList, _, timelineJson, htimeline, h⟩ := h
  obtain ⟨duration, hduration, maxAge, hmaxAge, stable, hstable, snapshot, hsnapshot, h⟩ := h
  obtain ⟨timeout, htimeout, poll, hpoll, h⟩ := h
  cases h
  exact {
    python := requireAbsolutePath_clean hpython
    experimentId := ⟨hvalidExperiment, (requireString_eq_ok hexperiment).2⟩
    runId := ⟨hvalidRun, (requireString_eq_ok hrun).2⟩
    runDirectory := requireAbsolutePath_clean hdirectory
    receiver := hreceiver
    trafficDurationS := (requireInt_eq_ok hduration).1
    fifo := requireAbsolutePath_clean hfifo
    authorization := hauthorization
    triggerToken := requireString_eq_ok htrigger
    maxAgeMs := (requireInt_eq_ok hmaxAge).1
    stableMs := (requireInt_eq_ok hstable).1
    snapshotTimeoutMs := (requireInt_eq_ok hsnapshot).1
    timelineReadinessTimeoutMs := (requireInt_eq_ok htimeout).1
    timelineReadinessPollMs := (requireInt_eq_ok hpoll).1
    bounded := by
      have hstableMax := (requireInt_eq_ok hstable).2
      have hpollMax := (requireInt_eq_ok hpoll).2
      simp only [List.forall_mem_cons]
      exact ⟨by omega, (requireInt_eq_ok hsnapshot).2, (requireInt_eq_ok htimeout).2, by omega,
        by simp⟩
    tools := clean_entry (clean_of_mapM htools fun _ _ => requireAbsolutePath_clean)
    timelineJson := (timelinePaths_eq_ok htimeline).1
    timelineCount := (timelinePaths_eq_ok htimeline).2 }

theorem acceptProfile_accepted (h : acceptProfile host members = .ok profile) :
    profile.Accepted := by
  obtain ⟨validated, hvalidated, h⟩ := bind_eq_ok.mp h
  obtain ⟨paths, -, h⟩ := bind_eq_ok.mp h
  cases h
  exact { validateProfile_accepted hvalidated with }

end

namespace Profile.Accepted
variable {profile : Profile} (h : profile.Accepted)
include h

theorem operand_py : Operand (py profile) := operand_pathText h.python

theorem operand_toolText (tool : ToolName) : Operand (toolText profile tool) :=
  operand_pathText (h.tools tool)

theorem operand_inRun {names : List (List ℕ)} (hnames : ∀ name ∈ names, 0 ∉ name) :
    Operand (inRun profile names) :=
  operand_pathText (clean_joinPath h.runDirectory hnames)

theorem operand_experimentId : Operand profile.experimentId where
  noNul := h.experimentId.2
  head := by
    have hpattern := h.experimentId.1
    rw [validExperimentId, Bool.or_eq_true] at hpattern
    rcases hpattern with hmatch | hmatch <;>
    · obtain ⟨u, rest, htext, hu⟩ := head_of_matchThen hmatch
      obtain rfl := of_decide_eq_true hu
      exact ⟨69, by rw [htext, List.head?_cons]; rfl, by decide, by decide⟩

theorem operand_runId : Operand profile.runId where
  noNul := h.runId.2
  head := by
    obtain ⟨u, rest, htext, hu⟩ := head_of_matchThen h.runId.1
    obtain rfl := of_decide_eq_true hu
    exact ⟨82, by rw [htext, List.head?_cons]; rfl, by decide, by decide⟩

theorem operand_timelineJson (index : ℕ) : Operand (pathText (itemOf profile.timelineJson index)) := by
  apply operand_pathText
  rw [itemOf, List.getD_eq_getElem?_getD]
  cases hitem : profile.timelineJson[index - 1]? with
  | none => exact clean_root
  | some path => exact h.timelineJson path (List.mem_of_getElem? hitem)

end Profile.Accepted

/-! ### The nested commands -/

/-- An argument that the hand-off takes for no marker and for no shell string. -/
def Plain (value : List ℕ) : Prop :=
  value ≠ [] ∧ 0 ∉ value ∧
    value ∉ [stationarityMarker, freshnessMarker, chars "-c", chars "-lc"]

instance (value : List ℕ) : Decidable (Plain value) := by
  unfold Plain
  infer_instance

theorem Operand.plain {value : List ℕ} (h : Operand value) : Plain value := by
  refine ⟨?_, h.noNul, ?_⟩
  · rintro rfl
    obtain ⟨u, hu, -⟩ := h.head
    cases hu
  · have hoptions : ∀ literal ∈ [stationarityMarker, freshnessMarker, chars "-c", chars "-lc"],
        literal.head? = some 45 := by decide
    exact fun hmem => h.ne_of_head (.inl (hoptions value hmem)) rfl

theorem nested_of_plain {command : Command} (hne : command ≠ [])
    (h : ∀ value ∈ command, Plain value) : Nested command where
  nonempty := hne
  words value hvalue := ⟨(h value hvalue).1, (h value hvalue).2.1⟩
  noMarker := ⟨fun hmem => (h _ hmem).2.2 (by simp), fun hmem => (h _ hmem).2.2 (by simp)⟩
  noShell := ⟨fun hmem => (h _ hmem).2.2 (by simp), fun hmem => (h _ hmem).2.2 (by simp)⟩

/-! The words of a command are what it has besides operands. -/

def identityWords : List (List ℕ) := ["--experiment-id", "--run-id"].map chars

def timelineWords : List (List ℕ) :=
  ["--control-index", "--timeline-command-json", "--expected-timeline-event-count",
    "--timeline-readiness-timeout-ms", "--timeline-readiness-poll-ms"].map chars

/-- The words behind a mode. -/
def stationarityWords : List (List ℕ) :=
  [chars "--python-executable", chars "--parser", chars "--canonicalizer", chars "--evaluator",
    chars "--raw-input", chars "--timestamp-input", chars "--schema", chars "--mode",
    chars "--evidence-root", chars "--stable-ms", chars "--snapshot-timeout-ms"] ++ identityWords

def freshnessWords : List (List ℕ) :=
  [chars "--input", canonicalIntervalsToken, chars "--schema", chars "--policy",
    chars "--evaluator", chars "--experiment-id", chars "--run-id", chars "--decision-utc-ns",
    decisionUtcNsToken, chars "--selected-output", chars "--stationarity-output",
    stationarityJsonToken, chars "--output", precontrolJsonToken]

/-- A stationarity command in front of the options for a control index. -/
def stationarityBase (profile : Profile) (mode role : List ℕ) : Command :=
  [py profile, toolText profile .stationarityAdapter,
    chars "--python-executable", py profile,
    chars "--parser", toolText profile .parser,
    chars "--canonicalizer", toolText profile .canonicalizer,
    chars "--evaluator", toolText profile .stationarityEvaluator,
    chars "--raw-input", inRun profile [chars "raw", chars "iperf3-receiver.stdout.log"],
    chars "--timestamp-input",
      inRun profile [chars "raw", chars "iperf3-receiver.timestamps.jsonl"],
    chars "--schema", toolText profile .schema] ++ identityOptions profile ++
  [chars "--mode", mode,
    chars "--evidence-root", inRun profile [chars "evidence", chars "stationarity", role],
    chars "--stable-ms", intText profile.stableMs,
    chars "--snapshot-timeout-ms", intText profile.snapshotTimeoutMs]

theorem stationarityCommand_none (profile : Profile) (mode : String) :
    stationarityCommand profile mode none =
      stationarityBase profile (chars mode) (chars "initial") := List.append_nil _

theorem stationarityCommand_some (profile : Profile) (mode : String) (index : ℕ) :
    stationarityCommand profile mode (some index) =
      stationarityBase profile (chars mode) (transitionLabel index) ++
        timelineOptions profile index := rfl

theorem noNul_transitionLabel (index : ℕ) : 0 ∉ transitionLabel index := by
  rw [transitionLabel, List.mem_append, not_or]
  exact ⟨by decide, (operand_decimalUnits index).noNul⟩

namespace Profile.Accepted
variable {profile : Profile} (h : profile.Accepted)
include h

theorem operand_selected (index : ℕ) : Operand (inRun profile
    [chars "precontrol", transitionLabel index ++ chars ".selected.jsonl"]) := by
  apply h.operand_inRun
  simp only [List.forall_mem_cons, List.mem_append, not_or]
  exact ⟨by decide, ⟨noNul_transitionLabel index, by decide⟩, by simp⟩

section
variable {P : List ℕ → Prop} (hoperand : ∀ value, Operand value → P value)
include hoperand

theorem forall_identityOptions (hword : ∀ word ∈ identityWords, P word) :
    ∀ value ∈ identityOptions profile, P value := by
  simp only [identityWords, List.map_cons, List.forall_mem_cons] at hword
  obtain ⟨hexperiment, hrun, -⟩ := hword
  simp only [identityOptions, List.forall_mem_cons]
  exact ⟨hexperiment, hoperand _ h.operand_experimentId, hrun, hoperand _ h.operand_runId, by simp⟩

theorem forall_timelineOptions {index : ℕ} (hword : ∀ word ∈ timelineWords, P word) :
    ∀ value ∈ timelineOptions profile index, P value := by
  simp only [timelineWords, List.map_cons, List.forall_mem_cons] at hword
  obtain ⟨hcontrol, hjson, hcount, htimeout, hpoll, -⟩ := hword
  simp only [timelineOptions, List.forall_mem_cons]
  exact ⟨hcontrol, hoperand _ (operand_decimalUnits _), hjson, hoperand _ (h.operand_timelineJson _),
    hcount, hoperand _ (operand_decimalUnits _), htimeout,
    hoperand _ (operand_intText (Int.le_of_lt h.timelineReadinessTimeoutMs)), hpoll,
    hoperand _ (operand_intText (Int.le_of_lt h.timelineReadinessPollMs)), by simp⟩

theorem forall_stationarityBase {mode role : List ℕ} (hrole : 0 ∉ role)
    (hword : ∀ word ∈ mode :: stationarityWords, P word) :
    ∀ value ∈ stationarityBase profile mode role, P value := by
  have hpy := hoperand _ h.operand_py
  have htool (tool : ToolName) : P (toolText profile tool) := hoperand _ (h.operand_toolText tool)
  have hraw : P (inRun profile [chars "raw", chars "iperf3-receiver.stdout.log"]) :=
    hoperand _ (h.operand_inRun (by decide))
  have htimestamps : P (inRun profile [chars "raw", chars "iperf3-receiver.timestamps.jsonl"]) :=
    hoperand _ (h.operand_inRun (by decide))
  have hroot : P (inRun profile [chars "evidence", chars "stationarity", role]) := by
    apply hoperand _ (h.operand_inRun _)
    simp only [List.forall_mem_cons]
    exact ⟨by decide, by decide, hrole, by simp⟩
  have hidentity := h.forall_identityOptions hoperand fun word hmem =>
    hword word (List.mem_cons_of_mem _ (List.mem_append_right _ hmem))
  simp only [stationarityWords, List.forall_mem_cons, List.cons_append] at hword
  obtain ⟨hmode, hw1, hw2, hw3, hw4, hw5, hw6, hw7, hw8, hw9, hw10, hw11, -⟩ := hword
  simp only [stationarityBase, List.forall_mem_append, List.forall_mem_cons]
  exact ⟨⟨⟨hpy, htool _, hw1, hpy, hw2, htool _, hw3, htool _, hw4, htool _, hw5, hraw, hw6,
    htimestamps, hw7, htool _, by simp⟩, hidentity⟩, hw8, hmode, hw9, hroot, hw10,
    hoperand _ (operand_intText h.stableMs), hw11,
    hoperand _ (operand_intText (Int.le_of_lt h.snapshotTimeoutMs)), by simp⟩

theorem forall_stationarityCommand {mode : String} (index : Option ℕ)
    (hword : ∀ word ∈ chars mode :: stationarityWords ++ timelineWords, P word) :
    ∀ value ∈ stationarityCommand profile mode index, P value := by
  have hbase : ∀ word ∈ chars mode :: stationarityWords, P word :=
    fun word hmem => hword word (List.mem_append_left _ hmem)
  have htimeline : ∀ word ∈ timelineWords, P word :=
    fun word hmem => hword word (List.mem_append_right _ hmem)
  cases index with
  | none =>
    rw [stationarityCommand_none]
    exact h.forall_stationarityBase hoperand (by decide) hbase
  | some index =>
    rw [stationarityCommand_some, List.forall_mem_append]
    exact ⟨h.forall_stationarityBase hoperand (noNul_transitionLabel index) hbase,
      h.forall_timelineOptions hoperand htimeline⟩

theorem forall_freshnessCommand (index : ℕ) (hword : ∀ word ∈ freshnessWords, P word) :
    ∀ value ∈ freshnessCommand profile index, P value := by
  have hpy := hoperand _ h.operand_py
  have htool (tool : ToolName) : P (toolText profile tool) := hoperand _ (h.operand_toolText tool)
  have hselected := hoperand _ (h.operand_selected index)
  have hexperiment := hoperand _ h.operand_experimentId
  have hrun := hoperand _ h.operand_runId
  simp only [freshnessWords, List.forall_mem_cons] at hword
  obtain ⟨hw1, hw2, hw3, hw4, hw5, hw6, hw7, hw8, hw9, hw10, hw11, hw12, hw13, hw14, -⟩ := hword
  simp only [freshnessCommand, identityOptions, List.forall_mem_append, List.forall_mem_cons]
  exact ⟨⟨⟨hpy, htool _, hw1, hw2, hw3, htool _, hw4, htool _, hw5, htool _, by simp⟩, hw6,
    hexperiment, hw7, hrun, by simp⟩, hw8, hw9, hw10, hselected, hw11, hw12, hw13, hw14, by simp⟩

end

theorem count_freshnessCommand (index : ℕ) {token : List ℕ} (htoken : token.head? = some 64) :
    (freshnessCommand profile index).count token =
      freshnessWords.count token := by
  have hoperand {value : List ℕ} (hvalue : Operand value) : (value == token) = false :=
    beq_eq_false_iff_ne.mpr (hvalue.ne_of_head (.inr htoken))
  have hpy := hoperand h.operand_py
  have htool (tool : ToolName) := hoperand (h.operand_toolText tool)
  have hexperiment := hoperand h.operand_experimentId
  have hrun := hoperand h.operand_runId
  have hselected := hoperand (h.operand_selected index)
  simp only [freshnessCommand, freshnessWords, identityOptions, List.cons_append, List.nil_append,
    List.count_cons, List.count_nil, hpy, htool, hexperiment, hrun, hselected, Bool.false_eq_true, if_false,
    Nat.add_zero]

theorem validateFreshnessTemplate_freshnessCommand (index : ℕ) :
    validateFreshnessTemplate (freshnessCommand profile index) = .ok () := by
  have hcount {token : List ℕ} (htoken : token.head? = some 64) :=
    h.count_freshnessCommand index htoken
  rw [validateFreshnessTemplate, hcount (by decide), hcount (by decide), hcount (by decide),
    hcount (by decide)]
  decide

end Profile.Accepted

/-! ### The wrapped commands -/

/-- The hand-off finds the two commands that are nested in its arguments. Python reads the arguments
behind the tool. -/
def Recovers (command stationarity freshness : Command) : Prop :=
  ∃ common, parseInvocation (command.drop 2) = .ok (common, stationarity, freshness)

theorem recovers_handoffCommand {profile : Profile} (h : profile.Accepted) {mode : String}
    (hmode : Plain (chars mode)) (index : ℕ) (control : Option ℕ) :
    Recovers (handoffCommand profile index (stationarityCommand profile mode control))
      (stationarityCommand profile mode control) (freshnessCommand profile index) := by
  have hstationarity : Nested (stationarityCommand profile mode control) :=
    nested_of_plain (by simp [stationarityCommand]) (h.forall_stationarityCommand
      (fun _ => Operand.plain) control (List.forall_mem_cons.mpr ⟨hmode, by decide⟩))
  have hfreshness : Nested (freshnessCommand profile index) :=
    nested_of_plain (by simp [freshnessCommand])
      (h.forall_freshnessCommand (fun _ => Operand.plain) index (by decide))
  let common : Common :=
    ⟨inRun profile [chars "evidence", chars "precontrol-handoff", transitionLabel index],
      inRun profile [chars "precontrol", transitionLabel index ++ chars ".json"]⟩
  have hroot : common.attemptRoot.head? = some 47 := head_pathText _
  have houtput : common.precontrolOutput.head? = some 47 := head_pathText _
  exact ⟨common, parseInvocation_invocation hroot houtput hstationarity hfreshness
    (h.validateFreshnessTemplate_freshnessCommand index)⟩

/-! ### The timeline argument of the stationarity adapter -/

/-- The arguments of the adapter for a control index. -/
def postStepArguments (profile : Profile) (index : ℕ) : Arguments :=
  [(chars "--python-executable", py profile),
    (chars "--parser", toolText profile .parser),
    (chars "--canonicalizer", toolText profile .canonicalizer),
    (chars "--evaluator", toolText profile .stationarityEvaluator),
    (chars "--raw-input", inRun profile [chars "raw", chars "iperf3-receiver.stdout.log"]),
    (chars "--timestamp-input",
      inRun profile [chars "raw", chars "iperf3-receiver.timestamps.jsonl"]),
    (chars "--schema", toolText profile .schema),
    (chars "--experiment-id", profile.experimentId), (chars "--run-id", profile.runId),
    (chars "--mode", chars "post-step"),
    (chars "--evidence-root",
      inRun profile [chars "evidence", chars "stationarity", transitionLabel index]),
    (chars "--stable-ms", intText profile.stableMs),
    (chars "--snapshot-timeout-ms", intText profile.snapshotTimeoutMs),
    (chars "--control-index", decimalUnits index),
    (chars "--timeline-command-json", pathText (itemOf profile.timelineJson index)),
    (chars "--expected-timeline-event-count", decimalUnits (index * 3)),
    (chars "--timeline-readiness-timeout-ms", intText profile.timelineReadinessTimeoutMs),
    (chars "--timeline-readiness-poll-ms", intText profile.timelineReadinessPollMs)]

theorem drop_stationarityCommand (profile : Profile) (index : ℕ) :
    (stationarityCommand profile "post-step" (some index)).drop 2 =
      ArgumentParser.flatten (postStepArguments profile index) := rfl

theorem values_postStepArguments {profile : Profile} (h : profile.Accepted) (index : ℕ)
    (parser : ArgumentParser) :
    ∀ argument ∈ postStepArguments profile index, parser.isValue argument.2 = true := by
  have hpy := h.operand_py.isValue parser
  have htool (tool : ToolName) := (h.operand_toolText tool).isValue parser
  have hpath (path : AbsolutePath) : parser.isValue (pathText path) = true := by
    simp [ArgumentParser.isValue, head_pathText]
  have hmode : parser.isValue (chars "post-step") = true := rfl
  have hint {z : ℤ} (hz : 0 ≤ z) := (operand_intText hz).isValue parser
  simp only [postStepArguments, List.forall_mem_cons]
  exact ⟨hpy, htool _, htool _, htool _, hpath _, hpath _, htool _,
    h.operand_experimentId.isValue parser, h.operand_runId.isValue parser, hmode, hpath _,
    hint h.stableMs, hint (Int.le_of_lt h.snapshotTimeoutMs),
    (operand_decimalUnits _).isValue parser, hpath _, (operand_decimalUnits _).isValue parser,
    hint (Int.le_of_lt h.timelineReadinessTimeoutMs), hint (Int.le_of_lt h.timelineReadinessPollMs),
    by simp⟩

def postStepOptions : List (List ℕ) :=
  ["--python-executable", "--parser", "--canonicalizer", "--evaluator", "--raw-input",
    "--timestamp-input", "--schema", "--experiment-id", "--run-id", "--mode", "--evidence-root",
    "--stable-ms", "--snapshot-timeout-ms", "--control-index", "--timeline-command-json",
    "--expected-timeline-event-count", "--timeline-readiness-timeout-ms",
    "--timeline-readiness-poll-ms"].map chars

theorem names_postStepArguments (profile : Profile) (index : ℕ) :
    (postStepArguments profile index).map Prod.fst = postStepOptions := rfl

theorem nodup_postStepArguments (profile : Profile) (index : ℕ) :
    ((postStepArguments profile index).map Prod.fst).Nodup := by
  have hnodup : postStepOptions.Nodup := by decide +kernel
  exact names_postStepArguments profile index ▸ hnodup

open StationarityAdapter in
theorem parseArgs_postStep {profile : Profile} (h : profile.Accepted) (index : ℕ) :
    adapterParser.parseArgs ((stationarityCommand profile "post-step" (some index)).drop 2) =
      .ok (postStepArguments profile index) := by
  have hknown : ∀ option ∈ postStepOptions, option ∈ adapterParser.options := by decide +kernel
  have hrequired : ∀ option ∈ adapterParser.required, option ∈ postStepOptions := by decide +kernel
  rw [drop_stationarityCommand]
  refine ArgumentParser.parseArgs_flatten ?_ (values_postStepArguments h index _) ?_
  · intro argument hargument
    exact hknown _ (names_postStepArguments profile index ▸ List.mem_map_of_mem hargument)
  · rwa [names_postStepArguments]

theorem intOfText_intText {z : ℤ} (hnonneg : 0 ≤ z) (hz : z ≤ 60000) :
    intOfText (intText z) = some z := by
  have hbound : z.toNat < 10 ^ maxStrDigits :=
    calc z.toNat < 10 ^ 5 := by omega
      _ ≤ 10 ^ maxStrDigits := Nat.pow_le_pow_right (by decide) (by decide)
  rw [intText_of_nonneg hnonneg, intOfText_decimalUnits hbound, Int.toNat_of_nonneg hnonneg]

theorem intOfText_index {n : ℕ} (hn : n ≤ 60000) : intOfText (decimalUnits n) = some (n : ℤ) := by
  have h := intOfText_intText (Int.natCast_nonneg n) (by exact_mod_cast hn)
  rwa [intText_of_nonneg (Int.natCast_nonneg n), Int.toNat_natCast] at h

/-- The arguments as the adapter has them. -/
def postStepArgs (profile : Profile) (index : ℕ) : StationarityAdapter.Args where
  texts := postStepArguments profile index
  mode := chars "post-step"
  actuatorTimeline := none
  controlIndex := some index
  stableMs := profile.stableMs
  snapshotTimeoutMs := profile.snapshotTimeoutMs
  timelineCommandJson := some (pathText (itemOf profile.timelineJson index))
  expectedTimelineEventCount := some (index * 3 : ℕ)
  timelineReadinessTimeoutMs := profile.timelineReadinessTimeoutMs
  timelineReadinessPollMs := profile.timelineReadinessPollMs

theorem parseArgs_stationarityCommand {profile : Profile} (h : profile.Accepted) {index : ℕ}
    (hindex : index ≤ 6) :
    StationarityAdapter.parseArgs
      ((stationarityCommand profile "post-step" (some index)).drop 2) =
        some (postStepArgs profile index) := by
  have hint {z : ℤ} (hnonneg : 0 ≤ z) (hmem : z ∈ [profile.stableMs, profile.snapshotTimeoutMs,
      profile.timelineReadinessTimeoutMs, profile.timelineReadinessPollMs]) :
      intOfText (intText z) = some z := intOfText_intText hnonneg (h.bounded z hmem)
  have hnodup := nodup_postStepArguments profile index
  have hmem (i : ℕ) {argument : List ℕ × List ℕ}
      (h : (postStepArguments profile index)[i]? = some argument) :
      argument ∈ postStepArguments profile index := List.mem_of_getElem? h
  have hmode : (postStepArguments profile index).choice "--mode" StationarityAdapter.modes =
      some (chars "post-step") := Arguments.choice_of_mem hnodup (hmem 9 rfl) (by decide)
  have hcontrol : (postStepArguments profile index).int "--control-index" =
      some (some (index : ℤ)) := Arguments.int_of_mem hnodup (hmem 13 rfl) (intOfText_index (by omega))
  have hstable : (postStepArguments profile index).int "--stable-ms" =
      some (some profile.stableMs) :=
    Arguments.int_of_mem hnodup (hmem 11 rfl) (hint h.stableMs (by simp))
  have hsnapshot : (postStepArguments profile index).int "--snapshot-timeout-ms" =
      some (some profile.snapshotTimeoutMs) :=
    Arguments.int_of_mem hnodup (hmem 12 rfl) (hint (Int.le_of_lt h.snapshotTimeoutMs) (by simp))
  have hcount : (postStepArguments profile index).int "--expected-timeline-event-count" =
      some (some ((index * 3 : ℕ) : ℤ)) :=
    Arguments.int_of_mem hnodup (hmem 15 rfl) (intOfText_index (by omega))
  have htimeout : (postStepArguments profile index).int "--timeline-readiness-timeout-ms" =
      some (some profile.timelineReadinessTimeoutMs) :=
    Arguments.int_of_mem hnodup (hmem 16 rfl)
      (hint (Int.le_of_lt h.timelineReadinessTimeoutMs) (by simp))
  have hpoll : (postStepArguments profile index).int "--timeline-readiness-poll-ms" =
      some (some profile.timelineReadinessPollMs) :=
    Arguments.int_of_mem hnodup (hmem 17 rfl)
      (hint (Int.le_of_lt h.timelineReadinessPollMs) (by simp))
  have hjson : (postStepArguments profile index).get "--timeline-command-json" =
      some (pathText (itemOf profile.timelineJson index)) :=
    Arguments.get_of_mem hnodup (hmem 14 rfl)
  have htimeline : (postStepArguments profile index).get "--actuator-timeline" = none :=
    Arguments.get_of_not_mem (names_postStepArguments profile index ▸ by decide +kernel)
  rw [StationarityAdapter.parseArgs, parseArgs_postStep h index]
  simp only [Except.toOption, Option.bind_eq_bind, Option.bind_some, hmode, hcontrol, hstable,
    hsnapshot, hcount, htimeout, hpoll, hjson, htimeline]
  rfl

open StationarityAdapter in
/-- The path of the file is taken for the command itself. -/
theorem timeline_refused (profile : Profile) (index : ℕ) :
    parseTimelineCommandTemplate (postStepArgs profile index) =
      .error (refuse "TIMELINE_COMMAND_JSON_INVALID") := by
  obtain ⟨rest, hslash⟩ :=
    List.head?_eq_some_iff.mp (head_pathText (itemOf profile.timelineJson index))
  rw [parseTimelineCommandTemplate, postStepArgs, hslash]
  simp only [decodeTemplate_slash]
  rfl

/-! ### The trigger commands -/

def executorParser : ArgumentParser where
  options := ["--precontrol-json", "--mode", "--max-age-ms", "--output", "--executor-start-utc-ns",
    "--fifo-path", "--trigger-token", "--control-authorization-token"].map chars
  required := ["--precontrol-json", "--mode", "--max-age-ms", "--output"].map chars

/-- `parse_args` of the trigger executor. -/
def parseExecutorArgs (argv : Command) : Option ExecutorArgs := do
  let arguments ← (executorParser.parseArgs argv).toOption
  let mode ← arguments.choice "--mode" (["no-control", "fifo"].map chars)
  let maxAgeMs ← arguments.get "--max-age-ms"
  return {
    mode := if mode = chars "fifo" then .fifo else .noControl
    maxAgeMs
    executorStartUtcNs := arguments.get "--executor-start-utc-ns"
    fifoPath := arguments.get "--fifo-path"
    triggerToken := (arguments.get "--trigger-token").getD (chars "TRIGGER")
    controlAuthorizationToken := arguments.get "--control-authorization-token" }

/-- The command with the executor's own token in the place of the placeholder. -/
def authorize (command : Command) : Command :=
  command.map fun value =>
    if value = controlAuthorizationTokenPlaceholder then chars controlAuthorizationToken else value

/-- In some surroundings the executor submits the trigger. -/
def Usable (command : Command) : Prop :=
  ∃ args, parseExecutorArgs ((authorize command).drop 2) = some args ∧
    ∃ o, (executorMain o args).1 = .ok 0

/-! ### What is generated for the programs -/

/-- The text of a file is a command that the adapter takes. -/
def HoldsTemplate (text : List ℕ) : Prop :=
  ∃ command, StationarityAdapter.decodeTemplate text = .ok command

def transitionIndices : List ℕ := [1, 2, 3, 4, 5, 6]

/-- Every wrapped command is taken apart as it was put together. -/
def Unwrapped (profile : Profile) (binding : Binding) : Prop :=
  Recovers binding.initialStationarityCommand (stationarityCommand profile "initial-pre-step" none)
      (freshnessCommand profile 1) ∧
    List.Forall₂ (fun index (transition : Transition) => index < 6 →
        Recovers transition.postStationarityCommand
          (stationarityCommand profile "post-step" (some index))
          (freshnessCommand profile (index + 1)))
      transitionIndices binding.transitions

/-- The adapter takes the timeline argument of every command behind a step. -/
def TimelinesTaken (profile : Profile) : Prop :=
  ∀ files : AbsolutePath → List ℕ,
    (∀ index ∈ transitionIndices, HoldsTemplate (files (itemOf profile.timelineJson index))) →
    ∀ index ∈ transitionIndices, ∃ args command,
      StationarityAdapter.parseArgs
          ((stationarityCommand profile "post-step" (some index)).drop 2) = some args ∧
        StationarityAdapter.parseTimelineCommandTemplate args = .ok (some command)

/-- The programs accept what is generated for them. -/
structure CommandsAccepted (profile : Profile) (binding : Binding) : Prop where
  unwrapped : Unwrapped profile binding
  timelines : TimelinesTaken profile
  triggers : ∀ transition ∈ binding.transitions, Usable transition.triggerCommand

section
variable {host : Host} {members : Members} {profile : Profile} {binding : Binding}

/-- What the builder makes of a profile. -/
theorem buildBinding_eq_ok (h : buildBinding host profile = .ok binding) :
    binding.initialStationarityCommand =
        handoffCommand profile 1 (stationarityCommand profile "initial-pre-step" none) ∧
      binding.finalizationCommand = finalizationCommand profile ∧
      binding.trafficCommand = trafficCommand profile ∧
      List.Forall₂ (fun index (transition : Transition) =>
          transition.label = transitionLabel index ∧
            ratioBindCommand host profile index = .ok transition.ratioBindCommand ∧
            transition.triggerCommand = triggerCommand profile index ∧
            transition.postStationarityCommand = postStationarityCommand profile index)
        transitionIndices binding.transitions := by
  obtain ⟨transitions, htransitions, h⟩ := bind_eq_ok.mp h
  cases h
  refine ⟨rfl, rfl, rfl, (forall₂_of_mapM_ok htransitions).imp ?_⟩
  intro index transition htransition
  obtain ⟨ratioBind, hratio, htransition⟩ := bind_eq_ok.mp htransition
  cases htransition
  exact ⟨rfl, hratio, rfl, rfl⟩

theorem unwrapped_of_accepted (h : profile.Accepted) (hbinding : buildBinding host profile = .ok binding) :
    Unwrapped profile binding := by
  obtain ⟨hinitial, -, -, htransitions⟩ := buildBinding_eq_ok hbinding
  constructor
  · rw [hinitial]
    exact recovers_handoffCommand h (by decide) 1 none
  · refine htransitions.imp ?_
    rintro index transition ⟨-, -, -, hpost⟩ hlast
    rw [hpost, postStationarityCommand, if_pos hlast]
    exact recovers_handoffCommand h (by decide) (index + 1) (some index)

theorem exists_buildBinding (hwriter : host.isFile host.writer = true) :
    ∃ binding, buildBinding host profile = .ok binding := by
  have hbounds : ∀ index ∈ transitionIndices, 1 ≤ index ∧ index ≤ 6 := by decide
  have hbuilt : ∀ index ∈ transitionIndices, ∃ transition,
      buildTransition host profile index = .ok transition := by
    intro index hindex
    rw [buildTransition, ratioBindCommand, ok_of_require (hbounds index hindex), ok_bind,
      ok_of_require hwriter]
    exact ⟨_, rfl⟩
  obtain ⟨transitions, htransitions⟩ := exists_mapM_eq_ok hbuilt
  have hmap : [1, 2, 3, 4, 5, 6].mapM (buildTransition host profile) = .ok transitions :=
    htransitions
  rw [buildBinding, hmap]
  exact ⟨_, rfl⟩

/-- A file with a timeline command. -/
def sampleTemplate : List ℕ :=
  listText [quoted "/opt/tools/timeline", quoted "@PROMPT12_ACTUATOR_TIMELINE@"]

theorem holdsTemplate_sample : HoldsTemplate sampleTemplate := exists_ok (by decide +kernel)

theorem not_timelinesTaken (h : profile.Accepted) : ¬ TimelinesTaken profile := by
  intro htaken
  obtain ⟨args, command, hargs, htemplate⟩ :=
    htaken (fun _ => sampleTemplate) (fun _ _ => holdsTemplate_sample) 1 (by decide)
  obtain rfl := Option.some.inj ((parseArgs_stationarityCommand h (by decide)).symm.trans hargs)
  rw [timeline_refused] at htemplate
  cases htemplate

end

/-! ### A profile -/

def sampleHost : Host where
  isFile _ := true
  isExecutable _ := true
  writer := absolutePath root (chars "/h/prompt12-pretrigger-ratio-binding-writer.py")

def sampleToolName : ToolName → String
  | .canonicalizer => "canonicalize-iperf-receiver.py"
  | .finalizationAdapter => "prompt12-bounded-finalization-command.py"
  | .freshnessEvaluator => "prompt12-precontrol-freshness.py"
  | .freshnessPolicy => "prompt12-precontrol-freshness-v1.env"
  | .parser => "parse-iperf-receiver.py"
  | .precontrolHandoff => "prompt12-bounded-precontrol-handoff.py"
  | .receiverPipeline => "prompt12-receiver-pipeline.sh"
  | .schema => "iperf-receiver.schema.json"
  | .stationarityAdapter => "prompt12-bounded-stationarity-command.py"
  | .stationarityEvaluator => "evaluate-output-stationarity.py"
  | .timelineBuilder => "build-actuator-timeline.py"
  | .trafficAdapter => "prompt12-bounded-traffic-session.sh"
  | .triggerExecutor => "prompt12-precontrol-trigger-executor.py"

def textMember (key value : String) : List ℕ × Json := (chars key, .str (chars value))

def intMember (key : String) (value : ℤ) : List ℕ × Json :=
  (chars key, .num (NumberLiteral.ofInt value))

def pathItem (front : String) (index : ℕ) (behind : String) : Json :=
  .str (chars front ++ transitionLabel index ++ chars behind)

def sampleMembers : Members :=
  [(chars "schema", .str profileSchema), textMember "python_executable" "/usr/bin/python3",
    textMember "experiment_id" "EXP-20240101-DL-20K-R01",
    textMember "run_id" "RUN-20240101T000000Z-001", textMember "run_directory" "/r/one",
    textMember "receiver_container_name" "receiver", intMember "traffic_duration_s" 150,
    textMember "actuator_fifo_path" "/r/actuator.fifo",
    (chars "control_authorization_token", .str controlAuthorizationTokenPlaceholder),
    textMember "trigger_token" "TRIGGER", intMember "max_age_ms" 800, intMember "stable_ms" 40,
    intMember "snapshot_timeout_ms" 1000, intMember "timeline_readiness_timeout_ms" 5000,
    intMember "timeline_readiness_poll_ms" 100,
    (chars "tool_paths", .obj (ToolName.all.map fun tool =>
      (tool.key, .str (chars "/h/" ++ chars (sampleToolName tool))))),
    (chars "data_paths", .obj (DataName.all.map fun data =>
      (data.key, .str (chars "/r/one/raw/" ++ data.key)))),
    (chars "incremental_timeline_command_json",
      .arr (transitionIndices.map fun index => pathItem "/r/timeline-" index ".json")),
    (chars "ratio_binding_paths", .arr (transitionIndices.map fun index =>
      pathItem "/r/one/runtime/ratio-bindings/" index ".binding.json"))]

theorem sample_accepted : ∃ profile, acceptProfile sampleHost sampleMembers = .ok profile :=
  exists_ok (by decide +kernel)

/-- The hand-off takes every wrapped command apart as the builder put it together, but the
stationarity adapter decodes the path of the timeline command in the place of what the file holds,
so that it refuses every command behind a step. -/
theorem generated_commands_refused {host : Host} {members : Members} {profile : Profile}
    {binding : Binding} (hprofile : acceptProfile host members = .ok profile)
    (hbinding : buildBinding host profile = .ok binding) :
    Unwrapped profile binding ∧
      (∀ index ∈ transitionIndices, ∃ args,
        StationarityAdapter.parseArgs
            ((stationarityCommand profile "post-step" (some index)).drop 2) = some args ∧
          StationarityAdapter.parseTimelineCommandTemplate args =
            .error (StationarityAdapter.refuse "TIMELINE_COMMAND_JSON_INVALID")) ∧
      ¬ CommandsAccepted profile binding := by
  have haccepted := acceptProfile_accepted hprofile
  have hbound : ∀ index ∈ transitionIndices, index ≤ 6 := by decide
  refine ⟨unwrapped_of_accepted haccepted hbinding, fun index hindex => ?_, fun h => ?_⟩
  · exact ⟨_, parseArgs_stationarityCommand haccepted (hbound index hindex),
      timeline_refused profile index⟩
  · exact not_timelinesTaken haccepted h.timelines

theorem generated_commands_refused_sample : ∃ profile binding,
    acceptProfile sampleHost sampleMembers = .ok profile ∧
      buildBinding sampleHost profile = .ok binding ∧ Unwrapped profile binding ∧
      ¬ CommandsAccepted profile binding := by
  obtain ⟨profile, hprofile⟩ := sample_accepted
  obtain ⟨binding, hbinding⟩ : ∃ binding, buildBinding sampleHost profile = .ok binding :=
    exists_buildBinding rfl
  obtain ⟨hunwrapped, -, hnot⟩ := generated_commands_refused hprofile hbinding
  exact ⟨profile, binding, hprofile, hbinding, hunwrapped, hnot⟩

/-- Not even an ordinary profile gives commands that are accepted. -/
theorem timeline_path_taken_for_command : ¬ ∀ (host : Host) (members : Members) (profile : Profile)
    (binding : Binding), acceptProfile host members = .ok profile →
      buildBinding host profile = .ok binding → CommandsAccepted profile binding := by
  intro hall
  obtain ⟨profile, hprofile⟩ := sample_accepted
  obtain ⟨binding, hbinding⟩ : ∃ binding, buildBinding sampleHost profile = .ok binding :=
    exists_buildBinding rfl
  exact not_timelinesTaken (acceptProfile_accepted hprofile)
    (hall sampleHost sampleMembers profile binding hprofile hbinding).timelines

end TcdOran.Harness.ProductionBinding
