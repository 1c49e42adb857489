import TcdOran.Harness.ResumeTransition

/-! The resumed first command against the builder: rewriting the command of the first transition
gives what the builder makes for a later one, but for the directory of the stationarity evidence. -/
namespace TcdOran.Harness.ResumePrecontrol
open TcdOran.Lib Python ProductionBinding
open Handoff hiding Command

/-! ### Options that are given once -/

section
variable {front behind : Command} {option value : List ℕ}

theorem optionPosition_marker (hfront : option ∉ front) (hbehind : option ∉ value :: behind) :
    optionPosition (front ++ option :: value :: behind) option = .ok front.length := by
  have hdrop : (front ++ option :: value :: behind).dropLast =
      front ++ option :: (value :: behind).dropLast := by
    rw [List.dropLast_append_of_ne_nil (by simp), List.dropLast_cons_of_ne_nil (by simp)]
  have hrest : option ∉ (value :: behind).dropLast :=
    fun hmem => hbehind (List.dropLast_subset _ hmem)
  have hone : [front.length].length = 1 := rfl
  rw [optionPosition, optionPositions, hdrop, positionsOf_marker hfront hrest]
  exact congrArg (· >>= fun _ => .ok front.length) (ok_of_require hone)

theorem optionValue_marker (hfront : option ∉ front) (hbehind : option ∉ value :: behind) :
    optionValue (front ++ option :: value :: behind) option = .ok value := by
  have hget : (front ++ option :: value :: behind).getD (front.length + 1) [] = value := by
    simp [List.getD_eq_getElem?_getD]
  rw [optionValue, optionPosition_marker hfront hbehind, ok_bind, hget]
  rfl

theorem replaceOptionValue_marker (hfront : option ∉ front) (hbehind : option ∉ value :: behind)
    (newValue : List ℕ) : replaceOptionValue (front ++ option :: value :: behind) option newValue =
      .ok (front ++ option :: newValue :: behind) := by
  have hset : (front ++ option :: value :: behind).set (front.length + 1) newValue =
      front ++ option :: newValue :: behind := by
    rw [List.set_append_right _ _ (by omega)]
    simp
  rw [replaceOptionValue, optionPosition_marker hfront hbehind, ok_bind, hset]
  rfl

end

/-! ### Paths below the run directory -/

theorem slash_not_mem_component {text name : List ℕ} (h : name ∈ components text) : 47 ∉ name := by
  induction text generalizing name with
  | nil =>
    obtain rfl := List.mem_singleton.mp h
    exact List.not_mem_nil
  | cons u text ih =>
    rw [components, List.splitOn_cons_eq_if_modifyHead] at h
    split at h
    · rcases List.mem_cons.mp h with rfl | hrest
      · exact List.not_mem_nil
      · exact ih hrest
    · next hu =>
      obtain ⟨first, rest, hsplit⟩ := List.exists_cons_of_ne_nil (List.splitOn_ne_nil 47 text)
      have hcomponents : ∀ component ∈ first :: rest, 47 ∉ component := by
        rw [← hsplit]
        exact fun component hmem => ih hmem
      rw [hsplit, List.modifyHead_cons, List.mem_cons] at h
      rcases h with rfl | hrest
      · rw [List.mem_cons, not_or]
        exact ⟨fun heq => hu (by simp [← heq]), hcomponents first List.mem_cons_self⟩
      · exact hcomponents name (List.mem_cons_of_mem first hrest)

theorem pathNames_cons_slash (text : List ℕ) : pathNames (47 :: text) = pathNames text := by
  simp [pathNames, components, List.splitOn_cons_eq_if_modifyHead]

/-- A name that a path keeps. -/
def Kept (name : List ℕ) : Prop := name ≠ [] ∧ name ≠ [46] ∧ 47 ∉ name

instance (name : List ℕ) : Decidable (Kept name) := inferInstanceAs (Decidable (_ ∧ _ ∧ _))

/-- A path as it is read from a text. -/
def Parsed (path : AbsolutePath) : Prop := ∀ name ∈ path.names, Kept name

theorem names_absolutePath {text : List ℕ} (hslash : text.head? = some 47) :
    (absolutePath root text).names = pathNames text := by
  unfold absolutePath
  split
  · rfl
  · rfl
  · rfl
  · rename_i hother
    obtain ⟨rest, rfl⟩ := List.head?_eq_some_iff.mp hslash
    exact absurd rfl (hother rest)

theorem parsed_absolutePath {text : List ℕ} (hslash : text.head? = some 47) :
    Parsed (absolutePath root text) := by
  intro name hname
  rw [names_absolutePath hslash, pathNames, List.mem_filter, decide_eq_true_eq] at hname
  exact ⟨hname.2.1, hname.2.2, slash_not_mem_component hname.1⟩

theorem parsed_joinPath {path : AbsolutePath} {names : List (List ℕ)} (h : Parsed path)
    (hnames : ∀ name ∈ names, Kept name) :
    Parsed (joinPath path names) := by
  intro name hname
  rcases List.mem_append.mp hname with hpath | hnew
  · exact h name hpath
  · exact hnames name hnew

theorem pathNames_posixPath {names : List (List ℕ)} (hne : names ≠ [])
    (h : ∀ name ∈ names, Kept name) :
    pathNames (posixPath names) = names := by
  have hsplit : components (posixPath names) = names :=
    List.splitOn_intercalate 47 (fun name hname => (h name hname).2.2) hne
  rw [pathNames, hsplit, List.filter_eq_self]
  intro name hname
  exact decide_eq_true ⟨(h name hname).1, (h name hname).2.1⟩

section
variable {u : ℕ} (hu : u ≠ 47) (text : List ℕ)
include hu

theorem absolutePath_single : absolutePath root (47 :: u :: text) = ⟨false, pathNames (u :: text)⟩ := by
  simp [absolutePath, hu, pathNames_cons_slash]

theorem absolutePath_double :
    absolutePath root (47 :: 47 :: u :: text) = ⟨true, pathNames (u :: text)⟩ := by
  simp [absolutePath, hu, pathNames_cons_slash]

end

/-- The text of a path is read back as the path. -/
theorem absolutePath_pathText {path : AbsolutePath} (h : Parsed path) (hne : path.names ≠ []) :
    absolutePath root (pathText path) = path := by
  obtain ⟨name, names, hcons⟩ := List.exists_cons_of_ne_nil hne
  have hname := h name (hcons ▸ List.mem_cons_self)
  obtain ⟨u, letters, hletters⟩ := List.exists_cons_of_ne_nil hname.1
  have hu : u ≠ 47 := by
    rintro rfl
    exact hname.2.2 (hletters ▸ List.mem_cons_self)
  obtain ⟨text, htext⟩ : ∃ text, posixPath path.names = u :: text := by
    rw [hcons, hletters]
    cases names with
    | nil => exact ⟨letters, by simp [posixPath, List.intercalate]⟩
    | cons next names => exact ⟨letters ++ 47 :: posixPath (next :: names), posixPath_cons_cons ..⟩
  have hread : pathNames (u :: text) = path.names := htext ▸ pathNames_posixPath hne h
  have hpath : pathText path = if path.doubleSlash then 47 :: 47 :: u :: text else 47 :: u :: text := by
    rw [pathText, htext]
    cases path.doubleSlash <;> rfl
  rw [hpath]
  cases hslash : path.doubleSlash with
  | false =>
    rw [if_neg (by decide), absolutePath_single hu, hread, ← hslash]
  | true =>
    rw [if_pos rfl, absolutePath_double hu, hread, ← hslash]

/-! ### The command of a resumed sequence -/

def attemptRoot (profile : Profile) (index : ℕ) : List ℕ :=
  inRun profile [chars "evidence", chars "precontrol-handoff",
    ProductionBinding.transitionLabel index]

def precontrolOutput (profile : Profile) (index : ℕ) : List ℕ :=
  inRun profile [chars "precontrol", ProductionBinding.transitionLabel index ++ chars ".json"]

def selectedOutput (profile : Profile) (index : ℕ) : List ℕ :=
  inRun profile [chars "precontrol",
    ProductionBinding.transitionLabel index ++ chars ".selected.jsonl"]

def evidenceRoot (profile : Profile) (role : List ℕ) : List ℕ :=
  inRun profile [chars "evidence", chars "stationarity", role]

/-- A stationarity command in front of its mode. -/
def stationarityFront (profile : Profile) : Command :=
  [py profile, toolText profile .stationarityAdapter,
    chars "--python-executable", py profile,
    chars "--parser", toolText profile .parser,
    chars "--canonicalizer", toolText profile .canonicalizer,
    chars "--evaluator", toolText profile .stationarityEvaluator,
    chars "--raw-input", inRun profile [chars "raw", chars "iperf3-receiver.stdout.log"],
    chars "--timestamp-input",
      inRun profile [chars "raw", chars "iperf3-receiver.timestamps.jsonl"],
    chars "--schema", toolText profile .schema] ++ identityOptions profile

/-- A freshness command in front of its outputs. -/
def freshnessFront (profile : Profile) : Command :=
  [py profile, toolText profile .freshnessEvaluator,
    chars "--input", canonicalIntervalsToken,
    chars "--schema", toolText profile .schema,
    chars "--policy", toolText profile .freshnessPolicy,
    chars "--evaluator", toolText profile .stationarityEvaluator] ++ identityOptions profile ++
  [chars "--decision-utc-ns", decisionUtcNsToken]

def timingOptions (profile : Profile) : Command :=
  [chars "--stable-ms", intText profile.stableMs,
    chars "--snapshot-timeout-ms", intText profile.snapshotTimeoutMs]

def outputTokens : Command :=
  [chars "--stationarity-output", stationarityJsonToken, chars "--output", precontrolJsonToken]

/-- The hand-off command in front of the mode. -/
def handoffFront (profile : Profile) (attempt output : ℕ) : Command :=
  [py profile, toolText profile .precontrolHandoff, chars "--attempt-root",
    attemptRoot profile attempt, chars "--precontrol-output", precontrolOutput profile output,
    stationarityMarker] ++ stationarityFront profile

/-- The hand-off command behind the directory of the stationarity evidence. -/
def handoffBehind (profile : Profile) (selected : ℕ) : Command :=
  timingOptions profile ++ freshnessMarker :: (freshnessFront profile ++
    chars "--selected-output" :: selectedOutput profile selected :: outputTokens)

/-- The command while it is rewritten: each of its files may already belong to another
transition. -/
def mixedCommand (profile : Profile) (attempt output : ℕ) (role : List ℕ) (selected : ℕ) : Command :=
  handoffFront profile attempt output ++ chars "--mode" :: chars "initial-pre-step" ::
    chars "--evidence-root" :: evidenceRoot profile role :: handoffBehind profile selected

theorem handoffCommand_eq_mixed (profile : Profile) (index : ℕ) :
    handoffCommand profile index (stationarityCommand profile "initial-pre-step" none) =
      mixedCommand profile index index (chars "initial") index := by
  simp [handoffCommand, stationarityCommand, freshnessCommand, mixedCommand, handoffFront,
    handoffBehind, stationarityFront, freshnessFront, timingOptions, outputTokens, attemptRoot,
    precontrolOutput, selectedOutput, evidenceRoot, stationarityMarker, freshnessMarker]

/-! ### Where the options are -/

/-- The arguments that look like an option. -/
def optionsOf (command : Command) : Command := command.filter fun value => value.head? = some 45

theorem count_optionsOf (command : Command) {option : List ℕ} (hoption : option.head? = some 45) :
    (optionsOf command).count option = command.count option :=
  List.count_filter (decide_eq_true hoption)

theorem optionsOf_cons_word {word : List ℕ} (hword : word.head? = some 45) (command : Command) :
    optionsOf (word :: command) = word :: optionsOf command :=
  List.filter_cons_of_pos (decide_eq_true hword)

theorem optionsOf_cons_other {value : List ℕ} (hvalue : value.head? ≠ some 45) (command : Command) :
    optionsOf (value :: command) = optionsOf command :=
  List.filter_cons_of_neg (by simpa using hvalue)

theorem optionsOf_append (front behind : Command) :
    optionsOf (front ++ behind) = optionsOf front ++ optionsOf behind := List.filter_append ..

theorem head_operand {value : List ℕ} (h : Operand value) : value.head? ≠ some 45 := by
  obtain ⟨u, hu, hne, -⟩ := h.head
  rw [hu]
  exact fun heq => hne (Option.some.inj heq)

theorem head_inRun (profile : Profile) (names : List (List ℕ)) :
    (inRun profile names).head? ≠ some 45 := by
  rw [inRun, head_pathText]
  decide

section
variable {profile : Profile} (h : profile.Accepted)
include h

theorem optionsOf_identity : optionsOf (identityOptions profile) = identityWords := by
  rw [identityOptions, optionsOf_cons_word (by decide),
    optionsOf_cons_other (head_operand h.operand_experimentId), optionsOf_cons_word (by decide),
    optionsOf_cons_other (head_operand h.operand_runId)]
  rfl

theorem optionsOf_stationarityFront : optionsOf (stationarityFront profile) =
    ["--python-executable", "--parser", "--canonicalizer", "--evaluator", "--raw-input",
      "--timestamp-input", "--schema"].map chars ++ identityWords := by
  have hpy := head_operand h.operand_py
  have htool (tool : ToolName) := head_operand (h.operand_toolText tool)
  rw [stationarityFront, optionsOf_append, optionsOf_identity h]
  congr 1
  rw [optionsOf_cons_other hpy, optionsOf_cons_other (htool _), optionsOf_cons_word (by decide),
    optionsOf_cons_other hpy, optionsOf_cons_word (by decide), optionsOf_cons_other (htool _),
    optionsOf_cons_word (by decide), optionsOf_cons_other (htool _),
    optionsOf_cons_word (by decide), optionsOf_cons_other (htool _),
    optionsOf_cons_word (by decide), optionsOf_cons_other (head_inRun profile _),
    optionsOf_cons_word (by decide), optionsOf_cons_other (head_inRun profile _),
    optionsOf_cons_word (by decide), optionsOf_cons_other (htool _)]
  rfl

theorem optionsOf_freshnessFront : optionsOf (freshnessFront profile) =
    ["--input", "--schema", "--policy", "--evaluator"].map chars ++ identityWords ++
      [chars "--decision-utc-ns"] := by
  have hpy := head_operand h.operand_py
  have htool (tool : ToolName) := head_operand (h.operand_toolText tool)
  rw [freshnessFront, optionsOf_append, optionsOf_append, optionsOf_identity h]
  congr 2
  rw [optionsOf_cons_other hpy, optionsOf_cons_other (htool _), optionsOf_cons_word (by decide),
    optionsOf_cons_other (by decide), optionsOf_cons_word (by decide),
    optionsOf_cons_other (htool _), optionsOf_cons_word (by decide),
    optionsOf_cons_other (htool _), optionsOf_cons_word (by decide),
    optionsOf_cons_other (htool _)]
  rfl

theorem optionsOf_timingOptions :
    optionsOf (timingOptions profile) = ["--stable-ms", "--snapshot-timeout-ms"].map chars := by
  rw [timingOptions, optionsOf_cons_word (by decide),
    optionsOf_cons_other (head_operand (operand_intText h.stableMs)),
    optionsOf_cons_word (by decide),
    optionsOf_cons_other (head_operand (operand_intText (Int.le_of_lt h.snapshotTimeoutMs)))]
  rfl

/-- Which options the command has does not depend on the profile. -/
def mixedOptions : Command :=
  ["--attempt-root", "--precontrol-output", "--stationarity-command", "--python-executable",
    "--parser", "--canonicalizer", "--evaluator", "--raw-input", "--timestamp-input", "--schema",
    "--experiment-id", "--run-id", "--mode", "--evidence-root", "--stable-ms",
    "--snapshot-timeout-ms", "--freshness-command", "--input", "--schema", "--policy",
    "--evaluator", "--experiment-id", "--run-id", "--decision-utc-ns", "--selected-output",
    "--stationarity-output", "--output"].map chars

theorem optionsOf_mixed (attempt output : ℕ) (role : List ℕ) (selected : ℕ) :
    optionsOf (mixedCommand profile attempt output role selected) = mixedOptions := by
  have hpy := head_operand h.operand_py
  have htool := head_operand (h.operand_toolText .precontrolHandoff)
  have hattempt : (attemptRoot profile attempt).head? ≠ some 45 := head_inRun profile _
  have houtput : (precontrolOutput profile output).head? ≠ some 45 := head_inRun profile _
  have hselected : (selectedOutput profile selected).head? ≠ some 45 := head_inRun profile _
  have hroot : (evidenceRoot profile role).head? ≠ some 45 := head_inRun profile _
  rw [mixedCommand, handoffFront, optionsOf_append, optionsOf_append, optionsOf_stationarityFront h,
    optionsOf_cons_other hpy, optionsOf_cons_other htool, optionsOf_cons_word (by decide),
    optionsOf_cons_other hattempt, optionsOf_cons_word (by decide), optionsOf_cons_other houtput,
    optionsOf_cons_word (by decide), optionsOf_cons_word (by decide),
    optionsOf_cons_other (by decide), optionsOf_cons_word (by decide), optionsOf_cons_other hroot,
    handoffBehind, optionsOf_append, optionsOf_timingOptions h, optionsOf_cons_word (by decide),
    optionsOf_append, optionsOf_freshnessFront h, optionsOf_cons_word (by decide),
    optionsOf_cons_other hselected]
  rfl

theorem count_mixed (attempt output : ℕ) (role : List ℕ) (selected : ℕ) {option : List ℕ}
    (hoption : option.head? = some 45) :
    (mixedCommand profile attempt output role selected).count option = mixedOptions.count option := by
  rw [← count_optionsOf _ hoption, optionsOf_mixed h]

theorem not_mem_mixed (attempt output : ℕ) (role : List ℕ) (selected : ℕ) {option : List ℕ}
    (hoption : option ∈ forbiddenOptions) :
    option ∉ mixedCommand profile attempt output role selected := by
  have hfacts : ∀ option ∈ forbiddenOptions,
      option.head? = some 45 ∧ mixedOptions.count option = 0 := by decide
  rw [← List.count_eq_zero, count_mixed h _ _ _ _ (hfacts option hoption).1]
  exact (hfacts option hoption).2

end

/-! ### Reading and replacing the four paths -/

theorem absent_of_count {front behind : Command} {option : List ℕ}
    (h : (front ++ option :: behind).count option = 1) : option ∉ front ∧ option ∉ behind := by
  rw [List.count_append, List.count_cons_self] at h
  exact ⟨List.count_eq_zero.mp (by omega), List.count_eq_zero.mp (by omega)⟩

section
variable {profile : Profile} (h : profile.Accepted) (attempt output : ℕ) (role : List ℕ)
  (selected : ℕ)
include h

/-- An option of the command that is given once is found in front of its value. -/
theorem option_of_split (front : Command) {behind : Command} {option value : List ℕ}
    (hoption : option.head? = some 45) (honce : mixedOptions.count option = 1)
    (hsplit : mixedCommand profile attempt output role selected =
      front ++ option :: value :: behind) :
    optionValue (mixedCommand profile attempt output role selected) option = .ok value ∧
      ∀ newValue, replaceOptionValue (mixedCommand profile attempt output role selected) option
        newValue = .ok (front ++ option :: newValue :: behind) := by
  have hcount := count_mixed h attempt output role selected hoption
  rw [honce, hsplit] at hcount
  obtain ⟨hfront, hbehind⟩ := absent_of_count hcount
  rw [hsplit]
  exact ⟨optionValue_marker hfront hbehind, replaceOptionValue_marker hfront hbehind⟩

theorem attemptRoot_option :
    optionValue (mixedCommand profile attempt output role selected) (chars "--attempt-root") =
        .ok (attemptRoot profile attempt) ∧
      ∀ index, replaceOptionValue (mixedCommand profile attempt output role selected)
        (chars "--attempt-root") (attemptRoot profile index) =
          .ok (mixedCommand profile index output role selected) := by
  obtain ⟨hvalue, hreplace⟩ := option_of_split h attempt output role selected
    [py profile, toolText profile .precontrolHandoff] (by decide) (by decide) rfl
  exact ⟨hvalue, fun index => hreplace (attemptRoot profile index)⟩

theorem precontrolOutput_option :
    optionValue (mixedCommand profile attempt output role selected)
        (chars "--precontrol-output") = .ok (precontrolOutput profile output) ∧
      ∀ index, replaceOptionValue (mixedCommand profile attempt output role selected)
        (chars "--precontrol-output") (precontrolOutput profile index) =
          .ok (mixedCommand profile attempt index role selected) := by
  obtain ⟨hvalue, hreplace⟩ := option_of_split h attempt output role selected
    [py profile, toolText profile .precontrolHandoff, chars "--attempt-root",
      attemptRoot profile attempt] (by decide) (by decide) rfl
  exact ⟨hvalue, fun index => hreplace (precontrolOutput profile index)⟩

theorem mode_option :
    optionValue (mixedCommand profile attempt output role selected) (chars "--mode") =
      .ok (chars "initial-pre-step") :=
  (option_of_split h attempt output role selected (handoffFront profile attempt output)
    (by decide) (by decide) rfl).1

theorem evidenceRoot_option :
    optionValue (mixedCommand profile attempt output role selected) (chars "--evidence-root") =
        .ok (evidenceRoot profile role) ∧
      ∀ other, replaceOptionValue (mixedCommand profile attempt output role selected)
        (chars "--evidence-root") (evidenceRoot profile other) =
          .ok (mixedCommand profile attempt output other selected) := by
  have hsplit (other : List ℕ) : mixedCommand profile attempt output other selected =
      (handoffFront profile attempt output ++ [chars "--mode", chars "initial-pre-step"]) ++
        chars "--evidence-root" :: evidenceRoot profile other :: handoffBehind profile selected := by
    rw [List.append_assoc]
    rfl
  obtain ⟨hvalue, hreplace⟩ :=
    option_of_split h attempt output role selected _ (by decide) (by decide) (hsplit role)
  exact ⟨hvalue, fun other => (hreplace (evidenceRoot profile other)).trans (by rw [hsplit other])⟩

theorem selectedOutput_option :
    optionValue (mixedCommand profile attempt output role selected) (chars "--selected-output") =
        .ok (selectedOutput profile selected) ∧
      ∀ index, replaceOptionValue (mixedCommand profile attempt output role selected)
        (chars "--selected-output") (selectedOutput profile index) =
          .ok (mixedCommand profile attempt output role index) := by
  have hsplit (index : ℕ) : mixedCommand profile attempt output role index =
      (handoffFront profile attempt output ++ [chars "--mode", chars "initial-pre-step",
        chars "--evidence-root", evidenceRoot profile role] ++ timingOptions profile ++
        freshnessMarker :: freshnessFront profile) ++
        chars "--selected-output" :: selectedOutput profile index :: outputTokens := by
    simp [mixedCommand, handoffBehind]
  obtain ⟨hvalue, hreplace⟩ :=
    option_of_split h attempt output role selected _ (by decide) (by decide) (hsplit selected)
  exact ⟨hvalue, fun index => (hreplace (selectedOutput profile index)).trans (by rw [hsplit index])⟩

end

/-! ### Rewriting the paths -/

theorem kept_label (index : ℕ) {behind : List ℕ} (h : 47 ∉ behind) :
    Kept (ProductionBinding.transitionLabel index ++ behind) := by
  have hslash : 47 ∉ decimalUnits index := fun hmem =>
    absurd (isDigit_of_mem_decimalUnits hmem) (by decide)
  have hcons : ProductionBinding.transitionLabel index ++ behind =
      84 :: (decimalUnits index ++ behind) := rfl
  rw [hcons]
  refine ⟨List.cons_ne_nil _ _, fun heq => absurd (List.cons.inj heq).1 (by decide), ?_⟩
  rw [List.mem_cons, List.mem_append, not_or, not_or]
  exact ⟨by decide, hslash, h⟩

section
variable {profile : Profile} (hrun : Parsed profile.runDirectory)
include hrun

/-- The last name of a path below the run directory is replaced. -/
theorem replaceTransitionPath_inRun (names : List (List ℕ)) (expected target field : List ℕ)
    (hnames : ∀ name ∈ names ++ [expected], Kept name) :
    replaceTransitionPath (inRun profile (names ++ [expected])) expected target field =
      .ok (inRun profile (names ++ [target])) := by
  have hparsed : Parsed (joinPath profile.runDirectory (names ++ [expected])) :=
    parsed_joinPath hrun hnames
  have hread : absolutePath root (inRun profile (names ++ [expected])) =
      joinPath profile.runDirectory (names ++ [expected]) :=
    absolutePath_pathText hparsed (by simp [joinPath])
  have hhead : (inRun profile (names ++ [expected])).head? = some 47 := head_pathText _
  have hlast : lastName (joinPath profile.runDirectory (names ++ [expected])).names = expected := by
    simp [lastName, joinPath]
  have hjoin : (joinPath profile.runDirectory (names ++ [expected])).names.dropLast ++ [target] =
      profile.runDirectory.names ++ (names ++ [target]) := by
    rw [joinPath, ← List.append_assoc, List.dropLast_concat, List.append_assoc]
  rw [replaceTransitionPath, ok_of_require hhead, ok_bind]
  simp only [hread]
  rw [ok_of_require hlast, ok_bind, hjoin]
  rfl

theorem attemptRoot_replaced (index : ℕ) :
    replaceTransitionPath (attemptRoot profile 1) (chars "T1")
        (ProductionBinding.transitionLabel index) (chars "ATTEMPT_ROOT") =
      .ok (attemptRoot profile index) :=
  replaceTransitionPath_inRun hrun [chars "evidence", chars "precontrol-handoff"] (chars "T1") _ _
    (by decide)

theorem precontrolOutput_replaced (index : ℕ) :
    replaceTransitionPath (precontrolOutput profile 1) (chars "T1.json")
        (ProductionBinding.transitionLabel index ++ chars ".json") (chars "PRECONTROL_OUTPUT") =
      .ok (precontrolOutput profile index) :=
  replaceTransitionPath_inRun hrun [chars "precontrol"] (chars "T1.json") _ _ (by decide)

theorem selectedOutput_replaced (index : ℕ) :
    replaceTransitionPath (selectedOutput profile 1) (chars "T1.selected.jsonl")
        (ProductionBinding.transitionLabel index ++ chars ".selected.jsonl")
        (chars "SELECTED_OUTPUT") = .ok (selectedOutput profile index) :=
  replaceTransitionPath_inRun hrun [chars "precontrol"] (chars "T1.selected.jsonl") _ _ (by decide)

theorem evidenceRoot_replaced (role : List ℕ) :
    replaceTransitionPath (evidenceRoot profile (chars "initial")) (chars "initial") role
        (chars "STATIONARITY_EVIDENCE_ROOT") = .ok (evidenceRoot profile role) :=
  replaceTransitionPath_inRun hrun [chars "evidence", chars "stationarity"] (chars "initial") _ _
    (by decide)

variable (h : profile.Accepted)
include h

/-- The rewritten command belongs to the transition in all its files. -/
theorem retarget_mixed (index : ℕ) :
    retarget (mixedCommand profile 1 1 (chars "initial") 1)
        (ProductionBinding.transitionLabel index) =
      .ok (mixedCommand profile index index
        (chars "resume-" ++ ProductionBinding.transitionLabel index) index) := by
  rw [retarget, (attemptRoot_option h 1 1 (chars "initial") 1).1, ok_bind,
    (precontrolOutput_option h 1 1 (chars "initial") 1).1, ok_bind,
    (selectedOutput_option h 1 1 (chars "initial") 1).1, ok_bind,
    (evidenceRoot_option h 1 1 (chars "initial") 1).1, ok_bind, retargetOption,
    attemptRoot_replaced hrun, ok_bind, (attemptRoot_option h 1 1 (chars "initial") 1).2, ok_bind,
    retargetOption, precontrolOutput_replaced hrun, ok_bind,
    (precontrolOutput_option h index 1 (chars "initial") 1).2, ok_bind, retargetOption,
    selectedOutput_replaced hrun, ok_bind,
    (selectedOutput_option h index index (chars "initial") 1).2, ok_bind, retargetOption,
    evidenceRoot_replaced hrun, ok_bind, (evidenceRoot_option h index index (chars "initial") index).2]

end

/-! ### The checks of the resumed command -/

section
variable {profile : Profile} (hrun : Parsed profile.runDirectory) (h : profile.Accepted)
  (index : ℕ) (role : List ℕ)
include hrun h

theorem checkCommand_mixed :
    checkCommand (mixedCommand profile index index role index)
      (ProductionBinding.transitionLabel index) = .ok () := by
  have hoptions : forbiddenOptions.forM (fun option =>
      require (option ∉ mixedCommand profile index index role index)
        (chars "RESUME_INITIAL_COMMAND_FORBIDDEN_OPTION:" ++ option)) = .ok () :=
    forM_eq_ok.mpr fun option hoption =>
      ok_of_require (not_mem_mixed h index index role index hoption)
  have hname : pathName (precontrolOutput profile index) =
      ProductionBinding.transitionLabel index ++ chars ".json" := by
    have hparsed : Parsed (joinPath profile.runDirectory
        [chars "precontrol", ProductionBinding.transitionLabel index ++ chars ".json"]) := by
      refine parsed_joinPath hrun (List.forall_mem_cons.mpr ⟨by decide, ?_⟩)
      exact List.forall_mem_singleton.mpr (kept_label index (by decide))
    rw [pathName, precontrolOutput, inRun, ← names_absolutePath (head_pathText _),
      absolutePath_pathText hparsed (by simp [joinPath])]
    simp [lastName, joinPath]
  rw [checkCommand, mode_option h, ok_bind, ok_of_require rfl, ok_bind, hoptions, ok_bind,
    (precontrolOutput_option h index index role index).1, ok_bind, ok_of_require hname]

end

/-! ### What is left of the first transition -/

/-- No fragment that names a file of the first transition. -/
def FragmentFree (text : List ℕ) : Prop := ∀ fragment ∈ forbiddenFragments, ¬ fragment <:+: text

theorem fragmentFree_of_noSlash {text : List ℕ} (h : 47 ∉ text) : FragmentFree text := by
  have hslash : ∀ fragment ∈ forbiddenFragments, 47 ∈ fragment := by decide
  exact fun fragment hfragment hin => h (hin.subset (hslash fragment hfragment))

theorem FragmentFree.front {text front : List ℕ} (h : FragmentFree text) (hfront : front <+: text) :
    FragmentFree front :=
  fun fragment hfragment hin => h fragment hfragment (hin.trans hfront.isInfix)

/-- A fragment of two joined texts is in one of them, or its end begins the second. -/
theorem not_infix_append {fragment front behind : List ℕ} (hfront : ¬ fragment <:+: front)
    (hbehind : ¬ fragment <:+: behind)
    (hcross : ∀ part ∈ fragment.tails, part ≠ [] → ¬ part <+: behind) :
    ¬ fragment <:+: front ++ behind := by
  rintro ⟨before, after, hsplit⟩
  rcases List.append_eq_append_iff.mp hsplit with ⟨rest, hin, -⟩ | ⟨rest, hover, hrest⟩
  · exact hfront ⟨before, rest, hin.symm⟩
  rcases List.append_eq_append_iff.mp hover with ⟨start, hin, hparts⟩ | ⟨start, -, hin⟩
  · by_cases hnil : rest = []
    · refine hfront ⟨before, [], ?_⟩
      rw [hin, hparts, hnil, List.append_nil, List.append_nil]
    · exact hcross rest ((List.mem_tails _ _).mpr ⟨start, hparts.symm⟩) hnil ⟨after, hrest.symm⟩
  · exact hbehind ⟨start, after, by rw [hrest, hin]⟩

theorem posixPath_append {front behind : List (List ℕ)} (hfront : front ≠ []) (hbehind : behind ≠ []) :
    posixPath (front ++ behind) = posixPath front ++ 47 :: posixPath behind := by
  induction front with
  | nil => exact absurd rfl hfront
  | cons name front ih =>
    cases front with
    | nil =>
      obtain ⟨next, rest, rfl⟩ := List.exists_cons_of_ne_nil hbehind
      rw [List.singleton_append, posixPath_cons_cons]
      simp [posixPath, List.intercalate]
    | cons next front =>
      rw [List.cons_append, List.cons_append, posixPath_cons_cons, ← List.cons_append,
        ih (List.cons_ne_nil _ _), posixPath_cons_cons, List.append_assoc, List.cons_append]

/-- A path below another begins with the other's text, less a slash at its end. -/
theorem pathText_joinPath (path : AbsolutePath) {names : List (List ℕ)} (hne : names ≠ []) :
    ∃ front, front <+: pathText path ∧
      pathText (joinPath path names) = front ++ 47 :: posixPath names := by
  by_cases hnames : path.names = []
  · refine ⟨if path.doubleSlash then [47] else [], ?_, ?_⟩
    · rw [pathText, hnames]
      cases path.doubleSlash <;> decide
    · rw [pathText, joinPath, hnames, List.nil_append]
      cases path.doubleSlash <;> rfl
  · refine ⟨pathText path, List.prefix_rfl, ?_⟩
    rw [pathText, pathText, joinPath, posixPath_append hnames hne, List.append_assoc]

/-- Names that complete no fragment, whatever path they are put below. -/
def FreeBelow (names : List (List ℕ)) : Prop :=
  ∀ fragment ∈ forbiddenFragments, ¬ fragment <:+: 47 :: posixPath names ∧
    ∀ part ∈ fragment.tails, part ≠ [] → ¬ part <+: 47 :: posixPath names

instance (names : List (List ℕ)) : Decidable (FreeBelow names) :=
  inferInstanceAs (Decidable (∀ fragment ∈ forbiddenFragments, _ ∧ _))

theorem fragmentFree_inRun {profile : Profile} (h : FragmentFree (pathText profile.runDirectory))
    {names : List (List ℕ)} (hne : names ≠ []) (hnames : FreeBelow names) :
    FragmentFree (inRun profile names) := by
  obtain ⟨front, hfront, htext⟩ := pathText_joinPath profile.runDirectory hne
  intro fragment hfragment
  rw [inRun, htext]
  obtain ⟨hin, hcross⟩ := hnames fragment hfragment
  exact not_infix_append (h.front hfront fragment hfragment) hin hcross

/-- The files of a later transition. -/
theorem freeBelow_later : ∀ index ∈ [2, 3, 4, 5, 6],
    FreeBelow [chars "evidence", chars "precontrol-handoff",
      ProductionBinding.transitionLabel index] ∧
    FreeBelow [chars "precontrol", ProductionBinding.transitionLabel index ++ chars ".json"] ∧
    FreeBelow [chars "precontrol",
      ProductionBinding.transitionLabel index ++ chars ".selected.jsonl"] ∧
    FreeBelow [chars "evidence", chars "stationarity",
      chars "resume-" ++ ProductionBinding.transitionLabel index] := by
  decide +kernel

/-- The paths of a profile. -/
def profilePaths (profile : Profile) : List AbsolutePath :=
  [profile.python, profile.runDirectory, profile.fifo] ++ ToolName.all.map profile.tools ++
    DataName.all.map profile.data ++ profile.timelineJson ++ profile.ratioBindingPaths

/-- No path of the profile names a file of the first transition. -/
def NoT1Reference (profile : Profile) : Prop :=
  ∀ path ∈ profilePaths profile, FragmentFree (pathText path)

theorem slash_not_mem_of_fullmatch {pattern : Pattern} {text : List ℕ}
    (h : fullmatch pattern text = true) (hpattern : ∀ item ∈ pattern, item.holds 47 = false) :
    47 ∉ text := by
  intro hmem
  obtain ⟨item, hitem, hholds⟩ := exists_item_of_mem_fullmatch h hmem
  rw [hpattern item hitem] at hholds
  cases hholds

section
variable {profile : Profile} (h : profile.Accepted) (hfree : NoT1Reference profile)

theorem NoT1Reference.path {path : AbsolutePath} (hfree : NoT1Reference profile)
    (hpath : path ∈ [profile.python, profile.runDirectory, profile.fifo] ++
      ToolName.all.map profile.tools) : FragmentFree (pathText path) :=
  hfree path (by simp only [profilePaths, List.mem_append] at hpath ⊢; tauto)

include h in
theorem fragmentFree_identity : ∀ item ∈ identityOptions profile, FragmentFree item := by
  have hexperiment : 47 ∉ profile.experimentId := by
    have hvalid := h.experimentId.1
    rw [validExperimentId, Bool.or_eq_true] at hvalid
    rcases hvalid with hmatch | hmatch
    · exact slash_not_mem_of_fullmatch hmatch (by decide)
    · exact slash_not_mem_of_fullmatch hmatch (by decide)
  have hrunId : 47 ∉ profile.runId := slash_not_mem_of_fullmatch h.runId.1 (by decide)
  simp only [identityOptions, List.forall_mem_cons]
  exact ⟨fragmentFree_of_noSlash (by decide), fragmentFree_of_noSlash hexperiment,
    fragmentFree_of_noSlash (by decide), fragmentFree_of_noSlash hrunId, by simp⟩

theorem fragmentFree_number {z : ℤ} (hz : 0 ≤ z) : FragmentFree (intText z) := by
  apply fragmentFree_of_noSlash
  rw [intText_of_nonneg hz]
  exact fun hmem => absurd (isDigit_of_mem_decimalUnits hmem) (by decide)

include h hfree

theorem fragmentFree_stationarityFront : ∀ item ∈ stationarityFront profile, FragmentFree item := by
  have hword {word : List ℕ} (hword : 47 ∉ word) := fragmentFree_of_noSlash hword
  have hpy : FragmentFree (py profile) := hfree.path (by simp)
  have htool (tool : ToolName) : FragmentFree (toolText profile tool) :=
    hfree.path (by cases tool <;> simp [ToolName.all])
  have hrun : FragmentFree (pathText profile.runDirectory) := hfree.path (by simp)
  rw [stationarityFront, List.forall_mem_append]
  refine ⟨?_, fragmentFree_identity h⟩
  simp only [List.forall_mem_cons]
  exact ⟨hpy, htool _, hword (by decide), hpy, hword (by decide), htool _, hword (by decide),
    htool _, hword (by decide), htool _, hword (by decide),
    fragmentFree_inRun hrun (by simp) (by decide +kernel), hword (by decide),
    fragmentFree_inRun hrun (by simp) (by decide +kernel), hword (by decide), htool _, by simp⟩

theorem fragmentFree_freshnessFront : ∀ item ∈ freshnessFront profile, FragmentFree item := by
  have hword {word : List ℕ} (hword : 47 ∉ word) := fragmentFree_of_noSlash hword
  have hpy : FragmentFree (py profile) := hfree.path (by simp)
  have htool (tool : ToolName) : FragmentFree (toolText profile tool) :=
    hfree.path (by cases tool <;> simp [ToolName.all])
  rw [freshnessFront, List.forall_mem_append, List.forall_mem_append]
  refine ⟨⟨?_, fragmentFree_identity h⟩, ?_⟩
  · simp only [List.forall_mem_cons]
    exact ⟨hpy, htool _, hword (by decide), hword (by decide), hword (by decide), htool _,
      hword (by decide), htool _, hword (by decide), htool _, by simp⟩
  · simp only [List.forall_mem_cons]
    exact ⟨hword (by decide), hword (by decide), by simp⟩

/-- The command of a later transition names no file of the first one. -/
theorem fragmentFree_mixed {index : ℕ} (hindex : index ∈ [2, 3, 4, 5, 6]) :
    ∀ item ∈ mixedCommand profile index index
      (chars "resume-" ++ ProductionBinding.transitionLabel index) index, FragmentFree item := by
  have hword {word : List ℕ} (hword : 47 ∉ word) := fragmentFree_of_noSlash hword
  have hpy : FragmentFree (py profile) := hfree.path (by simp)
  have htool : FragmentFree (toolText profile .precontrolHandoff) :=
    hfree.path (by simp [ToolName.all])
  have hrun : FragmentFree (pathText profile.runDirectory) := hfree.path (by simp)
  obtain ⟨hattempt, houtput, hselected, hroot⟩ := freeBelow_later index hindex
  have hfiles {names : List (List ℕ)} (hne : names ≠ []) (hnames : FreeBelow names) :
      FragmentFree (inRun profile names) := fragmentFree_inRun hrun hne hnames
  simp only [mixedCommand, handoffFront, handoffBehind, timingOptions, outputTokens,
    List.forall_mem_append, List.forall_mem_cons]
  exact ⟨⟨⟨hpy, htool, hword (by decide), hfiles (by simp) hattempt, hword (by decide),
    hfiles (by simp) houtput, hword (by decide), by simp⟩, fragmentFree_stationarityFront h hfree⟩,
    hword (by decide), hword (by decide), hword (by decide), hfiles (by simp) hroot,
    ⟨hword (by decide), fragmentFree_number h.stableMs, hword (by decide),
      fragmentFree_number (Int.le_of_lt h.snapshotTimeoutMs), by simp⟩,
    hword (by decide), fragmentFree_freshnessFront h hfree, hword (by decide),
    hfiles (by simp) hselected, hword (by decide), hword (by decide), hword (by decide),
    hword (by decide), by simp⟩

end

/-! ### Materializing what the builder returns -/

section
variable {host : Host} {members : Members} {profile : Profile} {binding : Binding}

/-- The manifest with the builder's binding passes the checks. -/
theorem validateManifest_eq (h : profile.Accepted)
    (hbinding : buildBinding host profile = .ok binding) :
    validateManifest binding = .ok (mixedCommand profile 1 1 (chars "initial") 1) := by
  obtain ⟨hinitial, -, -, htransitions⟩ := buildBinding_eq_ok hbinding
  have hwords : ResumeTransition.Words binding.initialStationarityCommand :=
    hinitial ▸ ResumeTransition.words_handoffCommand h 1
      (ResumeTransition.words_stationarityCommand h "initial-pre-step" (by decide) none)
  have hcount : binding.transitions.length = 6 := htransitions.length_eq.symm
  have horder : List.Forall₂ (fun index (transition : Transition) =>
      checkOrder transition index = .ok ()) (List.range' 1 6) binding.transitions :=
    htransitions.imp fun index transition hfacts => ok_of_require hfacts.1
  rw [handoffCommand_eq_mixed] at hinitial
  have habsent : ∀ option ∈ forbiddenOptions,
      option ∉ mixedCommand profile 1 1 (chars "initial") 1 := fun option hoption =>
    not_mem_mixed h 1 1 (chars "initial") 1 hoption
  rw [validateManifest, requireCommand, ok_of_require hwords.1, ok_bind, ok_of_require hwords.2,
    ok_bind, hinitial, pure_bind, ok_of_require hcount, ok_bind]
  refine bind_eq_ok.mpr ⟨(), forM_eq_ok.mpr (ResumeTransition.forall_zipIdx_of_range horder), ?_⟩
  rw [mode_option h, ok_bind, ok_of_require rfl, ok_bind, ok_of_require (habsent _ (by decide)), ok_bind,
    ok_of_require (habsent _ (by decide)), ok_bind, ok_of_require (habsent _ (by decide))]
  rfl

theorem requireAbsolutePath_parsed {value : Json} {label : List ℕ} {mustExist : Bool}
    {path : AbsolutePath} (h : requireAbsolutePath host value label mustExist = .ok path) :
    Parsed path := by
  obtain ⟨raw, -, h⟩ := bind_eq_ok.mp h
  simp only [require_bind_eq_ok] at h
  obtain ⟨hslash, -, h⟩ := h
  cases h
  exact parsed_absolutePath hslash

/-- The run directory of an accepted profile is read from a text. -/
theorem acceptProfile_parsed (h : acceptProfile host members = .ok profile) :
    Parsed profile.runDirectory := by
  obtain ⟨validated, hvalidated, h⟩ := bind_eq_ok.mp h
  obtain ⟨paths, -, h⟩ := bind_eq_ok.mp h
  cases h
  unfold validateProfile at hvalidated
  simp only [bind_eq_ok, require_eq_ok] at hvalidated
  obtain ⟨_, _, _, _, _, _, _, _, _, _, hvalidated⟩ := hvalidated
  obtain ⟨_, _, _, _, runDirectory, hdirectory, _, _, hvalidated⟩ := hvalidated
  obtain ⟨_, _, _, _, _, _, _, _, hvalidated⟩ := hvalidated
  obtain ⟨_, _, _, _, _, _, _, _, _, _, hvalidated⟩ := hvalidated
  obtain ⟨_, _, _, _, _, _, _, _, _, _, hvalidated⟩ := hvalidated
  obtain ⟨_, _, _, _, _, _, _, _, _, _, _, _, hvalidated⟩ := hvalidated
  cases hvalidated
  exact requireAbsolutePath_parsed hdirectory

/-- The last component of the directory of the stationarity evidence. -/
def resumeRole (index : ℕ) : List ℕ :=
  if index = 1 then chars "initial"
  else chars "resume-" ++ ProductionBinding.transitionLabel index

theorem materialize_eq (haccepted : profile.Accepted) (hrun : Parsed profile.runDirectory)
    (hfree : NoT1Reference profile) (hbinding : buildBinding host profile = .ok binding)
    {index : ℕ} (hindex : 1 ≤ index ∧ index ≤ 6) :
    ∃ resume, materialize binding index = .ok resume ∧
      resume.command = mixedCommand profile index index (resumeRole index) index := by
  have hcommand : resumedCommand (mixedCommand profile 1 1 (chars "initial") 1) index =
      .ok (mixedCommand profile index index (resumeRole index) index) := by
    unfold resumedCommand resumeRole
    split
    · next hone => rw [hone]
    · exact retarget_mixed hrun haccepted index
  have hfragments : checkFragments (mixedCommand profile index index (resumeRole index) index)
      index = .ok () := by
    rw [checkFragments]
    split
    · next hlater =>
      have hmem : index ∈ [2, 3, 4, 5, 6] := by
        simp only [List.mem_cons, List.not_mem_nil, or_false]
        omega
      rw [resumeRole, if_neg (by omega)]
      exact forM_eq_ok.mpr fun item hitem => forM_eq_ok.mpr fun fragment hfragment =>
        ok_of_require (fragmentFree_mixed haccepted hfree hmem item hitem fragment hfragment)
    · rfl
  rw [materialize, ok_of_require hindex, ok_bind, validateManifest_eq haccepted hbinding, ok_bind,
    hcommand, ok_bind, checkCommand_mixed hrun haccepted, ok_bind, hfragments, ok_bind]
  exact ⟨_, rfl, rfl⟩

/-- Materializing the builder's binding for a transition gives the builder's own hand-off command
for it; only the last component of the stationarity evidence root is another one. -/
theorem materialize_handoffCommand (hprofile : acceptProfile host members = .ok profile)
    (hbinding : buildBinding host profile = .ok binding) (hfree : NoT1Reference profile) {index : ℕ}
    (hindex : 1 ≤ index ∧ index ≤ 6) :
    ∃ resume front behind, materialize binding index = .ok resume ∧
      handoffCommand profile index (stationarityCommand profile "initial-pre-step" none) =
        front ++ chars "--evidence-root" ::
          inRun profile [chars "evidence", chars "stationarity", chars "initial"] :: behind ∧
      resume.command = front ++ chars "--evidence-root" ::
        inRun profile [chars "evidence", chars "stationarity", resumeRole index] :: behind := by
  obtain ⟨resume, hresume, hcommand⟩ := materialize_eq (acceptProfile_accepted hprofile)
    (acceptProfile_parsed hprofile) hfree hbinding hindex
  refine ⟨resume, handoffFront profile index index ++ [chars "--mode", chars "initial-pre-step"],
    handoffBehind profile index, hresume, ?_, ?_⟩
  · rw [handoffCommand_eq_mixed, mixedCommand, List.append_assoc]
    rfl
  · rw [hcommand, mixedCommand, List.append_assoc]
    rfl

end

instance (text : List ℕ) : Decidable (FragmentFree text) :=
  inferInstanceAs (Decidable (∀ fragment ∈ forbiddenFragments, ¬ fragment <:+: text))

instance (profile : Profile) : Decidable (NoT1Reference profile) :=
  inferInstanceAs (Decidable (∀ path ∈ profilePaths profile, FragmentFree (pathText path)))

theorem materialize_handoffCommand_sample : ∃ profile binding resume,
    acceptProfile sampleHost sampleMembers = .ok profile ∧
      buildBinding sampleHost profile = .ok binding ∧ materialize binding 3 = .ok resume := by
  obtain ⟨profile, hprofile⟩ := sample_accepted
  have hfree : NoT1Reference profile := by
    have hall : ∀ profile ∈ (acceptProfile sampleHost sampleMembers).toOption,
        NoT1Reference profile := by
      decide +kernel
    exact hall profile (by rw [hprofile]; rfl)
  obtain ⟨binding, hbinding⟩ : ∃ binding, buildBinding sampleHost profile = .ok binding :=
    exists_buildBinding rfl
  obtain ⟨resume, -, -, hresume, -⟩ :=
    materialize_handoffCommand hprofile hbinding hfree (by decide : 1 ≤ 3 ∧ 3 ≤ 6)
  exact ⟨profile, binding, resume, hprofile, hbinding, hresume⟩

end TcdOran.Harness.ResumePrecontrol
