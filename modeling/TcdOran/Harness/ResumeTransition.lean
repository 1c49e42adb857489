import TcdOran.Harness.ResumePrecontrol

/-! prompt12-resume-single-transition-materializer.py: the description of one transition that is
executed alone, made from a binding and the resumed first command. -/
namespace TcdOran.Harness.ResumeTransition
open TcdOran.Lib Python ProductionBinding ResumePrecontrol
open Handoff hiding Command

def schema : List ℕ := chars "sci_oran_prompt12_resume_single_transition_materialization_v1"
def handoffStationarityMarker : List ℕ := chars "--stationarity-command"
def finalizationTimelineMarker : List ℕ := chars "--timeline-command"
def sprintTransitionIndex : ℕ := 2
def sprintTransitionLabel : List ℕ := chars "T2"
def executedTransitionOrdinal : ℕ := 1
def expectedTimelineEventCount : ℕ := 3

/-- A `MaterializerError` by its text. -/
abbrev Materialized := Except (List ℕ)

/-- The description. -/
structure Materialization where
  schema : List ℕ
  transitionLabel : List ℕ
  transitionIndex : ℕ
  firstScientificTransition : List ℕ
  executedTransitionOrdinal : ℕ
  expectedActuatorTransactionCount : ℕ
  expectedTimelineEventCount : ℕ
  trafficCommand : Command
  initialPrecontrolCommand : Command
  ratioBindCommand : Command
  triggerCommand : Command
  postStationarityCommand : Command
  finalizationCommand : Command
  syntheticPriorTransitionEvents : Bool
  skippedTransitionBindingsConsumed : Bool
  t3HandoffPresent : Bool
  t3TriggerPresent : Bool
  commandExecuted : Bool
  controlExecuted : Bool
  trafficExecuted : Bool
  deriving DecidableEq

def requireCommand (value : Command) (label : List ℕ) : Materialized Command := do
  require (value ≠ [] ∧ ∀ item ∈ value, item ≠ []) (label ++ chars "_INVALID")
  return value

def requireBool (value expected : Bool) (label : String) : Materialized Unit :=
  require (value = expected) (chars label ++ chars "_INVALID")

/-! ### Single options and markers -/

/-- The position of an option that is given once, with a value behind it. -/
def singlePosition (command : Command) (cardinality missing : ℕ → List ℕ) (option : List ℕ) :
    Materialized ℕ := do
  let positions := positionsOf command option
  require (positions.length = 1) (cardinality positions.length)
  let index := positions.headD 0
  require (index + 1 < command.length) (missing index)
  return index

def replaceSingleOption (command : Command) (option expectedOld newValue : List ℕ) (label : String) :
    Materialized Command := do
  let front := chars label ++ chars "_" ++ option
  let index ← singlePosition command
    (fun count => front ++ chars "_CARDINALITY_INVALID:" ++ decimalUnits count)
    (fun _ => front ++ chars "_VALUE_MISSING") option
  let old := command.getD (index + 1) []
  require (old = expectedOld) (front ++ chars "_SOURCE_VALUE_INVALID:" ++ old)
  return command.set (index + 1) newValue

def extractPurePostStationarity (wrapped : Command) (index : ℕ) : Materialized Command := do
  let marker ← singlePosition wrapped
    (fun count => chars "POST_HANDOFF_STATIONARITY_MARKER_CARDINALITY_INVALID:" ++ decimalUnits count)
    (fun _ => chars "POST_HANDOFF_STATIONARITY_COMMAND_MISSING") handoffStationarityMarker
  let pure ← requireCommand (wrapped.drop (marker + 1)) (chars "PURE_POST_STATIONARITY_COMMAND")
  let pure ← replaceSingleOption pure (chars "--control-index") (decimalUnits index)
    (decimalUnits executedTransitionOrdinal) "PURE_POST"
  let pure ← replaceSingleOption pure (chars "--expected-timeline-event-count")
    (decimalUnits (index * 3)) (decimalUnits expectedTimelineEventCount) "PURE_POST"
  require (handoffStationarityMarker ∉ pure) (chars "PURE_POST_CONTAINS_HANDOFF_MARKER")
  return pure

def materializeResumeFinalization (source : Command) : Materialized Command := do
  let positions := positionsOf source finalizationTimelineMarker
  require (positions.length = 1)
    (chars "FINALIZATION_TIMELINE_MARKER_CARDINALITY_INVALID:" ++ decimalUnits positions.length)
  let index := positions.headD 0
  let common ← replaceSingleOption (source.take index) (chars "--expected-event-count")
    (chars "18") (decimalUnits expectedTimelineEventCount) "FINALIZATION"
  return common ++ source.drop index

/-! ### The checks of the inputs -/

def validateTransition (transition : Transition) (index : ℕ) : Materialized Unit := do
  require (transition.label = ProductionBinding.transitionLabel index)
    (chars "TRANSITION_" ++ decimalUnits index ++ chars "_LABEL_INVALID")
  let _ ← requireCommand transition.ratioBindCommand
    (ProductionBinding.transitionLabel index ++ chars "_RATIO_BIND_COMMAND")
  let _ ← requireCommand transition.triggerCommand
    (ProductionBinding.transitionLabel index ++ chars "_TRIGGER_COMMAND")
  let _ ← requireCommand transition.postStationarityCommand
    (ProductionBinding.transitionLabel index ++ chars "_POST_STATIONARITY_COMMAND")
  return ()

def validateBinding (binding : Binding) : Materialized Unit := do
  let _ ← requireCommand binding.trafficCommand (chars "TRAFFIC_COMMAND")
  let _ ← requireCommand binding.initialStationarityCommand (chars "INITIAL_STATIONARITY_COMMAND")
  let _ ← requireCommand binding.finalizationCommand (chars "FINALIZATION_COMMAND")
  require (binding.transitions.length = 6) (chars "TRANSITION_COUNT_INVALID")
  (binding.transitions.zipIdx 1).forM fun (transition, index) => validateTransition transition index

def validateResume (resume : Resume) (index : ℕ) : Materialized Command := do
  require (resume.schema = ResumePrecontrol.schema) (chars "RESUME_SCHEMA_INVALID")
  require (resume.initialTransitionIndex = index) (chars "RESUME_TRANSITION_INDEX_INVALID")
  require (resume.firstScientificTransition = ProductionBinding.transitionLabel index)
    (chars "RESUME_FIRST_SCIENTIFIC_TRANSITION_INVALID")
  require (resume.precontrolSemantics = chars "initial-pre-step")
    (chars "RESUME_PRECONTROL_SEMANTICS_INVALID")
  requireBool resume.syntheticPriorTransitionEvents false "SYNTHETIC_PRIOR_TRANSITION_EVENTS"
  requireBool resume.skippedTransitionBindingsConsumed false "SKIPPED_TRANSITION_BINDINGS_CONSUMED"
  requireBool resume.commandExecuted false "RESUME_COMMAND_EXECUTED"
  requireCommand resume.command (chars "RESUME_INITIAL_PRECONTROL_COMMAND")

/-! ### The description -/

/-- `transitions[index - 1]` of a list that is long enough. -/
def transitionAt (binding : Binding) (index : ℕ) : Transition :=
  binding.transitions.getD (index - 1) ⟨[], [], [], []⟩

def buildMaterialization (binding : Binding) (resume : Resume) (index : ℕ) :
    Materialized Materialization := do
  require (index = sprintTransitionIndex) (chars "SPRINT01_REQUIRES_TRANSITION_INDEX_2")
  validateBinding binding
  let initialPrecontrol ← validateResume resume index
  let transition := transitionAt binding index
  require (transition.label = sprintTransitionLabel) (chars "SPRINT01_TRANSITION_LABEL_INVALID")
  let ratioBind ← requireCommand transition.ratioBindCommand (chars "T2_RATIO_BIND_COMMAND")
  let trigger ← requireCommand transition.triggerCommand (chars "T2_TRIGGER_COMMAND")
  let wrappedPost ← requireCommand transition.postStationarityCommand
    (chars "T2_WRAPPED_POST_STATIONARITY_COMMAND")
  let purePost ← extractPurePostStationarity wrappedPost index
  let finalizationSource ← requireCommand binding.finalizationCommand (chars "FINALIZATION_COMMAND")
  let finalization ← materializeResumeFinalization finalizationSource
  let traffic ← requireCommand binding.trafficCommand (chars "TRAFFIC_COMMAND")
  return {
    schema
    transitionLabel := transition.label
    transitionIndex := index
    firstScientificTransition := transition.label
    executedTransitionOrdinal
    expectedActuatorTransactionCount := 1
    expectedTimelineEventCount
    trafficCommand := traffic
    initialPrecontrolCommand := initialPrecontrol
    ratioBindCommand := ratioBind
    triggerCommand := trigger
    postStationarityCommand := purePost
    finalizationCommand := finalization
    syntheticPriorTransitionEvents := false
    skippedTransitionBindingsConsumed := false
    t3HandoffPresent := false
    t3TriggerPresent := false
    commandExecuted := false
    controlExecuted := false
    trafficExecuted := false }

/-! ### Replacing an option -/

section
variable {front behind : Command} {marker old new : List ℕ}

theorem singlePosition_marker {cardinality missing : ℕ → List ℕ} (hfront : marker ∉ front)
    (hbehind : marker ∉ behind) (hne : behind ≠ []) :
    singlePosition (front ++ marker :: behind) cardinality missing marker = .ok front.length := by
  have hlength := List.length_pos_of_ne_nil hne
  have hbound : front.length + 1 < (front ++ marker :: behind).length := by
    rw [List.length_append, List.length_cons]
    omega
  rw [singlePosition, positionsOf_marker hfront hbehind]
  exact congrArg (· >>= fun _ => .ok front.length) (ok_of_require hbound)

theorem replaceSingleOption_marker {label : String} (hfront : marker ∉ front)
    (hbehind : marker ∉ old :: behind) :
    replaceSingleOption (front ++ marker :: old :: behind) marker old new label =
      .ok (front ++ marker :: new :: behind) := by
  have hold : (front ++ marker :: old :: behind).getD (front.length + 1) [] = old := by
    simp [List.getD_eq_getElem?_getD]
  have hset : (front ++ marker :: old :: behind).set (front.length + 1) new =
      front ++ marker :: new :: behind := by
    rw [List.set_append_right _ _ (by omega)]
    simp
  rw [replaceSingleOption, singlePosition_marker hfront hbehind (by simp), ok_bind]
  simp only [hold, hset]
  rw [ok_of_require trivial]
  rfl

end

/-! ### The commands of a binding have no empty argument -/

/-- What `require_command` asks for. -/
abbrev Words (command : Command) : Prop := command ≠ [] ∧ ∀ item ∈ command, item ≠ []

theorem Words.requireCommand {command : Command} (h : Words command) (label : List ℕ) :
    requireCommand command label = .ok command := by
  rw [ResumeTransition.requireCommand, ok_of_require h]
  rfl

theorem pathText_ne_nil (path : AbsolutePath) : pathText path ≠ [] :=
  fun hnil => absurd (hnil ▸ head_pathText path) (by decide)

theorem transitionLabel_ne_nil (index : ℕ) : ProductionBinding.transitionLabel index ≠ [] := by
  simp [ProductionBinding.transitionLabel, decimalUnits_ne_nil]

theorem forall_zipIdx_of_range {α : Type} {R : ℕ → α → Prop} {items : List α} {n k : ℕ}
    (h : List.Forall₂ R (List.range' n k) items) : ∀ entry ∈ items.zipIdx n, R entry.2 entry.1 := by
  induction k generalizing n items with
  | zero =>
    cases h
    exact fun _ hentry => absurd hentry List.not_mem_nil
  | succ k ih =>
    rw [List.range'_succ] at h
    cases h with
    | cons hitem hrest => exact List.forall_mem_cons.mpr ⟨hitem, ih hrest⟩

section
variable {host : Host} {profile : Profile} (h : profile.Accepted)
include h

theorem words_ratioBindCommand {index : ℕ} {command : Command}
    (hcommand : ratioBindCommand host profile index = .ok command) : Words command := by
  simp only [ratioBindCommand, require_bind_eq_ok] at hcommand
  obtain ⟨-, -, hcommand⟩ := hcommand
  cases hcommand
  refine ⟨by simp, ?_⟩
  simp only [identityOptions, List.forall_mem_append, List.forall_mem_cons]
  exact ⟨⟨⟨pathText_ne_nil _, pathText_ne_nil _, by simp⟩, by decide,
    h.operand_experimentId.plain.1, by decide, h.operand_runId.plain.1, by simp⟩, by decide,
    transitionLabel_ne_nil _, by decide, decimalUnits_ne_nil _, by decide, decimalUnits_ne_nil _,
    by decide, pathText_ne_nil _, by simp⟩

theorem words_triggerCommand (index : ℕ) : Words (triggerCommand profile index) := by
  have hage := operand_intText (Int.le_of_lt h.maxAgeMs)
  have hauthorization : profile.authorization ≠ [] := h.authorization ▸ by decide
  refine ⟨by simp [triggerCommand], ?_⟩
  simp only [triggerCommand, List.forall_mem_cons]
  exact ⟨pathText_ne_nil _, pathText_ne_nil _, by decide, pathText_ne_nil _, by decide, by decide,
    by decide, hage.plain.1, by decide, pathText_ne_nil _, by decide, pathText_ne_nil _, by decide,
    h.triggerToken.1, by decide, hauthorization, by simp⟩

theorem words_stationarityCommand (mode : String) (hmode : chars mode ≠ []) (index : Option ℕ) :
    Words (stationarityCommand profile mode index) :=
  ⟨by simp [stationarityCommand], h.forall_stationarityCommand (fun _ hvalue => hvalue.plain.1) index
    (List.forall_mem_cons.mpr ⟨hmode, by decide⟩)⟩

theorem words_handoffCommand (index : ℕ) {stationarity : Command} (hwords : Words stationarity) :
    Words (handoffCommand profile index stationarity) := by
  refine ⟨by simp [handoffCommand], ?_⟩
  simp only [handoffCommand, List.forall_mem_append, List.forall_mem_cons]
  exact ⟨⟨⟨pathText_ne_nil _, pathText_ne_nil _, by decide, pathText_ne_nil _, by decide,
    pathText_ne_nil _, by decide, by simp⟩, hwords.2⟩, by decide,
    h.forall_freshnessCommand (fun _ hvalue => hvalue.plain.1) index (by decide)⟩

theorem words_postStationarityCommand (index : ℕ) : Words (postStationarityCommand profile index) := by
  have hpost := words_stationarityCommand h "post-step" (by decide) (some index)
  simp only [postStationarityCommand]
  split
  · exact words_handoffCommand h (index + 1) hpost
  · exact hpost

theorem words_trafficCommand : Words (trafficCommand profile) := by
  obtain ⟨u, rest, hreceiver, -⟩ := head_of_matchThen h.receiver
  have hduration := operand_intText (Int.le_trans (by decide) h.trafficDurationS)
  refine ⟨by simp [trafficCommand], ?_⟩
  simp only [trafficCommand, List.forall_mem_cons]
  exact ⟨pathText_ne_nil _, by decide, by simp [hreceiver], hduration.plain.1, pathText_ne_nil _,
    pathText_ne_nil _, pathText_ne_nil _, by simp⟩

theorem words_finalizationCommand : Words (finalizationCommand profile) := by
  refine ⟨by simp [finalizationCommand], ?_⟩
  simp only [finalizationCommand, finalizationOptions, timelineCommand, pipelineCommand,
    identityOptions, List.forall_mem_append, List.forall_mem_cons]
  exact ⟨⟨⟨pathText_ne_nil _, pathText_ne_nil _, by decide, pathText_ne_nil _, by decide,
    pathText_ne_nil _, by decide, pathText_ne_nil _, by decide, pathText_ne_nil _, by decide,
    pathText_ne_nil _, by decide, by decide, by simp⟩, by decide, ⟨⟨pathText_ne_nil _,
    pathText_ne_nil _, by decide, pathText_ne_nil _, by simp⟩, by decide,
    h.operand_experimentId.plain.1, by decide, h.operand_runId.plain.1, by simp⟩, by decide,
    by decide, by decide, pathText_ne_nil _, by decide, pathText_ne_nil _, by decide,
    pathText_ne_nil _, by decide, by decide, by simp⟩, by decide, pathText_ne_nil _, by decide,
    h.operand_experimentId.plain.1, h.operand_runId.plain.1, pathText_ne_nil _, by decide, by simp⟩

/-- The binding of an accepted profile passes the checks. -/
theorem validateBinding_ok {binding : Binding} (hbinding : buildBinding host profile = .ok binding) :
    validateBinding binding = .ok () := by
  obtain ⟨hinitial, hfinalization, htraffic, htransitions⟩ := buildBinding_eq_ok hbinding
  have hcount : binding.transitions.length = 6 := htransitions.length_eq.symm
  have hwords : Words binding.initialStationarityCommand :=
    hinitial ▸ words_handoffCommand h 1 (words_stationarityCommand h _ (by decide) none)
  have hvalid : List.Forall₂ (fun index (transition : Transition) =>
      validateTransition transition index = .ok ()) (List.range' 1 6) binding.transitions := by
    refine htransitions.imp ?_
    rintro index transition ⟨hlabel, hratio, htrigger, hpost⟩
    rw [validateTransition, ok_of_require hlabel, ok_bind,
      (words_ratioBindCommand h hratio).requireCommand, ok_bind, htrigger,
      (words_triggerCommand h index).requireCommand, ok_bind, hpost,
      (words_postStationarityCommand h index).requireCommand]
    rfl
  rw [validateBinding, htraffic, (words_trafficCommand h).requireCommand, ok_bind,
    hwords.requireCommand, ok_bind, hfinalization, (words_finalizationCommand h).requireCommand,
    ok_bind, ok_of_require hcount, ok_bind]
  exact forM_eq_ok.mpr (forall_zipIdx_of_range hvalid)

/-! ### The command behind the step -/

theorem not_mem_stationarityBase {mode role option : List ℕ} (hrole : 0 ∉ role)
    (hoption : option.head? = some 45) (hword : option ∉ mode :: stationarityWords) :
    option ∉ stationarityBase profile mode role := by
  have hne : ∀ value ∈ stationarityBase profile mode role, value ≠ option :=
    h.forall_stationarityBase (fun _ hvalue => hvalue.ne_of_head (.inl hoption)) hrole
      fun word hmem heq => hword (heq ▸ hmem)
  exact fun hmem => hne option hmem rfl

theorem not_mem_freshnessCommand {option : List ℕ} (index : ℕ) (hoption : option.head? = some 45)
    (hword : option ∉ freshnessWords) : option ∉ freshnessCommand profile index := by
  have hne : ∀ value ∈ freshnessCommand profile index, value ≠ option :=
    h.forall_freshnessCommand (fun _ hvalue => hvalue.ne_of_head (.inl hoption)) index
      fun word hmem heq => hword (heq ▸ hmem)
  exact fun hmem => hne option hmem rfl

end

def timelineFile (profile : Profile) : Command :=
  [chars "--timeline-command-json", pathText (itemOf profile.timelineJson 2)]

def readinessOptions (profile : Profile) : Command :=
  [chars "--timeline-readiness-timeout-ms", intText profile.timelineReadinessTimeoutMs,
    chars "--timeline-readiness-poll-ms", intText profile.timelineReadinessPollMs]

/-- The builder's command behind the second transition, with another control index and number of
timeline events. -/
def stationarityWith (profile : Profile) (index count : ℕ) : Command :=
  stationarityBase profile (chars "post-step") (ProductionBinding.transitionLabel 2) ++
    chars "--control-index" :: decimalUnits index :: (timelineFile profile ++
      chars "--expected-timeline-event-count" :: decimalUnits count :: readinessOptions profile)

theorem stationarityCommand_two (profile : Profile) :
    stationarityCommand profile "post-step" (some 2) = stationarityWith profile 2 6 := rfl

/-- The builder's command, but for the control index and the number of timeline events. -/
def resumedStationarity (profile : Profile) : Command :=
  stationarityWith profile executedTransitionOrdinal expectedTimelineEventCount

theorem handoffCommand_split (profile : Profile) (index : ℕ) (stationarity : Command) :
    ∃ front : Command, handoffStationarityMarker ∉ front ∧
      handoffCommand profile index stationarity = front ++ handoffStationarityMarker ::
        (stationarity ++ freshnessMarker :: freshnessCommand profile index) := by
  refine ⟨[py profile, toolText profile .precontrolHandoff, chars "--attempt-root",
    inRun profile [chars "evidence", chars "precontrol-handoff",
      ProductionBinding.transitionLabel index],
    chars "--precontrol-output",
    inRun profile [chars "precontrol", ProductionBinding.transitionLabel index ++ chars ".json"]],
    ?_, ?_⟩
  · have hpath (path : AbsolutePath) : handoffStationarityMarker ≠ pathText path :=
      fun heq => absurd (heq ▸ head_pathText path) (by decide)
    simp only [List.mem_cons, not_or]
    exact ⟨hpath _, hpath _, by decide, hpath _, by decide, hpath _, List.not_mem_nil⟩
  · rw [handoffCommand, List.append_assoc]
    rfl

section
variable {profile : Profile} (h : profile.Accepted) {option : List ℕ}
  (hoption : option.head? = some 45)
include h hoption

theorem not_mem_timelineFile (hword : option ≠ chars "--timeline-command-json") :
    option ∉ timelineFile profile := by
  simp only [timelineFile, List.mem_cons, not_or]
  exact ⟨hword, ((h.operand_timelineJson 2).ne_of_head (.inl hoption)).symm, List.not_mem_nil⟩

theorem not_mem_readinessOptions (htimeout : option ≠ chars "--timeline-readiness-timeout-ms")
    (hpoll : option ≠ chars "--timeline-readiness-poll-ms") : option ∉ readinessOptions profile := by
  have hint {z : ℤ} (hz : 1 ≤ z) : option ≠ intText z :=
    ((operand_intText (Int.le_of_lt hz)).ne_of_head (.inl hoption)).symm
  simp only [readinessOptions, List.mem_cons, not_or]
  exact ⟨htimeout, hint h.timelineReadinessTimeoutMs, hpoll, hint h.timelineReadinessPollMs,
    List.not_mem_nil⟩

end

theorem ne_decimalUnits {option : List ℕ} (hoption : option.head? = some 45) (n : ℕ) :
    option ≠ decimalUnits n :=
  ((operand_decimalUnits n).ne_of_head (.inl hoption)).symm

section
variable {profile : Profile} (h : profile.Accepted)
include h

theorem replace_controlIndex {behind : Command} (hbehind : chars "--control-index" ∉ behind) :
    replaceSingleOption (stationarityWith profile 2 6 ++ behind) (chars "--control-index")
        (decimalUnits 2) (decimalUnits executedTransitionOrdinal) "PURE_POST" =
      .ok (stationarityWith profile executedTransitionOrdinal 6 ++ behind) := by
  have hhead : (chars "--control-index").head? = some 45 := by decide
  have hsplit (index : ℕ) : stationarityWith profile index 6 ++ behind =
      stationarityBase profile (chars "post-step") (ProductionBinding.transitionLabel 2) ++
        chars "--control-index" ::
        decimalUnits index :: (timelineFile profile ++ chars "--expected-timeline-event-count" ::
          decimalUnits 6 :: (readinessOptions profile ++ behind)) := by
    simp [stationarityWith]
  have hfront : chars "--control-index" ∉
      stationarityBase profile (chars "post-step") (ProductionBinding.transitionLabel 2) :=
    not_mem_stationarityBase h (noNul_transitionLabel 2) hhead (by decide)
  have hrest : chars "--control-index" ∉ decimalUnits 2 :: (timelineFile profile ++
      chars "--expected-timeline-event-count" :: decimalUnits 6 ::
        (readinessOptions profile ++ behind)) := by
    simp only [List.mem_append, List.mem_cons, not_or]
    exact ⟨ne_decimalUnits hhead 2, not_mem_timelineFile h hhead (by decide), by decide,
      ne_decimalUnits hhead 6, not_mem_readinessOptions h hhead (by decide) (by decide), hbehind⟩
  rw [hsplit, hsplit]
  exact replaceSingleOption_marker hfront hrest

theorem replace_eventCount {behind : Command}
    (hbehind : chars "--expected-timeline-event-count" ∉ behind) :
    replaceSingleOption (stationarityWith profile executedTransitionOrdinal 6 ++ behind)
        (chars "--expected-timeline-event-count") (decimalUnits 6)
        (decimalUnits expectedTimelineEventCount) "PURE_POST" =
      .ok (resumedStationarity profile ++ behind) := by
  have hhead : (chars "--expected-timeline-event-count").head? = some 45 := by decide
  have hsplit (count : ℕ) : stationarityWith profile executedTransitionOrdinal count ++ behind =
      (stationarityBase profile (chars "post-step") (ProductionBinding.transitionLabel 2) ++
        chars "--control-index" ::
        decimalUnits executedTransitionOrdinal :: timelineFile profile) ++
        chars "--expected-timeline-event-count" :: decimalUnits count ::
          (readinessOptions profile ++ behind) := by
    simp [stationarityWith]
  have hfront : chars "--expected-timeline-event-count" ∉
      stationarityBase profile (chars "post-step") (ProductionBinding.transitionLabel 2) ++
        chars "--control-index" ::
        decimalUnits executedTransitionOrdinal :: timelineFile profile := by
    simp only [List.mem_append, List.mem_cons, not_or]
    exact ⟨not_mem_stationarityBase h (noNul_transitionLabel 2) hhead (by decide), by decide,
      ne_decimalUnits hhead _, not_mem_timelineFile h hhead (by decide)⟩
  have hrest : chars "--expected-timeline-event-count" ∉
      decimalUnits 6 :: (readinessOptions profile ++ behind) := by
    simp only [List.mem_append, List.mem_cons, not_or]
    exact ⟨ne_decimalUnits hhead 6, not_mem_readinessOptions h hhead (by decide) (by decide),
      hbehind⟩
  rw [resumedStationarity, hsplit, hsplit]
  exact replaceSingleOption_marker hfront hrest

theorem marker_not_mem_stationarityWith (index count : ℕ) :
    handoffStationarityMarker ∉ stationarityWith profile index count := by
  have hhead : handoffStationarityMarker.head? = some 45 := by decide
  simp only [stationarityWith, List.mem_append, List.mem_cons, not_or]
  exact ⟨not_mem_stationarityBase h (noNul_transitionLabel 2) hhead (by decide), by decide,
    ne_decimalUnits hhead _, not_mem_timelineFile h hhead (by decide), by decide,
    ne_decimalUnits hhead _, not_mem_readinessOptions h hhead (by decide) (by decide)⟩

/-- What is cut out of the wrapped command still has the nested freshness command behind it. -/
theorem extractPurePostStationarity_two :
    extractPurePostStationarity (postStationarityCommand profile 2) 2 =
      .ok (resumedStationarity profile ++ freshnessMarker :: freshnessCommand profile 3) := by
  have hwrapped : postStationarityCommand profile 2 =
      handoffCommand profile 3 (stationarityWith profile 2 6) := rfl
  have hbehind {option : List ℕ} (hhead : option.head? = some 45) (hmarker : option ≠ freshnessMarker)
      (hword : option ∉ freshnessWords) :
      option ∉ freshnessMarker :: freshnessCommand profile 3 := by
    rw [List.mem_cons, not_or]
    exact ⟨hmarker, not_mem_freshnessCommand h 3 hhead hword⟩
  obtain ⟨front, hfront, hsplit⟩ := handoffCommand_split profile 3 (stationarityWith profile 2 6)
  set rest := freshnessMarker :: freshnessCommand profile 3
  have hmarker (index count : ℕ) : handoffStationarityMarker ∉
      stationarityWith profile index count ++ rest := by
    rw [List.mem_append, not_or]
    exact ⟨marker_not_mem_stationarityWith h index count,
      hbehind (by decide) (by decide) (by decide)⟩
  have hwords : Words (stationarityWith profile 2 6 ++ rest) := by
    have hstationarity : Words (stationarityWith profile 2 6) :=
      words_stationarityCommand h "post-step" (by decide) (some 2)
    refine ⟨by simp [stationarityWith], List.forall_mem_append.mpr ⟨hstationarity.2, ?_⟩⟩
    exact List.forall_mem_cons.mpr ⟨by decide,
      h.forall_freshnessCommand (fun _ hvalue => hvalue.plain.1) 3 (by decide)⟩
  rw [hwrapped, hsplit, extractPurePostStationarity,
    singlePosition_marker hfront (hmarker 2 6) hwords.1, ok_bind, drop_marker,
    hwords.requireCommand, ok_bind,
    replace_controlIndex h (hbehind (by decide) (by decide) (by decide)), ok_bind]
  have hcount : decimalUnits (2 * 3) = decimalUnits 6 := rfl
  have hresumed : handoffStationarityMarker ∉ resumedStationarity profile ++ rest := hmarker _ _
  rw [hcount, replace_eventCount h (hbehind (by decide) (by decide) (by decide)), ok_bind,
    ok_of_require hresumed]
  rfl

end

/-! ### The finalization -/

/-- The finalization command in front of its number of events. -/
def finalizationFront (profile : Profile) : Command :=
  [py profile, toolText profile .finalizationAdapter,
    chars "--attempt-root", inRun profile [chars "evidence", chars "finalization"],
    chars "--python-executable", py profile,
    chars "--timeline-output", inRun profile [chars "processed", chars "actuator-timeline.jsonl"],
    chars "--staging-output",
      inRun profile [chars "processed", chars "iperf3-receiver.intervals.staging.jsonl"],
    chars "--canonical-output",
      inRun profile [chars "processed", chars "iperf3-receiver.intervals.canonical.jsonl"]]

/-- The timeline command in front of the ratios. -/
def timelineFront (profile : Profile) : Command :=
  [py profile, toolText profile .timelineBuilder, chars "--schema", toolText profile .schema] ++
    identityOptions profile

/-- What stands behind the ratios. -/
def behindRatios (profile : Profile) : Command :=
  [chars "--command-input", pathText (profile.data .actuatorCommandInput),
    chars "--applied-input", pathText (profile.data .actuatorAppliedInput),
    chars "--ack-input", pathText (profile.data .actuatorAckInput),
    chars "--output", actuatorTimelineToken] ++ chars "--pipeline-command" :: pipelineCommand profile

def ratiosText : List ℕ := (chars ",").intercalate (requestedRatios.map decimalUnits)

/-- The finalization command with another number of events. -/
def finalizationWith (profile : Profile) (count : List ℕ) : Command :=
  finalizationFront profile ++ chars "--expected-event-count" :: count ::
    finalizationTimelineMarker :: (timelineFront profile ++ chars "--requested-ratios" ::
      ratiosText :: behindRatios profile)

theorem finalizationCommand_eq (profile : Profile) :
    finalizationCommand profile = finalizationWith profile (chars "18") := by
  simp [finalizationCommand, finalizationOptions, finalizationWith, finalizationFront,
    timelineCommand, timelineFront, behindRatios, ratiosText, finalizationTimelineMarker]

theorem not_mem_finalizationFront {profile : Profile} {option : List ℕ}
    (hoption : option.head? = some 45) (hword : option ∉ ["--attempt-root", "--python-executable",
    "--timeline-output", "--staging-output", "--canonical-output"].map chars) :
    option ∉ finalizationFront profile := by
  have hpath (path : AbsolutePath) : option ≠ pathText path := by
    rintro rfl
    exact absurd ((head_pathText path).symm.trans hoption) (by decide)
  simp only [List.map_cons, List.mem_cons, not_or] at hword
  obtain ⟨hroot, hpython, htimeline, hstaging, hcanonical, -⟩ := hword
  simp only [finalizationFront, List.mem_cons, not_or]
  exact ⟨hpath _, hpath _, hroot, hpath _, hpython, hpath _, htimeline, hpath _, hstaging, hpath _,
    hcanonical, hpath _, List.not_mem_nil⟩

section
variable {profile : Profile} (h : profile.Accepted) {option : List ℕ}
  (hoption : option.head? = some 45)
include h hoption

theorem not_mem_timelineFront
    (hword : option ∉ ["--schema", "--experiment-id", "--run-id"].map chars) :
    option ∉ timelineFront profile := by
  have hoperand {value : List ℕ} (hvalue : Operand value) : option ≠ value :=
    (hvalue.ne_of_head (.inl hoption)).symm
  simp only [List.map_cons, List.mem_cons, not_or] at hword
  obtain ⟨hschema, hexperiment, hrun, -⟩ := hword
  simp only [timelineFront, identityOptions, List.mem_append, List.mem_cons, not_or]
  exact ⟨⟨hoperand h.operand_py, hoperand (h.operand_toolText _), hschema,
    hoperand (h.operand_toolText _), List.not_mem_nil⟩, hexperiment,
    hoperand h.operand_experimentId, hrun, hoperand h.operand_runId, List.not_mem_nil⟩

theorem not_mem_behindRatios (hword : option ∉ [chars "--command-input", chars "--applied-input",
    chars "--ack-input", chars "--output", actuatorTimelineToken, chars "--pipeline-command",
    chars "process-actuator-transitions"]) : option ∉ behindRatios profile := by
  have hpath (path : AbsolutePath) : option ≠ pathText path := by
    rintro rfl
    exact absurd ((head_pathText path).symm.trans hoption) (by decide)
  have hoperand {value : List ℕ} (hvalue : Operand value) : option ≠ value :=
    (hvalue.ne_of_head (.inl hoption)).symm
  simp only [List.mem_cons, not_or] at hword
  obtain ⟨hcommand, happlied, hack, houtput, htoken, hpipeline, hprocess, -⟩ := hword
  simp only [behindRatios, pipelineCommand, List.mem_append, List.mem_cons, not_or]
  exact ⟨⟨hcommand, hpath _, happlied, hpath _, hack, hpath _, houtput, htoken, List.not_mem_nil⟩,
    hpipeline, hpath _, hprocess, hoperand h.operand_experimentId, hoperand h.operand_runId,
    hpath _, htoken, List.not_mem_nil⟩

end

section
variable {profile : Profile} (h : profile.Accepted)
include h

theorem materializeResumeFinalization_eq :
    materializeResumeFinalization (finalizationCommand profile) =
      .ok (finalizationWith profile (decimalUnits expectedTimelineEventCount)) := by
  set behind := timelineFront profile ++ chars "--requested-ratios" :: ratiosText ::
    behindRatios profile with hbehind
  have hsplit (count : List ℕ) : finalizationWith profile count =
      (finalizationFront profile ++ [chars "--expected-event-count", count]) ++
        finalizationTimelineMarker :: behind := by
    simp [finalizationWith, hbehind]
  have hmarkerFront : finalizationTimelineMarker ∉
      finalizationFront profile ++ [chars "--expected-event-count", chars "18"] := by
    rw [List.mem_append, not_or]
    exact ⟨not_mem_finalizationFront (by decide) (by decide), by decide⟩
  have hmarkerBehind : finalizationTimelineMarker ∉ behind := by
    simp only [hbehind, List.mem_append, List.mem_cons, not_or]
    exact ⟨not_mem_timelineFront h (by decide) (by decide), by decide, by decide,
      not_mem_behindRatios h (by decide) (by decide)⟩
  have hreplaced : replaceSingleOption (finalizationFront profile ++
      [chars "--expected-event-count", chars "18"]) (chars "--expected-event-count") (chars "18")
        (decimalUnits expectedTimelineEventCount) "FINALIZATION" =
      .ok (finalizationFront profile ++
        [chars "--expected-event-count", decimalUnits expectedTimelineEventCount]) :=
    replaceSingleOption_marker (not_mem_finalizationFront (by decide) (by decide)) (by decide)
  rw [finalizationCommand_eq, hsplit, hsplit, materializeResumeFinalization,
    positionsOf_marker hmarkerFront hmarkerBehind]
  simp only [List.length_singleton, List.headD_cons, List.take_left, List.drop_left]
  rw [ok_of_require trivial, ok_bind, hreplaced]
  rfl

end

/-! ### The description as a whole -/

/-- The value of an option. -/
def valueOf (command : Command) (option : List ℕ) : List ℕ :=
  command.getD (command.idxOf option + 1) []

/-- The number of ratios that the timeline builder is given. -/
def requestedRatioCount (finalization : Command) : ℕ :=
  ((valueOf finalization (chars "--requested-ratios")).splitOn 44).length

/-- What the description of the single transition is for. -/
structure Coherent (profile : Profile) (described : Materialization) : Prop where
  post : described.postStationarityCommand = resumedStationarity profile
  counts : intOfText (valueOf described.finalizationCommand (chars "--expected-event-count")) =
    some (3 * requestedRatioCount described.finalizationCommand : ℤ)

theorem valueOf_marker {front behind : Command} {marker value : List ℕ} (h : marker ∉ front) :
    valueOf (front ++ marker :: value :: behind) marker = value := by
  rw [valueOf, idxOf_marker h]
  simp [List.getD_eq_getElem?_getD]

section
variable {profile : Profile} (h : profile.Accepted) {count : List ℕ}

theorem eventCount_finalizationWith :
    valueOf (finalizationWith profile count) (chars "--expected-event-count") = count :=
  valueOf_marker (not_mem_finalizationFront (by decide) (by decide))

include h in
theorem requestedRatioCount_finalizationWith (hcount : count ≠ chars "--requested-ratios") :
    requestedRatioCount (finalizationWith profile count) = 6 := by
  have hsplit : finalizationWith profile count =
      (finalizationFront profile ++ chars "--expected-event-count" :: count ::
        finalizationTimelineMarker :: timelineFront profile) ++
        chars "--requested-ratios" :: ratiosText :: behindRatios profile := by
    simp [finalizationWith]
  have hfront : chars "--requested-ratios" ∉
      finalizationFront profile ++ chars "--expected-event-count" :: count ::
        finalizationTimelineMarker :: timelineFront profile := by
    simp only [List.mem_append, List.mem_cons, not_or]
    exact ⟨not_mem_finalizationFront (by decide) (by decide), by decide, hcount.symm, by decide,
      not_mem_timelineFront h (by decide) (by decide)⟩
  rw [requestedRatioCount, hsplit, valueOf_marker hfront]
  decide +kernel

end

theorem transition_two {R : ℕ → Transition → Prop} {transitions : List Transition}
    (h : List.Forall₂ R transitionIndices transitions) :
    R 2 (transitions.getD 1 ⟨[], [], [], []⟩) := by
  cases h with
  | cons _ hrest =>
    cases hrest with
    | cons htwo _ => exact htwo

section
variable {host : Host} {profile : Profile} {binding : Binding} {resume : Resume}

theorem validateResume_ok (hresume : materialize binding 2 = .ok resume) :
    validateResume resume 2 = .ok resume.command := by
  obtain ⟨command, hwords, hne, rfl⟩ := materialize_eq_ok (by decide) hresume
  have hrequire := Words.requireCommand ⟨hne, hwords⟩ (chars "RESUME_INITIAL_PRECONTROL_COMMAND")
  exact hrequire

/-- The description that is made of the second transition. -/
def described (profile : Profile) (binding : Binding) (resume : Resume) : Materialization where
  schema := schema
  transitionLabel := sprintTransitionLabel
  transitionIndex := 2
  firstScientificTransition := sprintTransitionLabel
  executedTransitionOrdinal := executedTransitionOrdinal
  expectedActuatorTransactionCount := 1
  expectedTimelineEventCount := expectedTimelineEventCount
  trafficCommand := trafficCommand profile
  initialPrecontrolCommand := resume.command
  ratioBindCommand := (transitionAt binding 2).ratioBindCommand
  triggerCommand := triggerCommand profile 2
  postStationarityCommand :=
    resumedStationarity profile ++ freshnessMarker :: freshnessCommand profile 3
  finalizationCommand := finalizationWith profile (decimalUnits expectedTimelineEventCount)
  syntheticPriorTransitionEvents := false
  skippedTransitionBindingsConsumed := false
  t3HandoffPresent := false
  t3TriggerPresent := false
  commandExecuted := false
  controlExecuted := false
  trafficExecuted := false

theorem buildMaterialization_eq (h : profile.Accepted)
    (hbinding : buildBinding host profile = .ok binding)
    (hresume : materialize binding 2 = .ok resume) :
    buildMaterialization binding resume 2 = .ok (described profile binding resume) := by
  obtain ⟨-, hfinalization, htraffic, htransitions⟩ := buildBinding_eq_ok hbinding
  obtain ⟨hlabel, hratio, htrigger, hpost⟩ := transition_two htransitions
  have htwo : (transitionAt binding 2).label = sprintTransitionLabel := hlabel
  have hwrapped : (transitionAt binding 2).postStationarityCommand =
      postStationarityCommand profile 2 := hpost
  have htriggerTwo : (transitionAt binding 2).triggerCommand = triggerCommand profile 2 := htrigger
  have hratioWords : Words (transitionAt binding 2).ratioBindCommand :=
    words_ratioBindCommand h hratio
  have hindex : 2 = sprintTransitionIndex := rfl
  rw [buildMaterialization, ok_of_require hindex, ok_bind, validateBinding_ok h hbinding, ok_bind,
    validateResume_ok hresume, ok_bind]
  simp only [htwo, hwrapped, htriggerTwo, hfinalization, htraffic]
  rw [ok_of_require trivial, ok_bind, hratioWords.requireCommand, ok_bind,
    (words_triggerCommand h 2).requireCommand, ok_bind,
    (words_postStationarityCommand h 2).requireCommand, ok_bind, extractPurePostStationarity_two h,
    ok_bind, (words_finalizationCommand h).requireCommand, ok_bind,
    materializeResumeFinalization_eq h, ok_bind, (words_trafficCommand h).requireCommand]
  rfl

theorem not_coherent_described :
    ¬ Coherent profile (described profile binding resume) := by
  intro hcoherent
  have hpost : resumedStationarity profile ++ freshnessMarker :: freshnessCommand profile 3 =
      resumedStationarity profile := hcoherent.post
  have hlength := congrArg List.length hpost
  rw [List.length_append, List.length_cons] at hlength
  omega

end

theorem sample_resumed : ∃ profile binding resume,
    acceptProfile sampleHost sampleMembers = .ok profile ∧
      buildBinding sampleHost profile = .ok binding ∧ materialize binding 2 = .ok resume := by
  have hchain : (acceptProfile sampleHost sampleMembers >>= fun profile =>
      buildBinding sampleHost profile >>= fun binding => materialize binding 2).toBool = true := by
    decide +kernel
  obtain ⟨resume, hchain⟩ := exists_ok hchain
  obtain ⟨profile, hprofile, hchain⟩ := bind_eq_ok.mp hchain
  obtain ⟨binding, hbinding, hresume⟩ := bind_eq_ok.mp hchain
  exact ⟨profile, binding, resume, hprofile, hbinding, hresume⟩

/-- The description is made, but the command behind the step keeps the nested freshness command, and
six ratios are requested where three events are expected. -/
theorem resumed_transition_incoherent {host : Host} {members : Members} {profile : Profile}
    {binding : Binding} {resume : Resume} (hprofile : acceptProfile host members = .ok profile)
    (hbinding : buildBinding host profile = .ok binding)
    (hresume : materialize binding 2 = .ok resume) :
    ∃ m, buildMaterialization binding resume 2 = .ok m ∧
      m.postStationarityCommand =
        resumedStationarity profile ++ freshnessMarker :: freshnessCommand profile 3 ∧
      requestedRatioCount m.finalizationCommand = 6 ∧
      intOfText (valueOf m.finalizationCommand (chars "--expected-event-count")) = some 3 ∧
      ¬ Coherent profile m := by
  have h := acceptProfile_accepted hprofile
  refine ⟨described profile binding resume, buildMaterialization_eq h hbinding hresume, rfl, ?_, ?_,
    not_coherent_described⟩
  · exact requestedRatioCount_finalizationWith h (by decide)
  · rw [described, eventCount_finalizationWith]
    decide +kernel

theorem resumed_transition_incoherent_sample : ∃ profile binding resume m,
    acceptProfile sampleHost sampleMembers = .ok profile ∧
      buildBinding sampleHost profile = .ok binding ∧ materialize binding 2 = .ok resume ∧
      buildMaterialization binding resume 2 = .ok m ∧ ¬ Coherent profile m := by
  obtain ⟨profile, binding, resume, hprofile, hbinding, hresume⟩ := sample_resumed
  obtain ⟨m, hm, -, -, -, hnot⟩ := resumed_transition_incoherent hprofile hbinding hresume
  exact ⟨profile, binding, resume, m, hprofile, hbinding, hresume, hm, hnot⟩

/-- The nested freshness command is left in the description of an ordinary profile. -/
theorem freshness_left_behind : ¬ ∀ (host : Host) (members : Members) (profile : Profile)
    (binding : Binding) (resume : Resume), acceptProfile host members = .ok profile →
      buildBinding host profile = .ok binding → materialize binding 2 = .ok resume →
      ∃ m, buildMaterialization binding resume 2 = .ok m ∧ Coherent profile m := by
  intro hall
  obtain ⟨profile, binding, resume, hprofile, hbinding, hresume⟩ := sample_resumed
  have h := acceptProfile_accepted hprofile
  obtain ⟨m, hm, hcoherent⟩ :=
    hall sampleHost sampleMembers profile binding resume hprofile hbinding hresume
  obtain rfl := Except.ok.inj ((buildMaterialization_eq h hbinding hresume).symm.trans hm)
  exact not_coherent_described hcoherent

end TcdOran.Harness.ResumeTransition
