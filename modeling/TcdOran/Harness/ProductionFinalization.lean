import TcdOran.Harness.FinalizationCommand
import TcdOran.Harness.ProductionPlan
import TcdOran.Timeline.BuilderAgreement

/-! The finalization command of the binding builder, as the finalization adapter and the timeline
builder read it. -/
namespace TcdOran.Harness.Finalization
open TcdOran.Lib Python ProductionBinding

/-- `parse_requested_ratios` of build-actuator-timeline.py; the texts of its errors do not have the
token. -/
def parseRequestedRatios (text : List ℕ) : Except String (List ℤ) := do
  let values ← (text.splitOn 44).mapM fun item => do
    require (item ≠ []) "requested-ratios must be a non-empty comma-separated list"
    require (fullmatch (Pattern.many isDigit) item = true) "invalid requested ratio token"
    let value ← Timeline.orError (intOfText item) "ValueError"
    require (Timeline.ratioToPrbs value ≠ none)
      "ratio outside Prompt-12 identification domain"
    return value
  require (values.length ≤ 6) "more than six Prompt-12 controls in one run are not allowed"
  return values

/-- An argument that the adapter takes for no marker and for no shell string. -/
def Ordinary (value : List ℕ) : Prop :=
  value ≠ [] ∧ 0 ∉ value ∧ value ∉ [timelineMarker, pipelineMarker, chars "-c", chars "-lc"]

instance (value : List ℕ) : Decidable (Ordinary value) := inferInstanceAs (Decidable (_ ∧ _ ∧ _))

theorem ordinary_of_operand {value : List ℕ} (h : Operand value) : Ordinary value := by
  have hoptions : ∀ literal ∈ [timelineMarker, pipelineMarker, chars "-c", chars "-lc"],
      literal.head? = some 45 := by decide
  obtain ⟨hne, hnul⟩ := ProductionPlan.word_of_operand h
  exact ⟨hne, hnul, fun hmem => h.ne_of_head (.inl (hoptions value hmem)) rfl⟩

/-! ### Nested commands -/

section
variable {command : Command} (h : ∀ value ∈ command, Ordinary value)
include h

theorem noMarker_of_ordinary : timelineMarker ∉ command ∧ pipelineMarker ∉ command :=
  ⟨fun hmem => (h _ hmem).2.2 (by simp), fun hmem => (h _ hmem).2.2 (by simp)⟩

theorem validateCommand_ordinary (hne : command ≠ []) (label : String) :
    validateCommand command label = .ok () := by
  have hshell : Handoff.commandUsesShellString command = false := by
    rw [Handoff.commandUsesShellString, List.any_eq_false]
    intro pair hpair
    have hnext : pair.2 ∈ command := List.mem_of_mem_tail (List.of_mem_zip hpair).2
    have hc : pair.2 ≠ chars "-c" := fun heq => (h _ hnext).2.2 (by simp [heq])
    have hlc : pair.2 ≠ chars "-lc" := fun heq => (h _ hnext).2.2 (by simp [heq])
    simp [hc, hlc]
  have hwords : ∀ value ∈ command, value ≠ [] ∧ 0 ∉ value :=
    fun value hvalue => ⟨(h value hvalue).1, (h value hvalue).2.1⟩
  rw [validateCommand, ok_of_require hne, ok_bind, ok_of_require hwords, ok_bind]
  exact ok_of_require hshell

end

/-! ### The options -/

def finalizationArguments (profile : Profile) : Arguments :=
  [(chars "--attempt-root", inRun profile [chars "evidence", chars "finalization"]),
    (chars "--python-executable", py profile),
    (chars "--timeline-output", inRun profile [chars "processed", chars "actuator-timeline.jsonl"]),
    (chars "--staging-output",
      inRun profile [chars "processed", chars "iperf3-receiver.intervals.staging.jsonl"]),
    (chars "--canonical-output",
      inRun profile [chars "processed", chars "iperf3-receiver.intervals.canonical.jsonl"]),
    (chars "--expected-event-count", chars "18")]

/-- The arguments as the adapter has them. -/
def productionArgs (profile : Profile) : Args where
  attemptRoot := inRun profile [chars "evidence", chars "finalization"]
  pythonExecutable := py profile
  timelineOutput := inRun profile [chars "processed", chars "actuator-timeline.jsonl"]
  stagingOutput :=
    inRun profile [chars "processed", chars "iperf3-receiver.intervals.staging.jsonl"]
  canonicalOutput :=
    inRun profile [chars "processed", chars "iperf3-receiver.intervals.canonical.jsonl"]
  expectedEventCount := 18

theorem names_finalizationArguments (profile : Profile) :
    (finalizationArguments profile).map Prod.fst =
      requiredOptions ++ [chars "--expected-event-count"] := rfl

theorem nodup_finalizationArguments (profile : Profile) :
    ((finalizationArguments profile).map Prod.fst).Nodup := by
  rw [names_finalizationArguments]
  decide

theorem readArgs_finalizationArguments (profile : Profile) :
    readArgs (finalizationArguments profile) = some (productionArgs profile) := by
  have hnodup := nodup_finalizationArguments profile
  have hmem (i : ℕ) {argument : List ℕ × List ℕ}
      (h : (finalizationArguments profile)[i]? = some argument) :
      argument ∈ finalizationArguments profile := List.mem_of_getElem? h
  have hcount : (finalizationArguments profile).int "--expected-event-count" = some (some 18) :=
    Arguments.int_of_mem hnodup (hmem 5 rfl) (by decide)
  have hroot := Arguments.get_of_mem hnodup (hmem 0 rfl)
  have hpython := Arguments.get_of_mem hnodup (hmem 1 rfl)
  have htimeline := Arguments.get_of_mem hnodup (hmem 2 rfl)
  have hstaging := Arguments.get_of_mem hnodup (hmem 3 rfl)
  have hcanonical := Arguments.get_of_mem hnodup (hmem 4 rfl)
  simp only [readArgs, hcount, hroot, hpython, htimeline, hstaging, hcanonical, Option.getD_some,
    Option.bind_eq_bind, Option.bind_some, Option.pure_def]
  rfl

theorem parseCommon_production (profile : Profile) :
    parseCommon (ArgumentParser.flatten (finalizationArguments profile)) =
      .ok (productionArgs profile) := by
  have hvalues : ∀ argument ∈ finalizationArguments profile,
      finalizationParser.isValue argument.2 = true := by
    have hpath (path : Handoff.AbsolutePath) :
        finalizationParser.isValue (ProductionBinding.pathText path) = true := by
      simp [ArgumentParser.isValue, head_pathText]
    simp only [finalizationArguments, List.forall_mem_cons]
    exact ⟨hpath _, hpath _, hpath _, hpath _, hpath _, rfl, by simp⟩
  have hoptions : ∀ argument ∈ finalizationArguments profile,
      argument.1 ∈ finalizationParser.options := by
    intro argument hargument
    show argument.1 ∈ requiredOptions ++ [chars "--expected-event-count"]
    rw [← names_finalizationArguments profile]
    exact List.mem_map_of_mem hargument
  have hrequired : ∀ option ∈ finalizationParser.required,
      option ∈ (finalizationArguments profile).map Prod.fst := by
    rw [names_finalizationArguments]
    exact fun option hoption => List.mem_append_left _ hoption
  have hparsed := ArgumentParser.parseArgs_flatten hoptions hvalues hrequired
  rw [parseCommon, hparsed]
  simp only [readArgs_finalizationArguments]

/-! ### The nested commands of a profile -/

/-- The timeline command in front of its token. -/
def timelineFront (profile : Profile) : Command :=
  [py profile, toolText profile .timelineBuilder,
    chars "--schema", toolText profile .schema] ++ identityOptions profile ++
  [chars "--requested-ratios", (chars ",").intercalate (requestedRatios.map decimalUnits),
    chars "--command-input", ProductionBinding.pathText (profile.data .actuatorCommandInput),
    chars "--applied-input", ProductionBinding.pathText (profile.data .actuatorAppliedInput),
    chars "--ack-input", ProductionBinding.pathText (profile.data .actuatorAckInput),
    chars "--output"]

def pipelineFront (profile : Profile) : Command :=
  [toolText profile .receiverPipeline, chars "process-actuator-transitions",
    profile.experimentId, profile.runId, ProductionBinding.pathText profile.runDirectory]

theorem timelineCommand_eq (profile : Profile) :
    timelineCommand profile = timelineFront profile ++ [timelineToken] := rfl

theorem pipelineCommand_eq (profile : Profile) :
    pipelineCommand profile = pipelineFront profile ++ [timelineToken] := rfl

/-- Neither marker nor shell string nor token. -/
def Inner (value : List ℕ) : Prop := Ordinary value ∧ value ≠ timelineToken

instance (value : List ℕ) : Decidable (Inner value) := inferInstanceAs (Decidable (_ ∧ _))

theorem inner_of_operand {value : List ℕ} (h : Operand value) : Inner value :=
  ⟨ordinary_of_operand h, h.ne_of_head (.inr rfl)⟩

section
variable {profile : Profile} (h : profile.Accepted)
include h

theorem inner_timelineFront (hdata : ∀ data, Clean (profile.data data)) :
    ∀ value ∈ timelineFront profile, Inner value := by
  have htool (tool : ToolName) : Inner (toolText profile tool) :=
    inner_of_operand (h.operand_toolText tool)
  have hinput (data : DataName) : Inner (ProductionBinding.pathText (profile.data data)) :=
    inner_of_operand (operand_pathText (hdata data))
  have hidentity : ∀ value ∈ identityOptions profile, Inner value :=
    h.forall_identityOptions (fun _ => inner_of_operand) (by decide)
  simp only [timelineFront, List.forall_mem_append, List.forall_mem_cons]
  exact ⟨⟨⟨inner_of_operand h.operand_py, htool _, by decide, htool _, by simp⟩, hidentity⟩,
    by decide, by decide, by decide, hinput _, by decide, hinput _, by decide, hinput _, by decide,
    by simp⟩

theorem inner_pipelineFront : ∀ value ∈ pipelineFront profile, Inner value := by
  simp only [pipelineFront, List.forall_mem_cons]
  exact ⟨inner_of_operand (h.operand_toolText _), by decide, inner_of_operand h.operand_experimentId,
    inner_of_operand h.operand_runId, inner_of_operand (operand_pathText h.runDirectory), by simp⟩

/-- The options have no marker. -/
theorem noMarker_options : timelineMarker ∉ ArgumentParser.flatten (finalizationArguments profile) ∧
    pipelineMarker ∉ ArgumentParser.flatten (finalizationArguments profile) := by
  have hordinary : ∀ value ∈ ArgumentParser.flatten (finalizationArguments profile),
      Ordinary value := by
    have hrun {names : List (List ℕ)} (hnames : ∀ name ∈ names, 0 ∉ name) :
        Ordinary (inRun profile names) := ordinary_of_operand (h.operand_inRun hnames)
    simp only [finalizationArguments, ArgumentParser.flatten, List.flatMap_cons, List.flatMap_nil,
      List.forall_mem_append, List.forall_mem_cons]
    exact ⟨⟨by decide, hrun (by decide), by simp⟩,
      ⟨by decide, ordinary_of_operand h.operand_py, by simp⟩, ⟨by decide, hrun (by decide), by simp⟩,
      ⟨by decide, hrun (by decide), by simp⟩, ⟨by decide, hrun (by decide), by simp⟩,
      ⟨by decide, by decide, by simp⟩, by simp⟩
  exact noMarker_of_ordinary hordinary

end

section
variable {front : Command} (h : ∀ value ∈ front, Inner value)
include h

/-- The token at the end of a command is the only one. -/
theorem count_token : (front ++ [timelineToken]).count timelineToken = 1 :=
  count_marker (fun hmem => (h _ hmem).2 rfl) List.not_mem_nil

theorem resolveCommand_front (output : List ℕ) :
    resolveCommand (front ++ [timelineToken]) output = front ++ [pathText output] := by
  have hfront : (front.map fun value => if value = timelineToken then pathText output else value) =
      front := by
    refine (List.map_congr_left fun value hvalue => ?_).trans (List.map_id _)
    exact if_neg (h value hvalue).2
  rw [resolveCommand, List.map_append, hfront, List.map_singleton, if_pos rfl]

theorem ordinary_front : ∀ value ∈ front ++ [timelineToken], Ordinary value := by
  have htoken : Ordinary timelineToken := by decide
  rw [List.forall_mem_append, List.forall_mem_singleton]
  exact ⟨fun value hvalue => (h value hvalue).1, htoken⟩

end

/-- The adapter finds the commands that the builder has nested in its arguments. Python reads the
arguments behind the tool. -/
theorem parseInvocation_production {profile : Profile} (h : profile.Accepted)
    (hdata : ∀ data, Clean (profile.data data)) :
    parseInvocation ((finalizationCommand profile).drop 2) =
      .ok (productionArgs profile, timelineCommand profile, pipelineCommand profile) := by
  have hargv : (finalizationCommand profile).drop 2 =
      ArgumentParser.flatten (finalizationArguments profile) ++
        timelineMarker :: timelineCommand profile ++ pipelineMarker :: pipelineCommand profile := rfl
  have htimeline := inner_timelineFront h hdata
  have hpipeline := inner_pipelineFront h
  have htimelineWords := ordinary_front htimeline
  have hpipelineWords := ordinary_front hpipeline
  rw [← timelineCommand_eq] at htimelineWords
  rw [← pipelineCommand_eq] at hpipelineWords
  have hsplit := splitByMarkers (by decide) (noMarker_options h) (noMarker_of_ordinary htimelineWords)
    (noMarker_of_ordinary hpipelineWords)
  rw [← hargv] at hsplit
  have hcount : (timelineCommand profile).count timelineToken = 1 := count_token htimeline
  have hcount' : (pipelineCommand profile).count timelineToken = 1 := count_token hpipeline
  rw [parseInvocation, ok_of_require hsplit.count, ok_bind, ok_of_require hsplit.count', ok_bind]
  simp only [hsplit.options, hsplit.first, hsplit.second]
  rw [ok_of_require hsplit.order, ok_bind, parseCommon_production, ok_bind,
    validateCommand_ordinary htimelineWords (List.cons_ne_nil _ _), ok_bind,
    validateCommand_ordinary hpipelineWords (List.cons_ne_nil _ _), ok_bind, validateTemplates,
    ok_of_require hcount, ok_bind, ok_of_require hcount', ok_bind]
  rfl

/-! ### The number of events -/

/-- What the builder gives for `--requested-ratios`. -/
def requestedRatiosText : List ℕ := (chars ",").intercalate (requestedRatios.map decimalUnits)

theorem parse_requestedRatiosText :
    parseRequestedRatios requestedRatiosText = .ok [50, 75, 100, 75, 50, 25] := by decide +kernel

open Timeline in
/-- Three events for each ratio. -/
theorem length_buildEvents {experimentId runId : List ℕ} {ratios : List ℤ}
    {commandLines appliedLines ackLines : List (List ℕ)} {events : List ActuatorEvent}
    (h : buildEvents experimentId runId ratios commandLines appliedLines ackLines = .ok events) :
    events.length = ratios.length * 3 := by
  obtain ⟨cs, -, hratios, rfl⟩ := buildEvents_ok h
  rw [length_events, ← hratios, List.length_map]

/-- The adapter takes the command of every accepted profile apart as it was put together. Both nested
commands get the path whose rows are counted, and as many rows are asked for as the timeline builder
makes of the ratios in the command. -/
theorem production_finalization {host : Host} {members : Members} {profile : Profile}
    (hprofile : acceptProfile host members = .ok profile) (w : Surroundings) :
    ∃ args timeline pipeline ratios,
      parseInvocation ((finalizationCommand profile).drop 2) = .ok (args, timeline, pipeline) ∧
      (timelineRun w args timeline).command =
        timelineFront profile ++ [pathText (args.output .timeline)] ∧
      (pipelineRun w args pipeline).command =
        pipelineFront profile ++ [pathText (args.output .timeline)] ∧
      [chars "--requested-ratios", requestedRatiosText] <:+: timelineFront profile ∧
      parseRequestedRatios requestedRatiosText = .ok ratios ∧
      ∀ experimentId runId commandLines appliedLines ackLines events,
        Timeline.buildEvents experimentId runId ratios commandLines appliedLines ackLines =
          .ok events →
        ((rowsOf w .timeline : ℤ) = args.expectedEventCount ↔ rowsOf w .timeline = events.length) := by
  have haccepted := acceptProfile_accepted hprofile
  obtain ⟨hdata, -⟩ := ProductionPlan.acceptProfile_paths hprofile
  refine ⟨_, _, _, _, parseInvocation_production haccepted hdata, ?_, ?_, ?_,
    parse_requestedRatiosText, ?_⟩
  · exact resolveCommand_front (inner_timelineFront haccepted hdata) _
  · exact resolveCommand_front (inner_pipelineFront haccepted) _
  · exact ⟨[py profile, toolText profile .timelineBuilder, chars "--schema",
      toolText profile .schema] ++ identityOptions profile, _, rfl⟩
  · intro experimentId runId commandLines appliedLines ackLines events hevents
    have hcount : events.length = 18 := length_buildEvents hevents
    have hexpected : (productionArgs profile).expectedEventCount = 18 := rfl
    rw [hcount, hexpected]
    omega

/-- A run without faults, whose commands leave nothing. -/
def sampleRun : Surroundings where
  cwd := ProductionBinding.root
  exists_ _ := false
  pythonIsFile := true
  pythonIsExecutable := true
  pythonDirectory := chars "/usr/bin"
  path := []
  fault _ := none
  run _ _ _ := .completed 0
  file _ := none
  loads := plainLoads

theorem production_finalization_sample : ∃ profile args timeline pipeline,
    acceptProfile sampleHost sampleMembers = .ok profile ∧
      parseInvocation ((finalizationCommand profile).drop 2) = .ok (args, timeline, pipeline) ∧
      (timelineRun sampleRun args timeline).command =
        timelineFront profile ++ [pathText (args.output .timeline)] := by
  obtain ⟨profile, hprofile⟩ := sample_accepted
  obtain ⟨args, timeline, pipeline, ratios, hparse, htimeline, -⟩ :=
    production_finalization hprofile sampleRun
  exact ⟨profile, args, timeline, pipeline, hprofile, hparse, htimeline⟩

end TcdOran.Harness.Finalization
