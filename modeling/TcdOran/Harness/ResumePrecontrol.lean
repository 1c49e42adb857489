import TcdOran.Harness.ProductionCommands

/-! prompt12-resume-precontrol-materializer.py: the first command of a sequence that is resumed at a
later transition, made from a binding manifest. -/
namespace TcdOran.Harness.ResumePrecontrol
open TcdOran.Lib Python ProductionBinding
open Handoff hiding Command

def schema : List ℕ := chars "sci_oran_prompt12_resume_precontrol_materialization_v1"

/-- A `ContractError` by its text. -/
abbrev Contracted := Except (List ℕ)

/-- The report, without the path and the hash of the manifest. -/
structure Resume where
  schema : List ℕ
  initialTransitionIndex : ℕ
  firstScientificTransition : List ℕ
  precontrolSemantics : List ℕ
  syntheticPriorTransitionEvents : Bool
  skippedTransitionBindingsConsumed : Bool
  commandExecuted : Bool
  trafficExecuted : Bool
  fifoTriggerExecuted : Bool
  actuatorRequestExecuted : Bool
  controlExecuted : Bool
  command : Command
  deriving DecidableEq

def requireCommand (value : Command) (name : String) : Contracted Command := do
  require (value ≠ []) (chars name ++ chars "_NOT_NONEMPTY_ARGV")
  require (∀ item ∈ value, item ≠ []) (chars name ++ chars "_INVALID_ARGV_ITEM")
  return value

/-! ### Options -/

/-- The positions of an option, which is not the last argument. -/
def optionPositions (argv : Command) (option : List ℕ) : List ℕ :=
  positionsOf argv.dropLast option

def optionPosition (argv : Command) (option : List ℕ) : Contracted ℕ := do
  let positions := optionPositions argv option
  require (positions.length = 1)
    (chars "OPTION_CARDINALITY_INVALID:" ++ option ++ chars ":" ++ decimalUnits positions.length)
  return positions.headD 0

def optionValue (argv : Command) (option : List ℕ) : Contracted (List ℕ) := do
  let position ← optionPosition argv option
  return argv.getD (position + 1) []

def replaceOptionValue (argv : Command) (option newValue : List ℕ) : Contracted Command := do
  let position ← optionPosition argv option
  return argv.set (position + 1) newValue

/-- `replace_transition_file` and `replace_transition_directory`. -/
def replaceTransitionPath (value expectedName targetName field : List ℕ) : Contracted (List ℕ) := do
  require (value.head? = some 47) (field ++ chars "_NOT_ABSOLUTE:" ++ value)
  let path := absolutePath root value
  require (lastName path.names = expectedName)
    (field ++ chars "_EXPECTED_NAME_MISMATCH:" ++ lastName path.names ++ chars ":" ++ expectedName)
  return pathText { path with names := path.names.dropLast ++ [targetName] }

/-! ### The manifest -/

def checkOrder (transition : Transition) (index : ℕ) : Contracted Unit :=
  require (transition.label = ProductionBinding.transitionLabel index)
    (chars "TRANSITION_ORDER_MISMATCH:" ++ decimalUnits index ++ chars ":" ++ transition.label)

/-- `validate_manifest`: the initial command. -/
def validateManifest (manifest : Binding) : Contracted Command := do
  let initial ← requireCommand manifest.initialStationarityCommand "INITIAL_STATIONARITY_COMMAND"
  require (manifest.transitions.length = 6) (chars "TRANSITIONS_CARDINALITY_NOT_SIX")
  (manifest.transitions.zipIdx 1).forM fun (transition, index) => checkOrder transition index
  let mode ← optionValue initial (chars "--mode")
  require (mode = chars "initial-pre-step") (chars "INITIAL_STATIONARITY_MODE_NOT_INITIAL_PRE_STEP")
  require (chars "--control-index" ∉ initial) (chars "INITIAL_STATIONARITY_HAS_CONTROL_INDEX")
  require (chars "--timeline-command-json" ∉ initial)
    (chars "INITIAL_STATIONARITY_HAS_TIMELINE_COMMAND")
  require (chars "--expected-timeline-event-count" ∉ initial)
    (chars "INITIAL_STATIONARITY_HAS_EXPECTED_TIMELINE_EVENT_COUNT")
  return initial

/-! ### The resumed command -/

/-- One value of the initial command for another transition. -/
def retargetOption (command : Command) (option value expectedName targetName field : List ℕ) :
    Contracted Command := do
  let target ← replaceTransitionPath value expectedName targetName field
  replaceOptionValue command option target

/-- The initial command for another transition. The values are read before any of them is
replaced. -/
def retarget (command : Command) (label : List ℕ) : Contracted Command := do
  let attemptRoot ← optionValue command (chars "--attempt-root")
  let precontrolOutput ← optionValue command (chars "--precontrol-output")
  let selectedOutput ← optionValue command (chars "--selected-output")
  let stationarityRoot ← optionValue command (chars "--evidence-root")
  let command ← retargetOption command (chars "--attempt-root") attemptRoot (chars "T1") label
    (chars "ATTEMPT_ROOT")
  let command ← retargetOption command (chars "--precontrol-output") precontrolOutput
    (chars "T1.json") (label ++ chars ".json") (chars "PRECONTROL_OUTPUT")
  let command ← retargetOption command (chars "--selected-output") selectedOutput
    (chars "T1.selected.jsonl") (label ++ chars ".selected.jsonl") (chars "SELECTED_OUTPUT")
  retargetOption command (chars "--evidence-root") stationarityRoot (chars "initial")
    (chars "resume-" ++ label) (chars "STATIONARITY_EVIDENCE_ROOT")

def forbiddenOptions : List (List ℕ) :=
  ["--control-index", "--timeline-command-json", "--expected-timeline-event-count",
    "--actuator-timeline"].map chars

def forbiddenFragments : List (List ℕ) :=
  ["/precontrol/T1.json", "/precontrol/T1.selected.jsonl", "/precontrol-handoff/T1"].map chars

/-- Nothing of a skipped transition is left. -/
def checkFragments (command : Command) (index : ℕ) : Contracted Unit :=
  if 1 < index then
    command.forM fun item => forbiddenFragments.forM fun fragment =>
      require (¬ fragment <:+: item) (chars "SKIPPED_T1_REFERENCE_REMAINS:" ++ fragment)
  else .ok ()

def checkCommand (command : Command) (label : List ℕ) : Contracted Unit := do
  let mode ← optionValue command (chars "--mode")
  require (mode = chars "initial-pre-step") (chars "MATERIALIZED_MODE_NOT_INITIAL_PRE_STEP")
  forbiddenOptions.forM fun option =>
    require (option ∉ command) (chars "RESUME_INITIAL_COMMAND_FORBIDDEN_OPTION:" ++ option)
  let output ← optionValue command (chars "--precontrol-output")
  require (pathName output = label ++ chars ".json") (chars "TARGET_PRECONTROL_OUTPUT_MISMATCH")

def resumedCommand (source : Command) (index : ℕ) : Contracted Command :=
  if index = 1 then .ok source else retarget source (ProductionBinding.transitionLabel index)

def materialize (manifest : Binding) (initialTransitionIndex : ℕ) : Contracted Resume := do
  require (1 ≤ initialTransitionIndex ∧ initialTransitionIndex ≤ 6)
    (chars "INITIAL_TRANSITION_INDEX_OUT_OF_RANGE")
  let source ← validateManifest manifest
  let command ← resumedCommand source initialTransitionIndex
  checkCommand command (ProductionBinding.transitionLabel initialTransitionIndex)
  checkFragments command initialTransitionIndex
  return {
    schema
    initialTransitionIndex
    firstScientificTransition := ProductionBinding.transitionLabel initialTransitionIndex
    precontrolSemantics := chars "initial-pre-step"
    syntheticPriorTransitionEvents := false
    skippedTransitionBindingsConsumed := false
    commandExecuted := false
    trafficExecuted := false
    fifoTriggerExecuted := false
    actuatorRequestExecuted := false
    controlExecuted := false
    command }

/-! ### What a materialization says -/

theorem retargetOption_words {command command' : Command}
    {option value expectedName targetName field : List ℕ}
    (h : retargetOption command option value expectedName targetName field = .ok command')
    (hwords : ∀ item ∈ command, item ≠ []) (hne : command ≠ []) :
    (∀ item ∈ command', item ≠ []) ∧ command' ≠ [] := by
  obtain ⟨target, htarget, h⟩ := bind_eq_ok.mp h
  obtain ⟨position, -, h⟩ := bind_eq_ok.mp h
  cases h
  have hpath : target ≠ [] := by
    simp only [replaceTransitionPath, require_bind_eq_ok] at htarget
    obtain ⟨-, -, htarget⟩ := htarget
    cases htarget
    rintro hnil
    exact absurd (hnil ▸ head_pathText _) (by decide)
  refine ⟨fun item hitem => ?_, by simpa using hne⟩
  rcases List.mem_or_eq_of_mem_set hitem with hmem | rfl
  · exact hwords item hmem
  · exact hpath

theorem retarget_words {command command' : Command} {label : List ℕ}
    (h : retarget command label = .ok command') (hwords : ∀ item ∈ command, item ≠ [])
    (hne : command ≠ []) : (∀ item ∈ command', item ≠ []) ∧ command' ≠ [] := by
  unfold retarget at h
  obtain ⟨attemptRoot, -, h⟩ := bind_eq_ok.mp h
  obtain ⟨precontrolOutput, -, h⟩ := bind_eq_ok.mp h
  obtain ⟨selectedOutput, -, h⟩ := bind_eq_ok.mp h
  obtain ⟨stationarityRoot, -, h⟩ := bind_eq_ok.mp h
  obtain ⟨first, hfirst, h⟩ := bind_eq_ok.mp h
  obtain ⟨second, hsecond, h⟩ := bind_eq_ok.mp h
  obtain ⟨third, hthird, h⟩ := bind_eq_ok.mp h
  obtain ⟨hwords, hne⟩ := retargetOption_words hfirst hwords hne
  obtain ⟨hwords, hne⟩ := retargetOption_words hsecond hwords hne
  obtain ⟨hwords, hne⟩ := retargetOption_words hthird hwords hne
  exact retargetOption_words h hwords hne

/-- A materialization for a later transition, by its fields. -/
theorem materialize_eq_ok {manifest : Binding} {index : ℕ} {resume : Resume} (hindex : index ≠ 1)
    (h : materialize manifest index = .ok resume) :
    ∃ command, (∀ item ∈ command, item ≠ []) ∧ command ≠ [] ∧
      resume = ⟨schema, index, ProductionBinding.transitionLabel index, chars "initial-pre-step",
        false, false, false, false, false, false, false, command⟩ := by
  unfold materialize at h
  rw [require_bind_eq_ok] at h
  obtain ⟨-, h⟩ := h
  obtain ⟨source, hsource, h⟩ := bind_eq_ok.mp h
  obtain ⟨command, hcommand, h⟩ := bind_eq_ok.mp h
  rw [resumedCommand, if_neg hindex] at hcommand
  obtain ⟨_, -, h⟩ := bind_eq_ok.mp h
  obtain ⟨_, -, h⟩ := bind_eq_ok.mp h
  cases h
  obtain ⟨initial, hinitial, hsource⟩ := bind_eq_ok.mp hsource
  simp only [requireCommand, require_bind_eq_ok] at hinitial
  obtain ⟨hne, hwords, hinitial⟩ := hinitial
  cases hinitial
  simp only [bind_eq_ok, require_eq_ok] at hsource
  obtain ⟨_, _, _, _, _, _, _, _, _, _, _, _, _, _, hsource⟩ := hsource
  cases hsource
  obtain ⟨hwords, hne⟩ := retarget_words hcommand hwords hne
  exact ⟨command, hwords, hne, rfl⟩

end TcdOran.Harness.ResumePrecontrol
