import TcdOran.Harness.PrecontrolHandoff
import TcdOran.Lib.Argparse

/-! The arguments of prompt12-bounded-precontrol-handoff.py: its own options, then the stationarity
and the freshness command behind their markers. -/
namespace TcdOran.Harness.Handoff
open TcdOran.Lib Python

abbrev Command := List (List ℕ)

def stationarityMarker : List ℕ := chars "--stationarity-command"
def freshnessMarker : List ℕ := chars "--freshness-command"

def shellNames : List (List ℕ) := ["bash", "dash", "sh", "zsh", "ksh"].map chars

/-- `pathlib.Path(value).name`. -/
def pathName (value : List ℕ) : List ℕ := lastName (pathNames value)

def commandUsesShellString (command : Command) : Bool :=
  (command.zip command.tail).any fun (value, next) =>
    pathName value ∈ shellNames && (next = chars "-c" || next = chars "-lc")

def validateCommand (command : Command) (label : String) : Except HandoffFailure Unit := do
  require (command ≠ []) (.handoff (chars label ++ chars "_COMMAND_EMPTY") 64)
  require (∀ value ∈ command, value ≠ [] ∧ 0 ∉ value)
    (.handoff (chars label ++ chars "_COMMAND_ARGUMENT_INVALID") 64)
  require (commandUsesShellString command = false)
    (.handoff (chars label ++ chars "_SHELL_STRING_PROHIBITED") 64)

def validateFreshnessTemplate (command : Command) : Except HandoffFailure Unit := do
  require (command.count stationarityJsonToken = 1)
    (reject "FRESHNESS_STATIONARITY_TOKEN_COUNT_INVALID" 64)
  require (command.count precontrolJsonToken = 1)
    (reject "FRESHNESS_PRECONTROL_TOKEN_COUNT_INVALID" 64)
  require (command.count canonicalIntervalsToken = 1)
    (reject "FRESHNESS_CANONICAL_INTERVALS_TOKEN_COUNT_INVALID" 64)
  require (command.count decisionUtcNsToken ≤ 1)
    (reject "FRESHNESS_DECISION_TIME_TOKEN_COUNT_INVALID" 64)

def handoffParser : ArgumentParser where
  options := [chars "--attempt-root", chars "--precontrol-output"]
  required := [chars "--attempt-root", chars "--precontrol-output"]

/-- The texts of `argparse`, in which `HandoffParser.error` replaces the blanks. -/
def argumentMessage : ArgumentError → List ℕ
  | .expectedOneArgument option => chars "argument_" ++ option ++ chars ":_expected_one_argument"
  | .required options =>
      chars "the_following_arguments_are_required:_" ++ (chars ",_").intercalate options
  | .unrecognized arguments =>
      chars "unrecognized_arguments:_" ++
        ((chars "_").intercalate arguments).map fun u => if u = 32 then 95 else u

/-- The options in front of the commands. -/
structure Common where
  attemptRoot : List ℕ
  precontrolOutput : List ℕ
  deriving DecidableEq

def parseCommon (argv : Command) : Except HandoffFailure Common :=
  match handoffParser.parseArgs argv with
  | .ok arguments => .ok ⟨(arguments.get "--attempt-root").getD [],
      (arguments.get "--precontrol-output").getD []⟩
  | .error e => .error (.handoff (chars "ARGUMENTS_INVALID:" ++ argumentMessage e) 64)

def parseInvocation (argv : Command) : Except HandoffFailure (Common × Command × Command) := do
  require (argv.count stationarityMarker = 1)
    (reject "STATIONARITY_COMMAND_MARKER_COUNT_INVALID" 64)
  require (argv.count freshnessMarker = 1) (reject "FRESHNESS_COMMAND_MARKER_COUNT_INVALID" 64)
  let stationarityIndex := argv.idxOf stationarityMarker
  let freshnessIndex := argv.idxOf freshnessMarker
  require (stationarityIndex < freshnessIndex) (reject "COMMAND_MARKER_ORDER_INVALID" 64)
  let common ← parseCommon (argv.take stationarityIndex)
  let stationarity := (argv.take freshnessIndex).drop (stationarityIndex + 1)
  let freshness := argv.drop (freshnessIndex + 1)
  validateCommand stationarity "STATIONARITY"
  validateCommand freshness "FRESHNESS"
  validateFreshnessTemplate freshness
  return (common, stationarity, freshness)

/-! ### Invocations that are put together -/

/-- The arguments of a hand-off. -/
def invocation (common : Common) (stationarity freshness : Command) : Command :=
  [chars "--attempt-root", common.attemptRoot, chars "--precontrol-output", common.precontrolOutput] ++
    stationarityMarker :: stationarity ++ freshnessMarker :: freshness

/-- What a nested command must be for the markers to be found again. -/
structure Nested (command : Command) : Prop where
  nonempty : command ≠ []
  words : ∀ value ∈ command, value ≠ [] ∧ 0 ∉ value
  noMarker : stationarityMarker ∉ command ∧ freshnessMarker ∉ command
  noShell : chars "-c" ∉ command ∧ chars "-lc" ∉ command

theorem Nested.validate {command : Command} (h : Nested command) (label : String) :
    validateCommand command label = .ok () := by
  have hshell : commandUsesShellString command = false := by
    rw [commandUsesShellString, List.any_eq_false]
    rintro ⟨value, next⟩ hpair
    have hnext : next ∈ command := List.mem_of_mem_tail (List.of_mem_zip hpair).2
    have hc : next ≠ chars "-c" := fun heq => h.noShell.1 (heq ▸ hnext)
    have hlc : next ≠ chars "-lc" := fun heq => h.noShell.2 (heq ▸ hnext)
    simp [hc, hlc]
  rw [validateCommand, ok_of_require h.nonempty, ok_bind, ok_of_require h.words, ok_bind]
  exact ok_of_require hshell

variable {common : Common} {stationarity freshness : Command}

theorem parseCommon_options (hroot : common.attemptRoot.head? = some 47)
    (houtput : common.precontrolOutput.head? = some 47) :
    parseCommon [chars "--attempt-root", common.attemptRoot, chars "--precontrol-output",
      common.precontrolOutput] = .ok common := by
  let arguments := [(chars "--attempt-root", common.attemptRoot),
    (chars "--precontrol-output", common.precontrolOutput)]
  have hparsed : handoffParser.parseArgs (ArgumentParser.flatten arguments) = .ok arguments := by
    apply ArgumentParser.parseArgs_flatten
    · simp [arguments, handoffParser]
    · simp [arguments, ArgumentParser.isValue, hroot, houtput]
    · simp [arguments, handoffParser]
  rw [parseCommon]
  erw [hparsed]
  rfl

/-- The two commands are found again behind options without a marker. -/
theorem parseInvocation_split {options : Command} (hcommon : parseCommon options = .ok common)
    (hoptions : stationarityMarker ∉ options ∧ freshnessMarker ∉ options)
    (hstationarity : Nested stationarity) (hfreshness : Nested freshness)
    (htemplate : validateFreshnessTemplate freshness = .ok ()) :
    parseInvocation (options ++ stationarityMarker :: stationarity ++ freshnessMarker :: freshness) =
      .ok (common, stationarity, freshness) := by
  set argv := options ++ stationarityMarker :: stationarity ++ freshnessMarker :: freshness with hargv
  have hsplit : argv =
      options ++ stationarityMarker :: (stationarity ++ freshnessMarker :: freshness) := by
    simp [hargv]
  have hbehind : stationarityMarker ∉ stationarity ++ freshnessMarker :: freshness := by
    simp only [List.mem_append, List.mem_cons, not_or]
    exact ⟨hstationarity.noMarker.1, by decide, hfreshness.noMarker.1⟩
  have hfront : freshnessMarker ∉ options ++ stationarityMarker :: stationarity := by
    simp only [List.mem_append, List.mem_cons, not_or]
    exact ⟨hoptions.2, by decide, hstationarity.noMarker.2⟩
  have hstationarityIndex : argv.idxOf stationarityMarker = options.length :=
    hsplit ▸ idxOf_marker hoptions.1
  have hfreshnessIndex : argv.idxOf freshnessMarker =
      (options ++ stationarityMarker :: stationarity).length := idxOf_marker hfront
  have hcommonPart : argv.take options.length = options := by rw [hsplit, List.take_left]
  have hnested : (argv.take (options ++ stationarityMarker :: stationarity).length).drop
      (options.length + 1) = stationarity := by
    rw [hargv, List.take_left, drop_marker]
  have hrest : argv.drop ((options ++ stationarityMarker :: stationarity).length + 1) = freshness :=
    drop_marker
  have horder : options.length < (options ++ stationarityMarker :: stationarity).length := by
    rw [List.length_append, List.length_cons]
    omega
  rw [parseInvocation, ok_of_require (hsplit ▸ count_marker hoptions.1 hbehind), ok_bind,
    ok_of_require (count_marker hfront hfreshness.noMarker.2), ok_bind]
  simp only [hstationarityIndex, hfreshnessIndex, hcommonPart, hnested, hrest]
  rw [ok_of_require horder, ok_bind, hcommon, ok_bind, hstationarity.validate, ok_bind,
    hfreshness.validate, ok_bind, htemplate]
  rfl

theorem parseInvocation_invocation (hroot : common.attemptRoot.head? = some 47)
    (houtput : common.precontrolOutput.head? = some 47) (hstationarity : Nested stationarity)
    (hfreshness : Nested freshness) (htemplate : validateFreshnessTemplate freshness = .ok ()) :
    parseInvocation (invocation common stationarity freshness) =
      .ok (common, stationarity, freshness) := by
  have hslash : ∀ marker ∈ [stationarityMarker, freshnessMarker],
      marker.head? ≠ some 47 ∧ marker ≠ chars "--attempt-root" ∧
        marker ≠ chars "--precontrol-output" := by decide
  have hoption : ∀ marker ∈ [stationarityMarker, freshnessMarker],
      marker ∉ [chars "--attempt-root", common.attemptRoot, chars "--precontrol-output",
        common.precontrolOutput] := by
    intro marker hmarker hmem
    obtain ⟨hhead, hattempt, hprecontrol⟩ := hslash marker hmarker
    simp only [List.mem_cons, List.not_mem_nil, or_false] at hmem
    rcases hmem with h | h | h | h
    · exact hattempt h
    · exact hhead (h ▸ hroot)
    · exact hprecontrol h
    · exact hhead (h ▸ houtput)
  exact parseInvocation_split (parseCommon_options hroot houtput)
    ⟨hoption _ (by decide), hoption _ (by decide)⟩ hstationarity hfreshness htemplate

end TcdOran.Harness.Handoff
