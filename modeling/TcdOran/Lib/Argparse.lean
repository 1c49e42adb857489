import TcdOran.Lib.Association
import TcdOran.Lib.Check
import TcdOran.Lib.PythonNumber

/-! `argparse` for a parser whose options each take one value. Abbreviated options and options
written as `--option=value` are not read. -/
namespace TcdOran.Lib.Python

inductive ArgumentError
  | expectedOneArgument (option : List ℕ)
  | required (options : List (List ℕ))
  | unrecognized (arguments : List (List ℕ))
  deriving DecidableEq

structure ArgumentParser where
  options : List (List ℕ)
  required : List (List ℕ)

/-- The values of the options in the order in which they are given. -/
abbrev Arguments := List (List ℕ × List ℕ)

/-- `-5`, `-.5` and `-1.5`. -/
def isNegativeNumber : List ℕ → Bool
  | 45 :: rest =>
      let (whole, rest) := spanDigits rest
      match rest with
      | [] => whole ≠ []
      | 46 :: rest => (spanDigits rest).1 ≠ [] ∧ (spanDigits rest).2 = []
      | _ => false
  | _ => false

namespace ArgumentParser
variable (parser : ArgumentParser)

/-- The argument is taken for a value and not for an option. -/
def isValue (argument : List ℕ) : Bool :=
  argument.head? ≠ some 45 || (argument ∉ parser.options &&
    (argument = [45] || isNegativeNumber argument || argument.contains 32))

/-- The options with their values, and the arguments that belong to none. -/
def consume : List (List ℕ) → Except ArgumentError (Arguments × List (List ℕ))
  | [] => .ok ([], [])
  | [argument] =>
      if argument ∈ parser.options then .error (.expectedOneArgument argument)
      else .ok ([], [argument])
  | argument :: value :: rest =>
      if argument ∈ parser.options then
        if parser.isValue value then do
          let (arguments, extras) ← consume rest
          return ((argument, value) :: arguments, extras)
        else .error (.expectedOneArgument argument)
      else do
        let (arguments, extras) ← consume (value :: rest)
        return (arguments, argument :: extras)

/-- `parser.parse_args`. -/
def parseArgs (argv : List (List ℕ)) : Except ArgumentError Arguments := do
  let (arguments, extras) ← parser.consume argv
  let missing := parser.required.filter fun option => option ∉ arguments.map Prod.fst
  require (missing = []) (.required missing)
  require (extras = []) (.unrecognized extras)
  return arguments

/-- Options and values that alternate. -/
def flatten (arguments : Arguments) : List (List ℕ) :=
  arguments.flatMap fun (option, value) => [option, value]

variable {parser}

theorem consume_flatten {arguments : Arguments}
    (hoptions : ∀ argument ∈ arguments, argument.1 ∈ parser.options)
    (hvalues : ∀ argument ∈ arguments, parser.isValue argument.2 = true) :
    parser.consume (flatten arguments) = .ok (arguments, []) := by
  induction arguments with
  | nil => rfl
  | cons argument arguments ih =>
    have hrest := ih (fun other h => hoptions other (List.mem_cons_of_mem _ h))
      (fun other h => hvalues other (List.mem_cons_of_mem _ h))
    have hoption := hoptions argument List.mem_cons_self
    have hvalue := hvalues argument List.mem_cons_self
    simp only [flatten, List.flatMap_cons, List.cons_append, List.nil_append, consume,
      if_pos hoption, if_pos hvalue] at hrest ⊢
    rw [hrest]
    rfl

theorem parseArgs_flatten {arguments : Arguments}
    (hoptions : ∀ argument ∈ arguments, argument.1 ∈ parser.options)
    (hvalues : ∀ argument ∈ arguments, parser.isValue argument.2 = true)
    (hrequired : ∀ option ∈ parser.required, option ∈ arguments.map Prod.fst) :
    parser.parseArgs (flatten arguments) = .ok arguments := by
  have hmissing : parser.required.filter (fun option => option ∉ arguments.map Prod.fst) = [] := by
    rw [List.filter_eq_nil_iff]
    intro option hoption
    simpa using hrequired option hoption
  rw [parseArgs, consume_flatten hoptions hvalues, ok_bind]
  simp only [hmissing]
  rfl

end ArgumentParser

/-- `args.option`: the last value counts. -/
def Arguments.get (arguments : Arguments) (option : String) : Option (List ℕ) :=
  arguments.reverse.lookup (chars option)

/-- `args.option` of an option with `type=int`; every value of it is converted. -/
def Arguments.int (arguments : Arguments) (option : String) : Option (Option ℤ) := do
  let values ← (arguments.filter fun (name, _) => name = chars option).mapM fun (_, value) =>
    intOfText value
  return values.getLast?

/-- `args.option` of a required option with `choices`. -/
def Arguments.choice (arguments : Arguments) (option : String) (choices : List (List ℕ)) :
    Option (List ℕ) :=
  if ∀ argument ∈ arguments, argument.1 = chars option → argument.2 ∈ choices then
    arguments.get option
  else none

namespace Arguments
variable {arguments : Arguments} {option : String} {value : List ℕ}

theorem get_of_mem (hnodup : (arguments.map Prod.fst).Nodup)
    (h : (chars option, value) ∈ arguments) : arguments.get option = some value :=
  lookup_reverse_of_mem hnodup h

theorem int_of_mem (hnodup : (arguments.map Prod.fst).Nodup)
    (h : (chars option, value) ∈ arguments) {z : ℤ} (hz : intOfText value = some z) :
    arguments.int option = some (some z) := by
  rw [Arguments.int, filter_key_of_mem hnodup h]
  simp [hz]

theorem get_of_not_mem (h : chars option ∉ arguments.map Prod.fst) :
    arguments.get option = none := by
  rw [Arguments.get, List.lookup_eq_none_iff]
  intro argument hargument
  have hne : chars option ≠ argument.1 :=
    fun heq => h (heq ▸ List.mem_map_of_mem (List.mem_reverse.mp hargument))
  simpa using hne

theorem choice_of_mem (hnodup : (arguments.map Prod.fst).Nodup)
    (h : (chars option, value) ∈ arguments) {choices : List (List ℕ)} (hchoice : value ∈ choices) :
    arguments.choice option choices = some value := by
  have hall : ∀ argument ∈ arguments, argument.1 = chars option → argument.2 ∈ choices := by
    intro argument hargument hname
    have hfound : argument ∈ arguments.filter fun (name, _) => name = chars option := by
      simp [hargument, hname]
    rw [filter_key_of_mem hnodup h, List.mem_singleton] at hfound
    rwa [hfound]
  rw [choice, if_pos hall, get_of_mem hnodup h]

end Arguments

/-! ### Arguments in front of a marker and behind it -/

/-- The positions of an argument. -/
def positionsOf (argv : List (List ℕ)) (argument : List ℕ) : List ℕ :=
  argv.zipIdx.filterMap fun (value, index) => if value = argument then some index else none

section
variable {front behind : List (List ℕ)} {marker : List ℕ}

theorem idxOf_marker (h : marker ∉ front) :
    (front ++ marker :: behind).idxOf marker = front.length := by
  rw [List.idxOf_append_of_notMem h, List.idxOf_cons_self, Nat.add_zero]

theorem count_marker (hfront : marker ∉ front) (hbehind : marker ∉ behind) :
    (front ++ marker :: behind).count marker = 1 := by
  rw [List.count_append, List.count_cons_self, List.count_eq_zero_of_not_mem hfront,
    List.count_eq_zero_of_not_mem hbehind]

theorem filterMap_zipIdx_of_not_mem (h : marker ∉ front) (n : ℕ) :
    ((front.zipIdx n).filterMap fun (value, index) =>
      if value = marker then some index else none) = [] := by
  rw [List.filterMap_eq_nil_iff]
  rintro ⟨value, index⟩ hmem
  have hne : value ≠ marker := fun heq => h (heq ▸ List.fst_mem_of_mem_zipIdx hmem)
  exact if_neg hne

theorem positionsOf_marker (hfront : marker ∉ front) (hbehind : marker ∉ behind) :
    positionsOf (front ++ marker :: behind) marker = [front.length] := by
  rw [positionsOf, List.zipIdx_append, List.zipIdx_cons, List.filterMap_append,
    List.filterMap_cons, filterMap_zipIdx_of_not_mem hfront]
  simp [filterMap_zipIdx_of_not_mem hbehind]

theorem drop_marker : (front ++ marker :: behind).drop (front.length + 1) = behind := by
  rw [← List.drop_drop, List.drop_left, List.drop_one, List.tail_cons]

end

/-- Arguments in front of a marker, behind it and behind a second one, as their positions give
them back. -/
structure SplitByMarkers (argv options first second : List (List ℕ)) (marker marker' : List ℕ) :
    Prop where
  count : argv.count marker = 1
  count' : argv.count marker' = 1
  order : argv.idxOf marker < argv.idxOf marker'
  options : argv.take (argv.idxOf marker) = options
  first : (argv.take (argv.idxOf marker')).drop (argv.idxOf marker + 1) = first
  second : argv.drop (argv.idxOf marker' + 1) = second

theorem splitByMarkers {options first second : List (List ℕ)} {marker marker' : List ℕ}
    (hne : marker ≠ marker') (hoptions : marker ∉ options ∧ marker' ∉ options)
    (hfirst : marker ∉ first ∧ marker' ∉ first) (hsecond : marker ∉ second ∧ marker' ∉ second) :
    SplitByMarkers (options ++ marker :: first ++ marker' :: second) options first second marker
      marker' := by
  have hsplit : options ++ marker :: first ++ marker' :: second =
      options ++ marker :: (first ++ marker' :: second) := by simp
  have hbehind : marker ∉ first ++ marker' :: second := by
    simp only [List.mem_append, List.mem_cons, not_or]
    exact ⟨hfirst.1, hne, hsecond.1⟩
  have hfront : marker' ∉ options ++ marker :: first := by
    simp only [List.mem_append, List.mem_cons, not_or]
    exact ⟨hoptions.2, hne.symm, hfirst.2⟩
  have hindex : (options ++ marker :: first ++ marker' :: second).idxOf marker = options.length :=
    hsplit ▸ idxOf_marker hoptions.1
  have hindex' : (options ++ marker :: first ++ marker' :: second).idxOf marker' =
      (options ++ marker :: first).length := idxOf_marker hfront
  constructor
  · rw [hsplit]
    exact count_marker hoptions.1 hbehind
  · exact count_marker hfront hsecond.2
  · rw [hindex, hindex', List.length_append, List.length_cons]
    omega
  · rw [hindex, hsplit, List.take_left]
  · rw [hindex, hindex', List.take_left, drop_marker]
  · rw [hindex', drop_marker]

end TcdOran.Lib.Python
