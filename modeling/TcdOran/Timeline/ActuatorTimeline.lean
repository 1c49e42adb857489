import TcdOran.Lib.Check
import TcdOran.Lib.PythonNumber
import TcdOran.Lib.PythonPattern
import TcdOran.Lib.PythonTime

/-! The events of an actuator timeline, and build-actuator-timeline.py, which makes them of the log
lines of the controls. -/
namespace TcdOran.Timeline
open TcdOran.Lib Python

inductive EventType
  | command | appliedReadback | acknowledgement
  deriving DecidableEq

inductive AcknowledgementStatus
  | pass | fail
  deriving DecidableEq

/-- An `actuatorEvent` with the fields and types of the schema; a field that is absent or null is
`none`. -/
structure ActuatorEvent where
  experimentId : List ℕ
  runId : List ℕ
  recordId : List ℕ
  timestampUtcNs : ℤ
  eventType : EventType
  requestedMaxPrbRatioPct : Option ℤ
  acknowledgementStatus : Option AcknowledgementStatus
  appliedMinPrbs : Option ℤ
  appliedMaxPrbs : Option ℤ
  deriving DecidableEq

/-! ### The schema -/

open Pattern in
def experimentPatterns : List Pattern :=
  let head := literal "EXP-" ++ times isDigit 8 ++ literal "-DL-18000K-R"
  let nonzero (u : ℕ) : Bool := 49 ≤ u ∧ u ≤ 57
  [head ++ literal "0" ++ times nonzero 1, head ++ times nonzero 1 ++ times isDigit 1]

open Pattern in
def runPattern : Pattern :=
  literal "RUN-" ++ times isDigit 8 ++ literal "T" ++ times isDigit 6 ++ literal "Z-" ++ times isDigit 3

/-- `validate_identity`, with `re.fullmatch`. -/
def validIdentity (experimentId runId : List ℕ) : Bool :=
  (experimentPatterns.any (fullmatch · experimentId)) && fullmatch runPattern runId

def inRange (low high : ℤ) (value : Option ℤ) : Bool := value.all fun v => low ≤ v ∧ v ≤ high

/-- What the definition of an event type requires. -/
def requiredFields (event : ActuatorEvent) : Bool :=
  match event.eventType with
  | .command => event.requestedMaxPrbRatioPct.isSome
  | .acknowledgement => event.acknowledgementStatus.isSome
  | .appliedReadback => event.appliedMinPrbs.isSome && event.appliedMaxPrbs.isSome

/-- What the schema asks beyond the types. -/
def schemaValid (event : ActuatorEvent) : Bool :=
  (experimentPatterns.any (searchWhole · event.experimentId)) && searchWhole runPattern event.runId &&
  event.recordId ≠ [] && decide (0 ≤ event.timestampUtcNs) &&
  inRange 0 100 event.requestedMaxPrbRatioPct && inRange 0 52 event.appliedMinPrbs &&
  inRange 0 52 event.appliedMaxPrbs && requiredFields event

def ratioToPrbs (ratio : ℤ) : Option ℤ :=
  [(25, 13), (50, 26), (75, 39), (100, 52)].lookup ratio

/-! ### The log lines -/

def timestampClasses : List (ℕ → Bool) :=
  let dash (u : ℕ) : Bool := u = 45
  let colon (u : ℕ) : Bool := u = 58
  let letterT (u : ℕ) : Bool := u = 84
  let two := [isDigit, isDigit]
  two ++ two ++ [dash] ++ two ++ [dash] ++ two ++ [letterT] ++ two ++ [colon] ++ two ++ [colon] ++ two

/-- `int(fraction.ljust(9, "0"))`. -/
def fractionalNs (fraction : List ℕ) : ℕ :=
  digitsValue (fraction ++ List.replicate (9 - fraction.length) 48)

def exactTimestampUtcNs (line : List ℕ) : Except String ℤ := do
  let (taken, rest) ← match takeFixed timestampClasses line with
    | some found => .ok found
    | none => .error "cannot parse leading UTC timestamp"
  let fraction := match rest with
    | 46 :: rest => rest.takeWhile isDigit
    | _ => []
  require (fraction.length ≤ 9) "timestamp precision exceeds nanoseconds"
  let field (first length : ℕ) := digitsValue ((taken.drop first).take length)
  let value : DateTime := ⟨field 0 4, field 5 2, field 8 2, field 11 2, field 14 2, field 17 2⟩
  require value.valid "invalid UTC timestamp"
  return value.epochSeconds * 1000000000 + fractionalNs fraction

/-- `name=([0-9]+)`: the digits and what follows them. -/
def takeNumber (name : String) (text : List ℕ) : Option (List ℕ × List ℕ) := do
  let rest ← takeLiteral (chars name ++ [61]) text
  let digits := rest.takeWhile isDigit
  if digits = [] then none else some (digits, rest.dropWhile isDigit)

/-- `APPLIED_RE` at the front of a text: the digits of the minimum and of the maximum. -/
def matchApplied (text : List ℕ) : Option (List ℕ × List ℕ) := do
  let rest ← takeLiteral (chars "PRB_ACTUATOR_APPLIED") text
  scanLast (fun text => do
    let (minimum, rest) ← takeNumber "applied_min_prbs" text
    let (maximum, _) ← scanLast (takeNumber "applied_max_prbs") rest
    return (minimum, maximum)) rest

/-- `APPLIED_RE.search`. -/
def searchApplied (line : List ℕ) : Option (List ℕ × List ℕ) :=
  scan (fun _ text => matchApplied text) none line

/-! ### The events of a control -/

/-- `f"control {index}: {text}"`. -/
def controlError (index : ℕ) (text : String) : String :=
  "control " ++ toString index ++ ": " ++ text

/-- `f"{index:03d}"`. -/
def threeDigits (index : ℕ) : List ℕ :=
  let digits := intText index
  List.replicate (3 - digits.length) 48 ++ digits

def recordId (index : ℕ) (suffix : String) : List ℕ :=
  chars "ACTUATOR-" ++ threeDigits index ++ chars suffix

section
variable (experimentId runId : List ℕ)

def commandEvent (index : ℕ) (ns ratio : ℤ) : ActuatorEvent where
  experimentId := experimentId
  runId := runId
  recordId := recordId index "-COMMAND"
  timestampUtcNs := ns
  eventType := .command
  requestedMaxPrbRatioPct := some ratio
  acknowledgementStatus := none
  appliedMinPrbs := none
  appliedMaxPrbs := none

def appliedEvent (index : ℕ) (ns minimum maximum : ℤ) : ActuatorEvent where
  experimentId := experimentId
  runId := runId
  recordId := recordId index "-APPLIED-READBACK"
  timestampUtcNs := ns
  eventType := .appliedReadback
  requestedMaxPrbRatioPct := none
  acknowledgementStatus := none
  appliedMinPrbs := some minimum
  appliedMaxPrbs := some maximum

def acknowledgementEvent (index : ℕ) (ns : ℤ) : ActuatorEvent where
  experimentId := experimentId
  runId := runId
  recordId := recordId index "-ACKNOWLEDGEMENT"
  timestampUtcNs := ns
  eventType := .acknowledgement
  requestedMaxPrbRatioPct := none
  acknowledgementStatus := some .pass
  appliedMinPrbs := none
  appliedMaxPrbs := none

/-- `value`, or the error. -/
def orError {α : Type} (value : Option α) (error : String) : Except String α :=
  match value with
  | some a => .ok a
  | none => .error error

/-- A requested ratio with the lines of its control. -/
structure ControlInput where
  ratio : ℤ
  commandLine : List ℕ
  appliedLine : List ℕ
  ackLine : List ℕ

/-- One turn of the loop of `build_events`: the events and the time of the acknowledgement. -/
def buildControl (index : ℕ) (previousAckNs : Option ℤ) (input : ControlInput) :
    Except String (List ActuatorEvent × ℤ) := do
  let commandNs ← exactTimestampUtcNs input.commandLine
  let appliedNs ← exactTimestampUtcNs input.appliedLine
  let ackNs ← exactTimestampUtcNs input.ackLine
  let (minimum, maximum) ← orError (searchApplied input.appliedLine)
    (controlError index "malformed PRB_ACTUATOR_APPLIED line")
  let appliedMin ← orError (intOfText minimum) "ValueError"
  let appliedMax ← orError (intOfText maximum) "ValueError"
  let expectedMax ← orError (ratioToPrbs input.ratio) "KeyError"
  require (appliedMin = 0) (controlError index "applied_min_prbs != 0")
  require (appliedMax = expectedMax) (controlError index "requested ratio requires other PRB")
  require (commandNs < appliedNs ∧ appliedNs < ackNs)
    (controlError index "event order must be command < applied_readback < acknowledgement")
  require (previousAckNs.all fun previous => previous < commandNs)
    (controlError index "command is not later than previous acknowledgement")
  return ([commandEvent experimentId runId index commandNs input.ratio,
    appliedEvent experimentId runId index appliedNs appliedMin appliedMax,
    acknowledgementEvent experimentId runId index ackNs], ackNs)

def buildControls (index : ℕ) (previousAckNs : Option ℤ) :
    List ControlInput → Except String (List ActuatorEvent)
  | [] => .ok []
  | input :: inputs => do
      let (events, ackNs) ← buildControl experimentId runId index previousAckNs input
      let rest ← buildControls (index + 1) (some ackNs) inputs
      return events ++ rest

/-- The lists side by side. -/
def controlInputs (ratios : List ℤ) (commandLines appliedLines ackLines : List (List ℕ)) :
    List ControlInput :=
  ((ratios.zip commandLines).zip (appliedLines.zip ackLines)).map
    fun ((ratio, command), applied, ack) => ⟨ratio, command, applied, ack⟩

def buildEvents (ratios : List ℤ) (commandLines appliedLines ackLines : List (List ℕ)) :
    Except String (List ActuatorEvent) := do
  let count (name : String) (lines : List (List ℕ)) : Except String Unit :=
    require (lines.length = ratios.length)
      (name ++ " event count does not match requested ratio count")
  count "command" commandLines
  count "applied_readback" appliedLines
  count "acknowledgement" ackLines
  buildControls experimentId runId 1 none (controlInputs ratios commandLines appliedLines ackLines)

end

end TcdOran.Timeline
