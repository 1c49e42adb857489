import TcdOran.Timeline.ActuatorTimeline

/-! The programs that read an actuator timeline: the canonicalizer, the stationarity evaluator and
the two evidence adjudicators. The rows are given as they are decoded. -/
namespace TcdOran.Timeline
open TcdOran.Lib Python

def triplet : List EventType := [.command, .appliedReadback, .acknowledgement]

/-! ### canonicalize-iperf-receiver.py -/

/-- The first loop of `load_actuator_timeline`. -/
def checkRows (experimentId runId : List ℕ) :
    List (List ℕ) → Option ℤ → List ActuatorEvent → Except String Unit
  | _, _, [] => .ok ()
  | seen, previous, row :: rows => do
      require (schemaValid row) "ValidationError"
      require (row.experimentId = experimentId) "actuator timeline experiment_id mismatch"
      require (row.runId = runId) "actuator timeline run_id mismatch"
      require (row.recordId ∉ seen) "duplicate actuator timeline record_id"
      require (previous.all fun previous => previous < row.timestampUtcNs)
        "actuator timeline timestamp ordering violation"
      checkRows experimentId runId (row.recordId :: seen) (some row.timestampUtcNs) rows

/-- The second loop of `load_actuator_timeline`. -/
def checkControls : ℕ → Option ℤ → List ActuatorEvent → Except String (List ℤ)
  | index, previousAck, command :: applied :: acknowledgement :: rows => do
      require ([command.eventType, applied.eventType, acknowledgement.eventType] = triplet)
        (controlError index "invalid actuator event order")
      let expectedMax ← orError (command.requestedMaxPrbRatioPct.bind ratioToPrbs)
        (controlError index "requested ratio outside Prompt-12 domain")
      require (applied.appliedMinPrbs = some 0) (controlError index "applied_min_prbs must be 0")
      require (applied.appliedMaxPrbs = some expectedMax)
        (controlError index "ratio/readback mismatch")
      require (acknowledgement.acknowledgementStatus = some .pass)
        (controlError index "acknowledgement must be PASS")
      require (command.timestampUtcNs < applied.timestampUtcNs ∧
          applied.timestampUtcNs < acknowledgement.timestampUtcNs)
        (controlError index "command < applied_readback < acknowledgement ordering violation")
      require (previousAck.all fun previous => previous < command.timestampUtcNs)
        (controlError index "command is not later than previous acknowledgement")
      let applieds ← checkControls (index + 1) (some acknowledgement.timestampUtcNs) rows
      return applied.timestampUtcNs :: applieds
  | _, _, _ => .ok []

/-- `load_actuator_timeline`: the rows and the times of the readbacks. -/
def loadActuatorTimeline (rows : List ActuatorEvent) (experimentId runId : List ℕ) :
    Except String (List ActuatorEvent × List ℤ) := do
  require (rows ≠ []) "actuator timeline is empty"
  require (rows.length % 3 = 0) ("actuator timeline must contain complete " ++
    "command/applied_readback/acknowledgement triplets")
  require (1 ≤ rows.length / 3 ∧ rows.length / 3 ≤ 6)
    "actuator timeline control count must be between 1 and 6"
  checkRows experimentId runId [] none rows
  let applieds ← checkControls 1 none rows
  return (rows, applieds)

/-! ### evaluate-output-stationarity.py -/

/-- The loop of `load_post_t0`. -/
def checkPostRows (experimentId runId : List ℕ) :
    Option ℤ → List ActuatorEvent → Except String Unit
  | _, [] => .ok ()
  | previous, row :: rows => do
      require (schemaValid row) "ValidationError"
      require (row.experimentId = experimentId) "experiment_id mismatch"
      require (row.runId = runId) "run_id mismatch"
      require (previous.all fun previous => previous < row.timestampUtcNs)
        "actuator timeline timestamp ordering violation"
      checkPostRows experimentId runId (some row.timestampUtcNs) rows

/-- The control that is asked for. -/
def selectControl : List ActuatorEvent → Except String ℤ
  | [command, applied, acknowledgement] => do
      require ([command.eventType, applied.eventType, acknowledgement.eventType] = triplet)
        "selected actuator control is not command/applied_readback/acknowledgement"
      require (acknowledgement.acknowledgementStatus = some .pass)
        "selected actuator acknowledgement is not PASS"
      require (command.timestampUtcNs < applied.timestampUtcNs ∧
          applied.timestampUtcNs < acknowledgement.timestampUtcNs)
        "selected actuator event ordering violation"
      return applied.timestampUtcNs
  | _ => .error "selected actuator control is not command/applied_readback/acknowledgement"

def loadPostT0 (rows : List ActuatorEvent) (experimentId runId : List ℕ) (controlIndex : ℤ) :
    Except String ℤ := do
  require (rows ≠ []) "actuator timeline is empty"
  require (rows.length % 3 = 0) "actuator timeline is not complete triplets"
  require (1 ≤ controlIndex ∧ controlIndex ≤ (rows.length / 3 : ℕ))
    "control-index outside actuator timeline"
  checkPostRows experimentId runId none rows
  selectControl ((rows.drop ((controlIndex.toNat - 1) * 3)).take 3)

/-! ### The evidence adjudicators -/

/-- The order of events that both adjudicators ask for. -/
def adjudicatedOrder : List EventType := [.command, .acknowledgement, .appliedReadback]

/-- The values that both adjudicators ask for: the transition from 26 to 39 PRBs. -/
def isTransition26To39 : List ActuatorEvent → Bool
  | [first, second, third] => first.requestedMaxPrbRatioPct = some 75 ∧
      second.acknowledgementStatus = some .pass ∧ third.appliedMinPrbs = some 0 ∧
      third.appliedMaxPrbs = some 39
  | _ => false

def timesInOrder : List ActuatorEvent → Bool
  | [first, second, third] => first.timestampUtcNs ≤ second.timestampUtcNs ∧
      second.timestampUtcNs ≤ third.timestampUtcNs
  | _ => false

/-- The order check of prompt12-t2-evidence-adjudicator.py. -/
def evidenceOrderCheck (rows : List ActuatorEvent) : Except String Unit := do
  require (rows.map (·.eventType) = adjudicatedOrder) "SCIENTIFIC_TIMELINE_EVENT_ORDER_INVALID"
  require (isTransition26To39 rows) "SCIENTIFIC_TIMELINE_NOT_26_TO_39"
  require (timesInOrder rows) "SCIENTIFIC_TIMELINE_TIME_ORDER_INVALID"

/-- The part of `adjudicate` of prompt12-t2-evidence-adjudicator.py that is about the timeline.
`experimentId` and `runId` are those of the intervals. -/
def adjudicateEvidence (rows : List ActuatorEvent) (experimentId runId : List ℕ) :
    Except String Unit := do
  require (rows.length = 3) "ACTUATOR_TIMELINE_EVENT_COUNT_NOT_THREE"
  require (rows.all schemaValid) "SCHEMA_INVALID:actuatorEvent"
  require (rows.all fun row => row.experimentId = experimentId ∧ row.runId = runId)
    "SCIENTIFIC_EVIDENCE_RUN_ID_MISMATCH"
  evidenceOrderCheck rows

/-- The order check of prompt12-t2-postval-evidence-adjudicator.py. -/
def postvalOrderCheck (rows : List ActuatorEvent) : Except String Unit := do
  require (rows.length = 3 ∧ rows.map (·.eventType) = adjudicatedOrder)
    "ACTUATOR_TIMELINE_ORDER_INVALID"
  require (isTransition26To39 rows ∧ timesInOrder rows) "ACTUATOR_TRANSITION_INVALID"

end TcdOran.Timeline
