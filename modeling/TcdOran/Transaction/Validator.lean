import TcdOran.Lib.Check
import TcdOran.Transaction.Record

/-! prompt12r-validate-transaction-transition.py. A `SemanticError` is given by its reason. -/
namespace TcdOran.Transaction
open TcdOran.Lib Python TransactionState

abbrev Validation := Except String Unit

/-! ### The tables -/

def pretriggerStates : List TransactionState :=
  [new, deployed, platformQualified, initialStateVerified, actuatorArmed, workloadReady,
    prestepAdmitted, abortedPretrigger]

def failureStates : List TransactionState := [abortedPretrigger, invalidPosttrigger]

def legalTransitions : TransactionState → List TransactionState
  | new => [deployed, abortedPretrigger]
  | deployed => [platformQualified, abortedPretrigger]
  | platformQualified => [initialStateVerified, abortedPretrigger]
  | initialStateVerified => [actuatorArmed, abortedPretrigger]
  | actuatorArmed => [workloadReady, abortedPretrigger]
  | workloadReady => [prestepAdmitted, abortedPretrigger]
  | prestepAdmitted => [triggeredExactlyOnce, abortedPretrigger, invalidPosttrigger]
  | triggeredExactlyOnce => [appliedVerified, invalidPosttrigger]
  | appliedVerified => [poststepComplete, invalidPosttrigger]
  | poststepComplete => [scientificallyAdjudicated, invalidPosttrigger]
  | invalidPosttrigger => [scientificallyAdjudicated]
  | scientificallyAdjudicated => [closed]
  | abortedPretrigger => [closed]
  | closed => [destroyed]
  | destroyed => []

/-- The fields that are read by their name. -/
inductive RecordField
  | transactionId | experimentId | runId | transitionLabel | repositoryHead | protocolIdentity
  | initialPrbRequired | platformQualificationIdentity | runtimeIncarnationIdentity
  | initialPrbObserved | receiverWorkloadIdentity | actuatorIdentity | appliedReadbackIdentity
  | closeoutChecksumIdentity
  deriving DecidableEq

inductive FieldValue
  | null
  | text (value : List ℕ)
  | int (value : ℤ)
  | label (value : TransitionLabel)
  deriving DecidableEq

namespace RecordField

def name : RecordField → String
  | transactionId => "transaction_id"
  | experimentId => "experiment_id"
  | runId => "run_id"
  | transitionLabel => "transition_label"
  | repositoryHead => "repository_head"
  | protocolIdentity => "protocol_identity"
  | initialPrbRequired => "initial_prb_required"
  | platformQualificationIdentity => "platform_qualification_identity"
  | runtimeIncarnationIdentity => "runtime_incarnation_identity"
  | initialPrbObserved => "initial_prb_observed"
  | receiverWorkloadIdentity => "receiver_workload_identity"
  | actuatorIdentity => "actuator_identity"
  | appliedReadbackIdentity => "applied_readback_identity"
  | closeoutChecksumIdentity => "closeout_checksum_identity"

def nullable {α : Type} (value : α → FieldValue) (x : Option α) : FieldValue :=
  (x.map value).getD .null

def get (r : TransactionRecord) : RecordField → FieldValue
  | transactionId => .text r.transactionId
  | experimentId => .text r.experimentId
  | runId => .text r.runId
  | transitionLabel => .label r.transitionLabel
  | repositoryHead => .text r.repositoryHead
  | protocolIdentity => .text r.protocolIdentity
  | initialPrbRequired => .int r.initialPrbRequired
  | platformQualificationIdentity => nullable .text r.platformQualificationIdentity
  | runtimeIncarnationIdentity => nullable .text r.runtimeIncarnationIdentity
  | initialPrbObserved => nullable .int r.initialPrbObserved
  | receiverWorkloadIdentity => nullable .text r.receiverWorkloadIdentity
  | actuatorIdentity => nullable .text r.actuatorIdentity
  | appliedReadbackIdentity => nullable .text r.appliedReadbackIdentity
  | closeoutChecksumIdentity => nullable .text r.closeoutChecksumIdentity

end RecordField

def immutableFields : List RecordField :=
  [.transactionId, .experimentId, .runId, .transitionLabel, .repositoryHead, .protocolIdentity,
    .initialPrbRequired]

def writeOnceFields : List RecordField :=
  [.platformQualificationIdentity, .runtimeIncarnationIdentity, .initialPrbObserved,
    .receiverWorkloadIdentity, .actuatorIdentity, .appliedReadbackIdentity,
    .closeoutChecksumIdentity]

/-! ### One record -/

/-- The checks stand under `if state in ..`. -/
def onStates (r : TransactionRecord) (states : List TransactionState) (checks : Validation) :
    Validation :=
  if r.transactionState ∈ states then checks else .ok ()

def requireNonempty (value : Option (List ℕ)) (reason : String) : Validation :=
  require (∃ text ∈ value, text ≠ []) reason

/-- `validate_record_state_invariants`. -/
def validateRecordStateInvariants (r : TransactionRecord) : Validation := do
  onStates r [new, deployed, platformQualified, initialStateVerified, actuatorArmed,
      workloadReady, prestepAdmitted, triggeredExactlyOnce, appliedVerified, poststepComplete] do
    require (r.failureClass = .none) "ACTIVE_STATE_FAILURE_CLASS_NOT_NONE"
    require (r.failureReason = chars "NONE") "ACTIVE_STATE_FAILURE_REASON_NOT_NONE"
  onStates r failureStates do
    require (r.failureClass ∈ failureClasses) "FAILURE_STATE_CLASS_INVALID"
    require (r.failureReason ≠ chars "NONE") "FAILURE_STATE_REASON_MISSING"
  onStates r pretriggerStates do
    require (r.triggerWriteAttemptCount = 0) "PRETRIGGER_WRITE_ATTEMPT_NOT_ZERO"
    require (r.triggerWriteSuccessCount = 0) "PRETRIGGER_WRITE_SUCCESS_NOT_ZERO"
    require (r.scientificTriggerConsumed = .no) "PRETRIGGER_CONSUMPTION_NOT_NO"
    require (r.replayDecision = .notApplicable) "PRETRIGGER_REPLAY_DECISION_INVALID"
  onStates r [triggeredExactlyOnce] do
    require (r.triggerWriteAttemptCount = 1) "EXACTLY_ONCE_ATTEMPT_COUNT_INVALID"
    require (r.triggerWriteSuccessCount = 1) "EXACTLY_ONCE_SUCCESS_COUNT_INVALID"
    require (r.scientificTriggerConsumed = .yes) "EXACTLY_ONCE_CONSUMPTION_INVALID"
    require (r.replayDecision = .neverRepeat) "EXACTLY_ONCE_REPLAY_DECISION_INVALID"
  onStates r [platformQualified, initialStateVerified, actuatorArmed, workloadReady,
      prestepAdmitted, triggeredExactlyOnce, appliedVerified, poststepComplete] do
    requireNonempty r.platformQualificationIdentity "PLATFORM_QUALIFICATION_IDENTITY_MISSING"
    requireNonempty r.runtimeIncarnationIdentity "RUNTIME_INCARNATION_IDENTITY_MISSING"
  onStates r [initialStateVerified, actuatorArmed, workloadReady, prestepAdmitted,
      triggeredExactlyOnce, appliedVerified, poststepComplete] do
    require (r.initialPrbObserved = some r.initialPrbRequired) "INITIAL_PRB_STATE_MISMATCH"
  onStates r [actuatorArmed, workloadReady, prestepAdmitted, triggeredExactlyOnce,
      appliedVerified, poststepComplete] do
    requireNonempty r.actuatorIdentity "ACTUATOR_IDENTITY_MISSING"
  onStates r [workloadReady, prestepAdmitted, triggeredExactlyOnce, appliedVerified,
      poststepComplete] do
    requireNonempty r.receiverWorkloadIdentity "RECEIVER_WORKLOAD_IDENTITY_MISSING"
  onStates r [prestepAdmitted, triggeredExactlyOnce, appliedVerified, poststepComplete] do
    require (r.precontrolAdmissionResult = .pass) "PRECONTROL_ADMISSION_NOT_PASS"
  onStates r [appliedVerified, poststepComplete] do
    requireNonempty r.appliedReadbackIdentity "APPLIED_READBACK_IDENTITY_MISSING"
  onStates r [poststepComplete] do
    require (r.poststepCompletionResult = .pass) "POSTSTEP_COMPLETION_NOT_PASS"
  onStates r [scientificallyAdjudicated] do
    require (r.scientificAdjudicationResult ∈ [.valid, .invalid])
      "SCIENTIFIC_ADJUDICATION_MISSING"
  onStates r [closed, destroyed] do
    requireNonempty r.closeoutChecksumIdentity "CLOSEOUT_CHECKSUM_IDENTITY_MISSING"

/-- `validate_new_record`. -/
def validateNewRecord (current : TransactionRecord) (previous : Option TransactionRecord) :
    Validation := do
  require (current.transactionState = new) "PREVIOUS_RECORD_REQUIRED_FOR_NON_NEW_STATE"
  require (previous = none) "PREVIOUS_RECORD_FORBIDDEN_FOR_NEW_STATE"
  require (current.previousTransactionState = none) "NEW_PREVIOUS_STATE_MUST_BE_NULL"
  validateRecordStateInvariants current

/-! ### A record and its predecessor -/

def checkImmutable (previous current : TransactionRecord) (field : RecordField) : Validation :=
  require (field.get previous = field.get current)
    ("IMMUTABLE_FIELD_CHANGED:" ++ field.name)

def checkWriteOnce (previous current : TransactionRecord) (field : RecordField) : Validation :=
  if field.get previous ≠ .null then
    require (field.get current = field.get previous) ("WRITE_ONCE_FIELD_CHANGED:" ++ field.name)
  else .ok ()

/-- `validate_identity_continuity`. -/
def validateIdentityContinuity (previous current : TransactionRecord) : Validation := do
  immutableFields.forM (checkImmutable previous current)
  writeOnceFields.forM (checkWriteOnce previous current)

/-- `validate_failure_continuity`. -/
def validateFailureContinuity (previous current : TransactionRecord) : Validation :=
  if current.transactionState ∈ failureStates ∧ previous.transactionState ∉ failureStates then
    require (previous.failureClass = .none) "FAILURE_ENTERED_FROM_ALREADY_FAILED_RECORD"
  else do
    require (current.failureClass = previous.failureClass)
      "FAILURE_CLASS_CHANGED_OUTSIDE_FAILURE_ENTRY"
    require (current.failureReason = previous.failureReason)
      "FAILURE_REASON_CHANGED_OUTSIDE_FAILURE_ENTRY"

structure TriggerTuple where
  attempts : ℤ
  successes : ℤ
  consumed : TriggerConsumed
  replay : ReplayDecision
  deriving DecidableEq

/-- `trigger_tuple`. -/
def triggerTuple (r : TransactionRecord) : TriggerTuple where
  attempts := r.triggerWriteAttemptCount
  successes := r.triggerWriteSuccessCount
  consumed := r.scientificTriggerConsumed
  replay := r.replayDecision

/-- `validate_trigger_transition`. -/
def validateTriggerTransition (previous current : TransactionRecord) : Validation :=
  if previous.transactionState = prestepAdmitted ∧
      current.transactionState = triggeredExactlyOnce then
    require (triggerTuple current = ⟨1, 1, .yes, .neverRepeat⟩) "CONFIRMED_TRIGGER_TUPLE_INVALID"
  else if previous.transactionState = prestepAdmitted ∧
      current.transactionState = invalidPosttrigger then
    require (triggerTuple current = ⟨1, 0, .unknown, .neverAutomaticallyReplay⟩)
      "AMBIGUOUS_TRIGGER_TUPLE_INVALID"
  else
    require (triggerTuple current = triggerTuple previous)
      "TRIGGER_TUPLE_CHANGED_OUTSIDE_TRIGGER_BOUNDARY"

/-- `validate_adjudication_transition`. -/
def validateAdjudicationTransition (previous current : TransactionRecord) : Validation :=
  if current.transactionState ≠ scientificallyAdjudicated then .ok ()
  else do
    require (current.scientificAdjudicationResult ∈ [.valid, .invalid])
      "SCIENTIFIC_ADJUDICATION_MISSING"
    if previous.transactionState = invalidPosttrigger then
      require (current.scientificAdjudicationResult = .invalid)
        "INVALID_POSTTRIGGER_ADJUDICATED_AS_VALID"

/-- `validate_transition`. -/
def validateTransition (previous current : TransactionRecord) : Validation := do
  require (current.previousTransactionState = some previous.transactionState)
    "PREVIOUS_TRANSACTION_STATE_MISMATCH"
  require (current.transactionState ∈ legalTransitions previous.transactionState)
    ("ILLEGAL_STATE_TRANSITION:" ++ previous.transactionState.name ++ "->" ++
      current.transactionState.name)
  require (previous.transitionDecisionUtcNs < current.transitionDecisionUtcNs)
    "TRANSITION_DECISION_TIME_NOT_STRICTLY_INCREASING"
  validateIdentityContinuity previous current
  validateFailureContinuity previous current
  validateTriggerTransition previous current
  validateRecordStateInvariants current
  validateAdjudicationTransition previous current

end TcdOran.Transaction
