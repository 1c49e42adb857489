import TcdOran.Lib.PythonPattern

/-! The record of an experiment transaction and its schema
sci-oran-prompt12r-experiment-transaction-v1.0.0.schema.json. -/
namespace TcdOran.Transaction
open TcdOran.Lib Python

inductive TransactionState
  | new | deployed | platformQualified | initialStateVerified | actuatorArmed | workloadReady
  | prestepAdmitted | triggeredExactlyOnce | appliedVerified | poststepComplete
  | scientificallyAdjudicated | closed | destroyed | abortedPretrigger | invalidPosttrigger
  deriving DecidableEq

def TransactionState.name : TransactionState → String
  | new => "NEW"
  | deployed => "DEPLOYED"
  | platformQualified => "PLATFORM_QUALIFIED"
  | initialStateVerified => "INITIAL_STATE_VERIFIED"
  | actuatorArmed => "ACTUATOR_ARMED"
  | workloadReady => "WORKLOAD_READY"
  | prestepAdmitted => "PRESTEP_ADMITTED"
  | triggeredExactlyOnce => "TRIGGERED_EXACTLY_ONCE"
  | appliedVerified => "APPLIED_VERIFIED"
  | poststepComplete => "POSTSTEP_COMPLETE"
  | scientificallyAdjudicated => "SCIENTIFICALLY_ADJUDICATED"
  | closed => "CLOSED"
  | destroyed => "DESTROYED"
  | abortedPretrigger => "ABORTED_PRETRIGGER"
  | invalidPosttrigger => "INVALID_POSTTRIGGER"

inductive TransitionLabel
  | t1 | t2 | t3 | t4 | t5 | t6
  deriving DecidableEq

inductive FailureClass
  | none | platformFailure | toolingFailure
  deriving DecidableEq

/-- The result of the precontrol admission and of the poststep completion. -/
inductive GateResult
  | notEvaluated | pass | fail
  deriving DecidableEq

inductive TriggerConsumed
  | no | yes | unknown
  deriving DecidableEq

inductive ReplayDecision
  | notApplicable | neverRepeat | neverAutomaticallyReplay
  deriving DecidableEq

inductive AdjudicationResult
  | notEvaluated | valid | invalid
  deriving DecidableEq

structure EvidenceItem where
  path : List ℕ
  sha256 : List ℕ
  deriving DecidableEq

/-- A record with the keys and the types of the schema. `none` is `null`. -/
structure TransactionRecord where
  schemaVersion : List ℕ
  transactionId : List ℕ
  experimentId : List ℕ
  runId : List ℕ
  transitionLabel : TransitionLabel
  repositoryHead : List ℕ
  protocolIdentity : List ℕ
  transactionState : TransactionState
  previousTransactionState : Option TransactionState
  transitionDecisionUtcNs : ℤ
  failureClass : FailureClass
  failureReason : List ℕ
  platformQualificationIdentity : Option (List ℕ)
  runtimeIncarnationIdentity : Option (List ℕ)
  initialPrbRequired : ℤ
  initialPrbObserved : Option ℤ
  receiverWorkloadIdentity : Option (List ℕ)
  actuatorIdentity : Option (List ℕ)
  precontrolAdmissionResult : GateResult
  triggerWriteAttemptCount : ℤ
  triggerWriteSuccessCount : ℤ
  scientificTriggerConsumed : TriggerConsumed
  replayDecision : ReplayDecision
  appliedReadbackIdentity : Option (List ℕ)
  poststepCompletionResult : GateResult
  scientificAdjudicationResult : AdjudicationResult
  closeoutChecksumIdentity : Option (List ℕ)
  evidence : List EvidenceItem
  deriving DecidableEq

/-! ### The schema -/

open Pattern in
def transactionIdPattern : Pattern :=
  literal "TXN-" ++ times isDigit 8 ++ literal "T" ++ times isDigit 6 ++ literal "Z-" ++ times isDigit 3

open Pattern in
def experimentIdPattern : Pattern :=
  literal "EXP-" ++ times isDigit 8 ++ literal "-" ++ many (fun u => upper u || isDigit u) ++
    literal "-" ++ many (fun u => upper u || isDigit u || u == 45) ++ literal "-R" ++ times isDigit 2

open Pattern in
def runIdPattern : Pattern :=
  literal "RUN-" ++ times isDigit 8 ++ literal "T" ++ times isDigit 6 ++ literal "Z-" ++ times isDigit 3

def sha1Pattern : Pattern := Pattern.times Pattern.hexDigit 40

def sha256Pattern : Pattern := Pattern.times Pattern.hexDigit 64

def prbValues : List ℤ := [13, 26, 39, 52]

def failureClasses : List FailureClass := [.platformFailure, .toolingFailure]

def EvidenceItem.Valid (item : EvidenceItem) : Prop :=
  item.path ≠ [] ∧ searchWhole sha256Pattern item.sha256 = true

instance (item : EvidenceItem) : Decidable item.Valid := inferInstanceAs (Decidable (_ ∧ _))

namespace TransactionRecord
variable (r : TransactionRecord)

/-! What `properties` asks beyond keys and types, in two parts. -/

def IdentitiesValid : Prop :=
  r.schemaVersion = chars "1.0.0" ∧
  searchWhole transactionIdPattern r.transactionId = true ∧
  searchWhole experimentIdPattern r.experimentId = true ∧
  searchWhole runIdPattern r.runId = true ∧
  searchWhole sha1Pattern r.repositoryHead = true ∧
  r.protocolIdentity ≠ []

def ValuesValid : Prop :=
  1 ≤ r.transitionDecisionUtcNs ∧
  r.failureReason ≠ [] ∧
  r.platformQualificationIdentity ≠ some [] ∧
  r.runtimeIncarnationIdentity ≠ some [] ∧
  r.initialPrbRequired ∈ prbValues ∧
  (∀ prb ∈ r.initialPrbObserved, prb ∈ prbValues) ∧
  r.receiverWorkloadIdentity ≠ some [] ∧
  r.actuatorIdentity ≠ some [] ∧
  (0 ≤ r.triggerWriteAttemptCount ∧ r.triggerWriteAttemptCount ≤ 1) ∧
  (0 ≤ r.triggerWriteSuccessCount ∧ r.triggerWriteSuccessCount ≤ 1) ∧
  r.appliedReadbackIdentity ≠ some [] ∧
  (∀ checksum ∈ r.closeoutChecksumIdentity, searchWhole sha256Pattern checksum = true) ∧
  ∀ item ∈ r.evidence, item.Valid

/-! The conditional rules, under `allOf`, in two parts. -/

def TriggerRules : Prop :=
  (r.transactionState = .new → r.previousTransactionState = none ∧
    r.scientificTriggerConsumed = .no ∧ r.triggerWriteAttemptCount = 0 ∧
    r.triggerWriteSuccessCount = 0 ∧ r.replayDecision = .notApplicable) ∧
  (r.transactionState ∈ [.new, .deployed, .platformQualified, .initialStateVerified,
      .actuatorArmed, .workloadReady, .prestepAdmitted, .abortedPretrigger] →
    r.scientificTriggerConsumed = .no ∧ r.triggerWriteSuccessCount = 0 ∧
    r.triggerWriteAttemptCount = 0) ∧
  (r.transactionState ∈ [.triggeredExactlyOnce, .appliedVerified, .poststepComplete] →
    r.scientificTriggerConsumed = .yes ∧ r.triggerWriteAttemptCount = 1 ∧
    r.triggerWriteSuccessCount = 1 ∧ r.replayDecision = .neverRepeat) ∧
  (r.transactionState = .invalidPosttrigger →
    (r.triggerWriteAttemptCount = 1 ∧ r.scientificTriggerConsumed ∈ [.yes, .unknown] ∧
      r.failureClass ∈ failureClasses) ∧
    (r.scientificTriggerConsumed = .yes →
      r.triggerWriteSuccessCount = 1 ∧ r.replayDecision = .neverRepeat) ∧
    (r.scientificTriggerConsumed = .unknown →
      r.triggerWriteSuccessCount = 0 ∧ r.replayDecision = .neverAutomaticallyReplay))

def ResultRules : Prop :=
  (r.failureClass = .none → r.failureReason = chars "NONE") ∧
  (r.failureClass ∈ failureClasses → r.failureReason ≠ chars "NONE") ∧
  (r.transactionState = .abortedPretrigger →
    r.failureClass ∈ failureClasses ∧ r.scientificTriggerConsumed = .no) ∧
  (r.transactionState = .initialStateVerified →
    ∃ prb ∈ r.initialPrbObserved, prb ∈ prbValues) ∧
  (r.transactionState ∈ [.appliedVerified, .poststepComplete] →
    ∃ identity ∈ r.appliedReadbackIdentity, identity ≠ [])

def SchemaValid : Prop :=
  r.IdentitiesValid ∧ r.ValuesValid ∧ r.TriggerRules ∧ r.ResultRules

instance : Decidable r.IdentitiesValid := by unfold IdentitiesValid; infer_instance

instance : Decidable r.ValuesValid := by unfold ValuesValid; infer_instance

instance : Decidable r.TriggerRules := by unfold TriggerRules; infer_instance

instance : Decidable r.ResultRules := by unfold ResultRules; infer_instance

instance : Decidable r.SchemaValid := by unfold SchemaValid; infer_instance

end TransactionRecord

end TcdOran.Transaction
