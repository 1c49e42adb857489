import Mathlib.Data.List.Chain
import TcdOran.Transaction.Validator

/-! A chain of accepted records has at most one trigger. -/
namespace TcdOran.Transaction
open TcdOran.Lib Python TransactionState

variable {r p c d : TransactionRecord}

/-! ### One transition -/

/-- What an accepted transition says. -/
structure AcceptedTransition (previous current : TransactionRecord) : Prop where
  previousState : current.previousTransactionState = some previous.transactionState
  legal : current.transactionState ∈ legalTransitions previous.transactionState
  time : previous.transitionDecisionUtcNs < current.transitionDecisionUtcNs
  identity : validateIdentityContinuity previous current = .ok ()
  failure : validateFailureContinuity previous current = .ok ()
  trigger : validateTriggerTransition previous current = .ok ()
  invariants : validateRecordStateInvariants current = .ok ()
  adjudication : validateAdjudicationTransition previous current = .ok ()

theorem validateTransition_eq_ok : validateTransition p c = .ok () ↔ AcceptedTransition p c := by
  simp only [validateTransition, require_eq_ok, unit_bind_eq_ok]
  constructor
  · rintro ⟨hprevious, hlegal, htime, hidentity, hfailure, htrigger, hrecord, hadjudication⟩
    exact ⟨hprevious, hlegal, htime, hidentity, hfailure, htrigger, hrecord, hadjudication⟩
  · rintro ⟨hprevious, hlegal, htime, hidentity, hfailure, htrigger, hrecord, hadjudication⟩
    exact ⟨hprevious, hlegal, htime, hidentity, hfailure, htrigger, hrecord, hadjudication⟩

theorem checkWriteOnce_eq_ok {field : RecordField} :
    checkWriteOnce p c field = .ok () ↔ field.get p ≠ .null → field.get c = field.get p := by
  unfold checkWriteOnce
  by_cases hnull : field.get p ≠ .null
  · rw [if_pos hnull, require_eq_ok]
    exact ⟨fun h _ => h, fun h => h hnull⟩
  · rw [if_neg hnull]
    exact ⟨fun _ h => absurd h hnull, fun _ => rfl⟩

theorem validateIdentityContinuity_eq_ok : validateIdentityContinuity p c = .ok () ↔
    (∀ field ∈ immutableFields, field.get p = field.get c) ∧
      ∀ field ∈ writeOnceFields, field.get p ≠ .null → field.get c = field.get p := by
  simp only [validateIdentityContinuity, unit_bind_eq_ok, forM_eq_ok, checkImmutable,
    require_eq_ok, checkWriteOnce_eq_ok]

/-- The steps that may change the trigger tuple. -/
def TriggerBoundary (p c : TransactionRecord) : Prop :=
  p.transactionState = prestepAdmitted ∧
    (c.transactionState = triggeredExactlyOnce ∨ c.transactionState = invalidPosttrigger)

theorem validateTriggerTransition_ok (h : validateTriggerTransition p c = .ok ()) :
    triggerTuple c = triggerTuple p ∨ TriggerBoundary p c ∧
      (triggerTuple c = ⟨1, 1, .yes, .neverRepeat⟩ ∨
        triggerTuple c = ⟨1, 0, .unknown, .neverAutomaticallyReplay⟩) := by
  unfold validateTriggerTransition at h
  split at h
  · next hconfirmed =>
    exact .inr ⟨⟨hconfirmed.1, .inl hconfirmed.2⟩, .inl (require_eq_ok.mp h)⟩
  split at h
  · next hambiguous =>
    exact .inr ⟨⟨hambiguous.1, .inr hambiguous.2⟩, .inr (require_eq_ok.mp h)⟩
  · exact .inl (require_eq_ok.mp h)

/-! ### The schema -/

theorem TransactionRecord.SchemaValid.attempts_le (h : r.SchemaValid) :
    r.triggerWriteAttemptCount ≤ 1 := by
  obtain ⟨-, ⟨-, -, -, -, -, -, -, -, hattempts, -⟩, -⟩ := h
  exact hattempts.2

theorem TransactionRecord.SchemaValid.pretrigger (h : r.SchemaValid)
    (hstate : r.transactionState ∈ pretriggerStates) :
    r.scientificTriggerConsumed = .no ∧ r.triggerWriteAttemptCount = 0 := by
  obtain ⟨-, -, ⟨-, hpretrigger, -⟩, -⟩ := h
  obtain ⟨hconsumed, -, hattempts⟩ := hpretrigger hstate
  exact ⟨hconsumed, hattempts⟩

/-! ### The order of the states -/

/-- The place of a state on every path from NEW. -/
def TransactionState.rank : TransactionState → ℕ
  | new => 0
  | deployed => 1
  | platformQualified => 2
  | initialStateVerified => 3
  | actuatorArmed => 4
  | workloadReady => 5
  | prestepAdmitted => 6
  | triggeredExactlyOnce => 7
  | appliedVerified => 8
  | poststepComplete => 9
  | invalidPosttrigger => 10
  | scientificallyAdjudicated => 11
  | abortedPretrigger => 11
  | closed => 12
  | destroyed => 13

theorem rank_lt_of_legal (a : TransactionState) : ∀ b ∈ legalTransitions a, a.rank < b.rank := by
  cases a <;> decide

/-! ### Chains -/

def Accepts (previous current : TransactionRecord) : Prop :=
  current.SchemaValid ∧ validateTransition previous current = .ok ()

instance : DecidableRel Accepts := fun _ _ => inferInstanceAs (Decidable (_ ∧ _))

structure AcceptedChain (records : List TransactionRecord) : Prop where
  first : ∀ r ∈ records.head?, r.SchemaValid ∧ validateNewRecord r none = .ok ()
  steps : records.IsChain Accepts

/-- What holds between a record of a chain and every later one. -/
structure Follows (p c : TransactionRecord) : Prop where
  rank : p.transactionState.rank < c.transactionState.rank
  time : p.transitionDecisionUtcNs < c.transitionDecisionUtcNs
  attempts : p.triggerWriteAttemptCount ≤ c.triggerWriteAttemptCount
  consumed : p.scientificTriggerConsumed ≠ .no → c.scientificTriggerConsumed ≠ .no
  immutable : ∀ field ∈ immutableFields, field.get p = field.get c
  writeOnce : ∀ field ∈ writeOnceFields, field.get p ≠ .null → field.get c = field.get p

theorem Follows.trans (hpc : Follows p c) (hcd : Follows c d) : Follows p d where
  rank := hpc.rank.trans hcd.rank
  time := hpc.time.trans hcd.time
  attempts := hpc.attempts.trans hcd.attempts
  consumed h := hcd.consumed (hpc.consumed h)
  immutable field hfield := (hpc.immutable field hfield).trans (hcd.immutable field hfield)
  writeOnce field hfield hnull := by
    have hc := hpc.writeOnce field hfield hnull
    rw [← hc] at hnull
    exact (hcd.writeOnce field hfield hnull).trans hc

instance : Trans Follows Follows Follows := ⟨Follows.trans⟩

/-- One step of a chain. -/
theorem follows_of_accepts (hp : p.SchemaValid) (h : Accepts p c) : Follows p c := by
  have htransition := validateTransition_eq_ok.mp h.2
  obtain ⟨himmutable, hwriteOnce⟩ := validateIdentityContinuity_eq_ok.mp htransition.identity
  have htuple : p.triggerWriteAttemptCount ≤ c.triggerWriteAttemptCount ∧
      (p.scientificTriggerConsumed ≠ .no → c.scientificTriggerConsumed ≠ .no) := by
    rcases validateTriggerTransition_ok htransition.trigger with hsame | ⟨⟨hstate, -⟩, hnew⟩
    · have hattempts := congrArg TriggerTuple.attempts hsame
      have hconsumed := congrArg TriggerTuple.consumed hsame
      exact ⟨le_of_eq hattempts.symm, fun h hno => h (hconsumed.symm.trans hno)⟩
    · have hmem : p.transactionState ∈ pretriggerStates := by
        rw [hstate]
        decide
      obtain ⟨hno, hzero⟩ := hp.pretrigger hmem
      refine ⟨?_, fun h => absurd hno h⟩
      have hone : c.triggerWriteAttemptCount = 1 := by
        rcases hnew with hnew | hnew <;> exact congrArg TriggerTuple.attempts hnew
      omega
  exact ⟨rank_lt_of_legal _ _ htransition.legal, htransition.time, htuple.1, htuple.2,
    himmutable, hwriteOnce⟩

theorem AcceptedChain.schemaValid {records : List TransactionRecord}
    (h : AcceptedChain records) : ∀ r ∈ records, r.SchemaValid := by
  apply h.steps.induction
  · exact fun _ _ hstep _ => hstep.1
  · exact fun hne => (h.first _ (List.head_mem_head? hne)).1

theorem AcceptedChain.follows {records : List TransactionRecord} (h : AcceptedChain records) :
    records.Pairwise Follows := by
  apply List.isChain_iff_pairwise.mp
  apply h.steps.imp_of_mem_imp
  exact fun p c hp _ hstep => follows_of_accepts (h.schemaValid p hp) hstep

/-- The trigger tuple changes between the records `i` and `i + 1`. -/
def TupleChanges (records : List TransactionRecord) (i : ℕ) : Prop :=
  ∃ p c, records[i]? = some p ∧ records[i + 1]? = some c ∧ triggerTuple p ≠ triggerTuple c

/-- At most one trigger, and what stays as it was. -/
structure TriggeredAtMostOnce (records : List TransactionRecord) : Prop where
  boundary : ∀ i p c, records[i]? = some p → records[i + 1]? = some c →
    triggerTuple p ≠ triggerTuple c → TriggerBoundary p c
  once : ∀ i j, TupleChanges records i → TupleChanges records j → i = j
  attempts_le : ∀ r ∈ records, r.triggerWriteAttemptCount ≤ 1
  attempts : records.Pairwise fun p c => p.triggerWriteAttemptCount ≤ c.triggerWriteAttemptCount
  consumed : records.Pairwise fun p c => p.scientificTriggerConsumed ∈ [.yes, .unknown] →
    c.transactionState ∉ pretriggerStates ∧ c.transactionState ≠ abortedPretrigger
  nodup : (records.map TransactionRecord.transactionState).Nodup
  times : records.Pairwise fun p c => p.transitionDecisionUtcNs < c.transitionDecisionUtcNs
  immutable : records.Pairwise fun p c => ∀ field ∈ immutableFields, field.get p = field.get c
  writeOnce : records.Pairwise fun p c => ∀ field ∈ writeOnceFields, field.get p ≠ .null →
    field.get c = field.get p

theorem AcceptedChain.boundary {records : List TransactionRecord} (h : AcceptedChain records)
    {i : ℕ} (hp : records[i]? = some p) (hc : records[i + 1]? = some c)
    (hne : triggerTuple p ≠ triggerTuple c) : TriggerBoundary p c := by
  obtain ⟨hi, rfl⟩ := List.getElem?_eq_some_iff.mp hc
  obtain ⟨hi', rfl⟩ := List.getElem?_eq_some_iff.mp hp
  have hstep := List.isChain_iff_getElem.mp h.steps i hi
  have htransition := validateTransition_eq_ok.mp hstep.2
  rcases validateTriggerTransition_ok htransition.trigger with hsame | ⟨hboundary, -⟩
  · exact absurd hsame.symm hne
  · exact hboundary

/-- No state occurs twice. -/
theorem AcceptedChain.nodup {records : List TransactionRecord} (h : AcceptedChain records) :
    (records.map TransactionRecord.transactionState).Nodup := by
  apply List.pairwise_map.mpr
  apply h.follows.imp
  intro p c hfollows hsame
  have hrank := hfollows.rank
  rw [hsame] at hrank
  exact lt_irrefl _ hrank

theorem AcceptedChain.once {records : List TransactionRecord} (h : AcceptedChain records)
    {i j : ℕ} (hi : TupleChanges records i) (hj : TupleChanges records j) : i = j := by
  obtain ⟨p, c, hp, hc, hne⟩ := hi
  obtain ⟨p', c', hp', hc', hne'⟩ := hj
  have hstate : p.transactionState = p'.transactionState :=
    (h.boundary hp hc hne).1.trans (h.boundary hp' hc' hne').1.symm
  have hmap (k : ℕ) (r : TransactionRecord) (hr : records[k]? = some r) :
      (records.map TransactionRecord.transactionState)[k]? = some r.transactionState := by
    rw [List.getElem?_map, hr]
    rfl
  apply (List.getElem?_inj ?_ h.nodup).mp
  · rw [hmap i p hp, hmap j p' hp', hstate]
  · rw [List.length_map]
    exact (List.getElem?_eq_some_iff.mp hp).1

/-- Along every accepted chain the trigger is written at most once, and no state, identity or
time is gone back on. -/
theorem acceptedChain_triggeredAtMostOnce {records : List TransactionRecord}
    (h : AcceptedChain records) : TriggeredAtMostOnce records where
  boundary i p c hp hc hne := h.boundary hp hc hne
  once i j hi hj := h.once hi hj
  attempts_le r hr := (h.schemaValid r hr).attempts_le
  attempts := h.follows.imp fun hfollows => hfollows.attempts
  consumed := by
    apply h.follows.imp_of_mem
    intro p c _ hc hfollows hconsumed
    have hno : p.scientificTriggerConsumed ≠ .no := by
      intro hno
      rw [hno] at hconsumed
      exact absurd hconsumed (by decide)
    have hstate : c.transactionState ∉ pretriggerStates := fun hmem =>
      hfollows.consumed hno ((h.schemaValid c hc).pretrigger hmem).1
    refine ⟨hstate, fun haborted => hstate ?_⟩
    rw [haborted]
    decide
  nodup := h.nodup
  times := h.follows.imp fun hfollows => hfollows.time
  immutable := h.follows.imp fun hfollows => hfollows.immutable
  writeOnce := h.follows.imp fun hfollows => hfollows.writeOnce

/-! A chain up to the trigger. -/

def sampleRecord : TransactionRecord where
  schemaVersion := chars "1.0.0"
  transactionId := chars "TXN-20260102T030405Z-001"
  experimentId := chars "EXP-20260102-SISO-PRB-R01"
  runId := chars "RUN-20260102T030405Z-001"
  transitionLabel := .t2
  repositoryHead := chars "0123456789abcdef0123456789abcdef01234567"
  protocolIdentity := chars "P12"
  transactionState := new
  previousTransactionState := none
  transitionDecisionUtcNs := 1
  failureClass := .none
  failureReason := chars "NONE"
  platformQualificationIdentity := none
  runtimeIncarnationIdentity := none
  initialPrbRequired := 52
  initialPrbObserved := none
  receiverWorkloadIdentity := none
  actuatorIdentity := none
  precontrolAdmissionResult := .notEvaluated
  triggerWriteAttemptCount := 0
  triggerWriteSuccessCount := 0
  scientificTriggerConsumed := .no
  replayDecision := .notApplicable
  appliedReadbackIdentity := none
  poststepCompletionResult := .notEvaluated
  scientificAdjudicationResult := .notEvaluated
  closeoutChecksumIdentity := none
  evidence := []

/-- The record at a state between NEW and TRIGGERED_EXACTLY_ONCE. -/
def sampleAt (previous state : TransactionState) : TransactionRecord :=
  let from' (first : TransactionState) := decide (first.rank ≤ state.rank)
  let triggered := from' triggeredExactlyOnce
  { sampleRecord with
    transactionState := state
    previousTransactionState := some previous
    transitionDecisionUtcNs := state.rank + 1
    platformQualificationIdentity := if from' platformQualified then some (chars "Q") else none
    runtimeIncarnationIdentity := if from' platformQualified then some (chars "R") else none
    initialPrbObserved := if from' initialStateVerified then some 52 else none
    actuatorIdentity := if from' actuatorArmed then some (chars "A") else none
    receiverWorkloadIdentity := if from' workloadReady then some (chars "W") else none
    precontrolAdmissionResult := if from' prestepAdmitted then .pass else .notEvaluated
    triggerWriteAttemptCount := if triggered then 1 else 0
    triggerWriteSuccessCount := if triggered then 1 else 0
    scientificTriggerConsumed := if triggered then .yes else .no
    replayDecision := if triggered then .neverRepeat else .notApplicable }

def sampleChain : List TransactionRecord :=
  [sampleRecord, sampleAt new deployed, sampleAt deployed platformQualified,
    sampleAt platformQualified initialStateVerified, sampleAt initialStateVerified actuatorArmed,
    sampleAt actuatorArmed workloadReady, sampleAt workloadReady prestepAdmitted,
    sampleAt prestepAdmitted triggeredExactlyOnce]

theorem acceptedChain_triggeredAtMostOnce_sample : TriggeredAtMostOnce sampleChain := by
  apply acceptedChain_triggeredAtMostOnce
  constructor
  · decide +kernel
  · decide +kernel

end TcdOran.Transaction
