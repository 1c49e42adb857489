import Mathlib.Data.List.Chain
import TcdOran.Transaction.Disposition

/-! Every accepted chain can be continued to DESTROYED. Before the trigger the transaction aborts,
after it the transaction is invalid and adjudicated as such, and both are closed and destroyed. -/
namespace TcdOran.Transaction
open TcdOran.Lib Python TransactionState

/-! ### Chains to a goal -/

/-- When every element that is no goal has a successor, along which a rank grows that stays below
a bound, a chain leads from every element to a goal. -/
theorem exists_chain_to_goal {α : Type} {R : α → α → Prop} {Good Goal : α → Prop} {rank : α → ℕ}
    {bound : ℕ} (hbound : ∀ a, rank a ≤ bound)
    (hstep : ∀ a, Good a → ¬ Goal a → ∃ b, R a b ∧ Good b ∧ rank a < rank b) {a : α}
    (ha : Good a) : ∃ rest : List α, (a :: rest).IsChain R ∧
      ∃ b ∈ (a :: rest).getLast?, Goal b := by
  -- Induction on what the rank can still grow by.
  induction h : bound - rank a using Nat.strong_induction_on generalizing a with
  | _ n ih =>
    by_cases hgoal : Goal a
    · exact ⟨[], .singleton a, a, rfl, hgoal⟩
    · obtain ⟨b, hab, hb, hlt⟩ := hstep a ha hgoal
      have hb_bound := hbound b
      obtain ⟨rest, hchain, c, hc, hc_goal⟩ := ih (bound - rank b) (by omega) hb rfl
      refine ⟨b :: rest, .cons_cons hab hchain, c, ?_, hc_goal⟩
      rw [List.getLast?_cons_cons]
      exact hc

/-! ### The records that lead there -/

variable {r p c : TransactionRecord}

namespace TransactionRecord

/-- The record at a later state, decided one nanosecond later, with nothing else changed. -/
def advanced (r : TransactionRecord) (state : TransactionState) : TransactionRecord :=
  { r with
    transactionState := state
    previousTransactionState := some r.transactionState
    transitionDecisionUtcNs := r.transitionDecisionUtcNs + 1 }

/-- The entry into one of the failure states, with the trigger as it was. -/
def failed (r : TransactionRecord) (state : TransactionState) : TransactionRecord :=
  { r.advanced state with
    failureClass := .platformFailure
    failureReason := chars "ABANDONED" }

@[simp] theorem advanced_transactionState {state : TransactionState} :
    (r.advanced state).transactionState = state := rfl

@[simp] theorem failed_transactionState {state : TransactionState} :
    (r.failed state).transactionState = state := rfl

/-- The checksum of the record, or one of zeros. -/
def closeoutChecksum (r : TransactionRecord) : List ℕ :=
  r.closeoutChecksumIdentity.getD (List.replicate 64 (Char.toNat '0'))

def adjudicatedInvalid (r : TransactionRecord) : TransactionRecord :=
  { r.advanced scientificallyAdjudicated with scientificAdjudicationResult := .invalid }

def closedOut (r : TransactionRecord) : TransactionRecord :=
  { r.advanced closed with closeoutChecksumIdentity := some r.closeoutChecksum }

end TransactionRecord

/-- The states that wait for the trigger. -/
def waitingStates : List TransactionState :=
  [new, deployed, platformQualified, initialStateVerified, actuatorArmed, workloadReady,
    prestepAdmitted]

/-- The states after a confirmed trigger. -/
def triggeredStates : List TransactionState :=
  [triggeredExactlyOnce, appliedVerified, poststepComplete]

/-! ### What a record of a chain satisfies -/

/-- A record that the schema and the checks of a single record accept. -/
structure Sound (r : TransactionRecord) : Prop where
  schema : r.SchemaValid
  invariants : validateRecordStateInvariants r = .ok ()

theorem onStates_eq_ok {states : List TransactionState} {checks : Validation} :
    onStates r states checks = .ok () ↔ (r.transactionState ∈ states → checks = .ok ()) := by
  unfold onStates
  by_cases hmem : r.transactionState ∈ states
  · rw [if_pos hmem]
    exact ⟨fun h _ => h, fun h => h hmem⟩
  · rw [if_neg hmem]
    exact ⟨fun _ h => absurd h hmem, fun _ => rfl⟩

theorem requireNonempty_eq_ok {value : Option (List ℕ)} {reason : String} :
    requireNonempty value reason = .ok () ↔ ∃ text ∈ value, text ≠ [] :=
  require_eq_ok

theorem Sound.active (h : Sound r)
    (hstate : r.transactionState ∈ waitingStates ++ triggeredStates) :
    r.failureClass = .none ∧ r.failureReason = chars "NONE" := by
  have hchecks := h.invariants
  simp only [validateRecordStateInvariants, unit_bind_eq_ok, onStates_eq_ok,
    require_eq_ok] at hchecks
  exact hchecks.1 hstate

theorem Sound.failureClass (h : Sound r) (hstate : r.transactionState ∈ failureStates) :
    r.failureClass ∈ failureClasses ∧ r.failureReason ≠ chars "NONE" := by
  have hchecks := h.invariants
  simp only [validateRecordStateInvariants, unit_bind_eq_ok, onStates_eq_ok,
    require_eq_ok] at hchecks
  exact hchecks.2.1 hstate

theorem Sound.pretrigger (h : Sound r) (hstate : r.transactionState ∈ pretriggerStates) :
    triggerTuple r = ⟨0, 0, .no, .notApplicable⟩ := by
  have hchecks := h.invariants
  simp only [validateRecordStateInvariants, unit_bind_eq_ok, onStates_eq_ok,
    require_eq_ok] at hchecks
  obtain ⟨hattempts, hsuccesses, hconsumed, hreplay⟩ := hchecks.2.2.1 hstate
  simp only [triggerTuple, hattempts, hsuccesses, hconsumed, hreplay]

theorem Sound.triggered (h : Sound r) (hstate : r.transactionState ∈ triggeredStates) :
    triggerTuple r = ⟨1, 1, .yes, .neverRepeat⟩ := by
  obtain ⟨-, -, ⟨-, -, hrule, -⟩, -⟩ := h.schema
  obtain ⟨hconsumed, hattempts, hsuccesses, hreplay⟩ := hrule hstate
  simp only [triggerTuple, hattempts, hsuccesses, hconsumed, hreplay]

theorem Sound.closeout (h : Sound r) (hstate : r.transactionState ∈ [closed, destroyed]) :
    ∃ checksum ∈ r.closeoutChecksumIdentity, checksum ≠ [] := by
  have hchecks := h.invariants
  simp only [validateRecordStateInvariants, unit_bind_eq_ok, onStates_eq_ok, require_eq_ok,
    requireNonempty_eq_ok] at hchecks
  exact hchecks.2.2.2.2.2.2.2.2.2.2.2.2 hstate

theorem AcceptedChain.sound {records : List TransactionRecord} (h : AcceptedChain records) :
    ∀ r ∈ records, Sound r := by
  apply h.steps.induction
  · exact fun _ _ hstep _ => ⟨hstep.1, (validateTransition_eq_ok.mp hstep.2).invariants⟩
  · intro hne
    obtain ⟨hschema, hnew⟩ := h.first _ (List.head_mem_head? hne)
    simp only [validateNewRecord, require_bind_eq_ok] at hnew
    exact ⟨hschema, hnew.2.2.2⟩

/-! ### Every step is accepted -/

theorem identityContinuity_of_get (h : ∀ field : RecordField, field.get c = field.get p) :
    validateIdentityContinuity p c = .ok () :=
  validateIdentityContinuity_eq_ok.mpr
    ⟨fun field _ => (h field).symm, fun field _ _ => h field⟩

theorem valuesValid_advanced (h : r.ValuesValid) (state : TransactionState) :
    (r.advanced state).ValuesValid := by
  refine ⟨?_, h.2⟩
  have htime := h.1
  show 1 ≤ r.transitionDecisionUtcNs + 1
  omega

theorem valuesValid_failed (h : r.ValuesValid) (state : TransactionState) :
    (r.failed state).ValuesValid :=
  ⟨(valuesValid_advanced h state).1, List.cons_ne_nil _ _, h.2.2⟩

/-- The trigger tuple stays as it was, off its boundary. -/
theorem triggerTransition_of_same (hsame : triggerTuple c = triggerTuple p)
    (hoff : ¬ TriggerBoundary p c) : validateTriggerTransition p c = .ok () := by
  unfold validateTriggerTransition
  rw [if_neg fun h => hoff ⟨h.1, .inl h.2⟩, if_neg fun h => hoff ⟨h.1, .inr h.2⟩]
  exact ok_of_require hsame

/-- The first failure is entered from a record without one. -/
theorem failureContinuity_entered (hc : c.transactionState ∈ failureStates)
    (hp : p.transactionState ∉ failureStates) (hnone : p.failureClass = .none) :
    validateFailureContinuity p c = .ok () := by
  unfold validateFailureContinuity
  rw [if_pos ⟨hc, hp⟩]
  exact ok_of_require hnone

theorem failureContinuity_kept (hc : c.transactionState ∉ failureStates)
    (hclass : c.failureClass = p.failureClass) (hreason : c.failureReason = p.failureReason) :
    validateFailureContinuity p c = .ok () := by
  unfold validateFailureContinuity
  rw [if_neg fun h => hc h.1, ok_of_require hclass]
  exact ok_of_require hreason

theorem adjudicationTransition_of_ne (h : c.transactionState ≠ scientificallyAdjudicated) :
    validateAdjudicationTransition p c = .ok () := by
  unfold validateAdjudicationTransition
  rw [if_pos h]

/-- A failure state is entered from a record without failure, off the trigger boundary. -/
theorem Sound.accepts_failed (h : Sound r) {state : TransactionState}
    (hactive : r.transactionState ∈ waitingStates ++ triggeredStates)
    (hlegal : state ∈ legalTransitions r.transactionState) (hfailure : state ∈ failureStates)
    (hoff : ¬ TriggerBoundary r (r.failed state)) (htrigger : (r.failed state).TriggerRules)
    (hresult : (r.failed state).ResultRules)
    (hinvariants : validateRecordStateInvariants (r.failed state) = .ok ()) :
    Accepts r (r.failed state) := by
  refine ⟨⟨h.schema.1, valuesValid_failed h.schema.2.1 state, htrigger, hresult⟩, ?_⟩
  apply validateTransition_eq_ok.mpr
  have hnot : r.transactionState ∉ failureStates := by
    revert hactive
    cases r.transactionState <;> decide
  have hne : state ≠ scientificallyAdjudicated := by
    rintro rfl
    exact absurd hfailure (by decide)
  exact {
    previousState := rfl
    legal := hlegal
    time := lt_add_one r.transitionDecisionUtcNs
    identity := identityContinuity_of_get fun field => by cases field <;> rfl
    failure := failureContinuity_entered hfailure hnot (h.active hactive).1
    trigger := triggerTransition_of_same (p := r) (c := r.failed state) rfl hoff
    invariants := hinvariants
    adjudication := adjudicationTransition_of_ne hne }

/-- Before the trigger the transaction can be aborted. -/
theorem Sound.accepts_aborted (h : Sound r) (hstate : r.transactionState ∈ waitingStates) :
    Accepts r (r.failed abortedPretrigger) := by
  have htuple := h.pretrigger (List.mem_append_left [abortedPretrigger] hstate)
  simp only [triggerTuple, TriggerTuple.mk.injEq] at htuple
  obtain ⟨hattempts, hsuccesses, hconsumed, hreplay⟩ := htuple
  apply h.accepts_failed
  · exact List.mem_append_left _ hstate
  · revert hstate
    cases r.transactionState <;> decide
  · decide
  · rintro ⟨-, habsurd | habsurd⟩ <;> cases habsurd
  · simp [TransactionRecord.TriggerRules, TransactionRecord.failed, TransactionRecord.advanced,
      hattempts, hsuccesses, hconsumed]
  · simp [TransactionRecord.ResultRules, TransactionRecord.failed, TransactionRecord.advanced,
      failureClasses, hconsumed, chars]
  · simp [validateRecordStateInvariants, onStates_eq_ok, unit_bind_eq_ok, TransactionRecord.failed,
      TransactionRecord.advanced, failureStates, failureClasses, pretriggerStates, hattempts,
      hsuccesses, hconsumed, hreplay, chars]

/-- After a confirmed trigger the transaction can be given up as invalid. -/
theorem Sound.accepts_invalidated (h : Sound r) (hstate : r.transactionState ∈ triggeredStates) :
    Accepts r (r.failed invalidPosttrigger) := by
  have htuple := h.triggered hstate
  simp only [triggerTuple, TriggerTuple.mk.injEq] at htuple
  obtain ⟨hattempts, hsuccesses, hconsumed, hreplay⟩ := htuple
  apply h.accepts_failed
  · exact List.mem_append_right _ hstate
  · revert hstate
    cases r.transactionState <;> decide
  · decide
  · rintro ⟨habsurd, -⟩
    rw [habsurd] at hstate
    exact absurd hstate (by decide)
  · simp [TransactionRecord.TriggerRules, TransactionRecord.failed, TransactionRecord.advanced,
      failureClasses, hattempts, hsuccesses, hconsumed, hreplay]
  · simp [TransactionRecord.ResultRules, TransactionRecord.failed, TransactionRecord.advanced,
      failureClasses, chars]
  · simp [validateRecordStateInvariants, onStates_eq_ok, unit_bind_eq_ok, TransactionRecord.failed,
      TransactionRecord.advanced, failureStates, failureClasses, pretriggerStates, chars]

/-- Behind the adjudication no conditional rule of the schema is about the state. -/
theorem rules_of_disposed (h : r.ResultRules) (hstate : c.transactionState ∈ disposedStates)
    (hclass : c.failureClass = r.failureClass) (hreason : c.failureReason = r.failureReason) :
    c.TriggerRules ∧ c.ResultRules := by
  simp only [disposedStates, List.mem_cons, List.not_mem_nil, or_false] at hstate
  obtain ⟨hnone, hsome, -⟩ := h
  rw [← hclass, ← hreason] at hnone hsome
  rcases hstate with hstate | hstate | hstate <;>
    exact ⟨by simp [TransactionRecord.TriggerRules, hstate], hnone, hsome, by simp [hstate]⟩

/-- Behind the failure or the last step of the experiment the failure and the trigger stay. -/
theorem Sound.accepts_disposed (h : Sound r) (hstate : c.transactionState ∈ disposedStates)
    (hlegal : c.transactionState ∈ legalTransitions r.transactionState)
    (hprevious : c.previousTransactionState = some r.transactionState)
    (htime : r.transitionDecisionUtcNs < c.transitionDecisionUtcNs)
    (hvalid : c.IdentitiesValid ∧ c.ValuesValid)
    (hidentity : validateIdentityContinuity r c = .ok ())
    (hclass : c.failureClass = r.failureClass) (hreason : c.failureReason = r.failureReason)
    (htuple : triggerTuple c = triggerTuple r)
    (hinvariants : validateRecordStateInvariants c = .ok ())
    (hadjudication : validateAdjudicationTransition r c = .ok ()) : Accepts r c := by
  obtain ⟨htrigger, hresult⟩ := rules_of_disposed h.schema.2.2.2 hstate hclass hreason
  refine ⟨⟨hvalid.1, hvalid.2, htrigger, hresult⟩, ?_⟩
  apply validateTransition_eq_ok.mpr
  have hfailure : c.transactionState ∉ failureStates := by
    revert hstate
    cases c.transactionState <;> decide
  have hoff : ¬ TriggerBoundary r c := by
    rintro ⟨-, habsurd | habsurd⟩ <;> rw [habsurd] at hstate <;> exact absurd hstate (by decide)
  exact {
    previousState := hprevious
    legal := hlegal
    time := htime
    identity := hidentity
    failure := failureContinuity_kept hfailure hclass hreason
    trigger := triggerTransition_of_same htuple hoff
    invariants := hinvariants
    adjudication := hadjudication }

/-- An invalid transaction can be adjudicated as such. -/
theorem Sound.accepts_adjudicated (h : Sound r) (hstate : r.transactionState = invalidPosttrigger) :
    Accepts r r.adjudicatedInvalid := by
  apply h.accepts_disposed
  · show scientificallyAdjudicated ∈ disposedStates
    decide
  · rw [hstate]
    show scientificallyAdjudicated ∈ legalTransitions invalidPosttrigger
    decide
  · rfl
  · exact lt_add_one r.transitionDecisionUtcNs
  · exact ⟨h.schema.1, valuesValid_advanced h.schema.2.1 scientificallyAdjudicated⟩
  · exact identityContinuity_of_get fun field => by cases field <;> rfl
  · rfl
  · rfl
  · rfl
  · simp [validateRecordStateInvariants, onStates_eq_ok, unit_bind_eq_ok, failureStates,
      pretriggerStates, TransactionRecord.adjudicatedInvalid, TransactionRecord.advanced]
  · unfold validateAdjudicationTransition
    rw [if_neg (fun hne => hne rfl), require_bind_eq_ok, if_pos hstate]
    exact ⟨by simp [TransactionRecord.adjudicatedInvalid], ok_of_require rfl⟩

theorem Sound.closeoutChecksum (h : Sound r) :
    searchWhole sha256Pattern r.closeoutChecksum = true := by
  obtain ⟨-, -, -, -, -, -, -, -, -, -, -, hchecksum, -⟩ := h.schema.2.1
  cases hcloseout : r.closeoutChecksumIdentity with
  | none =>
    rw [TransactionRecord.closeoutChecksum, hcloseout]
    decide +kernel
  | some checksum =>
    rw [TransactionRecord.closeoutChecksum, hcloseout]
    exact hchecksum checksum hcloseout

theorem Sound.identityContinuity_closedOut :
    validateIdentityContinuity r r.closedOut = .ok () := by
  refine validateIdentityContinuity_eq_ok.mpr ⟨fun field hfield => ?_, fun field _ hnull => ?_⟩
  · cases field <;> try rfl
    exact absurd hfield (by decide)
  · cases field <;> try rfl
    -- A checksum that is there stays.
    cases hcloseout : r.closeoutChecksumIdentity with
    | none => simp [RecordField.get, RecordField.nullable, hcloseout] at hnull
    | some checksum =>
      simp [RecordField.get, RecordField.nullable, hcloseout, TransactionRecord.closedOut,
        TransactionRecord.closeoutChecksum]

theorem Sound.accepts_closedOut (h : Sound r)
    (hstate : r.transactionState ∈ [scientificallyAdjudicated, abortedPretrigger]) :
    Accepts r r.closedOut := by
  apply h.accepts_disposed
  · show closed ∈ disposedStates
    decide
  · show closed ∈ legalTransitions r.transactionState
    revert hstate
    cases r.transactionState <;> decide
  · rfl
  · exact lt_add_one r.transitionDecisionUtcNs
  · obtain ⟨-, h2, h3, h4, h5, h6, h7, h8, h9, h10, h11, -, h13⟩ := h.schema.2.1
    refine ⟨h.schema.1, (valuesValid_advanced h.schema.2.1 closed).1, h2, h3, h4, h5, h6, h7, h8,
      h9, h10, h11, ?_, h13⟩
    rintro checksum ⟨⟩
    exact h.closeoutChecksum
  · exact Sound.identityContinuity_closedOut
  · rfl
  · rfl
  · rfl
  · have hne : r.closeoutChecksum ≠ [] := by
      intro hnil
      have hchecksum := h.closeoutChecksum
      rw [hnil] at hchecksum
      exact absurd hchecksum (by decide)
    simpa [validateRecordStateInvariants, onStates_eq_ok, unit_bind_eq_ok, failureStates,
      pretriggerStates, requireNonempty_eq_ok, TransactionRecord.closedOut,
      TransactionRecord.advanced] using hne
  · exact adjudicationTransition_of_ne (by simp [TransactionRecord.closedOut])

theorem Sound.accepts_destroyed (h : Sound r) (hstate : r.transactionState = closed) :
    Accepts r (r.advanced destroyed) := by
  apply h.accepts_disposed
  · show destroyed ∈ disposedStates
    decide
  · rw [hstate]
    show destroyed ∈ legalTransitions closed
    decide
  · rfl
  · exact lt_add_one r.transitionDecisionUtcNs
  · exact ⟨h.schema.1, valuesValid_advanced h.schema.2.1 destroyed⟩
  · exact identityContinuity_of_get fun field => by cases field <;> rfl
  · rfl
  · rfl
  · rfl
  · have hchecksum := h.closeout (by simp [hstate])
    simpa [validateRecordStateInvariants, onStates_eq_ok, unit_bind_eq_ok, failureStates,
      pretriggerStates, requireNonempty_eq_ok, TransactionRecord.advanced] using hchecksum
  · exact adjudicationTransition_of_ne (by simp)

/-! ### No dead end -/

/-- A record that is not destroyed has an accepted successor. -/
theorem Sound.exists_accepts (h : Sound r) (hne : r.transactionState ≠ destroyed) :
    ∃ c, Accepts r c := by
  cases hstate : r.transactionState with
  | new | deployed | platformQualified | initialStateVerified | actuatorArmed | workloadReady
  | prestepAdmitted => exact ⟨_, h.accepts_aborted (by simp [hstate, waitingStates])⟩
  | triggeredExactlyOnce | appliedVerified | poststepComplete =>
    exact ⟨_, h.accepts_invalidated (by simp [hstate, triggeredStates])⟩
  | invalidPosttrigger => exact ⟨_, h.accepts_adjudicated hstate⟩
  | scientificallyAdjudicated | abortedPretrigger =>
    exact ⟨_, h.accepts_closedOut (by simp [hstate])⟩
  | closed => exact ⟨_, h.accepts_destroyed hstate⟩
  | destroyed => exact absurd hstate hne

theorem sound_of_accepts (h : Accepts p c) : Sound c :=
  ⟨h.1, (validateTransition_eq_ok.mp h.2).invariants⟩

theorem rank_lt_of_accepts (h : Accepts p c) : p.transactionState.rank < c.transactionState.rank :=
  rank_lt_of_legal _ _ (validateTransition_eq_ok.mp h.2).legal

theorem rank_le (state : TransactionState) : state.rank ≤ 13 := by cases state <;> decide

/-- Every record of a chain leads to DESTROYED. -/
theorem Sound.exists_chain_to_destroyed (h : Sound r) :
    ∃ rest, (r :: rest).IsChain Accepts ∧
      ∃ last ∈ (r :: rest).getLast?, last.transactionState = destroyed := by
  have hstep (p : TransactionRecord) (hp : Sound p) (hne : p.transactionState ≠ destroyed) :
      ∃ c, Accepts p c ∧ Sound c ∧ p.transactionState.rank < c.transactionState.rank := by
    obtain ⟨c, haccepts⟩ := hp.exists_accepts hne
    exact ⟨c, haccepts, sound_of_accepts haccepts, rank_lt_of_accepts haccepts⟩
  exact exists_chain_to_goal (fun r => rank_le r.transactionState) hstep h

/-- A chain can be continued to DESTROYED, and aborted from each record before the trigger. -/
structure NoDeadEnd (records : List TransactionRecord) : Prop where
  continued : records ≠ [] → ∃ rest, AcceptedChain (records ++ rest) ∧
    ∃ last ∈ (records ++ rest).getLast?, last.transactionState = destroyed
  abortable : ∀ r ∈ records, r.transactionState ∈ pretriggerStates →
    r.transactionState ≠ abortedPretrigger →
      ∃ c, c.transactionState = abortedPretrigger ∧ Accepts r c

theorem no_dead_end {records : List TransactionRecord} (h : AcceptedChain records) :
    NoDeadEnd records where
  continued hne := by
    have hlast := List.getLast?_eq_some_getLast hne
    have hsound := h.sound _ (List.getLast_mem hne)
    obtain ⟨rest, hchain, last, hmem, hdestroyed⟩ := hsound.exists_chain_to_destroyed
    obtain ⟨hstep, hrest⟩ := List.isChain_cons.mp hchain
    refine ⟨rest, ⟨?_, ?_⟩, last, ?_, hdestroyed⟩
    · rw [List.head?_append_of_ne_nil _ hne]
      exact h.first
    · apply h.steps.append hrest
      intro r hr c hc
      rw [hlast] at hr
      cases hr
      exact hstep c hc
    · rw [List.getLast?_cons] at hmem
      rw [List.getLast?_append, hlast]
      cases hrest_last : rest.getLast? <;> simpa [hrest_last] using hmem
  abortable r hr hpre hne := by
    refine ⟨_, rfl, (h.sound r hr).accepts_aborted ?_⟩
    revert hpre hne
    cases r.transactionState <;> decide

theorem no_dead_end_sample : NoDeadEnd sampleChain := by
  apply no_dead_end
  constructor
  · decide +kernel
  · decide +kernel

/-- ABORTED_PRETRIGGER is one of `PRETRIGGER_STATES`, and is not entered a second time. -/
theorem aborted_record_closes :
    AcceptedChain [sampleRecord, sampleRecord.failed abortedPretrigger] ∧
      (sampleRecord.failed abortedPretrigger).transactionState ∈ pretriggerStates ∧
        ¬ ∃ c, c.transactionState = abortedPretrigger ∧
          Accepts (sampleRecord.failed abortedPretrigger) c := by
  refine ⟨⟨by decide +kernel, by decide +kernel⟩, by decide, ?_⟩
  rintro ⟨c, hstate, haccepts⟩
  have hlegal := (validateTransition_eq_ok.mp haccepts.2).legal
  rw [hstate] at hlegal
  exact absurd hlegal (by decide)

end TcdOran.Transaction
