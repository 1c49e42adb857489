import TcdOran.Transaction.TriggerChain

/-! When the disposition of a transaction stays as it was adjudicated. No check of the validator
compares the results or the evidence of a record with those of its predecessor. -/
namespace TcdOran.Transaction
open TcdOran.Lib Python TransactionState

variable {p c d : TransactionRecord} {records : List TransactionRecord}

/-- The disposition is frozen once it is adjudicated, and the whole record once it is closed. -/
structure DispositionFrozen (records : List TransactionRecord) : Prop where
  adjudicated : records.Pairwise fun p c => p.transactionState = scientificallyAdjudicated →
    p.scientificAdjudicationResult ∈ [.valid, .invalid] →
    c.scientificAdjudicationResult = p.scientificAdjudicationResult
  invalid : records.Pairwise fun p c => p.transactionState = invalidPosttrigger →
    c.scientificAdjudicationResult ≠ .valid
  closed : records.Pairwise fun p c => p.transactionState = closed →
    c.transactionState = destroyed →
    c.precontrolAdmissionResult = p.precontrolAdmissionResult ∧
      c.poststepCompletionResult = p.poststepCompletionResult ∧
      c.scientificAdjudicationResult = p.scientificAdjudicationResult ∧
      c.evidence = p.evidence

/-- The step into CLOSED repeats the adjudication, and the step into DESTROYED the results and the
evidence. -/
structure Repeats (p c : TransactionRecord) : Prop where
  closing : p.transactionState = scientificallyAdjudicated →
    c.scientificAdjudicationResult = p.scientificAdjudicationResult
  destroying : p.transactionState = closed →
    c.precontrolAdmissionResult = p.precontrolAdmissionResult ∧
      c.poststepCompletionResult = p.poststepCompletionResult ∧
      c.scientificAdjudicationResult = p.scientificAdjudicationResult ∧
      c.evidence = p.evidence

theorem validateAdjudicationTransition_ok
    (h : validateAdjudicationTransition p c = .ok ())
    (hcurrent : c.transactionState = scientificallyAdjudicated) :
    c.scientificAdjudicationResult ∈ [.valid, .invalid] ∧
      (p.transactionState = invalidPosttrigger → c.scientificAdjudicationResult = .invalid) := by
  unfold validateAdjudicationTransition at h
  rw [if_neg (not_not.mpr hcurrent), require_bind_eq_ok] at h
  refine ⟨h.1, fun hprevious => ?_⟩
  have hinvalid := h.2
  rw [if_pos hprevious, require_eq_ok] at hinvalid
  exact hinvalid

/-- The states behind the adjudication. -/
def disposedStates : List TransactionState := [scientificallyAdjudicated, closed, destroyed]

/-- What holds between a record of a chain and every later one, where the steps repeat the
disposition. -/
structure KeepsDisposition (p c : TransactionRecord) : Prop where
  last : p.transactionState ≠ destroyed
  disposed : p.transactionState ∈ disposedStates → c.transactionState ∈ disposedStates
  result : p.transactionState ∈ [scientificallyAdjudicated, closed] →
    c.scientificAdjudicationResult = p.scientificAdjudicationResult
  invalid : p.transactionState = invalidPosttrigger → c.transactionState ∈ disposedStates ∧
    c.scientificAdjudicationResult = .invalid
  closed : p.transactionState = closed → c.transactionState = destroyed ∧
    c.precontrolAdmissionResult = p.precontrolAdmissionResult ∧
      c.poststepCompletionResult = p.poststepCompletionResult ∧
      c.scientificAdjudicationResult = p.scientificAdjudicationResult ∧
      c.evidence = p.evidence

theorem mem_disposed_of_ne_destroyed {state : TransactionState} (h : state ∈ disposedStates)
    (hne : state ≠ destroyed) : state ∈ [scientificallyAdjudicated, TransactionState.closed] := by
  simp only [disposedStates, List.mem_cons, List.not_mem_nil, or_false] at h ⊢
  rcases h with h | h | h
  · exact .inl h
  · exact .inr h
  · exact absurd h hne

theorem KeepsDisposition.trans (hpc : KeepsDisposition p c) (hcd : KeepsDisposition c d) :
    KeepsDisposition p d where
  last := hpc.last
  disposed h := hcd.disposed (hpc.disposed h)
  result h := by
    have hc : c.transactionState ∈ disposedStates := by
      apply hpc.disposed
      simp only [disposedStates, List.mem_cons, List.not_mem_nil, or_false] at h ⊢
      exact h.imp_right .inl
    exact (hcd.result (mem_disposed_of_ne_destroyed hc hcd.last)).trans (hpc.result h)
  invalid h := by
    obtain ⟨hc, hresult⟩ := hpc.invalid h
    refine ⟨hcd.disposed hc, ?_⟩
    exact (hcd.result (mem_disposed_of_ne_destroyed hc hcd.last)).trans hresult
  closed h := absurd (hpc.closed h).1 hcd.last

instance : Trans KeepsDisposition KeepsDisposition KeepsDisposition := ⟨KeepsDisposition.trans⟩

/-- Where a step out of an adjudicated, closed or invalid record leads. -/
theorem legal_disposed (h : c.transactionState ∈ legalTransitions p.transactionState) :
    p.transactionState ≠ destroyed ∧
      (p.transactionState = invalidPosttrigger →
        c.transactionState = scientificallyAdjudicated) ∧
      (p.transactionState = scientificallyAdjudicated → c.transactionState = closed) ∧
      (p.transactionState = closed → c.transactionState = destroyed) := by
  refine ⟨fun hstate => ?_, fun hstate => ?_, fun hstate => ?_, fun hstate => ?_⟩
  · rw [hstate] at h
    cases h
  all_goals
    rw [hstate] at h
    exact List.mem_singleton.mp h

/-- One step of a chain. -/
theorem keepsDisposition_of_accepts (h : Accepts p c) (hrepeats : Repeats p c) :
    KeepsDisposition p c := by
  have htransition := validateTransition_eq_ok.mp h.2
  obtain ⟨hlast, hinvalid, hadjudicated, hclosed⟩ := legal_disposed htransition.legal
  constructor
  · exact hlast
  · intro hp
    rcases List.mem_cons.mp (mem_disposed_of_ne_destroyed hp hlast) with hstate | hstate
    · rw [hadjudicated hstate]
      decide
    · rw [hclosed (List.mem_singleton.mp hstate)]
      decide
  · intro hp
    rcases List.mem_cons.mp hp with hstate | hstate
    · exact hrepeats.closing hstate
    · exact (hrepeats.destroying (List.mem_singleton.mp hstate)).2.2.1
  · intro hstate
    have hcurrent := hinvalid hstate
    obtain ⟨-, hresult⟩ := validateAdjudicationTransition_ok htransition.adjudication hcurrent
    refine ⟨?_, hresult hstate⟩
    rw [hcurrent]
    decide
  · exact fun hstate => ⟨hclosed hstate, hrepeats.destroying hstate⟩

/-- A record that is adjudicated has a result. -/
theorem AcceptedChain.adjudicated (h : AcceptedChain records) : ∀ r ∈ records,
    r.transactionState = scientificallyAdjudicated →
    r.scientificAdjudicationResult ∈ [.valid, .invalid] := by
  apply h.steps.induction
  · intro p c hstep _ hstate
    have htransition := validateTransition_eq_ok.mp hstep.2
    exact (validateAdjudicationTransition_ok htransition.adjudication hstate).1
  · intro hne hstate
    have hnew := (h.first _ (List.head_mem_head? hne)).2
    unfold validateNewRecord at hnew
    rw [require_bind_eq_ok, hstate] at hnew
    cases hnew.1

/-- An accepted chain keeps its disposition exactly where the steps into CLOSED and DESTROYED
repeat it. -/
theorem disposition_frozen_iff {records : List TransactionRecord} (h : AcceptedChain records) :
    DispositionFrozen records ↔ records.IsChain Repeats := by
  constructor
  · intro hfrozen
    apply List.isChain_iff_getElem.mpr
    intro i hi
    have hi' : i < records.length := Nat.lt_of_succ_lt hi
    have hadjudicated := List.pairwise_iff_getElem.mp hfrozen.adjudicated i (i + 1) hi' hi
      (Nat.lt_succ_self i)
    have hclosed := List.pairwise_iff_getElem.mp hfrozen.closed i (i + 1) hi' hi
      (Nat.lt_succ_self i)
    have hstep := List.isChain_iff_getElem.mp h.steps i hi
    have hlegal := (validateTransition_eq_ok.mp hstep.2).legal
    constructor
    · exact fun hstate => hadjudicated hstate (h.adjudicated _ (List.getElem_mem hi') hstate)
    · exact fun hstate => hclosed hstate ((legal_disposed hlegal).2.2.2 hstate)
  · intro hrepeats
    have hkeeps : records.Pairwise KeepsDisposition := by
      apply List.isChain_iff_pairwise.mp
      apply List.isChain_iff_getElem.mpr
      intro i hi
      exact keepsDisposition_of_accepts (List.isChain_iff_getElem.mp h.steps i hi)
        (List.isChain_iff_getElem.mp hrepeats i hi)
    constructor
    · apply hkeeps.imp
      intro p c hkeep hstate _
      apply hkeep.result
      rw [hstate]
      decide
    · apply hkeeps.imp
      intro p c hkeep hstate hvalid
      rw [(hkeep.invalid hstate).2] at hvalid
      cases hvalid
    · apply hkeeps.imp
      exact fun hkeep hstate _ => (hkeep.closed hstate).2

/-! A run that is adjudicated as invalid and closed as valid. -/

def closingRecord (result : AdjudicationResult) (previous state : TransactionState) :
    TransactionRecord :=
  { sampleAt previous state with
    failureClass := .toolingFailure
    failureReason := chars "FIFO"
    triggerWriteSuccessCount := 0
    scientificTriggerConsumed := .unknown
    replayDecision := .neverAutomaticallyReplay
    scientificAdjudicationResult := result
    closeoutChecksumIdentity := if state = closed then some (List.replicate 64 97) else none }

def invalidChain (closing : AdjudicationResult) : List TransactionRecord :=
  sampleChain.take 7 ++
    [closingRecord .notEvaluated prestepAdmitted invalidPosttrigger,
      closingRecord .invalid invalidPosttrigger scientificallyAdjudicated,
      closingRecord closing scientificallyAdjudicated closed]

theorem disposition_frozen_iff_sample : DispositionFrozen (invalidChain .invalid) ↔
    (invalidChain .invalid).IsChain Repeats := by
  apply disposition_frozen_iff
  constructor
  · decide +kernel
  · decide +kernel

/-- The validator accepts the chain that closes an invalid run as valid. -/
theorem disposition_not_frozen :
    AcceptedChain (invalidChain .valid) ∧ ¬ DispositionFrozen (invalidChain .valid) := by
  refine ⟨⟨by decide +kernel, by decide +kernel⟩, fun hfrozen => ?_⟩
  have hinvalid := List.pairwise_iff_getElem.mp hfrozen.invalid 7 9 (by decide +kernel)
    (by decide +kernel) (by decide)
  exact hinvalid rfl rfl

end TcdOran.Transaction
