import TcdOran.Harness.TriggerExecutor

/-! `fifo_once` and `live` of prompt12-t2-postval-fast-trigger.py, and when the outcome record
tells whether the FIFO may have been written. An exception is given by its text. -/
namespace TcdOran.Harness
open TcdOran.Lib Python Attempt

/-- What the tail reader answers. -/
structure TailSample where
  record : Json
  latestSampleTimestampUtcNs : ℤ

/-- What the trigger meets outside. `claim` is `verify_ratio` and `claim_once`, `source` is
`source_at_90`, and `fifoIsFifo` the check of the path. -/
structure PostvalSurroundings where
  operationId : List ℕ
  triggerToken : List ℕ
  claim : Except (List ℕ) Unit
  source : Except (List ℕ) TailSample
  readbackWindowStart : List ℕ
  fifoIsFifo : Except (List ℕ) Bool
  openFifo : Except (List ℕ) Unit
  fstatIsFifo : Except (List ℕ) Bool
  gateNs : ℤ
  writeFifo : List UInt8 → Except (List ℕ) ℕ
  completedNs : ℤ
  closeFifo : Except (List ℕ) Unit

/-- `attempted` is the variable of `fifo_once`, and `record` what `live` hands to
`durable_exclusive`. -/
structure PostvalState where
  status : ExecutorResult
  attempted : Bool
  fifoWrites : List (List UInt8)
  record : Option ExecutorResult

abbrev Postval := Attempt PostvalState (List ℕ)

/-- `require`. -/
def postvalRequire (c : Prop) [Decidable c] (reason : String) : Postval PUnit :=
  if c then pure ⟨⟩ else throw (chars reason)

/-- `status.update(..)`. -/
def updateStatus (entries : ExecutorResult) : Postval PUnit :=
  modify fun s => { s with status := s.status ++ entries }

def attemptedReason : String := "FIFO_ATTEMPTED_OUTCOME_UNKNOWN_NO_REPLAY"

/-- The text of the exception carries the reason. -/
def carriesAttempted (text : List ℕ) : Bool := chars attemptedReason <:+: text

section
variable (o : PostvalSurroundings)

def tokenAllowed : Bool :=
  o.triggerToken ≠ [] ∧ 10 ∉ o.triggerToken ∧ 0 ∉ o.triggerToken

def postvalPayload : Option (List UInt8) := encode (o.triggerToken ++ [10])

/-- `age` against `MAX_AGE_NS`. -/
def freshAt (ns : ℤ) (sample : TailSample) : Bool :=
  0 ≤ ns - sample.latestSampleTimestampUtcNs ∧ ns - sample.latestSampleTimestampUtcNs ≤ 800000000

def yesNo (b : Bool) : ResultValue := .json (.bool b)

def completionEntries (sample : TailSample) : ExecutorResult :=
  [("TRIGGER_WRITE_ATTEMPT_COUNT", .int 1), ("TRIGGER_WRITE_SUCCESS_COUNT", .int 1),
    ("FIFO_WRITE_COMPLETED_UTC_NS", .int o.completedNs),
    ("EXECUTOR_START_SAMPLE_AGE_GATE", .text "PASS"),
    ("AGE_AT_FIFO_WRITE_NS", .int (o.gateNs - sample.latestSampleTimestampUtcNs)),
    ("FRESH_AT_WRITE_COMPLETION", yesNo (freshAt o.completedNs sample))]

/-- What stands under the `try` of `fifo_once`. -/
def writeOnce (payload : List UInt8) (sample : TailSample) : Postval ExecutorResult := do
  let isFifo ← Attempt.ofExcept o.fstatIsFifo
  postvalRequire (isFifo = true) "FIFO_IDENTITY_CHANGED"
  postvalRequire (freshAt o.gateNs sample = true) "FRESHNESS_OVER_800_MS_AT_WRITE"
  modify fun s => { s with attempted := true }
  modify fun s => { s with fifoWrites := s.fifoWrites ++ [payload] }
  let n ← Attempt.ofExcept (o.writeFifo payload)
  postvalRequire (n = payload.length) "FIFO_PARTIAL_WRITE_UNKNOWN_NO_REPLAY"
  return completionEntries o sample

/-- The `except` branch of `fifo_once`. -/
def reportAttempt (text : List ℕ) : Postval ExecutorResult := do
  let s ← MonadState.get
  if s.attempted then throw (chars attemptedReason) else throw text

def fifoOnce (sample : TailSample) : Postval ExecutorResult := do
  let isFifo ← Attempt.ofExcept o.fifoIsFifo
  postvalRequire (isFifo = true) "PRODUCTION_FIFO_NOT_FIFO"
  postvalRequire (tokenAllowed o = true) "TRIGGER_TOKEN_INVALID"
  let payload ← Attempt.ofExcept (match postvalPayload o with
    | some payload => .ok payload
    | none => .error (chars "surrogates not allowed"))
  Attempt.ofExcept o.openFifo
  tryFinally (tryCatch (writeOnce o payload sample) reportAttempt) (Attempt.ofExcept o.closeFifo)

/-- What stands under the `try` of `live`. -/
def liveTrigger : Postval PUnit := do
  let sample ← Attempt.ofExcept o.source
  updateStatus [("sample", .json sample.record),
    ("readback_window_start_utc", .units o.readbackWindowStart),
    ("trigger_dispatch_attempted", yesNo true)]
  let result ← fifoOnce o sample
  updateStatus result
  updateStatus [("CONTROL_EXECUTED",
    .text (if freshAt o.completedNs sample then "YES" else "UNKNOWN_NO_REPLAY"))]
  postvalRequire (freshAt o.completedNs sample = true) "WRITE_COMPLETION_EXPIRED_NO_REPLAY"
  updateStatus [("GATE", .text "PASS_PENDING_READBACK_AND_POSTVAL")]

/-- The `except` branch of `live`. -/
def liveFailure (text : List ℕ) : Postval PUnit := do
  updateStatus [("failure_reason", .units text), ("GATE", .text "FAIL_CLOSED_UNKNOWN_NO_REPLAY")]
  if carriesAttempted text then
    updateStatus [("CONTROL_EXECUTED", .text "UNKNOWN_AFTER_WRITE_ATTEMPT_NO_REPLAY"),
      ("TRIGGER_WRITE_ATTEMPT_COUNT", .text "UNKNOWN_NO_REPLAY"),
      ("TRIGGER_WRITE_SUCCESS_COUNT", .text "UNKNOWN_NO_REPLAY")]
  throw text

def initialStatus : ExecutorResult :=
  [("schema", .text "sci_oran_t2_postval_one_shot_v1"), ("protocol", .text "T2_POSTVAL_V1"),
    ("operation_id", .units o.operationId), ("GATE", .text "FAIL_CLOSED"),
    ("scientific_trigger_replay_decision", .text "NEVER_AUTOMATICALLY_REPLAY"),
    ("TRIGGER_WRITE_ATTEMPT_COUNT", .int 0), ("TRIGGER_WRITE_SUCCESS_COUNT", .int 0),
    ("CONTROL_EXECUTED", .text "NO")]

def recordOutcome : Postval PUnit := modify fun s => { s with record := some s.status }

/-- `live`. -/
def live : Postval PUnit := do
  Attempt.ofExcept o.claim
  updateStatus (initialStatus o)
  tryFinally (tryCatch (liveTrigger o) liveFailure) recordOutcome

/-- A run of `live`: how it ends, and the state at the end. -/
def postvalLive : Except (List ℕ) PUnit × PostvalState := outcome (live o) ⟨[], false, [], none⟩

end

/-! ### What the record says -/

/-- The outcome record says that the FIFO may have been written exactly where it may. -/
structure TellsWrites (s : PostvalState) : Prop where
  written : s.fifoWrites ≠ [] → ∀ status, s.record = some status →
    status.reverse.lookup "TRIGGER_WRITE_ATTEMPT_COUNT" ≠ some (.int 0) ∧
      status.reverse.lookup "CONTROL_EXECUTED" ≠ some (.text "NO")
  unwritten : s.fifoWrites = [] → ∀ status, s.record = some status →
    status.reverse.lookup "TRIGGER_WRITE_ATTEMPT_COUNT" = some (.int 0) ∧
      status.reverse.lookup "CONTROL_EXECUTED" = some (.text "NO")

section
variable (o : PostvalSurroundings)

/-- The trigger opens the FIFO. -/
def Opens (sample : TailSample) (payload : List UInt8) : Prop :=
  o.claim = .ok () ∧ o.source = .ok sample ∧ o.fifoIsFifo = .ok true ∧ tokenAllowed o = true ∧
    postvalPayload o = some payload ∧ o.openFifo = .ok ()

/-- The trigger gets to the write. -/
def Writes (sample : TailSample) (payload : List UInt8) : Prop :=
  Opens o sample payload ∧ o.fstatIsFifo = .ok true ∧ freshAt o.gateNs sample = true

/-- Where the text of a call outside ends the trigger in front of the write, that text. -/
inductive StopsWith : List ℕ → Prop
  | source (text : List ℕ) : o.claim = .ok () → o.source = .error text → StopsWith text
  | check (sample : TailSample) (text : List ℕ) : o.claim = .ok () → o.source = .ok sample →
      o.fifoIsFifo = .error text → StopsWith text
  | opening (sample : TailSample) (payload : List UInt8) (text : List ℕ) : o.claim = .ok () →
      o.source = .ok sample → o.fifoIsFifo = .ok true → tokenAllowed o = true →
      postvalPayload o = some payload → o.openFifo = .error text → StopsWith text
  | fstat (sample : TailSample) (payload : List UInt8) (text : List ℕ) : Opens o sample payload →
      o.fstatIsFifo = .error text → o.closeFifo = .ok () → StopsWith text
  | closing (sample : TailSample) (payload : List UInt8) (text : List ℕ) :
      Opens o sample payload → ¬ Writes o sample payload → o.closeFifo = .error text →
      StopsWith text

end

section
variable {o : PostvalSurroundings} {sample : TailSample} {payload : List UInt8}

/-- The state behind the write. -/
def PostvalState.written (s : PostvalState) (payload : List UInt8) : PostvalState :=
  { s with attempted := true, fifoWrites := s.fifoWrites ++ [payload] }

/-- The ends of `fifo_once`, by what it has met. -/
inductive FifoEnd (o : PostvalSurroundings) (sample : TailSample) (s : PostvalState) :
    Except (List ℕ) ExecutorResult × PostvalState → Prop
  | stopped (text : List ℕ) : (∀ payload, ¬ Writes o sample payload) →
      (∀ text', StopsWith o text' → text' = text) →
      (StopsWith o text ∨ carriesAttempted text = false) → FifoEnd o sample s (.error text, s)
  | ambiguous (payload : List UInt8) : Writes o sample payload → o.closeFifo = .ok () →
      FifoEnd o sample s (.error (chars attemptedReason), s.written payload)
  | unclosed (payload : List UInt8) (text : List ℕ) : Writes o sample payload →
      o.closeFifo = .error text → FifoEnd o sample s (.error text, s.written payload)
  | sent (payload : List UInt8) : Writes o sample payload → o.closeFifo = .ok () →
      FifoEnd o sample s (.ok (completionEntries o sample), s.written payload)

/-- The ends of the part under `try`, with the handler. -/
inductive WriteEnd (o : PostvalSurroundings) (sample : TailSample) (payload : List UInt8)
    (s : PostvalState) : Except (List ℕ) ExecutorResult × PostvalState → Prop
  | fstat (text : List ℕ) : o.fstatIsFifo = .error text → WriteEnd o sample payload s (.error text, s)
  | refused (text : List ℕ) : (∀ text', o.fstatIsFifo ≠ .error text') →
      ¬ (o.fstatIsFifo = .ok true ∧ freshAt o.gateNs sample = true) →
      carriesAttempted text = false → WriteEnd o sample payload s (.error text, s)
  | ambiguous : o.fstatIsFifo = .ok true → freshAt o.gateNs sample = true →
      WriteEnd o sample payload s (.error (chars attemptedReason), s.written payload)
  | sent : o.fstatIsFifo = .ok true → freshAt o.gateNs sample = true →
      WriteEnd o sample payload s (.ok (completionEntries o sample), s.written payload)

theorem writeOnce_end {s : PostvalState} (hs : s.attempted = false) :
    WriteEnd o sample payload s
      (outcome (tryCatch (writeOnce o payload sample) reportAttempt) s) := by
  rw [outcome_tryCatch]
  unfold writeOnce
  rw [outcome_bind, outcome_ofExcept]
  rcases hfstat : o.fstatIsFifo with text | _ | _
  · have h := @WriteEnd.fstat o sample payload s text hfstat
    simpa [reportAttempt, outcome_bind, hs] using h
  · have h := @WriteEnd.refused o sample payload s (chars "FIFO_IDENTITY_CHANGED")
      (by simp [hfstat]) (by simp [hfstat]) (by decide)
    simpa [reportAttempt, outcome_bind, hs, postvalRequire] using h
  · cases hfresh : freshAt o.gateNs sample with
    | false =>
      have h := @WriteEnd.refused o sample payload s (chars "FRESHNESS_OVER_800_MS_AT_WRITE")
        (by simp [hfstat]) (by simp [hfresh]) (by decide)
      simpa [reportAttempt, outcome_bind, hs, hfresh, postvalRequire] using h
    | true =>
      cases hwrite : o.writeFifo payload with
      | error text =>
        have h := @WriteEnd.ambiguous o sample payload s hfstat hfresh
        simpa [reportAttempt, outcome_bind, outcome_ofExcept, hfresh, hwrite, postvalRequire,
          PostvalState.written] using h
      | ok n =>
        by_cases hn : n = payload.length
        · have h := @WriteEnd.sent o sample payload s hfstat hfresh
          simpa [outcome_bind, outcome_ofExcept, hfresh, hwrite, hn, postvalRequire,
            PostvalState.written] using h
        · have h := @WriteEnd.ambiguous o sample payload s hfstat hfresh
          simpa [reportAttempt, outcome_bind, outcome_ofExcept, hfresh, hwrite, hn, postvalRequire,
            PostvalState.written] using h

theorem not_writes_of_not_opens (h : ∀ payload, ¬ Opens o sample payload) :
    ∀ payload, ¬ Writes o sample payload := fun payload hwrites => h payload hwrites.1

/-- Behind the open, what `os.close` raises replaces what the write ended with. -/
theorem closing_end {s : PostvalState} (hopens : Opens o sample payload)
    (hs : s.attempted = false) :
    FifoEnd o sample s
      (outcome (tryFinally (tryCatch (writeOnce o payload sample) reportAttempt)
        (Attempt.ofExcept o.closeFifo)) s) := by
  have hunique {sample' : TailSample} {payload' : List UInt8} (h : Opens o sample' payload') :
      sample' = sample ∧ payload' = payload :=
    ⟨Except.ok.inj (h.2.1.symm.trans hopens.2.1),
      Option.some.inj (h.2.2.2.2.1.symm.trans hopens.2.2.2.2.1)⟩
  have hstop {text : List ℕ} (hnot : ¬ Writes o sample payload)
      (hfstat : ∀ text', o.fstatIsFifo = .error text' → o.closeFifo = .ok () → text' = text)
      (hclosing : ∀ text', o.closeFifo = .error text' → text' = text)
      (h : StopsWith o text ∨ carriesAttempted text = false) :
      FifoEnd o sample s (.error text, s) := by
    apply FifoEnd.stopped text _ _ h
    · intro payload' hwrites
      obtain ⟨_, rfl⟩ := hunique hwrites.1
      exact hnot hwrites
    · intro text' hstops
      obtain ⟨_, hsource, hfifo, _, _, hopen⟩ := hopens
      cases hstops with
      | source _ _ herror => cases hsource.symm.trans herror
      | check _ _ _ _ herror => cases hfifo.symm.trans herror
      | opening _ _ _ _ _ _ _ _ herror => cases hopen.symm.trans herror
      | fstat _ _ _ _ herror hclose => exact hfstat text' herror hclose
      | closing _ _ _ _ _ herror => exact hclosing text' herror
  rw [outcome_finally, outcome_ofExcept]
  have hend := @writeOnce_end o sample payload s hs
  generalize outcome (tryCatch (writeOnce o payload sample) reportAttempt) s = result at hend ⊢
  cases hclose : o.closeFifo with
  | ok =>
    cases hend with
    | fstat text hfstat =>
      have hnot : ¬ Writes o sample payload := fun h => by cases hfstat.symm.trans h.2.1
      exact hstop hnot (fun text' h _ => (Except.error.inj (hfstat.symm.trans h)).symm)
        (fun text' h => by cases hclose.symm.trans h)
        (.inl (.fstat sample payload text hopens hfstat hclose))
    | refused text hfstat hrefused hcarries =>
      exact hstop (fun h => hrefused h.2) (fun text' h => absurd h (hfstat text'))
        (fun text' h => by cases hclose.symm.trans h) (.inr hcarries)
    | ambiguous hfstat hfresh => exact .ambiguous payload ⟨hopens, hfstat, hfresh⟩ hclose
    | sent hfstat hfresh => exact .sent payload ⟨hopens, hfstat, hfresh⟩ hclose
  | error closing =>
    have hstopped (hnot : ¬ Writes o sample payload) : FifoEnd o sample s (.error closing, s) :=
      hstop hnot (fun _ _ h => by cases hclose.symm.trans h)
        (fun text' h => (Except.error.inj (hclose.symm.trans h)).symm)
        (.inl (.closing sample payload closing hopens hnot hclose))
    cases hend with
    | fstat text hfstat => exact hstopped fun h => by cases hfstat.symm.trans h.2.1
    | refused text hfstat hrefused => exact hstopped fun h => hrefused h.2
    | ambiguous hfstat hfresh => exact .unclosed payload closing ⟨hopens, hfstat, hfresh⟩ hclose
    | sent hfstat hfresh => exact .unclosed payload closing ⟨hopens, hfstat, hfresh⟩ hclose

theorem fifoOnce_end {s : PostvalState} (hclaim : o.claim = .ok ()) (hsource : o.source = .ok sample)
    (hs : s.attempted = false) : FifoEnd o sample s (outcome (fifoOnce o sample) s) := by
  have hstop {text : List ℕ} (hnot : ∀ payload, ¬ Opens o sample payload)
      (hcheck : ∀ text', o.fifoIsFifo = .error text' → text' = text)
      (hopening : ∀ text', o.fifoIsFifo = .ok true → tokenAllowed o = true →
        (∃ payload, postvalPayload o = some payload) → o.openFifo = .error text' → text' = text)
      (h : StopsWith o text ∨ carriesAttempted text = false) :
      FifoEnd o sample s (.error text, s) := by
    apply FifoEnd.stopped text (not_writes_of_not_opens hnot) _ h
    intro text' hstops
    cases hstops with
    | source _ _ herror => cases hsource.symm.trans herror
    | check _ _ _ _ herror => exact hcheck text' herror
    | opening _ payload _ _ _ hfifo htoken hpayload herror =>
      exact hopening text' hfifo htoken ⟨payload, hpayload⟩ herror
    | fstat sample' payload _ hopens =>
      obtain rfl := Except.ok.inj (hsource.symm.trans hopens.2.1)
      exact absurd hopens (hnot payload)
    | closing sample' payload _ hopens =>
      obtain rfl := Except.ok.inj (hsource.symm.trans hopens.2.1)
      exact absurd hopens (hnot payload)
  unfold fifoOnce
  rw [outcome_bind, outcome_ofExcept]
  rcases hfifo : o.fifoIsFifo with text | _ | _
  · exact hstop (fun payload h => by cases hfifo.symm.trans h.2.2.1)
      (fun text' h => (Except.error.inj (hfifo.symm.trans h)).symm)
      (fun text' h => by cases hfifo.symm.trans h) (.inl (.check sample text hclaim hsource hfifo))
  · have h := @hstop (chars "PRODUCTION_FIFO_NOT_FIFO")
      (fun payload h => by cases hfifo.symm.trans h.2.2.1)
      (fun text' h => by cases hfifo.symm.trans h) (fun text' h => by cases hfifo.symm.trans h)
      (.inr (by decide))
    simpa [outcome_bind, postvalRequire] using h
  cases htoken : tokenAllowed o with
  | false =>
    have h := @hstop (chars "TRIGGER_TOKEN_INVALID")
      (fun payload h => by cases htoken.symm.trans h.2.2.2.1)
      (fun text' h => by cases hfifo.symm.trans h) (fun text' _ h => by cases htoken.symm.trans h)
      (.inr (by decide))
    simpa [outcome_bind, postvalRequire, htoken] using h
  | true =>
    cases hpayload : postvalPayload o with
    | none =>
      have h := @hstop (chars "surrogates not allowed")
        (fun payload h => by cases hpayload.symm.trans h.2.2.2.2.1)
        (fun text' h => by cases hfifo.symm.trans h)
        (fun text' _ _ ⟨payload, h⟩ => by cases hpayload.symm.trans h) (.inr (by decide))
      simpa [outcome_bind, outcome_ofExcept, postvalRequire, htoken, hpayload] using h
    | some payload =>
      cases hopen : o.openFifo with
      | error text =>
        have h := @hstop text (fun payload h => by cases hopen.symm.trans h.2.2.2.2.2)
          (fun text' h => by cases hfifo.symm.trans h)
          (fun text' _ _ _ h => (Except.error.inj (hopen.symm.trans h)).symm)
          (.inl (.opening sample payload text hclaim hsource hfifo htoken hpayload hopen))
        simpa [outcome_bind, outcome_ofExcept, postvalRequire, htoken, hpayload, hopen] using h
      | ok =>
        have h := closing_end ⟨hclaim, hsource, hfifo, htoken, hpayload, hopen⟩ hs
        simpa [outcome_bind, outcome_ofExcept, postvalRequire, htoken, hpayload, hopen] using h

/-! ### The record -/

def PostvalState.add (s : PostvalState) (entries : ExecutorResult) : PostvalState :=
  { s with status := s.status ++ entries }

def PostvalState.field (s : PostvalState) (key : String) : Option ResultValue :=
  s.status.reverse.lookup key

theorem field_add (s : PostvalState) (entries : ExecutorResult) (key : String) :
    (s.add entries).field key = (entries.reverse.lookup key).or (s.field key) := by
  simp [PostvalState.field, PostvalState.add, List.lookup_append]

/-- The state at the end of `live`. -/
def PostvalState.recorded (s : PostvalState) : PostvalState := { s with record := some s.status }

/-- The status says that no write was tried. -/
def PostvalState.Denies (s : PostvalState) : Prop :=
  s.field "TRIGGER_WRITE_ATTEMPT_COUNT" = some (.int 0) ∧
    s.field "CONTROL_EXECUTED" = some (.text "NO")

theorem tellsWrites_unwritten {s : PostvalState} (hwrites : s.fifoWrites = []) :
    TellsWrites s.recorded ↔ s.Denies := by
  constructor
  · intro h
    exact h.unwritten hwrites _ rfl
  · intro h
    exact ⟨fun hwritten => absurd hwrites hwritten, fun _ _ heq => Option.some.inj heq ▸ h⟩

theorem tellsWrites_written {s : PostvalState} (hwrites : s.fifoWrites ≠ []) :
    TellsWrites s.recorded ↔ s.field "TRIGGER_WRITE_ATTEMPT_COUNT" ≠ some (.int 0) ∧
      s.field "CONTROL_EXECUTED" ≠ some (.text "NO") := by
  constructor
  · intro h
    exact h.written hwrites _ rfl
  · intro h
    exact ⟨fun _ _ heq => Option.some.inj heq ▸ h, fun hnone => absurd hnone hwrites⟩

/-- What `live` adds to the status on an exception. -/
def failureStatus (text : List ℕ) : ExecutorResult :=
  [("failure_reason", .units text), ("GATE", .text "FAIL_CLOSED_UNKNOWN_NO_REPLAY")] ++
    if carriesAttempted text then
      [("CONTROL_EXECUTED", .text "UNKNOWN_AFTER_WRITE_ATTEMPT_NO_REPLAY"),
        ("TRIGGER_WRITE_ATTEMPT_COUNT", .text "UNKNOWN_NO_REPLAY"),
        ("TRIGGER_WRITE_SUCCESS_COUNT", .text "UNKNOWN_NO_REPLAY")]
    else []

theorem outcome_liveFailure (text : List ℕ) (s : PostvalState) :
    outcome (liveFailure text) s = (.error text, s.add (failureStatus text)) := by
  unfold liveFailure failureStatus
  by_cases hcarries : carriesAttempted text
  · simp [hcarries, outcome_bind, updateStatus, PostvalState.add]
  · simp [hcarries, outcome_bind, updateStatus, PostvalState.add]

theorem denies_failure {s : PostvalState} {text : List ℕ} (hs : s.Denies) :
    (s.add (failureStatus text)).Denies ↔ carriesAttempted text = false := by
  unfold PostvalState.Denies
  rw [field_add, field_add, hs.1, hs.2]
  cases hcarries : carriesAttempted text with
  | false => simp [failureStatus, hcarries, List.lookup_cons]
  | true => simp [failureStatus, hcarries, List.lookup_cons]

theorem admits_failure {s : PostvalState} {text : List ℕ} (hs : s.Denies) :
    ((s.add (failureStatus text)).field "TRIGGER_WRITE_ATTEMPT_COUNT" ≠ some (.int 0) ∧
      (s.add (failureStatus text)).field "CONTROL_EXECUTED" ≠ some (.text "NO")) ↔
        carriesAttempted text = true := by
  rw [field_add, field_add, hs.1, hs.2]
  cases hcarries : carriesAttempted text with
  | false => simp [failureStatus, hcarries, List.lookup_cons]
  | true => simp [failureStatus, hcarries, List.lookup_cons]

/-- The status in front of the `try` of `live`. -/
def claimedState (o : PostvalSurroundings) : PostvalState := ⟨initialStatus o, false, [], none⟩

theorem outcome_updateStatus (entries : ExecutorResult) (s : PostvalState) :
    outcome (updateStatus entries) s = (.ok ⟨⟩, s.add entries) := rfl

theorem postvalLive_end (hclaim : o.claim = .ok ()) :
    (postvalLive o).2 =
      (outcome (tryCatch (liveTrigger o) liveFailure) (claimedState o)).2.recorded := by
  have hrecord (s : PostvalState) : outcome recordOutcome s = (.ok ⟨⟩, s.recorded) := rfl
  have hinit : PostvalState.add ⟨[], false, [], none⟩ (initialStatus o) = claimedState o := rfl
  unfold postvalLive live
  rw [outcome_bind, hclaim, outcome_ofExcept]
  simp only [outcome_bind, outcome_updateStatus, outcome_finally, hrecord, hinit]

/-- The status in front of `fifo_once`. -/
def sampledState (o : PostvalSurroundings) (sample : TailSample) : PostvalState :=
  (claimedState o).add [("sample", .json sample.record),
    ("readback_window_start_utc", .units o.readbackWindowStart),
    ("trigger_dispatch_attempted", yesNo true)]

theorem sampled_eq : (claimedState o).add [("sample", .json sample.record),
    ("readback_window_start_utc", .units o.readbackWindowStart),
    ("trigger_dispatch_attempted", yesNo true)] = sampledState o sample := rfl

theorem denies_claimed : (claimedState o).Denies := ⟨rfl, rfl⟩

theorem denies_sampled : (sampledState o sample).Denies := ⟨rfl, rfl⟩

theorem denies_stateWritten {s : PostvalState} (hs : s.Denies) : (s.written payload).Denies := hs

theorem postvalLive_source_error {text : List ℕ} (hclaim : o.claim = .ok ())
    (hsource : o.source = .error text) :
    (postvalLive o).2 = ((claimedState o).add (failureStatus text)).recorded := by
  have htrigger : outcome (liveTrigger o) (claimedState o) = (.error text, claimedState o) := by
    unfold liveTrigger
    rw [outcome_bind, hsource, outcome_ofExcept]
  rw [postvalLive_end hclaim, outcome_tryCatch, htrigger]
  simp only [outcome_liveFailure]

theorem postvalLive_fifo_error {text : List ℕ} {s : PostvalState} (hclaim : o.claim = .ok ())
    (hsource : o.source = .ok sample)
    (hfifo : outcome (fifoOnce o sample) (sampledState o sample) = (.error text, s)) :
    (postvalLive o).2 = (s.add (failureStatus text)).recorded := by
  have htrigger : outcome (liveTrigger o) (claimedState o) = (.error text, s) := by
    unfold liveTrigger
    rw [outcome_bind, hsource, outcome_ofExcept]
    simp only [outcome_bind, outcome_updateStatus, sampled_eq, hfifo]
  rw [postvalLive_end hclaim, outcome_tryCatch, htrigger]
  simp only [outcome_liveFailure]

/-- What `live` adds behind a complete write. -/
def sentStatus (o : PostvalSurroundings) (sample : TailSample) : ExecutorResult :=
  completionEntries o sample ++ if freshAt o.completedNs sample then
      [("CONTROL_EXECUTED", .text "YES"), ("GATE", .text "PASS_PENDING_READBACK_AND_POSTVAL")]
    else ("CONTROL_EXECUTED", .text "UNKNOWN_NO_REPLAY") ::
      failureStatus (chars "WRITE_COMPLETION_EXPIRED_NO_REPLAY")

theorem postvalLive_sent {s : PostvalState} (hclaim : o.claim = .ok ())
    (hsource : o.source = .ok sample)
    (hfifo : outcome (fifoOnce o sample) (sampledState o sample) =
      (.ok (completionEntries o sample), s)) :
    (postvalLive o).2 = (s.add (sentStatus o sample)).recorded := by
  rw [postvalLive_end hclaim, outcome_tryCatch]
  unfold liveTrigger sentStatus
  rw [outcome_bind, hsource, outcome_ofExcept]
  simp only [outcome_bind, outcome_updateStatus, sampled_eq, hfifo]
  cases hfresh : freshAt o.completedNs sample with
  | false =>
    simp [postvalRequire, outcome_liveFailure, PostvalState.add]
  | true => simp [postvalRequire, PostvalState.add]

theorem field_sent (s : PostvalState) :
    (s.add (sentStatus o sample)).field "TRIGGER_WRITE_ATTEMPT_COUNT" ≠ some (.int 0) ∧
      (s.add (sentStatus o sample)).field "CONTROL_EXECUTED" ≠ some (.text "NO") := by
  have hcarries : carriesAttempted (chars "WRITE_COMPLETION_EXPIRED_NO_REPLAY") = false := by decide
  rw [field_add, field_add]
  cases hfresh : freshAt o.completedNs sample with
  | false =>
    simp [sentStatus, completionEntries, failureStatus, hfresh, hcarries, List.lookup_cons]
  | true => simp [sentStatus, completionEntries, hfresh, List.lookup_cons]

/-! ### When the record is true -/

/-- The texts of the calls outside tell by the reason whether the write was tried. -/
structure TextsTell (o : PostvalSurroundings) : Prop where
  written : ∀ sample payload text, Writes o sample payload → o.closeFifo = .error text →
    carriesAttempted text = true
  stopped : ∀ text, StopsWith o text → carriesAttempted text = false

theorem not_stopsWith_of_writes (hwrites : Writes o sample payload) {text : List ℕ} :
    ¬ StopsWith o text := by
  obtain ⟨⟨hclaim, hsource, hfifo, htoken, hpayload, hopen⟩, hfstat, hfresh⟩ := hwrites
  intro hstops
  cases hstops with
  | source _ _ herror => cases hsource.symm.trans herror
  | check _ _ _ _ herror => cases hfifo.symm.trans herror
  | opening _ _ _ _ _ _ _ _ herror => cases hopen.symm.trans herror
  | fstat _ _ _ _ herror => cases hfstat.symm.trans herror
  | closing sample' payload' _ hopens hnot =>
    obtain rfl := Except.ok.inj (hsource.symm.trans hopens.2.1)
    exact hnot ⟨hopens, hfstat, hfresh⟩

theorem textsTell_of_writes (hwrites : Writes o sample payload) :
    TextsTell o ↔ ∀ text, o.closeFifo = .error text → carriesAttempted text = true := by
  constructor
  · intro h text hclose
    exact h.written sample payload text hwrites hclose
  · intro h
    exact ⟨fun _ _ text _ hclose => h text hclose,
      fun _ hstops => absurd hstops (not_stopsWith_of_writes hwrites)⟩

theorem textsTell_of_not_writes {text : List ℕ} (hwrites : ∀ sample payload, ¬ Writes o sample payload)
    (hunique : ∀ text', StopsWith o text' → text' = text)
    (hstops : StopsWith o text ∨ carriesAttempted text = false) :
    TextsTell o ↔ carriesAttempted text = false := by
  constructor
  · intro h
    rcases hstops with hstops | hcarries
    · exact h.stopped text hstops
    · exact hcarries
  · intro h
    refine ⟨fun sample payload _ hwritten => absurd hwritten (hwrites sample payload), ?_⟩
    intro text' hstops'
    rw [hunique text' hstops']
    exact h

end

/-- The outcome record of the trigger tells the truth about the write exactly where an exception
of the close behind a write carries the reason, and none in front of the write does. -/
theorem postvalLive_tells_iff (o : PostvalSurroundings) :
    TellsWrites (postvalLive o).2 ↔ TextsTell o := by
  cases hclaim : o.claim with
  | error text =>
    have hnot (text' : List ℕ) : ¬ StopsWith o text' := by
      intro hstops
      have hok : o.claim = .ok () := by
        cases hstops with
        | source _ h | check _ _ h | opening _ _ _ h => exact h
        | fstat _ _ _ h | closing _ _ _ h => exact h.1
      cases hclaim.symm.trans hok
    have hend : (postvalLive o).2 = ⟨[], false, [], none⟩ := by
      unfold postvalLive live
      rw [outcome_bind, hclaim, outcome_ofExcept]
    rw [hend]
    constructor
    · intro _
      refine ⟨fun sample payload _ hwrites => ?_, fun text' h => absurd h (hnot text')⟩
      cases hclaim.symm.trans hwrites.1.1
    · intro _
      exact ⟨fun hwritten => absurd rfl hwritten, fun _ _ h => by cases h⟩
  | ok =>
    cases hsource : o.source with
    | error text =>
      rw [postvalLive_source_error hclaim hsource, tellsWrites_unwritten rfl,
        denies_failure denies_claimed]
      refine (textsTell_of_not_writes ?_ ?_ (.inl (.source text hclaim hsource))).symm
      · intro sample payload hwrites
        cases hsource.symm.trans hwrites.1.2.1
      · intro text' hstops
        have herror : o.source = .error text' := by
          cases hstops with
          | source _ _ h => exact h
          | check _ _ _ h | opening _ _ _ _ h => cases hsource.symm.trans h
          | fstat _ _ _ h | closing _ _ _ h => cases hsource.symm.trans h.2.1
        exact (Except.error.inj (hsource.symm.trans herror)).symm
    | ok sample =>
      have hend := fifoOnce_end (s := sampledState o sample) hclaim hsource rfl
      generalize hresult : outcome (fifoOnce o sample) (sampledState o sample) = result at hend
      have hsame {sample' : TailSample} {payload : List UInt8} (h : Writes o sample' payload) :
          sample' = sample := Except.ok.inj (h.1.2.1.symm.trans hsource)
      cases hend with
      | stopped text hwrites hunique hstops =>
        rw [postvalLive_fifo_error hclaim hsource hresult, tellsWrites_unwritten rfl,
          denies_failure denies_sampled]
        refine (textsTell_of_not_writes ?_ hunique hstops).symm
        intro sample' payload h
        obtain rfl := hsame h
        exact hwrites payload h
      | ambiguous payload hwrites hclose =>
        rw [postvalLive_fifo_error hclaim hsource hresult,
          tellsWrites_written (by simp [PostvalState.add, PostvalState.written]),
          admits_failure (denies_stateWritten denies_sampled), textsTell_of_writes hwrites]
        constructor
        · intro _ text herror
          cases hclose.symm.trans herror
        · exact fun _ => by decide
      | unclosed payload text hwrites hclose =>
        rw [postvalLive_fifo_error hclaim hsource hresult,
          tellsWrites_written (by simp [PostvalState.add, PostvalState.written]),
          admits_failure (denies_stateWritten denies_sampled), textsTell_of_writes hwrites]
        constructor
        · intro hcarries text' herror
          obtain rfl := Except.error.inj (hclose.symm.trans herror)
          exact hcarries
        · exact fun h => h text hclose
      | sent payload hwrites hclose =>
        rw [postvalLive_sent hclaim hsource hresult,
          tellsWrites_written (by simp [PostvalState.add, PostvalState.written]),
          textsTell_of_writes hwrites]
        constructor
        · intro _ text herror
          cases hclose.symm.trans herror
        · exact fun _ => field_sent _

/-- A trigger whose write is complete and whose close fails. -/
def unclosedTrigger : PostvalSurroundings where
  operationId := chars "op-1"
  triggerToken := chars "TRIGGER"
  claim := .ok ()
  source := .ok ⟨.null, 1000⟩
  readbackWindowStart := chars "2026-01-01T00:00:00.000000Z"
  fifoIsFifo := .ok true
  openFifo := .ok ()
  fstatIsFifo := .ok true
  gateNs := 2000
  writeFifo := fun payload => .ok payload.length
  completedNs := 3000
  closeFifo := .error (chars "[Errno 5] Input/output error")

/-- The write is complete, and the record says that none was tried. -/
theorem unclosed_trigger_denied :
    (postvalLive unclosedTrigger).2.fifoWrites = [[84, 82, 73, 71, 71, 69, 82, 10]] ∧
      ((postvalLive unclosedTrigger).2.record.map fun status =>
        (status.reverse.lookup "TRIGGER_WRITE_ATTEMPT_COUNT",
          status.reverse.lookup "CONTROL_EXECUTED")) = some (some (.int 0), some (.text "NO")) ∧
      ¬ TellsWrites (postvalLive unclosedTrigger).2 := by
  have hwrites : (postvalLive unclosedTrigger).2.fifoWrites =
      [[84, 82, 73, 71, 71, 69, 82, 10]] := by decide
  refine ⟨hwrites, rfl, ?_⟩
  intro h
  obtain ⟨hcount, -⟩ := h.written (by rw [hwrites]; decide) _ rfl
  exact hcount rfl

end TcdOran.Harness
