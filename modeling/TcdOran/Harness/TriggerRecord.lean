import TcdOran.Harness.TriggerExecutor

/-! When the trigger executor leaves a record of a trigger that it may have written. -/
namespace TcdOran.Harness
open TcdOran.Lib Python Attempt

/-- The fields that `validate_trigger_transition` compares. -/
def triggerTuple (result : ExecutorResult) : List (Option ResultValue) :=
  ["TRIGGER_WRITE_ATTEMPT_COUNT", "TRIGGER_WRITE_SUCCESS_COUNT", "SCIENTIFIC_TRIGGER_CONSUMED",
    "SCIENTIFIC_TRIGGER_REPLAY_DECISION"].map fun key => result.reverse.lookup key

def confirmedTuple : List (Option ResultValue) :=
  [some (.int 1), some (.int 1), some (.text "YES"), some (.text "NEVER_REPEAT")]

def ambiguousTuple : List (Option ResultValue) :=
  [some (.int 1), some (.int 0), some (.text "UNKNOWN"),
    some (.text "NEVER_AUTOMATICALLY_REPLAY")]

section
variable (o : ExecutorSurroundings) (args : ExecutorArgs)

/-- The result file can be created. -/
def Creatable : Prop :=
  o.outputExists = .ok false ∧ o.outputMkdir = .ok () ∧
    ∀ exception, o.outputWrite ≠ .notCreated exception

/-- A trigger that may have been written is recorded, and none is written without a result. -/
structure NeverUnderstates (s : ExecutorState) : Prop where
  recorded : s.fifoWrites ≠ [] → ∃ result, s.output = some result ∧
    (triggerTuple result = confirmedTuple ∨ triggerTuple result = ambiguousTuple)
  gated : ¬ Creatable o → s.fifoWrites = []

/-! ### The condition -/

def SourceAdmitted (members : List (List ℕ × Json)) : Prop :=
  o.sourceIsFile = .ok true ∧ o.source = some (.obj members) ∧ requiredSourcePass members = true

def PolicyAdmitted (members : List (List ℕ × Json)) (timing : SourceTiming) : Prop :=
  sourceTiming members args.maxAgeMs = some timing ∧
    decimalDiffers timing.maxAgeMs timing.requestedMaxAgeMs = some false ∧
    decimalDiffers timing.requestedMaxAgeMs (.finite 800) = some false

/-- The start of the executor is given in the dry run only, as a positive integer. -/
def InjectedAdmitted : Option ℤ → Prop
  | none => args.executorStartUtcNs = none
  | some start => args.mode = .noControl ∧ 0 < start ∧
      ∃ text, args.executorStartUtcNs = some text ∧ intOfText text = some start

def ControlAdmitted : Prop :=
  match args.mode with
  | .noControl => args.fifoPath = none ∧ args.controlAuthorizationToken = none
  | .fifo => args.controlAuthorizationToken = some (chars controlAuthorizationToken) ∧
      args.fifoPath.getD [] ≠ [] ∧ o.fifoStat = .fifo ∧ 10 ∉ args.triggerToken

def StartAdmitted (timing : SourceTiming) (injected : Option ℤ) : Prop :=
  timing.decisionNs ≤ injected.getD o.startNs ∧
    0 ≤ injected.getD o.startNs - timing.latestSampleNs ∧
    injected.getD o.startNs - timing.latestSampleNs ≤ maxAgeNs

/-- Every check in front of the dry run or the trigger passes. -/
def Admitted : Prop :=
  ∃ members, SourceAdmitted o members ∧ ∃ timing, PolicyAdmitted args members timing ∧
    ∃ injected, InjectedAdmitted args injected ∧ ControlAdmitted o args ∧
      StartAdmitted o timing injected

/-- The run gets to the write into the FIFO, with these bytes. -/
def Submits (bytes : List UInt8) : Prop :=
  args.mode = .fifo ∧ Admitted o args ∧ o.openFifo = .ok () ∧ payload args = some bytes

/-- The result file can be written completely. -/
def Recordable : Prop :=
  o.outputExists = .ok false ∧ o.outputMkdir = .ok () ∧ o.outputWrite = .complete

end

/-! ### The checks -/

section
variable {P : ExecutorState → Prop}

theorem decides_orRaise {α : Type} (x : Except String α) :
    Decides P (fun a => x = .ok a) (orRaise x) := by
  cases x with
  | ok a => exact decides_pure rfl
  | error exception => exact decides_throw fun a h => by cases h

theorem decides_orClose {α : Type} (x : Option α) (reason : String) (rc : ℤ) :
    Decides P (fun a => x = some a) (orClose x reason rc) := by
  cases x with
  | some a => exact decides_pure rfl
  | none => exact decides_throw fun a h => by cases h

theorem decides_closeUnless (c : Prop) [Decidable c] (reason : String) (rc : ℤ) :
    Decides P (fun _ => c) (closeUnless c reason rc) := by
  unfold closeUnless
  by_cases h : c
  · rw [if_pos h]
    exact decides_pure h
  · rw [if_neg h]
    exact decides_throw fun _ => h

/-- What the checks keep: they change the result only. -/
def Untouched (s : ExecutorState) : Prop :=
  s.fd = false ∧ s.writeAttemptCount = 0 ∧ s.writeSuccessCount = 0 ∧ s.fifoWrites = [] ∧
    s.output = none

variable {o : ExecutorSurroundings} {args : ExecutorArgs}

theorem decides_update {β : Type} {H : β → Prop} {entries : ExecutorResult}
    {f : PUnit → Executor β} (hf : Decides Untouched H (f ⟨⟩)) :
    Decides Untouched H (update entries >>= f) :=
  Decides.modify (fun _ hs => hs) hf

theorem decides_readSource : Decides Untouched (SourceAdmitted o) (readSource o) := by
  unfold readSource
  apply (decides_orRaise o.sourceIsFile).bind
  case hnone => exact fun h members hm => h true hm.1
  intro isFile hisFile
  apply (decides_closeUnless (isFile = true) _ _).bind
  case hnone => exact fun h members hm => h ⟨⟩ (Except.ok.inj (hisFile.symm.trans hm.1))
  intro _ htrue
  apply (decides_orClose o.source _ _).bind
  case hnone => exact fun h members hm => h _ hm.2.1
  intro source hsource
  apply (decides_orRaise _).bind
  case hnone =>
    intro h members hm
    have hobj := Option.some.inj (hsource.symm.trans hm.2.1)
    subst hobj
    exact h members rfl
  intro members hmembers
  have hobj : source = .obj members := by
    cases source with
    | obj members' => exact congrArg Json.obj (Except.ok.inj hmembers)
    | null | bool | num | str | arr => cases hmembers
  apply decides_update
  apply (decides_closeUnless _ _ _).bind
  case hnone =>
    intro h members' hm
    have hsame := Option.some.inj (hsource.symm.trans hm.2.1)
    rw [hobj] at hsame
    obtain rfl := Json.obj.inj hsame
    exact h ⟨⟩ hm.2.2
  intro _ hpass
  apply decides_pure
  exact ⟨hisFile.trans (congrArg _ htrue), hsource.trans (congrArg _ hobj), hpass⟩

theorem decides_decimalsDiffer (left right : PyDecimal) :
    Decides Untouched (fun differ => decimalDiffers left right = some differ)
      (decimalsDiffer left right) := by
  unfold decimalsDiffer
  cases decimalDiffers left right with
  | some differ => exact decides_pure rfl
  | none => exact decides_throw fun _ h => by cases h

theorem decides_checkAgePolicy (members : List (List ℕ × Json)) :
    Decides Untouched (PolicyAdmitted args members) (checkAgePolicy args members) := by
  unfold checkAgePolicy
  apply (decides_orClose _ _ _).bind
  case hnone => exact fun h timing ht => h timing ht.1
  intro timing htiming
  have hsame {timing' : SourceTiming} (h : PolicyAdmitted args members timing') :
      timing' = timing := Option.some.inj (h.1.symm.trans htiming)
  apply (decides_decimalsDiffer _ _).bind
  case hnone =>
    intro h timing' ht
    obtain rfl := hsame ht
    exact h false ht.2.1
  intro mismatch hmismatch
  apply (decides_closeUnless _ _ _).bind
  case hnone =>
    intro h timing' ht
    obtain rfl := hsame ht
    exact h ⟨⟩ (Option.some.inj (hmismatch.symm.trans ht.2.1))
  intro _ hequal
  apply (decides_decimalsDiffer _ _).bind
  case hnone =>
    intro h timing' ht
    obtain rfl := hsame ht
    exact h false ht.2.2
  intro nonFrozen hnonFrozen
  apply (decides_closeUnless _ _ _).bind
  case hnone =>
    intro h timing' ht
    obtain rfl := hsame ht
    exact h ⟨⟩ (Option.some.inj (hnonFrozen.symm.trans ht.2.2))
  intro _ hfrozen
  apply decides_pure
  subst hequal hfrozen
  exact ⟨htiming, hmismatch, hnonFrozen⟩

theorem decides_injectedStart :
    Decides Untouched (InjectedAdmitted args) (injectedStart args) := by
  unfold injectedStart
  cases hstart : args.executorStartUtcNs with
  | none => exact decides_pure hstart
  | some text =>
    have hgiven {injected : Option ℤ} (h : InjectedAdmitted args injected) :
        args.mode = .noControl ∧ ∃ start, injected = some start ∧ 0 < start ∧
          intOfText text = some start := by
      match injected with
      | none =>
        rw [InjectedAdmitted, hstart] at h
        cases h
      | some start =>
        obtain ⟨hmode, hpos, text', htext, hint⟩ := h
        obtain rfl := Option.some.inj (hstart.symm.trans htext)
        exact ⟨hmode, start, rfl, hpos, hint⟩
    apply (decides_closeUnless _ _ _).bind
    case hnone => exact fun h _ hi => h ⟨⟩ (hgiven hi).1
    intro _ hmode
    apply (decides_orClose _ _ _).bind
    case hnone =>
      intro h _ hi
      obtain ⟨-, start, -, -, hint⟩ := hgiven hi
      exact h start hint
    intro start hint
    apply (decides_closeUnless _ _ _).bind
    case hnone =>
      intro h _ hi
      obtain ⟨-, start', -, hpos, hint'⟩ := hgiven hi
      obtain rfl := Option.some.inj (hint.symm.trans hint')
      exact h ⟨⟩ hpos
    intro _ hpos
    exact decides_pure ⟨hmode, hpos, text, hstart, hint⟩

theorem injected_unique {injected injected' : Option ℤ} (h : InjectedAdmitted args injected)
    (h' : InjectedAdmitted args injected') : injected = injected' := by
  match injected, injected' with
  | none, none => rfl
  | none, some start =>
    obtain ⟨-, -, text, htext, -⟩ := h'
    cases h.symm.trans htext
  | some start, none =>
    obtain ⟨-, -, text, htext, -⟩ := h
    cases h'.symm.trans htext
  | some start, some start' =>
    obtain ⟨-, -, text, htext, hint⟩ := h
    obtain ⟨-, -, text', htext', hint'⟩ := h'
    obtain rfl := Option.some.inj (htext.symm.trans htext')
    exact hint.symm.trans hint'

theorem decides_statFifo :
    Decides Untouched (fun isFifo => isFifo = true ∧ o.fifoStat = .fifo ∨
      isFifo = false ∧ o.fifoStat = .notFifo) (statFifo o) := by
  unfold statFifo
  cases o.fifoStat with
  | fifo => exact decides_pure (.inl ⟨rfl, rfl⟩)
  | notFifo => exact decides_pure (.inr ⟨rfl, rfl⟩)
  | osError | raises => exact decides_throw (by simp)

theorem decides_checkControlArguments :
    Decides Untouched (fun _ => ControlAdmitted o args) (checkControlArguments o args) := by
  unfold checkControlArguments ControlAdmitted
  cases args.mode with
  | noControl => exact decides_closeUnless _ _ _
  | fifo =>
    apply (decides_closeUnless _ _ _).bind
    case hnone => exact fun h _ hc => h ⟨⟩ hc.1
    intro _ htoken
    apply (decides_closeUnless _ _ _).bind
    case hnone => exact fun h _ hc => h ⟨⟩ hc.2.1
    intro _ hpath
    apply decides_statFifo.bind
    case hnone => exact fun h _ hc => h true (.inl ⟨rfl, hc.2.2.1⟩)
    intro isFifo hfifo
    apply (decides_closeUnless _ _ _).bind
    case hnone =>
      intro h _ hc
      rcases hfifo with ⟨htrue, -⟩ | ⟨-, hother⟩
      · exact h ⟨⟩ htrue
      · rw [hc.2.2.1] at hother
        cases hother
    intro _ htrue
    have hstat : o.fifoStat = .fifo := by
      rcases hfifo with ⟨-, hstat⟩ | ⟨hfalse, -⟩
      · exact hstat
      · rw [htrue] at hfalse
        cases hfalse
    apply Triple.conseq (decides_closeUnless _ _ _) fun _ hs => hs
    · exact fun _ s hs => ⟨hs.1, htoken, hpath, hstat, hs.2⟩
    · exact fun _ s hs => ⟨hs.1, fun _ hc => hs.2 ⟨⟩ hc.2.2.2⟩

theorem decides_checkStart (timing : SourceTiming) (injected : Option ℤ) :
    Decides Untouched (fun _ => StartAdmitted o timing injected)
      (checkStart o timing injected) := by
  unfold checkStart StartAdmitted
  simp only
  generalize injected.getD o.startNs = startNs
  apply decides_update
  by_cases hdecision : startNs < timing.decisionNs
  · rw [if_pos hdecision]
    apply decides_update
    exact decides_throw fun _ h => absurd h.1 (not_le.mpr hdecision)
  rw [if_neg hdecision]
  apply decides_update
  by_cases hage : startNs - timing.latestSampleNs < 0 ∨
      maxAgeNs < startNs - timing.latestSampleNs
  · rw [if_pos hage]
    apply decides_update
    apply decides_throw
    rintro _ ⟨-, hlow, hhigh⟩
    rcases hage with hage | hage
    · exact absurd hlow (not_le.mpr hage)
    · exact absurd hhigh (not_le.mpr hage)
  · rw [if_neg hage]
    obtain ⟨hlow, hhigh⟩ := not_or.mp hage
    exact triple_modify fun _ hs =>
      ⟨hs, not_lt.mp hdecision, not_lt.mp hlow, not_lt.mp hhigh⟩

/-- The checks pass exactly on an admitted run, and change the result only. -/
theorem decides_gates : Decides Untouched (fun _ => Admitted o args) (checkGates o args) := by
  unfold checkGates
  apply decides_readSource.bind
  case hnone => exact fun h _ ⟨members, hm, _⟩ => h members hm
  intro members hmembers
  have hsame {members' : List (List ℕ × Json)} (h : SourceAdmitted o members') :
      members' = members := Json.obj.inj (Option.some.inj (h.2.1.symm.trans hmembers.2.1))
  apply (decides_checkAgePolicy members).bind
  case hnone =>
    rintro h _ ⟨members', hm, timing, ht, _⟩
    obtain rfl := hsame hm
    exact h timing ht
  intro timing htiming
  apply decides_injectedStart.bind
  case hnone => exact fun h _ ⟨_, _, _, _, injected, hi, _⟩ => h injected hi
  intro injected hinjected
  apply decides_checkControlArguments.bind
  case hnone => exact fun h _ ⟨_, _, _, _, _, _, hcontrol, _⟩ => h ⟨⟩ hcontrol
  intro _ hcontrol
  apply Triple.conseq (decides_checkStart timing injected) fun _ hs => hs
  · exact fun _ s hs =>
      ⟨hs.1, members, hmembers, timing, htiming, injected, hinjected, hcontrol, hs.2⟩
  · rintro _ s ⟨hs, hnone⟩
    refine ⟨hs, ?_⟩
    rintro _ ⟨members', hm, timing', ht, injected', hi, -, hadmitted⟩
    obtain rfl := hsame hm
    obtain rfl := Option.some.inj (ht.1.symm.trans htiming.1)
    obtain rfl := injected_unique hi hinjected
    exact hnone ⟨⟩ hadmitted

/-! ### The record -/

/-- The state behind `write_result`. -/
def afterWrite (o : ExecutorSurroundings) (s : ExecutorState) : ExecutorState :=
  match o.outputExists, o.outputMkdir, o.outputWrite with
  | .ok false, .ok (), .complete => { s with output := some s.result }
  | _, _, _ => s

theorem afterWrite_recordable (h : Recordable o) (s : ExecutorState) :
    afterWrite o s = { s with output := some s.result } := by
  obtain ⟨hexists, hmkdir, hwrite⟩ := h
  simp only [afterWrite, hexists, hmkdir, hwrite]

theorem afterWrite_not_recordable (h : ¬ Recordable o) (s : ExecutorState) :
    afterWrite o s = s := by
  unfold afterWrite
  split
  · next hexists hmkdir hwrite => exact absurd ⟨hexists, hmkdir, hwrite⟩ h
  · rfl

theorem fifoWrites_afterWrite (s : ExecutorState) :
    (afterWrite o s).fifoWrites = s.fifoWrites := by
  unfold afterWrite
  split <;> rfl

theorem fd_afterWrite (s : ExecutorState) : (afterWrite o s).fd = s.fd := by
  unfold afterWrite
  split <;> rfl

/-- An answer, or an exception that is no early return. -/
def NotEarly {α : Type} : Except ExecutorExit α → Prop
  | .error (.failClosed _ _) => False
  | .ok _ | .error (.raised _) => True

theorem writeResult_end (s : ExecutorState) :
    ∃ r, outcome (writeResult o) s = (r, afterWrite o s) ∧ NotEarly r := by
  unfold writeResult
  rcases hexists : o.outputExists with exception | _ | _
  · have h : ¬ Recordable o := by simp [Recordable, hexists]
    rw [afterWrite_not_recordable h]
    exact ⟨_, rfl, trivial⟩
  · rcases hmkdir : o.outputMkdir with exception | _
    · have h : ¬ Recordable o := by simp [Recordable, hmkdir]
      rw [afterWrite_not_recordable h]
      exact ⟨_, rfl, trivial⟩
    · cases hwrite : o.outputWrite with
      | complete =>
        rw [afterWrite_recordable ⟨hexists, hmkdir, hwrite⟩]
        cases o.print with
        | error exception => exact ⟨_, rfl, trivial⟩
        | ok => exact ⟨_, rfl, trivial⟩
      | notCreated exception | incomplete exception =>
        have h : ¬ Recordable o := by simp [Recordable, hwrite]
        rw [afterWrite_not_recordable h]
        exact ⟨_, rfl, trivial⟩
  · have h : ¬ Recordable o := by simp [Recordable, hexists]
    rw [afterWrite_not_recordable h]
    exact ⟨_, rfl, trivial⟩

/-- The ends of the part under `try`. -/
inductive SubmitEnd (o : ExecutorSurroundings) (args : ExecutorArgs) (s : ExecutorState) :
    Except ExecutorExit PUnit × ExecutorState → Prop
  | unsent (exception : String) (fd : Bool) :
      (∀ bytes, ¬ (o.openFifo = .ok () ∧ payload args = some bytes)) →
      SubmitEnd o args s (.error (.raised exception), { s with fd := fd })
  | ambiguous (exception : String) (bytes : List UInt8) : o.openFifo = .ok () →
      payload args = some bytes → o.writeFifo bytes ≠ .ok bytes.length →
      SubmitEnd o args s (.error (.raised exception), { s with
        fd := true
        writeAttemptCount := 1
        fifoWrites := s.fifoWrites ++ [bytes] })
  | complete (bytes : List UInt8) : o.openFifo = .ok () → payload args = some bytes →
      o.writeFifo bytes = .ok bytes.length →
      SubmitEnd o args s (.ok ⟨⟩, { s with
        fd := true
        writeAttemptCount := 1
        writeSuccessCount := 1
        fifoWrites := s.fifoWrites ++ [bytes] })

theorem submit_end (s : ExecutorState) : SubmitEnd o args s (outcome (submit o args) s) := by
  unfold submit
  cases hopen : o.openFifo with
  | error exception => exact .unsent exception s.fd (by simp [hopen])
  | ok =>
    cases hpayload : payload args with
    | none => exact .unsent "UnicodeEncodeError" true (by simp [hpayload])
    | some bytes =>
      cases hwrite : o.writeFifo bytes with
      | error exception =>
        have h := SubmitEnd.ambiguous (s := s) exception bytes hopen hpayload (by simp [hwrite])
        simpa [outcome_bind, hwrite, writeFifo, orRaise, raised] using h
      | ok written =>
        by_cases hlength : written = bytes.length
        · subst hlength
          have h := SubmitEnd.complete (s := s) bytes hopen hpayload hwrite
          simpa [outcome_bind, hwrite, writeFifo, orRaise] using h
        · have h := SubmitEnd.ambiguous (s := s) "RuntimeError" bytes hopen hpayload
            (by simp [hwrite, hlength])
          simpa [outcome_bind, hwrite, hlength, writeFifo, orRaise, raised] using h

theorem recordFailure_end (e : ExecutorExit) (s : ExecutorState) :
    ∃ r, outcome (recordFailure o e) s =
      (r, afterWrite o { s with result := s.result ++ failureEntries s e }) ∧ NotEarly r := by
  obtain ⟨r, hr, hearly⟩ := writeResult_end (o := o)
    { s with result := s.result ++ failureEntries s e }
  unfold recordFailure
  rw [outcome_bind, outcome_get]
  simp only
  rw [outcome_bind, update, outcome_modify]
  simp only
  rw [outcome_bind, hr]
  match r with
  | .ok _ => exact ⟨.ok 40, rfl, trivial⟩
  | .error (.raised exception) => exact ⟨.error (.raised exception), rfl, trivial⟩

theorem recordSuccess_end (s : ExecutorState) :
    ∃ r, outcome (recordSuccess o) s =
      (r, afterWrite o { s with result := s.result ++ successEntries o }) ∧ NotEarly r := by
  obtain ⟨r, hr, hearly⟩ := writeResult_end (o := o)
    { s with result := s.result ++ successEntries o }
  unfold recordSuccess
  rw [outcome_bind, update, outcome_modify]
  simp only
  rw [outcome_bind, hr]
  match r with
  | .ok _ => exact ⟨.ok 0, rfl, trivial⟩
  | .error (.raised exception) => exact ⟨.error (.raised exception), rfl, trivial⟩

theorem closeFifo_end (s : ExecutorState) :
    ∃ r, outcome (closeFifo o) s = (r, s) ∧ NotEarly r ∧
      (s.fd = true → (r = .ok ⟨⟩ ↔ o.closeFifo = .ok ())) := by
  unfold closeFifo
  rw [outcome_bind, outcome_get]
  simp only
  cases hfd : s.fd with
  | false => exact ⟨.ok ⟨⟩, rfl, trivial, by simp⟩
  | true =>
    cases hclose : o.closeFifo with
    | ok => exact ⟨.ok ⟨⟩, rfl, trivial, by simp⟩
    | error exception => exact ⟨.error (.raised exception), rfl, trivial, by simp⟩

/-- The `finally` branch and what follows it, behind the end of the part under `try`. -/
def finish (o : ExecutorSurroundings) (body : Executor (Option ℤ)) : Executor ℤ := do
  match ← tryFinally body (closeFifo o) with
  | some rc => return rc
  | none => recordSuccess o

theorem finish_recorded {body : Executor (Option ℤ)} {s t : ExecutorState}
    {r : Except ExecutorExit ℤ} (hbody : outcome body s = (r.map some, t)) (hr : NotEarly r) :
    ∃ r', outcome (finish o body) s = (r', t) ∧ NotEarly r' := by
  obtain ⟨rc, hclose, hearly, -⟩ := closeFifo_end (o := o) t
  unfold finish
  rw [outcome_bind, outcome_finally, hbody]
  simp only
  rw [hclose]
  match rc, hearly with
  | .error (.raised exception), _ => exact ⟨.error (.raised exception), rfl, trivial⟩
  | .ok _, _ =>
    match r, hr with
    | .ok code, _ => exact ⟨.ok code, rfl, trivial⟩
    | .error (.raised exception), _ => exact ⟨.error (.raised exception), rfl, trivial⟩

theorem finish_sent {body : Executor (Option ℤ)} {s t : ExecutorState}
    (hbody : outcome body s = (.ok none, t)) (hfd : t.fd = true) :
    (o.closeFifo = .ok () ∧ outcome (finish o body) s = outcome (recordSuccess o) t) ∨
      (o.closeFifo ≠ .ok () ∧
        ∃ exception, outcome (finish o body) s = (.error (.raised exception), t)) := by
  obtain ⟨rc, hclose, hearly, hok⟩ := closeFifo_end (o := o) t
  unfold finish
  rw [outcome_bind, outcome_finally, hbody]
  simp only
  rw [hclose]
  match rc, hearly with
  | .error (.raised exception), _ =>
    exact .inr ⟨fun h => by simpa using (hok hfd).mpr h, exception, rfl⟩
  | .ok ⟨⟩, _ => exact .inl ⟨(hok hfd).mp rfl, rfl⟩

/-- The record of a trigger that may have been written. -/
def Recorded (s : ExecutorState) : Prop :=
  ∃ result, s.output = some result ∧
    (triggerTuple result = confirmedTuple ∨ triggerTuple result = ambiguousTuple)

theorem triggerTuple_success (result : ExecutorResult) :
    triggerTuple (result ++ successEntries o) = confirmedTuple := by
  simp only [triggerTuple, List.reverse_append]
  rfl

theorem triggerTuple_failure {s : ExecutorState} (hattempt : s.writeAttemptCount = 1)
    (hsuccess : s.writeSuccessCount = 0) (e : ExecutorExit) :
    triggerTuple (s.result ++ failureEntries s e) = ambiguousTuple := by
  simp only [triggerTuple, failureEntries, hattempt, hsuccess, List.reverse_append]
  rfl

theorem recorded_afterWrite {s : ExecutorState} (houtput : s.output = none)
    (htuple : triggerTuple s.result = confirmedTuple ∨ triggerTuple s.result = ambiguousTuple) :
    Recorded (afterWrite o s) ↔ Recordable o := by
  constructor
  · rintro ⟨result, hresult, -⟩
    by_contra h
    rw [afterWrite_not_recordable h, houtput] at hresult
    cases hresult
  · intro h
    rw [afterWrite_recordable h]
    exact ⟨s.result, rfl, htuple⟩

/-- The part behind the age gate: what it writes into the FIFO, and when that is recorded. -/
structure TriggerEnd (o : ExecutorSurroundings) (args : ExecutorArgs) (s : ExecutorState) :
    Prop where
  unsent : (∀ bytes, ¬ (o.openFifo = .ok () ∧ payload args = some bytes)) → s.fifoWrites = []
  sent : ∀ bytes, o.openFifo = .ok () → payload args = some bytes → s.fifoWrites = [bytes] ∧
    (Recorded s ↔ Recordable o ∧
      (o.writeFifo bytes = .ok bytes.length → o.closeFifo = .ok ()))

theorem trigger_end {s : ExecutorState} (hs : Untouched s) :
    TriggerEnd o args (outcome (trigger o args) s).2 ∧
      NotEarly (outcome (trigger o args) s).1 := by
  obtain ⟨hfd, hattempt, hsuccess, hwrites, houtput⟩ := hs
  have htrigger : trigger o args = (do
      update [("TRIGGER_EXECUTOR_START_UTC_NS", .int o.triggerStartNs)]
      finish o (tryCatch (do submit o args; return none) fun e => some <$> recordFailure o e)) :=
    rfl
  rw [htrigger, outcome_bind, update, outcome_modify]
  simp only
  generalize hs' : ({ s with result := s.result ++ [("TRIGGER_EXECUTOR_START_UTC_NS",
    .int o.triggerStartNs)] } : ExecutorState) = s'
  have hwrites' : s'.fifoWrites = [] := by rw [← hs']; exact hwrites
  have houtput' : s'.output = none := by rw [← hs']; exact houtput
  have hsuccess' : s'.writeSuccessCount = 0 := by rw [← hs']; exact hsuccess
  have hsubmit := @submit_end o args s'
  have hbody : outcome (tryCatch (do submit o args; return none)
      fun e => some <$> recordFailure o e) s' =
      match outcome (submit o args) s' with
      | (.ok _, t) => (.ok none, t)
      | (.error e, t) => outcome (some <$> recordFailure o e) t := by
    rw [outcome_tryCatch, outcome_bind]
    rcases outcome (submit o args) s' with ⟨_ | _, t⟩ <;> rfl
  generalize outcome (submit o args) s' = end' at hsubmit hbody
  cases hsubmit with
  | unsent exception fd hunsent =>
    obtain ⟨r, hr, hearly⟩ := recordFailure_end (o := o) (.raised exception) { s' with fd := fd }
    simp only at hbody
    rw [outcome_map, hr] at hbody
    obtain ⟨r', hfinish, hearly'⟩ := finish_recorded (o := o) hbody hearly
    rw [hfinish]
    refine ⟨⟨fun _ => ?_, fun bytes hopen hpayload => ?_⟩, hearly'⟩
    · exact (fifoWrites_afterWrite _).trans hwrites'
    · exact absurd ⟨hopen, hpayload⟩ (hunsent bytes)
  | ambiguous exception bytes hopen hpayload hwrite =>
    generalize ht : ({ s' with
      fd := true
      writeAttemptCount := 1
      fifoWrites := s'.fifoWrites ++ [bytes] } : ExecutorState) = t at hbody
    obtain ⟨r, hr, hearly⟩ := recordFailure_end (o := o) (.raised exception) t
    simp only at hbody
    rw [outcome_map, hr] at hbody
    obtain ⟨r', hfinish, hearly'⟩ := finish_recorded (o := o) hbody hearly
    rw [hfinish]
    refine ⟨⟨fun h => absurd ⟨hopen, hpayload⟩ (h bytes), fun bytes' _ hpayload' => ?_⟩, hearly'⟩
    obtain rfl := Option.some.inj (hpayload.symm.trans hpayload')
    constructor
    · rw [fifoWrites_afterWrite, ← ht, hwrites']
      rfl
    · rw [recorded_afterWrite]
      · exact ⟨fun h => ⟨h, fun h' => absurd h' hwrite⟩, fun h => h.1⟩
      · rw [← ht]
        exact houtput'
      · right
        apply triggerTuple_failure
        · rw [← ht]
        · rw [← ht]
          exact hsuccess'
  | complete bytes hopen hpayload hwrite =>
    generalize ht : ({ s' with
      fd := true
      writeAttemptCount := 1
      writeSuccessCount := 1
      fifoWrites := s'.fifoWrites ++ [bytes] } : ExecutorState) = t at hbody
    have hfd' : t.fd = true := by rw [← ht]
    have hwritesT : t.fifoWrites = [bytes] := by
      rw [← ht, hwrites']
      rfl
    have houtputT : t.output = none := by
      rw [← ht]
      exact houtput'
    have hend (u : ExecutorState) (hwritesU : u.fifoWrites = [bytes])
        (hrecorded : Recorded u ↔ Recordable o ∧ o.closeFifo = .ok ()) : TriggerEnd o args u := by
      refine ⟨fun h => absurd ⟨hopen, hpayload⟩ (h bytes), fun bytes' _ hpayload' => ?_⟩
      obtain rfl := Option.some.inj (hpayload.symm.trans hpayload')
      exact ⟨hwritesU, hrecorded.trans ⟨fun h => ⟨h.1, fun _ => h.2⟩, fun h => ⟨h.1, h.2 hwrite⟩⟩⟩
    rcases finish_sent (o := o) hbody hfd' with ⟨hclose, hfinish⟩ | ⟨hclose, exception, hfinish⟩
    · obtain ⟨r, hr, hearly⟩ := recordSuccess_end (o := o) t
      rw [hfinish, hr]
      refine ⟨hend _ ((fifoWrites_afterWrite _).trans hwritesT) ?_, hearly⟩
      rw [recorded_afterWrite]
      · exact ⟨fun h => ⟨h, hclose⟩, fun h => h.1⟩
      · exact houtputT
      · exact .inl (triggerTuple_success _)
    · rw [hfinish]
      refine ⟨hend t hwritesT (iff_of_false ?_ fun h => hclose h.2), trivial⟩
      rintro ⟨result, hresult, -⟩
      rw [houtputT] at hresult
      cases hresult

/-- Neither `fail_closed` nor the dry run writes into the FIFO. -/
theorem failClosedResult_end (e : ExecutorExit) (s : ExecutorState) :
    (outcome (failClosedResult o e) s).2.fifoWrites = s.fifoWrites := by
  cases e with
  | raised exception => rfl
  | failClosed reason rc =>
    unfold failClosedResult
    simp only
    rw [outcome_bind, update, outcome_modify]
    simp only
    generalize ht : ({ s with result := _ } : ExecutorState) = t
    obtain ⟨r, hr, -⟩ := writeResult_end (o := o) t
    rw [outcome_bind, hr]
    have hwrites : (afterWrite o t).fifoWrites = s.fifoWrites := by
      rw [fifoWrites_afterWrite, ← ht]
    cases r with
    | ok => exact hwrites
    | error exit => exact hwrites

theorem dryRun_end (s : ExecutorState) :
    (outcome (dryRun o) s).2.fifoWrites = s.fifoWrites ∧ NotEarly (outcome (dryRun o) s).1 := by
  unfold dryRun
  rw [outcome_bind, update, outcome_modify]
  simp only
  generalize ht : ({ s with result := _ } : ExecutorState) = t
  obtain ⟨r, hr, hearly⟩ := writeResult_end (o := o) t
  rw [outcome_bind, hr]
  have hwrites : (afterWrite o t).fifoWrites = s.fifoWrites := by
    rw [fifoWrites_afterWrite, ← ht]
  match r with
  | .ok _ => exact ⟨hwrites, trivial⟩
  | .error (.raised _) => exact ⟨hwrites, trivial⟩

/-- Behind the checks the handler of the early returns changes nothing. -/
theorem handler_notEarly {x : Executor ℤ} {s : ExecutorState}
    (hearly : NotEarly (outcome x s).1) :
    (outcome (tryCatch x (failClosedResult o)) s).2 = (outcome x s).2 := by
  rw [outcome_tryCatch]
  rcases houtcome : outcome x s with ⟨e | _, t⟩
  · rw [houtcome] at hearly
    cases e with
    | failClosed reason rc => exact hearly.elim
    | raised exception => rfl
  · rfl

theorem Recordable.creatable (h : Recordable o) : Creatable o :=
  ⟨h.1, h.2.1, fun exception hwrite => by rw [h.2.2] at hwrite; cases hwrite⟩

/-- The state at the end, by the end of the checks. -/
theorem executorMain_end : (executorMain o args).2 =
    match outcome (checkGates o args) (executorStart args) with
    | (.error e, s) => (outcome (failClosedResult o e) s).2
    | (.ok _, s) => (outcome (tryCatch (match args.mode with
        | .noControl => dryRun o
        | .fifo => trigger o args) (failClosedResult o)) s).2 := by
  unfold executorMain runExecutor
  rw [outcome_tryCatch, outcome_bind]
  rcases outcome (checkGates o args) (executorStart args) with ⟨_ | _, s⟩
  · rfl
  · cases args.mode <;> exact congrArg Prod.snd (outcome_tryCatch _ _ _).symm

/-- Every trigger that may have been written is recorded, and none is written without a result
file, exactly where a run that gets to the write can write the result, and can close the FIFO if
the write was complete. -/
theorem executor_never_understates_iff (o : ExecutorSurroundings) (args : ExecutorArgs) :
    NeverUnderstates o (executorMain o args).2 ↔ ∀ bytes, Submits o args bytes →
      Recordable o ∧ (o.writeFifo bytes = .ok bytes.length → o.closeFifo = .ok ()) := by
  have hunsent (hwrites : (executorMain o args).2.fifoWrites = [])
      (hsubmits : ∀ bytes, ¬ Submits o args bytes) :
      NeverUnderstates o (executorMain o args).2 ↔ ∀ bytes, Submits o args bytes →
        Recordable o ∧ (o.writeFifo bytes = .ok bytes.length → o.closeFifo = .ok ()) :=
    iff_of_true ⟨fun h => absurd hwrites h, fun _ => hwrites⟩
      fun bytes h => absurd h (hsubmits bytes)
  have hadmit := @decides_gates o args (executorStart args)
    ⟨rfl, rfl, rfl, rfl, rfl⟩
  have hmain := @executorMain_end o args
  rcases houtcome : outcome (checkGates o args) (executorStart args) with ⟨e | _, s⟩
  · rw [houtcome] at hadmit hmain
    obtain ⟨⟨-, -, -, hwrites, -⟩, hnot⟩ := hadmit
    apply hunsent
    · rw [hmain]
      exact (failClosedResult_end e s).trans hwrites
    · exact fun bytes h => hnot ⟨⟩ h.2.1
  · rw [houtcome] at hadmit hmain
    obtain ⟨hs, hadmitted⟩ := hadmit
    cases hmode : args.mode with
    | noControl =>
      apply hunsent
      · rw [hmain, hmode]
        simp only
        rw [handler_notEarly (dryRun_end s).2, (dryRun_end s).1]
        exact hs.2.2.2.1
      · exact fun bytes h => by cases hmode.symm.trans h.1
    | fifo =>
      obtain ⟨⟨hnone, hsent⟩, hearly⟩ := @trigger_end o args s hs
      have hstate : (executorMain o args).2 = (outcome (trigger o args) s).2 := by
        rw [hmain, hmode]
        exact handler_notEarly hearly
      by_cases hsubmits : ∃ bytes, Submits o args bytes
      · obtain ⟨bytes, hsubmit⟩ := hsubmits
        obtain ⟨hwrites, hrecorded⟩ := hsent bytes hsubmit.2.2.1 hsubmit.2.2.2
        have hnever : NeverUnderstates o (executorMain o args).2 ↔
            Recorded (executorMain o args).2 := by
          rw [hstate]
          constructor
          · intro h
            exact h.recorded (by rw [hwrites]; simp)
          · intro h
            refine ⟨fun _ => h, fun hcreatable => ?_⟩
            exact absurd (hrecorded.mp h).1.creatable hcreatable
        rw [hnever, hstate, hrecorded]
        constructor
        · intro h bytes' hsubmit'
          obtain rfl := Option.some.inj (hsubmit.2.2.2.symm.trans hsubmit'.2.2.2)
          exact h
        · exact fun h => h bytes hsubmit
      · apply hunsent
        · rw [hstate]
          exact hnone fun bytes h => hsubmits ⟨bytes, hmode, hadmitted, h⟩
        · exact fun bytes h => hsubmits ⟨bytes, h⟩

end

/-! A trigger that is written completely while the result path is taken. -/

def sampleSource : Json :=
  .obj [(chars "selection", .str (chars "latest_50_complete_contiguous_samples")),
    (chars "selected_complete_count", .num ⟨false, chars "50", [], none⟩),
    (chars "stationarity_window_binding_gate", .str (chars "PASS")),
    (chars "output_stationarity_gate", .str (chars "PASS")),
    (chars "freshness_gate", .str (chars "PASS")),
    (chars "precontrol_admission_gate", .str (chars "PASS")),
    (chars "latest_sample_timestamp_utc_ns", .num ⟨false, chars "100", [], none⟩),
    (chars "decision_utc_ns", .num ⟨false, chars "200", [], none⟩),
    (chars "maximum_allowed_age_ms", .num ⟨false, chars "800", [], none⟩)]

def takenSurroundings : ExecutorSurroundings where
  sourceIsFile := .ok true
  source := some sampleSource
  fifoStat := .fifo
  startNs := 300
  triggerStartNs := 310
  triggerEndNs := 320
  openFifo := .ok ()
  writeFifo bytes := .ok bytes.length
  closeFifo := .ok ()
  outputExists := .ok true
  outputMkdir := .ok ()
  outputWrite := .complete
  print := .ok ()

def sampleArgs : ExecutorArgs where
  mode := .fifo
  maxAgeMs := chars "800"
  executorStartUtcNs := none
  fifoPath := some (chars "/run/trigger")
  triggerToken := chars "TRIGGER"
  controlAuthorizationToken := some (chars controlAuthorizationToken)

theorem lost_trigger_record :
    ¬ NeverUnderstates takenSurroundings (executorMain takenSurroundings sampleArgs).2 := by
  have hwrites : (executorMain takenSurroundings sampleArgs).2.fifoWrites ≠ [] := by
    decide +kernel
  have houtput : (executorMain takenSurroundings sampleArgs).2.output.isNone = true := by
    decide +kernel
  intro h
  obtain ⟨result, hresult, -⟩ := h.recorded hwrites
  rw [hresult] at houtput
  cases houtput

end TcdOran.Harness
