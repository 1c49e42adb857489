import TcdOran.Lib.Once

/-! The two programs that may fire the T2 trigger, prompt12-t2-critical-section.py and
prompt12-t2-postval-fast-trigger.py, over the files they share. An invocation may crash between
any two steps; its files stay. -/
namespace TcdOran.Harness
open TcdOran.Lib

abbrev InvocationId := ℕ
abbrev RunId := ℕ

inductive T2Protocol
  | critical | postval
  deriving DecidableEq

/-- The files in the control directory of a run. -/
inductive EvidenceFile
  | triggerIntent | criticalOutcome | executor | postvalOutcome | postvalExecutor
  deriving DecidableEq

/-- Where `run_live` of the critical section and `live` of the fast trigger stand. `attempted` is
`trigger_dispatch_attempted` of the outcome. -/
inductive T2Pc
  | verifyRatio | checkEvidence | claimsDirectory | createIntent | storeIntent | createClaim
  | storeClaim
  | precontrol | bindRatio | trigger
  | awaitSample | openFifo | writeFifo
  | createOutcome (attempted : Bool)
  | storeOutcome
  | ended
  deriving DecidableEq

structure Invocation where
  protocol : T2Protocol
  run : RunId
  operation : String
  pc : T2Pc

/-- Which files exist: the evidence of each run and the claims by their file names. -/
structure T2Files where
  evidence : RunId → EvidenceFile → Bool
  claims : String → Bool

structure T2State where
  files : T2Files
  invocations : InvocationId → Option Invocation

def t2Start : T2State where
  files := ⟨fun _ _ => false, fun _ => false⟩
  invocations := fun _ => none

inductive T2Event
  | intentCreated (id : InvocationId) (run : RunId)
  | claimed (id : InvocationId) (operation : String)
  | dispatched (id : InvocationId) (run : RunId)
  | outcome (id : InvocationId) (attempted : Bool)

/-- `ok` is the answer of the call of the step: a check of a directory, the write and the two
`fsync` of a file, a child process. Any file may also be left by another program. -/
inductive T2Action
  | start (id : InvocationId) (protocol : T2Protocol) (run : RunId) (operation : String)
  | step (id : InvocationId) (ok : Bool)
  | crash (id : InvocationId)
  | leaveEvidence (run : RunId) (file : EvidenceFile)
  | leaveClaim (name : String)

def claimName (operation : String) : String := operation ++ ".json"

def T2Files.addEvidence (files : T2Files) (run : RunId) (file : EvidenceFile) : T2Files :=
  { files with
    evidence := fun r f => if r = run ∧ f = file then true else files.evidence r f }

def T2Files.addClaim (files : T2Files) (name : String) : T2Files :=
  { files with claims := fun n => if n = name then true else files.claims n }

def T2Protocol.firstPc : T2Protocol → T2Pc
  | .critical => .checkEvidence
  | .postval => .verifyRatio

/-- The files whose existence forbids an invocation. -/
def T2Protocol.consumedBy : T2Protocol → List EvidenceFile
  | .critical => [.triggerIntent, .criticalOutcome, .executor]
  | .postval =>
      [.triggerIntent, .criticalOutcome, .executor, .postvalOutcome, .postvalExecutor]

def T2Protocol.outcomeFile : T2Protocol → EvidenceFile
  | .critical => .criticalOutcome
  | .postval => .postvalOutcome

abbrev T2Step := Option (T2Files × T2Pc × List T2Event)

/-- `open` with `O_CREAT | O_EXCL`. -/
def createIntent (files : T2Files) (id : InvocationId) (i : Invocation) (ok : Bool) : T2Step :=
  if files.evidence i.run .triggerIntent || !ok then some (files, .ended, [])
  else some (files.addEvidence i.run .triggerIntent, .storeIntent, [.intentCreated id i.run])

def createClaim (files : T2Files) (id : InvocationId) (i : Invocation) (ok : Bool) : T2Step :=
  if files.claims (claimName i.operation) || !ok then some (files, .ended, [])
  else some (files.addClaim (claimName i.operation), .storeClaim, [.claimed id i.operation])

def createOutcome (files : T2Files) (id : InvocationId) (i : Invocation) (attempted ok : Bool) :
    T2Step :=
  if files.evidence i.run i.protocol.outcomeFile || !ok then some (files, .ended, [])
  else some (files.addEvidence i.run i.protocol.outcomeFile, .storeOutcome,
    [.outcome id attempted])

def checkEvidence (files : T2Files) (i : Invocation) (ok : Bool) (next : T2Pc) : T2Step :=
  if !ok || i.protocol.consumedBy.any (files.evidence i.run) then some (files, .ended, [])
  else some (files, next, [])

/-- `run_live`. What fails behind the claim is written to the outcome. -/
def criticalStep (files : T2Files) (id : InvocationId) (i : Invocation) (ok : Bool) : T2Step :=
  match i.pc with
  | .checkEvidence => checkEvidence files i ok .createIntent
  | .createIntent => createIntent files id i ok
  | .storeIntent => some (files, if ok then .claimsDirectory else .ended, [])
  | .claimsDirectory => some (files, if ok then .createClaim else .ended, [])
  | .createClaim => createClaim files id i ok
  | .storeClaim => some (files, if ok then .precontrol else .ended, [])
  | .precontrol => some (files, if ok then .bindRatio else .createOutcome false, [])
  | .bindRatio => some (files, if ok then .trigger else .createOutcome false, [])
  | .trigger =>
      -- a child that cannot be started has sent nothing
      some (files, .createOutcome true, if ok then [.dispatched id i.run] else [])
  | .createOutcome attempted => createOutcome files id i attempted ok
  | .storeOutcome => some (files, .ended, [])
  | _ => none

/-- `live`, with `claim_once` and `fifo_once`. -/
def postvalStep (files : T2Files) (id : InvocationId) (i : Invocation) (ok : Bool) : T2Step :=
  match i.pc with
  | .verifyRatio => some (files, if ok then .checkEvidence else .ended, [])
  | .checkEvidence => checkEvidence files i ok .claimsDirectory
  | .claimsDirectory => some (files, if ok then .createIntent else .ended, [])
  | .createIntent => createIntent files id i ok
  | .storeIntent => some (files, if ok then .createClaim else .ended, [])
  | .createClaim => createClaim files id i ok
  | .storeClaim => some (files, if ok then .awaitSample else .ended, [])
  | .awaitSample => some (files, if ok then .openFifo else .createOutcome false, [])
  | .openFifo => some (files, if ok then .writeFifo else .createOutcome true, [])
  | .writeFifo => some (files, .createOutcome true, [.dispatched id i.run])
  | .createOutcome attempted => createOutcome files id i attempted ok
  | .storeOutcome => some (files, .ended, [])
  | _ => none

def protocolStep (files : T2Files) (id : InvocationId) (i : Invocation) (ok : Bool) : T2Step :=
  match i.protocol with
  | .critical => criticalStep files id i ok
  | .postval => postvalStep files id i ok

def T2State.setInvocation (s : T2State) (id : InvocationId) (i : Invocation) : T2State :=
  { s with invocations := Function.update s.invocations id (some i) }

@[simp] theorem setInvocation_self (s : T2State) (id : InvocationId) (i : Invocation) :
    (s.setInvocation id i).invocations id = some i :=
  Function.update_self _ _ _

theorem setInvocation_of_ne (s : T2State) {id k : InvocationId} (i : Invocation) (h : k ≠ id) :
    (s.setInvocation id i).invocations k = s.invocations k :=
  Function.update_of_ne h _ _

def t2Machine : Machine T2State T2Action T2Event := fun s action =>
  match action with
  | .start id protocol run operation =>
      match s.invocations id with
      | some _ => none
      | none => some (s.setInvocation id ⟨protocol, run, operation, protocol.firstPc⟩, [])
  | .step id ok => do
      let i ← s.invocations id
      let (files, pc, events) ← protocolStep s.files id i ok
      return ({ s with files }.setInvocation id { i with pc }, events)
  | .crash id => do
      let i ← s.invocations id
      return (s.setInvocation id { i with pc := .ended }, [])
  | .leaveEvidence run file => some ({ s with files := s.files.addEvidence run file }, [])
  | .leaveClaim name => some ({ s with files := s.files.addClaim name }, [])

/-! ### What one step does -/

/-- Behind the creation of the intent, up to the dispatch. -/
def Invocation.holdsIntent (i : Invocation) : Bool :=
  match i.protocol, i.pc with
  | .critical, .claimsDirectory => true
  | _, .storeIntent | _, .createClaim | _, .storeClaim | _, .precontrol | _, .bindRatio
  | _, .trigger | _, .awaitSample | _, .openFifo | _, .writeFifo => true
  | _, _ => false

/-- Behind the creation of the claim, up to the dispatch. -/
def T2Pc.holdsClaim : T2Pc → Bool
  | .storeClaim | .precontrol | .bindRatio | .trigger | .awaitSample | .openFifo
  | .writeFifo => true
  | _ => false

/-- No dispatch follows. -/
def T2Pc.pastDispatch : T2Pc → Bool
  | .createOutcome _ | .storeOutcome | .ended => true
  | _ => false

/-- The files only become more. -/
def T2Files.Grows (files files' : T2Files) : Prop :=
  (∀ run file, files.evidence run file = true → files'.evidence run file = true) ∧
  ∀ name, files.claims name = true → files'.claims name = true

theorem grows_refl (files : T2Files) : files.Grows files := ⟨fun _ _ h => h, fun _ h => h⟩

theorem grows_addEvidence (files : T2Files) (run : RunId) (file : EvidenceFile) :
    files.Grows (files.addEvidence run file) := by
  refine ⟨fun r f h => ?_, fun _ h => h⟩
  simp only [T2Files.addEvidence]
  split
  · rfl
  · exact h

theorem grows_addClaim (files : T2Files) (name : String) :
    files.Grows (files.addClaim name) := by
  refine ⟨fun _ _ h => h, fun n h => ?_⟩
  simp only [T2Files.addClaim]
  split
  · rfl
  · exact h

/-- What a step of one invocation does to what it holds. -/
inductive T2Move (files : T2Files) (id : InvocationId) (i : Invocation) (files' : T2Files)
    (pc' : T2Pc) : List T2Event → Prop
  | quiet (es : List T2Event) : files.Grows files' →
      (∀ e ∈ es, ∃ attempted, e = .outcome id attempted) →
      ({ i with pc := pc' }.holdsIntent = true → i.holdsIntent = true) →
      (pc'.holdsClaim = true → i.pc.holdsClaim = true) →
      (i.pc.pastDispatch = true → pc'.pastDispatch = true) → T2Move files id i files' pc' es
  | intent : files.evidence i.run .triggerIntent = false →
      files' = files.addEvidence i.run .triggerIntent → pc' = .storeIntent →
      i.pc.pastDispatch = false → T2Move files id i files' pc' [.intentCreated id i.run]
  | claim : files.claims (claimName i.operation) = false →
      files' = files.addClaim (claimName i.operation) → i.pc = .createClaim →
      pc' = .storeClaim → T2Move files id i files' pc' [.claimed id i.operation]
  | dispatch : files' = files → i.holdsIntent = true → i.pc.holdsClaim = true →
      i.pc.pastDispatch = false → pc' = .createOutcome true →
      T2Move files id i files' pc' [.dispatched id i.run]

section
variable {files files' : T2Files} {id : InvocationId} {i : Invocation} {ok : Bool} {pc' : T2Pc}
  {es : List T2Event}

theorem t2Move_end (h : some (files, T2Pc.ended, []) = some (files', pc', es)) :
    T2Move files id i files' pc' es := by
  obtain ⟨rfl, hrest⟩ := Prod.mk.inj (Option.some.inj h)
  obtain ⟨rfl, rfl⟩ := Prod.mk.inj hrest
  apply T2Move.quiet _ (grows_refl files) (by simp) _ (by simp [T2Pc.holdsClaim]) (fun _ => rfl)
  intro hholds
  cases hp : i.protocol <;> simp [Invocation.holdsIntent, hp] at hholds

theorem t2Move_createIntent (hpc : i.pc = .createIntent)
    (h : createIntent files id i ok = some (files', pc', es)) :
    T2Move files id i files' pc' es := by
  unfold createIntent at h
  split at h
  · exact t2Move_end h
  · next hfree =>
    obtain ⟨rfl, hrest⟩ := Prod.mk.inj (Option.some.inj h)
    obtain ⟨rfl, rfl⟩ := Prod.mk.inj hrest
    exact .intent (by simpa using (by simpa using hfree : _ ∧ _).1) rfl rfl (by rw [hpc]; rfl)

theorem t2Move_createClaim (hpc : i.pc = .createClaim)
    (h : createClaim files id i ok = some (files', pc', es)) :
    T2Move files id i files' pc' es := by
  unfold createClaim at h
  split at h
  · exact t2Move_end h
  · next hfree =>
    obtain ⟨rfl, hrest⟩ := Prod.mk.inj (Option.some.inj h)
    obtain ⟨rfl, rfl⟩ := Prod.mk.inj hrest
    exact .claim (by simpa using (by simpa using hfree : _ ∧ _).1) rfl hpc rfl

theorem t2Move_createOutcome {attempted : Bool}
    (h : createOutcome files id i attempted ok = some (files', pc', es)) :
    T2Move files id i files' pc' es := by
  unfold createOutcome at h
  split at h
  · exact t2Move_end h
  · obtain ⟨rfl, hrest⟩ := Prod.mk.inj (Option.some.inj h)
    obtain ⟨rfl, rfl⟩ := Prod.mk.inj hrest
    apply T2Move.quiet _ (grows_addEvidence _ _ _) (by simp) _ (by simp [T2Pc.holdsClaim])
      (fun _ => rfl)
    intro hholds
    cases hp : i.protocol <;> simp [Invocation.holdsIntent, hp] at hholds

theorem t2Move_checkEvidence {next : T2Pc} (hpc : i.pc = .checkEvidence)
    (hnext : { i with pc := next }.holdsIntent = false) (hclaim : next.holdsClaim = false)
    (h : checkEvidence files i ok next = some (files', pc', es)) :
    T2Move files id i files' pc' es := by
  unfold checkEvidence at h
  split at h
  · exact t2Move_end h
  · obtain ⟨rfl, hrest⟩ := Prod.mk.inj (Option.some.inj h)
    obtain ⟨rfl, rfl⟩ := Prod.mk.inj hrest
    apply T2Move.quiet _ (grows_refl files) (by simp)
    · simp [hnext]
    · simp [hclaim]
    · rw [hpc]
      exact fun h => by cases h

/-- A step that only goes on or ends. -/
theorem t2Move_goto {next : T2Pc} (h : some (files, next, []) = some (files', pc', es))
    (hintent : { i with pc := next }.holdsIntent = true → i.holdsIntent = true)
    (hclaim : next.holdsClaim = true → i.pc.holdsClaim = true)
    (hpast : i.pc.pastDispatch = true → next.pastDispatch = true) :
    T2Move files id i files' pc' es := by
  obtain ⟨rfl, hrest⟩ := Prod.mk.inj (Option.some.inj h)
  obtain ⟨rfl, rfl⟩ := Prod.mk.inj hrest
  exact .quiet _ (grows_refl files) (by simp) hintent hclaim hpast

theorem t2Move_critical (hp : i.protocol = .critical)
    (h : criticalStep files id i ok = some (files', pc', es)) :
    T2Move files id i files' pc' es := by
  unfold criticalStep at h
  split at h
  case h_1 hpc =>
    exact t2Move_checkEvidence hpc (by simp [Invocation.holdsIntent, hp]) rfl h
  case h_2 hpc => exact t2Move_createIntent hpc h
  case h_5 hpc => exact t2Move_createClaim hpc h
  case h_10 hpc => exact t2Move_createOutcome h
  case h_9 hpc =>
    obtain ⟨rfl, hrest⟩ := Prod.mk.inj (Option.some.inj h)
    obtain ⟨rfl, rfl⟩ := Prod.mk.inj hrest
    cases ok with
    | true =>
      exact .dispatch rfl (by simp [Invocation.holdsIntent, hp, hpc]) (by rw [hpc]; rfl)
        (by rw [hpc]; rfl) rfl
    | false =>
      apply T2Move.quiet _ (grows_refl files) (by simp) _ (by simp [T2Pc.holdsClaim])
        (fun _ => rfl)
      simp [Invocation.holdsIntent, hp]
  case h_3 hpc | h_4 hpc | h_6 hpc | h_7 hpc | h_8 hpc | h_11 hpc =>
    apply t2Move_goto h
    all_goals
      cases ok <;>
        simp [Invocation.holdsIntent, T2Pc.holdsClaim, T2Pc.pastDispatch, hp, hpc]
  case h_12 => cases h

theorem t2Move_postval (hp : i.protocol = .postval)
    (h : postvalStep files id i ok = some (files', pc', es)) :
    T2Move files id i files' pc' es := by
  unfold postvalStep at h
  split at h
  case h_2 hpc =>
    exact t2Move_checkEvidence hpc (by simp [Invocation.holdsIntent, hp]) rfl h
  case h_4 hpc => exact t2Move_createIntent hpc h
  case h_6 hpc => exact t2Move_createClaim hpc h
  case h_11 hpc => exact t2Move_createOutcome h
  case h_10 hpc =>
    obtain ⟨rfl, hrest⟩ := Prod.mk.inj (Option.some.inj h)
    obtain ⟨rfl, rfl⟩ := Prod.mk.inj hrest
    exact .dispatch rfl (by simp [Invocation.holdsIntent, hp, hpc]) (by rw [hpc]; rfl)
      (by rw [hpc]; rfl) rfl
  case h_1 hpc | h_3 hpc | h_5 hpc | h_7 hpc | h_8 hpc | h_9 hpc | h_12 hpc =>
    apply t2Move_goto h
    all_goals
      cases ok <;>
        simp [Invocation.holdsIntent, T2Pc.holdsClaim, T2Pc.pastDispatch, hp, hpc]
  case h_13 => cases h

theorem t2Move (h : protocolStep files id i ok = some (files', pc', es)) :
    T2Move files id i files' pc' es := by
  unfold protocolStep at h
  split at h
  · next hp => exact t2Move_critical hp h
  · next hp => exact t2Move_postval hp h

end

/-- A step of the whole system. -/
inductive T2Change (s s' : T2State) : List T2Event → Prop
  | start (id : InvocationId) (i : Invocation) : s.invocations id = none →
      i.holdsIntent = false → i.pc.holdsClaim = false → s' = s.setInvocation id i →
      T2Change s s' []
  | move (id : InvocationId) (i : Invocation) (files : T2Files) (pc : T2Pc) (es : List T2Event) :
      s.invocations id = some i → T2Move s.files id i files pc es →
      s' = { s with files }.setInvocation id { i with pc } → T2Change s s' es
  | leave (files : T2Files) : s.files.Grows files → s' = { s with files } → T2Change s s' []

variable {s s' : T2State} {a : T2Action} {es : List T2Event}

theorem t2Change (h : t2Machine s a = some (s', es)) : T2Change s s' es := by
  unfold t2Machine at h
  cases a with
  | start id protocol run operation =>
    simp only at h
    split at h
    · cases h
    · next hnone =>
      obtain ⟨rfl, rfl⟩ := Prod.mk.inj (Option.some.inj h)
      exact .start id _ hnone (by cases protocol <;> rfl) (by cases protocol <;> rfl) rfl
  | step id ok =>
    simp only [Option.bind_eq_bind, Option.bind_eq_some_iff] at h
    obtain ⟨i, hi, ⟨files, pc, events⟩, hstep, h⟩ := h
    obtain ⟨rfl, rfl⟩ := Prod.mk.inj (Option.some.inj h)
    exact .move id i files pc events hi (t2Move hstep) rfl
  | crash id =>
    simp only [Option.bind_eq_bind, Option.bind_eq_some_iff] at h
    obtain ⟨i, hi, h⟩ := h
    obtain ⟨rfl, rfl⟩ := Prod.mk.inj (Option.some.inj h)
    exact .move id i s.files .ended [] hi (t2Move_end rfl) rfl
  | leaveEvidence run file =>
    obtain ⟨rfl, rfl⟩ := Prod.mk.inj (Option.some.inj h)
    exact .leave _ (grows_addEvidence _ _ _) rfl
  | leaveClaim name =>
    obtain ⟨rfl, rfl⟩ := Prod.mk.inj (Option.some.inj h)
    exact .leave _ (grows_addClaim _ _) rfl

/-! ### What is taken once -/

def T2Event.intent? : T2Event → Option RunId
  | .intentCreated _ run => some run
  | _ => none

def T2Event.claim? : T2Event → Option String
  | .claimed _ operation => some (claimName operation)
  | _ => none

def T2Event.dispatcher? (run : RunId) : T2Event → Option InvocationId
  | .dispatched id r => if r = run then some id else none
  | _ => none

/-- The invocations that have sent the trigger of a run, once for each time. -/
def dispatchers (run : RunId) (tr : List T2Event) : List InvocationId :=
  tr.filterMap (T2Event.dispatcher? run)

theorem filterMap_outcomes {κ : Type} {key : T2Event → Option κ}
    (hkey : ∀ id attempted, key (.outcome id attempted) = none)
    (h : ∀ e ∈ es, ∃ id attempted, e = .outcome id attempted) : es.filterMap key = [] := by
  rw [List.filterMap_eq_nil_iff]
  intro e he
  obtain ⟨id, attempted, rfl⟩ := h e he
  exact hkey id attempted

theorem takes_intents (h : t2Machine s a = some (s', es)) :
    Machine.Takes T2Event.intent?
      (fun s run => s.files.evidence run .triggerIntent = true) s s' es := by
  cases t2Change h with
  | start id i _ _ _ hs =>
    subst hs
    exact .quiet (fun _ h => h) rfl
  | leave files hgrows hs =>
    subst hs
    exact .quiet (fun run h => hgrows.1 run _ h) rfl
  | move id i files pc es _ hmove hs =>
    subst hs
    cases hmove with
    | quiet es hgrows hes _ _ _ =>
      apply Machine.Takes.quiet fun run h => hgrows.1 run _ h
      exact filterMap_outcomes (fun _ _ => rfl) fun e he => ⟨id, hes e he⟩
    | claim _ hfiles _ _ =>
      subst hfiles
      exact .quiet (fun _ h => h) rfl
    | dispatch hfiles _ _ _ _ =>
      subst hfiles
      exact .quiet (fun _ h => h) rfl
    | intent hfree hfiles _ _ =>
      subst hfiles
      have hkeys : [T2Event.intentCreated id i.run].filterMap T2Event.intent? = [i.run] := rfl
      constructor
      · exact fun run h => (grows_addEvidence s.files i.run .triggerIntent).1 run _ h
      · exact List.nodup_singleton _
      · intro run hrun
        rw [hkeys, List.mem_singleton] at hrun
        rw [hrun, hfree]
        exact Bool.false_ne_true
      · intro run hrun
        rw [hkeys, List.mem_singleton] at hrun
        exact if_pos ⟨hrun, rfl⟩

theorem takes_claims (h : t2Machine s a = some (s', es)) :
    Machine.Takes T2Event.claim? (fun s name => s.files.claims name = true) s s' es := by
  cases t2Change h with
  | start id i _ _ _ hs =>
    subst hs
    exact .quiet (fun _ h => h) rfl
  | leave files hgrows hs =>
    subst hs
    exact .quiet (fun name h => hgrows.2 name h) rfl
  | move id i files pc es _ hmove hs =>
    subst hs
    cases hmove with
    | quiet es hgrows hes _ _ _ =>
      apply Machine.Takes.quiet fun name h => hgrows.2 name h
      exact filterMap_outcomes (fun _ _ => rfl) fun e he => ⟨id, hes e he⟩
    | intent _ hfiles _ _ =>
      subst hfiles
      exact .quiet (fun _ h => h) rfl
    | dispatch hfiles _ _ _ _ =>
      subst hfiles
      exact .quiet (fun _ h => h) rfl
    | claim hfree hfiles _ _ =>
      subst hfiles
      have hkeys : [T2Event.claimed id i.operation].filterMap T2Event.claim? =
        [claimName i.operation] := rfl
      constructor
      · exact fun name h => (grows_addClaim s.files (claimName i.operation)).2 name h
      · exact List.nodup_singleton _
      · intro name hname
        rw [hkeys, List.mem_singleton] at hname
        rw [hname, hfree]
        exact Bool.false_ne_true
      · intro name hname
        rw [hkeys, List.mem_singleton] at hname
        exact if_pos hname

/-- An invocation that is past its dispatch stays there. -/
theorem takes_dispatches (run : RunId) (h : t2Machine s a = some (s', es)) :
    Machine.Takes (T2Event.dispatcher? run)
      (fun s id => ∃ i, s.invocations id = some i ∧ i.pc.pastDispatch = true) s s' es := by
  cases t2Change h with
  | start id i hnone _ _ hs =>
    subst hs
    refine .quiet ?_ rfl
    rintro k ⟨j, hj, hpast⟩
    refine ⟨j, ?_, hpast⟩
    have hne : k ≠ id := by
      rintro rfl
      rw [hnone] at hj
      cases hj
    exact (setInvocation_of_ne _ _ hne).trans hj
  | leave files _ hs =>
    subst hs
    exact .quiet (fun _ h => h) rfl
  | move id i files pc es hi hmove hs =>
    subst hs
    have hkeep (hpc : i.pc.pastDispatch = true → pc.pastDispatch = true) (k : InvocationId)
        (hk : ∃ j, s.invocations k = some j ∧ j.pc.pastDispatch = true) :
        ∃ j, (T2State.setInvocation { s with files } id { i with pc }).invocations k = some j ∧
          j.pc.pastDispatch = true := by
      obtain ⟨j, hj, hpast⟩ := hk
      by_cases hne : k = id
      · subst hne
        obtain rfl := Option.some.inj (hi.symm.trans hj)
        exact ⟨_, setInvocation_self _ _ _, hpc hpast⟩
      · exact ⟨j, (setInvocation_of_ne _ _ hne).trans hj, hpast⟩
    cases hmove with
    | quiet es _ hes _ _ hpc =>
      apply Machine.Takes.quiet (hkeep hpc)
      exact filterMap_outcomes (fun _ _ => rfl) fun e he => ⟨id, hes e he⟩
    | intent _ _ _ hpast => exact .quiet (hkeep (by simp [hpast])) rfl
    | claim _ _ hbefore _ => exact .quiet (hkeep (by simp [hbefore, T2Pc.pastDispatch])) rfl
    | dispatch _ _ _ hpast hafter =>
      have hkeep := hkeep (by simp [hpast])
      by_cases hrun : i.run = run
      · have hkeys : [T2Event.dispatched id i.run].filterMap (T2Event.dispatcher? run) = [id] := by
          simp [T2Event.dispatcher?, hrun]
        constructor
        · exact hkeep
        · rw [hkeys]
          exact List.nodup_singleton _
        · intro k hk
          rw [hkeys, List.mem_singleton] at hk
          subst hk
          rintro ⟨j, hj, hj'⟩
          obtain rfl := Option.some.inj (hi.symm.trans hj)
          exact absurd (hpast.symm.trans hj') Bool.false_ne_true
        · intro k hk
          rw [hkeys, List.mem_singleton] at hk
          subst hk
          exact ⟨_, setInvocation_self _ _ _, by rw [hafter]; rfl⟩
      · exact .quiet hkeep (by simp [T2Event.dispatcher?, hrun])

/-! ### Who holds what -/

/-- Behind its creation of the intent and of the claim an invocation is the one that made them. -/
structure HolderInv (tr : List T2Event) (s : T2State) : Prop where
  intent : ∀ id i, s.invocations id = some i → i.holdsIntent = true →
    .intentCreated id i.run ∈ tr
  claim : ∀ id i, s.invocations id = some i → i.pc.holdsClaim = true →
    .claimed id i.operation ∈ tr

theorem HolderInv.set {tr : List T2Event} (hi : HolderInv tr s) {files : T2Files}
    {id : InvocationId} {i : Invocation} (hintent : i.holdsIntent = true →
      .intentCreated id i.run ∈ tr ++ es)
    (hclaim : i.pc.holdsClaim = true → .claimed id i.operation ∈ tr ++ es) :
    HolderInv (tr ++ es) (T2State.setInvocation { s with files } id i) := by
  constructor
  · intro k j hj hholds
    by_cases hne : k = id
    · subst hne
      obtain rfl := Option.some.inj ((setInvocation_self _ _ _).symm.trans hj)
      exact hintent hholds
    · have hold := (setInvocation_of_ne _ _ hne).symm.trans hj
      exact List.mem_append_left _ (hi.intent k j hold hholds)
  · intro k j hj hholds
    by_cases hne : k = id
    · subst hne
      obtain rfl := Option.some.inj ((setInvocation_self _ _ _).symm.trans hj)
      exact hclaim hholds
    · have hold := (setInvocation_of_ne _ _ hne).symm.trans hj
      exact List.mem_append_left _ (hi.claim k j hold hholds)

theorem HolderInv.step {tr : List T2Event} (hi : HolderInv tr s)
    (h : t2Machine s a = some (s', es)) : HolderInv (tr ++ es) s' := by
  cases t2Change h with
  | start id i _ hintent hclaim hs =>
    subst hs
    exact hi.set (by simp [hintent]) (by simp [hclaim])
  | leave files _ hs =>
    subst hs
    rw [List.append_nil]
    exact ⟨hi.intent, hi.claim⟩
  | move id i files pc es hget hmove hs =>
    subst hs
    have hintent (hbefore : i.holdsIntent = true) : .intentCreated id i.run ∈ tr ++ es :=
      List.mem_append_left _ (hi.intent id i hget hbefore)
    have hclaim (hbefore : i.pc.holdsClaim = true) : .claimed id i.operation ∈ tr ++ es :=
      List.mem_append_left _ (hi.claim id i hget hbefore)
    cases hmove with
    | quiet es _ _ hkeepIntent hkeepClaim _ =>
      exact hi.set (fun h => hintent (hkeepIntent h)) fun h => hclaim (hkeepClaim h)
    | intent _ _ hafter _ =>
      apply hi.set
      · exact fun _ => List.mem_append_right _ List.mem_cons_self
      · rw [hafter]
        exact fun h => by cases h
    | claim _ _ hbefore hafter =>
      apply hi.set
      · exact fun _ => hintent (by cases hp : i.protocol <;> simp [Invocation.holdsIntent, hp, hbefore])
      · exact fun _ => List.mem_append_right _ List.mem_cons_self
    | dispatch _ hholds hholdsClaim _ _ =>
      exact hi.set (fun _ => hintent hholds) fun _ => hclaim hholdsClaim

theorem HolderInv.of_run {tr : List T2Event} (h : Machine.Run t2Machine t2Start tr s) :
    HolderInv tr s := by
  refine h.invariant ?_ fun hi hs => hi.step hs
  constructor
  · intro id i h
    cases h
  · intro id i h
    cases h

/-- A dispatch comes from the invocation that has made the intent and a claim before it. -/
theorem dispatched_step {tr : List T2Event} (hi : HolderInv tr s)
    (h : t2Machine s a = some (s', es)) {id : InvocationId} {run : RunId}
    (he : .dispatched id run ∈ es) :
    es = [.dispatched id run] ∧ .intentCreated id run ∈ tr ∧
      ∃ operation, .claimed id operation ∈ tr := by
  cases t2Change h with
  | start | leave => cases he
  | move k i files pc es hget hmove hs =>
    cases hmove with
    | quiet es _ hes _ _ _ =>
      obtain ⟨attempted, houtcome⟩ := hes _ he
      cases houtcome
    | intent | claim => simp at he
    | dispatch _ hholds hholdsClaim _ _ =>
      obtain ⟨rfl, rfl⟩ := T2Event.dispatched.inj (List.mem_singleton.mp he)
      exact ⟨rfl, hi.intent _ i hget hholds, _, hi.claim _ i hget hholdsClaim⟩

theorem dispatched_prepared {tr : List T2Event} (h : Machine.Run t2Machine t2Start tr s)
    {before after : List T2Event} {id : InvocationId} {run : RunId}
    (htr : tr = before ++ .dispatched id run :: after) :
    .intentCreated id run ∈ before ∧ ∃ operation, .claimed id operation ∈ before := by
  refine Machine.Run.event_property
    (P := fun before e => ∀ id run, e = .dispatched id run →
      .intentCreated id run ∈ before ∧ ∃ operation, .claimed id operation ∈ before)
    ?_ h htr id run rfl
  intro tr s a s' es hrun hs pre e post hes id run he
  subst he
  have hmem : .dispatched id run ∈ es := by
    rw [hes]
    exact List.mem_append_right _ List.mem_cons_self
  obtain ⟨-, hintent, operation, hclaim⟩ := dispatched_step (HolderInv.of_run hrun) hs hmem
  exact ⟨List.mem_append_left _ hintent, operation, List.mem_append_left _ hclaim⟩

theorem dispatched_intent {tr : List T2Event} (h : Machine.Run t2Machine t2Start tr s)
    {id : InvocationId} {run : RunId} (he : id ∈ dispatchers run tr) :
    .intentCreated id run ∈ tr := by
  obtain ⟨e, hmem, hkey⟩ := List.mem_filterMap.mp he
  cases e with
  | dispatched k r =>
    simp only [T2Event.dispatcher?, Option.ite_none_right_eq_some, Option.some.injEq] at hkey
    obtain ⟨rfl, rfl⟩ := hkey
    obtain ⟨before, after, htr⟩ := List.append_of_mem hmem
    rw [htr]
    exact List.mem_append_left _ (dispatched_prepared h htr).1
  | intentCreated | claimed | outcome => cases hkey

/-- Whatever the invocations of the two programs do and wherever they crash: the trigger of a run
is sent at most once, behind the intent and the claim of the invocation that sends it, and an
operation identifier is claimed by one invocation. -/
theorem trigger_dispatched_once {tr : List T2Event} (h : Machine.Run t2Machine t2Start tr s) :
    (∀ run, (dispatchers run tr).length ≤ 1) ∧
    (∀ i j operation, .claimed i operation ∈ tr → .claimed j operation ∈ tr → i = j) ∧
    ∀ before id run after, tr = before ++ .dispatched id run :: after →
      .intentCreated id run ∈ before ∧ ∃ operation, .claimed id operation ∈ before := by
  obtain ⟨hintents, -⟩ := h.nodup_keys takes_intents
  obtain ⟨hclaims, -⟩ := h.nodup_keys takes_claims
  refine ⟨fun run => ?_, fun i j operation hi hj => ?_,
    fun before id run after htr => dispatched_prepared h htr⟩
  · obtain ⟨hdispatches, -⟩ := h.nodup_keys (takes_dispatches run)
    apply Machine.length_le_one hdispatches
    intro i hi j hj
    have hsame := Machine.eq_of_nodup_keys hintents (dispatched_intent h hi)
      (dispatched_intent h hj) rfl rfl
    exact (T2Event.intentCreated.inj hsame).1
  · have hsame := Machine.eq_of_nodup_keys hclaims hi hj rfl rfl
    exact (T2Event.claimed.inj hsame).1

/-- The critical section sends the trigger, a fast trigger that had passed its check before is
stopped by the intent, and a third invocation by its check. -/
def t2Script : List T2Action :=
  [.start 0 .critical 7 "prompt12-t2-a", .start 1 .postval 7 "prompt12-t2-b", .step 1 true,
    .step 1 true, .step 1 true, .step 0 true, .step 0 true, .step 0 true, .step 0 true,
    .step 0 true, .step 1 true, .step 0 true, .step 0 true, .step 0 true, .step 0 true, .crash 0,
    .start 2 .critical 7 "prompt12-t2-a", .step 2 true]

theorem trigger_dispatched_once_sample : ∃ tr s,
    Machine.exec t2Machine t2Start t2Script = some (tr, s) ∧ dispatchers 7 tr = [0] ∧
    (∀ run, (dispatchers run tr).length ≤ 1) ∧
    (∀ i j operation, .claimed i operation ∈ tr → .claimed j operation ∈ tr → i = j) ∧
    ∀ before id run after, tr = before ++ .dispatched id run :: after →
      .intentCreated id run ∈ before ∧ ∃ operation, .claimed id operation ∈ before := by
  have hends : (Machine.exec t2Machine t2Start t2Script).map (fun r => dispatchers 7 r.1) =
      some [0] := by decide +kernel
  obtain ⟨⟨tr, s⟩, hexec, hone⟩ := Option.map_eq_some_iff.mp hends
  exact ⟨tr, s, hexec, hone, trigger_dispatched_once (Machine.run_of_exec hexec)⟩

end TcdOran.Harness
