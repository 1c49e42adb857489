import TcdOran.Collector.MainMachine

/-! The subscription, the callback and the lifecycle in every run of `main`. -/
namespace TcdOran.Collector
open TcdOran.Lib

/-! ### Stages -/

/-- How far `main` has come, as far as its flags and its verdict depend on it. -/
inductive Stage
  | opening | ready | installed | subscribed | unsubscribed | stopping
  | failing | failingRemoved | failingClosed
  | closing (passed : Bool)
  | finished (passed outputOk : Bool)
  | returned (code : ℕ)
  deriving DecidableEq

def MainPc.stage : MainPc → Stage
  | .initApi | .toApiInitialised | .toRicConnected | .discover _ | .toNodeDiscovered
  | .selectNode | .toNodeSelected | .buildRequest | .contextInit => .opening
  | .install => .ready
  | .report => .installed
  | .toSubscriptionActive | .startClock | .poll _ _ | .toStopRequested
  | .removeReport => .subscribed
  | .toSubscriptionRemoved | .uninstall => .unsubscribed
  | .stopApi | .toStopped | .printPass => .stopping
  | .failure | .failureRemove => .failing
  | .failureUninstall => .failingRemoved
  | .failureStop | .failureStopped => .failingClosed
  | .destroy passed | .setCounters passed | .shutdown passed => .closing passed
  | .finish passed outputOk => .finished passed outputOk
  | .returned code => .returned code

/-- The stages from which a failure leads to the label `failure`. -/
def Stage.guarded : Stage → Bool
  | .opening | .ready | .installed | .subscribed | .unsubscribed => true
  | _ => false

/-- Everything but the program counter, the lifecycle and the API flag is as before, and the
lifecycle has followed its own rules. -/
structure SameResources (s s' : MainState) : Prop where
  contextInitialised : s'.contextInitialised = s.contextInitialised
  callbackInstalled : s'.callbackInstalled = s.callbackInstalled
  subscriptionCreated : s'.subscriptionCreated = s.subscriptionCreated
  subscriptionHandle : s'.subscriptionHandle = s.subscriptionHandle
  activeContext : s'.activeContext = s.activeContext
  output : s'.output = s.output
  consistent : s.lifecycle.Consistent → s'.lifecycle.Consistent

/-- Every step of the process is one of these. -/
inductive MainStep (s s' : MainState) : List MainEvent → Prop
  | move : s'.pc.stage = s.pc.stage → SameResources s s' → MainStep s s' []
  | fail (call : MainCall) : s.pc.stage.guarded = true → s'.pc.stage = .failing →
      SameResources s s' → MainStep s s' [.callFailed call]
  | failLate (call : MainCall) : s.pc.stage = .stopping → s'.pc.stage = .closing false →
      SameResources s s' → MainStep s s' [.callFailed call]
  | contextInit (config : Option OutputPipelineConfig) (outcome : CreateOutcome)
      (created : Option OutputPipeline) : s.pc.stage = .opening → s'.pc.stage = .ready →
      outputPipelineCreate config outcome = .ok created →
      s' = { s with
        contextInitialised := true, output := some (created.map System.start), pc := s'.pc } →
      MainStep s s' []
  | install : s.pc.stage = .ready → s'.pc.stage = .installed →
      s' = { s with activeContext := true, callbackInstalled := true, pc := s'.pc } →
      MainStep s s' []
  | report (handle : Int) : s.pc.stage = .installed → s'.pc.stage = .subscribed →
      s' = { s with
        subscriptionCreated := true, subscriptionHandle := handle
        subscriptionsCreated := s'.subscriptionsCreated, pc := s'.pc } →
      MainStep s s' [.subscribed handle]
  | removeReport : s.pc.stage = .subscribed → s'.pc.stage = .unsubscribed →
      s' = { s.removeReport with pc := s'.pc } →
      MainStep s s' [.unsubscribed s.subscriptionHandle]
  | uninstall : s.pc.stage = .unsubscribed → s'.pc.stage = .stopping →
      s' = { s.uninstall with pc := s'.pc } → MainStep s s' []
  | printPass : s.pc.stage = .stopping → s'.pc.stage = .closing true → SameResources s s' →
      MainStep s s' [.collectorResult true]
  | failureRemove : s.pc.stage = .failing → s'.pc.stage = .failingRemoved →
      s.subscriptionCreated = true → SameResources s.removeReport s' →
      MainStep s s' [.unsubscribed s.subscriptionHandle]
  | failureSkip : s.pc.stage = .failing → s'.pc.stage = .failingRemoved →
      s.subscriptionCreated = false → SameResources s s' → MainStep s s' []
  | failureUninstall : s.pc.stage = .failingRemoved → s'.pc.stage = .failingClosed →
      s.callbackInstalled = true → SameResources s.uninstall s' → MainStep s s' []
  | failureInstalled : s.pc.stage = .failingRemoved → s'.pc.stage = .failingClosed →
      s.callbackInstalled = false → SameResources s s' → MainStep s s' []
  | failureStopped : s.pc.stage = .failingClosed → s'.pc.stage = .closing false →
      SameResources s s' → MainStep s s' []
  | destroy (passed : Bool) : s.pc.stage = .closing passed → s'.pc.stage = .closing passed →
      s.contextInitialised = true → s' = { s with activeContext := false, pc := s'.pc } →
      MainStep s s' [.contextDestroyed s.activeContext]
  | destroyNothing (passed : Bool) : s.pc.stage = .closing passed →
      s'.pc.stage = .finished passed true → s.contextInitialised = false →
      SameResources s s' → MainStep s s' []
  | pipeline (action : Action) (client client' : Option System) (events : List Event) :
      s.output = some client → clientMachine client action = some (client', events) →
      s' = { s with output := some client', pc := s'.pc } →
      (s'.pc.stage = s.pc.stage ∨ ∃ passed outputOk, s.pc.stage = .closing passed ∧
        s'.pc.stage = .finished passed outputOk ∧ .shutdownReturned outputOk ∈ events) →
      MainStep s s' (events.map .pipeline)
  | returned (outputOk : Bool) : s.pc.stage = .finished true outputOk →
      s'.pc.stage = .returned (if outputOk then 0 else 1) → SameResources s s' →
      MainStep s s' [.returned (if outputOk then 0 else 1)]
  | returnedFail (outputOk : Bool) : s.pc.stage = .finished false outputOk →
      s'.pc.stage = .returned 1 → SameResources s s' →
      MainStep s s' [.collectorResult false, .returned 1]

theorem SameResources.refl (s : MainState) : SameResources s s := ⟨rfl, rfl, rfl, rfl, rfl, rfl, id⟩

variable {config : CollectorConfig} {s s' : MainState} {a : MainAction} {es : List MainEvent}

theorem Lifecycle.Consistent.try {lifecycle after : Lifecycle} {next : LifecycleState}
    {refused : Bool} (h : lifecycle.Consistent)
    (ht : tryTransition lifecycle next refused = some after) : after.Consistent := by
  cases refused with
  | true => cases ht
  | false => exact h.transition ht

theorem consistent_attempt (s : MainState) (next : LifecycleState) (refused : Bool)
    (h : s.lifecycle.Consistent) : (s.attempt next refused).lifecycle.Consistent := by
  unfold MainState.attempt
  cases ht : tryTransition s.lifecycle next refused with
  | none => exact h
  | some after => exact h.try ht

theorem mainStep_goto {t : MainState} {pc : MainPc} (h : t.goto pc = some (s', es))
    (hstage : pc.stage = s.pc.stage) (hsame : SameResources s t) : MainStep s s' es := by
  obtain ⟨rfl, rfl⟩ := Prod.mk.inj (Option.some.inj h)
  exact .move hstage ⟨hsame.1, hsame.2, hsame.3, hsame.4, hsame.5, hsame.6, hsame.7⟩

theorem mainStep_fail {call : MainCall} (h : s.fail call .failure = some (s', es))
    (hguard : s.pc.stage.guarded = true) : MainStep s s' es := by
  obtain ⟨rfl, rfl⟩ := Prod.mk.inj (Option.some.inj h)
  exact .fail call hguard rfl ⟨rfl, rfl, rfl, rfl, rfl, rfl, id⟩

/-- A transition inside a stage that a failure may leave. -/
theorem mainStep_transition {next : LifecycleState} {refused : Bool} {done : MainPc}
    (h : s.transition next refused done .failure = some (s', es))
    (hstage : done.stage = s.pc.stage) (hguard : s.pc.stage.guarded = true) : MainStep s s' es := by
  unfold MainState.transition at h
  split at h
  · next lifecycle ht =>
    obtain ⟨rfl, rfl⟩ := Prod.mk.inj (Option.some.inj h)
    exact .move hstage ⟨rfl, rfl, rfl, rfl, rfl, rfl, fun hc => hc.try ht⟩
  · exact mainStep_fail h hguard

theorem mainStep_discover {elapsedMs : UInt64} {found : Bool} (hpc : s.pc = .discover elapsedMs)
    (h : stepDiscover config s elapsedMs found = some (s', es)) : MainStep s s' es := by
  have hguard : s.pc.stage.guarded = true := by rw [hpc]; rfl
  unfold stepDiscover at h
  simp only at h
  split at h
  · exact mainStep_fail h hguard
  split at h
  · exact mainStep_goto h (by rw [hpc]; rfl) (.refl s)
  split at h
  · exact mainStep_fail h hguard
  · exact mainStep_goto h (by rw [hpc]; rfl) (.refl s)

/-- What a pass of the receiving loop does behind its transition. -/
theorem mainStep_pollRest {t : MainState} {startMs : UInt64} {receivingDone stopRequested : Bool}
    {reading : Option UInt64} (hpc : s.pc.stage = .subscribed) (hsame : SameResources s t)
    (h : stepPollRest config t startMs receivingDone stopRequested reading = some (s', es)) :
    MainStep s s' es := by
  unfold stepPollRest at h
  repeat' split at h
  all_goals
    obtain ⟨rfl, rfl⟩ := Prod.mk.inj (Option.some.inj h)
    first
    | exact .move hpc.symm ⟨hsame.1, hsame.2, hsame.3, hsame.4, hsame.5, hsame.6, hsame.7⟩
    | exact .fail _ (by rw [hpc]; rfl) rfl ⟨hsame.1, hsame.2, hsame.3, hsame.4, hsame.5, hsame.6, hsame.7⟩

theorem mainStep_poll {startMs : UInt64} {receivingDone : Bool} {indications : UInt64}
    {refused stopRequested : Bool} {reading : Option UInt64}
    (hpc : s.pc = .poll startMs receivingDone)
    (h : stepPoll config s startMs receivingDone indications refused stopRequested reading =
      some (s', es)) : MainStep s s' es := by
  have hstage : s.pc.stage = .subscribed := by rw [hpc]; rfl
  unfold stepPoll at h
  split at h
  · split at h
    · next lifecycle ht =>
      apply mainStep_pollRest hstage _ h
      exact ⟨rfl, rfl, rfl, rfl, rfl, rfl, fun hc => hc.try ht⟩
    · exact mainStep_fail h (by rw [hstage]; rfl)
  · exact mainStep_pollRest hstage (.refl s) h

theorem mainStep_contextInit {mutexInits : Bool} {output : Option OutputPipelineConfig}
    {outcome : CreateOutcome} (hpc : s.pc = .contextInit)
    (h : stepContextInit s mutexInits output outcome = some (s', es)) : MainStep s s' es := by
  have hstage : s.pc.stage = .opening := by rw [hpc]; rfl
  unfold stepContextInit at h
  split at h
  · split at h
    · next created hcreate =>
      obtain ⟨rfl, rfl⟩ := Prod.mk.inj (Option.some.inj h)
      exact .contextInit output outcome created hstage rfl hcreate rfl
    · exact mainStep_fail h (by rw [hstage]; rfl)
  · exact mainStep_fail h (by rw [hstage]; rfl)

theorem mainStep_install (hpc : s.pc = .install) (h : stepInstall s = some (s', es)) :
    MainStep s s' es := by
  have hstage : s.pc.stage = .ready := by rw [hpc]; rfl
  unfold stepInstall at h
  split at h
  · exact mainStep_fail h (by rw [hstage]; rfl)
  · obtain ⟨rfl, rfl⟩ := Prod.mk.inj (Option.some.inj h)
    exact .install hstage rfl rfl

theorem mainStep_report {answer : Option Int} (hpc : s.pc = .report)
    (h : stepReport s answer = some (s', es)) : MainStep s s' es := by
  have hstage : s.pc.stage = .installed := by rw [hpc]; rfl
  cases answer with
  | some handle =>
    obtain ⟨rfl, rfl⟩ := Prod.mk.inj (Option.some.inj h)
    exact .report handle hstage rfl rfl
  | none => exact mainStep_fail h (by rw [hstage]; rfl)

/-! ### The failure label -/

theorem mainStep_failure {refused : Bool} (hpc : s.pc = .failure)
    (h : stepFailure s refused = some (s', es)) : MainStep s s' es := by
  unfold stepFailure at h
  split at h
  · obtain ⟨rfl, rfl⟩ := Prod.mk.inj (Option.some.inj h)
    exact .move (by rw [hpc]; rfl)
      ⟨rfl, rfl, rfl, rfl, rfl, rfl, consistent_attempt s .failed refused⟩
  · exact mainStep_goto h (by rw [hpc]; rfl) (.refl s)

theorem mainStep_failureRemove {refused : Bool} (hpc : s.pc = .failureRemove)
    (h : stepFailureRemove s refused = some (s', es)) : MainStep s s' es := by
  have hstage : s.pc.stage = .failing := by rw [hpc]; rfl
  unfold stepFailureRemove at h
  split at h
  · next hcreated =>
    obtain ⟨rfl, rfl⟩ := Prod.mk.inj (Option.some.inj h)
    exact .failureRemove hstage rfl hcreated
      ⟨rfl, rfl, rfl, rfl, rfl, rfl, consistent_attempt s.removeReport .subscriptionRemoved refused⟩
  · next hnone =>
    obtain ⟨rfl, rfl⟩ := Prod.mk.inj (Option.some.inj h)
    exact .failureSkip hstage rfl (by simpa using hnone) ⟨rfl, rfl, rfl, rfl, rfl, rfl, id⟩

theorem mainStep_failureUninstall (hpc : s.pc = .failureUninstall)
    (h : stepFailureUninstall s = some (s', es)) : MainStep s s' es := by
  have hstage : s.pc.stage = .failingRemoved := by rw [hpc]; rfl
  unfold stepFailureUninstall at h
  split at h
  · next hinstalled =>
    obtain ⟨rfl, rfl⟩ := Prod.mk.inj (Option.some.inj h)
    exact .failureUninstall hstage rfl hinstalled ⟨rfl, rfl, rfl, rfl, rfl, rfl, id⟩
  · next hnone =>
    obtain ⟨rfl, rfl⟩ := Prod.mk.inj (Option.some.inj h)
    exact .failureInstalled hstage rfl (by simpa using hnone) ⟨rfl, rfl, rfl, rfl, rfl, rfl, id⟩

theorem mainStep_failureStopped {refused : Bool} (hpc : s.pc = .failureStopped)
    (h : stepFailureStopped s refused = some (s', es)) : MainStep s s' es := by
  have hstage : s.pc.stage = .failingClosed := by rw [hpc]; rfl
  have hstopped := consistent_attempt s .stopped refused
  unfold stepFailureStopped at h
  repeat' split at h
  all_goals obtain ⟨rfl, rfl⟩ := Prod.mk.inj (Option.some.inj h)
  · exact .failureStopped hstage rfl ⟨rfl, rfl, rfl, rfl, rfl, rfl, hstopped⟩
  · exact .failureStopped hstage rfl ⟨rfl, rfl, rfl, rfl, rfl, rfl, hstopped⟩
  · exact .failureStopped hstage rfl ⟨rfl, rfl, rfl, rfl, rfl, rfl, id⟩

/-! ### The end -/

theorem mainStep_destroy {passed : Bool} (hpc : s.pc = .destroy passed)
    (h : stepDestroy s passed = some (s', es)) : MainStep s s' es := by
  have hstage : s.pc.stage = .closing passed := by rw [hpc]; rfl
  unfold stepDestroy at h
  split at h
  · next hcontext =>
    obtain ⟨rfl, rfl⟩ := Prod.mk.inj (Option.some.inj h)
    exact .destroy passed hstage rfl hcontext rfl
  · next hnone =>
    obtain ⟨rfl, rfl⟩ := Prod.mk.inj (Option.some.inj h)
    exact .destroyNothing passed hstage rfl (by simpa using hnone) ⟨rfl, rfl, rfl, rfl, rfl, rfl, id⟩

theorem mainStep_setCounters {passed : Bool} {callbackErrors : UInt64}
    (hpc : s.pc = .setCounters passed)
    (h : stepSetCounters s passed callbackErrors = some (s', es)) : MainStep s s' es := by
  simp only [stepSetCounters, Option.bind_eq_bind, Option.bind_eq_some_iff] at h
  obtain ⟨client, hclient, ⟨client', events⟩, hstep, h⟩ := h
  obtain ⟨rfl, rfl⟩ := Prod.mk.inj (Option.some.inj h)
  exact .pipeline _ client client' events hclient hstep rfl (.inl (by rw [hpc]; rfl))

theorem mem_of_verdicts {events : List Event} {outputOk : Bool} {rest : List Bool}
    (h : events.filterMap Event.verdict? = outputOk :: rest) :
    .shutdownReturned outputOk ∈ events := by
  have hmem : outputOk ∈ events.filterMap Event.verdict? := by
    rw [h]
    exact List.mem_cons_self
  obtain ⟨e, he, hverdict⟩ := List.mem_filterMap.mp hmem
  cases e with
  | shutdownReturned success =>
    rw [← Option.some.inj hverdict]
    exact he
  | submitReturned | dequeued | fileWrite | accounted | prometheusWrite | processed
  | workerExited | waitIdleReturned | snapshotReturned | fileClose => cases hverdict

theorem stage_afterPipeline (pc : MainPc) (events : List Event) :
    (pc.afterPipeline events).stage = pc.stage ∨ ∃ passed outputOk, pc.stage = .closing passed ∧
      (pc.afterPipeline events).stage = .finished passed outputOk ∧
      .shutdownReturned outputOk ∈ events := by
  unfold MainPc.afterPipeline
  split
  · next passed outputOk rest hverdict =>
    exact .inr ⟨passed, outputOk, rfl, rfl, mem_of_verdicts hverdict⟩
  · exact .inl rfl

theorem mainStep_pipeline {action : Action} (h : stepPipeline s action = some (s', es)) :
    MainStep s s' es := by
  unfold stepPipeline at h
  split at h
  · simp only [Option.bind_eq_bind, Option.bind_eq_some_iff] at h
    obtain ⟨client, hclient, ⟨client', events⟩, hstep, h⟩ := h
    obtain ⟨rfl, rfl⟩ := Prod.mk.inj (Option.some.inj h)
    exact .pipeline action client client' events hclient hstep rfl (stage_afterPipeline s.pc events)
  · cases h

theorem mainStep_finish {passed outputOk : Bool} (hpc : s.pc = .finish passed outputOk)
    (h : stepFinish s passed outputOk = some (s', es)) : MainStep s s' es := by
  have hstage : s.pc.stage = .finished passed outputOk := by rw [hpc]; rfl
  unfold stepFinish at h
  split at h
  · next hpassed =>
    subst hpassed
    split at h
    · next hok =>
      subst hok
      obtain ⟨rfl, rfl⟩ := Prod.mk.inj (Option.some.inj h)
      exact .returned true hstage rfl ⟨rfl, rfl, rfl, rfl, rfl, rfl, id⟩
    · next hno =>
      obtain rfl : outputOk = false := by simpa using hno
      obtain ⟨rfl, rfl⟩ := Prod.mk.inj (Option.some.inj h)
      exact .returned false hstage rfl ⟨rfl, rfl, rfl, rfl, rfl, rfl, id⟩
  · next hno =>
    obtain rfl : passed = false := by simpa using hno
    obtain ⟨rfl, rfl⟩ := Prod.mk.inj (Option.some.inj h)
    exact .returnedFail outputOk hstage rfl ⟨rfl, rfl, rfl, rfl, rfl, rfl, id⟩

theorem mainStep_late {call : MainCall} (hstage : s.pc.stage = .stopping)
    (h : s.fail call (.destroy false) = some (s', es)) : MainStep s s' es := by
  obtain ⟨rfl, rfl⟩ := Prod.mk.inj (Option.some.inj h)
  exact .failLate call hstage rfl ⟨rfl, rfl, rfl, rfl, rfl, rfl, id⟩

/-- Each step of the process, seen from what `main` holds. -/
theorem mainStep (h : mainMachine config s a = some (s', es)) : MainStep s s' es := by
  unfold mainMachine at h
  split at h
  case h_1 => exact mainStep_pipeline h
  case h_2 hpc => exact mainStep_goto h (by rw [hpc]; rfl) ⟨rfl, rfl, rfl, rfl, rfl, rfl, id⟩
  case h_3 hpc | h_4 hpc | h_6 hpc | h_8 hpc | h_13 hpc | h_17 hpc =>
    exact mainStep_transition h (by rw [hpc]; rfl) (by rw [hpc]; rfl)
  case h_5 hpc => exact mainStep_discover hpc h
  case h_7 hpc =>
    split at h
    · exact mainStep_goto h (by rw [hpc]; rfl) (.refl s)
    · exact mainStep_fail h (by rw [hpc]; rfl)
  case h_9 hpc =>
    split at h
    · exact mainStep_goto h (by rw [hpc]; rfl) ⟨rfl, rfl, rfl, rfl, rfl, rfl, id⟩
    · exact mainStep_fail h (by rw [hpc]; rfl)
  case h_10 hpc => exact mainStep_contextInit hpc h
  case h_11 hpc => exact mainStep_install hpc h
  case h_12 hpc => exact mainStep_report hpc h
  case h_14 hpc => exact mainStep_goto h (by rw [hpc]; rfl) (.refl s)
  case h_15 hpc => exact mainStep_fail h (by rw [hpc]; rfl)
  case h_16 hpc => exact mainStep_poll hpc h
  case h_18 hpc =>
    obtain ⟨rfl, rfl⟩ := Prod.mk.inj (Option.some.inj h)
    exact .removeReport (by rw [hpc]; rfl) rfl rfl
  case h_19 hpc => exact mainStep_transition h (by rw [hpc]; rfl) (by rw [hpc]; rfl)
  case h_20 hpc =>
    obtain ⟨rfl, rfl⟩ := Prod.mk.inj (Option.some.inj h)
    exact .uninstall (by rw [hpc]; rfl) rfl rfl
  case h_21 hpc =>
    split at h
    · exact mainStep_goto h (by rw [hpc]; rfl) ⟨rfl, rfl, rfl, rfl, rfl, rfl, id⟩
    · exact mainStep_late (by rw [hpc]; rfl) h
  case h_22 hpc =>
    unfold MainState.transition at h
    split at h
    · next lifecycle ht =>
      obtain ⟨rfl, rfl⟩ := Prod.mk.inj (Option.some.inj h)
      exact .move (by rw [hpc]; rfl) ⟨rfl, rfl, rfl, rfl, rfl, rfl, fun hc => hc.try ht⟩
    · exact mainStep_late (by rw [hpc]; rfl) h
  case h_23 hpc =>
    obtain ⟨rfl, rfl⟩ := Prod.mk.inj (Option.some.inj h)
    exact .printPass (by rw [hpc]; rfl) rfl ⟨rfl, rfl, rfl, rfl, rfl, rfl, id⟩
  case h_24 hpc => exact mainStep_failure hpc h
  case h_25 hpc => exact mainStep_failureRemove hpc h
  case h_26 hpc => exact mainStep_failureUninstall hpc h
  case h_27 hpc => exact mainStep_goto h (by rw [hpc]; rfl) ⟨rfl, rfl, rfl, rfl, rfl, rfl, id⟩
  case h_28 hpc => exact mainStep_failureStopped hpc h
  case h_29 hpc => exact mainStep_destroy hpc h
  case h_30 hpc => exact mainStep_setCounters hpc h
  case h_31 hpc => exact mainStep_finish hpc h
  case h_32 => cases h

/-! ### What a run has done -/

def MainEvent.subscribed? : MainEvent → Option Int
  | .subscribed handle => some handle
  | _ => none

def MainEvent.unsubscribed? : MainEvent → Option Int
  | .unsubscribed handle => some handle
  | _ => none

/-- The handles of the successful `report_sm_xapp_api` calls. -/
def subscribed (tr : List MainEvent) : List Int := tr.filterMap MainEvent.subscribed?

/-- The handles given to `rm_report_sm_xapp_api`. -/
def unsubscribed (tr : List MainEvent) : List Int := tr.filterMap MainEvent.unsubscribed?

section
variable (tr es : List MainEvent)

@[simp] theorem subscribed_append : subscribed (tr ++ es) = subscribed tr ++ subscribed es :=
  List.filterMap_append

@[simp] theorem unsubscribed_append :
    unsubscribed (tr ++ es) = unsubscribed tr ++ unsubscribed es := List.filterMap_append

end

@[simp] theorem subscribed_pipeline (events : List Event) :
    subscribed (events.map .pipeline) = [] := by
  simp [subscribed, MainEvent.subscribed?]

@[simp] theorem unsubscribed_pipeline (events : List Event) :
    unsubscribed (events.map .pipeline) = [] := by
  simp [unsubscribed, MainEvent.unsubscribed?]

def Stage.beforeReport : Stage → Bool
  | .opening | .ready | .installed => true
  | _ => false

/-- The stages in which the callback may be installed. -/
def Stage.mayReceive : Stage → Bool
  | .installed | .subscribed | .unsubscribed | .failing | .failingRemoved => true
  | _ => false

/-- What `main` holds after every run with the trace `tr`. -/
structure ResourceInv (tr : List MainEvent) (s : MainState) : Prop where
  matched : subscribed tr =
    unsubscribed tr ++ if s.subscriptionCreated then [s.subscriptionHandle] else []
  fresh : s.pc.stage.beforeReport = true → subscribed tr = []
  one : (subscribed tr).length ≤ 1
  live : s.pc.stage = .subscribed → s.subscriptionCreated = true
  created : s.subscriptionCreated = true → s.pc.stage = .subscribed ∨ s.pc.stage = .failing
  active : s.activeContext = true → s.callbackInstalled = true
  installed : s.callbackInstalled = true → s.pc.stage.mayReceive = true
  destroyed : ∀ active, .contextDestroyed active ∈ tr → active = false
  consistent : s.lifecycle.Consistent

/-- The subscription and the callback are as before, or the callback is out of reach. -/
structure SameSubscription (s s' : MainState) : Prop where
  callbackInstalled : s'.callbackInstalled = s.callbackInstalled
  subscriptionCreated : s'.subscriptionCreated = s.subscriptionCreated
  subscriptionHandle : s'.subscriptionHandle = s.subscriptionHandle
  activeContext : s'.activeContext = true → s.activeContext = true
  consistent : s.lifecycle.Consistent → s'.lifecycle.Consistent

theorem SameResources.subscription (h : SameResources s s') : SameSubscription s s' :=
  ⟨h.callbackInstalled, h.subscriptionCreated, h.subscriptionHandle,
    fun hactive => h.activeContext ▸ hactive, h.consistent⟩

/-- Events that neither take nor give back a subscription. -/
structure NoSubscription (es : List MainEvent) : Prop where
  subscribed : subscribed es = []
  unsubscribed : unsubscribed es = []
  destroyed : ∀ active, .contextDestroyed active ∈ es → active = false

theorem NoSubscription.nil : NoSubscription [] := ⟨rfl, rfl, fun active h => by cases h⟩

theorem NoSubscription.pipeline (events : List Event) :
    NoSubscription (events.map .pipeline) :=
  ⟨subscribed_pipeline events, unsubscribed_pipeline events, fun active h => by simp at h⟩

/-- Without an event that counts, only the stage matters. -/
theorem ResourceInv.move {tr : List MainEvent} (hi : ResourceInv tr s)
    (hsame : SameSubscription s s') (hes : NoSubscription es)
    (hfresh : s'.pc.stage.beforeReport = true → s.pc.stage.beforeReport = true)
    (hlive : s'.pc.stage = .subscribed → s.pc.stage = .subscribed)
    (hcreated : s.subscriptionCreated = true → s'.pc.stage = .subscribed ∨ s'.pc.stage = .failing)
    (hinstalled : s.callbackInstalled = true → s'.pc.stage.mayReceive = true) :
    ResourceInv (tr ++ es) s' := by
  constructor
  · rw [subscribed_append, unsubscribed_append, hes.subscribed, hes.unsubscribed, List.append_nil,
      List.append_nil, hsame.subscriptionCreated, hsame.subscriptionHandle, hi.matched]
  · intro h
    rw [subscribed_append, hi.fresh (hfresh h), hes.subscribed, List.append_nil]
  · rw [subscribed_append, hes.subscribed, List.append_nil]
    exact hi.one
  · intro h
    rw [hsame.subscriptionCreated]
    exact hi.live (hlive h)
  · intro h
    exact hcreated (hsame.subscriptionCreated ▸ h)
  · intro h
    rw [hsame.callbackInstalled]
    exact hi.active (hsame.activeContext h)
  · intro h
    exact hinstalled (hsame.callbackInstalled ▸ h)
  · intro active h
    rcases List.mem_append.mp h with h | h
    · exact hi.destroyed active h
    · exact hes.destroyed active h
  · exact hsame.consistent hi.consistent

/-- Within a stage nothing changes. -/
theorem ResourceInv.stay {tr : List MainEvent} (hi : ResourceInv tr s)
    (hsame : SameSubscription s s') (hes : NoSubscription es)
    (hstage : s'.pc.stage = s.pc.stage) : ResourceInv (tr ++ es) s' := by
  apply hi.move hsame hes <;> rw [hstage]
  · exact id
  · exact id
  · exact hi.created
  · exact hi.installed

/-- The stages in which neither a subscription nor the callback is held. -/
def Stage.holdsNothing : Stage → Bool
  | .opening | .ready | .stopping | .failingClosed | .closing _ | .finished _ _
  | .returned _ => true
  | _ => false

/-- From one stage that holds nothing to another. -/
theorem ResourceInv.idle {tr : List MainEvent} (hi : ResourceInv tr s)
    (hsame : SameSubscription s s') (hes : NoSubscription es) {before after : Stage}
    (hb : s.pc.stage = before) (ha : s'.pc.stage = after) (hbefore : before.holdsNothing = true)
    (hafter : after.holdsNothing = true)
    (hfresh : after.beforeReport = true → before.beforeReport = true) :
    ResourceInv (tr ++ es) s' := by
  subst hb ha
  apply hi.move hsame hes hfresh
  · intro h
    rw [h] at hafter
    cases hafter
  · intro h
    rcases hi.created h with h | h <;> rw [h] at hbefore <;> cases hbefore
  · intro h
    have hreceive := hi.installed h
    revert hreceive hbefore
    cases s.pc.stage <;> simp [Stage.holdsNothing, Stage.mayReceive]

theorem ResourceInv.install {tr : List MainEvent} (hi : ResourceInv tr s) {pc : MainPc}
    (hstage : s.pc.stage = .ready) (hpc : pc.stage = .installed) :
    ResourceInv tr { s with activeContext := true, callbackInstalled := true, pc := pc } := by
  constructor
  · exact hi.matched
  · exact fun _ => hi.fresh (by rw [hstage]; rfl)
  · exact hi.one
  · intro h
    rw [hpc] at h
    cases h
  · intro h
    rcases hi.created h with h | h <;> exact absurd (hstage.symm.trans h) (by decide)
  · exact fun _ => rfl
  · intro _
    rw [hpc]
    rfl
  · exact hi.destroyed
  · exact hi.consistent

theorem ResourceInv.report {tr : List MainEvent} (hi : ResourceInv tr s) {handle : Int}
    {count : UInt64} {pc : MainPc} (hstage : s.pc.stage = .installed)
    (hpc : pc.stage = .subscribed) :
    ResourceInv (tr ++ [.subscribed handle])
      { s with
        subscriptionCreated := true, subscriptionHandle := handle
        subscriptionsCreated := count, pc := pc } := by
  have hfresh := hi.fresh (by rw [hstage]; rfl)
  have hnone : unsubscribed tr = [] := by
    have hmatched := hi.matched
    rw [hfresh] at hmatched
    exact (List.append_eq_nil_iff.mp hmatched.symm).1
  constructor
  · rw [subscribed_append, unsubscribed_append, hfresh, hnone]
    rfl
  · intro h
    rw [hpc] at h
    cases h
  · rw [subscribed_append, hfresh]
    exact le_rfl
  · exact fun _ => rfl
  · exact fun _ => .inl hpc
  · exact hi.active
  · intro _
    rw [hpc]
    rfl
  · intro active h
    rcases List.mem_append.mp h with h | h
    · exact hi.destroyed active h
    · simp at h
  · exact hi.consistent

/-- The removal gives back the handle that is held. -/
theorem ResourceInv.remove {tr : List MainEvent} (hi : ResourceInv tr s)
    (hcreated : s.subscriptionCreated = true) (hsame : SameResources s.removeReport s')
    (hstage : s'.pc.stage = .unsubscribed ∨ s'.pc.stage = .failingRemoved) :
    ResourceInv (tr ++ [.unsubscribed s.subscriptionHandle]) s' := by
  have hmatched := hi.matched
  rw [if_pos hcreated] at hmatched
  constructor
  · rw [subscribed_append, unsubscribed_append, hmatched, hsame.subscriptionCreated]
    rfl
  · intro h
    rcases hstage with hstage | hstage <;> rw [hstage] at h <;> cases h
  · rw [subscribed_append]
    exact (List.append_nil _).symm ▸ hi.one
  · intro h
    rcases hstage with hstage | hstage <;> rw [hstage] at h <;> cases h
  · intro h
    rw [hsame.subscriptionCreated] at h
    cases h
  · intro h
    rw [hsame.callbackInstalled]
    exact hi.active (hsame.activeContext ▸ h)
  · intro _
    rcases hstage with hstage | hstage <;> rw [hstage] <;> rfl
  · intro active h
    rcases List.mem_append.mp h with h | h
    · exact hi.destroyed active h
    · simp at h
  · exact hsame.consistent hi.consistent

/-- Behind the removal of the subscription the callback is uninstalled. -/
theorem ResourceInv.uninstall {tr : List MainEvent} (hi : ResourceInv tr s)
    (hcreated : s.subscriptionCreated = false) (hsame : SameResources s.uninstall s')
    (hstage : s'.pc.stage = .stopping ∨ s'.pc.stage = .failingClosed) : ResourceInv tr s' := by
  constructor
  · rw [hi.matched, hsame.subscriptionCreated, hsame.subscriptionHandle]
    rfl
  · intro h
    rcases hstage with hstage | hstage <;> rw [hstage] at h <;> cases h
  · exact hi.one
  · intro h
    rcases hstage with hstage | hstage <;> rw [hstage] at h <;> cases h
  · intro h
    rw [hsame.subscriptionCreated] at h
    exact absurd (hcreated.symm.trans h) Bool.false_ne_true
  · intro h
    rw [hsame.activeContext] at h
    cases h
  · intro h
    rw [hsame.callbackInstalled] at h
    cases h
  · exact hi.destroyed
  · exact hsame.consistent hi.consistent

/-- Outside its stages no subscription is held. -/
theorem ResourceInv.not_created {tr : List MainEvent} (hi : ResourceInv tr s)
    (hsubscribed : s.pc.stage ≠ .subscribed) (hfailing : s.pc.stage ≠ .failing) :
    s.subscriptionCreated = false := by
  cases hcreated : s.subscriptionCreated with
  | false => rfl
  | true => exact absurd (hi.created hcreated) (not_or.mpr ⟨hsubscribed, hfailing⟩)

theorem ResourceInv.not_active {tr : List MainEvent} (hi : ResourceInv tr s)
    (hstage : s.pc.stage.mayReceive = false) : s.activeContext = false := by
  cases hactive : s.activeContext with
  | false => rfl
  | true =>
    exact absurd (hstage.symm.trans (hi.installed (hi.active hactive))) Bool.false_ne_true

theorem ResourceInv.step {tr : List MainEvent} (hi : ResourceInv tr s)
    (h : mainMachine config s a = some (s', es)) : ResourceInv (tr ++ es) s' := by
  cases mainStep h with
  | move hstage hsame => exact hi.stay hsame.subscription .nil hstage
  | fail call hguard hstage hsame =>
    apply hi.move hsame.subscription ⟨rfl, rfl, by simp⟩
    · rw [hstage]; exact fun h => by cases h
    · rw [hstage]; exact fun h => by cases h
    · exact fun _ => .inr hstage
    · exact fun _ => by rw [hstage]; rfl
  | failLate call hbefore hstage hsame =>
    exact hi.idle hsame.subscription ⟨rfl, rfl, by simp⟩ hbefore hstage rfl rfl (by simp [Stage.beforeReport])
  | contextInit output outcome created hbefore hstage _ hs =>
    apply hi.idle _ .nil hbefore hstage rfl rfl fun _ => rfl
    rw [hs]
    exact ⟨rfl, rfl, rfl, id, id⟩
  | install hbefore hstage hs =>
    rw [hs, List.append_nil]
    exact hi.install hbefore hstage
  | report handle hbefore hstage hs =>
    rw [hs]
    exact hi.report hbefore hstage
  | removeReport hbefore hstage hs =>
    refine hi.remove (hi.live hbefore) ?_ (.inl hstage)
    rw [hs]
    exact ⟨rfl, rfl, rfl, rfl, rfl, rfl, id⟩
  | uninstall hbefore hstage hs =>
    rw [List.append_nil]
    refine hi.uninstall (hi.not_created ?_ ?_) ?_ (.inl hstage)
    · rw [hbefore]; decide
    · rw [hbefore]; decide
    · rw [hs]
      exact ⟨rfl, rfl, rfl, rfl, rfl, rfl, id⟩
  | printPass hbefore hstage hsame =>
    exact hi.idle hsame.subscription ⟨rfl, rfl, by simp⟩ hbefore hstage rfl rfl (by simp [Stage.beforeReport])
  | failureRemove hbefore hstage hcreated hsame =>
    exact hi.remove hcreated hsame (.inr hstage)
  | failureSkip hbefore hstage hnone hsame =>
    apply hi.move hsame.subscription .nil
    · rw [hstage]; exact fun h => by cases h
    · rw [hstage]; exact fun h => by cases h
    · exact fun h => absurd (hnone.symm.trans h) Bool.false_ne_true
    · exact fun _ => by rw [hstage]; rfl
  | failureUninstall hbefore hstage hinstalled hsame =>
    rw [List.append_nil]
    refine hi.uninstall (hi.not_created ?_ ?_) hsame (.inr hstage)
    · rw [hbefore]; decide
    · rw [hbefore]; decide
  | failureInstalled hbefore hstage hnone hsame =>
    apply hi.move hsame.subscription .nil
    · rw [hstage]; exact fun h => by cases h
    · rw [hstage]; exact fun h => by cases h
    · intro h
      rcases hi.created h with h | h <;> exact absurd (hbefore.symm.trans h) (by decide)
    · exact fun h => absurd (hnone.symm.trans h) Bool.false_ne_true
  | failureStopped hbefore hstage hsame =>
    exact hi.idle hsame.subscription .nil hbefore hstage rfl rfl (by simp [Stage.beforeReport])
  | destroy passed hbefore hstage hcontext hs =>
    have hactive : s.activeContext = false := hi.not_active (by rw [hbefore]; rfl)
    apply hi.idle _ ⟨rfl, rfl, by simp [hactive]⟩ hbefore hstage rfl rfl (by simp [Stage.beforeReport])
    rw [hs]
    exact ⟨rfl, rfl, rfl, fun h => (by cases h), id⟩
  | destroyNothing passed hbefore hstage hnone hsame =>
    exact hi.idle hsame.subscription .nil hbefore hstage rfl rfl (by simp [Stage.beforeReport])
  | pipeline action client client' events hclient hstep hs hstage =>
    have hsame : SameSubscription s s' := by
      rw [hs]
      exact ⟨rfl, rfl, rfl, id, id⟩
    rcases hstage with hstage | ⟨passed, outputOk, hbefore, hstage, -⟩
    · exact hi.stay hsame (.pipeline events) hstage
    · exact hi.idle hsame (.pipeline events) hbefore hstage rfl rfl (by simp [Stage.beforeReport])
  | returned outputOk hbefore hstage hsame =>
    exact hi.idle hsame.subscription ⟨rfl, rfl, by simp⟩ hbefore hstage rfl rfl (by simp [Stage.beforeReport])
  | returnedFail outputOk hbefore hstage hsame =>
    exact hi.idle hsame.subscription ⟨rfl, rfl, by simp⟩ hbefore hstage rfl rfl (by simp [Stage.beforeReport])

theorem ResourceInv.of_run {tr : List MainEvent}
    (h : Machine.Run (mainMachine config) mainStart tr s) : ResourceInv tr s := by
  refine h.invariant ?_ fun hi hs => hi.step hs
  exact
    { matched := rfl
      fresh := fun _ => rfl
      one := Nat.zero_le 1
      live := fun h => by cases h
      created := fun h => by cases h
      active := fun h => by cases h
      installed := fun h => by cases h
      destroyed := fun active h => by cases h
      consistent := lifecycleInit_consistent }

/-! ### The exit code -/

def MainEvent.failedCall? : MainEvent → Option MainCall
  | .callFailed call => some call
  | _ => none

def MainEvent.result? : MainEvent → Option Bool
  | .collectorResult pass => some pass
  | _ => none

def MainEvent.code? : MainEvent → Option ℕ
  | .returned code => some code
  | _ => none

def MainEvent.pipeline? : MainEvent → Option Event
  | .pipeline event => some event
  | _ => none

/-- The calls whose failure `main` has met. -/
def failedCalls (tr : List MainEvent) : List MainCall := tr.filterMap MainEvent.failedCall?

/-- The verdict lines, true for PASS. -/
def results (tr : List MainEvent) : List Bool := tr.filterMap MainEvent.result?

def exitCodes (tr : List MainEvent) : List ℕ := tr.filterMap MainEvent.code?

def outputEvents (tr : List MainEvent) : List Event := tr.filterMap MainEvent.pipeline?

section
variable (tr es : List MainEvent) (events : List Event)

@[simp] theorem failedCalls_append :
    failedCalls (tr ++ es) = failedCalls tr ++ failedCalls es := List.filterMap_append

@[simp] theorem results_append : results (tr ++ es) = results tr ++ results es :=
  List.filterMap_append

@[simp] theorem exitCodes_append : exitCodes (tr ++ es) = exitCodes tr ++ exitCodes es :=
  List.filterMap_append

@[simp] theorem outputEvents_append :
    outputEvents (tr ++ es) = outputEvents tr ++ outputEvents es := List.filterMap_append

@[simp] theorem failedCalls_pipeline : failedCalls (events.map .pipeline) = [] := by
  simp [failedCalls, MainEvent.failedCall?]

@[simp] theorem results_pipeline : results (events.map .pipeline) = [] := by
  simp [results, MainEvent.result?]

@[simp] theorem exitCodes_pipeline : exitCodes (events.map .pipeline) = [] := by
  simp [exitCodes, MainEvent.code?]

@[simp] theorem outputEvents_pipeline : outputEvents (events.map .pipeline) = events := by
  induction events with
  | nil => rfl
  | cons event events ih => exact congrArg (event :: ·) ih

end

/-- The ways through `main`: to the verdict PASS, behind it, and behind a failure. -/
inductive Way
  | running | passed | failing | returned
  deriving DecidableEq

def Stage.way : Stage → Way
  | .opening | .ready | .installed | .subscribed | .unsubscribed | .stopping => .running
  | .closing true | .finished true _ => .passed
  | .failing | .failingRemoved | .failingClosed | .closing false | .finished false _ => .failing
  | .returned _ => .returned

/-- The stages of the passing way in which there is a context. -/
def Stage.hasContext : Stage → Bool
  | .ready | .installed | .subscribed | .unsubscribed | .stopping | .closing true => true
  | _ => false

/-- How `main` has come to its exit code. -/
inductive ExitBy (tr : List MainEvent) : ℕ → Prop
  | passed (outputOk : Bool) : failedCalls tr = [] → results tr = [true] →
      .shutdownReturned outputOk ∈ outputEvents tr → ExitBy tr (if outputOk then 0 else 1)
  | failed : failedCalls tr ≠ [] → results tr = [false] → ExitBy tr 1

/-- What is on record about failures and verdicts after every run with the trace `tr`. -/
structure ExitInv (tr : List MainEvent) (s : MainState) : Prop where
  running : s.pc.stage.way = .running → failedCalls tr = [] ∧ results tr = []
  failing : s.pc.stage.way = .failing → failedCalls tr ≠ [] ∧ results tr = []
  passed : s.pc.stage.way = .passed → failedCalls tr = [] ∧ results tr = [true]
  early : s.pc.stage.way ≠ .returned → exitCodes tr = []
  finished : ∀ outputOk, s.pc.stage = .finished true outputOk →
    .shutdownReturned outputOk ∈ outputEvents tr
  returned : ∀ code, s.pc.stage = .returned code → exitCodes tr = [code] ∧ ExitBy tr code
  context : s.pc.stage.hasContext = true → s.contextInitialised = true

/-- Events without a failure, a verdict or an exit code. -/
structure NoExit (es : List MainEvent) : Prop where
  failedCalls : failedCalls es = []
  results : results es = []
  exitCodes : exitCodes es = []

theorem NoExit.pipeline (events : List Event) : NoExit (events.map .pipeline) :=
  ⟨failedCalls_pipeline events, results_pipeline events, exitCodes_pipeline events⟩

theorem ExitBy.append {tr : List MainEvent} {code : ℕ} (h : ExitBy tr code) (hes : NoExit es) :
    ExitBy (tr ++ es) code := by
  have hcalls : failedCalls (tr ++ es) = failedCalls tr := by
    rw [failedCalls_append, hes.failedCalls, List.append_nil]
  have hresults : results (tr ++ es) = results tr := by
    rw [results_append, hes.results, List.append_nil]
  cases h with
  | passed outputOk hnone hpass hshutdown =>
    apply ExitBy.passed outputOk (hcalls.trans hnone) (hresults.trans hpass)
    rw [outputEvents_append]
    exact List.mem_append_left _ hshutdown
  | failed hsome hfail => exact .failed (hcalls ▸ hsome) (hresults.trans hfail)

/-- Along one way, without a return. -/
theorem ExitInv.along {tr : List MainEvent} (hi : ExitInv tr s) (hes : NoExit es)
    (hway : s'.pc.stage.way = s.pc.stage.way)
    (hfinished : ∀ outputOk, s'.pc.stage = .finished true outputOk →
      .shutdownReturned outputOk ∈ outputEvents tr ∨
        .shutdownReturned outputOk ∈ outputEvents es)
    (hreturned : ∀ code, s'.pc.stage = .returned code → s.pc.stage = .returned code)
    (hcontext : s'.pc.stage.hasContext = true → s'.contextInitialised = true) :
    ExitInv (tr ++ es) s' := by
  constructor
  · rw [hway, failedCalls_append, results_append, hes.failedCalls, hes.results, List.append_nil,
      List.append_nil]
    exact hi.running
  · rw [hway, failedCalls_append, results_append, hes.failedCalls, hes.results, List.append_nil,
      List.append_nil]
    exact hi.failing
  · rw [hway, failedCalls_append, results_append, hes.failedCalls, hes.results, List.append_nil,
      List.append_nil]
    exact hi.passed
  · rw [hway, exitCodes_append, hes.exitCodes, List.append_nil]
    exact hi.early
  · intro outputOk h
    rw [outputEvents_append]
    exact List.mem_append.mpr (hfinished outputOk h)
  · intro code h
    obtain ⟨hcodes, hby⟩ := hi.returned code (hreturned code h)
    rw [exitCodes_append, hes.exitCodes, List.append_nil]
    exact ⟨hcodes, hby.append hes⟩
  · exact hcontext

/-- Within a stage nothing changes. -/
theorem ExitInv.stay {tr : List MainEvent} (hi : ExitInv tr s) (hes : NoExit es)
    (hstage : s'.pc.stage = s.pc.stage)
    (hcontext : s'.contextInitialised = s.contextInitialised) : ExitInv (tr ++ es) s' := by
  apply hi.along hes <;> rw [hstage]
  · exact fun outputOk h => .inl (hi.finished outputOk h)
  · exact fun code h => h
  · rw [hcontext]
    exact hi.context

/-- Between two stages of one way that do not end it. -/
theorem ExitInv.advance {tr : List MainEvent} (hi : ExitInv tr s) (hes : NoExit es)
    {before after : Stage} (hb : s.pc.stage = before) (ha : s'.pc.stage = after)
    (hway : after.way = before.way)
    (hend : after.way = .running ∨ after.way = .failing)
    (hcontext : after.hasContext = true → s'.contextInitialised = true) :
    ExitInv (tr ++ es) s' := by
  subst hb ha
  apply hi.along hes hway _ _ hcontext
  · intro outputOk h
    rw [h] at hend
    rcases hend with hend | hend <;> cases hend
  · intro code h
    rw [h] at hend
    rcases hend with hend | hend <;> cases hend

/-- A failure leads from the running way to the failing one. -/
theorem ExitInv.fail {tr : List MainEvent} (hi : ExitInv tr s) (call : MainCall)
    (hbefore : s.pc.stage.way = .running) (hafter : s'.pc.stage.way = .failing) :
    ExitInv (tr ++ [.callFailed call]) s' := by
  obtain ⟨-, hresults⟩ := hi.running hbefore
  have hcodes := hi.early (by rw [hbefore]; decide)
  constructor
  · intro h
    exact absurd (hafter.symm.trans h) (by decide)
  · intro _
    rw [failedCalls_append, results_append, hresults]
    exact ⟨by simp [failedCalls, MainEvent.failedCall?], rfl⟩
  · intro h
    exact absurd (hafter.symm.trans h) (by decide)
  · intro _
    rw [exitCodes_append, hcodes]
    rfl
  · intro outputOk h
    rw [h] at hafter
    cases hafter
  · intro code h
    rw [h] at hafter
    cases hafter
  · intro h
    revert hafter h
    cases s'.pc.stage with
    | closing passed => cases passed <;> simp [Stage.way, Stage.hasContext]
    | opening | ready | installed | subscribed | unsubscribed | stopping | failing
    | failingRemoved | failingClosed | finished | returned =>
      simp [Stage.way, Stage.hasContext]

theorem ExitInv.pass {tr : List MainEvent} (hi : ExitInv tr s)
    (hbefore : s.pc.stage = .stopping) (hafter : s'.pc.stage = .closing true)
    (hcontext : s'.contextInitialised = true) : ExitInv (tr ++ [.collectorResult true]) s' := by
  obtain ⟨hcalls, hresults⟩ := hi.running (by rw [hbefore]; rfl)
  have hcodes := hi.early (by rw [hbefore]; decide)
  constructor <;> rw [hafter]
  · exact fun h => by cases h
  · exact fun h => by cases h
  · intro _
    rw [failedCalls_append, results_append, hcalls, hresults]
    exact ⟨rfl, rfl⟩
  · intro _
    rw [exitCodes_append, hcodes]
    rfl
  · exact fun outputOk h => by cases h
  · exact fun code h => by cases h
  · exact fun _ => hcontext

/-- The passing way ends with the verdict of the output pipeline. -/
theorem ExitInv.return {tr : List MainEvent} (hi : ExitInv tr s) {outputOk : Bool}
    (hbefore : s.pc.stage = .finished true outputOk)
    (hafter : s'.pc.stage = .returned (if outputOk then 0 else 1)) :
    ExitInv (tr ++ [.returned (if outputOk then 0 else 1)]) s' := by
  obtain ⟨hcalls, hresults⟩ := hi.passed (by rw [hbefore]; rfl)
  have hcodes := hi.early (by rw [hbefore]; simp [Stage.way])
  have hshutdown := hi.finished outputOk hbefore
  constructor <;> rw [hafter]
  · exact fun h => by cases h
  · exact fun h => by cases h
  · exact fun h => by cases h
  · exact fun h => absurd rfl h
  · exact fun outputOk h => by cases h
  · intro code h
    injection h with hcode
    subst hcode
    refine ⟨by rw [exitCodes_append, hcodes]; rfl, .passed outputOk ?_ ?_ ?_⟩
    · rw [failedCalls_append, hcalls]
      rfl
    · rw [results_append, hresults]
      rfl
    · rw [outputEvents_append]
      exact List.mem_append_left _ hshutdown
  · exact fun h => by cases h

/-- The failing way ends with the verdict FAIL. -/
theorem ExitInv.returnFail {tr : List MainEvent} (hi : ExitInv tr s) {outputOk : Bool}
    (hbefore : s.pc.stage = .finished false outputOk) (hafter : s'.pc.stage = .returned 1) :
    ExitInv (tr ++ [.collectorResult false, .returned 1]) s' := by
  obtain ⟨hcalls, hresults⟩ := hi.failing (by rw [hbefore]; rfl)
  have hcodes := hi.early (by rw [hbefore]; simp [Stage.way])
  constructor <;> rw [hafter]
  · exact fun h => by cases h
  · exact fun h => by cases h
  · exact fun h => by cases h
  · exact fun h => absurd rfl h
  · exact fun outputOk h => by cases h
  · intro code h
    injection h with hcode
    subst hcode
    refine ⟨by rw [exitCodes_append, hcodes]; rfl, .failed ?_ ?_⟩
    · rw [failedCalls_append]
      exact fun h => hcalls (List.append_eq_nil_iff.mp h).1
    · rw [results_append, hresults]
      rfl
  · exact fun h => by cases h

theorem ExitInv.step {tr : List MainEvent} (hi : ExitInv tr s)
    (h : mainMachine config s a = some (s', es)) : ExitInv (tr ++ es) s' := by
  have hquiet : NoExit [] := ⟨rfl, rfl, rfl⟩
  cases mainStep h with
  | move hstage hsame => exact hi.stay hquiet hstage hsame.contextInitialised
  | fail call hguard hstage hsame =>
    apply hi.fail call
    · revert hguard
      cases s.pc.stage <;> simp [Stage.guarded, Stage.way]
    · rw [hstage]; rfl
  | failLate call hbefore hstage hsame =>
    apply hi.fail call
    · rw [hbefore]; rfl
    · rw [hstage]; rfl
  | contextInit output outcome created hbefore hstage _ hs =>
    apply hi.advance hquiet hbefore hstage rfl (.inl rfl)
    rw [hs]
    exact fun _ => rfl
  | install hbefore hstage hs =>
    apply hi.advance hquiet hbefore hstage rfl (.inl rfl)
    rw [hs]
    exact fun _ => hi.context (by rw [hbefore]; rfl)
  | report handle hbefore hstage hs =>
    apply hi.advance ⟨rfl, rfl, rfl⟩ hbefore hstage rfl (.inl rfl)
    rw [hs]
    exact fun _ => hi.context (by rw [hbefore]; rfl)
  | removeReport hbefore hstage hs =>
    apply hi.advance ⟨rfl, rfl, rfl⟩ hbefore hstage rfl (.inl rfl)
    rw [hs]
    exact fun _ => hi.context (by rw [hbefore]; rfl)
  | uninstall hbefore hstage hs =>
    apply hi.advance hquiet hbefore hstage rfl (.inl rfl)
    rw [hs]
    exact fun _ => hi.context (by rw [hbefore]; rfl)
  | printPass hbefore hstage hsame =>
    apply hi.pass hbefore hstage
    rw [hsame.contextInitialised]
    exact hi.context (by rw [hbefore]; rfl)
  | failureRemove hbefore hstage hcreated hsame =>
    exact hi.advance ⟨rfl, rfl, rfl⟩ hbefore hstage rfl (.inr rfl) (by simp [Stage.hasContext])
  | failureSkip hbefore hstage hnone hsame =>
    exact hi.advance hquiet hbefore hstage rfl (.inr rfl) (by simp [Stage.hasContext])
  | failureUninstall hbefore hstage hinstalled hsame =>
    exact hi.advance hquiet hbefore hstage rfl (.inr rfl) (by simp [Stage.hasContext])
  | failureInstalled hbefore hstage hnone hsame =>
    exact hi.advance hquiet hbefore hstage rfl (.inr rfl) (by simp [Stage.hasContext])
  | failureStopped hbefore hstage hsame =>
    exact hi.advance hquiet hbefore hstage rfl (.inr rfl) (by simp [Stage.hasContext])
  | destroy passed hbefore hstage hcontext hs =>
    apply hi.stay ⟨rfl, rfl, rfl⟩ (hstage.trans hbefore.symm)
    rw [hs]
  | destroyNothing passed hbefore hstage hnone hsame =>
    cases passed with
    | true =>
      have hcontext := hi.context (by rw [hbefore]; rfl)
      exact absurd (hnone.symm.trans hcontext) Bool.false_ne_true
    | false => exact hi.advance hquiet hbefore hstage rfl (.inr rfl) (by simp [Stage.hasContext])
  | pipeline action client client' events hclient hstep hs hstage =>
    have hquiet := NoExit.pipeline events
    rcases hstage with hstage | ⟨passed, outputOk, hbefore, hstage, hverdict⟩
    · apply hi.stay hquiet hstage
      rw [hs]
    · apply hi.along hquiet
      · rw [hstage, hbefore]
        cases passed <;> rfl
      · intro ok hok
        rw [hstage] at hok
        injection hok with _ hsame
        rw [outputEvents_pipeline, ← hsame]
        exact .inr hverdict
      · intro code hcode
        exact absurd (hstage.symm.trans hcode) (by simp)
      · rw [hstage]
        simp [Stage.hasContext]
  | returned outputOk hbefore hstage hsame => exact hi.return hbefore hstage
  | returnedFail outputOk hbefore hstage hsame => exact hi.returnFail hbefore hstage

theorem ExitInv.of_run {tr : List MainEvent}
    (h : Machine.Run (mainMachine config) mainStart tr s) : ExitInv tr s := by
  refine h.invariant ?_ fun hi hs => hi.step hs
  exact
    { running := fun _ => ⟨rfl, rfl⟩
      failing := fun h => by cases h
      passed := fun h => by cases h
      early := fun _ => rfl
      finished := fun _ h => by cases h
      returned := fun _ h => by cases h
      context := fun h => by cases h }

/-! ### The output pipeline -/

/-- The pipeline of the context is where a run of its own has left it, whose trace is the part
of the trace that comes from it. -/
structure OutputInv (tr : List MainEvent) (s : MainState) : Prop where
  opening : s.pc.stage = .opening → s.output = none
  closed : s.output = none → outputEvents tr = []
  run : ∀ client, s.output = some client → ∃ config outcome created,
    outputPipelineCreate config outcome = .ok created ∧
      Machine.Run clientMachine (created.map System.start) (outputEvents tr) client

theorem OutputInv.move {tr : List MainEvent} (hi : OutputInv tr s)
    (houtput : s'.output = s.output) (hes : outputEvents es = [])
    (hopening : s'.pc.stage = .opening → s.pc.stage = .opening) : OutputInv (tr ++ es) s' := by
  constructor
  · rw [houtput]
    exact fun h => hi.opening (hopening h)
  · rw [houtput, outputEvents_append, hes, List.append_nil]
    exact hi.closed
  · rw [houtput, outputEvents_append, hes, List.append_nil]
    exact hi.run

theorem OutputInv.step {tr : List MainEvent} (hi : OutputInv tr s)
    (h : mainMachine config s a = some (s', es)) : OutputInv (tr ++ es) s' := by
  cases mainStep h with
  | move hstage hsame => exact hi.move hsame.output rfl fun h => hstage ▸ h
  | fail call hguard hstage hsame | failLate call hbefore hstage hsame =>
    exact hi.move hsame.output rfl fun h => by rw [hstage] at h; cases h
  | contextInit output outcome created hbefore hstage hcreate hs =>
    have hnone := hi.closed (hi.opening hbefore)
    rw [List.append_nil]
    constructor
    · intro h
      rw [hstage] at h
      cases h
    · intro h
      rw [hs] at h
      cases h
    · intro client h
      rw [hs] at h
      obtain rfl := Option.some.inj h
      refine ⟨output, outcome, created, hcreate, ?_⟩
      rw [hnone]
      exact .start
  | install hbefore hstage hs | report handle hbefore hstage hs | removeReport hbefore hstage hs
  | uninstall hbefore hstage hs =>
    apply hi.move _ rfl
    · rw [hstage]
      exact fun h => by cases h
    · have houtput := congrArg MainState.output hs
      exact houtput
  | printPass hbefore hstage hsame | failureRemove hbefore hstage _ hsame
  | failureSkip hbefore hstage _ hsame | failureUninstall hbefore hstage _ hsame
  | failureInstalled hbefore hstage _ hsame | failureStopped hbefore hstage hsame
  | destroyNothing passed hbefore hstage _ hsame | returned outputOk hbefore hstage hsame
  | returnedFail outputOk hbefore hstage hsame =>
    apply hi.move hsame.output rfl
    rw [hstage]
    exact fun h => by cases h
  | destroy passed hbefore hstage hcontext hs =>
    apply hi.move _ rfl
    · rw [hstage]
      exact fun h => by cases h
    · rw [hs]
  | pipeline action client client' events hclient hstep hs hstage =>
    obtain ⟨output, outcome, created, hcreate, hrun⟩ := hi.run client hclient
    have hnew : s'.output = some client' := by rw [hs]
    constructor
    · intro h
      rcases hstage with hsame | ⟨passed, outputOk, -, hfinished, -⟩
      · rw [hi.opening (hsame ▸ h)] at hclient
        cases hclient
      · rw [hfinished] at h
        cases h
    · intro h
      rw [hnew] at h
      cases h
    · intro later h
      rw [hnew] at h
      obtain rfl := Option.some.inj h
      refine ⟨output, outcome, created, hcreate, ?_⟩
      rw [outputEvents_append, outputEvents_pipeline]
      exact hrun.step hstep

theorem OutputInv.of_run {tr : List MainEvent}
    (h : Machine.Run (mainMachine config) mainStart tr s) : OutputInv tr s := by
  refine h.invariant ?_ fun hi hs => hi.step hs
  exact ⟨fun _ => rfl, fun _ => rfl, fun client h => by cases h⟩

/-- The shutdown of the output pipeline reports one verdict. -/
theorem OutputInv.verdict_unique {tr : List MainEvent} (hi : OutputInv tr s) {one other : Bool}
    (hone : .shutdownReturned one ∈ outputEvents tr)
    (hother : .shutdownReturned other ∈ outputEvents tr) : one = other := by
  cases houtput : s.output with
  | none =>
    rw [hi.closed houtput] at hone
    cases hone
  | some client =>
    obtain ⟨_, _, created, -, hrun⟩ := hi.run client houtput
    exact Collector.verdict_unique rfl hrun hone hother

/-! ### The runs of `main` -/

/-- The return comes alone, from a state without a subscription. -/
theorem returned_step {tr : List MainEvent} (hi : ResourceInv tr s)
    (h : mainMachine config s a = some (s', es)) {pre post : List MainEvent} {code : ℕ}
    (hes : es = pre ++ .returned code :: post) :
    unsubscribed (tr ++ pre) = subscribed (tr ++ pre) := by
  have hmem : .returned code ∈ es := by
    rw [hes]
    exact List.mem_append_right _ List.mem_cons_self
  have hdone (hcreated : s.subscriptionCreated = false) : unsubscribed tr = subscribed tr := by
    rw [hi.matched, hcreated]
    simp
  cases mainStep h with
  | returned outputOk hbefore hstage hsame =>
    have hmatched := hdone (hi.not_created (by rw [hbefore]; simp) (by rw [hbefore]; simp))
    obtain ⟨rfl, -⟩ : pre = [] ∧ _ := by
      cases pre with
      | nil => exact ⟨rfl, trivial⟩
      | cons e pre => simp at hes
    simpa using hmatched
  | returnedFail outputOk hbefore hstage hsame =>
    have hmatched := hdone (hi.not_created (by rw [hbefore]; simp) (by rw [hbefore]; simp))
    have hpre : pre = [.collectorResult false] := by
      cases pre with
      | nil => simp at hes
      | cons e pre =>
        obtain ⟨rfl, hrest⟩ := List.cons.inj hes
        cases pre with
        | nil => rfl
        | cons e pre => simp at hrest
    rw [hpre, subscribed_append, unsubscribed_append, hmatched]
    rfl
  | pipeline action client client' events hclient hstep hs hstage => simp at hmem
  | move | fail | failLate | contextInit | install | report | removeReport | uninstall | printPass
  | failureRemove | failureSkip | failureUninstall | failureInstalled | failureStopped | destroy
  | destroyNothing => simp at hmem

theorem exitCode_of_run {tr : List MainEvent}
    (h : Machine.Run (mainMachine config) mainStart tr s) {code : ℕ}
    (hcode : .returned code ∈ tr) : exitCodes tr = [code] ∧ ExitBy tr code := by
  have hi := ExitInv.of_run h
  have hmem : code ∈ exitCodes tr := List.mem_filterMap.mpr ⟨_, hcode, rfl⟩
  have hstage : ∃ c, s.pc.stage = .returned c := by
    by_contra hno
    have hearly : exitCodes tr = [] := by
      apply hi.early
      intro hway
      revert hway hno
      cases s.pc.stage with
      | returned code => simp
      | closing passed => cases passed <;> simp [Stage.way]
      | finished passed outputOk => cases passed <;> simp [Stage.way]
      | opening | ready | installed | subscribed | unsubscribed | stopping | failing
      | failingRemoved | failingClosed => simp [Stage.way]
    rw [hearly] at hmem
    cases hmem
  obtain ⟨c, hc⟩ := hstage
  obtain ⟨hcodes, hby⟩ := hi.returned c hc
  rw [hcodes, List.mem_singleton] at hmem
  rw [hmem]
  exact ⟨hcodes, hby⟩

/-- Whatever fails and however long `main` polls: a subscription is given back with its handle
before the return, the context is destroyed with the callback out of reach, the exit code is
zero only if no call and no part of the output has failed, and the lifecycle stops without an
active subscription. -/
theorem main_lifecycle {tr : List MainEvent}
    (h : Machine.Run (mainMachine config) mainStart tr s) :
    (∀ before code after, tr = before ++ .returned code :: after →
      unsubscribed before = subscribed before) ∧
    (subscribed tr).length ≤ 1 ∧ (∃ held, subscribed tr = unsubscribed tr ++ held) ∧
    (∀ active, .contextDestroyed active ∈ tr → active = false) ∧
    (∀ code, .returned code ∈ tr →
      (failedCalls tr ≠ [] ∨ .shutdownReturned false ∈ outputEvents tr) → code ≠ 0) ∧
    (s.lifecycle.state = .stopped → s.lifecycle.subscriptionActive = false) := by
  have hi := ResourceInv.of_run h
  refine ⟨fun before code after htr => ?_, hi.one, ⟨_, hi.matched⟩, hi.destroyed,
    fun code hcode hfailed => ?_, fun hstopped => hi.consistent (.inr hstopped)⟩
  · refine Machine.Run.event_property
      (P := fun before e => ∀ code, e = .returned code → unsubscribed before = subscribed before)
      ?_ h htr code rfl
    intro tr s a s' es hrun hs pre e post hes code he
    subst he
    exact returned_step (ResourceInv.of_run hrun) hs hes
  · obtain ⟨-, hby⟩ := exitCode_of_run h hcode
    cases hby with
    | failed => decide
    | passed outputOk hnone _ hshutdown =>
      rcases hfailed with hcalls | hfalse
      · exact absurd hnone hcalls
      · rw [(OutputInv.of_run h).verdict_unique hshutdown hfalse]
        decide

def unwrittenConfig : CollectorConfig := ⟨30, 250, 0⟩

/-- A run without a backend that polls once before it is asked to stop. -/
def mainScript : List MainAction :=
  [.advance, .transition false, .transition false, .nodes true, .transition false, .call true,
    .transition false, .call true, .init true (some ⟨none, none, none⟩) allSucceed, .advance,
    .report (some 7), .transition false, .clock (some 100), .poll 0 false true none,
    .transition false, .advance, .transition false, .advance, .call true, .transition false,
    .advance, .advance, .counters 0, .pipeline .stop, .advance]

theorem main_lifecycle_sample : ∃ tr s,
    Machine.exec (mainMachine unwrittenConfig) mainStart mainScript = some (tr, s) ∧
    (∀ before code after, tr = before ++ .returned code :: after →
      unsubscribed before = subscribed before) ∧
    (subscribed tr).length ≤ 1 ∧ (∃ held, subscribed tr = unsubscribed tr ++ held) ∧
    (∀ active, .contextDestroyed active ∈ tr → active = false) ∧
    (∀ code, .returned code ∈ tr →
      (failedCalls tr ≠ [] ∨ .shutdownReturned false ∈ outputEvents tr) → code ≠ 0) ∧
    (s.lifecycle.state = .stopped → s.lifecycle.subscriptionActive = false) := by
  have hcodes : (Machine.exec (mainMachine unwrittenConfig) mainStart mainScript).map
      (fun r => exitCodes r.1) = some [0] := by decide +kernel
  obtain ⟨⟨tr, s⟩, hexec, -⟩ := Option.map_eq_some_iff.mp hcodes
  exact ⟨tr, s, hexec, main_lifecycle (Machine.run_of_exec hexec)⟩

end TcdOran.Collector
