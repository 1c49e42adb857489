import TcdOran.Collector.Lifecycle
import TcdOran.Collector.PipelineShutdown

/-! `main` of main.c behind the loading of its configuration, next to the output pipeline its
callback context owns. A step of `main` ends with a call that can fail; between two steps the
pipeline's other threads run freely. -/
namespace TcdOran.Collector
open TcdOran.Lib

structure CollectorConfig where
  discoveryTimeoutSeconds : UInt32
  discoveryPollMs : UInt32
  durationSeconds : UInt32

/-- The calls whose failure `main` acts on. -/
inductive MainCall
  | transition (next : LifecycleState)
  | discovery | selection | requestBuild | contextInit | install | report | clock | stopApi

/-- Where `main` stands. `passed` says whether the way there led past the line with the verdict
PASS. -/
inductive MainPc
  | initApi | toApiInitialised | toRicConnected
  | discover (elapsedMs : UInt64)
  | toNodeDiscovered | selectNode | toNodeSelected | buildRequest | contextInit | install | report
  | toSubscriptionActive | startClock
  | poll (startMs : UInt64) (receivingDone : Bool)
  | toStopRequested | removeReport | toSubscriptionRemoved | uninstall | stopApi | toStopped
  | printPass
  | failure | failureRemove | failureUninstall | failureStop | failureStopped
  | destroy (passed : Bool)
  | setCounters (passed : Bool)
  | shutdown (passed : Bool)
  | finish (passed outputOk : Bool)
  | returned (code : ℕ)

/-- The local variables of `main`; `activeContext` says whether the global pointer of the
callback is to its context, and `output` is the context's pipeline once there is one. -/
structure MainState where
  pc : MainPc
  lifecycle : Lifecycle
  apiInitialised : Bool
  contextInitialised : Bool
  callbackInstalled : Bool
  subscriptionCreated : Bool
  subscriptionHandle : Int
  subscriptionsCreated : UInt64
  subscriptionsRemoved : UInt64
  activeContext : Bool
  output : Option (Option System)

def mainStart : MainState where
  pc := .initApi
  lifecycle := lifecycleInit
  apiInitialised := false
  contextInitialised := false
  callbackInstalled := false
  subscriptionCreated := false
  subscriptionHandle := -1
  subscriptionsCreated := 0
  subscriptionsRemoved := 0
  activeContext := false
  output := none

inductive MainEvent
  | callFailed (call : MainCall)
  | subscribed (handle : Int)
  | unsubscribed (handle : Int)
  | contextDestroyed (active : Bool)
  | collectorResult (pass : Bool)
  | returned (code : ℕ)
  | pipeline (event : Event)

/-- What the calls of a step answer. A transition may be refused for no reason, so that what
follows a refusal is reached as well. -/
inductive MainAction
  | advance
  | transition (refused : Bool)
  | nodes (found : Bool)
  | call (ok : Bool)
  | init (mutexInits : Bool) (config : Option OutputPipelineConfig) (outcome : CreateOutcome)
  | report (answer : Option Int)
  | clock (reading : Option UInt64)
  | poll (indications : UInt64) (refused stopRequested : Bool) (reading : Option UInt64)
  | counters (callbackErrors : UInt64)
  | pipeline (action : Action)

abbrev MainResult := Option (MainState × List MainEvent)

def MainState.goto (s : MainState) (pc : MainPc) : MainResult := some ({ s with pc }, [])

def MainState.fail (s : MainState) (call : MainCall) (pc : MainPc) : MainResult :=
  some ({ s with pc }, [.callFailed call])

def tryTransition (lifecycle : Lifecycle) (next : LifecycleState) (refused : Bool) :
    Option Lifecycle :=
  if refused then none else lifecycleTransition lifecycle next

def MainState.transition (s : MainState) (next : LifecycleState) (refused : Bool)
    (done failed : MainPc) : MainResult :=
  match tryTransition s.lifecycle next refused with
  | some lifecycle => some ({ s with lifecycle, pc := done }, [])
  | none => s.fail (.transition next) failed

/-- A transition whose result is not looked at. -/
def MainState.attempt (s : MainState) (next : LifecycleState) (refused : Bool) : MainState :=
  { s with lifecycle := (tryTransition s.lifecycle next refused).getD s.lifecycle }

/-! ### The polling loops -/

/-- One pass of the discovery loop; `found` says whether there is a node. -/
def stepDiscover (config : CollectorConfig) (s : MainState) (elapsedMs : UInt64) (found : Bool) :
    MainResult :=
  let timeoutMs := config.discoveryTimeoutSeconds.toUInt64 * 1000
  let next := elapsedMs + config.discoveryPollMs.toUInt64
  if elapsedMs > timeoutMs then s.fail .discovery .failure
  else if found then s.goto .toNodeDiscovered
  else if elapsedMs = timeoutMs then s.fail .discovery .failure
  else s.goto (.discover (if next > timeoutMs then timeoutMs else next))

def stepPollRest (config : CollectorConfig) (s : MainState) (startMs : UInt64)
    (receivingDone stopRequested : Bool) (reading : Option UInt64) : MainResult :=
  if stopRequested then s.goto .toStopRequested
  else match reading with
    | none => s.fail .clock .failure
    | some nowMs =>
        if config.durationSeconds > 0 ∧
            nowMs - startMs ≥ config.durationSeconds.toUInt64 * 1000 then
          s.goto .toStopRequested
        else s.goto (.poll startMs receivingDone)

/-- One pass of the loop that receives, with the number of indications received so far. -/
def stepPoll (config : CollectorConfig) (s : MainState) (startMs : UInt64) (receivingDone : Bool)
    (indications : UInt64) (refused stopRequested : Bool) (reading : Option UInt64) : MainResult :=
  if indications > 0 ∧ !receivingDone then
    match tryTransition s.lifecycle .receiving refused with
    | some lifecycle =>
        stepPollRest config { s with lifecycle } startMs true stopRequested reading
    | none => s.fail (.transition .receiving) .failure
  else stepPollRest config s startMs receivingDone stopRequested reading

/-! ### Subscribing and releasing -/

/-- `tcd_kpm_callback_context_init`, which creates the output pipeline. -/
def stepContextInit (s : MainState) (mutexInits : Bool) (config : Option OutputPipelineConfig)
    (outcome : CreateOutcome) : MainResult :=
  if mutexInits then
    match outputPipelineCreate config outcome with
    | .ok created =>
        some ({ s with
          contextInitialised := true
          output := some (created.map System.start)
          pc := .install }, [])
    | .error _ => s.fail .contextInit .failure
  else s.fail .contextInit .failure

/-- `tcd_kpm_callback_install` exchanges the null pointer for the context. -/
def stepInstall (s : MainState) : MainResult :=
  if s.activeContext then s.fail .install .failure
  else some ({ s with activeContext := true, callbackInstalled := true, pc := .report }, [])

def stepReport (s : MainState) : Option Int → MainResult
  | some handle =>
      some ({ s with
        subscriptionHandle := handle
        subscriptionCreated := true
        subscriptionsCreated := s.subscriptionsCreated + 1
        pc := .toSubscriptionActive }, [.subscribed handle])
  | none => s.fail .report .failure

def MainState.removeReport (s : MainState) : MainState :=
  { s with
    subscriptionCreated := false
    subscriptionHandle := -1
    subscriptionsRemoved := s.subscriptionsRemoved + 1 }

def MainState.uninstall (s : MainState) : MainState :=
  { s with activeContext := false, callbackInstalled := false }

/-! ### The failure label -/

def stepFailure (s : MainState) (refused : Bool) : MainResult :=
  if s.lifecycle.state ≠ .failed ∧ s.lifecycle.state ≠ .stopped then
    (s.attempt .failed refused).goto .failureRemove
  else s.goto .failureRemove

def stepFailureRemove (s : MainState) (refused : Bool) : MainResult :=
  if s.subscriptionCreated then
    some ({ (s.removeReport.attempt .subscriptionRemoved refused) with pc := .failureUninstall },
      [.unsubscribed s.subscriptionHandle])
  else s.goto .failureUninstall

def stepFailureUninstall (s : MainState) : MainResult :=
  if s.callbackInstalled then s.uninstall.goto .failureStop else s.goto .failureStop

/-- Whether the stop timed out is only reported. -/
def stepFailureStop (s : MainState) : MainResult :=
  { s with apiInitialised := false }.goto .failureStopped

def stepFailureStopped (s : MainState) (refused : Bool) : MainResult :=
  if s.lifecycle.state = .failed ∧ !s.lifecycle.subscriptionActive then
    (s.attempt .stopped refused).goto (.destroy false)
  else if s.lifecycle.state = .subscriptionRemoved then
    (s.attempt .stopped refused).goto (.destroy false)
  else s.goto (.destroy false)

/-! ### The end -/

/-- `tcd_kpm_callback_context_destroy` uninstalls the callback before anything else. -/
def stepDestroy (s : MainState) (passed : Bool) : MainResult :=
  if s.contextInitialised then
    some ({ s with activeContext := false, pc := .setCounters passed },
      [.contextDestroyed s.activeContext])
  else s.goto (.finish passed true)

def MainState.setOutput (s : MainState) (r : Option System × List Event) :
    MainState × List MainEvent :=
  ({ s with output := some r.1 }, r.2.map .pipeline)

def stepSetCounters (s : MainState) (passed : Bool) (callbackErrors : UInt64) : MainResult := do
  let client ← s.output
  let r ← clientMachine client
    (.setRuntimeCounters callbackErrors s.subscriptionsCreated s.subscriptionsRemoved)
  return { s with pc := .shutdown passed }.setOutput r

/-- The verdict line of the failing way, and the exit code. -/
def stepFinish (s : MainState) (passed outputOk : Bool) : MainResult :=
  if passed then
    if outputOk then some ({ s with pc := .returned 0 }, [.returned 0])
    else some ({ s with pc := .returned 1 }, [.returned 1])
  else some ({ s with pc := .returned 1 }, [.collectorResult false, .returned 1])

/-- The calls on the pipeline that are `main`'s own: those of its shutdown, and the one that
`stepSetCounters` makes. -/
def Action.mainsOwn : Action → Bool
  | .setRuntimeCounters _ _ _ | .stop | .join | .closeCsv _ | .accountCsv | .closeJsonl _
  | .accountJsonl | .composeFinal _ | .writeFinal _ | .checkDropped | .checkFailed => true
  | _ => false

def Action.setsCounters : Action → Bool
  | .setRuntimeCounters _ _ _ => true
  | _ => false

def MainPc.allows (pc : MainPc) (action : Action) : Bool :=
  match pc with
  | .returned _ => false
  | .shutdown _ => !action.setsCounters
  | _ => !action.mainsOwn

/-- The shutdown is over when it has returned. -/
def MainPc.afterPipeline (pc : MainPc) (events : List Event) : MainPc :=
  match pc, events.filterMap Event.verdict? with
  | .shutdown passed, outputOk :: _ => .finish passed outputOk
  | pc, _ => pc

def stepPipeline (s : MainState) (action : Action) : MainResult :=
  if s.pc.allows action then do
    let client ← s.output
    let r ← clientMachine client action
    return { s with pc := s.pc.afterPipeline r.2 }.setOutput r
  else none

def mainMachine (config : CollectorConfig) : Machine MainState MainAction MainEvent :=
  fun s action => match s.pc, action with
  | _, .pipeline action => stepPipeline s action
  | .initApi, .advance => { s with apiInitialised := true }.goto .toApiInitialised
  | .toApiInitialised, .transition refused =>
      s.transition .apiInitialised refused .toRicConnected .failure
  | .toRicConnected, .transition refused =>
      s.transition .ricConnected refused (.discover 0) .failure
  | .discover elapsedMs, .nodes found => stepDiscover config s elapsedMs found
  | .toNodeDiscovered, .transition refused =>
      s.transition .nodeDiscovered refused .selectNode .failure
  | .selectNode, .call ok => if ok then s.goto .toNodeSelected else s.fail .selection .failure
  | .toNodeSelected, .transition refused =>
      s.transition .nodeSelected refused .buildRequest .failure
  | .buildRequest, .call ok =>
      if ok then
        { s with lifecycle := { s.lifecycle with logicalSubscriptionId := 1 } }.goto .contextInit
      else s.fail .requestBuild .failure
  | .contextInit, .init mutexInits config outcome => stepContextInit s mutexInits config outcome
  | .install, .advance => stepInstall s
  | .report, .report answer => stepReport s answer
  | .toSubscriptionActive, .transition refused =>
      s.transition .subscriptionActive refused .startClock .failure
  | .startClock, .clock (some startMs) => s.goto (.poll startMs false)
  | .startClock, .clock none => s.fail .clock .failure
  | .poll startMs receivingDone, .poll indications refused stopRequested reading =>
      stepPoll config s startMs receivingDone indications refused stopRequested reading
  | .toStopRequested, .transition refused =>
      s.transition .stopRequested refused .removeReport .failure
  | .removeReport, .advance =>
      some ({ s.removeReport with pc := .toSubscriptionRemoved },
        [.unsubscribed s.subscriptionHandle])
  | .toSubscriptionRemoved, .transition refused =>
      s.transition .subscriptionRemoved refused .uninstall .failure
  | .uninstall, .advance => s.uninstall.goto .stopApi
  | .stopApi, .call ok =>
      if ok then { s with apiInitialised := false }.goto .toStopped
      else s.fail .stopApi (.destroy false)
  | .toStopped, .transition refused => s.transition .stopped refused .printPass (.destroy false)
  | .printPass, .advance => some ({ s with pc := .destroy true }, [.collectorResult true])
  | .failure, .transition refused => stepFailure s refused
  | .failureRemove, .transition refused => stepFailureRemove s refused
  | .failureUninstall, .advance => stepFailureUninstall s
  | .failureStop, .advance => stepFailureStop s
  | .failureStopped, .transition refused => stepFailureStopped s refused
  | .destroy passed, .advance => stepDestroy s passed
  | .setCounters passed, .counters callbackErrors => stepSetCounters s passed callbackErrors
  | .finish passed outputOk, .advance => stepFinish s passed outputOk
  | _, _ => none

end TcdOran.Collector
