import TcdOran.Collector.OutputAdapter
import TcdOran.Collector.PipelineQueue

/-! The thread on which FlexRIC delivers indications, next to the output pipeline it submits to.
The callback and the pipeline's other threads interleave freely; a callback that submits has
not returned, so the next indication waits for its last record. -/
namespace TcdOran.Collector
open TcdOran.Lib

abbrev callbackThread : ThreadId := 0

/-- `pending` are the records of the indication under way that are not yet submitted. -/
structure CallbackState where
  context : CallbackContext
  pending : List MeasurementRecord
  system : System

def CallbackState.start (context : CallbackContext) (pipeline : OutputPipeline) : CallbackState where
  context := context
  pending := []
  system := System.start pipeline

inductive CallbackAction
  | deliver (rd : Option AgentRead) (e2Node : Option GlobalE2NodeId) (clock : Option Int64)
  | submitNext (contended : Bool)
  | pipeline (action : Action)

/-- `delivered` carries the sequence number and the raw message format of an indication. -/
inductive CallbackEvent
  | delivered (sequence : UInt64) (format : UInt32)
  | pipeline (event : Event)

def Action.isSubmit : Action → Bool
  | .submit _ _ _ => true
  | _ => false

def ShutdownPc.isIdle : ShutdownPc → Bool
  | .idle => true
  | _ => false

def SubmitPc.isIdle : SubmitPc → Bool
  | .idle => true
  | _ => false

/-- What is delivered, when it is an indication at all. -/
def deliveredEvents (context : CallbackContext) :
    Option AgentRead → Option GlobalE2NodeId → List CallbackEvent
  | some (.kpmIndication kpm), some _ =>
      [.delivered (context.nextIndicationSequence + 1) kpm.msg.type]
  | _, _ => []

def CallbackState.withSystem (c : CallbackState) (r : System × List Event) :
    CallbackState × List CallbackEvent :=
  ({ c with system := r.1 }, r.2.map .pipeline)

/-- The callback is uninstalled before the shutdown begins, and only its thread submits. -/
def callbackMachine : Machine CallbackState CallbackAction CallbackEvent
  | c, .deliver rd e2Node clock =>
      if c.pending.isEmpty && (c.system.submitters callbackThread).isIdle &&
          c.system.shutdown.isIdle then
        some ({ c with
          context := (flexricCallback c.context rd e2Node clock).1
          pending := (flexricCallback c.context rd e2Node clock).2 },
          deliveredEvents c.context rd e2Node)
      else none
  | c, .submitNext contended =>
      match c.pending with
      | [] => none
      | record :: pending =>
          (pipelineMachine c.system
            (.submit callbackThread (some (canonicalImage record)) contended)).map
            { c with pending }.withSystem
  | c, .pipeline action =>
      if action.isSubmit then none else (pipelineMachine c.system action).map c.withSystem

/-! ### Its pipeline -/

def CallbackEvent.pipeline? : CallbackEvent → Option Event
  | .pipeline event => some event
  | .delivered _ _ => none

/-- What the pipeline does in a run of the collector. -/
def pipelineEvents (tr : List CallbackEvent) : List Event := tr.filterMap CallbackEvent.pipeline?

@[simp] theorem pipelineEvents_append (tr es : List CallbackEvent) :
    pipelineEvents (tr ++ es) = pipelineEvents tr ++ pipelineEvents es := List.filterMap_append

@[simp] theorem pipelineEvents_map (es : List Event) :
    pipelineEvents (es.map .pipeline) = es := by
  induction es with
  | nil => rfl
  | cons e es ih => exact congrArg (e :: ·) ih

@[simp] theorem pipelineEvents_delivered (context : CallbackContext) (rd : Option AgentRead)
    (e2Node : Option GlobalE2NodeId) : pipelineEvents (deliveredEvents context rd e2Node) = [] := by
  unfold deliveredEvents
  split <;> rfl

variable {c c' : CallbackState} {a : CallbackAction} {es : List CallbackEvent}

/-- Every step of the collector is one of these. -/
inductive CallbackStep (c c' : CallbackState) (es : List CallbackEvent) : Prop
  | deliver (rd : Option AgentRead) (e2Node : Option GlobalE2NodeId) (clock : Option Int64) :
      c.pending = [] → c'.context = (flexricCallback c.context rd e2Node clock).1 →
      c'.pending = (flexricCallback c.context rd e2Node clock).2 → c'.system = c.system →
      es = deliveredEvents c.context rd e2Node → CallbackStep c c' es
  | submit (record : MeasurementRecord) (contended : Bool) (events : List Event) :
      c.pending = record :: c'.pending → c'.context = c.context →
      pipelineMachine c.system (.submit callbackThread (some (canonicalImage record)) contended) =
        some (c'.system, events) →
      es = events.map .pipeline → CallbackStep c c' es
  | pipeline (action : Action) (events : List Event) : action.isSubmit = false →
      c'.pending = c.pending → c'.context = c.context →
      pipelineMachine c.system action = some (c'.system, events) →
      es = events.map .pipeline → CallbackStep c c' es

theorem callbackStep (h : callbackMachine c a = some (c', es)) : CallbackStep c c' es := by
  cases a with
  | deliver rd e2Node clock =>
    simp only [callbackMachine] at h
    split at h
    · next hready =>
      obtain ⟨rfl, rfl⟩ := Prod.mk.inj (Option.some.inj h)
      simp only [Bool.and_eq_true, List.isEmpty_iff] at hready
      exact .deliver rd e2Node clock hready.1.1 rfl rfl rfl rfl
    · cases h
  | submitNext contended =>
    simp only [callbackMachine] at h
    split at h
    · cases h
    · next record pending hpending =>
      obtain ⟨⟨s, events⟩, hs, h⟩ := Option.map_eq_some_iff.mp h
      obtain ⟨rfl, rfl⟩ := Prod.mk.inj h
      exact .submit record contended events hpending rfl hs rfl
  | pipeline action =>
    simp only [callbackMachine] at h
    split at h
    · cases h
    · next hsubmit =>
      obtain ⟨⟨s, events⟩, hs, h⟩ := Option.map_eq_some_iff.mp h
      obtain ⟨rfl, rfl⟩ := Prod.mk.inj h
      exact .pipeline action events (by simpa using hsubmit) rfl rfl hs rfl

/-- A run of the collector is a run of its pipeline. -/
theorem run_of_callback {context : CallbackContext} {pipeline : OutputPipeline}
    {tr : List CallbackEvent}
    (h : Machine.Run callbackMachine (CallbackState.start context pipeline) tr c) :
    Machine.Run pipelineMachine (System.start pipeline) (pipelineEvents tr) c.system := by
  refine h.invariant (I := fun tr c =>
    Machine.Run pipelineMachine (System.start pipeline) (pipelineEvents tr) c.system) .start ?_
  intro tr c a c' es hrun hs
  cases callbackStep hs with
  | deliver rd e2Node clock _ _ _ hsystem hes =>
    rw [hes, hsystem]
    simpa using hrun
  | submit record contended events _ _ hs hes =>
    rw [hes, pipelineEvents_append, pipelineEvents_map]
    exact hrun.step hs
  | pipeline action events _ _ _ hs hes =>
    rw [hes, pipelineEvents_append, pipelineEvents_map]
    exact hrun.step hs

/-! ### Its deliveries -/

/-- An indication and the records of it that were accepted. -/
structure Delivery where
  sequence : UInt64
  format : UInt32
  records : List CanonicalRecord

def addAccepted (records : List CanonicalRecord) : List Delivery → List Delivery
  | [] => []
  | delivery :: before => { delivery with records := delivery.records ++ records } :: before

/-- The deliveries of a run, the latest first. -/
def deliveriesFrom : List Delivery → List CallbackEvent → List Delivery
  | before, [] => before
  | before, .delivered sequence format :: tr => deliveriesFrom (⟨sequence, format, []⟩ :: before) tr
  | before, .pipeline event :: tr =>
      deliveriesFrom (addAccepted (Collector.accepted [event]) before) tr

def deliveries (tr : List CallbackEvent) : List Delivery := deliveriesFrom [] tr

theorem deliveriesFrom_append (before : List Delivery) (tr es : List CallbackEvent) :
    deliveriesFrom before (tr ++ es) = deliveriesFrom (deliveriesFrom before tr) es := by
  induction tr generalizing before with
  | nil => rfl
  | cons e tr ih => cases e <;> exact ih _

theorem deliveries_append (tr es : List CallbackEvent) :
    deliveries (tr ++ es) = deliveriesFrom (deliveries tr) es := deliveriesFrom_append _ _ _

@[simp] theorem addAccepted_nil (before : List Delivery) : addAccepted [] before = before := by
  cases before with
  | nil => rfl
  | cons delivery before => rw [addAccepted, List.append_nil]

theorem addAccepted_append (xs ys : List CanonicalRecord) (before : List Delivery) :
    addAccepted ys (addAccepted xs before) = addAccepted (xs ++ ys) before := by
  cases before with
  | nil => rfl
  | cons delivery before => simp only [addAccepted, List.append_assoc]

theorem deliveriesFrom_pipeline (before : List Delivery) (events : List Event) :
    deliveriesFrom before (events.map .pipeline) =
      addAccepted (Collector.accepted events) before := by
  induction events generalizing before with
  | nil => exact (addAccepted_nil _).symm
  | cons event events ih =>
    rw [List.map_cons, deliveriesFrom, ih, addAccepted_append]
    exact congrArg (addAccepted · before) (accepted_append [event] events).symm

/-- Only a submit accepts a record, and only the one it submits. -/
theorem accepted_step {s s' : System} {action : Action} {events : List Event}
    (h : pipelineMachine s action = some (s', events)) :
    Collector.accepted events = [] ∨ ∃ thread record contended,
      action = .submit thread (some record) contended ∧ Collector.accepted events = [record] := by
  unfold pipelineMachine at h
  split at h
  · cases h
  cases action with
  | submit thread record contended =>
    simp only [stepLive, stepSubmit] at h
    split at h
    · next present _ =>
      split at h
      · cases h
        exact .inr ⟨thread, present, contended, rfl, rfl⟩
      · cases h
        exact .inl rfl
    · cases h
      exact .inl rfl
    · cases h
  | markFailed thread =>
    simp only [stepLive, stepMarkFailed] at h
    split at h
    · cases h
      exact .inl (accepted_rejected _ _)
    · cases h
  | dequeue =>
    simp only [stepLive, stepDequeue] at h
    repeat' split at h
    all_goals
      first
      | cases h
        exact .inl rfl
      | cases h
      | obtain ⟨_, -, h⟩ := Option.bind_eq_some_iff.mp h
        cases h
        exact .inl rfl
  | countDrop | writeCsv | writeJsonl | account | writePrometheus
  | accountPrometheus | clearBusy | waitIdle | setRuntimeCounters | snapshotLock | snapshotDropped
  | snapshotCompose | stop | join | closeCsv | accountCsv | closeJsonl | accountJsonl
  | composeFinal | writeFinal | checkDropped | checkFailed =>
    simp only [stepLive, stepCountDrop, stepWriteCsv, stepWriteJsonl,
      stepAccount, stepWritePrometheus, stepAccountPrometheus, stepClearBusy, stepWaitIdle,
      stepSetRuntimeCounters, stepSnapshotLock, stepSnapshotDropped, stepSnapshotCompose,
      stepStop, stepJoin, stepCloseCsv, stepAccountCsv, stepCloseJsonl, stepAccountJsonl,
      stepComposeFinal, stepWriteFinal, stepCheckDropped, stepCheckFailed] at h
    repeat' split at h
    all_goals
      first
      | cases h
        exact .inl rfl
      | cases h

end TcdOran.Collector
