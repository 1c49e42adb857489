import Mathlib.Data.List.Infix
import TcdOran.Lib.Machine
import TcdOran.Lib.Text

/-! prompt12-t2-experiment.py in its live mode: any number of invocations of the controller over the
directories they share. An invocation may be killed between any two steps; its files stay. -/
namespace TcdOran.Harness.T2Controller
open TcdOran.Lib

abbrev InvocationId := ℕ

inductive Protocol
  | legacy | postvalV1
  deriving DecidableEq

/-- `begun` is a file whose text is not all there. -/
inductive RecordFile
  | absent | begun | complete
  deriving DecidableEq

/-- The directory of an experiment id and a run id. `outcome.json` has one text, which says PASS. -/
structure OperationDirectory where
  intent : RecordFile
  log : Bool
  outcome : RecordFile
  failure : RecordFile
  deriving DecidableEq

def OperationDirectory.empty : OperationDirectory := ⟨.absent, false, .absent, .absent⟩

structure ControllerFiles where
  claims : String → Bool
  operations : String → String → Option OperationDirectory

def ControllerFiles.addClaim (files : ControllerFiles) (runId : String) : ControllerFiles :=
  { files with claims := Function.update files.claims runId true }

def ControllerFiles.setOperation (files : ControllerFiles) (experimentId runId : String)
    (directory : OperationDirectory) : ControllerFiles :=
  { files with operations := fun e r =>
      if e = experimentId ∧ r = runId then some directory else files.operations e r }

/-- Up to the creation of the operation directory. -/
inductive ClaimPc
  | makeParent | checkOperation | makeClaims | makeClaim | makeOperation
  deriving DecidableEq

/-- Behind the creation of the operation directory. The handler begins with `openFailure`. -/
inductive OwnedPc
  | openIntent | storeIntent | openLog | popen | streaming | waiting | closeLog
  | openOutcome | storeOutcome | syncOutcome | printPass
  | openFailure | storeFailure | reportFailure
  deriving DecidableEq

/-- A killed invocation has no exit status. -/
inductive Pc
  | claim (pc : ClaimPc)
  | owned (pc : OwnedPc)
  | ended (status : Option ℤ)
  deriving DecidableEq

/-- The gates that have been observed. -/
structure Observed where
  isMacro : Bool
  scientific : Bool
  deriving DecidableEq

structure Invocation where
  experimentId : String
  runId : String
  protocol : Protocol
  pc : Pc
  observed : Observed
  rc : Option ℤ
  deriving DecidableEq

structure ControllerState where
  files : ControllerFiles
  invocations : InvocationId → Option Invocation

def controllerStart : ControllerState :=
  ⟨⟨fun _ => false, fun _ _ => none⟩, fun _ => none⟩

inductive Raised
  | osError | otherException | interrupt
  deriving DecidableEq

/-- `main` turns the first kind into a status of its own. -/
def Raised.status : Raised → ℤ
  | .osError => 65
  | .otherException => 1
  | .interrupt => 130

/-- How the call of a step ends. With `effect` it has done its work before it raises. -/
inductive Answer
  | done
  | raises (error : Raised) (effect : Bool)
  | line (text : List ℕ)
  | endOfOutput
  | exited (rc : ℤ)

inductive ControllerEvent
  | invoked (id : InvocationId) (experimentId runId : String) (protocol : Protocol)
  | claimed (id : InvocationId) (runId : String)
  | started (id : InvocationId) (runId : String)
  | read (id : InvocationId) (text : List ℕ)
  | exited (id : InvocationId) (rc : ℤ)
  | returned (id : InvocationId) (status : ℤ)
  deriving DecidableEq

inductive ControllerAction
  | invoke (id : InvocationId) (experimentId runId : String) (protocol : Protocol)
  | step (id : InvocationId) (answer : Answer)
  | kill (id : InvocationId)

/-! ### One invocation -/

def macroGate : List ℕ := chars "SCI_ORAN_EXPERIMENT_GATE=PASS"

def Protocol.scientificGate : Protocol → List ℕ
  | .legacy => chars "SCIENTIFIC_T2_GATE=PASS"
  | .postvalV1 => chars "T2_POSTVAL_VALIDATED=PASS"

namespace Invocation

def goto (i : Invocation) (pc : OwnedPc) : Invocation := { i with pc := .owned pc }

def observe (i : Invocation) (text : List ℕ) : Invocation :=
  { i with
    observed.isMacro := i.observed.isMacro || decide (macroGate <:+: text)
    observed.scientific := i.observed.scientific || decide (i.protocol.scientificGate <:+: text) }

/-- The gate behind the log. -/
def passes (i : Invocation) : Bool :=
  i.rc = some 0 ∧ i.observed.isMacro = true ∧ i.observed.scientific = true

end Invocation

abbrev ClaimResult := Option (ControllerFiles × Invocation × List ControllerEvent)
abbrev OwnedResult := Option (OperationDirectory × Invocation × List ControllerEvent)

section
variable (id : InvocationId) (i : Invocation)

def finish (status : ℤ) : Invocation × List ControllerEvent :=
  ({ i with pc := .ended (some status) }, [.returned id status])

def claimStep (files : ControllerFiles) (pc : ClaimPc) (answer : Answer) : ClaimResult :=
  match pc, answer with
  | .makeParent, .done => some (files, { i with pc := .claim .checkOperation }, [])
  | .checkOperation, .done =>
      if (files.operations i.experimentId i.runId).isSome then some (files, finish id i 65)
      else some (files, { i with pc := .claim .makeClaims }, [])
  | .makeClaims, .done => some (files, { i with pc := .claim .makeClaim }, [])
  | .makeClaim, .done =>
      if files.claims i.runId then some (files, finish id i 65)
      else some (files.addClaim i.runId, { i with pc := .claim .makeOperation },
        [.claimed id i.runId])
  | .makeClaim, .raises error effect =>
      some (if effect then files.addClaim i.runId else files, finish id i error.status)
  | .makeOperation, .done =>
      if (files.operations i.experimentId i.runId).isSome then some (files, finish id i 65)
      else some (files.setOperation i.experimentId i.runId .empty, i.goto .openIntent, [])
  | .makeOperation, .raises error effect =>
      -- what raises behind the creation leaves the directory
      if effect ∧ files.operations i.experimentId i.runId = none then
        some (files.setOperation i.experimentId i.runId .empty, finish id i error.status)
      else some (files, finish id i error.status)
  | _, .raises error _ => some (files, finish id i error.status)
  | _, _ => none

/-- The steps that `try` encloses; what they raise is recorded. -/
def tryStep (d : OperationDirectory) (pc : OwnedPc) (answer : Answer) : OwnedResult :=
  match pc, answer with
  | .openLog, .done => if d.log then none else some ({ d with log := true }, i.goto .popen, [])
  | .popen, .done => some (d, i.goto .streaming, [.started id i.runId])
  | .popen, .raises _ true => some (d, i.goto .openFailure, [.started id i.runId])
  | .streaming, .line text => some (d, i.observe text, [.read id text])
  | .streaming, .endOfOutput => some (d, i.goto .waiting, [])
  | .waiting, .exited rc => some (d, { i with rc := some rc }.goto .closeLog, [.exited id rc])
  | .closeLog, .done => some (d, i.goto (if i.passes then .openOutcome else .openFailure), [])
  | .openOutcome, .done =>
      if d.outcome = .absent then some ({ d with outcome := .begun }, i.goto .storeOutcome, [])
      else none
  | .openOutcome, .raises _ true => some ({ d with outcome := .begun }, i.goto .openFailure, [])
  | .storeOutcome, .done => some ({ d with outcome := .complete }, i.goto .syncOutcome, [])
  | .storeOutcome, .raises _ true =>
      -- the text has reached the file, at the latest where it is closed
      some ({ d with outcome := .complete }, i.goto .openFailure, [])
  | .syncOutcome, .done => some (d, i.goto .printPass, [])
  | .printPass, .done => some (d, finish id i 0)
  | _, .raises _ _ => some (d, i.goto .openFailure, [])
  | _, _ => none

/-- The record of the failure; only an `OSError` from it is passed over. -/
def handlerStep (d : OperationDirectory) (pc : OwnedPc) (answer : Answer) : OwnedResult :=
  match pc, answer with
  | .openFailure, .done =>
      if d.failure = .absent then some ({ d with failure := .begun }, i.goto .storeFailure, [])
      else none
  | .openFailure, .raises .osError effect =>
      some (if effect then { d with failure := .begun } else d, i.goto .reportFailure, [])
  | .openFailure, .raises error effect =>
      some (if effect then { d with failure := .begun } else d, finish id i error.status)
  | .storeFailure, .done => some ({ d with failure := .complete }, i.goto .reportFailure, [])
  | .storeFailure, .raises .osError _ => some (d, i.goto .reportFailure, [])
  | .reportFailure, .done => some (d, finish id i 70)
  | _, .raises error _ => some (d, finish id i error.status)
  | _, _ => none

def ownedStep (d : OperationDirectory) (pc : OwnedPc) (answer : Answer) : OwnedResult :=
  match pc, answer with
  | .openIntent, .done =>
      if d.intent = .absent then some ({ d with intent := .begun }, i.goto .storeIntent, [])
      else none
  | .storeIntent, .done => some ({ d with intent := .complete }, i.goto .openLog, [])
  | .openIntent, .raises error _ | .storeIntent, .raises error _ =>
      some (d, finish id i error.status)
  | .openFailure, _ | .storeFailure, _ | .reportFailure, _ => handlerStep id i d pc answer
  | _, _ => tryStep id i d pc answer

end

/-! ### All invocations -/

def ControllerState.setInvocation (s : ControllerState) (id : InvocationId) (i : Invocation) :
    ControllerState :=
  { s with invocations := Function.update s.invocations id (some i) }

/-- A step of an invocation in its own directory. -/
def stepOwned (s : ControllerState) (id : InvocationId) (i : Invocation) (pc : OwnedPc)
    (answer : Answer) : Option (ControllerState × List ControllerEvent) := do
  let d ← s.files.operations i.experimentId i.runId
  let (d, i', events) ← ownedStep id i d pc answer
  return ({ s with files := s.files.setOperation i.experimentId i.runId d }.setInvocation id i',
    events)

def stepClaim (s : ControllerState) (id : InvocationId) (i : Invocation) (pc : ClaimPc)
    (answer : Answer) : Option (ControllerState × List ControllerEvent) := do
  let (files, i', events) ← claimStep id i s.files pc answer
  return ({ s with files }.setInvocation id i', events)

def controllerMachine : Machine ControllerState ControllerAction ControllerEvent := fun s action =>
  match action with
  | .invoke id experimentId runId protocol =>
      match s.invocations id with
      | some _ => none
      | none => some (s.setInvocation id
          ⟨experimentId, runId, protocol, .claim .makeParent, ⟨false, false⟩, none⟩,
          [.invoked id experimentId runId protocol])
  | .step id answer => do
      let i ← s.invocations id
      match i.pc with
      | .claim pc => stepClaim s id i pc answer
      | .owned pc => stepOwned s id i pc answer
      | .ended _ => none
  | .kill id => do
      let i ← s.invocations id
      return (s.setInvocation id { i with pc := .ended none }, [])

/-! ### What is promised -/

def ControllerEvent.started? : ControllerEvent → Option String
  | .started _ runId => some runId
  | _ => none

/-- What stands in the trace of an invocation that answers zero. -/
structure Passed (tr : List ControllerEvent) (id : InvocationId) : Prop where
  ansible : .exited id 0 ∈ tr
  isMacro : ∃ text, .read id text ∈ tr ∧ macroGate <:+: text
  scientific : ∃ experimentId runId protocol text, .invoked id experimentId runId protocol ∈ tr ∧
    .read id text ∈ tr ∧ protocol.scientificGate <:+: text

/-- A run id is used once, an answer of zero has its reason, and no operation directory has both
verdicts. -/
structure Unambiguous (tr : List ControllerEvent) (s : ControllerState) : Prop where
  once : (tr.filterMap ControllerEvent.started?).Nodup
  passed : ∀ id, .returned id 0 ∈ tr → Passed tr id
  verdict : ∀ experimentId runId d, s.files.operations experimentId runId = some d →
    ¬ (d.outcome = .complete ∧ d.failure ≠ .absent)

/-- No invocation raises once the text of its outcome is in the file. -/
def StoresQuietly (s : ControllerState) (action : ControllerAction) : Prop :=
  ∀ id error effect i, action = .step id (.raises error effect) → s.invocations id = some i →
    i.pc ≠ .owned .syncOutcome ∧ i.pc ≠ .owned .printPass ∧
      (i.pc = .owned .storeOutcome → effect = false)

end TcdOran.Harness.T2Controller
