import TcdOran.Harness.RunnerScript

/-! prompt12-bounded-traffic-session.sh run: the session body, the cleanup with its guard, the signal
handler and the trap on EXIT, over the receiver container and the capture process. -/
namespace TcdOran.Harness.TrafficSession
open TcdOran.Lib
open RunnerScript (Answer Signal)

/-! ### The commands -/

inductive Call
  | validateArguments | requireLiveEnable | validateRuntime | prepareOutputs | startChecks
  | waitReceiverReady | runClient | captureExitCode | checkOutputs
  deriving DecidableEq

inductive Command
  | call (c : Call)
  /-- `trap` for EXIT, INT and TERM -/
  | setTraps
  | createReceiver
  | markCreated
  | spawnCapture
  | recordCapture
  /-- `sci_oran_process_is_running` -/
  | testCapture
  | waitCapture
  | clearCapture
  | setCleanupDone
  | stopCapture
  | removeReceiver
  | clearCreated
  /-- `trap - INT TERM` -/
  | clearSignals
  /-- `trap - EXIT` -/
  | clearExit
  /-- `trap - EXIT INT TERM` -/
  | clearTraps
  | reportPass
  deriving DecidableEq

open Command

def arguments : List Command := [call .validateArguments, setTraps]

/-- `run_session_body` -/
def body : List Command :=
  [call .requireLiveEnable, call .validateRuntime, call .prepareOutputs, createReceiver, markCreated,
    call .startChecks, spawnCapture, recordCapture, call .waitReceiverReady, testCapture,
    call .runClient, waitCapture, clearCapture, call .captureExitCode, call .checkOutputs]

/-! ### The session -/

inductive Receiver
  | absent | created | removed
  deriving DecidableEq

inductive Capture
  | unstarted | running | exited
  deriving DecidableEq

/-- `SESSION_RECEIVER_CREATED`, whether `SESSION_CAPTURE_PID` is a number, and `SESSION_CLEANUP_DONE` -/
structure Vars where
  receiverCreated : Bool
  capturePid : Bool
  cleanupDone : Bool
  deriving DecidableEq

def Vars.initial : Vars := ⟨false, false, false⟩

/-- `exitTrap` is the trap on EXIT of a shell that a signal ends. -/
inductive Mode
  | entering
  | body (status : ℕ)
  | finishing (status : ℕ)
  | handler (status : ℕ)
  | exitTrap (status : ℕ)
  | reporting (status : ℕ)
  | ended (status : ℕ)
  deriving DecidableEq

structure Session where
  mode : Mode
  rest : List Command
  vars : Vars
  cleanupFailed : Bool
  receiver : Receiver
  capture : Capture
  passed : Bool
  deriving DecidableEq

def Session.start : Session := ⟨.entering, arguments, .initial, false, .absent, .unstarted, false⟩

inductive SessionAction
  | step (answer : Answer)
  | captureExits

/-! ### What a command does -/

def Vars.perform (v : Vars) : Command → Vars
  | .markCreated => { v with receiverCreated := true }
  | .clearCreated => { v with receiverCreated := false }
  | .recordCapture => { v with capturePid := true }
  | .clearCapture => { v with capturePid := false }
  | .setCleanupDone => { v with cleanupDone := true }
  | _ => v

def Capture.stop : Capture → Capture
  | .unstarted => .unstarted
  | _ => .exited

namespace Session

def perform (s : Session) (c : Command) : Session :=
  { s with
    vars := s.vars.perform c
    receiver := match c with
      | .createReceiver => .created
      | .removeReceiver => .removed
      | _ => s.receiver
    capture := match c with
      | .spawnCapture => .running
      | .stopCapture => s.capture.stop
      | _ => s.capture
    passed := s.passed || c = reportPass }

/-- A stop that is interrupted may not have gone on to SIGTERM. -/
def interrupt (s : Session) (c : Command) (effect : Bool) : Session :=
  if c ≠ stopCapture ∧ effect = true then s.perform c else s

def ready (s : Session) : Command → Bool
  | .waitCapture => s.capture = .exited
  | _ => true

/-- `cleanup_session` -/
def cleanup (s : Session) : List Command :=
  if s.vars.cleanupDone then []
  else
    [setCleanupDone] ++ (if s.vars.capturePid then [stopCapture, clearCapture] else []) ++
      if s.vars.receiverCreated then [removeReceiver, clearCreated] else []

def enterHandler (s : Session) (signal : Signal) : Session :=
  { s with
    mode := .handler signal.status
    rest := [clearSignals] ++ s.cleanup ++ [clearExit]
    cleanupFailed := false }

def enterExitTrap (s : Session) (signal : Signal) : Session :=
  { s with
    mode := .exitTrap signal.status
    rest := s.cleanup }

/-- `run_session_body` returns. -/
def returnBody (s : Session) (status : ℕ) : Session :=
  { s with
    mode := .finishing status
    rest := s.cleanup ++ [clearTraps] }

def finish (s : Session) (status : ℕ) : Session :=
  { s with
    mode := .ended status
    rest := [] }

/-! ### The steps -/

def failBody (s : Session) (c : Command) (status : ℕ) (effect : Bool) : Option Session :=
  match c with
  | .call _ => some (s.returnBody status)
  | .createReceiver => some ((if effect then s.perform c else s).returnBody status)
  | .testCapture => some { s with mode := .body 76, rest := [waitCapture, clearCapture] }
  | _ => none

/-- The stop and the removal go on when they fail. -/
def failCleanup (s : Session) (c : Command) (rest : List Command) (effect : Bool) : Option Session :=
  match c with
  | .stopCapture | .removeReceiver =>
      some { if effect then s.perform c else s with rest, cleanupFailed := true }
  | _ => none

/-- A signal at a command; where the traps are no longer set it ends the shell. -/
def signalled (s : Session) (c : Command) (signal : Signal) (effect : Bool) : Session :=
  let s' := s.interrupt c effect
  match s.mode with
  | .entering | .reporting _ | .exitTrap _ | .ended _ => s'.finish signal.status
  | .body _ => s'.enterHandler signal
  | .finishing _ =>
      if c = clearTraps ∧ effect = true then s'.finish signal.status else s'.enterHandler signal
  | .handler _ =>
      if c = clearSignals ∧ effect = false then s'.enterHandler signal
      else if c = clearExit ∧ effect = true then s'.finish signal.status
      else s'.enterExitTrap signal

def stepCommand (s : Session) (c : Command) (rest : List Command) : Answer → Option Session
  | .ok => if s.ready c then some { s.perform c with rest } else none
  | .fails status effect =>
      if status = 0 then none
      else match s.mode with
        | .entering => if c = call .validateArguments then some (s.finish 64) else none
        | .body _ => s.failBody c status effect
        | .finishing _ | .handler _ | .exitTrap _ => s.failCleanup c rest effect
        | .reporting _ => some (s.finish status)
        | .ended _ => none
  | .signal signal effect => some (s.signalled c signal effect)

/-- Behind the last command. -/
def stepEnd (s : Session) : Answer → Option Session
  | .ok => match s.mode with
    | .entering => some { s with mode := .body 0, rest := body }
    | .body status => some (s.returnBody status)
    | .finishing status =>
        if status = 0 ∧ s.cleanupFailed = false then
          some { s with mode := .reporting 0, rest := [reportPass] }
        else some { s with mode := .reporting (if status = 0 then 70 else status), rest := [] }
    | .handler status => some (s.finish (if s.cleanupFailed then 70 else status))
    | .exitTrap status | .reporting status => some (s.finish status)
    | .ended _ => none
  | .fails _ _ => none
  | .signal signal _ => match s.mode with
    | .entering | .body _ => some (s.enterHandler signal)
    | .ended _ => none
    | _ => some (s.finish signal.status)

def step (s : Session) (answer : Answer) : Option Session :=
  match s.rest with
  | [] => s.stepEnd answer
  | c :: rest => s.stepCommand c rest answer

end Session

def sessionMachine : Machine Session SessionAction Empty := fun s action =>
  match action with
  | .step answer => (s.step answer).map fun s' => (s', [])
  | .captureExits =>
      if s.capture = .running then some ({ s with capture := .exited }, []) else none

end TcdOran.Harness.TrafficSession
