import TcdOran.Lib.Machine

/-! run-experiment.sh as the list of its commands, each of which may fail or be interrupted, its traps,
the processes that it starts and the manifest that it keeps. -/
namespace TcdOran.Harness.RunnerScript
open TcdOran.Lib

/-! ### The processes and the manifest -/

inductive Child
  | resource | native | rtt | kpm | traffic
  deriving DecidableEq

/-- `signalled` is a process that has been sent a stop signal and has not exited yet. -/
inductive ChildState
  | unstarted | running | signalled | exited
  deriving DecidableEq

inductive Lifecycle
  | identity | snapshot | loggerStart | loggerReady | running | cooldown | postcheck | loggerStop
  | validation | finalization | completed | failed | interrupted
  deriving DecidableEq

def Lifecycle.isTerminal : Lifecycle → Bool
  | .completed | .failed | .interrupted => true
  | _ => false

structure Manifest where
  state : Lifecycle
  history : List Lifecycle
  finalStatus : Option Lifecycle
  deriving DecidableEq

namespace Manifest

def initial : Manifest := ⟨.identity, [], none⟩

/-- `sci_oran_manifest_set_lifecycle`; the first transition puts the state that it leaves in front. -/
def setLifecycle (m : Manifest) (state : Lifecycle) : Manifest :=
  { m with
    state
    history := (if m.history = [] then [m.state] else m.history) ++ [state] }

/-- `sci_oran_manifest_set_final_status` -/
def setFinalStatus (m : Manifest) (status : Lifecycle) : Manifest :=
  { m with finalStatus := some status }

end Manifest

/-- `begun` is a file whose text is not all there. -/
inductive ManifestFile
  | absent | begun | whole (m : Manifest)
  deriving DecidableEq

/-! ### The commands -/

inductive Call
  | validateArguments | logPrecheck | precheck | makeRoots | generateRunId | makeRunDir
  | identityTime | snapshotTime | metadataSnapshot | loggerStartTime | logLoggerStart | makeRawDirs
  | resourceStart | kpmStart | kpmReady | loggerReadyTime | logLoggerReady | logRunning
  | makeTrafficDir | trafficStartTime | trafficStart | trafficEndTime | cooldownSleep
  | trafficExitCode | logCooldown | postcheckTime | logPostcheck | postcheck | kpmAlive
  | loggerStopTime | logLoggerStop | validationTime | logValidation | validateRunEvidence
  | writeRunChecksums | finalizationTime | logFinalization | recordSummary | recordExecution
  | recordKpm | completedTime | logCompleted | echo (line : ℕ)
  deriving DecidableEq

/-- `LOGGER_STACK_ACTIVE` and `KPM_ACTIVE` -/
inductive Owner
  | stack | kpm
  deriving DecidableEq

inductive Command
  /-- A command whose failure ends the script. -/
  | call (c : Call)
  /-- A command whose status is not looked at. -/
  | passOver (c : Call)
  | waitReady
  | reportNotReady
  /-- What the start of a logger does first. Its failure stops the loggers in front. -/
  | startChecks (child : Child) (started : List Child)
  | spawn (child : Child)
  | recordPid (child : Child)
  | setActive (owner : Owner) (active : Bool)
  | waitTraffic
  | stop (child : Child)
  /-- A stop of `sci_oran_logger_stack_stop`, which goes on and answers one at its end. -/
  | stopStack (child : Child)
  | checkStack
  | stopQuietly (child : Child)
  | manifestInit
  | setLifecycle (state : Lifecycle)
  | setFinalStatus (status : Lifecycle)
  | setRunCompleted
  | terminalTime
  deriving DecidableEq

open Command

def loggerStackStart : List Command :=
  [call .makeRawDirs, call .resourceStart, spawn .resource, recordPid .resource,
    startChecks .native [.resource], spawn .native, recordPid .native,
    startChecks .rtt [.native, .resource], spawn .rtt, recordPid .rtt, setActive .stack true]

def kpmCommands (kpmEnabled : Bool) (commands : List Command) : List Command :=
  if kpmEnabled then commands else []

def trafficWindow : List Command :=
  [call .makeTrafficDir, passOver .trafficStartTime, setLifecycle .running, call .trafficStart,
    spawn .traffic, recordPid .traffic, waitTraffic, passOver .trafficEndTime,
    setLifecycle .cooldown, passOver .cooldownSleep, call .trafficExitCode]

def loggerStackStop : List Command :=
  [stopStack .rtt, stopStack .native, stopStack .resource, checkStack]

/-- Up to the time of the completion. -/
def experiment (kpmEnabled : Bool) : List Command :=
  [call .validateArguments, call .logPrecheck, call .precheck, call .makeRoots,
    call .generateRunId, call .makeRunDir, call .identityTime, manifestInit, call .snapshotTime, call .metadataSnapshot, setLifecycle .snapshot,
    call .loggerStartTime, setLifecycle .loggerStart, call .logLoggerStart] ++
  loggerStackStart ++
  kpmCommands kpmEnabled [call .kpmStart, spawn .kpm, recordPid .kpm, setActive .kpm true] ++
  [waitReady] ++ kpmCommands kpmEnabled [call .kpmReady] ++
  [call .loggerReadyTime, setLifecycle .loggerReady, call .logLoggerReady, call .logRunning] ++
  trafficWindow ++
  [call .logCooldown, call .postcheckTime, setLifecycle .postcheck, call .logPostcheck,
    call .postcheck] ++ kpmCommands kpmEnabled [call .kpmAlive] ++
  [call .loggerStopTime, setLifecycle .loggerStop, call .logLoggerStop] ++
  kpmCommands kpmEnabled [stop .kpm, setActive .kpm false] ++ loggerStackStop ++
  [setActive .stack false, call .validationTime, setLifecycle .validation, call .logValidation,
    call .validateRunEvidence, call .writeRunChecksums, call .finalizationTime,
    setLifecycle .finalization, call .logFinalization, call .recordSummary, call .recordExecution,
    call .recordKpm, call .completedTime]

def completion : List Command :=
  [setLifecycle .completed, setFinalStatus .completed, setRunCompleted]

def reports : List Command :=
  [call .logCompleted, setActive .stack false] ++ (List.range 14).map fun line => call (.echo line)

def script (kpmEnabled : Bool) : List Command := experiment kpmEnabled ++ completion ++ reports

/-! ### The runner -/

/-- The variables that the trap on EXIT reads. -/
structure Vars where
  pids : Child → Bool
  stackActive : Bool
  kpmActive : Bool
  runCompleted : Bool

def Vars.initial : Vars := ⟨fun _ => false, false, false, false⟩

/-- `failing` is on its way to an exit with the status, and `trap` is in the trap on EXIT. -/
inductive Mode
  | main
  | failing (status : ℕ)
  | trap (status : ℕ)
  | ended (status : ℕ)
  deriving DecidableEq

structure Runner where
  mode : Mode
  rest : List Command
  vars : Vars
  stackFailed : Bool
  children : Child → ChildState
  manifest : ManifestFile

def Runner.start (kpmEnabled : Bool) : Runner :=
  ⟨.main, script kpmEnabled, .initial, false, fun _ => .unstarted, .absent⟩

inductive Signal
  | int | term
  deriving DecidableEq

def Signal.status : Signal → ℕ
  | .int => 130
  | .term => 143

/-- How a command ends. With `effect` it has done its work before it fails or is interrupted; a
failed `docker exec` is the one stop that fails without it. -/
inductive Answer
  | ok
  | fails (status : ℕ) (effect : Bool)
  | signal (signal : Signal) (effect : Bool)
  deriving DecidableEq

inductive RunnerAction
  | step (answer : Answer)
  | childExits (child : Child)

/-! ### What a command does -/

def Vars.perform (v : Vars) : Command → Vars
  | .recordPid child => { v with pids := Function.update v.pids child true }
  | .setActive .stack active => { v with stackActive := active }
  | .setActive .kpm active => { v with kpmActive := active }
  | .setRunCompleted => { v with runCompleted := true }
  | _ => v

def ManifestFile.perform (file : ManifestFile) : Command → ManifestFile
  | .manifestInit => if file = .absent then .whole .initial else file
  | .setLifecycle state => match file with
    | .whole m => .whole (m.setLifecycle state)
    | file => file
  | .setFinalStatus status => match file with
    | .whole m => .whole (m.setFinalStatus status)
    | file => file
  | _ => file

def ChildState.stop : ChildState → ChildState
  | .unstarted => .unstarted
  | _ => .exited

def ChildState.signal : ChildState → ChildState
  | .running => .signalled
  | state => state

namespace Runner

def setChild (r : Runner) (child : Child) (state : ChildState) : Runner :=
  { r with children := Function.update r.children child state }

/-- A stop goes on to SIGTERM, on which every process exits. -/
def performChild (r : Runner) : Command → Runner
  | .spawn child => r.setChild child .running
  | .stop child | .stopStack child | .stopQuietly child =>
      r.setChild child (r.children child).stop
  | _ => r

def perform (r : Runner) (c : Command) : Runner :=
  { r.performChild c with
    vars := r.vars.perform c
    manifest := r.manifest.perform c }

/-- What is left of a command that a signal interrupts. -/
def interrupt (r : Runner) (c : Command) (effect : Bool) : Runner :=
  match c, effect with
  | _, false => r
  | .stop child, true | .stopStack child, true | .stopQuietly child, true =>
      r.setChild child (r.children child).signal
  | c, true => r.perform c

/-- What is left of a command that fails. -/
def afterFailure (r : Runner) (c : Command) (effect : Bool) : Runner :=
  match c, effect with
  | .manifestInit, true => if r.manifest = .absent then { r with manifest := .begun } else r
  | .stopStack .rtt, false => r
  | .stop _, _ | .stopStack _, _ | .stopQuietly _, _ => r.perform c
  | _, true => r.perform c
  | _, false => r

/-- Where a command can succeed. -/
def ready (r : Runner) : Command → Bool
  | .waitTraffic => r.children .traffic = .exited
  | .checkStack => !r.stackFailed
  | .manifestInit => r.manifest = .absent
  | .setLifecycle _ | .setFinalStatus _ => r.manifest ≠ .absent ∧ r.manifest ≠ .begun
  | _ => true

/-- What `cleanup_on_exit` stops. -/
def stops (r : Runner) : List Command :=
  (if r.vars.pids .traffic then [stopQuietly .traffic] else []) ++
  (if r.vars.kpmActive then [stopQuietly .kpm] else []) ++
  (if r.vars.stackActive then ([.rtt, .native, .resource].filter r.vars.pids).map stopStack else [])

def updates (r : Runner) (terminalState : Lifecycle) : List Command :=
  if r.vars.runCompleted = false ∧ r.manifest ≠ .absent then
    [terminalTime, setLifecycle terminalState, setFinalStatus terminalState]
  else []

def cleanup (r : Runner) (terminalState : Lifecycle) : List Command :=
  r.stops ++ r.updates terminalState

def enterTrap (r : Runner) (status : ℕ) (terminalState : Lifecycle) : Runner :=
  { r with
    mode := .trap status
    rest := r.cleanup terminalState }

/-! ### The steps -/

/-- A failure in the script. -/
def failMain (r : Runner) (c : Command) (rest : List Command) (status : ℕ) (effect : Bool) :
    Option Runner :=
  match c with
  | .passOver _ => some { r with rest }
  | .waitReady =>
      -- the negation of `if !` has replaced the status by zero
      some { r with mode := .failing 0, rest := [reportNotReady] }
  | .startChecks _ started =>
      some { r with mode := .failing 1, rest := started.map stopQuietly }
  | .stopStack _ => some { r.afterFailure c effect with rest, stackFailed := true }
  | .checkStack => if r.stackFailed then some (r.enterTrap 1 .failed) else none
  | .spawn _ | .recordPid _ | .setActive _ _ | .setRunCompleted | .waitTraffic => none
  | c => some ((r.afterFailure c effect).enterTrap status .failed)

def stepMain (r : Runner) (c : Command) (rest : List Command) : Answer → Option Runner
  | .ok => if r.ready c then some { r.perform c with rest } else none
  | .fails status effect => if status = 0 then none else r.failMain c rest status effect
  | .signal signal effect => some ((r.interrupt c effect).enterTrap signal.status .interrupted)

/-- On the way to the exit only the report may fail with a status of its own. -/
def stepFailing (r : Runner) (c : Command) (rest : List Command) : Answer → Option Runner
  | .ok => some { r.perform c with rest }
  | .fails status effect =>
      if status = 0 then none
      else if c = .reportNotReady then some (r.enterTrap status .failed)
      else some { r.afterFailure c effect with rest }
  | .signal signal effect => some ((r.interrupt c effect).enterTrap signal.status .interrupted)

/-- In the trap the signals have their default disposition again. -/
def stepTrap (r : Runner) (c : Command) (rest : List Command) : Answer → Option Runner
  | .ok => if r.ready c then some { r.perform c with rest } else none
  | .fails status effect =>
      if status = 0 then none
      else if c = .terminalTime then some { r with mode := .ended status, rest := [] }
      else some { r.afterFailure c effect with rest }
  | .signal signal effect =>
      some { r.interrupt c effect with mode := .ended signal.status, rest := [] }

def stepExit (r : Runner) (status : ℕ) : Answer → Option Runner
  | .ok => some (r.enterTrap status .failed)
  | .fails _ _ => none
  | .signal signal _ => some (r.enterTrap signal.status .interrupted)

def stepEnd (r : Runner) (status : ℕ) : Answer → Option Runner
  | .ok => some { r with mode := .ended status }
  | .fails _ _ => none
  | .signal signal _ => some { r with mode := .ended signal.status }

def step (r : Runner) (answer : Answer) : Option Runner :=
  match r.mode, r.rest with
  | .main, [] => r.stepExit 0 answer
  | .failing status, [] => r.stepExit status answer
  | .trap status, [] => r.stepEnd status answer
  | .main, c :: rest => r.stepMain c rest answer
  | .failing _, c :: rest => r.stepFailing c rest answer
  | .trap _, c :: rest => r.stepTrap c rest answer
  | .ended _, _ => none

end Runner

def runnerMachine : Machine Runner RunnerAction Empty := fun r action =>
  match action with
  | .step answer => (r.step answer).map fun r' => (r', [])
  | .childExits child =>
      if r.children child = .unstarted then none else some (r.setChild child .exited, [])

end TcdOran.Harness.RunnerScript
