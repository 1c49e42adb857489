import TcdOran.Lib.Check
import TcdOran.Lib.Machine
import TcdOran.Lib.ProcessTable
import TcdOran.Lib.Python

/-! The process cleanup of prompt12-production-cleanup.py. The program looks at the leader of the
provider's process group and signals the group, and the processes of the host go on meanwhile. -/
namespace TcdOran.Harness.ProductionCleanup
open TcdOran.Lib Python

/-- A `CleanupError`, or another exception that the program does not catch. -/
inductive Failure
  | cleanup (message : List ℕ)
  | raised (exception : String)
  deriving DecidableEq

def reject (message : String) : Failure := .cleanup (chars message)

/-! ### The target -/

/-- What the file system answers about the `--runtime-root`: `resolved` is `none` where it cannot
be resolved, else whether it resolves to itself. -/
structure RuntimeRoot where
  raw : List ℕ
  resolved : Option Bool
  isDir : Bool

def canonicalExistingDirectory (root : RuntimeRoot) : Except Failure Unit := do
  rejectIf (strip root.raw = []) (reject "RUNTIME_ROOT_EMPTY")
  require (root.raw.head? = some 47) (reject "RUNTIME_ROOT_NOT_ABSOLUTE")
  require (root.resolved ≠ none) (reject "RUNTIME_ROOT_UNAVAILABLE")
  require (root.resolved = some true) (reject "RUNTIME_ROOT_NOT_CANONICAL")
  require root.isDir (reject "RUNTIME_ROOT_NOT_DIRECTORY")

/-- `provider-admission.json` as the program finds it. -/
inductive AdmissionFile
  | notCanonical
  | unavailable
  | read (data : Json)
  | raised (exception : String)

def admissionSchema : List ℕ :=
  chars "sci_oran_prompt12_persistent_prearmed_actuator_provider_admission_v1"

/-- The recorded leader: its number and its start identity. -/
structure Target where
  pid : Pid
  identity : List ℕ
  deriving DecidableEq

def validatePid : Option Json → Except Failure Pid
  | some (.num literal) => do
      require (literal.isInteger ∧ 1 < literal.intValue) (reject "PROVIDER_PID_INVALID")
      return literal.intValue.toNat
  | _ => .error (reject "PROVIDER_PID_INVALID")

def validateIdentity : Option Json → Except Failure (List ℕ)
  | some (.str identity) => do
      rejectIf (strip identity = []) (reject "PROVIDER_PROCESS_START_IDENTITY_INVALID")
      return identity
  | _ => .error (reject "PROVIDER_PROCESS_START_IDENTITY_INVALID")

def loadAdmission : AdmissionFile → Except Failure Target
  | .notCanonical => .error (reject "PROVIDER_ADMISSION_NOT_CANONICAL")
  | .unavailable => .error (reject "PROVIDER_ADMISSION_UNAVAILABLE_OR_INVALID")
  | .raised exception => .error (.raised exception)
  | .read (.obj members) => do
      let schemaMatches : Bool := match dictLookup members (chars "schema") with
        | some value => isText value admissionSchema
        | none => false
      require schemaMatches (reject "PROVIDER_ADMISSION_SCHEMA_INVALID")
      let pid ← validatePid (dictLookup members (chars "provider_pid"))
      let identity ← validateIdentity
        (dictLookup members (chars "provider_process_start_identity"))
      return ⟨pid, identity⟩
  -- only an object has a `get`
  | .read _ => .error (.raised "AttributeError")

/-- `cleanup` up to its first look at the process. -/
def prepare (root : RuntimeRoot) (admission : AdmissionFile) : Except Failure Target := do
  canonicalExistingDirectory root
  loadAdmission admission

/-! ### The cleanup beside the processes of the host -/

inductive Signal
  | sigterm
  | sigkill
  deriving DecidableEq

/-- Where `cleanup` stands on its way to a signal or in the wait behind it. -/
inductive Pc
  | look (signal : Signal)
  | lookGroup (signal : Signal)
  | kill (signal : Signal)
  | setDeadline (signal : Signal)
  | testDeadline (signal : Signal) (deadline : ℕ)
  | poll (signal : Signal) (deadline : ℕ)
  | sleep (signal : Signal) (deadline wake : ℕ)
  | returned (termination : Signal)
  | failed (failure : Failure)
  deriving DecidableEq

/-- `now` is the monotonic clock in milliseconds. -/
structure State where
  now : ℕ
  table : ProcessTable
  pc : Pc

def State.start (now : ℕ) (table : ProcessTable) : State := ⟨now, table, .look .sigterm⟩

inductive Event
  | looked (process : Process)
  | inGroup (group : Pid)
  | signalled (signal : Signal) (group : Pid)
  deriving DecidableEq

/-- What may go wrong in a system call. -/
inductive Fault
  | osError (errno : ℕ)
  | statInvalid
  | statTooShort

/-- Time passes, the table changes, or the program does its next system call, which may raise. -/
inductive Action
  | pass (milliseconds : ℕ)
  | change (c : ProcessTable.Change)
  | advance
  | fault (f : Fault)

variable (bootId : List ℕ) (target : Target)

/-- The boot, the number and the start time, as the program puts them together. -/
def startIdentity (process : Process) : List ℕ :=
  bootId ++ chars ":" ++ decimalUnits process.pid ++ chars ":" ++ decimalUnits process.start

def termTimeout : ℕ := 5000

def pollInterval : ℕ := 50

/-- The answer of `read_process_snapshot` in `assert_exact_process`. -/
def assertSnapshot (s : State) (signal : Signal) : State × List Event :=
  match s.table.find target.pid with
  | none => ({ s with pc := .failed (reject "TARGET_PROCESS_NOT_RUNNING") }, [])
  | some process =>
      if startIdentity bootId process ≠ target.identity then
        ({ s with pc := .failed (reject "TARGET_PROCESS_IDENTITY_MISMATCH") }, [])
      else if process.zombie then
        ({ s with pc := .failed (reject "TARGET_PROCESS_ALREADY_TERMINATED") }, [])
      else ({ s with pc := .lookGroup signal }, [.looked process])

/-- The answer of `getpgid` in `assert_exact_process`. -/
def assertGroup (s : State) (signal : Signal) : State × List Event :=
  match s.table.find target.pid with
  | none => ({ s with pc := .failed (reject "TARGET_PROCESS_NOT_RUNNING") }, [])
  | some process =>
      if process.group ≠ target.pid then
        ({ s with pc := .failed (reject "TARGET_PROCESS_GROUP_NOT_EXACT") }, [])
      else ({ s with pc := .kill signal }, [.inGroup process.group])

def kill (s : State) (signal : Signal) : State × List Event :=
  if s.table.hasGroup target.pid then
    ({ s with pc := .setDeadline signal }, [.signalled signal target.pid])
  else
    match signal with
    | .sigterm =>
        ({ s with pc := .failed (reject "TARGET_PROCESS_DISAPPEARED_BEFORE_SIGTERM") }, [])
    | .sigkill => ({ s with pc := .returned .sigterm }, [])

/-- Behind the wait: the escalation, or the end. -/
def timedOut : Signal → Pc
  | .sigterm => .look .sigkill
  | .sigkill => .failed (reject "TARGET_PROCESS_SURVIVED_SIGKILL")

/-- One look of `wait_until_gone`. -/
def poll (s : State) (signal : Signal) (deadline : ℕ) : Pc :=
  match s.table.find target.pid with
  | none => .returned signal
  | some process =>
      if startIdentity bootId process ≠ target.identity then
        .failed (reject "PROCESS_IDENTITY_CHANGED_DURING_CLEANUP")
      else if process.zombie then .returned signal
      else .sleep signal deadline (s.now + pollInterval)

def advance (s : State) : Option (State × List Event) :=
  match s.pc with
  | .look signal => some (assertSnapshot bootId target s signal)
  | .lookGroup signal => some (assertGroup target s signal)
  | .kill signal => some (kill target s signal)
  | .setDeadline signal => some ({ s with pc := .testDeadline signal (s.now + termTimeout) }, [])
  | .testDeadline signal deadline =>
      some ({ s with pc := if s.now < deadline then .poll signal deadline else timedOut signal }, [])
  | .poll signal deadline => some ({ s with pc := poll bootId target s signal deadline }, [])
  | .sleep signal deadline wake =>
      if wake ≤ s.now then some ({ s with pc := .testDeadline signal deadline }, []) else none
  | .returned _ => none
  | .failed _ => none

def faultError : Fault → Failure
  | .osError errno => .cleanup (chars "PROCESS_IDENTITY_READ_FAILED:" ++ decimalUnits errno)
  | .statInvalid => reject "PROCESS_STAT_INVALID"
  | .statTooShort => reject "PROCESS_STAT_TOO_SHORT"

def raiseFault (pc : Pc) (f : Fault) : Option Failure :=
  match pc, f with
  | .look _, f => some (faultError f)
  | .poll _ _, f => some (faultError f)
  | .lookGroup _, .osError errno =>
      some (.cleanup (chars "TARGET_PGID_READ_FAILED:" ++ decimalUnits errno))
  | .kill _, .osError _ => some (.raised "OSError")
  | _, _ => none

def Pc.ended : Pc → Bool
  | .returned _ => true
  | .failed _ => true
  | _ => false

/-- The program is between the first check and the end. -/
def Pc.checked : Pc → Bool
  | .look _ => false
  | .returned _ => false
  | .failed _ => false
  | _ => true

def cleanupMachine : Machine State Action Event := fun s a =>
  if s.pc.ended then none
  else
    match a with
    | .pass milliseconds => some ({ s with now := s.now + milliseconds }, [])
    | .change c => (s.table.change c).map fun table => ({ s with table }, [])
    | .advance => advance bootId target s
    | .fault f => (raiseFault s.pc f).map fun failure => ({ s with pc := .failed failure }, [])

variable {bootId} {target}

/-! ### What one step does -/

/-- A step of the host, or one of the program, which leaves the table as it is. -/
inductive CleanupStep (bootId : List ℕ) (target : Target) (s : State) :
    Action → State → List Event → Prop
  | pass (milliseconds : ℕ) : CleanupStep bootId target s (.pass milliseconds)
      { s with now := s.now + milliseconds } []
  | change (c : ProcessTable.Change) (table : ProcessTable) : s.table.change c = some table →
      CleanupStep bootId target s (.change c) { s with table } []
  | snapshot (signal : Signal) (next : State × List Event) : s.pc = .look signal →
      assertSnapshot bootId target s signal = next →
      CleanupStep bootId target s .advance next.1 next.2
  | group (signal : Signal) (next : State × List Event) : s.pc = .lookGroup signal →
      assertGroup target s signal = next → CleanupStep bootId target s .advance next.1 next.2
  | kill (signal : Signal) (next : State × List Event) : s.pc = .kill signal →
      ProductionCleanup.kill target s signal = next →
      CleanupStep bootId target s .advance next.1 next.2
  | poll (signal : Signal) (deadline : ℕ) : s.pc = .poll signal deadline →
      CleanupStep bootId target s .advance
        { s with pc := ProductionCleanup.poll bootId target s signal deadline } []
  | wait (signal : Signal) (pc : Pc) : s.pc.checked = true →
      (∃ deadline, pc = .testDeadline signal deadline ∨ pc = .poll signal deadline ∨
        pc = timedOut signal) →
      CleanupStep bootId target s .advance { s with pc } []
  | fault (f : Fault) (failure : Failure) :
      CleanupStep bootId target s (.fault f) { s with pc := .failed failure } []

theorem cleanupStep {s s' : State} {a : Action} {es : List Event}
    (h : cleanupMachine bootId target s a = some (s', es)) :
    CleanupStep bootId target s a s' es := by
  unfold cleanupMachine at h
  split at h
  · cases h
  cases a with
  | pass milliseconds =>
    cases h
    exact .pass milliseconds
  | change c =>
    obtain ⟨table, htable, h⟩ := Option.map_eq_some_iff.mp h
    cases h
    exact .change c table htable
  | fault f =>
    obtain ⟨failure, -, h⟩ := Option.map_eq_some_iff.mp h
    cases h
    exact .fault f failure
  | advance =>
    simp only [advance] at h
    split at h
    · next signal hpc =>
      exact .snapshot signal (s', es) hpc (Option.some.inj h)
    · next signal hpc =>
      exact .group signal (s', es) hpc (Option.some.inj h)
    · next signal hpc =>
      exact .kill signal (s', es) hpc (Option.some.inj h)
    · next signal hpc =>
      cases h
      exact .wait signal _ (by rw [hpc]; rfl) ⟨_, .inl rfl⟩
    · next signal deadline hpc =>
      cases h
      refine .wait signal _ (by rw [hpc]; rfl) ⟨deadline, .inr ?_⟩
      split
      · exact .inl rfl
      · exact .inr rfl
    · next signal deadline hpc =>
      cases h
      exact .poll signal deadline hpc
    · next signal deadline wake hpc =>
      split at h
      · cases h
        exact .wait signal _ (by rw [hpc]; rfl) ⟨deadline, .inl rfl⟩
      · cases h
    · cases h
    · cases h

/-! ### The signals -/

/-- A process with the recorded number and start identity that has not exited. -/
def IsTarget (bootId : List ℕ) (target : Target) (process : Process) : Prop :=
  process.pid = target.pid ∧ startIdentity bootId process = target.identity ∧
    process.zombie = false

/-- A signal goes to the group of the target, right behind a check that found the target alive and
at the head of the group. -/
def SignalChecked (bootId : List ℕ) (target : Target) (tr : List Event) : Event → Prop
  | .signalled _ group => group = target.pid ∧ ∃ before process,
      tr = before ++ [.looked process, .inGroup group] ∧ IsTarget bootId target process
  | _ => True

/-- What the program has checked where it is about to look at the group or to signal. -/
def Checked (bootId : List ℕ) (target : Target) (tr : List Event) : Pc → Prop
  | .lookGroup _ => ∃ before process, tr = before ++ [.looked process] ∧
      IsTarget bootId target process
  | .kill _ => ∃ before process, tr = before ++ [.looked process, .inGroup target.pid] ∧
      IsTarget bootId target process
  | _ => True

variable {s s' : State} {a : Action} {tr es : List Event}

theorem Checked.step (hi : Checked bootId target tr s.pc)
    (h : CleanupStep bootId target s a s' es) : Checked bootId target (tr ++ es) s'.pc := by
  cases h with
  | pass milliseconds => simpa using hi
  | change c table htable => simpa using hi
  | snapshot signal _ _ hnext =>
    subst hnext
    unfold assertSnapshot
    split
    · trivial
    · next process hfind =>
      split_ifs with hidentity hzombie
      · trivial
      · trivial
      · exact ⟨tr, process, rfl, (ProcessTable.find_eq_some_iff.mp hfind).2, not_not.mp hidentity,
          Bool.eq_false_iff.mpr hzombie⟩
  | group signal _ hpc hnext =>
    subst hnext
    rw [hpc] at hi
    obtain ⟨before, process, htr, htarget⟩ := hi
    unfold assertGroup
    split
    · trivial
    · next found _ =>
      split_ifs with hgroup
      · trivial
      · refine ⟨before, process, ?_, htarget⟩
        rw [htr, not_not.mp hgroup, List.append_assoc]
        rfl
  | kill signal _ _ hnext =>
    subst hnext
    unfold ProductionCleanup.kill
    split
    · trivial
    · split <;> trivial
  | poll signal deadline hpc =>
    simp only [ProductionCleanup.poll]
    split
    · trivial
    · split_ifs <;> trivial
  | wait signal pc _ hnext =>
    obtain ⟨deadline, rfl | rfl | rfl⟩ := hnext
    · trivial
    · trivial
    · cases signal <;> trivial
  | fault f failure => trivial

theorem eq_of_singleton {x e : Event} {before after : List Event}
    (h : [x] = before ++ e :: after) : before = [] ∧ x = e := by
  rcases before with _ | ⟨y, before⟩
  · exact ⟨rfl, (List.cons.inj h).1⟩
  · simp at h

theorem SignalChecked.of_step (hi : Checked bootId target tr s.pc)
    (h : CleanupStep bootId target s a s' es) {before : List Event} {e : Event}
    {after : List Event} (hes : es = before ++ e :: after) :
    SignalChecked bootId target (tr ++ before) e := by
  cases h with
  | snapshot signal _ _ hnext =>
    subst hnext
    unfold assertSnapshot at hes
    split at hes
    · simp at hes
    · split_ifs at hes
      · simp at hes
      · simp at hes
      · obtain ⟨rfl, rfl⟩ := eq_of_singleton hes
        trivial
  | group signal _ _ hnext =>
    subst hnext
    unfold assertGroup at hes
    split at hes
    · simp at hes
    · split_ifs at hes
      · simp at hes
      · obtain ⟨rfl, rfl⟩ := eq_of_singleton hes
        trivial
  | kill signal _ hpc hnext =>
    subst hnext
    rw [hpc] at hi
    unfold ProductionCleanup.kill at hes
    split at hes
    · obtain ⟨rfl, rfl⟩ := eq_of_singleton hes
      rw [List.append_nil]
      exact ⟨rfl, hi⟩
    · split at hes <;> simp at hes
  | pass | change | poll | wait | fault => simp at hes

theorem checked_of_run {now : ℕ} {table : ProcessTable}
    (h : Machine.Run (cleanupMachine bootId target) (.start now table) tr s) :
    Checked bootId target tr s.pc := by
  induction h with
  | start => trivial
  | step _ hs ih => exact ih.step (cleanupStep hs)

/-! ### What is left of the group -/

/-- No look of the wait finds the leader gone while another process of its group runs. -/
def NoneOutlives (target : Target) (s : State) : Action → Prop
  | .advance => ∀ signal deadline, s.pc = .poll signal deadline →
      s.table.running target.pid = false → s.table.Dead target.pid
  | _ => True

/-- The leader is the last one of its group to exit. -/
def LeaderLast (target : Target) (s : State) : Action → Prop
  | .change c => c.leaderLast s.table target.pid
  | _ => True

theorem not_running_of_poll {signal termination : Signal} {deadline : ℕ}
    (h : poll bootId target s signal deadline = .returned termination) :
    s.table.running target.pid = false := by
  unfold poll at h
  split at h
  · next hfind => exact ProcessTable.not_running_of_find_none hfind
  · next process hfind =>
    split_ifs at h with _ hzombie
    rw [ProcessTable.running_of_find hfind, hzombie]
    rfl

/-- Success is reported where the leader is gone, or where nobody is in the group. -/
theorem dead_of_step (hnone : NoneOutlives target s a) (h : CleanupStep bootId target s a s' es)
    (hrunning : s.pc.ended = false) {termination : Signal} (hpc : s'.pc = .returned termination) :
    s'.table.Dead target.pid := by
  cases h with
  | pass milliseconds => simp [show s.pc = _ from hpc, Pc.ended] at hrunning
  | change c table htable => simp [show s.pc = _ from hpc, Pc.ended] at hrunning
  | snapshot signal _ _ hnext =>
    subst hnext
    unfold assertSnapshot at hpc
    split at hpc
    · cases hpc
    · split_ifs at hpc
  | group signal _ _ hnext =>
    subst hnext
    unfold assertGroup at hpc
    split at hpc
    · cases hpc
    · split_ifs at hpc
  | kill signal _ _ hnext =>
    subst hnext
    unfold ProductionCleanup.kill at hpc ⊢
    split at hpc
    · cases hpc
    · next hgroup =>
      rw [if_neg hgroup]
      have hdead := ProcessTable.dead_of_hasGroup_eq_false (Bool.eq_false_iff.mpr hgroup)
      cases signal <;> exact hdead
  | poll signal deadline hpoll => exact hnone signal deadline hpoll (not_running_of_poll hpc)
  | wait signal pc _ hnext =>
    obtain ⟨deadline, rfl | rfl | rfl⟩ := hnext
    · cases hpc
    · cases hpc
    · cases signal <;> cases hpc
  | fault f failure => cases hpc

theorem not_ended_of_step (h : cleanupMachine bootId target s a = some (s', es)) :
    s.pc.ended = false := by
  unfold cleanupMachine at h
  split at h
  · cases h
  · next hended => exact Bool.eq_false_iff.mpr hended

/-- From the first check on the leader runs or its group is dead. -/
def Led (target : Target) (s : State) : Prop :=
  s.pc.checked = true → s.table.LedOrDead target.pid

theorem Led.step (hi : Led target s) (hlast : LeaderLast target s a)
    (h : CleanupStep bootId target s a s' es) : Led target s' := by
  cases h with
  | pass milliseconds => exact hi
  | change c table htable => exact fun hpc => (hi hpc).change hlast htable
  | snapshot signal _ _ hnext =>
    subst hnext
    unfold assertSnapshot
    split
    · intro hpc
      cases hpc
    · next process hfind =>
      split_ifs with _ hzombie
      · intro hpc
        cases hpc
      · intro hpc
        cases hpc
      · intro _ hgone
        have hruns := ProcessTable.running_of_find hfind
        simp [Bool.eq_false_iff.mpr hzombie, hgone] at hruns
  | group signal _ hpc hnext =>
    subst hnext
    have hled := hi (by rw [hpc]; rfl)
    unfold assertGroup
    split
    · exact fun _ => hled
    · split_ifs <;> exact fun _ => hled
  | kill signal _ hpc hnext =>
    subst hnext
    have hled := hi (by rw [hpc]; rfl)
    unfold ProductionCleanup.kill
    split
    · exact fun _ => hled
    · split <;> exact fun _ => hled
  | poll signal deadline hpc => exact fun _ => hi (by rw [hpc]; rfl)
  | wait signal pc hpc _ => exact fun _ => hi hpc
  | fault f failure =>
    intro hpc
    cases hpc

/-- Where the leader exits last, no look finds it gone before the others. -/
theorem noneOutlives_of_leaderLast {now : ℕ} {table : ProcessTable}
    (h : Machine.Run (Machine.restrict (cleanupMachine bootId target) (LeaderLast target))
      (.start now table) tr s) :
    Machine.Run (Machine.restrict (cleanupMachine bootId target) (NoneOutlives target))
      (.start now table) tr s ∧ Led target s := by
  induction h with
  | start => exact ⟨.start, fun hpc => by cases hpc⟩
  | @step _ s _ a _ _ hs ih =>
    obtain ⟨hrun, hled⟩ := ih
    obtain ⟨hlast, hmoves⟩ := Machine.restrict_eq_some.mp hs
    refine ⟨hrun.step (Machine.restrict_eq_some.mpr ⟨?_, hmoves⟩),
      hled.step hlast (cleanupStep hmoves)⟩
    cases a with
    | advance =>
      intro signal deadline hpc hgone
      exact hled (by rw [hpc]; rfl) hgone
    | _ => trivial

theorem dead_of_returned {now : ℕ} {table : ProcessTable}
    (h : Machine.Run (Machine.restrict (cleanupMachine bootId target) (NoneOutlives target))
      (.start now table) tr s) {termination : Signal} (hpc : s.pc = .returned termination) :
    s.table.Dead target.pid := by
  cases h with
  | start => cases hpc
  | step _ hs =>
    obtain ⟨hnone, hmoves⟩ := Machine.restrict_eq_some.mp hs
    exact dead_of_step hnone (cleanupStep hmoves) (not_ended_of_step hmoves) hpc

theorem one_lt_of_prepare {root : RuntimeRoot} {admission : AdmissionFile}
    (h : prepare root admission = .ok target) : 1 < target.pid := by
  obtain ⟨-, -, h⟩ := bind_eq_ok.mp h
  unfold loadAdmission at h
  split at h
  · cases h
  · cases h
  · cases h
  · obtain ⟨-, h⟩ := require_bind_eq_ok.mp h
    obtain ⟨pid, hpid, h⟩ := bind_eq_ok.mp h
    obtain ⟨identity, -, h⟩ := bind_eq_ok.mp h
    cases h
    unfold validatePid at hpid
    split at hpid
    · next literal _ =>
      obtain ⟨⟨-, hone⟩, hpid⟩ := require_bind_eq_ok.mp hpid
      cases hpid
      exact Int.lt_toNat.mpr hone
    · cases hpid
  · cases h

/-- Every signal goes to the group of the recorded leader, a proper process group, behind a check
of the leader. In the runs in which no look finds the leader gone before the others, as in those
in which it exits last, nobody runs in the group when success is reported. -/
theorem cleanup_leaves_nothing {root : RuntimeRoot} {admission : AdmissionFile}
    (hprepare : prepare root admission = .ok target) (bootId : List ℕ) (now : ℕ)
    (table : ProcessTable) :
    (∀ tr s, Machine.Run (cleanupMachine bootId target) (.start now table) tr s →
      1 < target.pid ∧
      ∀ before e after, tr = before ++ e :: after → SignalChecked bootId target before e) ∧
    (∀ tr s termination,
      Machine.Run (Machine.restrict (cleanupMachine bootId target) (NoneOutlives target))
        (.start now table) tr s → s.pc = .returned termination → s.table.Dead target.pid) ∧
    (∀ tr s, Machine.Run (Machine.restrict (cleanupMachine bootId target) (LeaderLast target))
        (.start now table) tr s →
      Machine.Run (Machine.restrict (cleanupMachine bootId target) (NoneOutlives target))
        (.start now table) tr s) := by
  refine ⟨fun tr s hrun => ⟨one_lt_of_prepare hprepare, fun before e after htr => ?_⟩,
    fun tr s termination hrun hpc => dead_of_returned hrun hpc,
    fun tr s hrun => (noneOutlives_of_leaderLast hrun).1⟩
  exact hrun.event_property (P := SignalChecked bootId target)
    (fun hrun hs _ _ _ hes => SignalChecked.of_step (checked_of_run hrun) (cleanupStep hs) hes) htr

/-! ### A child that ignores the signal -/

def leader : Process := ⟨100, 100, 7, false⟩

def child : Process := ⟨101, 100, 8, false⟩

/-- A provider with one more process in its group. -/
def sampleTable : ProcessTable := ⟨[leader, child], by decide⟩

def sampleTarget : Target := ⟨100, startIdentity (chars "boot") leader⟩

def sampleRoot : RuntimeRoot := ⟨chars "/run/provider", some true, true⟩

def sampleAdmission : AdmissionFile :=
  .read (.obj [(chars "schema", .str admissionSchema),
    (chars "provider_pid", .num (.ofInt 100)),
    (chars "provider_process_start_identity", .str (startIdentity (chars "boot") leader))])

theorem prepare_sample : prepare sampleRoot sampleAdmission = .ok sampleTarget := by
  decide +kernel

/-- The group is signalled, and the processes exit in the given order before the first look. -/
def exitScript (exits : List Pid) : List Action :=
  [.advance, .advance, .advance, .advance] ++ exits.map (fun pid => .change (.exit pid)) ++
    [.advance, .advance]

def leaderLastCheck (s : State) : Action → Bool
  | .change (.exit 100) => s.table.processes.all fun process => process.zombie || process.pid = 100
  | _ => true

theorem leaderLast_of_check (s : State) (a : Action) (h : leaderLastCheck s a = true) :
    LeaderLast sampleTarget s a := by
  cases a with
  | change c =>
    cases c with
    | exit pid =>
      rintro rfl process ⟨hmem, -, hzombie⟩
      have hcheck := List.all_eq_true.mp h process hmem
      simpa [hzombie, sampleTarget] using hcheck
    | _ => trivial
  | _ => trivial

/-- The run in which the child exits before the leader. -/
theorem cleanup_leaves_nothing_sample : ∃ tr s,
    Machine.Run (Machine.restrict (cleanupMachine (chars "boot") sampleTarget)
      (LeaderLast sampleTarget)) (.start 0 sampleTable) tr s ∧
    s.pc = .returned .sigterm ∧ s.table.Dead 100 ∧
    tr = [.looked leader, .inGroup 100, .signalled .sigterm 100] ∧
    SignalChecked (chars "boot") sampleTarget [.looked leader, .inGroup 100]
      (.signalled .sigterm 100) := by
  have heval : (Machine.exec (fun s a => if leaderLastCheck s a then
        cleanupMachine (chars "boot") sampleTarget s a else none) (.start 0 sampleTable)
      (exitScript [101, 100])).map (fun r => (r.1, r.2.pc)) =
      some ([.looked leader, .inGroup 100, .signalled .sigterm 100], .returned .sigterm) := by
    decide +kernel
  obtain ⟨⟨tr, s⟩, hexec, hend⟩ := Option.map_eq_some_iff.mp heval
  obtain ⟨rfl, hpc⟩ := Prod.mk.inj hend
  have hrun := Machine.run_restrict_of_exec leaderLast_of_check hexec
  obtain ⟨hsignals, hdead, hweaker⟩ :=
    cleanup_leaves_nothing prepare_sample (chars "boot") 0 sampleTable
  exact ⟨_, s, hrun, hpc, hdead _ s .sigterm (hweaker _ s hrun) hpc, rfl,
    (hsignals _ s hrun.of_restrict).2 [.looked leader, .inGroup 100] _ [] rfl⟩

/-- The leader exits on the signal and the child ignores it. -/
theorem ignoring_child_survives : ¬ ∀ (root : RuntimeRoot) (admission : AdmissionFile)
    (target : Target), prepare root admission = .ok target →
    ∀ (bootId : List ℕ) (now : ℕ) (table : ProcessTable) (tr : List Event) (s : State)
      (termination : Signal),
      Machine.Run (cleanupMachine bootId target) (.start now table) tr s →
      s.pc = .returned termination → s.table.Dead target.pid := by
  intro hall
  have heval : (Machine.exec (cleanupMachine (chars "boot") sampleTarget) (.start 0 sampleTable)
      (exitScript [100])).map (fun r => (r.2.pc, r.2.table.processes)) =
      some (.returned .sigterm, [{ leader with zombie := true }, child]) := by decide +kernel
  obtain ⟨⟨tr, s⟩, hexec, hend⟩ := Option.map_eq_some_iff.mp heval
  obtain ⟨hpc, hprocesses⟩ := Prod.mk.inj hend
  have hdead := hall sampleRoot sampleAdmission sampleTarget prepare_sample (chars "boot") 0
    sampleTable tr s .sigterm (Machine.run_of_exec hexec) hpc
  refine hdead child ⟨?_, rfl, rfl⟩
  rw [hprocesses]
  exact List.mem_cons_of_mem _ (List.mem_singleton.mpr rfl)

end TcdOran.Harness.ProductionCleanup
