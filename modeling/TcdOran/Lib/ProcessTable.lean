import Mathlib.Data.List.Nodup

/-! The processes of a host as other programs see them. A number is given to a new process only
when no process has it as its own number or as that of its group, so a group keeps its number until
the last of its members is reaped. -/
namespace TcdOran.Lib

abbrev Pid := ℕ

/-- `start` is the start time in ticks. From its exit to the moment its parent reaps it a process
is a zombie. -/
structure Process where
  pid : Pid
  group : Pid
  start : ℕ
  zombie : Bool
  deriving DecidableEq

structure ProcessTable where
  processes : List Process
  distinct : (processes.map Process.pid).Nodup

namespace ProcessTable

def find (table : ProcessTable) (pid : Pid) : Option Process :=
  table.processes.find? fun process => process.pid = pid

/-- The process runs in the group. -/
def RunsIn (table : ProcessTable) (group : Pid) (process : Process) : Prop :=
  process ∈ table.processes ∧ process.group = group ∧ process.zombie = false

/-- No process runs in the group. -/
def Dead (table : ProcessTable) (group : Pid) : Prop :=
  ∀ process, ¬ table.RunsIn group process

/-- `killpg` finds a process to signal, if only a zombie. -/
def hasGroup (table : ProcessTable) (group : Pid) : Bool :=
  table.processes.any fun process => process.group = group

def running (table : ProcessTable) (pid : Pid) : Bool :=
  table.processes.any fun process => process.pid = pid && !process.zombie

def numberFree (table : ProcessTable) (number : Pid) : Bool :=
  table.processes.all fun process => process.pid ≠ number && process.group ≠ number

/-! ### How the table moves -/

def Process.exited (pid : Pid) (process : Process) : Process :=
  if process.pid = pid then { process with zombie := true } else process

@[simp] theorem Process.exited_pid (pid : Pid) (process : Process) :
    (Process.exited pid process).pid = process.pid := by
  unfold Process.exited
  split <;> rfl

def exit (table : ProcessTable) (pid : Pid) : ProcessTable where
  processes := table.processes.map (Process.exited pid)
  distinct := by
    have hpids : Process.pid ∘ Process.exited pid = Process.pid :=
      funext fun process => Process.exited_pid pid process
    rw [List.map_map, hpids]
    exact table.distinct

/-- The parent of a zombie takes note of its exit. -/
def reap (table : ProcessTable) (pid : Pid) : ProcessTable where
  processes := table.processes.filter fun process => process.pid ≠ pid || !process.zombie
  distinct := table.distinct.sublist (List.filter_sublist.map _)

/-- `parent` forks. The child stays in the group of its parent or, with `session`, starts its own. -/
def spawn (table : ProcessTable) (parent : Process) (pid : Pid) (start : ℕ) (session : Bool)
    (hfree : table.numberFree pid = true) : ProcessTable where
  processes := ⟨pid, if session then pid else parent.group, start, false⟩ :: table.processes
  distinct := by
    rw [List.map_cons, List.nodup_cons]
    refine ⟨fun hmem => ?_, table.distinct⟩
    obtain ⟨process, hprocess, hpid⟩ := List.mem_map.mp hmem
    have := List.all_eq_true.mp hfree process hprocess
    simp [hpid] at this

/-- What the kernel and the processes of the host do to the table, in any order. -/
inductive Change
  | exit (pid : Pid)
  | reap (pid : Pid)
  | spawn (parent pid : Pid) (start : ℕ) (session : Bool)

def change (table : ProcessTable) : Change → Option ProcessTable
  | .exit pid => if table.running pid then some (table.exit pid) else none
  | .reap pid => if table.running pid then none else some (table.reap pid)
  | .spawn parent pid start session =>
      match table.find parent with
      | some process =>
          if h : process.zombie = false ∧ table.numberFree pid = true then
            some (table.spawn process pid start session h.2)
          else none
      | none => none

variable {table table' : ProcessTable} {pid group : Pid} {process : Process}

theorem find_eq_some_iff :
    table.find pid = some process ↔ process ∈ table.processes ∧ process.pid = pid := by
  constructor
  · intro h
    exact ⟨List.mem_of_find?_eq_some h, by simpa using List.find?_some h⟩
  · rintro ⟨hmem, rfl⟩
    obtain ⟨found, hfound⟩ : ∃ found, table.find process.pid = some found := by
      rw [← Option.isSome_iff_exists, find, List.find?_isSome]
      exact ⟨process, hmem, by simp⟩
    have hpid : found.pid = process.pid := by simpa using List.find?_some hfound
    have hsame := List.inj_on_of_nodup_map table.distinct (List.mem_of_find?_eq_some hfound) hmem hpid
    rw [hfound, hsame]

theorem find_eq_none_iff :
    table.find pid = none ↔ ∀ process ∈ table.processes, process.pid ≠ pid := by
  simp [find]

theorem running_iff :
    table.running pid = true ↔ ∃ process ∈ table.processes, process.pid = pid ∧
      process.zombie = false := by
  simp [running]

theorem not_running_of_find_none (h : table.find pid = none) : table.running pid = false := by
  rw [Bool.eq_false_iff, ne_eq, running_iff]
  rintro ⟨process, hmem, hpid, -⟩
  exact find_eq_none_iff.mp h process hmem hpid

theorem running_of_find (h : table.find pid = some process) :
    table.running pid = !process.zombie := by
  obtain ⟨hmem, hpid⟩ := find_eq_some_iff.mp h
  cases hz : process.zombie with
  | false =>
    rw [running_iff.mpr ⟨process, hmem, hpid, hz⟩]
    rfl
  | true =>
    rw [Bool.not_true, Bool.eq_false_iff, ne_eq, running_iff]
    rintro ⟨other, hother, hopid, hozombie⟩
    have hsame := List.inj_on_of_nodup_map table.distinct hother hmem (hopid.trans hpid.symm)
    simp [hsame, hz] at hozombie

/-- A group that nobody is in has no running process. -/
theorem dead_of_hasGroup_eq_false (h : table.hasGroup group = false) : table.Dead group := by
  rintro process ⟨hmem, hgroup, -⟩
  simp only [hasGroup, List.any_eq_false] at h
  exact h process hmem (by simp [hgroup])

/-! ### Running processes -/

theorem runsIn_exit_iff : (table.exit pid).RunsIn group process ↔
    table.RunsIn group process ∧ process.pid ≠ pid := by
  simp only [RunsIn, exit, List.mem_map]
  constructor
  · rintro ⟨⟨original, hmem, rfl⟩, hgroup, hzombie⟩
    by_cases hpid : original.pid = pid
    · simp [Process.exited, hpid] at hzombie
    · simp only [Process.exited, if_neg hpid] at hgroup hzombie ⊢
      exact ⟨⟨hmem, hgroup, hzombie⟩, hpid⟩
  · rintro ⟨⟨hmem, hgroup, hzombie⟩, hne⟩
    exact ⟨⟨process, hmem, if_neg hne⟩, hgroup, hzombie⟩

theorem runsIn_reap_iff : (table.reap pid).RunsIn group process ↔ table.RunsIn group process := by
  simp only [RunsIn, reap, List.mem_filter]
  constructor
  · rintro ⟨⟨hmem, -⟩, hgroup, hzombie⟩
    exact ⟨hmem, hgroup, hzombie⟩
  · rintro ⟨hmem, hgroup, hzombie⟩
    exact ⟨⟨hmem, by simp [hzombie]⟩, hgroup, hzombie⟩

/-- A process that runs in the group after a fork ran in it before, or is the child, which is of
its own group or of the group of a process that runs. -/
theorem runsIn_spawn {parent : Process} {child : Pid} {start : ℕ} {session : Bool}
    {hfree : table.numberFree child = true} (hparent : parent ∈ table.processes)
    (hruns : parent.zombie = false)
    (h : (table.spawn parent child start session hfree).RunsIn group process) :
    table.RunsIn group process ∨
      (process.pid = child ∧ (group = child ∨ table.RunsIn group parent)) := by
  obtain ⟨hmem, hgroup, hzombie⟩ := h
  rcases List.mem_cons.mp hmem with rfl | hmem
  · cases session with
    | true => exact .inr ⟨rfl, .inl hgroup.symm⟩
    | false => exact .inr ⟨rfl, .inr ⟨hparent, hgroup, hruns⟩⟩
  · exact .inl ⟨hmem, hgroup, hzombie⟩

/-- The process whose number the group bears runs, or nobody runs in the group. -/
def LedOrDead (table : ProcessTable) (group : Pid) : Prop :=
  table.running group = false → table.Dead group

/-- The leader of the group does not exit before the others. -/
def Change.leaderLast (table : ProcessTable) (group : Pid) : Change → Prop
  | .exit pid => pid = group → ∀ process, table.RunsIn group process → process.pid = group
  | _ => True

theorem LedOrDead.change (hled : table.LedOrDead group) {c : Change}
    (hlast : c.leaderLast table group) (h : table.change c = some table') :
    table'.LedOrDead group := by
  cases c with
  | exit pid =>
    simp only [ProcessTable.change] at h
    split at h
    · cases h
      intro hexited process hruns
      obtain ⟨hbefore, hne⟩ := runsIn_exit_iff.mp hruns
      by_cases hleader : pid = group
      · exact hne ((hlast hleader process hbefore).trans hleader.symm)
      · refine hled ?_ process hbefore
        rw [Bool.eq_false_iff, ne_eq, running_iff] at hexited ⊢
        rintro ⟨leader, hmem, hpid, hzombie⟩
        exact hexited ⟨leader, (runsIn_exit_iff.mpr
          ⟨⟨hmem, rfl, hzombie⟩, fun heq => hleader (heq.symm.trans hpid)⟩).1, hpid, hzombie⟩
    · cases h
  | reap pid =>
    simp only [ProcessTable.change] at h
    split at h
    · cases h
    · cases h
      intro hgone process hruns
      refine hled ?_ process (runsIn_reap_iff.mp hruns)
      rw [Bool.eq_false_iff, ne_eq, running_iff] at hgone ⊢
      rintro ⟨leader, hmem, hpid, hzombie⟩
      exact hgone ⟨leader, (runsIn_reap_iff.mpr ⟨hmem, rfl, hzombie⟩).1, hpid, hzombie⟩
  | spawn parent pid start session =>
    simp only [ProcessTable.change] at h
    split at h
    · next forker hfind =>
      split at h
      · next hguard =>
        cases h
        intro hgone process hruns
        have hbefore : table.running group = false := by
          rw [Bool.eq_false_iff, ne_eq, running_iff] at hgone ⊢
          rintro ⟨leader, hmem, hpid, hzombie⟩
          exact hgone ⟨leader, List.mem_cons_of_mem _ hmem, hpid, hzombie⟩
        rcases runsIn_spawn (find_eq_some_iff.mp hfind).1 hguard.1 hruns with
          hold | ⟨hchild, hown | hforked⟩
        · exact hled hbefore process hold
        · rw [Bool.eq_false_iff, ne_eq, running_iff] at hgone
          exact hgone ⟨process, hruns.1, hchild.trans hown.symm, hruns.2.2⟩
        · exact hled hbefore forker hforked
      · cases h
    · cases h

end ProcessTable
end TcdOran.Lib
