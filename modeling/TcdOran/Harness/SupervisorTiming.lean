import Mathlib.Algebra.BigOperators.Intervals
import TcdOran.Harness.SupervisorAccounting

/-! How long the gates and the run of the supervisor last, where commands take their time. -/
namespace TcdOran.Harness
open TcdOran.Lib Python Attempt

def phaseRole (phase : ℕ) : PhaseRole := if phase = 0 then .pre else .post

section
variable (o : Surroundings)

/-- The gate of the phase passes with its `n`-th extension. -/
def GatePassesAt (phase n : ℕ) : Prop :=
  Extends o phase (phaseRole phase) n ∧ Observes o phase (phaseRole phase) n ∧
    EvaluationPasses o phase n

/-- The clock of a run in which a command takes its duration or is stopped exactly at its timeout
and a sleep takes exactly what is requested. Starting and stopping the traffic may take time. -/
structure TimeLine (plan : Json) where
  duration : SupervisorCommand → ℚ
  /-- When the call of `subprocess.run` returns. -/
  finished : SupervisorCommand → ℚ
  duration_nonneg (c : SupervisorCommand) : 0 ≤ duration c
  finished_eq {c : SupervisorCommand} : InTime o c →
    finished c = o.clock (.command c) + min (duration c) (remaining o (.command c))
  exited {c : SupervisorCommand} {rc : ℤ} {stdout : Option (List ℕ)} : InTime o c →
    o.outcome c = .exited rc stdout → duration c ≤ remaining o (.command c)
  timedOut {c : SupervisorCommand} : InTime o c → o.outcome c = .timedOut →
    remaining o (.command c) ≤ duration c
  preStarted : o.clock .started ≤ o.clock (.phaseStarted 0)
  observation_zero (phase : ℕ) : o.clock (.observation phase 0) = o.clock (.phaseStarted phase)
  observation_succ (phase n : ℕ) :
    o.clock (.observation phase (n + 1)) = finished (.stationarity phase n)
  sleep (phase n : ℕ) : o.clock (.sleep phase n) = o.clock (.observation phase n)
  evaluation (phase n : ℕ) : o.clock (.command (.stationarity phase n)) = o.clock (.sleep phase n) +
    max 0 ((((phaseRole phase).minimum + n * extensionS : ℕ) : ℚ) -
      (o.clock (.observation phase n) - o.clock (.phaseStarted phase)))
  ratioBind {phase n : ℕ} : GatePassesAt o phase n →
    o.clock (.command (.ratioBind (phase + 1))) = finished (.stationarity phase n)
  trigger (k : ℕ) : o.clock (.command (.trigger k)) = finished (.ratioBind k)
  postStarted (k : ℕ) : o.clock (.phaseStarted (k + 1)) = finished (.trigger (k + 1))
  finalization {n : ℕ} : GatePassesAt o (planTransitions plan).length n →
    finished (.stationarity (planTransitions plan).length n) ≤ o.clock (.command .finalization)

/-- The gate of the phase has returned success with `n` extensions. -/
def PassedAt (phase n : ℕ) (events : List SupervisorEvent) : Prop :=
  ∃ stdout record gate, .exited (.stationarity phase n) 0 (some stdout) ∈ events ∧
    o.loads stdout = .value record ∧ get record "output_stationarity_gate" = .ok gate ∧
    isText gate (chars "PASS") = true

variable {o} in
/-- What the run keeps to: every gate that passes its phase, and a reported success the whole. -/
structure WithinBounds {plan : Json} (time : TimeLine o plan)
    (end' : Except SupervisorFailure ℤ × SupervisorState) : Prop where
  gates : ∀ phase n, PassedAt o phase n end'.2.events → n ≤ maxExtensions ∧
    time.finished (.stationarity phase n) - o.clock (.phaseStarted phase) ≤
      (phaseRole phase).phaseLimit
  reported : end'.2.report.supervisorGate = "PASS" →
    (∃ stdout, .exited .finalization 0 (some stdout) ∈ end'.2.events) ∧
      time.finished .finalization - o.clock .started ≤ experimentMaxS

variable {o} in
/-- From each extension on, the evaluations up to the `n`-th leave room for the extensions that
the phase maximum has been made for. -/
def Timely {plan : Json} (time : TimeLine o plan) (phase n : ℕ) : Prop :=
  ∀ k ≤ n, ∑ j ∈ Finset.Icc k n, time.duration (.stationarity phase j) ≤
    ((maxExtensions - k) * extensionS : ℕ)

end

/-! ### The time of a gate -/

section
variable {o : Surroundings} {plan : Json} (time : TimeLine o plan) {phase : ℕ}

namespace TimeLine
include time

/-- An evaluation starts at its target, or late where the one before it ends late. -/
theorem evaluation_eq (n : ℕ) :
    o.clock (.command (.stationarity phase n)) - o.clock (.phaseStarted phase) =
      max (o.clock (.observation phase n) - o.clock (.phaseStarted phase))
        (((phaseRole phase).minimum + n * extensionS : ℕ) : ℚ) := by
  have hshift (a b : ℚ) : a + max 0 (b - a) = max a b := by
    rcases le_total a b with h | h
    · rw [max_eq_right (sub_nonneg.mpr h), max_eq_right h]
      ring
    · rw [max_eq_left (sub_nonpos.mpr h), max_eq_left h]
      ring
  have hlate := hshift (o.clock (.observation phase n) - o.clock (.phaseStarted phase))
    (((phaseRole phase).minimum + n * extensionS : ℕ) : ℚ)
  rw [time.evaluation, time.sleep, ← hlate]
  ring

theorem finished_sub_le {n : ℕ} (hn : InTime o (.stationarity phase n))
    (hexit : time.duration (.stationarity phase n) ≤ remaining o (.command (.stationarity phase n)))
    (bound : ℚ) :
    time.finished (.stationarity phase n) - o.clock (.phaseStarted phase) ≤ bound ↔
      o.clock (.observation phase n) - o.clock (.phaseStarted phase) ≤
          bound - time.duration (.stationarity phase n) ∧
        (((phaseRole phase).minimum + n * extensionS : ℕ) : ℚ) ≤
          bound - time.duration (.stationarity phase n) := by
  have hstart := @evaluation_eq o plan time phase n
  rw [← max_le_iff, ← hstart, time.finished_eq hn, min_eq_left hexit]
  constructor
  · intro h
    linarith
  · intro h
    linarith

/-- By induction on the evaluations: the end of the `n`-th one is the latest that a target and the
evaluations behind it make of it. -/
theorem finished_le_iff {n : ℕ} (hn : ∀ j ≤ n, InTime o (.stationarity phase j) ∧
      time.duration (.stationarity phase j) ≤ remaining o (.command (.stationarity phase j)))
    (bound : ℚ) :
    time.finished (.stationarity phase n) - o.clock (.phaseStarted phase) ≤ bound ↔
      ∀ k ≤ n, (((phaseRole phase).minimum + k * extensionS : ℕ) : ℚ) +
        ∑ j ∈ Finset.Icc k n, time.duration (.stationarity phase j) ≤ bound := by
  induction n generalizing bound with
  | zero =>
    obtain ⟨hin, hexit⟩ := hn 0 le_rfl
    have hmin : (0 : ℚ) ≤ (((phaseRole phase).minimum + 0 * extensionS : ℕ) : ℚ) := Nat.cast_nonneg _
    rw [time.finished_sub_le hin hexit, time.observation_zero, sub_self]
    simp only [Nat.le_zero, forall_eq, Finset.Icc_self, Finset.sum_singleton]
    constructor
    · rintro ⟨-, h⟩
      linarith
    · intro h
      constructor <;> linarith
  | succ n ih =>
    obtain ⟨hin, hexit⟩ := hn (n + 1) le_rfl
    rw [time.finished_sub_le hin hexit, time.observation_succ,
      ih fun j hj => hn j (hj.trans (Nat.le_succ n))]
    constructor
    · rintro ⟨hbefore, hlast⟩ k hk
      rcases Nat.le_succ_iff.mp hk with hk | rfl
      · have h := hbefore k hk
        rw [Finset.sum_Icc_succ_top (hk.trans (Nat.le_succ n))]
        linarith
      · rw [Finset.Icc_self, Finset.sum_singleton]
        linarith
    · intro h
      constructor
      · intro k hk
        have hk' := h k (hk.trans (Nat.le_succ n))
        rw [Finset.sum_Icc_succ_top (hk.trans (Nat.le_succ n))] at hk'
        linarith
      · have hlast := h (n + 1) le_rfl
        rw [Finset.Icc_self, Finset.sum_singleton] at hlast
        linarith

/-- The phase maximum is the minimum with all extensions. -/
theorem finished_le_limit_iff {n : ℕ} (hmax : n ≤ maxExtensions)
    (hn : ∀ j ≤ n, InTime o (.stationarity phase j) ∧
      time.duration (.stationarity phase j) ≤ remaining o (.command (.stationarity phase j))) :
    time.finished (.stationarity phase n) - o.clock (.phaseStarted phase) ≤
        (phaseRole phase).phaseLimit ↔ Timely time phase n := by
  have hlimit : (phaseRole phase).phaseLimit =
      (phaseRole phase).minimum + maxExtensions * extensionS := by
    cases phaseRole phase <;> rfl
  rw [time.finished_le_iff hn, Timely]
  refine forall₂_congr fun k hk => ?_
  have hsplit : (maxExtensions - k) * extensionS + k * extensionS = maxExtensions * extensionS := by
    rw [← Nat.add_mul, Nat.sub_add_cancel (hk.trans hmax)]
  have hcast : (((maxExtensions - k) * extensionS : ℕ) : ℚ) + ((k * extensionS : ℕ) : ℚ) =
      ((maxExtensions * extensionS : ℕ) : ℚ) := by exact_mod_cast hsplit
  rw [hlimit]
  push_cast at hcast ⊢
  constructor
  · intro h
    linarith
  · intro h
    linarith

end TimeLine

end

/-! ### The evaluations of a run -/

section
variable {o : Surroundings} {phase : ℕ}

/-- Every evaluation that has ended was made in its turn, and a success is reported behind the
finalization only. -/
structure InTurn (o : Surroundings) (s : SupervisorState) : Prop where
  evaluations : ∀ phase n rc stdout, .exited (.stationarity phase n) rc stdout ∈ s.events →
    n ≤ maxExtensions ∧ Extends o phase (phaseRole phase) n ∧
      Observes o phase (phaseRole phase) n ∧
      o.outcome (.stationarity phase n) = .exited rc stdout
  reported : s.report.supervisorGate = "PASS" → InTime o .finalization ∧
    ∃ stdout, .exited .finalization 0 (some stdout) ∈ s.events

theorem InTurn.emit {s : SupervisorState} (h : InTurn o s) {es : List SupervisorEvent}
    (hes : ∀ phase n rc stdout, .exited (.stationarity phase n) rc stdout ∈ es →
      n ≤ maxExtensions ∧ Extends o phase (phaseRole phase) n ∧
        Observes o phase (phaseRole phase) n ∧
        o.outcome (.stationarity phase n) = .exited rc stdout) : InTurn o (s.emit es) := by
  constructor
  · intro phase n rc stdout hmem
    exact (List.mem_append.mp hmem).elim (h.evaluations phase n rc stdout) (hes phase n rc stdout)
  · intro hpass
    obtain ⟨hin, stdout, hmem⟩ := h.reported hpass
    exact ⟨hin, stdout, List.mem_append_left _ hmem⟩

theorem InTurn.same {s s' : SupervisorState} (h : InTurn o s) (hevents : s'.events = s.events)
    (hgate : s'.report.supervisorGate = s.report.supervisorGate) : InTurn o s' := by
  constructor
  · rw [hevents]
    exact h.evaluations
  · rw [hevents, hgate]
    exact h.reported

/-- What `run_command` records, and what stands behind an output that it returns. -/
theorem runCommand_recorded (c : SupervisorCommand) (argv : Json) (reason : List ℕ)
    (s : SupervisorState) :
    ∃ r es, outcome (runCommand o c argv reason) s = (r, s.emit es) ∧
      (∀ e ∈ es, e = .started c ∨
        ∃ rc stdout, e = .exited c rc stdout ∧ o.outcome c = .exited rc stdout ∧ InTime o c) ∧
      ∀ stdout, r = .ok stdout → InTime o c ∧ o.outcome c = .exited 0 (some stdout) ∧
        .exited c 0 (some stdout) ∈ es := by
  unfold runCommand
  rw [outcome_bind, requireRemaining_end]
  by_cases hin : 0 < remaining o (.command c)
  case neg =>
    rw [if_neg hin]
    exact ⟨_, [], by rw [emit_nil], by simp, by rintro _ ⟨⟩⟩
  rw [if_pos hin]
  simp only
  unfold subprocessRun
  cases haccepts : popenAccepts argv with
  | false => exact ⟨_, [], by rw [emit_nil]; rfl, by simp, by rintro _ ⟨⟩⟩
  | true =>
    cases houtcome : o.outcome c with
    | notStarted exception => exact ⟨_, [], by rw [emit_nil]; rfl, by simp, by rintro _ ⟨⟩⟩
    | timedOut => exact ⟨_, [.started c], rfl, by simp, by rintro _ ⟨⟩⟩
    | exited returncode stdout =>
      have hes : ∀ e ∈ [SupervisorEvent.started c, .exited c returncode stdout], e = .started c ∨
          ∃ rc out, e = .exited c rc out ∧ o.outcome c = .exited rc out ∧ InTime o c := by
        intro e he
        rcases List.mem_cons.mp he with rfl | he
        · exact .inl rfl
        · exact .inr ⟨returncode, stdout, List.mem_singleton.mp he, houtcome, hin⟩
      rw [houtcome] at hes
      cases stdout with
      | none => exact ⟨_, _, rfl, hes, by rintro _ ⟨⟩⟩
      | some stdout =>
        by_cases hrc : returncode = 0
        · subst hrc
          refine ⟨.ok stdout, _, rfl, hes, ?_⟩
          rintro _ ⟨⟩
          exact ⟨hin, rfl, List.mem_cons_of_mem _ List.mem_cons_self⟩
        · refine ⟨.error (.supervisor (reason ++ chars ":RC_" ++ intText returncode) returncode), _,
            ?_, hes, by rintro _ ⟨⟩⟩
          simp [outcome_bind, hrc, emit, supervisorError]

theorem keeps_runCommand {c : SupervisorCommand} (hc : ∀ phase n, c ≠ .stationarity phase n)
    (argv : Json) (reason : List ℕ) : Keeps (InTurn o) (runCommand o c argv reason) := by
  intro s hs
  obtain ⟨r, es, hr, hes, -⟩ := runCommand_recorded (o := o) c argv reason s
  have hemit : InTurn o (s.emit es) := by
    apply hs.emit
    intro phase n rc stdout hmem
    rcases hes _ hmem with h | ⟨rc', stdout', h, -⟩
    · cases h
    · exact absurd (SupervisorEvent.exited.inj h).1.symm (hc phase n)
  rw [hr]
  cases r <;> exact hemit

/-- A gate records its evaluations in their turn, and behind the last one it returns. -/
def GateRecords (o : Surroundings) (phase : ℕ) (x : Supervise ℕ) : Prop :=
  Triple (InTurn o) x (fun n s => InTurn o s ∧ PassedAt o phase n s.events) (fun _ => InTurn o)

theorem evaluation_records {argv : Json} {n left : ℕ} (hn : n ≤ maxExtensions)
    (hextends : Extends o phase (phaseRole phase) n)
    (hextend : Extends o phase (phaseRole phase) (n + 1) →
      GateRecords o phase (extend o argv phase (phaseRole phase) n left)) :
    GateRecords o phase (stationarityLoop o argv phase (phaseRole phase) left n) := by
  intro s hs
  have hloop : stationarityLoop o argv phase (phaseRole phase) left n = (do
      waitForObservation o ((phaseRole phase).minimum + n * extensionS) phase n (phaseRole phase)
      let stdout ← runCommand o (.stationarity phase n) argv
        (chars "STATIONARITY_EVALUATOR_FAILED")
      let gate ← evaluatorGate o stdout
      if isText gate (chars "PASS") then return n
      if !isText gate (chars "FAIL") then supervisorError (chars "STATIONARITY_GATE_INVALID") 65
      extend o argv phase (phaseRole phase) n left) := by
    cases left <;> rfl
  rw [hloop, outcome_bind]
  rcases @waitForObservation_end o phase (phaseRole phase) n s with
    ⟨hwaits, hwait⟩ | ⟨-, reason, rc, hwait⟩
  case inr =>
    rw [hwait]
    exact hs
  rw [hwait]
  simp only
  rw [outcome_bind]
  obtain ⟨r, es, hr, hes, hok⟩ := runCommand_recorded (o := o) (.stationarity phase n) argv
    (chars "STATIONARITY_EVALUATOR_FAILED") s
  have hemit : InTurn o (s.emit es) := by
    apply hs.emit
    intro phase' n' rc stdout hmem
    rcases hes _ hmem with h | ⟨rc', stdout', h, houtcome, hin⟩
    · cases h
    · obtain ⟨hcommand, rfl, rfl⟩ := SupervisorEvent.exited.inj h
      obtain ⟨rfl, rfl⟩ := SupervisorCommand.stationarity.inj hcommand
      exact ⟨hn, hextends, ⟨hwaits, hin⟩, houtcome⟩
  rw [hr]
  match r with
  | .error _ => exact hemit
  | .ok stdout =>
    obtain ⟨hin, hexit, hmem⟩ := hok stdout rfl
    simp only
    rw [outcome_bind]
    rcases evaluatorGate_end (o := o) (s := s.emit es) stdout with
      ⟨record, gate, hload, hget, hgate⟩ | ⟨-, reason, rc, hgate⟩ | ⟨-, exception, hgate⟩
    · have heval : Evaluates o phase n gate := ⟨stdout, record, hexit, hload, hget⟩
      rw [hgate]
      simp only
      cases hpass : isText gate (chars "PASS") with
      | true => exact ⟨hemit, stdout, record, gate, List.mem_append_right _ hmem, hload, hget, hpass⟩
      | false =>
        cases hfail : isText gate (chars "FAIL") with
        | false => exact hemit
        | true =>
          exact hextend (hextends.succ ⟨hwaits, hin⟩ ⟨gate, heval, hpass, hfail⟩) _ hemit
    · rw [hgate]
      exact hemit
    · rw [hgate]
      exact hemit

/-- By induction on the extensions left. -/
theorem stationarityLoop_records {argv : Json} (left : ℕ) :
    ∀ n, left + n = maxExtensions → Extends o phase (phaseRole phase) n →
      GateRecords o phase (stationarityLoop o argv phase (phaseRole phase) left n) := by
  induction left with
  | zero =>
    intro n hleft hextends
    exact evaluation_records (by omega) hextends fun _ => triple_throw fun _ hs => hs
  | succ left ih =>
    intro n hleft hextends
    refine evaluation_records (by omega) hextends fun hnext => ?_
    have hcount : ¬ n + 1 > maxExtensions := by omega
    rw [extend, validateExtensionCount, if_neg hcount]
    exact ih (n + 1) (by omega) hnext

/-- A gate that returns success with `n` extensions has recorded so. -/
theorem stationarityGate_records (argv : Json) (phase : ℕ) :
    GateRecords o phase (stationarityGate o argv phase (phaseRole phase)) :=
  stationarityLoop_records maxExtensions 0 rfl fun m hm => absurd hm (Nat.not_lt_zero m)

theorem keeps_stationarityGate (argv : Json) (phase : ℕ) :
    Keeps (InTurn o) (stationarityGate o argv phase (phaseRole phase)) :=
  (stationarityGate_records argv phase).conseq (fun _ hs => hs) (fun _ _ hs => hs.1) fun _ _ hs => hs

theorem keeps_bindRatio (k : ℕ) (transition : Json) : Keeps (InTurn o) (bindRatio o k transition) := by
  unfold bindRatio
  refine (keeps_ofExcept _).bind fun argv => (keeps_runCommand (by simp) _ _).bind fun stdout => ?_
  split
  · exact (keeps_throw _).bind fun _ => keeps_modify fun s hs => hs.same rfl rfl
  · exact keeps_modify fun s hs => hs.same rfl rfl

theorem keeps_fireTrigger (k : ℕ) (transition : Json) :
    Keeps (InTurn o) (fireTrigger o k transition) := by
  unfold fireTrigger
  refine Keeps.bind (keeps_modify fun s hs => hs.same rfl rfl) fun _ => ?_
  refine (keeps_ofExcept _).bind fun argv => (keeps_runCommand (by simp) _ _).bind fun stdout => ?_
  exact keeps_modify fun s hs => hs.same rfl rfl

theorem keeps_runTransition {k : ℕ} (hk : k ≠ 0) (transition : Json) :
    Keeps (InTurn o) (runTransition o k transition) := by
  have hgate (argv : Json) := keeps_stationarityGate (o := o) argv k
  rw [phaseRole, if_neg hk] at hgate
  unfold runTransition
  split
  · exact (keeps_throw _).bind fun _ => (keeps_bindRatio k transition).bind fun _ =>
      (keeps_fireTrigger k transition).bind fun _ => (keeps_ofExcept _).bind hgate
  · exact (keeps_bindRatio k transition).bind fun _ =>
      (keeps_fireTrigger k transition).bind fun _ => (keeps_ofExcept _).bind hgate

theorem keeps_runTransitions (transitions : List Json) :
    ∀ k, k ≠ 0 → Keeps (InTurn o) (runTransitions o k transitions) := by
  induction transitions with
  | nil => exact fun k _ => keeps_pure _
  | cons transition transitions ih =>
    intro k hk
    unfold runTransitions
    exact (keeps_runTransition hk transition).bind fun _ =>
      (ih (k + 1) (Nat.succ_ne_zero k)).bind fun _ => keeps_pure _

theorem keeps_terminateProcess : Keeps (InTurn o) terminateProcess := by
  refine keeps_modify fun s hs => ?_
  split_ifs
  · have hemit := @InTurn.emit o s hs [.trafficTerminated] (by simp)
    exact hemit.same rfl rfl
  · exact hs

theorem finalization_recorded (argv : Json) (reason : List ℕ) :
    Triple (InTurn o) (runCommand o .finalization argv reason)
      (fun _ s => InTurn o s ∧ InTime o .finalization ∧
        ∃ stdout, .exited .finalization 0 (some stdout) ∈ s.events) (fun _ => InTurn o) := by
  have hfinal : ∀ phase n, SupervisorCommand.finalization ≠ .stationarity phase n := by simp
  apply triple_of
  · intro s a t hs hrun
    obtain ⟨r, es, hr, -, hok⟩ := runCommand_recorded (o := o) .finalization argv reason s
    have hkeeps := (keeps_runCommand hfinal argv reason).outcome hs
    rw [hrun] at hr hkeeps
    obtain ⟨rfl, rfl⟩ := Prod.mk.inj hr
    obtain ⟨hin, -, hmem⟩ := hok a rfl
    exact ⟨hkeeps, hin, a, List.mem_append_right _ hmem⟩
  · intro s e t hs hrun
    have hkeeps := (keeps_runCommand hfinal argv reason).outcome hs
    rwa [hrun] at hkeeps

theorem keeps_finishSequence (k : ℕ) (plan : Json) : Keeps (InTurn o) (finishSequence o k plan) := by
  have hfinal : Keeps (InTurn o) (do
      let _ ← runCommand o .finalization (← .ofExcept (item plan "finalization_command"))
        (chars "FINALIZATION_FAILED")
      report fun r => { r with supervisorGate := "PASS", failClosedReason := chars "NONE" }
      return (0 : ℤ)) := by
    refine (keeps_ofExcept _).bind fun argv => ?_
    apply (finalization_recorded argv _).bind
    rintro _ s ⟨hs, hin, hmem⟩
    exact ⟨hs.evaluations, fun _ => ⟨hin, hmem⟩⟩
  unfold finishSequence
  split
  · exact (keeps_throw _).bind fun _ => keeps_terminateProcess.bind fun _ => hfinal
  · exact keeps_terminateProcess.bind fun _ => hfinal

theorem keeps_startTraffic (argv : Json) : Keeps (InTurn o) (startTraffic o argv) := by
  have hstart (s : SupervisorState) (hs : InTurn o s) :
      InTurn o { s.emit [.started .traffic] with traffic := true } := by
    have hemit := @InTurn.emit o s hs [.started .traffic] (by simp)
    exact hemit.same rfl rfl
  unfold startTraffic
  cases popenAccepts argv with
  | false => exact fun _ hs => hs
  | true =>
    cases o.outcome .traffic with
    | notStarted exception => exact keeps_throw _
    | timedOut | exited => exact keeps_modify hstart

theorem keeps_runLive (plan : Json) (authorizationToken : Option String) :
    Keeps (InTurn o) (runLive o plan authorizationToken) := by
  have hsequence : Keeps (InTurn o) (runSequence o plan) := by
    unfold runSequence
    refine (keeps_ofExcept _).bind fun argv => (keeps_startTraffic argv).bind fun _ => ?_
    refine (keeps_ofExcept _).bind fun argv => (keeps_stationarityGate argv 0).bind fun n => ?_
    refine Keeps.bind (keeps_modify fun s hs => hs.same rfl rfl) fun _ => ?_
    refine (keeps_runTransitions _ 1 one_ne_zero).bind fun counts => ?_
    exact Keeps.bind (keeps_modify fun s hs => hs.same rfl rfl) fun _ => keeps_finishSequence _ plan
  have hlive := hsequence.finally keeps_terminateProcess
  unfold runLive
  by_cases henable : o.enable ≠ some "YES"
  · rw [if_pos henable]
    exact fun _ hs => hs
  · rw [if_neg henable]
    by_cases htoken : authorizationToken ≠ some liveToken
    · rw [if_pos htoken]
      exact fun _ hs => hs
    · rw [if_neg htoken]
      exact hlive

/-- A run keeps to its times exactly if, in every gate that passes, the evaluations leave room for
the extensions. -/
theorem runLive_within_bounds_iff (o : Surroundings) (plan : Json) (time : TimeLine o plan)
    (authorizationToken : Option String) :
    WithinBounds time (outcome (runLive o plan authorizationToken) ⟨baseReport .live, [], false⟩) ↔
      ∀ phase n, PassedAt o phase n
        (outcome (runLive o plan authorizationToken) ⟨baseReport .live, [], false⟩).2.events →
          Timely time phase n := by
  have hstart : InTurn o ⟨baseReport .live, [], false⟩ :=
    ⟨by simp, fun h => absurd h (by decide)⟩
  have hturn := (keeps_runLive (o := o) plan authorizationToken).outcome hstart
  generalize outcome (runLive o plan authorizationToken) ⟨baseReport .live, [], false⟩ = end'
    at hturn ⊢
  have hgate {phase n : ℕ} (hpassed : PassedAt o phase n end'.2.events) : n ≤ maxExtensions ∧
      (time.finished (.stationarity phase n) - o.clock (.phaseStarted phase) ≤
        (phaseRole phase).phaseLimit ↔ Timely time phase n) := by
    obtain ⟨stdout, -, -, hmem, -⟩ := hpassed
    obtain ⟨hmax, hextends, hobserves, hexit⟩ := hturn.evaluations phase n 0 (some stdout) hmem
    refine ⟨hmax, time.finished_le_limit_iff hmax fun j hj => ?_⟩
    rcases Nat.lt_or_eq_of_le hj with hlt | rfl
    · obtain ⟨hbefore, gate, ⟨out, record, hout, -⟩, -⟩ := hextends j hlt
      exact ⟨hbefore.2, time.exited hbefore.2 hout⟩
    · exact ⟨hobserves.2, time.exited hobserves.2 hexit⟩
  constructor
  · intro h phase n hpassed
    exact (hgate hpassed).2.mp (h.gates phase n hpassed).2
  · intro h
    constructor
    · intro phase n hpassed
      obtain ⟨hmax, htimely⟩ := hgate hpassed
      exact ⟨hmax, htimely.mpr (h phase n hpassed)⟩
    · intro hpass
      obtain ⟨hin, hmem⟩ := hturn.reported hpass
      refine ⟨hmem, ?_⟩
      have hleft := min_le_right (time.duration .finalization) (remaining o (.command .finalization))
      rw [time.finished_eq hin]
      unfold remaining at hleft ⊢
      linarith

end

/-! ### A slow evaluator -/

section
variable (d : ℚ)

/-- The first evaluation takes `d` seconds, everything else no time. -/
def slowDuration : SupervisorCommand → ℚ
  | .stationarity 0 0 => d
  | _ => 0

def slowStart (phase : ℕ) : ℚ := if phase = 0 then 0 else 1 + d + 10 * phase

def slowTarget (phase n : ℕ) : ℚ := ((phaseRole phase).minimum + n * extensionS : ℕ)

def slowFinished (phase : ℕ) : ℕ → ℚ
  | 0 => slowStart d phase + slowTarget phase 0 + slowDuration d (.stationarity phase 0)
  | n + 1 => slowFinished phase n +
      max 0 (slowTarget phase (n + 1) - (slowFinished phase n - slowStart d phase)) +
        slowDuration d (.stationarity phase (n + 1))

def slowObservation (phase : ℕ) : ℕ → ℚ
  | 0 => slowStart d phase
  | n + 1 => slowFinished d phase n

def slowCommand : SupervisorCommand → ℚ
  | .traffic => 0
  | .stationarity phase n => slowObservation d phase n +
      max 0 (slowTarget phase n - (slowObservation d phase n - slowStart d phase))
  | .ratioBind k | .trigger k => 1 + d + 10 * k
  | .finalization => 71 + d

/-- Every gate passes at its first evaluation. -/
def slowGate : Surroundings where
  enable := some "YES"
  clock := fun reading =>
    match reading with
    | .started => 0
    | .phaseStarted phase => slowStart d phase
    | .observation phase n | .sleep phase n => slowObservation d phase n
    | .command c => slowCommand d c
  trafficRuns := fun _ => true
  outcome := (sampleSurroundings (.exited 0 (some []))).outcome
  loads := plainLoads

theorem slowGate_evaluates (phase n : ℕ) : Evaluates (slowGate d) phase n (.str (chars "PASS")) :=
  ⟨_, .obj [(chars "output_stationarity_gate", .str (chars "PASS"))], rfl, rfl, rfl⟩

theorem slowGate_passesAt {phase n : ℕ} (h : GatePassesAt (slowGate d) phase n) : n = 0 := by
  by_contra hn
  obtain ⟨-, gate, heval, hfails, -⟩ := h.1 0 (Nat.pos_of_ne_zero hn)
  rw [heval.unique (slowGate_evaluates d phase 0)] at hfails
  exact absurd hfails (by decide)

theorem slowDuration_nonneg (hd : 0 ≤ d) (c : SupervisorCommand) : 0 ≤ slowDuration d c := by
  unfold slowDuration
  split
  · exact hd
  · exact le_rfl

theorem slowDuration_le (hd : d ≤ 60) {c : SupervisorCommand} (h : InTime (slowGate d) c) :
    slowDuration d c ≤ remaining (slowGate d) (.command c) := by
  unfold slowDuration
  split
  · have hclock : (slowGate d).clock (.command (.stationarity 0 0)) = 11 := by
      simp [slowGate, slowCommand, slowObservation, slowStart, slowTarget, phaseRole,
        PhaseRole.minimum, preMinS]
    have hstart : (slowGate d).clock .started = 0 := rfl
    rw [remaining, hclock, hstart]
    norm_num [experimentMaxS]
    linarith
  · exact le_of_lt h

theorem slowFinished_zero (phase : ℕ) : slowFinished d phase 0 = 11 + d + 10 * phase := by
  cases phase with
  | zero => simp [slowFinished, slowStart, slowTarget, slowDuration, phaseRole, PhaseRole.minimum,
      preMinS]
  | succ phase =>
    simp [slowFinished, slowStart, slowTarget, slowDuration, phaseRole, PhaseRole.minimum, postMinS]
    ring

def slowTimeLine {plan : Json} (hd : 0 ≤ d) (hd' : d ≤ 60)
    (hplan : (planTransitions plan).length = 6) : TimeLine (slowGate d) plan where
  duration := slowDuration d
  finished
    | .stationarity phase n => slowFinished d phase n
    | c => slowCommand d c
  duration_nonneg := slowDuration_nonneg d hd
  finished_eq {c} h := by
    rw [min_eq_left (slowDuration_le d hd' h)]
    match c with
    | .stationarity phase 0 =>
        have htarget : 0 ≤ slowTarget phase 0 := Nat.cast_nonneg _
        show slowFinished d phase 0 = slowStart d phase +
          max 0 (slowTarget phase 0 - (slowStart d phase - slowStart d phase)) + _
        rw [sub_self, sub_zero, max_eq_right htarget]
        rfl
    | .stationarity phase (n + 1) => rfl
    | .traffic | .ratioBind _ | .trigger _ | .finalization => exact (add_zero _).symm
  exited h _ := slowDuration_le d hd' h
  timedOut {c} _ h := by
    have hexits : ∃ rc stdout, (slowGate d).outcome c = .exited rc stdout := by
      cases c with
      | trigger k =>
        simp only [slowGate, sampleSurroundings]
        split <;> exact ⟨_, _, rfl⟩
      | traffic | stationarity | ratioBind | finalization => exact ⟨_, _, rfl⟩
    obtain ⟨rc, stdout, hexit⟩ := hexits
    rw [hexit] at h
    cases h
  preStarted := le_rfl
  observation_zero _ := rfl
  observation_succ _ _ := rfl
  sleep _ _ := rfl
  evaluation _ _ := rfl
  ratioBind {phase n} h := by
    obtain rfl := slowGate_passesAt d h
    show 1 + d + 10 * ((phase + 1 : ℕ) : ℚ) = slowFinished d phase 0
    rw [slowFinished_zero]
    push_cast
    ring
  trigger _ := rfl
  postStarted k := by
    show slowStart d (k + 1) = 1 + d + 10 * ((k + 1 : ℕ) : ℚ)
    rw [slowStart, if_neg (Nat.succ_ne_zero k)]
  finalization {n} h := by
    obtain rfl := slowGate_passesAt d h
    show slowFinished d _ 0 ≤ 71 + d
    rw [slowFinished_zero, hplan]
    push_cast
    linarith

end

/-- What a run with the sample plan records of the first gate. -/
def slowRecorded (d : ℚ) (plan : Json) : Bool :=
  (planTransitions plan).length = 6 ∧
    .exited (.stationarity 0 0) 0
        (some (dictText [("output_stationarity_gate", quoted "PASS")])) ∈
      (outcome (runLive (slowGate d) plan (some liveToken)) ⟨baseReport .live, [], false⟩).2.events

theorem slowGate_run : (match loadPlan plainLoads (.text samplePlan) with
    | .ok plan => slowRecorded 30 plan && slowRecorded 10 plan
    | .error _ => false) = true := by
  decide +kernel

theorem slowGate_recorded : ∃ plan, loadPlan plainLoads (.text samplePlan) = .ok plan ∧
    slowRecorded 30 plan = true ∧ slowRecorded 10 plan = true := by
  have hrun := slowGate_run
  cases hload : loadPlan plainLoads (.text samplePlan) with
  | error e =>
    rw [hload] at hrun
    cases hrun
  | ok plan =>
    rw [hload] at hrun
    exact ⟨plan, rfl, Bool.and_eq_true_iff.mp hrun⟩

theorem slowGate_passed {d : ℚ} {plan : Json} (h : slowRecorded d plan = true) :
    PassedAt (slowGate d) 0 0
      (outcome (runLive (slowGate d) plan (some liveToken)) ⟨baseReport .live, [], false⟩).2.events :=
  ⟨_, .obj [(chars "output_stationarity_gate", .str (chars "PASS"))], .str (chars "PASS"),
    (of_decide_eq_true h).2, rfl, rfl, rfl⟩

/-- The evaluator of the first phase takes 30 seconds: its gate passes after 41 seconds, with a
maximum of 21. -/
theorem slow_evaluator_overruns : ∃ plan, loadPlan plainLoads (.text samplePlan) = .ok plan ∧
    ∃ time : TimeLine (slowGate 30) plan, ¬ WithinBounds time
      (outcome (runLive (slowGate 30) plan (some liveToken)) ⟨baseReport .live, [], false⟩) := by
  obtain ⟨plan, hload, hslow, -⟩ := slowGate_recorded
  have hlength := (of_decide_eq_true hslow).1
  refine ⟨plan, hload, slowTimeLine 30 (by norm_num) (by norm_num) hlength, fun h => ?_⟩
  have hlate := (h.gates 0 0 (slowGate_passed hslow)).2
  have hfinished : slowFinished 30 0 0 = 41 := by rw [slowFinished_zero]; norm_num
  have hstart : slowStart 30 0 = 0 := rfl
  change slowFinished 30 0 0 - slowStart 30 0 ≤ ((preMaxS : ℕ) : ℚ) at hlate
  rw [hfinished, hstart] at hlate
  norm_num [preMaxS] at hlate

/-- An evaluator that takes all of its ten seconds. -/
theorem runLive_within_bounds_iff_sample : ∃ plan,
    loadPlan plainLoads (.text samplePlan) = .ok plan ∧
    ∃ time : TimeLine (slowGate 10) plan, WithinBounds time
      (outcome (runLive (slowGate 10) plan (some liveToken)) ⟨baseReport .live, [], false⟩) := by
  obtain ⟨plan, hload, -, hfast⟩ := slowGate_recorded
  have hlength := (of_decide_eq_true hfast).1
  refine ⟨plan, hload, slowTimeLine 10 (by norm_num) (by norm_num) hlength, ?_⟩
  refine (runLive_within_bounds_iff _ _ _ _).mpr fun phase n _ k _ => ?_
  have hlast (j : ℕ) : slowDuration 10 (.stationarity phase (j + 1)) = 0 := by simp [slowDuration]
  show ∑ j ∈ Finset.Icc k n, slowDuration 10 (.stationarity phase j) ≤ _
  cases k with
  | zero =>
    have hfirst : slowDuration 10 (.stationarity phase 0) ≤ 10 := by
      unfold slowDuration
      split <;> norm_num
    rw [Finset.sum_eq_single 0]
    · exact hfirst.trans (by norm_num [maxExtensions, extensionS])
    · intro j _ hj
      obtain ⟨j, rfl⟩ := Nat.exists_eq_succ_of_ne_zero hj
      exact hlast j
    · simp
  | succ k =>
    rw [Finset.sum_eq_zero]
    · exact Nat.cast_nonneg _
    · intro j hj
      have hpos : j ≠ 0 := by
        have := (Finset.mem_Icc.mp hj).1
        omega
      obtain ⟨j, rfl⟩ := Nat.exists_eq_succ_of_ne_zero hpos
      exact hlast j

end TcdOran.Harness
