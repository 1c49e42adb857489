import TcdOran.Harness.Supervisor

/-! How a command and a stationarity gate of the supervisor end, in terms of what it meets
outside. -/
namespace TcdOran.Harness
open TcdOran.Lib Python Attempt

section
variable (o : Surroundings)

/-- The experiment time has not run out when the command is to be started. -/
def InTime (command : SupervisorCommand) : Prop := 0 < remaining o (.command command)

/-- `subprocess.run` raises nothing but its timeout. -/
def CommandOutcome.Handled : CommandOutcome → Prop
  | .notStarted _ | .exited _ none => False
  | .timedOut | .exited _ (some _) => True

def Succeeds (command : SupervisorCommand) : Prop :=
  ∃ stdout, o.outcome command = .exited 0 (some stdout)

/-- The events of a command, up to its start or to its exit. -/
def Attempted (command : SupervisorCommand) (es : List SupervisorEvent) : Prop :=
  es = [] ∨ es = [.started command] ∨
    ∃ rc stdout, es = [.started command, .exited command rc stdout]

/-- The ends of `run_command`. -/
inductive CommandEnd (command : SupervisorCommand) (argv : Json) (s : SupervisorState) :
    Except SupervisorFailure (List ℕ) × SupervisorState → Prop
  | late (reason : List ℕ) (rc : ℤ) : ¬ InTime o command →
      CommandEnd command argv s (.error (.supervisor reason rc), s)
  | broken (exception : String) (es : List SupervisorEvent) : InTime o command →
      (popenAccepts argv = true → ¬ (o.outcome command).Handled) → Attempted command es →
      CommandEnd command argv s (.error (.uncaught exception), s.emit es)
  | timedOut (reason : List ℕ) (rc : ℤ) : InTime o command → popenAccepts argv = true →
      o.outcome command = .timedOut →
      CommandEnd command argv s (.error (.supervisor reason rc), s.emit [.started command])
  | refused (reason : List ℕ) (rc : ℤ) (returncode : ℤ) (stdout : List ℕ) : InTime o command →
      popenAccepts argv = true → returncode ≠ 0 →
      o.outcome command = .exited returncode (some stdout) →
      CommandEnd command argv s (.error (.supervisor reason rc),
        s.emit [.started command, .exited command returncode (some stdout)])
  | done (stdout : List ℕ) : InTime o command → popenAccepts argv = true →
      o.outcome command = .exited 0 (some stdout) →
      CommandEnd command argv s (.ok stdout,
        s.emit [.started command, .exited command 0 (some stdout)])

end

theorem mem_attempted {command : SupervisorCommand} {es : List SupervisorEvent}
    {e : SupervisorEvent} (h : Attempted command es) (he : e ∈ es) :
    e = .started command ∨ ∃ rc stdout, e = .exited command rc stdout := by
  rcases h with rfl | rfl | ⟨rc, stdout, rfl⟩
  · cases he
  · exact .inl (List.mem_singleton.mp he)
  · rcases List.mem_cons.mp he with rfl | he
    · exact .inl rfl
    · exact .inr ⟨rc, stdout, List.mem_singleton.mp he⟩

section
variable {o : Surroundings} {s : SupervisorState}

theorem emit_nil (s : SupervisorState) : s.emit [] = s := by
  simp [SupervisorState.emit]

theorem emit_emit (s : SupervisorState) (es es' : List SupervisorEvent) :
    (s.emit es).emit es' = s.emit (es ++ es') := by
  simp [SupervisorState.emit]

theorem requireRemaining_end (reading : ClockReading) (reason : String) :
    outcome (requireRemaining o reading reason) s =
      if 0 < remaining o reading then (.ok (remaining o reading), s)
      else (.error (.supervisor (chars reason) 124), s) := by
  unfold requireRemaining
  by_cases h : remaining o reading ≤ 0
  · rw [if_pos h, if_neg (not_lt.mpr h)]
    rfl
  · rw [if_neg h, if_pos (not_le.mp h)]
    rfl

theorem runCommand_end (command : SupervisorCommand) (argv : Json) (reason : List ℕ) :
    CommandEnd o command argv s (outcome (runCommand o command argv reason) s) := by
  unfold runCommand
  rw [outcome_bind, requireRemaining_end]
  by_cases htime : 0 < remaining o (.command command)
  case neg =>
    rw [if_neg htime]
    exact .late _ _ htime
  rw [if_pos htime]
  simp only
  unfold subprocessRun
  cases haccepts : popenAccepts argv with
  | false =>
    have h := @CommandEnd.broken o command argv s "TypeError" [] htime
      (by simp [haccepts]) (.inl rfl)
    rwa [emit_nil] at h
  | true =>
    cases houtcome : o.outcome command with
    | notStarted exception =>
      have h := @CommandEnd.broken o command argv s exception [] htime
        (fun _ => by simp [houtcome, CommandOutcome.Handled]) (.inl rfl)
      rwa [emit_nil] at h
    | timedOut => exact .timedOut _ _ htime haccepts houtcome
    | exited returncode stdout =>
      cases stdout with
      | none =>
        exact .broken _ _ htime (fun _ => by simp [houtcome, CommandOutcome.Handled])
          (.inr (.inr ⟨_, _, rfl⟩))
      | some stdout =>
        by_cases hrc : returncode = 0
        · subst hrc
          exact .done _ htime haccepts houtcome
        · have h := @CommandEnd.refused o command argv s
            (reason ++ chars ":RC_" ++ intText returncode) returncode returncode stdout htime
            haccepts hrc houtcome
          simpa [outcome_bind, hrc, emit, supervisorError] using h

end

/-! ### The stationarity gate -/

section
variable (o : Surroundings) (phase : ℕ) (role : PhaseRole)

/-- The wait in front of an evaluation ends in time. -/
def Waits (n : ℕ) : Prop :=
  role.minimum + n * extensionS ≤ role.phaseLimit ∧ 0 < remaining o (.sleep phase n) ∧
    max 0 (((role.minimum + n * extensionS : ℕ) : ℚ) -
      (o.clock (.observation phase n) - o.clock (.phaseStarted phase))) ≤
        remaining o (.sleep phase n)

def Observes (n : ℕ) : Prop := Waits o phase role n ∧ InTime o (.stationarity phase n)

/-- What the evaluator answers under `output_stationarity_gate`. -/
def Evaluates (n : ℕ) (gate : Json) : Prop :=
  ∃ stdout record, o.outcome (.stationarity phase n) = .exited 0 (some stdout) ∧
    o.loads stdout = .value record ∧ get record "output_stationarity_gate" = .ok gate

def EvaluationPasses (n : ℕ) : Prop := ∃ gate, Evaluates o phase n gate ∧ isText gate (chars "PASS") = true

def EvaluationFails (n : ℕ) : Prop :=
  ∃ gate, Evaluates o phase n gate ∧ isText gate (chars "PASS") = false ∧ isText gate (chars "FAIL") = true

/-- The evaluator can be run, and its output, where it exits with 0, is no JSON or an object. -/
def EvaluationHandled (n : ℕ) : Prop :=
  (o.outcome (.stationarity phase n)).Handled ∧
    ∀ stdout, o.outcome (.stationarity phase n) = .exited 0 (some stdout) →
      o.loads stdout = .syntaxError ∨ ∃ members, o.loads stdout = .value (.obj members)

/-- The gate gets to its `n`-th extension. -/
def Extends (n : ℕ) : Prop :=
  ∀ m < n, Observes o phase role m ∧ EvaluationFails o phase m

/-- No evaluation of the gate raises another exception than `SupervisorError`. -/
def GateHandled : Prop :=
  ∀ n ≤ maxExtensions, Extends o phase role n → Observes o phase role n →
    EvaluationHandled o phase n

def GatePasses : Prop :=
  ∃ n ≤ maxExtensions, Extends o phase role n ∧ Observes o phase role n ∧
    EvaluationPasses o phase n

/-- The evaluator has answered that the gate is passed. -/
def PassRecorded (events : List SupervisorEvent) : Prop :=
  ∃ n stdout record gate, .exited (.stationarity phase n) 0 (some stdout) ∈ events ∧
    o.loads stdout = .value record ∧ get record "output_stationarity_gate" = .ok gate ∧
    isText gate (chars "PASS") = true

/-- What a gate makes of its surroundings: its answer and the events that it adds. -/
def GateEnd (r : Except SupervisorFailure ℕ) (es : List SupervisorEvent) : Prop :=
  match r with
  | .ok _ => GateHandled o phase role ∧ GatePasses o phase role ∧ PassRecorded o phase es
  | .error (.supervisor _ _) => GateHandled o phase role ∧ ¬ GatePasses o phase role
  | .error (.uncaught _) => ¬ GateHandled o phase role

end

section
variable {o : Surroundings} {phase : ℕ} {role : PhaseRole} {n : ℕ}

theorem Evaluates.unique {gate gate' : Json} (h : Evaluates o phase n gate)
    (h' : Evaluates o phase n gate') : gate = gate' := by
  obtain ⟨stdout, record, hexit, hload, hget⟩ := h
  obtain ⟨stdout', record', hexit', hload', hget'⟩ := h'
  rw [hexit] at hexit'
  obtain rfl : stdout = stdout' := by simpa using hexit'
  rw [hload] at hload'
  obtain rfl : record = record' := by simpa using hload'
  rw [hget] at hget'
  exact Except.ok.inj hget'

theorem not_passes_of_fails (h : EvaluationFails o phase n) : ¬ EvaluationPasses o phase n := by
  rintro ⟨gate, hgate, hpass⟩
  obtain ⟨gate', hgate', hnot, -⟩ := h
  rw [hgate.unique hgate', hnot] at hpass
  cases hpass

theorem handled_of_evaluates {gate : Json} (h : Evaluates o phase n gate) :
    EvaluationHandled o phase n := by
  obtain ⟨stdout, record, hexit, hload, hget⟩ := h
  constructor
  · simp [hexit, CommandOutcome.Handled]
  · intro stdout' hexit'
    rw [hexit] at hexit'
    obtain rfl : stdout = stdout' := by simpa using hexit'
    cases record with
    | obj members => exact .inr ⟨members, hload⟩
    | null | bool | num | str | arr => cases hget

/-- Where the gate does not extend any more, its `n`-th evaluation decides. -/
theorem gateHandled_iff (hn : n ≤ maxExtensions) (hextends : Extends o phase role n)
    (hstop : ¬ (Observes o phase role n ∧ EvaluationFails o phase n)) :
    GateHandled o phase role ↔ (Observes o phase role n → EvaluationHandled o phase n) := by
  constructor
  · intro h
    exact h n hn hextends
  · intro h m _ hm hobserves
    rcases lt_trichotomy m n with hlt | rfl | hlt
    · obtain ⟨gate, hgate, -⟩ := (hextends m hlt).2
      exact handled_of_evaluates hgate
    · exact h hobserves
    · exact absurd (hm n hlt) hstop

theorem gatePasses_iff (hn : n ≤ maxExtensions) (hextends : Extends o phase role n)
    (hstop : ¬ (Observes o phase role n ∧ EvaluationFails o phase n)) :
    GatePasses o phase role ↔ Observes o phase role n ∧ EvaluationPasses o phase n := by
  constructor
  · rintro ⟨m, -, hm, hobserves, hpasses⟩
    rcases lt_trichotomy m n with hlt | rfl | hlt
    · exact absurd hpasses (not_passes_of_fails (hextends m hlt).2)
    · exact ⟨hobserves, hpasses⟩
    · exact absurd (hm n hlt) hstop
  · rintro ⟨hobserves, hpasses⟩
    exact ⟨n, hn, hextends, hobserves, hpasses⟩

/-- A gate whose last extension has failed is handled and has not passed. -/
theorem gate_exhausted (hextends : Extends o phase role (maxExtensions + 1)) :
    GateHandled o phase role ∧ ¬ GatePasses o phase role := by
  constructor
  · intro m hm _ _
    obtain ⟨gate, hgate, -⟩ := (hextends m (Nat.lt_succ_of_le hm)).2
    exact handled_of_evaluates hgate
  · rintro ⟨m, hm, -, -, hpasses⟩
    exact not_passes_of_fails (hextends m (Nat.lt_succ_of_le hm)).2 hpasses

theorem Extends.succ (h : Extends o phase role n) (hobserves : Observes o phase role n)
    (hfails : EvaluationFails o phase n) : Extends o phase role (n + 1) := by
  intro m hm
  rcases Nat.lt_succ_iff_lt_or_eq.mp hm with hlt | rfl
  · exact h m hlt
  · exact ⟨hobserves, hfails⟩

section
variable {es : List SupervisorEvent} {reason : List ℕ} {rc : ℤ} {exception : String}

theorem gateEnd_unobserved (hn : n ≤ maxExtensions) (hextends : Extends o phase role n)
    (h : ¬ Observes o phase role n) :
    GateEnd o phase role (.error (.supervisor reason rc)) es := by
  have hstop : ¬ (Observes o phase role n ∧ EvaluationFails o phase n) := fun h' => h h'.1
  constructor
  · rw [gateHandled_iff hn hextends hstop]
    exact fun h' => absurd h' h
  · rw [gatePasses_iff hn hextends hstop]
    exact fun h' => h h'.1

theorem gateEnd_refused (hn : n ≤ maxExtensions) (hextends : Extends o phase role n)
    (hhandled : EvaluationHandled o phase n) (hpasses : ¬ EvaluationPasses o phase n)
    (hfails : ¬ EvaluationFails o phase n) :
    GateEnd o phase role (.error (.supervisor reason rc)) es := by
  have hstop : ¬ (Observes o phase role n ∧ EvaluationFails o phase n) := fun h' => hfails h'.2
  constructor
  · rw [gateHandled_iff hn hextends hstop]
    exact fun _ => hhandled
  · rw [gatePasses_iff hn hextends hstop]
    exact fun h' => hpasses h'.2

theorem gateEnd_uncaught (hn : n ≤ maxExtensions) (hextends : Extends o phase role n)
    (hobserves : Observes o phase role n) (hhandled : ¬ EvaluationHandled o phase n) :
    GateEnd o phase role (.error (.uncaught exception)) es := by
  have hstop : ¬ (Observes o phase role n ∧ EvaluationFails o phase n) := by
    rintro ⟨-, gate, hgate, -⟩
    exact hhandled (handled_of_evaluates hgate)
  show ¬ GateHandled o phase role
  rw [gateHandled_iff hn hextends hstop]
  exact fun h => hhandled (h hobserves)

/-- Without an output behind status 0 an evaluation neither passes nor fails the gate. -/
theorem gateEnd_unevaluated (hn : n ≤ maxExtensions) (hextends : Extends o phase role n)
    (hhandled : (o.outcome (.stationarity phase n)).Handled)
    (hexit : ∀ stdout, o.outcome (.stationarity phase n) ≠ .exited 0 (some stdout)) :
    GateEnd o phase role (.error (.supervisor reason rc)) es := by
  apply gateEnd_refused hn hextends
  · exact ⟨hhandled, fun stdout h => absurd h (hexit stdout)⟩
  · rintro ⟨gate, ⟨stdout, record, h, -⟩, -⟩
    exact hexit stdout h
  · rintro ⟨gate, ⟨stdout, record, h, -⟩, -⟩
    exact hexit stdout h

end

variable {s : SupervisorState}

theorem waitForObservation_end :
    (Waits o phase role n ∧
      outcome (waitForObservation o (role.minimum + n * extensionS) phase n role) s =
        (.ok ⟨⟩, s)) ∨
    (¬ Waits o phase role n ∧ ∃ reason rc,
      outcome (waitForObservation o (role.minimum + n * extensionS) phase n role) s =
        (.error (.supervisor reason rc), s)) := by
  unfold waitForObservation
  by_cases hlimit : role.minimum + n * extensionS > role.phaseLimit
  · right
    refine ⟨fun h => absurd h.1 (not_le.mpr hlimit), chars role.timeout, 124, ?_⟩
    rw [if_pos hlimit]
    rfl
  rw [if_neg hlimit]
  by_cases htime : 0 < remaining o (.sleep phase n)
  case neg =>
    right
    refine ⟨fun h => htime h.2.1, chars "EXPERIMENT_TIMEOUT", 124, ?_⟩
    simp only [outcome_bind, requireRemaining_end, if_neg htime]
  by_cases hsleep : max 0 (((role.minimum + n * extensionS : ℕ) : ℚ) -
      (o.clock (.observation phase n) - o.clock (.phaseStarted phase))) >
        remaining o (.sleep phase n)
  · right
    refine ⟨fun h => absurd h.2.2 (not_le.mpr hsleep), chars "EXPERIMENT_TIMEOUT", 124, ?_⟩
    simp only [outcome_bind, requireRemaining_end, if_pos htime, if_pos hsleep]
    rfl
  · left
    refine ⟨⟨not_lt.mp hlimit, htime, not_lt.mp hsleep⟩, ?_⟩
    simp only [outcome_bind, outcome_pure, requireRemaining_end, if_pos htime, if_neg hsleep]

theorem evaluatorGate_end (stdout : List ℕ) :
    (∃ record gate, o.loads stdout = .value record ∧
      get record "output_stationarity_gate" = .ok gate ∧
      outcome (evaluatorGate o stdout) s = (.ok gate, s)) ∨
    (o.loads stdout = .syntaxError ∧ ∃ reason rc,
      outcome (evaluatorGate o stdout) s = (.error (.supervisor reason rc), s)) ∨
    ((o.loads stdout ≠ .syntaxError ∧ ∀ members, o.loads stdout ≠ .value (.obj members)) ∧
      ∃ exception, outcome (evaluatorGate o stdout) s = (.error (.uncaught exception), s)) := by
  unfold evaluatorGate
  cases hload : o.loads stdout with
  | syntaxError => exact .inr (.inl ⟨rfl, _, _, rfl⟩)
  | gaveUp =>
    right; right
    exact ⟨by simp, _, rfl⟩
  | value record =>
    cases record with
    | obj members => exact .inl ⟨_, _, rfl, rfl, rfl⟩
    | null | bool | num | str | arr =>
      right; right
      exact ⟨by simp, _, rfl⟩

/-- The events of the commands of a gate. -/
def GateEvents (phase : ℕ) (es : List SupervisorEvent) : Prop :=
  ∀ e ∈ es, ∃ n, e = .started (.stationarity phase n) ∨
    ∃ rc stdout, e = .exited (.stationarity phase n) rc stdout

theorem gateEvents_of_attempted {es : List SupervisorEvent}
    (h : Attempted (.stationarity phase n) es) : GateEvents phase es :=
  fun _ he => ⟨n, mem_attempted h he⟩

theorem GateEvents.append {es es' : List SupervisorEvent} (h : GateEvents phase es)
    (h' : GateEvents phase es') : GateEvents phase (es ++ es') := by
  intro e he
  rcases List.mem_append.mp he with he | he
  · exact h e he
  · exact h' e he

theorem GateEnd.mono {r : Except SupervisorFailure ℕ} {es es' : List SupervisorEvent}
    (h : GateEnd o phase role r es) (hes : ∀ e ∈ es, e ∈ es') : GateEnd o phase role r es' := by
  match r with
  | .error (.supervisor _ _) => exact h
  | .error (.uncaught _) => exact h
  | .ok _ =>
    obtain ⟨hhandled, hpasses, n, stdout, record, gate, hmem, hrest⟩ := h
    exact ⟨hhandled, hpasses, n, stdout, record, gate, hes _ hmem, hrest⟩

/-- What follows an evaluation that has failed the gate. -/
def extend (o : Surroundings) (argv : Json) (phase : ℕ) (role : PhaseRole) (n : ℕ) :
    ℕ → Supervise ℕ
  | 0 => supervisorError (chars "MAX_STATIONARITY_EXTENSIONS_EXCEEDED") 125
  | left + 1 => do
      validateExtensionCount (n + 1)
      stationarityLoop o argv phase role left (n + 1)

theorem evaluation_end {argv : Json} (haccepts : popenAccepts argv = true) (left : ℕ)
    (hn : n ≤ maxExtensions) (hextends : Extends o phase role n) (s : SupervisorState) :
    ∃ es, GateEvents phase es ∧
      ((∃ r, outcome (stationarityLoop o argv phase role left n) s = (r, s.emit es) ∧
        GateEnd o phase role r es) ∨
      (Observes o phase role n ∧ EvaluationFails o phase n ∧
        outcome (stationarityLoop o argv phase role left n) s =
          outcome (extend o argv phase role n left) (s.emit es))) := by
  have hloop : stationarityLoop o argv phase role left n = (do
      waitForObservation o (role.minimum + n * extensionS) phase n role
      let stdout ← runCommand o (.stationarity phase n) argv
        (chars "STATIONARITY_EVALUATOR_FAILED")
      let gate ← evaluatorGate o stdout
      if isText gate (chars "PASS") then return n
      if !isText gate (chars "FAIL") then supervisorError (chars "STATIONARITY_GATE_INVALID") 65
      extend o argv phase role n left) := by
    cases left <;> rfl
  rw [hloop, outcome_bind]
  rcases @waitForObservation_end o phase role n s with
    ⟨hwaits, hwait⟩ | ⟨hwaits, reason, rc, hwait⟩
  case inr =>
    have hend := @gateEnd_unobserved o phase role n [] reason rc hn hextends
      fun h => hwaits h.1
    refine ⟨[], by simp [GateEvents], .inl ⟨_, ?_, hend⟩⟩
    rw [hwait, emit_nil]
  rw [hwait]
  simp only
  rw [outcome_bind]
  have hcommand := runCommand_end (o := o) (s := s) (.stationarity phase n) argv
    (chars "STATIONARITY_EVALUATOR_FAILED")
  generalize outcome (runCommand o (.stationarity phase n) argv
    (chars "STATIONARITY_EVALUATOR_FAILED")) s = end' at hcommand ⊢
  cases hcommand with
  | late reason rc hlate =>
    have hend := @gateEnd_unobserved o phase role n [] reason rc hn hextends
      fun h => hlate h.2
    refine ⟨[], by simp [GateEvents], .inl ⟨_, ?_, hend⟩⟩
    rw [emit_nil]
  | broken exception es htime hnot hes =>
    refine ⟨es, gateEvents_of_attempted hes, .inl ⟨_, rfl, ?_⟩⟩
    exact gateEnd_uncaught hn hextends ⟨hwaits, htime⟩ fun h => hnot haccepts h.1
  | timedOut reason rc htime _ hexit =>
    refine ⟨_, gateEvents_of_attempted (.inr (.inl rfl)), .inl ⟨_, rfl, ?_⟩⟩
    apply gateEnd_unevaluated hn hextends <;> simp [hexit, CommandOutcome.Handled]
  | refused reason rc returncode stdout htime _ hrc hexit =>
    refine ⟨_, gateEvents_of_attempted (.inr (.inr ⟨_, _, rfl⟩)), .inl ⟨_, rfl, ?_⟩⟩
    apply gateEnd_unevaluated hn hextends <;> simp [hexit, CommandOutcome.Handled, hrc]
  | done stdout htime _ hexit =>
    refine ⟨[.started (.stationarity phase n), .exited (.stationarity phase n) 0 (some stdout)],
      gateEvents_of_attempted (.inr (.inr ⟨0, some stdout, rfl⟩)), ?_⟩
    simp only
    rw [outcome_bind]
    generalize hs' : s.emit [.started (.stationarity phase n),
      .exited (.stationarity phase n) 0 (some stdout)] = s'
    have hevaluates {gate : Json} (h : Evaluates o phase n gate) :
        ∃ record, o.loads stdout = .value record ∧
          get record "output_stationarity_gate" = .ok gate := by
      obtain ⟨stdout', record, hexit', hrest⟩ := h
      rw [hexit] at hexit'
      obtain rfl : stdout = stdout' := by simpa using hexit'
      exact ⟨record, hrest⟩
    rcases evaluatorGate_end (o := o) (s := s') stdout with
      ⟨record, gate, hload, hget, hgate⟩ | ⟨hload, reason, rc, hgate⟩ |
        ⟨⟨hmalformed, hobject⟩, exception, hgate⟩
    · have heval : Evaluates o phase n gate := ⟨stdout, record, hexit, hload, hget⟩
      have hhandled := handled_of_evaluates heval
      rw [hgate]
      simp only
      cases hpass : isText gate (chars "PASS") with
      | true =>
        left
        have hpasses : EvaluationPasses o phase n := ⟨gate, heval, hpass⟩
        have hstop : ¬ (Observes o phase role n ∧ EvaluationFails o phase n) :=
          fun h => not_passes_of_fails h.2 hpasses
        refine ⟨.ok n, rfl, ?_, ?_, n, stdout, record, gate, ?_, hload, hget, hpass⟩
        · exact (gateHandled_iff hn hextends hstop).mpr fun _ => hhandled
        · exact (gatePasses_iff hn hextends hstop).mpr ⟨⟨hwaits, htime⟩, hpasses⟩
        · exact List.mem_cons_of_mem _ List.mem_cons_self
      | false =>
        cases hfail : isText gate (chars "FAIL") with
        | true => exact .inr ⟨⟨hwaits, htime⟩, ⟨gate, heval, hpass, hfail⟩, rfl⟩
        | false =>
          left
          refine ⟨_, rfl, gateEnd_refused hn hextends hhandled ?_ ?_⟩
          · rintro ⟨gate', heval', hpass'⟩
            rw [heval'.unique heval, hpass] at hpass'
            cases hpass'
          · rintro ⟨gate', heval', -, hfail'⟩
            rw [heval'.unique heval, hfail] at hfail'
            cases hfail'
    · left
      rw [hgate]
      refine ⟨_, rfl, gateEnd_refused hn hextends ⟨?_, ?_⟩ ?_ ?_⟩
      · simp [hexit, CommandOutcome.Handled]
      · intro stdout' hexit'
        rw [hexit] at hexit'
        obtain rfl : stdout = stdout' := by simpa using hexit'
        exact .inl hload
      · rintro ⟨gate, h, -⟩
        obtain ⟨record, hload', -⟩ := hevaluates h
        rw [hload] at hload'
        cases hload'
      · rintro ⟨gate, h, -⟩
        obtain ⟨record, hload', -⟩ := hevaluates h
        rw [hload] at hload'
        cases hload'
    · left
      rw [hgate]
      refine ⟨_, rfl, gateEnd_uncaught hn hextends ⟨hwaits, htime⟩ ?_⟩
      rintro ⟨-, h⟩
      rcases h stdout hexit with h | ⟨members, h⟩
      · exact hmalformed h
      · exact hobject members h

/-- The end of the loop from its `n`-th extension on, by induction on the extensions left. -/
theorem stationarityLoop_end {argv : Json} (haccepts : popenAccepts argv = true) (left : ℕ) :
    ∀ n, left + n = maxExtensions → Extends o phase role n → ∀ s : SupervisorState,
    ∃ r es, outcome (stationarityLoop o argv phase role left n) s = (r, s.emit es) ∧
      GateEvents phase es ∧ GateEnd o phase role r es := by
  induction left with
  | zero =>
    intro n hleft hextends s
    obtain ⟨es, hes, ⟨r, hr, hend⟩ | ⟨hobserves, hfails, hmore⟩⟩ :=
      evaluation_end haccepts 0 (by omega) hextends s
    · exact ⟨r, es, hr, hes, hend⟩
    · obtain rfl : n = maxExtensions := by omega
      exact ⟨_, es, hmore, hes, gate_exhausted (hextends.succ hobserves hfails)⟩
  | succ left ih =>
    intro n hleft hextends s
    obtain ⟨es, hes, ⟨r, hr, hend⟩ | ⟨hobserves, hfails, hmore⟩⟩ :=
      evaluation_end haccepts (left + 1) (by omega) hextends s
    · exact ⟨r, es, hr, hes, hend⟩
    · obtain ⟨r, es', hr, hes', hend⟩ :=
        ih (n + 1) (by omega) (hextends.succ hobserves hfails) (s.emit es)
      refine ⟨r, es ++ es', ?_, hes.append hes', hend.mono fun e => List.mem_append_right _⟩
      have hcount : ¬ n + 1 > maxExtensions := by omega
      rw [hmore, extend, outcome_bind, validateExtensionCount, if_neg hcount, outcome_pure]
      simp only
      rw [hr, emit_emit]

theorem stationarityGate_end {argv : Json} (haccepts : popenAccepts argv = true)
    (s : SupervisorState) :
    ∃ r es, outcome (stationarityGate o argv phase role) s = (r, s.emit es) ∧
      GateEvents phase es ∧ GateEnd o phase role r es :=
  stationarityLoop_end haccepts maxExtensions 0 rfl (fun m hm => absurd hm (Nat.not_lt_zero m)) s

end

end TcdOran.Harness
