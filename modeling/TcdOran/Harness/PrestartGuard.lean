import TcdOran.Harness.AtomicPrestart
import TcdOran.Lib.Check
import TcdOran.Lib.SignificantDigits

/-! What stands in front of `docker start`, and what the result file says of it. -/
namespace TcdOran.Harness.AtomicPrestart
open TcdOran.Lib Python Attempt

/-! ### What is promised -/

/-- The sample has an admissible age at the instant. -/
def Fresh (maxAge : MaxAge) (report : GateReport) (instant : ℤ) : Prop :=
  0 ≤ instant - report.latestSampleNs ∧ instant - report.latestSampleNs ≤ maxAge.ns

def GatePasses (rc : ℤ) (report : GateReport) : Prop :=
  rc = 0 ∧ report.admission = .str (chars "PASS")

section
variable (o : PrestartSurroundings) (args : PrestartArgs)

/-- The instant of the prestart check. -/
def prestartInstant : ℤ :=
  match args.mode with
  | .simulate => args.prestartUtcNs.getD 0
  | .liveStart => o.prestartNs

/-- The maximum age is the one of the policy. -/
def PolicyGives (maxAge : MaxAge) : Prop :=
  ∃ text policy, o.policyText = .ok text ∧ loadPolicy text = .ok policy ∧
    maxAgeOf (policy "FINAL_GATE_MAX_AGE_AT_DOCKER_START_MS") = .ok maxAge

/-- What a run has read: the maximum age, and the exit status and the report of the gate. -/
structure Evidence (maxAge : MaxAge) (rc : ℤ) (report : GateReport) : Prop where
  policy : PolicyGives o maxAge
  gate : ∃ process, o.runGate (gateCommand o args) = .ok process ∧ process.returncode = rc
  report : (o.gateReport >>= gateReportOf) = .ok report

/-- The whole nanoseconds stay below the milliseconds of the policy, where their product needs no
rounding. -/
def WithinPolicy (maxAge : MaxAge) : Prop :=
  ∀ ms, maxAge.ms = .finite ms → 0 ≤ ms → HasDigits defaultPrecision (ms * 1000000) →
    (maxAge.ns : ℚ) ≤ ms * 1000000

/-- All that has held where `docker start` is invoked. -/
structure StartGuards : Prop where
  mode : args.mode = .liveStart
  interlock : o.interlock = some (chars "YES")
  admitted : ∃ maxAge report, Evidence o args maxAge 0 report ∧
    report.admission = .str (chars "PASS") ∧ Fresh maxAge report o.prestartNs ∧
      Fresh maxAge report o.dockerStartInvokeNs ∧ WithinPolicy maxAge

/-- Every check has passed. -/
def Admitted (maxAge : MaxAge) (rc : ℤ) (report : GateReport) : Prop :=
  GatePasses rc report ∧ Fresh maxAge report (prestartInstant o args) ∧
    (args.mode = .liveStart → Fresh maxAge report o.dockerStartInvokeNs)

/-- `docker start` has been invoked, and has ended so. -/
def Started (starts : List (List ℕ)) (ended : ℤ → Prop) : Prop :=
  starts ≠ [] ∧ ∃ process, o.dockerStart (args.actuatorContainer.getD []) = .ok process ∧
    ended process.returncode

/-- The result says what was done. -/
structure Recorded (maxAge : MaxAge) (rc : ℤ) (report : GateReport) (starts : List (List ℕ))
    (result : PrestartResult) : Prop where
  count : result.dockerStartInvocationCount = starts.length
  executed : result.dockerStartExecuted = true ↔ starts ≠ []
  gate_pass : result.atomicPrestartGate = .pass ↔ Admitted o args maxAge rc report
  gate_fail : result.atomicPrestartGate = .fail ↔ ¬ Admitted o args maxAge rc report
  finalGate : result.blockingReason = some (some .finalPrecontrolGateFail) ↔ ¬ GatePasses rc report
  stalePrestart : result.blockingReason = some (some .staleAtPrestart) ↔
    GatePasses rc report ∧ ¬ Fresh maxAge report (prestartInstant o args)
  staleInvocation : result.blockingReason = some (some .staleAtDockerStartInvocation) ↔
    GatePasses rc report ∧ Fresh maxAge report (prestartInstant o args) ∧
      args.mode = .liveStart ∧ ¬ Fresh maxAge report o.dockerStartInvokeNs
  startFailed : result.blockingReason = some (some .dockerStartFailedAfterSingleInvocation) ↔
    Started o args starts (· ≠ 0)
  unblocked : result.blockingReason = some none ↔ Admitted o args maxAge rc report ∧
    (starts ≠ [] → Started o args starts (· = 0))

/-- `docker start` is invoked once at most and behind all guards, and whatever result file there is
tells what was done; a run that is neither blocked by the interlock nor raises leaves one. -/
structure PrestartSafe (exit : Except PrestartExit ℤ) (s : PrestartState) : Prop where
  once : s.starts.length ≤ 1
  guarded : s.starts ≠ [] → StartGuards o args
  simulated : args.mode = .simulate → s.starts = []
  recorded : ∀ result ∈ s.output, ∃ maxAge rc report, Evidence o args maxAge rc report ∧
    Recorded o args maxAge rc report s.starts result
  written : ∀ rc, exit = .ok rc → rc ≠ 77 →
    ∃ result ∈ s.output, (rc = 0 ↔ result.blockingReason = some none)

/-! ### The ends of a run -/

variable {o args}

/-- Nothing has been started or recorded yet. -/
def Untouched (s : PrestartState) : Prop := s.starts = [] ∧ s.output = none

theorem Untouched.safe_error {s : PrestartState} (h : Untouched s) (e : PrestartExit) :
    PrestartSafe o args (.error e) s where
  once := by simp [h.1]
  guarded hne := absurd h.1 hne
  simulated _ := h.1
  recorded result hresult := by simp [h.2] at hresult
  written rc hrc := by cases hrc

theorem Untouched.safe_blocked {s : PrestartState} (h : Untouched s) :
    PrestartSafe o args (.ok 77) s where
  once := by simp [h.1]
  guarded hne := absurd h.1 hne
  simulated _ := h.1
  recorded result hresult := by simp [h.2] at hresult
  written rc hrc hne := absurd (Except.ok.inj hrc).symm hne

/-- The program ends safely, whichever way. -/
abbrev EndsSafely (o : PrestartSurroundings) (args : PrestartArgs) (P : PrestartState → Prop)
    (x : Prestart ℤ) : Prop :=
  Triple P x (fun rc s => PrestartSafe o args (.ok rc) s) fun e s => PrestartSafe o args (.error e) s

theorem EndsSafely.bind_yields {α : Type} {G : α → Prop} {x : Prestart α} {f : α → Prestart ℤ}
    (hx : Yields Untouched G x) (hf : ∀ a, G a → EndsSafely o args Untouched (f a)) :
    EndsSafely o args Untouched (x >>= f) :=
  hx.bind_triple (fun e _ hs => hs.safe_error e) hf

theorem EndsSafely.bind_keeps {α : Type} {x : Prestart α} {f : α → Prestart ℤ}
    (hx : Keeps Untouched x) (hf : ∀ a, EndsSafely o args Untouched (f a)) :
    EndsSafely o args Untouched (x >>= f) :=
  hx.yields.bind_triple (fun e _ hs => hs.safe_error e) fun a _ => hf a

section
variable {P : PrestartState → Prop}

theorem yields_orRaise {α : Type} (r : Except String α) :
    Yields P (fun a => r = .ok a) (orRaise r : Prestart α) := by
  cases r with
  | ok a => exact yields_pure rfl
  | error e => exact yields_throw _

theorem keeps_orRaise {α : Type} (r : Except String α) : Keeps P (orRaise r : Prestart α) :=
  (yields_orRaise r).keeps

theorem keeps_demand (c : Prop) [Decidable c] (message : String) : Keeps P (demand c message) := by
  unfold demand
  split
  · exact keeps_pure _
  · exact keeps_throw _

theorem keeps_forM {α : Type} {f : α → Prestart PUnit} (h : ∀ a, Keeps P (f a)) (xs : List α) :
    Keeps P (xs.forM f) := by
  induction xs with
  | nil => exact keeps_pure _
  | cons x xs ih => exact (h x).bind fun _ => ih

theorem keeps_printLine (line : String) : Keeps P (printLine o line) := keeps_orRaise _

end

/-- `finish` writes its result or raises, and starts nothing. -/
theorem finish_safe (xs : List (List ℕ)) {result : PrestartResult} {lines : List String} {rc : ℤ}
    {maxAge : MaxAge} {gateRc : ℤ} {report : GateReport} (hone : xs.length ≤ 1)
    (hguards : xs ≠ [] → StartGuards o args) (hevidence : Evidence o args maxAge gateRc report)
    (hrecorded : Recorded o args maxAge gateRc report xs result)
    (hrc : rc = 0 ↔ result.blockingReason = some none) :
    EndsSafely o args (fun s => s.starts = xs ∧ s.output = none) (finish o result lines rc) := by
  have hsimulated (hmode : args.mode = .simulate) : xs = [] := by
    by_contra hne
    cases hmode.symm.trans (hguards hne).mode
  have hsafe (exit : Except PrestartExit ℤ) (s : PrestartState) (hxs : s.starts = xs)
      (houtput : ∀ r ∈ s.output, r = result)
      (hexit : ∀ n, exit = .ok n → s.output = some result ∧ n = rc) : PrestartSafe o args exit s := by
    subst hxs
    refine ⟨hone, hguards, hsimulated, ?_, ?_⟩
    · intro r hr
      obtain rfl := houtput r hr
      exact ⟨maxAge, gateRc, report, hevidence, hrecorded⟩
    · intro n hn _
      obtain ⟨hsome, rfl⟩ := hexit n hn
      exact ⟨result, hsome, hrc⟩
  unfold finish
  apply Keeps.bind_triple (keeps_orRaise _)
  · rintro e s ⟨hxs, hnone⟩
    exact hsafe _ s hxs (by simp [hnone]) (by simp)
  · intro _
    apply Triple.bind (R := fun _ s => s.starts = xs ∧ s.output = some result)
    · exact triple_modify fun s hs => ⟨hs.1, rfl⟩
    · intro _
      apply Keeps.bind_triple (keeps_forM keeps_printLine _)
      · rintro e s ⟨hxs, hsome⟩
        exact hsafe _ s hxs (by simp [hsome]) (by simp)
      · intro _
        apply triple_pure
        rintro s ⟨hxs, hsome⟩
        exact hsafe _ s hxs (by simp [hsome]) fun n hn => ⟨hsome, (Except.ok.inj hn).symm⟩

/-! ### The decision -/

theorem gatePasses_iff {rc : ℤ} {report : GateReport} :
    GatePasses rc report ↔ ¬ (rc ≠ 0 ∨ ¬ isText report.admission (chars "PASS") = true) := by
  rw [not_or, not_not, not_not, isText_iff]
  rfl

theorem PolicyGives.within {maxAge : MaxAge} (h : PolicyGives o maxAge) : WithinPolicy maxAge := by
  obtain ⟨_, _, -, -, hmaxAge⟩ := h
  intro ms hms hnonneg hdigits
  simp only [maxAgeOf, bind_eq_ok] at hmaxAge
  obtain ⟨ms', -, ns, hns, hpure⟩ := hmaxAge
  obtain rfl := Except.ok.inj hpure
  simp only at hms
  subst hms
  have hproduct : dmul defaultPrecision ms 1000000 = ms * 1000000 := dmul_eq (by decide) hdigits
  have hpos : 0 ≤ ms * 1000000 := by positivity
  simp only [maxAgeNsOf, hproduct, if_pos hpos] at hns
  split at hns
  · cases hns
  · rw [← Except.ok.inj hns]
    exact Int.floor_le _

section
variable {maxAge : MaxAge} {rc : ℤ} {report : GateReport}

/-- A result of a run that has not come to `docker start`. -/
structure Unstarted (result : PrestartResult) : Prop where
  count : result.dockerStartInvocationCount = 0
  executed : result.dockerStartExecuted = false

theorem recorded_gateFailed {result : PrestartResult} (h : Unstarted result)
    (hgate : result.atomicPrestartGate = .fail)
    (hreason : result.blockingReason = some (some .finalPrecontrolGateFail))
    (hfails : ¬ GatePasses rc report) : Recorded o args maxAge rc report [] result := by
  constructor <;> simp [h.count, h.executed, hgate, hreason, hfails, Admitted, Started]

theorem recorded_stalePrestart {result : PrestartResult} (h : Unstarted result)
    (hgate : result.atomicPrestartGate = .fail)
    (hreason : result.blockingReason = some (some .staleAtPrestart))
    (hpasses : GatePasses rc report) (hstale : ¬ Fresh maxAge report (prestartInstant o args)) :
    Recorded o args maxAge rc report [] result := by
  constructor <;> simp [h.count, h.executed, hgate, hreason, hpasses, hstale, Admitted, Started]

theorem recorded_staleInvocation {result : PrestartResult} (h : Unstarted result)
    (hgate : result.atomicPrestartGate = .fail)
    (hreason : result.blockingReason = some (some .staleAtDockerStartInvocation))
    (hpasses : GatePasses rc report) (hfresh : Fresh maxAge report (prestartInstant o args))
    (hmode : args.mode = .liveStart) (hstale : ¬ Fresh maxAge report o.dockerStartInvokeNs) :
    Recorded o args maxAge rc report [] result := by
  constructor <;>
    simp [h.count, h.executed, hgate, hreason, hpasses, hfresh, hmode, hstale, Admitted, Started]

theorem recorded_simulated {result : PrestartResult} (h : Unstarted result)
    (hgate : result.atomicPrestartGate = .pass) (hreason : result.blockingReason = some none)
    (hpasses : GatePasses rc report) (hfresh : Fresh maxAge report (prestartInstant o args))
    (hmode : args.mode = .simulate) : Recorded o args maxAge rc report [] result := by
  constructor <;>
    simp [h.count, h.executed, hgate, hreason, hpasses, hfresh, hmode, Admitted, Started]

/-- The result behind `docker start`, which is blocked where that has failed. -/
theorem recorded_started {result : PrestartResult} {process : CompletedProcess} {name : List ℕ}
    (hcount : result.dockerStartInvocationCount = 1) (hexecuted : result.dockerStartExecuted = true)
    (hgate : result.atomicPrestartGate = .pass)
    (hreason : result.blockingReason = some (if process.returncode = 0 then none
      else some .dockerStartFailedAfterSingleInvocation))
    (hprocess : o.dockerStart (args.actuatorContainer.getD []) = .ok process)
    (hpasses : GatePasses rc report) (hfresh : Fresh maxAge report (prestartInstant o args))
    (hinvoked : Fresh maxAge report o.dockerStartInvokeNs) :
    Recorded o args maxAge rc report [name] result := by
  by_cases hrc : process.returncode = 0
  · constructor <;> simp [hcount, hexecuted, hgate, hreason, hprocess, hpasses, hfresh, hinvoked,
      hrc, Admitted, Started]
  · constructor <;> simp [hcount, hexecuted, hgate, hreason, hprocess, hpasses, hfresh, hinvoked,
      hrc, Admitted, Started]

/-- `docker start` is invoked, and then answers or raises. -/
theorem startContainer_triple {name : List ℕ} :
    Triple Untouched (startContainer o name)
      (fun process s => (s.starts = [name] ∧ s.output = none) ∧ o.dockerStart name = .ok process)
      (fun _ s => s.starts = [name] ∧ s.output = none) := by
  unfold startContainer
  apply Triple.bind (R := fun _ s => s.starts = [name] ∧ s.output = none)
  · apply triple_modify
    rintro s ⟨hstarts, hnone⟩
    exact ⟨by simp [hstarts], hnone⟩
  · intro _
    exact yields_orRaise _

theorem invokeDockerStart_safe (hevidence : Evidence o args maxAge rc report)
    (hmode : args.mode = .liveStart) (hinterlock : o.interlock = some (chars "YES"))
    (hpasses : GatePasses rc report) (hfresh : Fresh maxAge report (prestartInstant o args))
    {result : PrestartResult} (hunstarted : Unstarted result)
    (hgate : result.atomicPrestartGate = .pass) :
    EndsSafely o args Untouched (invokeDockerStart o args maxAge report result) := by
  have hnil : ([] : List (List ℕ)) ≠ [] → StartGuards o args := fun hne => absurd rfl hne
  unfold invokeDockerStart
  simp only
  split_ifs with hold
  · have hstale : ¬ Fresh maxAge report o.dockerStartInvokeNs := by
      rintro ⟨hnonneg, hle⟩
      omega
    apply finish_safe [] (Nat.zero_le 1) hnil hevidence
    · exact recorded_staleInvocation ⟨hunstarted.count, hunstarted.executed⟩ rfl rfl hpasses hfresh
        hmode hstale
    · simp
  · have hinvoked : Fresh maxAge report o.dockerStartInvokeNs := by
      unfold Fresh
      omega
    have hinstant : prestartInstant o args = o.prestartNs := by rw [prestartInstant, hmode]
    have hguards : StartGuards o args := by
      obtain ⟨rfl, hadmission⟩ := hpasses
      rw [hinstant] at hfresh
      exact ⟨hmode, hinterlock, maxAge, report, hevidence, hadmission, hfresh, hinvoked,
        hevidence.policy.within⟩
    apply Triple.bind_known startContainer_triple
    · rintro e s ⟨hstarts, hnone⟩
      exact {
        once := by simp [hstarts]
        guarded := fun _ => hguards
        simulated := fun hsimulate => by cases hsimulate.symm.trans hmode
        recorded := fun result hresult => by simp [hnone] at hresult
        written := fun _ h => by cases h }
    · intro process hprocess
      apply finish_safe [args.actuatorContainer.getD []] le_rfl (fun _ => hguards) hevidence
      · exact recorded_started rfl rfl hgate rfl hprocess hpasses hfresh hinvoked
      · by_cases hrc : process.returncode = 0 <;> simp [hrc]

theorem decideStart_safe (hevidence : Evidence o args maxAge rc report)
    (hinterlock : args.mode = .liveStart → o.interlock = some (chars "YES")) :
    EndsSafely o args Untouched
      (decideStart o args maxAge (prestartInstant o args) rc report) := by
  have hnil : ([] : List (List ℕ)) ≠ [] → StartGuards o args := fun hne => absurd rfl hne
  unfold decideStart
  simp only
  by_cases hblocked : rc ≠ 0 ∨ ¬ isText report.admission (chars "PASS") = true
  · rw [if_pos hblocked]
    have hfails : ¬ GatePasses rc report := fun h => gatePasses_iff.mp h hblocked
    apply finish_safe [] (Nat.zero_le 1) hnil hevidence
    · exact recorded_gateFailed ⟨rfl, rfl⟩ rfl rfl hfails
    · simp
  rw [if_neg hblocked]
  have hpasses : GatePasses rc report := gatePasses_iff.mpr hblocked
  apply EndsSafely.bind_keeps (keeps_printLine _)
  intro _
  apply EndsSafely.bind_keeps (keeps_printLine _)
  intro _
  split
  · next hstale =>
    apply finish_safe [] (Nat.zero_le 1) hnil hevidence
    · exact recorded_stalePrestart ⟨rfl, rfl⟩ rfl rfl hpasses hstale
    · simp
  · next hnot =>
    have hfresh : Fresh maxAge report (prestartInstant o args) := not_not.mp hnot
    cases hmode : args.mode with
    | simulate =>
      apply finish_safe [] (Nat.zero_le 1) hnil hevidence
      · exact recorded_simulated ⟨rfl, rfl⟩ rfl rfl hpasses hfresh hmode
      · simp
    | liveStart =>
      exact invokeDockerStart_safe hevidence hmode (hinterlock hmode) hpasses hfresh ⟨rfl, rfl⟩ rfl

/-! ### The gate and what stands in front of it -/

theorem runFinalGate_yields : Yields Untouched
    (fun found => (∃ process, o.runGate (gateCommand o args) = .ok process ∧
      process.returncode = found.1) ∧ (o.gateReport >>= gateReportOf) = .ok found.2)
    (runFinalGate o args) := by
  unfold runFinalGate
  apply (yields_orRaise _).bind
  intro process hprocess
  have houtput (text : List ℕ) : Keeps Untouched (printOutput o text) := by
    unfold printOutput
    split
    · exact keeps_orRaise _
    · exact keeps_pure _
  apply (keeps_orRaise _).yields.bind
  intro _ _
  apply (houtput _).yields.bind
  intro _ _
  apply (houtput _).yields.bind
  intro _ _
  apply (keeps_demand _ _).yields.bind
  intro _ _
  apply (keeps_orRaise _).yields.bind
  intro _ _
  apply (keeps_demand _ _).yields.bind
  intro _ _
  apply (yields_orRaise _).bind
  intro report hreport
  exact yields_pure ⟨⟨process, hprocess, rfl⟩, hreport⟩

theorem loadMaxAge_yields : Yields Untouched (PolicyGives o) (loadMaxAge o args) := by
  unfold loadMaxAge
  have hfile (path : List ℕ) : Keeps Untouched (requireFile o path) := by
    apply (keeps_orRaise _).bind
    intro isFile
    cases isFile
    · exact keeps_throw _
    · exact keeps_pure _
  have habsent (path : List ℕ) : Keeps Untouched (requireAbsent o path) := by
    apply (keeps_orRaise _).bind
    intro present
    cases present
    · exact keeps_pure _
    · exact keeps_throw _
  apply (keeps_forM hfile _).yields.bind
  intro _ _
  apply (keeps_forM habsent _).yields.bind
  intro _ _
  apply (keeps_orRaise _).yields.bind
  intro _ _
  apply (yields_orRaise _).bind
  intro text htext
  apply (yields_ofExcept _).bind
  intro policy hpolicy
  apply Triple.conseq (yields_orRaise _) (fun _ h => h) _ fun _ _ h => h
  exact fun maxAge _ h => ⟨h.1, text, policy, htext, hpolicy, h.2⟩

theorem inspectLiveContainer_keeps (name : List ℕ) :
    Keeps Untouched (inspectLiveContainer o name) := by
  have hsole (objects : Json) : Keeps Untouched (soleObject objects) := by
    have hcardinality (n : ℕ) (exception : String) : Keeps Untouched
        (if n ≠ 1 then prestartError "unexpected docker inspect cardinality" []
          else throw (.raised exception) : Prestart Json) := by
      split <;> exact keeps_throw _
    unfold soleObject
    simp only
    split
    · exact keeps_pure _
    · exact hcardinality _ _
    · exact hcardinality _ _
    · exact hcardinality _ _
    · exact keeps_throw _
  unfold inspectLiveContainer
  apply (keeps_demand _ _).bind
  intro _
  apply (keeps_demand _ _).bind
  intro _
  apply (keeps_orRaise _).bind
  intro _
  apply (keeps_demand _ _).bind
  intro _
  apply (keeps_orRaise _).bind
  intro _
  apply (hsole _).bind
  intro _
  apply (keeps_orRaise _).bind
  intro _
  apply (keeps_orRaise _).bind
  intro _
  apply (keeps_demand _ _).bind
  intro _
  apply (keeps_orRaise _).bind
  intro _
  apply (keeps_demand _ _).bind
  intro _
  apply (keeps_orRaise _).bind
  intro _
  apply (keeps_demand _ _).bind
  intro _
  apply (keeps_orRaise _).bind
  intro _
  apply (keeps_orRaise _).bind
  intro _
  exact keeps_demand _ _

theorem gateAndStart_safe (hpolicy : PolicyGives o maxAge)
    (hinterlock : args.mode = .liveStart → o.interlock = some (chars "YES")) :
    EndsSafely o args Untouched (gateAndStart o args maxAge (prestartInstant o args)) := by
  unfold gateAndStart
  apply EndsSafely.bind_yields runFinalGate_yields
  rintro ⟨rc, report⟩ ⟨hgate, hreport⟩
  exact decideStart_safe ⟨hpolicy, hgate, hreport⟩ hinterlock

theorem simulate_safe (hmode : args.mode = .simulate) (hpolicy : PolicyGives o maxAge) :
    EndsSafely o args Untouched (simulate o args maxAge) := by
  unfold simulate
  apply EndsSafely.bind_keeps (keeps_demand _ _)
  intro _
  cases hinstant : args.prestartUtcNs with
  | none => exact triple_throw fun s hs => hs.safe_error _
  | some prestartNs =>
    have hsame : prestartInstant o args = prestartNs := by
      rw [prestartInstant, hmode, hinstant]
      rfl
    apply EndsSafely.bind_keeps (keeps_demand _ _)
    intro _
    rw [← hsame]
    exact gateAndStart_safe hpolicy fun hlive => by cases hlive.symm.trans hmode

theorem liveStart_safe (hmode : args.mode = .liveStart) (hpolicy : PolicyGives o maxAge) :
    EndsSafely o args Untouched (liveStart o args maxAge) := by
  unfold liveStart
  apply EndsSafely.bind_keeps (keeps_demand _ _)
  intro _
  apply EndsSafely.bind_keeps (keeps_demand _ _)
  intro _
  split
  · apply EndsSafely.bind_keeps (keeps_printLine _)
    intro _
    apply EndsSafely.bind_keeps (keeps_printLine _)
    intro _
    exact triple_pure fun s hs => hs.safe_blocked
  · next hinterlock =>
    apply EndsSafely.bind_keeps (inspectLiveContainer_keeps _)
    intro _
    have hsame : prestartInstant o args = o.prestartNs := by rw [prestartInstant, hmode]
    rw [← hsame]
    exact gateAndStart_safe hpolicy fun _ => not_not.mp hinterlock

end

end

/-- Every run of the executor is safe, whatever it meets outside. -/
theorem atomic_prestart_safe (o : PrestartSurroundings) (args : PrestartArgs) :
    PrestartSafe o args (prestartMain o args).1 (prestartMain o args).2 := by
  have hrun : EndsSafely o args Untouched (runPrestart o args) := by
    unfold runPrestart
    apply EndsSafely.bind_yields loadMaxAge_yields
    intro maxAge hpolicy
    cases hmode : args.mode with
    | simulate => exact simulate_safe hmode hpolicy
    | liveStart => exact liveStart_safe hmode hpolicy
  have hend := hrun ⟨[], none⟩ ⟨rfl, rfl⟩
  unfold prestartMain
  rcases houtcome : outcome (runPrestart o args) ⟨[], none⟩ with ⟨e | rc, s⟩ <;>
    rwa [houtcome] at hend

end TcdOran.Harness.AtomicPrestart
