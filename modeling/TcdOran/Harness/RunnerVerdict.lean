import Mathlib.Data.List.Infix
import TcdOran.Harness.RunnerScript

/-! The exit status of a runner and the manifest that it leaves. -/
namespace TcdOran.Harness.RunnerScript
open TcdOran.Lib Command

/-! ### What is promised -/

/-- IDENTITY up to FINALIZATION. -/
def normalOrder : List Lifecycle :=
  [.identity, .snapshot, .loggerStart, .loggerReady, .running, .cooldown, .postcheck, .loggerStop,
    .validation, .finalization]

/-- A prefix of the normal order, and at most one terminal state behind it. -/
def Ordered (history : List Lifecycle) : Prop :=
  ∃ n, n ≤ history.length ∧ history.take n = normalOrder.take n ∧ (history.drop n).length ≤ 1 ∧
    ∀ state ∈ history.drop n, state.isTerminal = true

instance (history : List Lifecycle) : Decidable (Ordered history) :=
  inferInstanceAs (Decidable (∃ n, n ≤ history.length ∧ _))

def Runner.Completed (r : Runner) : Prop :=
  ∃ m, r.manifest = .whole m ∧ m.finalStatus = some .completed

/-- The exit status says what the manifest says, and the history ends with its terminal state. -/
structure Truthful (r : Runner) : Prop where
  ordered : ∀ m, r.manifest = .whole m → Ordered m.history
  status : ∀ status, r.mode = .ended status → (status = 0 ↔ r.Completed)
  terminal : ∀ status, r.mode = .ended status → r.manifest ≠ .absent → ¬ r.Completed →
    ∃ m, r.manifest = .whole m ∧ (m.finalStatus = some .failed ∨ m.finalStatus = some .interrupted)

def Command.isUpdate : Command → Bool
  | .terminalTime | .setLifecycle _ | .setFinalStatus _ => true
  | _ => false

def Answer.isFailure : Answer → Bool
  | .fails _ _ => true
  | _ => false

def Answer.isSignal : Answer → Bool
  | .signal _ _ => true
  | _ => false

/-- A command that fails or is interrupted has done its work. -/
def Answer.effect : Answer → Bool
  | .ok => true
  | .fails _ effect | .signal _ effect => effect

/-- The script does not leave with the status of a readiness check that failed, nothing but success
comes between the state COMPLETED and the end of the script, and the trap is neither kept from its
updates nor interrupted before the last of them. -/
def Orderly (r : Runner) : RunnerAction → Prop
  | .childExits _ => True
  | .step answer => match r.mode, r.rest with
    | .main, [] => answer = .ok
    | .main, c :: _ =>
        (c = setLifecycle .completed → answer.effect = true → answer = .ok) ∧
        (c = setFinalStatus .completed ∨ c = setRunCompleted ∨ r.vars.runCompleted = true →
          answer = .ok)
    | .failing status, [] => status = 0 → answer ≠ .ok
    | .trap _, [] => r.vars.runCompleted = true → answer = .ok
    | .trap _, c :: rest =>
        (c.isUpdate = true → answer.isFailure = false) ∧
        (answer.isSignal = true → r.vars.runCompleted = false ∧
          (if answer.effect then rest else c :: rest).any Command.isUpdate = false)
    | _, _ => True

instance (r : Runner) : DecidablePred (Orderly r) := by
  intro a
  unfold Orderly
  split
  · infer_instance
  · split <;> infer_instance

/-! ### The prefixes of the script -/

def varsAfter (done : List Command) : Vars := done.foldl Vars.perform .initial

def manifestAfter (done : List Command) : ManifestFile := done.foldl ManifestFile.perform .absent

/-- A manifest on its way through the normal order. -/
def ManifestFile.Unfinished : ManifestFile → Prop
  | .whole m => m.finalStatus = none ∧ m.history = normalOrder.take m.history.length ∧
      (m.history = [] → m.state = .identity)
  | _ => True

instance (file : ManifestFile) : Decidable file.Unfinished := by
  cases file with
  | absent | begun => exact inferInstanceAs (Decidable True)
  | whole m => exact inferInstanceAs (Decidable (_ ∧ _ ∧ (_ → _)))

theorem experiment_unfinished (kpmEnabled : Bool) : ∀ done ∈ (experiment kpmEnabled).inits,
    (manifestAfter done).Unfinished ∧ (varsAfter done).runCompleted = false := by
  cases kpmEnabled <;> decide +kernel

theorem runCompleted_foldl {v : Vars} (h : v.runCompleted = true) (commands : List Command) :
    (commands.foldl Vars.perform v).runCompleted = true := by
  induction commands generalizing v with
  | nil => exact h
  | cons c commands ih =>
    apply ih
    cases c with
    | setActive owner active => cases owner <;> exact h
    | setRunCompleted => rfl
    | _ => exact h

section
variable {kpmEnabled : Bool} {done rest : List Command} {c : Command}

/-- Where a command of the script stands. -/
theorem position_of_split (h : done ++ c :: rest = script kpmEnabled) :
    done ++ [c] ∈ (experiment kpmEnabled).inits ∨
    c = setLifecycle .completed ∧ done = experiment kpmEnabled ∨
    c = setFinalStatus .completed ∨ c = setRunCompleted ∨ (varsAfter done).runCompleted = true := by
  have hscript : done ++ c :: rest = experiment kpmEnabled ++ (setLifecycle .completed ::
      setFinalStatus .completed :: setRunCompleted :: reports) := by
    rw [h, script, completion, List.append_assoc]
    rfl
  rcases List.append_eq_append_iff.mp hscript with ⟨mid, hexperiment, htail⟩ | ⟨mid, hdone, htail⟩
  · cases mid with
    | nil =>
      rw [List.append_nil] at hexperiment
      exact .inr (.inl ⟨(List.cons.inj htail).1, hexperiment.symm⟩)
    | cons x mid =>
      obtain ⟨rfl, -⟩ := List.cons.inj htail
      left
      rw [List.mem_inits, hexperiment]
      exact ⟨mid, by simp⟩
  · rcases mid with _ | ⟨x, _ | ⟨y, _ | ⟨z, mid⟩⟩⟩
    · rw [List.append_nil] at hdone
      exact .inr (.inl ⟨(List.cons.inj htail).1.symm, hdone⟩)
    · exact .inr (.inr (.inl (List.cons.inj (List.cons.inj htail).2).1.symm))
    · obtain ⟨-, htail⟩ := List.cons.inj (List.cons.inj htail).2
      exact .inr (.inr (.inr (.inl (List.cons.inj htail).1.symm)))
    · obtain ⟨hx, htail⟩ := List.cons.inj htail
      obtain ⟨hy, htail⟩ := List.cons.inj htail
      obtain ⟨hz, -⟩ := List.cons.inj htail
      subst hx hy hz
      refine .inr (.inr (.inr (.inr ?_)))
      rw [varsAfter, hdone, List.foldl_append, List.foldl_cons, List.foldl_cons, List.foldl_cons]
      exact runCompleted_foldl rfl mid

end

def ManifestFile.IsOrdered : ManifestFile → Prop
  | .whole m => Ordered m.history
  | _ => True

instance (file : ManifestFile) : Decidable file.IsOrdered := by
  cases file with
  | absent | begun => exact inferInstanceAs (Decidable True)
  | whole m => exact inferInstanceAs (Decidable (Ordered m.history))

theorem script_ordered (kpmEnabled : Bool) :
    ∀ done ∈ (script kpmEnabled).inits, (manifestAfter done).IsOrdered := by
  cases kpmEnabled <;> decide +kernel

theorem script_completes (kpmEnabled : Bool) : (varsAfter (script kpmEnabled)).runCompleted = true ∧
    manifestAfter (script kpmEnabled) =
      .whole ⟨.completed, normalOrder ++ [.completed], some .completed⟩ := by
  cases kpmEnabled <;> exact ⟨rfl, by decide +kernel⟩

theorem Manifest.ordered_setLifecycle {m : Manifest} {state : Lifecycle}
    (h : (ManifestFile.whole m).Unfinished) (hstate : state.isTerminal = true) :
    Ordered (m.setLifecycle state).history := by
  obtain ⟨-, hhistory, hfirst⟩ := h
  by_cases hnil : m.history = []
  · refine ⟨1, ?_⟩
    simp [Manifest.setLifecycle, hnil, hfirst hnil, normalOrder, hstate]
  · refine ⟨m.history.length, ?_⟩
    simp [Manifest.setLifecycle, hnil, ← hhistory, hstate]

/-! ### The invariant -/

def Command.isStop : Command → Bool
  | .stopQuietly _ | .stopStack _ => true
  | _ => false

/-- Nothing is completed yet. -/
structure Early (r : Runner) : Prop where
  runCompleted : r.vars.runCompleted = false
  manifest : r.manifest.Unfinished

/-- What the trap has still to do to a manifest behind its stops. -/
inductive Closing (state : Lifecycle) : ManifestFile → List Command → Prop
  | absent : Closing state .absent []
  | time (file : ManifestFile) : file.Unfinished → Closing state file
      [terminalTime, setLifecycle state, setFinalStatus state]
  | lifecycle (file : ManifestFile) : file.Unfinished → Closing state file
      [setLifecycle state, setFinalStatus state]
  | status (m : Manifest) : m.finalStatus = none → Ordered m.history →
      Closing state (.whole m) [setFinalStatus state]
  | closed (m : Manifest) : m.finalStatus = some state → Ordered m.history →
      Closing state (.whole m) []

def FullyCompleted (file : ManifestFile) : Prop :=
  ∃ m, file = .whole m ∧ m.finalStatus = some .completed ∧ Ordered m.history

/-- What holds of a runner in every run. -/
inductive Stage (kpmEnabled : Bool) (r : Runner) : Prop
  | main (done : List Command) : r.mode = .main → done ++ r.rest = script kpmEnabled →
      r.vars = varsAfter done → r.manifest = manifestAfter done → Stage kpmEnabled r
  | failing (status : ℕ) : r.mode = .failing status → Early r →
      (∀ c ∈ r.rest, c.isStop = true ∨ c = reportNotReady) → Stage kpmEnabled r
  | closing (status : ℕ) (state : Lifecycle) (stops tail : List Command) : r.mode = .trap status →
      status ≠ 0 → state = .failed ∨ state = .interrupted → r.rest = stops ++ tail →
      (∀ c ∈ stops, c.isStop = true) → Closing state r.manifest tail → Stage kpmEnabled r
  | completed : r.mode = .trap 0 → r.vars.runCompleted = true → FullyCompleted r.manifest →
      (∀ c ∈ r.rest, c.isStop = true) → Stage kpmEnabled r
  | ended (status : ℕ) : r.mode = .ended status → r.manifest.IsOrdered →
      (status = 0 ∧ FullyCompleted r.manifest ∨ status ≠ 0 ∧ (r.manifest = .absent ∨
        ∃ m, r.manifest = .whole m ∧
          (m.finalStatus = some .failed ∨ m.finalStatus = some .interrupted))) →
      Stage kpmEnabled r

theorem unfinished_isOrdered {file : ManifestFile} (h : file.Unfinished) : file.IsOrdered := by
  cases file with
  | absent | begun => trivial
  | whole m =>
    obtain ⟨-, hhistory, -⟩ := h
    refine ⟨m.history.length, le_refl _, ?_, ?_, ?_⟩
    · rwa [List.take_length]
    · rw [List.drop_length]
      exact Nat.zero_le 1
    · rw [List.drop_length]
      exact fun _ h => absurd h List.not_mem_nil

theorem Closing.isOrdered {state : Lifecycle} {file : ManifestFile} {tail : List Command}
    (h : Closing state file tail) : file.IsOrdered := by
  cases h with
  | absent => trivial
  | time _ h | lifecycle _ h => exact unfinished_isOrdered h
  | status _ _ h | closed _ _ h => exact h

section
variable {kpmEnabled : Bool} {r r' : Runner} {c : Command} {rest : List Command} {answer : Answer}
  {status : ℕ} {effect : Bool}

@[simp] theorem performChild_fields (r : Runner) (c : Command) :
    (r.performChild c).mode = r.mode ∧ (r.performChild c).rest = r.rest ∧
      (r.performChild c).vars = r.vars ∧ (r.performChild c).manifest = r.manifest := by
  cases c <;> exact ⟨rfl, rfl, rfl, rfl⟩

theorem isStop_perform (r : Runner) (h : c.isStop = true) :
    (r.perform c).vars = r.vars ∧ (r.perform c).manifest = r.manifest := by
  cases c with
  | stopQuietly | stopStack => exact ⟨rfl, rfl⟩
  | _ => cases h

theorem isStop_afterFailure (r : Runner) (effect : Bool) (h : c.isStop = true) :
    (r.afterFailure c effect).mode = r.mode ∧ (r.afterFailure c effect).vars = r.vars ∧
      (r.afterFailure c effect).manifest = r.manifest := by
  cases c with
  | stopQuietly child => exact ⟨rfl, rfl, rfl⟩
  | stopStack child => cases child <;> cases effect <;> exact ⟨rfl, rfl, rfl⟩
  | _ => cases h

theorem isStop_interrupt (r : Runner) (effect : Bool) (h : c.isStop = true) :
    (r.interrupt c effect).vars = r.vars ∧ (r.interrupt c effect).manifest = r.manifest := by
  cases c with
  | stopQuietly | stopStack => cases effect <;> exact ⟨rfl, rfl⟩
  | _ => cases h

theorem stops_isStop (r : Runner) : ∀ c ∈ r.stops, c.isStop = true := by
  intro c hc
  simp only [Runner.stops, List.mem_append] at hc
  rcases hc with (hc | hc) | hc
  · split_ifs at hc
    · rw [List.mem_singleton.mp hc]
      rfl
    · exact absurd hc List.not_mem_nil
  · split_ifs at hc
    · rw [List.mem_singleton.mp hc]
      rfl
    · exact absurd hc List.not_mem_nil
  · split_ifs at hc
    · obtain ⟨child, -, rfl⟩ := List.mem_map.mp hc
      rfl
    · exact absurd hc List.not_mem_nil

theorem Early.enterTrap (h : Early r) {state : Lifecycle} (hstatus : status ≠ 0)
    (hstate : state = .failed ∨ state = .interrupted) :
    Stage kpmEnabled (r.enterTrap status state) := by
  refine .closing status state r.stops _ rfl hstatus hstate rfl (stops_isStop r) ?_
  show Closing state r.manifest _
  unfold Runner.updates
  by_cases habsent : r.manifest = .absent
  · rw [if_neg fun h => h.2 habsent, habsent]
    exact .absent
  · rw [if_pos ⟨h.runCompleted, habsent⟩]
    exact .time _ h.manifest

theorem Signal.status_ne_zero (signal : Signal) : signal.status ≠ 0 := by
  cases signal <;> decide

/-- Of a prefix of the experiment. -/
theorem early_of_inits {done : List Command} (hdone : done ∈ (experiment kpmEnabled).inits)
    (hvars : r.vars = varsAfter done) (hmanifest : r.manifest = manifestAfter done) : Early r := by
  obtain ⟨hunfinished, hrunning⟩ := experiment_unfinished kpmEnabled done hdone
  exact ⟨hvars ▸ hrunning, hmanifest ▸ hunfinished⟩

theorem mem_inits_of_concat {done : List Command} (h : done ++ [c] ∈ (experiment kpmEnabled).inits) :
    done ∈ (experiment kpmEnabled).inits := by
  rw [List.mem_inits] at h ⊢
  exact (List.prefix_append done [c]).trans h

theorem perform_after {done : List Command} (hvars : r.vars = varsAfter done)
    (hmanifest : r.manifest = manifestAfter done) :
    (r.perform c).vars = varsAfter (done ++ [c]) ∧
      (r.perform c).manifest = manifestAfter (done ++ [c]) := by
  rw [varsAfter, manifestAfter, List.foldl_concat, List.foldl_concat]
  exact ⟨congrArg (Vars.perform · c) hvars, congrArg (ManifestFile.perform · c) hmanifest⟩

/-- What a command of the experiment leaves that fails or is interrupted. -/
theorem early_afterFailure (hbefore : Early r) (hafter : Early (r.perform c)) :
    Early (r.afterFailure c effect) := by
  unfold Runner.afterFailure
  split
  · split_ifs
    · exact ⟨hbefore.runCompleted, trivial⟩
    · exact hbefore
  · exact hbefore
  · exact hafter
  · exact hafter
  · exact hafter
  · exact hafter
  · exact hbefore

theorem early_interrupt (hbefore : Early r) (hafter : effect = true → Early (r.perform c)) :
    Early (r.interrupt c effect) := by
  unfold Runner.interrupt
  split
  · exact hbefore
  · exact ⟨hbefore.runCompleted, hbefore.manifest⟩
  · exact ⟨hbefore.runCompleted, hbefore.manifest⟩
  · exact ⟨hbefore.runCompleted, hbefore.manifest⟩
  · exact hafter rfl

/-- The stage is about nothing else of a runner. -/
theorem Stage.congr (h : Stage kpmEnabled r) (hmode : r'.mode = r.mode) (hrest : r'.rest = r.rest)
    (hvars : r'.vars = r.vars) (hmanifest : r'.manifest = r.manifest) : Stage kpmEnabled r' := by
  cases h with
  | main done h₁ h₂ h₃ h₄ =>
    exact .main done (hmode.trans h₁) (hrest ▸ h₂) (hvars.trans h₃) (hmanifest.trans h₄)
  | failing status h₁ h₂ h₃ =>
    exact .failing status (hmode.trans h₁) ⟨hvars ▸ h₂.runCompleted, hmanifest ▸ h₂.manifest⟩
      (hrest ▸ h₃)
  | closing status state stops tail h₁ h₂ h₃ h₄ h₅ h₆ =>
    exact .closing status state stops tail (hmode.trans h₁) h₂ h₃ (hrest.trans h₄) h₅
      (hmanifest ▸ h₆)
  | completed h₁ h₂ h₃ h₄ =>
    exact .completed (hmode.trans h₁) (hvars ▸ h₂) (hmanifest ▸ h₃) (hrest ▸ h₄)
  | ended status h₁ h₂ h₃ =>
    exact .ended status (hmode.trans h₁) (hmanifest ▸ h₂) (hmanifest ▸ h₃)

theorem performed_main {done : List Command} (hmode : r'.mode = .main) (hrest : r'.rest = rest)
    (hscript : done ++ c :: rest = script kpmEnabled) (hvars : r'.vars = (varsAfter done).perform c)
    (hmanifest : r'.manifest = (manifestAfter done).perform c) : Stage kpmEnabled r' := by
  refine .main (done ++ [c]) hmode ?_ ?_ ?_
  · rw [hrest, List.append_assoc]
    exact hscript
  · rw [hvars, varsAfter, varsAfter, List.foldl_concat]
  · rw [hmanifest, manifestAfter, manifestAfter, List.foldl_concat]

theorem failMain_stage {done : List Command} (hmode : r.mode = .main)
    (hscript : done ++ c :: rest = script kpmEnabled) (hvars : r.vars = varsAfter done)
    (hmanifest : r.manifest = manifestAfter done) (hbefore : Early r)
    (hafter : Early (r.afterFailure c effect)) (hstatus : status ≠ 0)
    (h : r.failMain c rest status effect = some r') : Stage kpmEnabled r' := by
  cases c with
  | passOver call =>
    obtain rfl := Option.some.inj h
    exact performed_main hmode rfl hscript hvars hmanifest
  | waitReady =>
    obtain rfl := Option.some.inj h
    refine .failing 0 rfl ⟨hbefore.runCompleted, hbefore.manifest⟩ ?_
    intro c hc
    exact .inr (List.mem_singleton.mp hc)
  | startChecks child started =>
    obtain rfl := Option.some.inj h
    refine .failing 1 rfl ⟨hbefore.runCompleted, hbefore.manifest⟩ ?_
    intro c hc
    obtain ⟨child, -, rfl⟩ := List.mem_map.mp hc
    exact .inl rfl
  | stopStack child =>
    obtain rfl := Option.some.inj h
    obtain ⟨hmode', hvars', hmanifest'⟩ := isStop_afterFailure (c := .stopStack child) r effect rfl
    exact performed_main (hmode'.trans hmode) rfl hscript (hvars'.trans hvars)
      (hmanifest'.trans hmanifest)
  | checkStack =>
    unfold Runner.failMain at h
    split_ifs at h
    obtain rfl := Option.some.inj h
    exact hbefore.enterTrap Nat.one_ne_zero (.inl rfl)
  | spawn | recordPid | setActive | setRunCompleted | waitTraffic => cases h
  | call | reportNotReady | stop | stopQuietly | manifestInit | setLifecycle | setFinalStatus
  | terminalTime =>
    obtain rfl := Option.some.inj h
    exact hafter.enterTrap hstatus (.inl rfl)

theorem stepMain_stage {done : List Command} (hmode : r.mode = .main)
    (hscript : done ++ c :: rest = script kpmEnabled) (hvars : r.vars = varsAfter done)
    (hmanifest : r.manifest = manifestAfter done)
    (hcompleting : c = setLifecycle .completed → answer.effect = true → answer = .ok)
    (hcompleted : c = setFinalStatus .completed ∨ c = setRunCompleted ∨
      r.vars.runCompleted = true → answer = .ok)
    (h : r.stepMain c rest answer = some r') : Stage kpmEnabled r' := by
  have hposition : answer ≠ .ok → done ++ [c] ∈ (experiment kpmEnabled).inits ∨
      c = setLifecycle .completed ∧ done = experiment kpmEnabled := by
    intro hne
    rcases position_of_split hscript with hinits | hlifecycle | hfinal | hset | hran
    · exact .inl hinits
    · exact .inr hlifecycle
    · exact absurd (hcompleted (.inl hfinal)) hne
    · exact absurd (hcompleted (.inr (.inl hset))) hne
    · exact absurd (hcompleted (.inr (.inr (hvars ▸ hran)))) hne
  have hlast (hdone : done = experiment kpmEnabled) : Early r :=
    early_of_inits (by rw [hdone, List.mem_inits]) hvars hmanifest
  have hearly (hinits : done ++ [c] ∈ (experiment kpmEnabled).inits) :
      Early r ∧ Early (r.perform c) := by
    obtain ⟨hvars', hmanifest'⟩ := perform_after (c := c) hvars hmanifest
    exact ⟨early_of_inits (mem_inits_of_concat hinits) hvars hmanifest,
      early_of_inits hinits hvars' hmanifest'⟩
  cases answer with
  | ok =>
    simp only [Runner.stepMain] at h
    split_ifs at h
    obtain rfl := Option.some.inj h
    obtain ⟨hmode', -⟩ := performChild_fields r c
    exact performed_main (hmode'.trans hmode) rfl hscript (congrArg (Vars.perform · c) hvars)
      (congrArg (ManifestFile.perform · c) hmanifest)
  | fails status effect =>
    simp only [Runner.stepMain] at h
    split_ifs at h with hstatus
    rcases hposition (by simp) with hinits | ⟨rfl, hdone⟩
    · obtain ⟨hbefore, hafter⟩ := hearly hinits
      exact failMain_stage hmode hscript hvars hmanifest hbefore
        (early_afterFailure hbefore hafter) hstatus h
    · have heffect : effect = false := by
        by_contra heffect
        rw [Bool.not_eq_false] at heffect
        cases hcompleting rfl heffect
      subst heffect
      have hafter : Early (r.afterFailure (setLifecycle .completed) false) := hlast hdone
      exact failMain_stage hmode hscript hvars hmanifest (hlast hdone) hafter hstatus h
  | signal signal effect =>
    obtain rfl := Option.some.inj h
    rcases hposition (by simp) with hinits | ⟨rfl, hdone⟩
    · obtain ⟨hbefore, hafter⟩ := hearly hinits
      exact (early_interrupt hbefore fun _ => hafter).enterTrap signal.status_ne_zero (.inr rfl)
    · have heffect : effect = false := by
        by_contra heffect
        rw [Bool.not_eq_false] at heffect
        cases hcompleting rfl heffect
      subst heffect
      exact (hlast hdone).enterTrap signal.status_ne_zero (.inr rfl)

theorem stepFailing_stage (hmode : r.mode = .failing status) (hearly : Early r)
    (hstop : c.isStop = true ∨ c = reportNotReady)
    (hstops : ∀ c ∈ rest, c.isStop = true ∨ c = reportNotReady)
    (h : r.stepFailing c rest answer = some r') : Stage kpmEnabled r' := by
  have hkeeps {vars : Vars} {file : ManifestFile} (hvars : vars = r.vars)
      (hmanifest : file = r.manifest) : vars.runCompleted = false ∧ file.Unfinished :=
    ⟨hvars ▸ hearly.runCompleted, hmanifest ▸ hearly.manifest⟩
  cases answer with
  | ok =>
    obtain rfl := Option.some.inj h
    have hsame : (r.perform c).vars = r.vars ∧ (r.perform c).manifest = r.manifest := by
      rcases hstop with hstop | rfl
      · exact isStop_perform r hstop
      · exact ⟨rfl, rfl⟩
    obtain ⟨hrunning, hfile⟩ := hkeeps hsame.1 hsame.2
    obtain ⟨hmode', -⟩ := performChild_fields r c
    exact .failing status (hmode'.trans hmode) ⟨hrunning, hfile⟩ hstops
  | fails status' effect =>
    simp only [Runner.stepFailing] at h
    split_ifs at h with hstatus hreport
    · obtain rfl := Option.some.inj h
      exact hearly.enterTrap hstatus (.inl rfl)
    · obtain rfl := Option.some.inj h
      obtain ⟨hmode', hvars, hmanifest⟩ :=
        isStop_afterFailure r effect (hstop.resolve_right hreport)
      obtain ⟨hrunning, hfile⟩ := hkeeps hvars hmanifest
      exact .failing status (hmode'.trans hmode) ⟨hrunning, hfile⟩ hstops
  | signal signal effect =>
    obtain rfl := Option.some.inj h
    have hsame : (r.interrupt c effect).vars = r.vars ∧
        (r.interrupt c effect).manifest = r.manifest := by
      rcases hstop with hstop | rfl
      · exact isStop_interrupt r effect hstop
      · cases effect <;> exact ⟨rfl, rfl⟩
    obtain ⟨hrunning, hfile⟩ := hkeeps hsame.1 hsame.2
    have hleft : Early (r.interrupt c effect) := ⟨hrunning, hfile⟩
    exact hleft.enterTrap signal.status_ne_zero (.inr rfl)

/-- A stop in the trap leaves all but its process as it is. -/
theorem stepTrap_stop (hstop : c.isStop = true) (hsignal : answer.isSignal = false)
    (h : r.stepTrap c rest answer = some r') :
    r'.mode = r.mode ∧ r'.rest = rest ∧ r'.vars = r.vars ∧ r'.manifest = r.manifest := by
  cases answer with
  | ok =>
    simp only [Runner.stepTrap] at h
    split_ifs at h
    obtain rfl := Option.some.inj h
    obtain ⟨hvars, hmanifest⟩ := isStop_perform r hstop
    exact ⟨(performChild_fields r c).1, rfl, hvars, hmanifest⟩
  | fails status effect =>
    simp only [Runner.stepTrap] at h
    split_ifs at h with _ htime
    · rw [htime] at hstop
      cases hstop
    · obtain rfl := Option.some.inj h
      obtain ⟨hmode, hvars, hmanifest⟩ := isStop_afterFailure r effect hstop
      exact ⟨hmode, rfl, hvars, hmanifest⟩
  | signal signal effect => cases hsignal

theorem stepTrap_ok (h : r.stepTrap c rest .ok = some r') :
    r.ready c = true ∧ r'.mode = r.mode ∧ r'.rest = rest ∧
      r'.manifest = r.manifest.perform c := by
  simp only [Runner.stepTrap] at h
  split_ifs at h with hready
  obtain rfl := Option.some.inj h
  exact ⟨hready, (performChild_fields r c).1, rfl, rfl⟩

/-- The manifest waits for no update of the trap. -/
def Settled (state : Lifecycle) (file : ManifestFile) : Prop :=
  file = .absent ∨ ∃ m, file = .whole m ∧ m.finalStatus = some state

theorem Closing.settled {state : Lifecycle} {file : ManifestFile} {tail : List Command}
    (h : Closing state file tail) (hnone : tail.any Command.isUpdate = false) :
    Settled state file := by
  cases h with
  | absent => exact .inl rfl
  | time | lifecycle | status => cases hnone
  | closed m hfinal => exact .inr ⟨m, rfl, hfinal⟩

theorem ended_of_settled {state : Lifecycle} (hmode : r.mode = .ended status) (hstatus : status ≠ 0)
    (hstate : state = .failed ∨ state = .interrupted) (hordered : r.manifest.IsOrdered)
    (h : Settled state r.manifest) : Stage kpmEnabled r := by
  refine .ended status hmode hordered (.inr ⟨hstatus, ?_⟩)
  rcases h with habsent | ⟨m, hfile, hfinal⟩
  · exact .inl habsent
  · right
    rcases hstate with rfl | rfl
    · exact ⟨m, hfile, .inl hfinal⟩
    · exact ⟨m, hfile, .inr hfinal⟩

/-- A signal behind the last update. -/
theorem closing_signal {signal : Signal} {state : Lifecycle} {stops tail : List Command}
    (hstate : state = .failed ∨ state = .interrupted) (hrest : c :: rest = stops ++ tail)
    (hstops : ∀ c ∈ stops, c.isStop = true) (hclosing : Closing state r.manifest tail)
    (hnone : (if effect then rest else c :: rest).any Command.isUpdate = false)
    (h : r.stepTrap c rest (.signal signal effect) = some r') : Stage kpmEnabled r' := by
  obtain rfl := Option.some.inj h
  cases stops with
  | cons x stops =>
    rw [List.cons_append] at hrest
    obtain ⟨rfl, rfl⟩ := List.cons.inj hrest
    obtain ⟨-, hmanifest⟩ := isStop_interrupt r effect (List.forall_mem_cons.mp hstops).1
    have hnone : tail.any Command.isUpdate = false := by
      cases effect with
      | false =>
        rw [if_neg Bool.false_ne_true, List.any_cons, List.any_append, Bool.or_eq_false_iff,
          Bool.or_eq_false_iff] at hnone
        exact hnone.2.2
      | true =>
        rw [if_pos rfl, List.any_append, Bool.or_eq_false_iff] at hnone
        exact hnone.2
    exact ended_of_settled rfl signal.status_ne_zero hstate (hmanifest ▸ hclosing.isOrdered)
      (hmanifest ▸ hclosing.settled hnone)
  | nil =>
    rw [List.nil_append] at hrest
    subst hrest
    cases effect with
    | false =>
      exact ended_of_settled rfl signal.status_ne_zero hstate hclosing.isOrdered
        (hclosing.settled hnone)
    | true =>
      generalize hfile : r.manifest = file at hclosing
      cases hclosing with
      | time | lifecycle => cases hnone
      | status m _ hordered =>
        have hmanifest : (r.perform (setFinalStatus state)).manifest =
            .whole (m.setFinalStatus state) :=
          congrArg (ManifestFile.perform · (setFinalStatus state)) hfile
        refine ended_of_settled rfl signal.status_ne_zero hstate ?_ (.inr ⟨_, hmanifest, rfl⟩)
        show (r.perform (setFinalStatus state)).manifest.IsOrdered
        rw [hmanifest]
        exact hordered

/-- The updates of the trap, one after the other. -/
theorem closing_stage {state : Lifecycle} (hmode : r.mode = .trap status) (hstatus : status ≠ 0)
    (hstate : state = .failed ∨ state = .interrupted) (hclosing : Closing state r.manifest (c :: rest))
    (hupdate : c.isUpdate = true → answer.isFailure = false) (hsignal : answer.isSignal = false)
    (h : r.stepTrap c rest answer = some r') : Stage kpmEnabled r' := by
  have hok (hc : c.isUpdate = true) : answer = .ok := by
    cases answer with
    | ok => rfl
    | fails => cases hupdate hc
    | signal => cases hsignal
  generalize hfile : r.manifest = file at hclosing
  generalize htail : c :: rest = tail at hclosing
  have hterminal : state.isTerminal = true := by
    rcases hstate with rfl | rfl <;> rfl
  cases hclosing with
  | absent => cases htail
  | time _ hunfinished =>
    obtain ⟨rfl, rfl⟩ := List.cons.inj htail
    obtain rfl := hok rfl
    obtain ⟨-, hmode', hrest, hmanifest⟩ := stepTrap_ok h
    refine .closing status state [] _ (hmode'.trans hmode) hstatus hstate hrest (by simp) ?_
    rw [hmanifest, hfile]
    cases file <;> exact .lifecycle _ hunfinished
  | lifecycle _ hunfinished =>
    obtain ⟨rfl, rfl⟩ := List.cons.inj htail
    obtain rfl := hok rfl
    obtain ⟨hready, hmode', hrest, hmanifest⟩ := stepTrap_ok h
    refine .closing status state [] _ (hmode'.trans hmode) hstatus hstate hrest (by simp) ?_
    rw [Runner.ready, hfile, decide_eq_true_eq] at hready
    rw [hmanifest, hfile]
    cases file with
    | absent => exact absurd rfl hready.1
    | begun => exact absurd rfl hready.2
    | whole m =>
      exact .status (m.setLifecycle state) hunfinished.1
        (Manifest.ordered_setLifecycle hunfinished hterminal)
  | status m _ hordered =>
    obtain ⟨rfl, rfl⟩ := List.cons.inj htail
    obtain rfl := hok rfl
    obtain ⟨-, hmode', hrest, hmanifest⟩ := stepTrap_ok h
    refine .closing status state [] _ (hmode'.trans hmode) hstatus hstate hrest (by simp) ?_
    rw [hmanifest, hfile]
    exact .closed (m.setFinalStatus state) rfl hordered
  | closed => cases htail

theorem step_closing {state : Lifecycle} {stops tail : List Command} (hmode : r.mode = .trap status)
    (hstatus : status ≠ 0) (hstate : state = .failed ∨ state = .interrupted)
    (hrest : r.rest = stops ++ tail) (hstops : ∀ c ∈ stops, c.isStop = true)
    (hclosing : Closing state r.manifest tail) (horderly : Orderly r (.step answer))
    (h : r.step answer = some r') : Stage kpmEnabled r' := by
  unfold Runner.step at h
  unfold Orderly at horderly
  cases hcommands : r.rest with
  | nil =>
    rw [hmode, hcommands] at h
    obtain ⟨-, rfl⟩ := List.append_eq_nil_iff.mp (hrest.symm.trans hcommands)
    have hsettled := hclosing.settled rfl
    cases answer with
    | ok =>
      obtain rfl := Option.some.inj h
      exact ended_of_settled rfl hstatus hstate hclosing.isOrdered hsettled
    | fails => cases h
    | signal signal effect =>
      obtain rfl := Option.some.inj h
      exact ended_of_settled rfl signal.status_ne_zero hstate hclosing.isOrdered hsettled
  | cons c rest =>
    rw [hmode, hcommands] at h horderly
    obtain ⟨hupdate, hsignal⟩ := horderly
    rw [hcommands] at hrest
    cases answer with
    | signal signal effect =>
      exact closing_signal hstate hrest hstops hclosing (hsignal rfl).2 h
    | ok | fails =>
      cases stops with
      | cons x stops =>
        obtain ⟨rfl, rfl⟩ := List.cons.inj hrest
        obtain ⟨hstop, hstops⟩ := List.forall_mem_cons.mp hstops
        obtain ⟨hmode', hrest', -, hmanifest⟩ := stepTrap_stop hstop rfl h
        exact .closing status state stops tail (hmode'.trans hmode) hstatus hstate hrest' hstops
          (hmanifest ▸ hclosing)
      | nil =>
        rw [List.nil_append] at hrest
        subst hrest
        exact closing_stage hmode hstatus hstate hclosing hupdate rfl h

theorem step_stage (hstage : Stage kpmEnabled r) (horderly : Orderly r (.step answer))
    (h : r.step answer = some r') : Stage kpmEnabled r' := by
  cases hstage with
  | main done hmode hscript hvars hmanifest =>
    unfold Runner.step at h
    unfold Orderly at horderly
    cases hrest : r.rest with
    | nil =>
      rw [hmode, hrest] at h horderly
      obtain rfl : answer = .ok := horderly
      obtain rfl := Option.some.inj h
      rw [hrest, List.append_nil] at hscript
      obtain ⟨hran, hfile⟩ := script_completes kpmEnabled
      rw [← hscript, ← hvars] at hran
      rw [← hscript, ← hmanifest] at hfile
      refine .completed rfl hran ⟨_, hfile, rfl, by decide⟩ ?_
      intro c hc
      change c ∈ r.stops ++ r.updates .failed at hc
      rw [Runner.updates, hran, if_neg fun h => Bool.noConfusion h.1, List.append_nil] at hc
      exact stops_isStop r c hc
    | cons c rest =>
      rw [hmode, hrest] at h horderly
      rw [hrest] at hscript
      exact stepMain_stage hmode hscript hvars hmanifest horderly.1 horderly.2 h
  | failing status hmode hearly hstops =>
    unfold Runner.step at h
    unfold Orderly at horderly
    cases hrest : r.rest with
    | nil =>
      rw [hmode, hrest] at h horderly
      cases answer with
      | ok =>
        obtain rfl := Option.some.inj h
        exact hearly.enterTrap (fun hzero => horderly hzero rfl) (.inl rfl)
      | fails => cases h
      | signal signal effect =>
        obtain rfl := Option.some.inj h
        exact hearly.enterTrap signal.status_ne_zero (.inr rfl)
    | cons c rest =>
      rw [hmode, hrest] at h
      rw [hrest] at hstops
      obtain ⟨hstop, hstops⟩ := List.forall_mem_cons.mp hstops
      exact stepFailing_stage hmode hearly hstop hstops h
  | closing status state stops tail hmode hstatus hstate hrest hstops hclosing =>
    exact step_closing hmode hstatus hstate hrest hstops hclosing horderly h
  | completed hmode hran hcompleted hstops =>
    unfold Runner.step at h
    unfold Orderly at horderly
    cases hrest : r.rest with
    | nil =>
      rw [hmode, hrest] at h horderly
      obtain rfl : answer = .ok := horderly hran
      obtain rfl := Option.some.inj h
      obtain ⟨m, hfile, hfinal, hordered⟩ := hcompleted
      refine .ended 0 rfl ?_ (.inl ⟨rfl, m, hfile, hfinal, hordered⟩)
      show r.manifest.IsOrdered
      rw [hfile]
      exact hordered
    | cons c rest =>
      rw [hmode, hrest] at h horderly
      rw [hrest] at hstops
      have hsignal : answer.isSignal = false := by
        by_contra hsignal
        rw [Bool.not_eq_false] at hsignal
        exact absurd (hran.symm.trans (horderly.2 hsignal).1) (by decide)
      obtain ⟨hstop, hstops⟩ := List.forall_mem_cons.mp hstops
      obtain ⟨hmode', hrest', hvars, hmanifest⟩ := stepTrap_stop hstop hsignal h
      exact .completed (hmode'.trans hmode) (hvars ▸ hran) (hmanifest ▸ hcompleted) (hrest' ▸ hstops)
  | ended status hmode =>
    unfold Runner.step at h
    rw [hmode] at h
    cases h

theorem Stage.truthful (h : Stage kpmEnabled r) : Truthful r := by
  have hcompleted {m : Manifest} {status : Lifecycle} (hfile : r.manifest = .whole m)
      (hfinal : m.finalStatus = some status) (hne : status ≠ .completed) : ¬ r.Completed := by
    rintro ⟨m', hfile', hfinal'⟩
    obtain rfl := ManifestFile.whole.inj (hfile.symm.trans hfile')
    exact hne (Option.some.inj (hfinal.symm.trans hfinal'))
  cases h with
  | main done hmode hscript hvars hmanifest =>
    refine ⟨?_, by simp [hmode], by simp [hmode]⟩
    intro m hm
    have hordered := script_ordered kpmEnabled done ((List.mem_inits _ _).mpr ⟨r.rest, hscript⟩)
    rw [← hmanifest, hm] at hordered
    exact hordered
  | failing status hmode hearly =>
    refine ⟨?_, by simp [hmode], by simp [hmode]⟩
    intro m hm
    have hordered := unfinished_isOrdered hearly.manifest
    rw [hm] at hordered
    exact hordered
  | closing status state stops tail hmode _ _ _ _ hclosing =>
    refine ⟨?_, by simp [hmode], by simp [hmode]⟩
    intro m hm
    have hordered := hclosing.isOrdered
    rw [hm] at hordered
    exact hordered
  | completed hmode _ hcompleted =>
    refine ⟨?_, by simp [hmode], by simp [hmode]⟩
    intro m hm
    obtain ⟨m', hfile, -, hordered⟩ := hcompleted
    obtain rfl := ManifestFile.whole.inj (hm.symm.trans hfile)
    exact hordered
  | ended status hmode hordered hend =>
    refine ⟨?_, ?_, ?_⟩
    · intro m hm
      rw [hm] at hordered
      exact hordered
    · intro status' hended
      obtain rfl := Mode.ended.inj (hmode.symm.trans hended)
      rcases hend with ⟨hzero, m, hfile, hfinal, -⟩ | ⟨hnonzero, habsent | ⟨m, hfile, hfinal⟩⟩
      · exact iff_of_true hzero ⟨m, hfile, hfinal⟩
      · refine iff_of_false hnonzero ?_
        rintro ⟨m, hfile, -⟩
        cases habsent.symm.trans hfile
      · refine iff_of_false hnonzero ?_
        rcases hfinal with hfinal | hfinal
        · exact hcompleted hfile hfinal (by decide)
        · exact hcompleted hfile hfinal (by decide)
    · intro status' _ hpresent hnot
      rcases hend with ⟨-, m, hfile, hfinal, -⟩ | ⟨-, habsent | hterminal⟩
      · exact absurd ⟨m, hfile, hfinal⟩ hnot
      · exact absurd habsent hpresent
      · exact hterminal

/-- In every run in which the script does not leave with the status of a failed readiness check, nothing
goes wrong from the state COMPLETED on and the trap comes to its last update, the exit status agrees
with the manifest. -/
theorem runner_truthful {tr : List Empty}
    (h : Machine.Run (Machine.restrict runnerMachine Orderly) (Runner.start kpmEnabled) tr r) :
    Truthful r := by
  have hstage : Stage kpmEnabled r := by
    refine h.invariant (I := fun _ r => Stage kpmEnabled r) (.main [] rfl rfl rfl rfl) ?_
    intro tr r a r' es hstage hs
    obtain ⟨horderly, hs⟩ := Machine.restrict_eq_some.mp hs
    cases a with
    | step answer =>
      obtain ⟨r'', hstep, hpair⟩ := Option.map_eq_some_iff.mp hs
      obtain rfl := (Prod.mk.inj hpair).1
      exact step_stage hstage horderly hstep
    | childExits child =>
      simp only [runnerMachine] at hs
      split_ifs at hs
      obtain ⟨rfl, -⟩ := Prod.mk.inj (Option.some.inj hs)
      exact hstage.congr rfl rfl rfl rfl
  exact hstage.truthful

end

/-! ### An interrupted run and one without readiness -/

def oks (n : ℕ) : List RunnerAction := List.replicate n (.step .ok)

/-- INT comes while the traffic runs. -/
theorem runner_truthful_sample : ∃ r,
    Machine.Run (Machine.restrict runnerMachine Orderly) (Runner.start false) [] r ∧
    (r.mode, r.manifest) = (.ended 130, .whole ⟨.interrupted,
      [.identity, .snapshot, .loggerStart, .loggerReady, .running, .interrupted],
      some .interrupted⟩) ∧
    Truthful r := by
  have heval : (Machine.exec (fun r a => if decide (Orderly r a) then runnerMachine r a else none)
      (Runner.start false) (oks 36 ++ [.step (.signal .int false)] ++ oks 8)).map
        (fun result => (result.2.mode, result.2.manifest)) =
      some (.ended 130, .whole ⟨.interrupted,
        [.identity, .snapshot, .loggerStart, .loggerReady, .running, .interrupted],
        some .interrupted⟩) := by
    decide +kernel
  obtain ⟨⟨tr, r⟩, hexec, hend⟩ := Option.map_eq_some_iff.mp heval
  cases tr with
  | cons e => cases e
  | nil =>
    have hrun := Machine.run_restrict_of_exec (fun _ _ => of_decide_eq_true) hexec
    exact ⟨r, hrun, hend, runner_truthful hrun⟩

/-- No signal comes, and nothing fails in the trap. -/
def Undisturbed (r : Runner) : RunnerAction → Prop
  | .childExits _ => True
  | .step answer => answer.isSignal = false ∧ (r.rest ≠ [] → r.mode ≠ .main → answer = .ok)

instance (r : Runner) : DecidablePred (Undisturbed r) := by
  intro a
  unfold Undisturbed
  split <;> infer_instance

/-- The loggers do not become ready: the manifest says FAILED, and the runner exits with zero. -/
theorem unready_exits_zero : ¬ ∀ tr r,
    Machine.Run (Machine.restrict runnerMachine Undisturbed) (Runner.start false) tr r →
    Truthful r := by
  intro h
  have heval : (Machine.exec
      (fun r a => if decide (Undisturbed r a) then runnerMachine r a else none)
      (Runner.start false) (oks 25 ++ [.step (.fails 124 false)] ++ oks 9)).map
        (fun result => (result.2.mode, result.2.manifest)) =
      some (.ended 0, .whole ⟨.failed, [.identity, .snapshot, .loggerStart, .failed],
        some .failed⟩) := by
    decide +kernel
  obtain ⟨⟨tr, r⟩, hexec, hend⟩ := Option.map_eq_some_iff.mp heval
  obtain ⟨hmode, hmanifest⟩ := Prod.mk.inj hend
  have hrun := Machine.run_restrict_of_exec (fun _ _ => of_decide_eq_true) hexec
  obtain ⟨m, hfile, hfinal⟩ := ((h tr r hrun).status 0 hmode).mp rfl
  obtain rfl := ManifestFile.whole.inj (hmanifest.symm.trans hfile)
  cases hfinal

end TcdOran.Harness.RunnerScript
