import TcdOran.Harness.ProviderAdmission
import TcdOran.Lib.Machine

/-! The hand-over of the admission record: the provider creates the file first and fills it later
while the launcher polls for its name. The record is ASCII, so its characters are its bytes. -/
namespace TcdOran.Harness.AdmissionHandover
open TcdOran.Lib Python ProviderAdmission

structure Setup where
  allocation : Allocation
  sights : Sights
  facts : Facts
  timeoutMs : ℕ
  pollMs : ℕ

namespace Setup

/-- The characters of the whole file. -/
def size (setup : Setup) : ℕ := (admissionText setup.facts).length

/-- The characters of the object without the line feed behind it. -/
def objectSize (setup : Setup) : ℕ := (objectText setup.facts).length

end Setup

/-- Where the provider is in `write_json_exclusive`. -/
inductive Writer
  | opening
  | writing
  | synced
  | closed
  deriving DecidableEq

/-- Where `run_launcher` is after it started the manager. -/
inductive Launcher
  | started
  | looking
  | polling
  | checking
  | sleeping (wake : ℕ)
  | opening
  | reading (got : ℕ)
  | validating (got : ℕ)
  | pollingAgain
  | accepted
  /-- The exception has been raised, and the manager is terminated. -/
  | failed (failure : LauncherFailure)
  deriving DecidableEq

/-- `written` is `none` as long as the file does not exist, `completed` holds the time of the last
step of `write_json_exclusive`, and `deadline` counts from the second step of the launcher on.
`managerRc` is `none` while the manager runs. -/
structure State where
  now : ℕ
  deadline : ℕ
  writer : Writer
  written : Option ℕ
  completed : Option ℕ
  managerRc : Option ℤ
  childAlive : Bool
  launcher : Launcher
  deriving DecidableEq

def initial : State where
  now := 0
  deadline := 0
  writer := .opening
  written := none
  completed := none
  managerRc := none
  childAlive := true
  launcher := .started

inductive ProviderStep
  | create
  | write (n : ℕ)
  | fsync
  | chmod

/-- `readMore` is a read that returns characters, `readEnd` the one that meets the end of the file. -/
inductive LauncherStep
  | setDeadline
  | look
  | poll
  | checkDeadline
  | wake
  | openFile
  | readMore (n : ℕ)
  | readEnd
  | validate
  | pollAgain

inductive Action
  | tick (ms : ℕ)
  | managerExit (rc : ℤ)
  | childExit
  | provider (step : ProviderStep)
  | launcher (step : LauncherStep)

def providerStep (setup : Setup) (s : State) : ProviderStep → Option State
  | .create =>
      if s.writer = .opening then some { s with writer := .writing, written := some 0 } else none
  | .write n =>
      match s.written with
      | some m =>
          if s.writer = .writing ∧ m + n ≤ setup.size then some { s with written := some (m + n) }
          else none
      | none => none
  | .fsync =>
      if s.writer = .writing ∧ s.written = some setup.size then some { s with writer := .synced }
      else none
  | .chmod =>
      if s.writer = .synced then some { s with writer := .closed, completed := some s.now } else none

/-- The provider's process is found under its number as long as it is alive. -/
def State.sights (setup : Setup) (s : State) : Sights :=
  if s.childAlive then setup.sights else { setup.sights with identity := fun _ => none }

/-- What `process.poll()` decides: the launcher goes on while the manager runs. -/
def whileRunning (s : State) (failure : ℤ → LauncherFailure) (next : Launcher) : Launcher :=
  match s.managerRc with
  | some rc => .failed (failure rc)
  | none => next

/-- `validate_admission` behind `json.load`. -/
def validated (setup : Setup) (s : State) (got : ℕ) : Launcher :=
  match validateAdmission setup.allocation (s.sights setup) ((admissionText setup.facts).take got) with
  | .ok _ => .pollingAgain
  | .error failure => .failed failure

def launcherStep (setup : Setup) (s : State) : LauncherStep → Option State
  | .setDeadline =>
      if s.launcher = .started then
        some { s with deadline := s.now + setup.timeoutMs, launcher := .looking }
      else none
  | .look =>
      if s.launcher = .looking then
        some { s with launcher := if s.written.isSome then .opening else .polling }
      else none
  | .poll =>
      if s.launcher = .polling then
        some { s with launcher :=
          whileRunning s (fun rc => .launcher
            (chars "PROVIDER_MANAGER_EXITED_BEFORE_ADMISSION:" ++ intText rc) 65) .checking }
      else none
  | .checkDeadline =>
      if s.launcher = .checking then
        some { s with launcher :=
          if s.deadline ≤ s.now then .failed (.launcher (chars "PROVIDER_ADMISSION_TIMEOUT") 75)
          else .sleeping (s.now + setup.pollMs) }
      else none
  | .wake =>
      match s.launcher with
      | .sleeping wake => if wake ≤ s.now then some { s with launcher := .looking } else none
      | _ => none
  | .openFile =>
      if s.launcher = .opening then
        some { s with launcher :=
          if s.written.isSome then .reading 0
          else .failed (reject "PROVIDER_ADMISSION_JSON_INVALID") }
      else none
  | .readMore n =>
      match s.launcher, s.written with
      | .reading got, some m =>
          if 0 < n ∧ got + n ≤ m then some { s with launcher := .reading (got + n) } else none
      | _, _ => none
  | .readEnd =>
      match s.launcher with
      | .reading got =>
          if s.written = some got then some { s with launcher := .validating got } else none
      | _ => none
  | .validate =>
      match s.launcher with
      | .validating got => some { s with launcher := validated setup s got }
      | _ => none
  | .pollAgain =>
      if s.launcher = .pollingAgain then
        some { s with launcher :=
          whileRunning s (fun _ => reject "PROVIDER_MANAGER_EXITED_AFTER_ADMISSION") .accepted }
      else none

/-- A provider whose manager is dead takes no step. -/
def step (setup : Setup) (s : State) : Action → Option State
  | .tick ms => some { s with now := s.now + ms }
  | .managerExit rc => some { s with managerRc := some rc }
  | .childExit => some { s with childAlive := false }
  | .provider step => if s.managerRc = none then providerStep setup s step else none
  | .launcher step => launcherStep setup s step

def machine (setup : Setup) : Machine State Action Unit := fun s a =>
  (step setup s a).map fun s' => (s', [])

/-! ### When the launcher accepts -/

/-- The read that meets the end of the file has the whole object, and the deadline is not checked
past its time once the admission is complete. -/
def Undisturbed (setup : Setup) (s : State) : Action → Prop
  | .launcher .readEnd => ∀ got, s.launcher = .reading got → setup.objectSize ≤ got
  | .launcher .checkDeadline => s.completed.isSome → s.now < s.deadline
  | _ => True

/-- The provider stayed alive and completed its admission before the deadline. -/
structure Completed (s : State) : Prop where
  inTime : ∃ t, s.completed = some t ∧ t < s.deadline
  managerRuns : s.managerRc = none
  childAlive : s.childAlive = true

/-- A failure that is not one of the hand-over: a process is gone, or the deadline is over without a
completed admission. -/
def Excused (s : State) : Prop :=
  s.managerRc.isSome ∨ s.childAlive = false ∨ (s.completed = none ∧ s.deadline ≤ s.now) ∨
    ∃ t, s.completed = some t ∧ s.deadline ≤ t

theorem Completed.not_excused {s : State} (h : Completed s) : ¬ Excused s := by
  obtain ⟨t, ht, hlt⟩ := h.inTime
  rintro (hmanager | hchild | ⟨hnone, -⟩ | ⟨t', ht', hle⟩)
  · simp [h.managerRuns] at hmanager
  · simp [h.childAlive] at hchild
  · simp [ht] at hnone
  · have : t = t' := Option.some.inj (ht.symm.trans ht')
    omega

def LauncherInv (setup : Setup) (s : State) : Launcher → Prop
  | .opening => s.written.isSome
  | .reading got => ∃ m, s.written = some m ∧ got ≤ m
  | .validating got => setup.objectSize ≤ got ∧ got ≤ setup.size
  | .failed _ => Excused s
  | _ => True

structure Inv (setup : Setup) (s : State) : Prop where
  launcher : LauncherInv setup s s.launcher
  bounded : ∀ m, s.written = some m → m ≤ setup.size
  unopened : s.writer = .opening → s.written = none
  complete : s.completed.isSome → s.writer = .closed ∧ s.written.isSome
  synced : s.writer = .synced → s.written.isSome

theorem inv_initial (setup : Setup) : Inv setup initial where
  launcher := trivial
  bounded := by simp [initial]
  unopened := by simp [initial]
  complete := by simp [initial]
  synced := by simp [initial]

/-- The file only grows, and nobody comes back to life. -/
structure Grows (s s' : State) : Prop where
  launcher : s'.launcher = s.launcher
  written : ∀ m, s.written = some m → ∃ m', s'.written = some m' ∧ m ≤ m'
  excused : Excused s → Excused s'

theorem Grows.launcherInv {setup : Setup} {s s' : State} (h : Grows s s')
    (hinv : LauncherInv setup s s.launcher) : LauncherInv setup s' s'.launcher := by
  rw [h.launcher]
  cases hl : s.launcher with
  | opening =>
    rw [hl] at hinv
    obtain ⟨m, hm⟩ := Option.isSome_iff_exists.mp hinv
    obtain ⟨m', hm', -⟩ := h.written m hm
    exact Option.isSome_iff_exists.mpr ⟨m', hm'⟩
  | reading got =>
    rw [hl] at hinv
    obtain ⟨m, hm, hle⟩ := hinv
    obtain ⟨m', hm', hle'⟩ := h.written m hm
    exact ⟨m', hm', hle.trans hle'⟩
  | validating got =>
    rw [hl] at hinv
    exact hinv
  | failed failure =>
    rw [hl] at hinv
    exact h.excused hinv
  | _ => trivial

theorem grows_of_written {s s' : State} (hlauncher : s'.launcher = s.launcher)
    (hwritten : s'.written = s.written) (hexcused : Excused s → Excused s') : Grows s s' where
  launcher := hlauncher
  written := fun m hm => ⟨m, hwritten.trans hm, le_rfl⟩
  excused := hexcused

theorem take_admissionText {setup : Setup} {got : ℕ} (h : setup.objectSize ≤ got)
    (h' : got ≤ setup.size) :
    (admissionText setup.facts).take got = objectText setup.facts ∨
      (admissionText setup.facts).take got = admissionText setup.facts := by
  have hsize : setup.size = setup.objectSize + 1 := by
    simp [Setup.size, Setup.objectSize, admissionText]
  rcases Nat.lt_or_ge got setup.size with hlt | hge
  · have hgot : got = (objectText setup.facts).length := by
      have : setup.objectSize = (objectText setup.facts).length := rfl
      omega
    left
    rw [admissionText, hgot, List.take_left]
  · exact .inr (List.take_of_length_le hge)

/-- The whole object is accepted while the provider is alive. -/
theorem validated_of_whole {setup : Setup} (hmatch : Matching setup.allocation setup.sights setup.facts)
    {s : State} {got : ℕ} (h : setup.objectSize ≤ got) (h' : got ≤ setup.size)
    (halive : s.childAlive = true) : validated setup s got = .pollingAgain := by
  have hloads : plainLoads ((admissionText setup.facts).take got) =
      .value (.obj (fieldMembers (admissionFields setup.facts))) := by
    rcases take_admissionText h h' with htake | htake
    · rw [htake, loads_objectText]
    · rw [htake, loads_admissionText]
  rw [validated, State.sights, if_pos halive, validateAdmission_of_loads hmatch hloads]

section
variable {setup : Setup} {s s' : State}

theorem inv_providerStep (hinv : Inv setup s) {a : ProviderStep}
    (h : providerStep setup s a = some s') : Inv setup s' := by
  cases a with
  | create =>
    simp only [providerStep, Option.ite_none_right_eq_some, Option.some.injEq] at h
    obtain ⟨hwriter, rfl⟩ := h
    have hnone := hinv.unopened hwriter
    have hgrows : Grows s { s with writer := .writing, written := some 0 } :=
      ⟨rfl, fun m hm => by simp [hnone] at hm, id⟩
    refine ⟨hgrows.launcherInv hinv.launcher, ?_, by simp, ?_, by simp⟩
    · rintro m ⟨⟩
      exact Nat.zero_le _
    · intro hdone
      have := (hinv.complete hdone).1
      simp [hwriter] at this
  | write n =>
    simp only [providerStep] at h
    split at h
    · next m hm =>
      simp only [Option.ite_none_right_eq_some, Option.some.injEq] at h
      obtain ⟨⟨hwriter, hle⟩, rfl⟩ := h
      have hgrows : Grows s { s with written := some (m + n) } := by
        refine ⟨rfl, fun k hk => ⟨m + n, rfl, ?_⟩, id⟩
        have : m = k := Option.some.inj (hm.symm.trans hk)
        omega
      refine ⟨hgrows.launcherInv hinv.launcher, ?_, ?_, ?_, by simp⟩
      · rintro _ ⟨⟩
        exact hle
      · simp [hwriter]
      · intro hdone
        have := (hinv.complete hdone).1
        simp [hwriter] at this
    · cases h
  | fsync =>
    simp only [providerStep, Option.ite_none_right_eq_some, Option.some.injEq] at h
    obtain ⟨⟨hwriter, hwritten⟩, rfl⟩ := h
    have hgrows : Grows s { s with writer := .synced } := grows_of_written rfl rfl id
    refine ⟨hgrows.launcherInv hinv.launcher, hinv.bounded, by simp, ?_, by simp [hwritten]⟩
    intro hdone
    have := (hinv.complete hdone).1
    simp [hwriter] at this
  | chmod =>
    simp only [providerStep, Option.ite_none_right_eq_some, Option.some.injEq] at h
    obtain ⟨hwriter, rfl⟩ := h
    have hexcused : Excused s → Excused { s with writer := .closed, completed := some s.now } := by
      rintro (hmanager | hchild | ⟨-, hlate⟩ | ⟨t, ht, -⟩)
      · exact .inl hmanager
      · exact .inr (.inl hchild)
      · exact .inr (.inr (.inr ⟨s.now, rfl, hlate⟩))
      · have := (hinv.complete (Option.isSome_iff_exists.mpr ⟨t, ht⟩)).1
        simp [hwriter] at this
    have hgrows : Grows s { s with writer := .closed, completed := some s.now } :=
      grows_of_written rfl rfl hexcused
    exact ⟨hgrows.launcherInv hinv.launcher, hinv.bounded, by simp,
      fun _ => ⟨rfl, hinv.synced hwriter⟩, by simp⟩

/-- A step of the launcher changes the launcher and, once, the deadline. -/
theorem Inv.of_launcher (hinv : Inv setup s) {deadline : ℕ} {launcher : Launcher}
    (h : LauncherInv setup { s with deadline, launcher } launcher) :
    Inv setup { s with deadline, launcher } :=
  ⟨h, hinv.bounded, hinv.unopened, hinv.complete, hinv.synced⟩

theorem Inv.goes (hinv : Inv setup s) {launcher : Launcher}
    (h : LauncherInv setup { s with launcher } launcher) : Inv setup { s with launcher } :=
  hinv.of_launcher h

theorem Inv.whileRunning (hinv : Inv setup s) {failure : ℤ → LauncherFailure} {next : Launcher}
    (h : LauncherInv setup { s with launcher := next } next) :
    Inv setup { s with launcher := whileRunning s failure next } := by
  unfold AdmissionHandover.whileRunning
  split
  · next rc hrc => exact hinv.goes (.inl (Option.isSome_iff_exists.mpr ⟨rc, hrc⟩))
  · exact hinv.goes h

theorem inv_launcherStep (hmatch : Matching setup.allocation setup.sights setup.facts)
    (hinv : Inv setup s) {a : LauncherStep} (hallowed : Undisturbed setup s (.launcher a))
    (h : launcherStep setup s a = some s') : Inv setup s' := by
  cases a with
  | setDeadline =>
    simp only [launcherStep, Option.ite_none_right_eq_some, Option.some.injEq] at h
    obtain ⟨-, rfl⟩ := h
    exact hinv.of_launcher trivial
  | look =>
    simp only [launcherStep, Option.ite_none_right_eq_some, Option.some.injEq] at h
    obtain ⟨-, rfl⟩ := h
    split
    · next hsome => exact hinv.goes hsome
    · exact hinv.goes trivial
  | poll =>
    simp only [launcherStep, Option.ite_none_right_eq_some, Option.some.injEq] at h
    obtain ⟨-, rfl⟩ := h
    exact hinv.whileRunning trivial
  | checkDeadline =>
    simp only [launcherStep, Option.ite_none_right_eq_some, Option.some.injEq] at h
    obtain ⟨-, rfl⟩ := h
    split
    · next hlate =>
      have hnone : s.completed = none := by
        by_contra hsome
        have := hallowed (Option.isSome_iff_ne_none.mpr hsome)
        omega
      exact hinv.goes (.inr (.inr (.inl ⟨hnone, hlate⟩)))
    · exact hinv.goes trivial
  | wake =>
    simp only [launcherStep] at h
    split at h
    · simp only [Option.ite_none_right_eq_some, Option.some.injEq] at h
      obtain ⟨-, rfl⟩ := h
      exact hinv.goes trivial
    · cases h
  | openFile =>
    simp only [launcherStep, Option.ite_none_right_eq_some, Option.some.injEq] at h
    obtain ⟨hopening, rfl⟩ := h
    have hsome : s.written.isSome := by
      have := hinv.launcher
      rwa [hopening] at this
    obtain ⟨m, hm⟩ := Option.isSome_iff_exists.mp hsome
    rw [if_pos hsome]
    exact hinv.goes ⟨m, hm, Nat.zero_le m⟩
  | readMore n =>
    simp only [launcherStep] at h
    split at h
    · next got m _ hm =>
      simp only [Option.ite_none_right_eq_some, Option.some.injEq] at h
      obtain ⟨⟨-, hle⟩, rfl⟩ := h
      exact hinv.goes ⟨m, hm, hle⟩
    · cases h
  | readEnd =>
    simp only [launcherStep] at h
    split at h
    · next got hreading =>
      simp only [Option.ite_none_right_eq_some, Option.some.injEq] at h
      obtain ⟨hend, rfl⟩ := h
      exact hinv.goes ⟨hallowed got hreading, hinv.bounded got hend⟩
    · cases h
  | validate =>
    simp only [launcherStep] at h
    split at h
    · next got hvalidating =>
      cases h
      have hgot := hinv.launcher
      rw [hvalidating] at hgot
      by_cases halive : s.childAlive = true
      · rw [validated_of_whole hmatch hgot.1 hgot.2 halive]
        exact hinv.goes trivial
      · refine hinv.goes ?_
        have hdead := Bool.eq_false_of_not_eq_true halive
        unfold validated
        split
        · trivial
        · exact .inr (.inl hdead)
    · cases h
  | pollAgain =>
    simp only [launcherStep, Option.ite_none_right_eq_some, Option.some.injEq] at h
    obtain ⟨-, rfl⟩ := h
    exact hinv.whileRunning trivial

theorem inv_step (hmatch : Matching setup.allocation setup.sights setup.facts) (hinv : Inv setup s)
    {a : Action} (hallowed : Undisturbed setup s a) (h : step setup s a = some s') :
    Inv setup s' := by
  cases a with
  | tick ms =>
    cases h
    have hexcused : Excused s → Excused { s with now := s.now + ms } := by
      rintro (hmanager | hchild | ⟨hnone, hlate⟩ | hlate)
      · exact .inl hmanager
      · exact .inr (.inl hchild)
      · exact .inr (.inr (.inl ⟨hnone, hlate.trans (Nat.le_add_right _ _)⟩))
      · exact .inr (.inr (.inr hlate))
    have hgrows : Grows s { s with now := s.now + ms } := grows_of_written rfl rfl hexcused
    exact ⟨hgrows.launcherInv hinv.launcher, hinv.bounded, hinv.unopened, hinv.complete, hinv.synced⟩
  | managerExit rc =>
    cases h
    have hgrows : Grows s { s with managerRc := some rc } :=
      grows_of_written rfl rfl fun _ => .inl rfl
    exact ⟨hgrows.launcherInv hinv.launcher, hinv.bounded, hinv.unopened, hinv.complete, hinv.synced⟩
  | childExit =>
    cases h
    have hgrows : Grows s { s with childAlive := false } :=
      grows_of_written rfl rfl fun _ => .inr (.inl rfl)
    exact ⟨hgrows.launcherInv hinv.launcher, hinv.bounded, hinv.unopened, hinv.complete, hinv.synced⟩
  | provider a =>
    simp only [step, Option.ite_none_right_eq_some] at h
    exact inv_providerStep hinv h.2
  | launcher a => exact inv_launcherStep hmatch hinv hallowed h

theorem inv_of_run (hmatch : Matching setup.allocation setup.sights setup.facts) {tr : List Unit}
    (h : Machine.Run (Machine.restrict (machine setup) (Undisturbed setup)) initial tr s) :
    Inv setup s := by
  refine h.invariant (I := fun _ s => Inv setup s) (inv_initial setup) ?_
  intro _ s a s' es hinv hs
  obtain ⟨hallowed, hs⟩ := Machine.restrict_eq_some.mp hs
  obtain ⟨s₁, hs₁, heq⟩ := Option.map_eq_some_iff.mp hs
  obtain ⟨rfl, -⟩ := Prod.mk.inj heq
  exact inv_step hmatch hinv hallowed hs₁

/-- A bound on the steps that the launcher takes from here to its acceptance. -/
def stepsLeft (setup : Setup) : Launcher → ℕ
  | .started => setup.size + 9
  | .polling => setup.size + 8
  | .checking => setup.size + 7
  | .sleeping _ => setup.size + 6
  | .looking => setup.size + 5
  | .opening => setup.size + 4
  | .reading got => setup.size - got + 3
  | .validating _ => 2
  | .pollingAgain => 1
  | .accepted => 0
  | .failed _ => 0

/-- Once the admission is complete every step of the launcher brings it closer to its acceptance. -/
theorem stepsLeft_launcherStep (hmatch : Matching setup.allocation setup.sights setup.facts)
    (hinv : Inv setup s) (hdone : Completed s) {a : LauncherStep}
    (hallowed : Undisturbed setup s (.launcher a)) (h : launcherStep setup s a = some s') :
    stepsLeft setup s'.launcher < stepsLeft setup s.launcher := by
  obtain ⟨t, ht, -⟩ := hdone.inTime
  have hsome : s.completed.isSome := Option.isSome_iff_exists.mpr ⟨t, ht⟩
  obtain ⟨-, hwritten⟩ := hinv.complete hsome
  cases a with
  | setDeadline =>
    simp only [launcherStep, Option.ite_none_right_eq_some, Option.some.injEq] at h
    obtain ⟨hstarted, rfl⟩ := h
    simp [hstarted, stepsLeft]
  | look =>
    simp only [launcherStep, Option.ite_none_right_eq_some, Option.some.injEq] at h
    obtain ⟨hlooking, rfl⟩ := h
    simp [hlooking, hwritten, stepsLeft]
  | poll =>
    simp only [launcherStep, Option.ite_none_right_eq_some, Option.some.injEq] at h
    obtain ⟨hpolling, rfl⟩ := h
    simp [hpolling, whileRunning, hdone.managerRuns, stepsLeft]
  | checkDeadline =>
    simp only [launcherStep, Option.ite_none_right_eq_some, Option.some.injEq] at h
    obtain ⟨hchecking, rfl⟩ := h
    have hearly : ¬ s.deadline ≤ s.now := Nat.not_le.mpr (hallowed hsome)
    simp [hchecking, hearly, stepsLeft]
  | wake =>
    simp only [launcherStep] at h
    split at h
    · next wake hsleeping =>
      simp only [Option.ite_none_right_eq_some, Option.some.injEq] at h
      obtain ⟨-, rfl⟩ := h
      simp [hsleeping, stepsLeft]
    · cases h
  | openFile =>
    simp only [launcherStep, Option.ite_none_right_eq_some, Option.some.injEq] at h
    obtain ⟨hopening, rfl⟩ := h
    simp [hopening, hwritten, stepsLeft]
  | readMore n =>
    simp only [launcherStep] at h
    split at h
    · next got m hreading hm =>
      simp only [Option.ite_none_right_eq_some, Option.some.injEq] at h
      obtain ⟨⟨hpositive, hle⟩, rfl⟩ := h
      have hbound := hinv.bounded m hm
      simp only [hreading, stepsLeft]
      omega
    · cases h
  | readEnd =>
    simp only [launcherStep] at h
    split at h
    · next got hreading =>
      simp only [Option.ite_none_right_eq_some, Option.some.injEq] at h
      obtain ⟨-, rfl⟩ := h
      simp only [hreading, stepsLeft]
      omega
    · cases h
  | validate =>
    simp only [launcherStep] at h
    split at h
    · next got hvalidating =>
      cases h
      have hgot := hinv.launcher
      rw [hvalidating] at hgot
      rw [validated_of_whole hmatch hgot.1 hgot.2 hdone.childAlive]
      simp [hvalidating, stepsLeft]
    · cases h
  | pollAgain =>
    simp only [launcherStep, Option.ite_none_right_eq_some, Option.some.injEq] at h
    obtain ⟨hpolling, rfl⟩ := h
    simp [hpolling, whileRunning, hdone.managerRuns, stepsLeft]

/-- Having slept long enough, a launcher that has neither accepted nor failed takes a step. -/
theorem launcher_goes_on (hinv : Inv setup s) (hdone : Completed s)
    (hfailed : ∀ failure, s.launcher ≠ .failed failure) (haccepted : s.launcher ≠ .accepted) :
    ∃ ms a, (launcherStep setup { s with now := s.now + ms } a).isSome := by
  obtain ⟨t, ht, -⟩ := hdone.inTime
  obtain ⟨-, hwritten⟩ := hinv.complete (Option.isSome_iff_exists.mpr ⟨t, ht⟩)
  cases hl : s.launcher with
  | started => exact ⟨0, .setDeadline, by simp [launcherStep]⟩
  | looking => exact ⟨0, .look, by simp [launcherStep]⟩
  | polling => exact ⟨0, .poll, by simp [launcherStep]⟩
  | checking => exact ⟨0, .checkDeadline, by simp [launcherStep]⟩
  | sleeping wake => exact ⟨wake, .wake, by simp [launcherStep]⟩
  | opening => exact ⟨0, .openFile, by simp [launcherStep]⟩
  | reading got =>
    have hgot := hinv.launcher
    rw [hl] at hgot
    obtain ⟨m, hm, hle⟩ := hgot
    rcases hle.eq_or_lt with rfl | hlt
    · exact ⟨0, .readEnd, by simp [launcherStep, hm]⟩
    · exact ⟨0, .readMore 1, by simp [launcherStep, hm, Nat.succ_le_of_lt hlt]⟩
  | validating got => exact ⟨0, .validate, by simp [launcherStep]⟩
  | pollingAgain => exact ⟨0, .pollAgain, by simp [launcherStep]⟩
  | accepted => exact absurd hl haccepted
  | failed failure => exact absurd hl (hfailed failure)

end

/-- While a provider that completed its admission in time is alive, an undisturbed launcher has not
failed, has a step to take until it has accepted, and takes a bounded number of them. -/
theorem admission_accepted (setup : Setup)
    (hmatch : Matching setup.allocation setup.sights setup.facts) {tr : List Unit} {s : State}
    (hrun : Machine.Run (Machine.restrict (machine setup) (Undisturbed setup)) initial tr s)
    (hdone : Completed s) :
    (∀ failure, s.launcher ≠ .failed failure) ∧
      (s.launcher ≠ .accepted →
        ∃ ms a, (launcherStep setup { s with now := s.now + ms } a).isSome) ∧
      ∀ (a : LauncherStep) (s' : State),
        Machine.restrict (machine setup) (Undisturbed setup) s (.launcher a) = some (s', []) →
          stepsLeft setup s'.launcher < stepsLeft setup s.launcher := by
  have hinv := inv_of_run hmatch hrun
  have hfailed (failure : LauncherFailure) : s.launcher ≠ .failed failure := by
    intro hfailed
    have hexcused := hinv.launcher
    rw [hfailed] at hexcused
    exact hdone.not_excused hexcused
  refine ⟨hfailed, launcher_goes_on hinv hdone hfailed, fun a s' h => ?_⟩
  obtain ⟨hallowed, h⟩ := Machine.restrict_eq_some.mp h
  obtain ⟨s₁, hs₁, heq⟩ := Option.map_eq_some_iff.mp h
  obtain ⟨rfl, -⟩ := Prod.mk.inj heq
  exact stepsLeft_launcherStep hmatch hinv hdone hallowed hs₁

/-! ### A launcher that looks too early -/

/-- The launcher finds the name, reads the empty file and fails, and then the provider writes its
record. -/
def earlyLook (setup : Setup) : List Action :=
  [.launcher .setDeadline, .provider .create, .launcher .look, .launcher .openFile,
    .launcher .readEnd, .launcher .validate, .provider (.write setup.size), .provider .fsync,
    .provider .chmod]

/-- The provider writes its record before the launcher looks. -/
def lateLook (setup : Setup) : List Action :=
  [.launcher .setDeadline, .provider .create, .provider (.write setup.size), .provider .fsync,
    .provider .chmod, .launcher .look]

/-- What both lead to, but for the launcher. -/
def handedOver (setup : Setup) (launcher : Launcher) : State where
  now := 0
  deadline := setup.timeoutMs
  writer := .closed
  written := some setup.size
  completed := some 0
  managerRc := none
  childAlive := true
  launcher

theorem validated_empty (setup : Setup) (s : State) :
    validated setup s 0 = .failed (reject "PROVIDER_ADMISSION_JSON_INVALID") := by
  have hempty : plainLoads [] = .syntaxError := rfl
  rw [validated, List.take_zero, validateAdmission, hempty]
  rfl

theorem exec_earlyLook (setup : Setup) : Machine.exec (machine setup) initial (earlyLook setup) =
    some ([], handedOver setup (.failed (reject "PROVIDER_ADMISSION_JSON_INVALID"))) := by
  simp [Machine.exec, earlyLook, machine, step, launcherStep, providerStep, initial,
    validated_empty, handedOver]

theorem exec_lateLook (setup : Setup) : Machine.exec (machine setup) initial (lateLook setup) =
    some ([], handedOver setup .opening) := by
  simp [Machine.exec, lateLook, machine, step, launcherStep, providerStep, initial, handedOver]

theorem completed_handedOver {setup : Setup} (h : 0 < setup.timeoutMs) (launcher : Launcher) :
    Completed (handedOver setup launcher) :=
  ⟨⟨0, rfl, h⟩, rfl, rfl⟩

/-- Neither the end of the file is read nor the deadline checked. -/
def quiet : Action → Bool
  | .launcher .readEnd => false
  | .launcher .checkDeadline => false
  | _ => true

theorem undisturbed_of_quiet {setup : Setup} (s : State) (a : Action) (h : quiet a = true) :
    Undisturbed setup s a := by
  unfold quiet at h
  unfold Undisturbed
  split <;> simp_all

theorem run_lateLook (setup : Setup) :
    Machine.Run (Machine.restrict (machine setup) (Undisturbed setup)) initial []
      (handedOver setup .opening) := by
  have hexec : Machine.exec (fun s a => if quiet a then machine setup s a else none) initial
      (lateLook setup) = some ([], handedOver setup .opening) := by
    simp [Machine.exec, lateLook, machine, step, launcherStep, providerStep, initial, handedOver,
      quiet]
  exact Machine.run_restrict_of_exec undisturbed_of_quiet hexec

def sampleText (text : String) (h : PlainKey text) : SystemText :=
  ⟨chars text, unpaired_of_plain h⟩

def sampleFacts : Facts where
  executionHost := sampleText "gnb" (by decide)
  runtimeRoot := sampleText "/r" (by decide)
  fifoPath := sampleText "/r/actuator.fifo" (by decide)
  fifoMode := sampleText "0600" (by decide)
  fifoUid := 0
  fifoGid := 0
  providerIdentity := sampleText "P" (by decide)
  providerPid := 7
  startIdentity := sampleText "b:7:1" (by decide)
  launchArgvSha256 := sampleText "0" (by decide)
  admissionUtc := sampleText "2026-01-01T00:00:00Z" (by decide)

def sampleSetup : Setup where
  allocation := ⟨chars "/r", chars "/r/actuator.fifo", chars "P"⟩
  sights := ⟨fun pid => if pid = 7 then some (chars "b:7:1") else none, true, some (true, 0o600)⟩
  facts := sampleFacts
  timeoutMs := 20000
  pollMs := 50

theorem sample_matching :
    Matching sampleSetup.allocation sampleSetup.sights sampleSetup.facts where
  runtimeRoot := rfl
  fifoPath := rfl
  providerIdentity := rfl
  providerPid := by decide
  startIdentity := by decide
  observed := rfl
  rootIsDir := rfl
  fifo := rfl

theorem admission_accepted_sample :
    Completed (handedOver sampleSetup .opening) ∧
      ∀ failure, (handedOver sampleSetup .opening).launcher ≠ .failed failure :=
  have hdone : Completed (handedOver sampleSetup .opening) := completed_handedOver (by decide) _
  ⟨hdone, (admission_accepted sampleSetup sample_matching (run_lateLook sampleSetup) hdone).1⟩

/-- The provider completes in time what the launcher expects, and the launcher has failed. -/
theorem half_made_file_refused :
    ∃ s, Machine.Run (machine sampleSetup) initial [] s ∧ Completed s ∧
      Matching sampleSetup.allocation sampleSetup.sights sampleSetup.facts ∧
      s.launcher = .failed (reject "PROVIDER_ADMISSION_JSON_INVALID") :=
  ⟨_, Machine.run_of_exec (exec_earlyLook sampleSetup), completed_handedOver (by decide) _,
    sample_matching, rfl⟩

end TcdOran.Harness.AdmissionHandover
