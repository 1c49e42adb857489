import TcdOran.Harness.RunnerIdentity
import TcdOran.Lib.Once

/-! Every run of the runners of one experiment: where no two of them come to one run id, each keeps to
its own directory and its own manifest. -/
namespace TcdOran.Harness.RunnerIdentity
open TcdOran.Lib

/-! ### What a runner holds -/

/-- Behind the `mkdir` of the run directory. -/
def ScriptPc.entered? : ScriptPc → Option RunId
  | .identityTime runId | .manifestInit runId | .update runId _ | .completed runId => some runId
  | _ => none

/-- Behind the creation of the manifest. -/
def ScriptPc.created? : ScriptPc → Option RunId
  | .update runId _ | .completed runId => some runId
  | _ => none

def RunnerPc.entered? : RunnerPc → Option RunId
  | .script pc => pc.entered?
  | .cleanup left _ => left.entered?
  | .ended => none

/-- Behind the test of the trap the manifest is there. -/
def RunnerPc.created? : RunnerPc → Option RunId
  | .script pc => pc.created?
  | .cleanup left .testManifest => left.created?
  | .cleanup left _ => left.manifestPath
  | .ended => none

def RunnerEvent.entered? : RunnerEvent → Option RunId
  | .entered _ runId => some runId
  | _ => none

def RunnerEvent.created? : RunnerEvent → Option RunId
  | .created _ runId => some runId
  | _ => none

/-- Nothing new is held at `pc'`. -/
def Keeps (pc pc' : RunnerPc) : Prop :=
  (∀ runId, pc'.entered? = some runId → pc.entered? = some runId) ∧
    ∀ runId, pc'.created? = some runId → pc.created? = some runId

/-! ### What a step does -/

inductive RunnerMove (id : RunnerId) (files : SharedFiles) (pc : RunnerPc) (answer : Answer) :
    SharedFiles → RunnerPc → List RunnerEvent → Prop
  | goto (pc' : RunnerPc) : Keeps pc pc' → RunnerMove id files pc answer files pc' []
  | enter (runId : RunId) (pc' : RunnerPc) : pc = .script (.makeRunDir runId) →
      answer = .done ∨ answer = .fails true →
      (∀ r, pc'.entered? = some r → r = runId) → pc'.created? = none →
      RunnerMove id files pc answer (files.makeRunDir runId) pc' [.entered id runId]
  | create (runId : RunId) (file : ManifestFile) (pc' : RunnerPc) :
      pc = .script (.manifestInit runId) → files.manifests runId = .absent → file ≠ .absent →
      (∀ r, pc'.entered? = some r → r = runId) → (∀ r, pc'.created? = some r → r = runId) →
      RunnerMove id files pc answer (files.setManifest runId file) pc' [.created id runId]
  | modify (runId : RunId) (pc' : RunnerPc) : pc.created? = some runId → Keeps pc pc' →
      RunnerMove id files pc answer files pc' [.modified id runId]
  | test (left : ScriptPc) (runId : RunId) : pc = .cleanup left .testManifest →
      left.manifestPath = some runId → left.runCompleted = false → files.manifests runId ≠ .absent →
      RunnerMove id files pc answer files (.cleanup left .setLifecycle) []

section
variable {id : RunnerId} {files files' : SharedFiles} {pc' : RunnerPc} {answer : Answer}
  {es : List RunnerEvent}

theorem Keeps.exitAt (pc : ScriptPc) : Keeps (.script pc) (exitAt pc) := ⟨fun _ h => h, fun _ h => h⟩

theorem Keeps.ended (pc : RunnerPc) : Keeps pc .ended := ⟨fun _ h => (by cases h), fun _ h => (by cases h)⟩

theorem keeps_nextCandidate (pc : RunnerPc) (timestamp : List ℕ) (sequence : ℕ) :
    Keeps pc (nextCandidate timestamp sequence) := by
  unfold nextCandidate
  split_ifs <;> exact ⟨fun _ h => (by cases h), fun _ h => (by cases h)⟩

theorem updateManifest_move {pc : RunnerPc} {runId : RunId} (hcreated : pc.created? = some runId)
    (hkeeps : Keeps pc pc') :
    RunnerMove id files pc answer files pc' (updateManifest id files runId) := by
  unfold updateManifest
  split_ifs
  · exact .modify runId pc' hcreated hkeeps
  · exact .goto pc' hkeeps

theorem letFail_move {pc : RunnerPc} {runId : RunId} (hcreated : pc.created? = some runId)
    (hkeeps : Keeps pc pc') :
    RunnerMove id files pc answer files pc' (letFail id files runId answer) := by
  unfold letFail
  split
  · exact updateManifest_move hcreated hkeeps
  · exact updateManifest_move hcreated hkeeps
  · exact .goto pc' hkeeps

theorem of_some {x : SharedFiles} {pc : RunnerPc} {events : List RunnerEvent}
    (h : some (x, pc, events) = some (files', pc', es)) : x = files' ∧ pc = pc' ∧ events = es := by
  obtain ⟨hfiles, hrest⟩ := Prod.mk.inj (Option.some.inj h)
  exact ⟨hfiles, Prod.mk.inj hrest⟩

theorem scriptStep_move {pc : ScriptPc} (h : scriptStep id files pc answer = some (files', pc', es)) :
    RunnerMove id files (.script pc) answer files' pc' es := by
  unfold scriptStep at h
  split at h
  case h_1 =>
    obtain ⟨rfl, rfl, rfl⟩ := of_some h
    apply RunnerMove.goto
    split_ifs
    · exact ⟨fun _ h => (by cases h), fun _ h => (by cases h)⟩
    · exact .exitAt _
  case h_2 | h_3 =>
    obtain ⟨rfl, rfl, rfl⟩ := of_some h
    apply RunnerMove.goto
    split_ifs
    · exact keeps_nextCandidate _ _ _
    · exact ⟨fun _ h => (by cases h), fun _ h => (by cases h)⟩
  case h_4 =>
    obtain ⟨rfl, rfl, rfl⟩ := of_some h
    exact .goto _ ⟨fun _ h => (by cases h), fun _ h => (by cases h)⟩
  case h_5 runId =>
    obtain ⟨rfl, rfl, rfl⟩ := of_some h
    exact .enter runId _ rfl (.inl rfl) (fun _ h => (Option.some.inj h).symm) rfl
  case h_6 runId =>
    obtain ⟨rfl, rfl, rfl⟩ := of_some h
    exact .enter runId _ rfl (.inr rfl) (fun _ h => (by cases h)) rfl
  case h_7 =>
    obtain ⟨rfl, rfl, rfl⟩ := of_some h
    exact .goto _ ⟨fun _ h => h, fun _ h => (by cases h)⟩
  case h_8 runId =>
    split_ifs at h with habsent
    · obtain ⟨rfl, rfl, rfl⟩ := of_some h
      exact .create runId .whole _ rfl habsent (fun h => (by cases h))
        (fun _ h => (Option.some.inj h).symm) (fun _ h => (Option.some.inj h).symm)
    · obtain ⟨rfl, rfl, rfl⟩ := of_some h
      exact .goto _ (.exitAt _)
  case h_9 runId =>
    split_ifs at h with habsent
    · obtain ⟨rfl, rfl, rfl⟩ := of_some h
      exact .create runId .begun _ rfl habsent (fun h => (by cases h))
        (fun _ h => (Option.some.inj h).symm) (fun _ h => (by cases h))
    · obtain ⟨rfl, rfl, rfl⟩ := of_some h
      exact .goto _ (.exitAt _)
  case h_10 runId done =>
    split at h
    · obtain ⟨rfl, rfl, rfl⟩ := of_some h
      apply RunnerMove.modify runId _ rfl
      split_ifs <;> exact ⟨fun _ h => h, fun _ h => h⟩
    · obtain ⟨rfl, rfl, rfl⟩ := of_some h
      exact .goto _ (.exitAt _)
  case h_11 runId done =>
    obtain ⟨rfl, rfl, rfl⟩ := of_some h
    exact updateManifest_move rfl (.exitAt _)
  case h_12 =>
    obtain ⟨rfl, rfl, rfl⟩ := of_some h
    exact .goto _ (.ended _)
  case h_13 =>
    obtain ⟨rfl, rfl, rfl⟩ := of_some h
    exact .goto _ (.exitAt _)
  case h_14 => cases h

theorem cleanupStep_move {left : ScriptPc} {pc : CleanupPc}
    (h : cleanupStep id files left pc answer = some (files', pc', es)) :
    RunnerMove id files (.cleanup left pc) answer files' pc' es := by
  unfold cleanupStep at h
  split at h
  · obtain ⟨rfl, rfl, rfl⟩ := of_some h
    exact .goto _ (.ended _)
  · next runId hpath =>
    obtain ⟨rfl, rfl, rfl⟩ := of_some h
    split_ifs with htest
    · exact .test left runId rfl hpath htest.1 htest.2
    · exact .goto _ (.ended _)
  · next runId hpath =>
    obtain ⟨rfl, rfl, rfl⟩ := of_some h
    exact letFail_move hpath ⟨fun _ h => h, fun _ h => h⟩
  · next runId hpath =>
    obtain ⟨rfl, rfl, rfl⟩ := of_some h
    exact letFail_move hpath (.ended _)

theorem runnerStep_move {pc : RunnerPc} (h : runnerStep id files pc answer = some (files', pc', es)) :
    RunnerMove id files pc answer files' pc' es := by
  cases pc with
  | script pc => exact scriptStep_move h
  | cleanup left pc => exact cleanupStep_move h
  | ended => cases h

end

/-- What a step of the machine changes. -/
inductive RunnersChange (s : RunnersState) : RunnerAction → RunnersState → List RunnerEvent → Prop
  | start (id : RunnerId) : s.runners id = none →
      RunnersChange s (.start id) (s.setRunner id (.script .precheck)) []
  | step (id : RunnerId) (answer : Answer) (pc pc' : RunnerPc) (files : SharedFiles)
      (es : List RunnerEvent) : s.runners id = some pc →
      RunnerMove id s.files pc answer files pc' es →
      RunnersChange s (.step id answer) ({ s with files }.setRunner id pc') es
  | kill (id : RunnerId) (pc : RunnerPc) : s.runners id = some pc →
      RunnersChange s (.kill id) (s.setRunner id .ended) []

section
variable {s s' : RunnersState} {a : RunnerAction} {tr es : List RunnerEvent}

theorem runnersChange (h : runnersMachine s a = some (s', es)) : RunnersChange s a s' es := by
  unfold runnersMachine at h
  cases a with
  | start id =>
    simp only at h
    split at h
    · cases h
    · next hnone =>
      obtain ⟨rfl, rfl⟩ := Prod.mk.inj (Option.some.inj h)
      exact .start id hnone
  | step id answer =>
    simp only [Option.bind_eq_bind, Option.bind_eq_some_iff] at h
    obtain ⟨pc, hpc, ⟨files, pc', events⟩, hstep, h⟩ := h
    obtain ⟨rfl, rfl⟩ := Prod.mk.inj (Option.some.inj h)
    exact .step id answer pc pc' files events hpc (runnerStep_move hstep)
  | kill id =>
    simp only [Option.bind_eq_bind, Option.bind_eq_some_iff] at h
    obtain ⟨pc, hpc, h⟩ := h
    obtain ⟨rfl, rfl⟩ := Prod.mk.inj (Option.some.inj h)
    exact .kill id pc hpc

@[simp] theorem setRunner_self (s : RunnersState) (id : RunnerId) (pc : RunnerPc) :
    (s.setRunner id pc).runners id = some pc :=
  Function.update_self _ _ _

theorem setRunner_of_ne (s : RunnersState) {id k : RunnerId} (pc : RunnerPc) (h : k ≠ id) :
    (s.setRunner id pc).runners k = s.runners k :=
  Function.update_of_ne h _ _

/-! ### What is taken once -/

theorem runDirs_makeRunDir (files : SharedFiles) (runId r : RunId) (h : files.runDirs r = true) :
    (files.makeRunDir runId).runDirs r = true := by
  show Function.update files.runDirs runId true r = true
  rw [Function.update_apply]
  split_ifs
  · rfl
  · exact h

theorem manifests_setManifest (files : SharedFiles) {file : ManifestFile} (runId r : RunId)
    (hfile : file ≠ .absent) (h : files.manifests r ≠ .absent) :
    (files.setManifest runId file).manifests r ≠ .absent := by
  show Function.update files.manifests runId file r ≠ .absent
  rw [Function.update_apply]
  split_ifs
  · exact hfile
  · exact h

theorem takes_entered (halone : ChosenAlone s a) (h : RunnersChange s a s' es) :
    Machine.Takes RunnerEvent.entered? (fun s runId => s.files.runDirs runId = true) s s' es := by
  cases h with
  | start | kill => exact .quiet (fun _ h => h) rfl
  | step id answer pc pc' files es hpc hmove =>
    cases hmove with
    | goto | create | modify | test => exact .quiet (fun _ h => h) rfl
    | enter runId _ hmkdir hanswer =>
      subst hmkdir
      have hfree := (halone id answer runId rfl).1 hpc hanswer
      constructor
      · exact runDirs_makeRunDir s.files runId
      · exact List.nodup_singleton _
      · intro r hmem
        obtain rfl : r = runId := by simpa [RunnerEvent.entered?] using hmem
        exact Bool.eq_false_iff.mp hfree
      · intro r hmem
        obtain rfl : r = runId := by simpa [RunnerEvent.entered?] using hmem
        exact Function.update_self _ _ _

theorem takes_created (h : RunnersChange s a s' es) :
    Machine.Takes RunnerEvent.created? (fun s runId => s.files.manifests runId ≠ .absent) s s' es := by
  cases h with
  | start | kill => exact .quiet (fun _ h => h) rfl
  | step id answer pc pc' files es hpc hmove =>
    cases hmove with
    | goto | enter | modify | test => exact .quiet (fun _ h => h) rfl
    | create runId file _ _ habsent hfile =>
      constructor
      · exact fun r => manifests_setManifest s.files runId r hfile
      · exact List.nodup_singleton _
      · intro r hmem
        obtain rfl : r = runId := by simpa [RunnerEvent.created?] using hmem
        exact not_not.mpr habsent
      · intro r hmem
        obtain rfl : r = runId := by simpa [RunnerEvent.created?] using hmem
        show Function.update s.files.manifests r file r ≠ .absent
        rwa [Function.update_self]

/-! ### Runs -/

/-- What holds of every run in which run ids are chosen alone. -/
structure RunnersInv (tr : List RunnerEvent) (s : RunnersState) : Prop where
  entered : ∀ id pc runId, s.runners id = some pc → pc.entered? = some runId →
    .entered id runId ∈ tr
  created : ∀ id pc runId, s.runners id = some pc → pc.created? = some runId →
    .created id runId ∈ tr
  inside : ∀ id runId, .created id runId ∈ tr → .entered id runId ∈ tr
  creator : ∀ runId, s.files.manifests runId ≠ .absent → ∃ id, .created id runId ∈ tr
  modified : ∀ id runId, .modified id runId ∈ tr → .created id runId ∈ tr

/-- Where a runner is set and nothing is held that was not held before. -/
theorem RunnersInv.goto (inv : RunnersInv tr s) {id : RunnerId} {pc : RunnerPc}
    (hentered : ∀ runId, pc.entered? = some runId → .entered id runId ∈ tr)
    (hcreated : ∀ runId, pc.created? = some runId → .created id runId ∈ tr) :
    RunnersInv tr (s.setRunner id pc) := by
  refine ⟨?_, ?_, inv.inside, inv.creator, inv.modified⟩
  · intro k pc' runId hk hpc
    by_cases hid : k = id
    · subst hid
      obtain rfl := Option.some.inj ((setRunner_self s k pc).symm.trans hk)
      exact hentered runId hpc
    · rw [setRunner_of_ne s pc hid] at hk
      exact inv.entered k pc' runId hk hpc
  · intro k pc' runId hk hpc
    by_cases hid : k = id
    · subst hid
      obtain rfl := Option.some.inj ((setRunner_self s k pc).symm.trans hk)
      exact hcreated runId hpc
    · rw [setRunner_of_ne s pc hid] at hk
      exact inv.created k pc' runId hk hpc

theorem RunnersInv.entering (inv : RunnersInv tr s) (id : RunnerId) (runId : RunId) :
    RunnersInv (tr ++ [.entered id runId]) { s with files := s.files.makeRunDir runId } := by
  constructor
  · exact fun k pc r hk hpc => List.mem_append_left _ (inv.entered k pc r hk hpc)
  · exact fun k pc r hk hpc => List.mem_append_left _ (inv.created k pc r hk hpc)
  · intro k r hmem
    have hold : .created k r ∈ tr := by simpa using hmem
    exact List.mem_append_left _ (inv.inside k r hold)
  · intro r hr
    obtain ⟨k, hk⟩ := inv.creator r hr
    exact ⟨k, List.mem_append_left _ hk⟩
  · intro k r hmem
    have hold : .modified k r ∈ tr := by simpa using hmem
    exact List.mem_append_left _ (inv.modified k r hold)

theorem RunnersInv.creating (inv : RunnersInv tr s) {id : RunnerId} {runId : RunId}
    (file : ManifestFile) (hentered : .entered id runId ∈ tr) :
    RunnersInv (tr ++ [.created id runId])
      { s with files := s.files.setManifest runId file } := by
  constructor
  · exact fun k pc r hk hpc => List.mem_append_left _ (inv.entered k pc r hk hpc)
  · exact fun k pc r hk hpc => List.mem_append_left _ (inv.created k pc r hk hpc)
  · intro k r hmem
    rcases List.mem_append.mp hmem with hmem | hmem
    · exact List.mem_append_left _ (inv.inside k r hmem)
    · obtain ⟨rfl, rfl⟩ : k = id ∧ r = runId := by simpa using hmem
      exact List.mem_append_left _ hentered
  · intro r hr
    by_cases hsame : r = runId
    · subst hsame
      exact ⟨id, List.mem_append_right _ (List.mem_singleton_self _)⟩
    · change Function.update s.files.manifests runId file r ≠ .absent at hr
      rw [Function.update_of_ne hsame] at hr
      obtain ⟨k, hk⟩ := inv.creator r hr
      exact ⟨k, List.mem_append_left _ hk⟩
  · intro k r hmem
    have hold : .modified k r ∈ tr := by simpa using hmem
    exact List.mem_append_left _ (inv.modified k r hold)

theorem RunnersInv.modifying (inv : RunnersInv tr s) {id : RunnerId} {runId : RunId}
    (hcreated : .created id runId ∈ tr) : RunnersInv (tr ++ [.modified id runId]) s := by
  constructor
  · exact fun k pc r hk hpc => List.mem_append_left _ (inv.entered k pc r hk hpc)
  · exact fun k pc r hk hpc => List.mem_append_left _ (inv.created k pc r hk hpc)
  · intro k r hmem
    have hold : .created k r ∈ tr := by simpa using hmem
    exact List.mem_append_left _ (inv.inside k r hold)
  · intro r hr
    obtain ⟨k, hk⟩ := inv.creator r hr
    exact ⟨k, List.mem_append_left _ hk⟩
  · intro k r hmem
    rcases List.mem_append.mp hmem with hmem | hmem
    · exact List.mem_append_left _ (inv.modified k r hmem)
    · obtain ⟨rfl, rfl⟩ : k = id ∧ r = runId := by simpa using hmem
      exact List.mem_append_left _ hcreated

/-- The trap of a runner that finds a manifest under its run id finds its own. -/
theorem RunnersInv.created_of_test (inv : RunnersInv tr s)
    (honce : (tr.filterMap RunnerEvent.entered?).Nodup) {id : RunnerId} {left : ScriptPc}
    {runId : RunId} (hid : s.runners id = some (.cleanup left .testManifest))
    (hleft : left.entered? = some runId) (hmanifest : s.files.manifests runId ≠ .absent) :
    .created id runId ∈ tr := by
  obtain ⟨k, hk⟩ := inv.creator runId hmanifest
  have hmine := inv.entered id _ runId hid hleft
  have hsame := Machine.eq_of_nodup_keys honce (inv.inside k runId hk) hmine rfl rfl
  rwa [(RunnerEvent.entered.inj hsame).1] at hk

theorem entered_of_manifestPath {left : ScriptPc} {runId : RunId}
    (hpath : left.manifestPath = some runId) (hmade : left ≠ .makeRunDir runId) :
    left.entered? = some runId := by
  cases left with
  | makeRunDir r =>
    obtain rfl := Option.some.inj hpath
    exact absurd rfl hmade
  | identityTime | manifestInit | update | completed => exact hpath
  | precheck | lookRunDir | lookManifest | setPaths => cases hpath

theorem runnersInv (h : Machine.Run (Machine.restrict runnersMachine ChosenAlone) runnersStart tr s) :
    RunnersInv tr s := by
  induction h with
  | start =>
    exact ⟨fun _ _ _ h => (by cases h), fun _ _ _ h => (by cases h), fun _ _ h => (by cases h),
      fun _ h => absurd rfl h, fun _ _ h => (by cases h)⟩
  | @step tr s s' a es hrun hs inv =>
    have honce : (tr.filterMap RunnerEvent.entered?).Nodup := (hrun.nodup_keys fun hs =>
      takes_entered (Machine.restrict_eq_some.mp hs).1
        (runnersChange (Machine.restrict_eq_some.mp hs).2)).1
    obtain ⟨halone, hs⟩ := Machine.restrict_eq_some.mp hs
    cases runnersChange hs with
    | start id =>
      rw [List.append_nil]
      exact inv.goto (fun _ h => (by cases h)) (fun _ h => (by cases h))
    | kill id =>
      rw [List.append_nil]
      exact inv.goto (fun _ h => (by cases h)) (fun _ h => (by cases h))
    | step id answer pc pc' files es hpc hmove =>
      cases hmove with
      | goto _ hkeeps =>
        rw [List.append_nil]
        apply inv.goto
        · exact fun runId h => inv.entered id pc runId hpc (hkeeps.1 runId h)
        · exact fun runId h => inv.created id pc runId hpc (hkeeps.2 runId h)
      | enter runId _ _ _ hentered hcreated =>
        apply (inv.entering id runId).goto
        · intro r hr
          rw [hentered r hr]
          exact List.mem_append_right _ (List.mem_singleton_self _)
        · intro r hr
          cases hcreated.symm.trans hr
      | create runId file _ hinit _ _ hentered hcreated =>
        subst hinit
        have hmine : .entered id runId ∈ tr := inv.entered id _ runId hpc rfl
        apply (inv.creating file hmine).goto
        · intro r hr
          rw [hentered r hr]
          exact List.mem_append_left _ hmine
        · intro r hr
          rw [hcreated r hr]
          exact List.mem_append_right _ (List.mem_singleton_self _)
      | modify runId _ hcreated hkeeps =>
        have hmine := inv.created id pc runId hpc hcreated
        apply (inv.modifying hmine).goto
        · exact fun r h => List.mem_append_left _ (inv.entered id pc r hpc (hkeeps.1 r h))
        · exact fun r h => List.mem_append_left _ (inv.created id pc r hpc (hkeeps.2 r h))
      | test left runId htest hpath _ hmanifest =>
        subst htest
        have hmade : left ≠ .makeRunDir runId := by
          rintro rfl
          exact hmanifest ((halone id answer runId rfl).2 hpc)
        have hleft := entered_of_manifestPath hpath hmade
        rw [List.append_nil]
        apply inv.goto
        · exact fun r h => inv.entered id _ r hpc h
        · intro r hr
          obtain rfl := Option.some.inj (hpath.symm.trans hr)
          exact inv.created_of_test honce hpc hleft hmanifest

/-- In every interleaving of any number of runners in which a run directory is never found made, and a
trap never finds a manifest before its runner made the directory, each runner keeps to its own run. -/
theorem runners_ownRunOnly
    (h : Machine.Run (Machine.restrict runnersMachine ChosenAlone) runnersStart tr s) :
    OwnRunOnly tr := by
  have hentered := (h.nodup_keys fun hs => takes_entered (Machine.restrict_eq_some.mp hs).1
    (runnersChange (Machine.restrict_eq_some.mp hs).2)).1
  have hcreated := (h.of_restrict.nodup_keys fun hs => takes_created (runnersChange hs)).1
  constructor
  · intro id k runId hid hk
    exact (RunnerEvent.entered.inj (Machine.eq_of_nodup_keys hentered hid hk rfl rfl)).1
  · intro id k runId hid hk
    exact (RunnerEvent.created.inj (Machine.eq_of_nodup_keys hcreated hid hk rfl rfl)).1
  · exact (runnersInv h).modified

end

/-! ### Two runs that are carried out -/

def sampleStamp : List ℕ := chars "20260101T120000Z"

/-- A runner up to its choice. -/
def untilChosen (id : RunnerId) : List RunnerAction :=
  [.start id, .step id (.date sampleStamp), .step id .done, .step id .done]

/-- `ChosenAlone`, as far as it is about one step. -/
def chosenAloneCheck (s : RunnersState) : RunnerAction → Bool
  | .step id _ => match s.runners id with
    | some (.script (.makeRunDir runId)) => !s.files.runDirs runId
    | some (.cleanup (.makeRunDir runId) .testManifest) => s.files.manifests runId = .absent
    | _ => true
  | _ => true

theorem chosenAlone_of_check (s : RunnersState) (a : RunnerAction)
    (h : chosenAloneCheck s a = true) : ChosenAlone s a := by
  rintro id answer runId rfl
  constructor
  · intro hpc _
    simpa [chosenAloneCheck, hpc] using h
  · intro hpc
    simpa [chosenAloneCheck, hpc] using h

/-- The second runner looks when the first one has its directory, and takes the next number. -/
theorem runners_ownRunOnly_sample : ∃ tr s,
    Machine.Run (Machine.restrict runnersMachine ChosenAlone) runnersStart tr s ∧
    tr = [.entered 0 (candidate sampleStamp 1), .entered 1 (candidate sampleStamp 2),
      .created 1 (candidate sampleStamp 2), .modified 1 (candidate sampleStamp 2)] ∧
    OwnRunOnly tr := by
  have heval : (Machine.exec (fun s a => if chosenAloneCheck s a then runnersMachine s a else none)
      runnersStart (untilChosen 0 ++ [.step 0 .done, .step 0 .done] ++ untilChosen 1 ++
        [.step 1 .done, .step 1 .done, .step 1 .done, .step 1 .done, .step 1 .done, .step 1 .done]
        )).map Prod.fst =
      some [.entered 0 (candidate sampleStamp 1), .entered 1 (candidate sampleStamp 2),
        .created 1 (candidate sampleStamp 2), .modified 1 (candidate sampleStamp 2)] := by
    decide +kernel
  obtain ⟨⟨tr, s⟩, hexec, htr⟩ := Option.map_eq_some_iff.mp heval
  have hrun := Machine.run_restrict_of_exec chosenAlone_of_check hexec
  exact ⟨tr, s, hrun, htr, runners_ownRunOnly hrun⟩

/-- Both runners look before either makes the directory. The second one finds the manifest of the
first one there, and its trap writes FAILED into it. -/
theorem same_second_marks_other : ¬ ∀ tr s,
    Machine.Run runnersMachine runnersStart tr s → OwnRunOnly tr := by
  intro h
  have heval : (Machine.exec runnersMachine runnersStart (untilChosen 0 ++ untilChosen 1 ++
      [.step 0 .done, .step 0 .done, .step 1 .done, .step 1 .done, .step 0 .done, .step 1 .done,
        .step 0 .done, .step 1 .done, .step 1 .done, .step 1 .done])).map Prod.fst =
      some [.entered 0 (candidate sampleStamp 1), .entered 1 (candidate sampleStamp 1),
        .created 0 (candidate sampleStamp 1), .modified 1 (candidate sampleStamp 1)] := by
    decide +kernel
  obtain ⟨⟨tr, s⟩, hexec, htr⟩ := Option.map_eq_some_iff.mp heval
  subst htr
  have howner := (h _ s (Machine.run_of_exec hexec)).manifest 1 (candidate sampleStamp 1)
    (List.mem_append_right _ (List.mem_singleton_self _) :
      _ ∈ [RunnerEvent.entered 0 _, .entered 1 _, .created 0 _] ++ [.modified 1 _])
  simp at howner

end TcdOran.Harness.RunnerIdentity
