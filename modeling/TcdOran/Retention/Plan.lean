import TcdOran.Retention.Undisturbed

/-! The mode `plan` of `sci-oran-retain-evidence.py` over a retained root of any content. -/
namespace TcdOran.Retention
open Lib Lib.Python Lib.Attempt

/-! ### The retained root -/

def kindOf (name : List ℕ) : Listing → PathKind
  | .nil => .absent
  | .file name' _ rest | .special name' _ rest => if name' = name then .other else kindOf name rest
  | .directory name' _ rest => if name' = name then .directory else kindOf name rest
  | .symlink name' _ rest => if name' = name then .symlink else kindOf name rest

def childrenOf (name : List ℕ) : Listing → Listing
  | .nil => .nil
  | .directory name' children rest => if name' = name then children else childrenOf name rest
  | .file _ _ rest | .special _ _ rest | .symlink _ _ rest => childrenOf name rest

/-- `any(path.iterdir())`. -/
def hasEntry : Listing → Bool
  | .nil => false
  | .file _ _ _ | .directory _ _ _ | .symlink _ _ _ | .special _ _ _ => true

theorem hasEntry_eq_false_iff {tree : Listing} : hasEntry tree = false ↔ tree = .nil := by
  cases tree <;> simp [hasEntry]

structure PlanSurroundings where
  base : Surroundings
  inventoryHost : List ℕ
  ansibleHost : List ℕ
  sourceText : List ℕ
  /-- The staging path where `.incoming` is a symbolic link. -/
  linkedStaging : PathKind
  dryRunStdout : List ℕ
  dryRunStderr : List ℕ
  /-- The retained root behind `rsync --dry-run`. -/
  rootAfter : FileTree

inductive PlanLine
  | plan (value : Json)
  | text (line : List ℕ)

structure PlanState where
  root : FileTree
  printed : List PlanLine

section
variable (w : PlanSurroundings)

def stagingKind (root : FileTree) : PathKind :=
  match kindOf (chars ".incoming") root.listing with
  | .directory => kindOf w.base.operationId (childrenOf (chars ".incoming") root.listing)
  | .symlink => w.linkedStaging
  | _ => .absent

def finalKind (root : FileTree) : PathKind := kindOf w.base.operationId root.listing

def SourceSnapshot.json (snapshot : SourceSnapshot) : Json :=
  .obj [(chars "block_devices", jsonInt snapshot.blockDevices),
    (chars "char_devices", jsonInt snapshot.charDevices),
    (chars "directories", jsonInt snapshot.directories), (chars "fifo", jsonInt snapshot.fifo),
    (chars "regular_files", jsonInt snapshot.regularFiles),
    (chars "sockets", jsonInt snapshot.sockets), (chars "symlinks", jsonInt snapshot.symlinks),
    (chars "total_regular_file_bytes", jsonInt snapshot.totalRegularFileBytes),
    (chars "unreadable_regular_files", jsonInt snapshot.unreadableRegularFiles)]

def planJson (snapshot : SourceSnapshot) : Json :=
  .obj [(chars "destination_final", .str w.base.finalText),
    (chars "destination_staging", .str w.base.stagingText),
    (chars "inventory_host", .str w.inventoryHost), (chars "mode", .str (chars "plan")),
    (chars "operation_id", .str w.base.operationId),
    (chars "resolved_runtime_host", .str w.ansibleHost),
    (chars "source_deletion_performed", .bool false), (chars "source_root", .str w.sourceText),
    (chars "source_snapshot", snapshot.json)]

abbrev PlanMode := Attempt PlanState Failure

def say (key : String) (line : PlanLine) : PlanMode Unit := do
  external w.base (.print key)
  modify fun s => { s with printed := s.printed ++ [line] }

def planAbsent : PlanMode Unit := do
  external w.base .inspectPaths
  let s ← get
  Attempt.ofExcept (require (stagingKind w s.root = .absent)
    (.failed "staging operation already exists"))
  Attempt.ofExcept (require (finalKind w s.root = .absent)
    (.failed "final retained operation already exists"))

def reportsNoDeletion : Prop := chars "Number of deleted files: 0" <:+: w.dryRunStdout

instance : Decidable (reportsNoDeletion w) := inferInstanceAs (Decidable (_ <:+: _))

def dryRun : PlanMode Unit := do
  modify fun s => { s with root := w.rootAfter }
  external w.base .dryRun
  Attempt.ofExcept (require (reportsNoDeletion w)
    (.failed "rsync dry-run did not report zero deleted files"))
  say w "stdout" (.text w.dryRunStdout)
  if w.dryRunStderr ≠ [] then say w "stderr" (.text w.dryRunStderr)

def mutated : Failure := .failed "plan mode mutated retained-evidence root"

/-- Whether the root has any entry at all. -/
def checkUnmutated : PlanMode Unit := do
  let s ← get
  Attempt.ofExcept (rejectIf (hasEntry s.root.listing = true) mutated)

/-- What comes before the mutation check. -/
def planned : PlanMode Unit := do
  planAbsent w
  let snapshot ← Attempt.ofExcept (remoteSourceSnapshot w.base)
  say w "PLAN_JSON" (.plan (planJson w snapshot))
  dryRun w
  external w.base .listRoot

def reportPlan : PlanMode Unit := do
  say w "PLAN_GATE" (.text (chars "PLAN_GATE=PASS"))
  say w "MUTATION_PERFORMED" (.text (chars "MUTATION_PERFORMED=NO"))
  say w "SOURCE_DELETION_PERFORMED" (.text (chars "SOURCE_DELETION_PERFORMED=NO"))

def modePlan : PlanMode Unit := do
  planned w
  checkUnmutated
  reportPlan w

end

theorem Fault.failure_ne_mutated (fault : Fault) : fault.failure ≠ mutated := by
  cases fault <;> simp [Fault.failure, mutated]

/-! ### What each part needs -/

/-- The part succeeds exactly where `c` holds, leaves `root'` as the root then, and never ends with
the failure of the mutation check. -/
structure Passes (x : PlanMode Unit) (root root' : FileTree) (c : Prop) : Prop where
  cases : ∀ printed, (∃ printed', c ∧ outcome x ⟨root, printed⟩ = (.ok (), ⟨root', printed'⟩)) ∨
    ∃ e s, ¬ c ∧ e ≠ mutated ∧ outcome x ⟨root, printed⟩ = (.error e, s)

section
variable {w : PlanSurroundings} {x y : PlanMode Unit} {root root' root'' : FileTree} {c d : Prop}

theorem Passes.bind (hx : Passes x root root' c) (hy : Passes y root' root'' d) :
    Passes (x >>= fun _ => y) root root'' (c ∧ d) where
  cases := by
    intro printed
    rw [outcome_bind]
    rcases hx.cases printed with ⟨printed', hc, houtcome⟩ | ⟨e, s, hc, hne, houtcome⟩
    · rw [houtcome]
      rcases hy.cases printed' with ⟨printed'', hd, houtcome'⟩ | ⟨e, s, hd, hne, houtcome'⟩
      · exact .inl ⟨printed'', ⟨hc, hd⟩, houtcome'⟩
      · exact .inr ⟨e, s, fun h => hd h.2, hne, houtcome'⟩
    · rw [houtcome]
      exact .inr ⟨e, s, fun h => hc h.1, hne, rfl⟩

variable (w root) in
theorem passes_external (e : External) :
    Passes (external w.base e) root root (w.base.fault e = none) where
  cases := by
    intro printed
    rw [external, outcome_ofExcept, Surroundings.attempt]
    cases w.base.fault e with
    | none => exact .inl ⟨printed, rfl, rfl⟩
    | some fault => exact .inr ⟨fault.failure, _, by simp, fault.failure_ne_mutated, rfl⟩

variable (w root) in
theorem passes_say (key : String) (line : PlanLine) :
    Passes (say w key line) root root (w.base.fault (.print key) = none) where
  cases := by
    intro printed
    rw [say, outcome_bind]
    rcases (passes_external w root (.print key)).cases printed with
      ⟨printed', hfault, houtcome⟩ | ⟨e, s, hfault, hne, houtcome⟩
    · rw [houtcome]
      exact .inl ⟨printed' ++ [line], hfault, rfl⟩
    · rw [houtcome]
      exact .inr ⟨e, s, hfault, hne, rfl⟩

theorem passes_require (message : String)
    (h : message ≠ "plan mode mutated retained-evidence root") [Decidable c] :
    Passes (Attempt.ofExcept (require c (.failed message))) root root c where
  cases := by
    intro printed
    rw [outcome_ofExcept, require]
    by_cases hc : c
    · exact .inl ⟨printed, hc, by rw [if_pos hc]⟩
    · have hne : Failure.failed message ≠ mutated := fun heq => h (Failure.failed.inj heq)
      exact .inr ⟨.failed message, _, hc, hne, by rw [if_neg hc]⟩

theorem passes_get {f : PlanState → PlanMode Unit}
    (h : ∀ printed, Passes (f ⟨root, printed⟩) root root' c) : Passes (get >>= f) root root' c where
  cases := by
    intro printed
    rw [outcome_bind, outcome_get]
    exact (h printed).cases printed

theorem passes_planAbsent : Passes (planAbsent w) root root
    (w.base.fault .inspectPaths = none ∧ stagingKind w root = .absent ∧ finalKind w root = .absent) :=
  (passes_external w root _).bind (passes_get fun _ =>
    (passes_require _ (by decide)).bind (passes_require _ (by decide)))

theorem remoteSourceSnapshot_ne_mutated {base : Surroundings} {e : Failure}
    (h : remoteSourceSnapshot base = .error e) : e ≠ mutated := by
  rw [remoteSourceSnapshot, Surroundings.attempt] at h
  cases hfault : base.fault .sourceSnapshot with
  | some fault =>
    rw [hfault] at h
    obtain rfl := Except.error.inj h
    exact fault.failure_ne_mutated
  | none =>
    rw [hfault, ok_bind] at h
    cases hsource : base.source with
    | directory tree =>
      simp only [hsource, SourceSnapshot.check, rejectIf] at h
      split_ifs at h
      all_goals
        cases h
        try decide
    | absent | notDirectory | symlink =>
      simp only [hsource] at h
      obtain rfl := Except.error.inj h
      decide

/-- The source is accepted, and no failure of its snapshot is one of the mutation check. -/
theorem passes_snapshot {f : SourceSnapshot → PlanMode Unit}
    (h : ∀ snapshot, Passes (f snapshot) root root' c) :
    Passes (Attempt.ofExcept (remoteSourceSnapshot w.base) >>= f) root root'
      ((w.base.fault .sourceSnapshot = none ∧ ∃ source, Accepted w.base source) ∧ c) where
  cases := by
    intro printed
    rw [outcome_bind, outcome_ofExcept]
    cases hsnapshot : remoteSourceSnapshot w.base with
    | ok snapshot =>
      obtain ⟨hfault, source, haccepted, -⟩ := remoteSourceSnapshot_eq_ok.mp hsnapshot
      have hsource : w.base.fault .sourceSnapshot = none ∧ ∃ source, Accepted w.base source :=
        ⟨hfault, source, haccepted⟩
      rcases (h snapshot).cases printed with ⟨printed', hc, houtcome⟩ | ⟨e, s, hc, hne, houtcome⟩
      · exact .inl ⟨printed', ⟨hsource, hc⟩, houtcome⟩
      · exact .inr ⟨e, s, fun h => hc h.2, hne, houtcome⟩
    | error e =>
      refine .inr ⟨e, _, ?_, ?_, rfl⟩
      · rintro ⟨⟨hfault, source, haccepted⟩, -⟩
        have hok := remoteSourceSnapshot_eq_ok.mpr ⟨hfault, source, haccepted, rfl⟩
        cases hsnapshot.symm.trans hok
      · exact remoteSourceSnapshot_ne_mutated hsnapshot

theorem passes_dryRun : Passes (dryRun w) root w.rootAfter
    (w.base.fault .dryRun = none ∧ reportsNoDeletion w ∧ w.base.fault (.print "stdout") = none ∧
      (w.dryRunStderr ≠ [] → w.base.fault (.print "stderr") = none)) := by
  have hstderr : Passes (if w.dryRunStderr ≠ [] then say w "stderr" (.text w.dryRunStderr)
      else pure ()) w.rootAfter w.rootAfter
      (w.dryRunStderr ≠ [] → w.base.fault (.print "stderr") = none) := by
    by_cases hnil : w.dryRunStderr = []
    · rw [if_neg (not_not.mpr hnil)]
      exact ⟨fun printed => .inl ⟨printed, fun hne => absurd hnil hne, rfl⟩⟩
    · rw [if_pos hnil]
      have hsay := passes_say w w.rootAfter "stderr" (.text w.dryRunStderr)
      simpa only [hnil, ne_eq, not_false_eq_true, true_imp_iff] using hsay
  have hrest := (passes_external w w.rootAfter .dryRun).bind
    ((@passes_require w.rootAfter (reportsNoDeletion w) "rsync dry-run did not report zero deleted files"
      (by decide) _).bind ((passes_say w w.rootAfter "stdout" (.text w.dryRunStdout)).bind hstderr))
  exact ⟨hrest.cases⟩

theorem passes_reportPlan : Passes (reportPlan w) root root
    (w.base.fault (.print "PLAN_GATE") = none ∧ w.base.fault (.print "MUTATION_PERFORMED") = none ∧
      w.base.fault (.print "SOURCE_DELETION_PERFORMED") = none) :=
  (passes_say w root _ _).bind ((passes_say w root _ _).bind (passes_say w root _ _))

/-- What comes before the mutation check succeeds. -/
structure Ready (w : PlanSurroundings) (root : FileTree) : Prop where
  inspected : w.base.fault .inspectPaths = none ∧ stagingKind w root = .absent ∧
    finalKind w root = .absent
  source : w.base.fault .sourceSnapshot = none ∧ ∃ source, Accepted w.base source
  reported : w.base.fault (.print "PLAN_JSON") = none
  dryRun : w.base.fault .dryRun = none ∧ reportsNoDeletion w ∧
    w.base.fault (.print "stdout") = none ∧
    (w.dryRunStderr ≠ [] → w.base.fault (.print "stderr") = none)
  listed : w.base.fault .listRoot = none

theorem passes_planned : Passes (planned w) root w.rootAfter (Ready w root) where
  cases := by
    have hparts : Passes (planned w) root w.rootAfter _ := passes_planAbsent.bind (passes_snapshot fun snapshot =>
      (passes_say w root "PLAN_JSON" (.plan (planJson w snapshot))).bind
        (passes_dryRun.bind (passes_external w _ .listRoot)))
    intro printed
    rcases hparts.cases printed with
      ⟨printed', ⟨habsent, hsource, hplan, hdry, hlist⟩, houtcome⟩ | ⟨e, s, hnot, hne, houtcome⟩
    · exact .inl ⟨printed', ⟨habsent, hsource, hplan, hdry, hlist⟩, houtcome⟩
    · refine .inr ⟨e, s, fun hready => hnot ?_, hne, houtcome⟩
      exact ⟨hready.inspected, hready.source, hready.reported, hready.dryRun, hready.listed⟩

end

/-! ### The verdict -/

section
variable (w : PlanSurroundings) (root : FileTree)

/-- The verdict over a root of any content. -/
def plan : Except Failure Unit := (outcome (modePlan w) ⟨root, []⟩).1

def GatesPrinted : Prop := w.base.fault (.print "PLAN_GATE") = none ∧
  w.base.fault (.print "MUTATION_PERFORMED") = none ∧
  w.base.fault (.print "SOURCE_DELETION_PERFORMED") = none

variable {w root}

theorem plan_ne_mutated_of_not_ready (h : ¬ Ready w root) :
    plan w root ≠ .ok () ∧ plan w root ≠ .error mutated := by
  rw [plan, modePlan, outcome_bind]
  rcases (@passes_planned w root).cases [] with ⟨printed, hready, -⟩ | ⟨e, s, -, hne, houtcome⟩
  · exact absurd hready h
  · rw [houtcome]
    exact ⟨nofun, fun heq => hne (Except.error.inj heq)⟩

/-- Behind a dry run the verdict is whether the root is empty. -/
theorem plan_of_ready (h : Ready w root) :
    (hasEntry w.rootAfter.listing = true → plan w root = .error mutated) ∧
      (hasEntry w.rootAfter.listing = false → plan w root ≠ .error mutated ∧
        (plan w root = .ok () ↔ GatesPrinted w)) := by
  rw [plan, modePlan, outcome_bind]
  rcases (@passes_planned w root).cases [] with ⟨printed, -, houtcome⟩ | ⟨e, s, hnot, -, -⟩
  · simp only [houtcome, checkUnmutated, rejectIf, outcome_bind, outcome_get, outcome_ofExcept]
    constructor
    · intro hentry
      rw [if_pos hentry]
    · intro hentry
      rw [if_neg (by simp [hentry])]
      rcases (@passes_reportPlan w w.rootAfter).cases printed with
        ⟨printed', hgates, hreport⟩ | ⟨e, s, hgates, hne, hreport⟩
      · simp only [hreport]
        exact ⟨nofun, iff_of_true trivial hgates⟩
      · simp only [hreport]
        exact ⟨fun heq => hne (Except.error.inj heq), iff_of_false nofun hgates⟩
  · exact absurd h hnot

end

/-- Over a root that the dry run leaves alone the plan passes, and the mutation check fails for no
root that is left alone. -/
structure PlanPure (w : PlanSurroundings) (root : FileTree) : Prop where
  passes : Ready w root → w.rootAfter = root → GatesPrinted w → plan w root = .ok ()
  mutated : plan w root = .error mutated → w.rootAfter ≠ root

/-- The plan is a pure check exactly of an empty retained root. -/
theorem plan_pure_iff (w : PlanSurroundings) (root : FileTree) :
    PlanPure w root ↔ (Ready w root → w.rootAfter = root → root.listing = .nil) := by
  constructor
  · intro hpure hready hroot
    by_contra hnonempty
    have hentry : hasEntry w.rootAfter.listing = true := by
      by_contra hentry
      rw [hroot] at hentry
      exact hnonempty (hasEntry_eq_false_iff.mp (Bool.eq_false_of_not_eq_true hentry))
    exact hpure.mutated ((plan_of_ready hready).1 hentry) hroot
  · intro hempty
    constructor
    · intro hready hroot hgates
      have hentry : hasEntry w.rootAfter.listing = false := by
        rw [hroot, hempty hready hroot]
        rfl
      exact ((plan_of_ready hready).2 hentry).2.mpr hgates
    · intro hmutated hroot
      by_cases hready : Ready w root
      · have hentry : hasEntry w.rootAfter.listing = false := by
          rw [hroot, hempty hready hroot]
          rfl
        exact ((plan_of_ready hready).2 hentry).1 hmutated
      · exact (plan_ne_mutated_of_not_ready hready).2 hmutated

/-- A dry run that leaves the root alone and reports no deletion. -/
def samplePlan (root : FileTree) : PlanSurroundings where
  base := undisturbed sampleTree
  inventoryHost := chars "runtime"
  ansibleHost := chars "10.0.0.2"
  sourceText := chars "/srv/acquisition"
  linkedStaging := .absent
  dryRunStdout := chars "Number of deleted files: 0\n"
  dryRunStderr := []
  rootAfter := root

/-- The root holds another operation, the directory `d`. -/
theorem plan_fails_beside_another_operation : ¬ ∀ w root, PlanPure w root := by
  intro hall
  have hready : Ready (samplePlan sampleTree) sampleTree :=
    ⟨⟨rfl, rfl, rfl⟩, ⟨rfl, sampleTree, accepted_undisturbed regular_sampleTree⟩, rfl,
      ⟨rfl, by decide, rfl, fun _ => rfl⟩, rfl⟩
  exact (hall (samplePlan sampleTree) sampleTree).mutated ((plan_of_ready hready).1 rfl) rfl

end TcdOran.Retention
