import TcdOran.Collector.PipelineAccounting
import TcdOran.Collector.PipelineShutdown

/-! What a snapshot returned by `tcd_kpm_output_pipeline_snapshot` says of itself. The mutex keeps
everything it reads still except the drop counter, which is read twice. -/
namespace TcdOran.Collector
open TcdOran.Lib

/-- Whether the snapshot shows a file backend as enabled. -/
def OutputPipelineSnapshot.shows (snapshot : OutputPipelineSnapshot) : OutputBackend → Bool
  | .csv => snapshot.csvEnabled
  | .jsonl => snapshot.jsonlEnabled
  | _ => false

/-- Up to one record in processing, the counters of every enabled file backend are the records
that the snapshot shows as accepted or dropped and not as queued. -/
def OutputPipelineSnapshot.Consistent (snapshot : OutputPipelineSnapshot) : Prop :=
  ∀ backend, snapshot.shows backend = true → ∃ processing ≤ (1 : UInt64),
    recordTotal snapshot.prometheus backend =
      snapshot.recordsAccepted + snapshot.recordsDropped - snapshot.queueDepth - processing

def countAfterLoad (thread : ThreadId) (drops : ℕ) : Action → ℕ
  | .snapshotDropped loader => if loader = thread then 0 else drops
  | .countDrop _ => drops + 1
  | _ => drops

/-- The drops that submitters have counted since the thread last loaded the drop counter. -/
def dropsSinceLoad (thread : ThreadId) (script : List Action) : ℕ :=
  script.foldl (countAfterLoad thread) 0

theorem dropsSinceLoad_concat (thread : ThreadId) (script : List Action) (a : Action) :
    dropsSinceLoad thread (script ++ [a]) = countAfterLoad thread (dropsSinceLoad thread script) a := by
  simp [dropsSinceLoad]

/-! ### What the mutex keeps still -/

/-- What a snapshot copies under the mutex, and what of it shows in the backends, is as before. -/
structure Still (p q : OutputPipeline) : Prop where
  csv : q.csvEnabled = p.csvEnabled
  jsonl : q.jsonlEnabled = p.jsonlEnabled
  accepted : q.recordsAccepted = p.recordsAccepted
  count : q.queue.count = p.queue.count

theorem Still.refl (p : OutputPipeline) : Still p p := ⟨rfl, rfl, rfl, rfl⟩

def Action.ofSnapshot : Action → Bool
  | .snapshotLock _ | .snapshotDropped _ | .snapshotCompose _ _ => true
  | _ => false

def Action.countsDrop : Action → Bool
  | .countDrop _ => true
  | _ => false

variable {s s' : System} {a : Action} {es : List Event}

/-- The steps of the other calls leave the mutex and the snapshots alone. While a snapshot holds the
mutex they change nothing that it copies, and the drop counter moves with a counted drop only. -/
theorem still_of_other (h : pipelineMachine s a = some (s', es)) (hother : a.ofSnapshot = false) :
    s'.mutex = s.mutex ∧ s'.snapshots = s.snapshots ∧
      (s.mutex ≠ none → Still s.pipeline s'.pipeline ∧
        s'.pipeline.recordsDropped =
          s.pipeline.recordsDropped + if a.countsDrop then 1 else 0) := by
  unfold pipelineMachine at h
  split at h
  · simp at h
  cases a with
  | snapshotLock thread | snapshotDropped thread | snapshotCompose thread now =>
    simp [Action.ofSnapshot] at hother
  | submit thread record contended =>
    simp only [stepLive, stepSubmit] at h
    split at h
    · split at h
      · next haccepts =>
        have hfree : s.mutex = none := (of_decide_eq_true haccepts).2.2.1
        cases h
        exact ⟨rfl, rfl, fun hheld => absurd hfree hheld⟩
      · cases h
        exact ⟨rfl, rfl, fun _ => ⟨.refl _, (UInt64.add_zero _).symm⟩⟩
    · cases h
      exact ⟨rfl, rfl, fun _ => ⟨.refl _, (UInt64.add_zero _).symm⟩⟩
    · cases h
  | countDrop thread =>
    simp only [stepLive, stepCountDrop] at h
    split at h
    · cases h
      exact ⟨rfl, rfl, fun _ => ⟨⟨rfl, rfl, rfl, rfl⟩, rfl⟩⟩
    · cases h
  | dequeue =>
    simp only [stepLive, stepDequeue] at h
    repeat' split at h
    · cases h
    · cases h
      exact ⟨rfl, rfl, fun _ => ⟨⟨rfl, rfl, rfl, rfl⟩, (UInt64.add_zero _).symm⟩⟩
    · cases h
    · next hfree _ =>
      simp only [Option.bind_eq_bind, Option.bind_eq_some_iff] at h
      obtain ⟨⟨record, queue⟩, -, h⟩ := h
      cases h
      exact ⟨rfl, rfl, fun hheld => absurd hheld hfree⟩
    · cases h
  | markFailed thread | writeCsv outcome | writeJsonl outcome | account now
  | writePrometheus outcome | accountPrometheus | clearBusy | waitIdle givesUp
  | setRuntimeCounters e c r | stop | join | closeCsv outcome | accountCsv | closeJsonl outcome
  | accountJsonl | composeFinal now | writeFinal outcome | checkDropped | checkFailed =>
    simp only [stepLive, stepMarkFailed, stepWriteCsv, stepWriteJsonl, stepAccount,
      stepWritePrometheus, stepAccountPrometheus, stepClearBusy, stepWaitIdle,
      stepSetRuntimeCounters, stepStop, stepJoin, stepCloseCsv, stepAccountCsv, stepCloseJsonl,
      stepAccountJsonl, stepComposeFinal, stepWriteFinal, stepCheckDropped, stepCheckFailed] at h
    repeat' split at h
    all_goals
      first
      | cases h
        exact ⟨rfl, rfl, fun _ => ⟨⟨rfl, rfl, rfl, rfl⟩, (UInt64.add_zero _).symm⟩⟩
      | cases h
        exact ⟨rfl, rfl, fun hheld => absurd hheld ‹_›⟩
      | cases h

/-! ### The invariant of a snapshot under way -/

/-- The loads behind the lock agree with the pipeline. -/
structure Loaded (loaded : OutputPipelineSnapshot) (pipeline : OutputPipeline) : Prop where
  csv : loaded.csvEnabled = pipeline.csvEnabled
  jsonl : loaded.jsonlEnabled = pipeline.jsonlEnabled
  accepted : loaded.recordsAccepted = pipeline.recordsAccepted

theorem Loaded.still {loaded : OutputPipelineSnapshot} {p q : OutputPipeline}
    (h : Loaded loaded p) (hstill : Still p q) : Loaded loaded q where
  csv := h.csv.trans hstill.csv.symm
  jsonl := h.jsonl.trans hstill.jsonl.symm
  accepted := h.accepted.trans hstill.accepted.symm

/-- What one thread's snapshot has read so far, when `drops` drops were counted since its load of
the drop counter. -/
structure SnapshotInv (thread : ThreadId) (drops : ℕ) (s : System) : Prop where
  holder : ∀ t, s.snapshots t ≠ .idle → s.mutex = some t
  loadDropped : ∀ loaded, s.snapshots thread = .loadDropped loaded → Loaded loaded s.pipeline
  compose : ∀ loaded, s.snapshots thread = .compose loaded → Loaded loaded s.pipeline ∧
    loaded.queueDepth = UInt64.ofNat s.pipeline.queue.count ∧
    s.pipeline.recordsDropped = loaded.recordsDropped + UInt64.ofNat drops

variable {thread : ThreadId} {drops : ℕ}

theorem SnapshotInv.start (pipeline : OutputPipeline) :
    SnapshotInv thread 0 (System.start pipeline) where
  holder _ h := absurd rfl h
  loadDropped _ h := by simp [System.start] at h
  compose _ h := by simp [System.start] at h

/-- Without a snapshot under way there is nothing to show. -/
theorem SnapshotInv.of_idle (h : ∀ t, s.snapshots t = .idle) : SnapshotInv thread drops s where
  holder t ht := absurd (h t) ht
  loadDropped _ ht := by simp [h thread] at ht
  compose _ ht := by simp [h thread] at ht

theorem SnapshotInv.idle (hi : SnapshotInv thread drops s) (hnone : s.mutex = none) (t : ThreadId) :
    s.snapshots t = .idle := by
  by_contra hne
  simpa [hnone] using hi.holder t hne

theorem countAfterLoad_other (hother : a.ofSnapshot = false) :
    countAfterLoad thread drops a = drops + if a.countsDrop then 1 else 0 := by
  cases a <;> simp_all [countAfterLoad, Action.ofSnapshot, Action.countsDrop]

theorem SnapshotInv.other (hi : SnapshotInv thread drops s)
    (h : pipelineMachine s a = some (s', es)) (hother : a.ofSnapshot = false) :
    SnapshotInv thread (countAfterLoad thread drops a) s' := by
  obtain ⟨hmutex, hsnapshots, hstill⟩ := still_of_other h hother
  by_cases hfree : s.mutex = none
  · exact .of_idle fun t => by rw [hsnapshots, hi.idle hfree t]
  obtain ⟨hstill, hdropped⟩ := hstill hfree
  constructor
  · intro t ht
    rw [hmutex]
    exact hi.holder t (by rwa [← hsnapshots])
  · intro loaded ht
    exact (hi.loadDropped loaded (by rwa [← hsnapshots])).still hstill
  · intro loaded ht
    obtain ⟨hloaded, hdepth, hcounted⟩ := hi.compose loaded (by rwa [← hsnapshots])
    refine ⟨hloaded.still hstill, by rw [hdepth, hstill.count], ?_⟩
    rw [hdropped, hcounted, countAfterLoad_other hother]
    split <;> simp [UInt64.add_assoc]

theorem SnapshotInv.step (hi : SnapshotInv thread drops s)
    (h : pipelineMachine s a = some (s', es)) :
    SnapshotInv thread (countAfterLoad thread drops a) s' := by
  by_cases hother : a.ofSnapshot = false
  · exact hi.other h hother
  unfold pipelineMachine at h
  split at h
  · simp at h
  cases a with
  | snapshotLock t =>
    simp only [stepLive, stepSnapshotLock] at h
    split at h
    · split at h
      · cases h
      · next hfree =>
        cases h
        have hidle := hi.idle (not_not.mp hfree)
        constructor
        · intro other hother
          by_cases heq : other = t
          · rw [heq]
            rfl
          · simp [System.setSnapshot, Function.update_of_ne heq, hidle] at hother
        · intro loaded hloaded
          by_cases heq : thread = t
          · subst heq
            simp only [System.setSnapshot, Function.update_self, SnapshotPc.loadDropped.injEq]
              at hloaded
            exact hloaded ▸ ⟨rfl, rfl, rfl⟩
          · simp [System.setSnapshot, Function.update_of_ne heq, hidle] at hloaded
        · intro loaded hloaded
          by_cases heq : thread = t
          · simp [System.setSnapshot, heq] at hloaded
          · simp [System.setSnapshot, Function.update_of_ne heq, hidle] at hloaded
    · cases h
  | snapshotDropped t =>
    simp only [stepLive, stepSnapshotDropped] at h
    split at h
    · next loaded hpc =>
      cases h
      have hheld : s.mutex = some t := hi.holder t (by simp [hpc])
      constructor
      · intro other hother
        by_cases heq : other = t
        · exact heq ▸ hheld
        · exact hi.holder other (by simpa [System.setSnapshot, Function.update_of_ne heq] using hother)
      · intro loaded' hloaded
        by_cases heq : thread = t
        · simp [System.setSnapshot, heq] at hloaded
        · exact hi.loadDropped loaded'
            (by simpa [System.setSnapshot, Function.update_of_ne heq] using hloaded)
      · intro loaded' hloaded
        by_cases heq : thread = t
        · subst heq
          simp only [System.setSnapshot, Function.update_self, SnapshotPc.compose.injEq] at hloaded
          subst hloaded
          obtain ⟨hcsv, hjsonl, haccepted⟩ := hi.loadDropped loaded hpc
          exact ⟨⟨hcsv, hjsonl, haccepted⟩, rfl, by simp [countAfterLoad, System.setSnapshot]⟩
        · simp only [System.setSnapshot, Function.update_of_ne heq] at hloaded
          have hother := hi.holder thread (by simp [hloaded])
          exact absurd (Option.some.inj (hother.symm.trans hheld)) heq
    · cases h
  | snapshotCompose t now =>
    simp only [stepLive, stepSnapshotCompose] at h
    split at h
    · next loaded hpc =>
      cases h
      have hheld : s.mutex = some t := hi.holder t (by simp [hpc])
      refine .of_idle fun other => ?_
      by_cases heq : other = t
      · simp [System.setSnapshot, heq]
      · simp only [System.setSnapshot, Function.update_of_ne heq]
        by_contra hne
        exact heq (Option.some.inj ((hi.holder other hne).symm.trans hheld))
    · cases h
  | _ => exact absurd rfl hother

/-! ### Returned snapshots -/

/-- The drops between the two loads do not show: there are none in the width of the counter, or
their number makes up for the record that the worker holds. -/
def DropsHidden (drops : ℕ) (worker : WorkerPc) : Prop :=
  UInt64.ofNat drops = 0 ∨
    (worker.unaccounted ≠ [] ∧ UInt64.ofNat drops = 1) ∨
    (worker.unaccounted = [] ∧ UInt64.ofNat drops + 1 = 0)

theorem dropsHidden_iff (worker : WorkerPc) : DropsHidden drops worker ↔
    ∃ processing ≤ (1 : UInt64), processing + UInt64.ofNat drops =
      UInt64.ofNat worker.unaccounted.length := by
  have hcases (p : UInt64) : p ≤ 1 ↔ p = 0 ∨ p = 1 := by
    rw [UInt64.le_iff_toNat_le, ← UInt64.toNat_inj, ← UInt64.toNat_inj]
    simp
    omega
  simp only [DropsHidden, hcases, exists_eq_or_imp, exists_eq_left, UInt64.zero_add]
  cases hlist : worker.unaccounted with
  | nil => simp [UInt64.add_comm]
  | cons record rest =>
    have hone := length_unaccounted_le worker
    rw [hlist] at hone
    have hnil : rest = [] := by simpa using hone
    subst hnil
    simp
    grind

theorem backendEnabled_of_run {pipeline : OutputPipeline} {tr : List Event}
    (h : Machine.Run pipelineMachine (System.start pipeline) tr s) (backend : OutputBackend) :
    backendEnabled s.pipeline backend = backendEnabled pipeline backend := by
  induction h with
  | start => rfl
  | step _ hs ih => exact ((accountStep hs).enabled backend).trans ih

theorem snapshotCompose_eq_some {now : UInt64} {snapshot : OutputPipelineSnapshot}
    (h : pipelineMachine s (.snapshotCompose thread now) =
      some (s', [.snapshotReturned thread snapshot])) :
    ∃ loaded, s.snapshots thread = .compose loaded ∧ snapshot = { loaded with
      prometheus := composeSnapshotLocked s.pipeline s.pipeline.recordsDropped now } := by
  unfold pipelineMachine at h
  split at h
  · simp at h
  simp only [stepLive, stepSnapshotCompose] at h
  split at h
  · next loaded hpc =>
    obtain ⟨-, hevents⟩ := Prod.mk.inj (Option.some.inj h)
    obtain ⟨-, hsnapshot⟩ := Event.snapshotReturned.inj (List.cons.inj hevents).1
    exact ⟨loaded, hpc, hsnapshot.symm⟩
  · cases h

variable {config : Option OutputPipelineConfig} {outcome : CreateOutcome}
  {pipeline : OutputPipeline}

/-- A snapshot that is returned is consistent if and only if no file backend is on or the drops
counted between its two loads of the drop counter do not show. -/
theorem snapshot_consistent_iff
    (hc : outputPipelineCreate config outcome = .ok (some pipeline)) {script : List Action}
    {tr : List Event} (h : Machine.exec pipelineMachine (System.start pipeline) script = some (tr, s))
    {now : UInt64} {snapshot : OutputPipelineSnapshot}
    (hret : pipelineMachine s (.snapshotCompose thread now) =
      some (s', [.snapshotReturned thread snapshot])) :
    snapshot.Consistent ↔
      (pipeline.csvEnabled = false ∧ pipeline.jsonlEnabled = false) ∨
        DropsHidden (dropsSinceLoad thread script) s.worker := by
  have hrun := Machine.run_of_exec h
  have haccount := AccountInv.of_run hc hrun
  have hqueue := QueueInv.of_run hc hrun
  have hinv : SnapshotInv thread (dropsSinceLoad thread script) s := by
    refine Machine.exec_invariant
      (I := fun script s => SnapshotInv thread (dropsSinceLoad thread script) s)
      (SnapshotInv.start pipeline) (fun hi hs => ?_) h
    rw [dropsSinceLoad_concat]
    exact hi.step hs
  obtain ⟨loaded, hpc, rfl⟩ := snapshotCompose_eq_some hret
  obtain ⟨hloaded, hdepth, hdropped⟩ := hinv.compose loaded hpc
  have hlength := congrArg (fun records => UInt64.ofNat records.length)
    (hqueue.order.symm.trans (by rw [haccount.order]))
  simp only [List.length_append, UInt64.ofNat_add, Ring.length_contents] at hlength
  have hbackend (backend : OutputBackend) (hfile : backend = .csv ∨ backend = .jsonl)
      (hon : backendEnabled s.pipeline backend = true) (processing : UInt64) :
      recordTotal (composeSnapshotLocked s.pipeline s.pipeline.recordsDropped now) backend =
          loaded.recordsAccepted + loaded.recordsDropped - loaded.queueDepth - processing ↔
        processing + UInt64.ofNat (dropsSinceLoad thread script) =
          UInt64.ofNat s.worker.unaccounted.length := by
    rw [composeSnapshotLocked_total, if_pos hon, haccount.files backend hfile hon, hdropped, hdepth,
      hloaded.accepted, haccount.accepted, hlength]
    constructor
    · intro heq
      grind
    · intro heq
      grind
  have hshows (backend : OutputBackend) : loaded.shows backend = true ↔
      (backend = .csv ∨ backend = .jsonl) ∧ backendEnabled s.pipeline backend = true := by
    cases backend <;>
      simp [OutputPipelineSnapshot.shows, backendEnabled, hloaded.csv, hloaded.jsonl]
  have hcsv : s.pipeline.csvEnabled = pipeline.csvEnabled := backendEnabled_of_run hrun .csv
  have hjsonl : s.pipeline.jsonlEnabled = pipeline.jsonlEnabled := backendEnabled_of_run hrun .jsonl
  rw [dropsHidden_iff]
  constructor
  · intro hconsistent
    by_cases hoff : pipeline.csvEnabled = false ∧ pipeline.jsonlEnabled = false
    · exact .inl hoff
    obtain ⟨backend, hshown⟩ : ∃ backend, loaded.shows backend = true := by
      rw [← hcsv, ← hjsonl, ← hloaded.csv, ← hloaded.jsonl] at hoff
      by_cases hon : loaded.csvEnabled = true
      · exact ⟨.csv, hon⟩
      · exact ⟨.jsonl, by simpa [OutputPipelineSnapshot.shows, hon] using hoff⟩
    obtain ⟨processing, hle, htotal⟩ := hconsistent backend hshown
    obtain ⟨hfile, hon⟩ := (hshows backend).mp hshown
    exact .inr ⟨processing, hle, (hbackend backend hfile hon processing).mp htotal⟩
  · rintro (⟨hcsvOff, hjsonlOff⟩ | ⟨processing, hle, hsum⟩) backend hshown
    · obtain ⟨hfile, hon⟩ := (hshows backend).mp hshown
      rcases hfile with rfl | rfl
      · simp [backendEnabled, hcsv, hcsvOff] at hon
      · simp [backendEnabled, hjsonl, hjsonlOff] at hon
    · obtain ⟨hfile, hon⟩ := (hshows backend).mp hshown
      exact ⟨processing, hle, (hbackend backend hfile hon processing).mpr hsum⟩

/-- A snapshot with a record in the queue and none dropped between its loads. -/
def undisturbedScript : List Action :=
  [.submit 1 (some diagnosticSample) false, .snapshotLock 0, .snapshotDropped 0]

/-- While the snapshot holds the mutex, a submitter finds it taken and counts a drop. -/
def contendedScript : List Action :=
  [.snapshotLock 0, .snapshotDropped 0, .submit 1 (some diagnosticSample) false, .countDrop 1]

theorem snapshot_consistent_iff_sample : ∃ tr s s' snapshot,
    Machine.exec pipelineMachine (System.start jsonlPipeline) undisturbedScript = some (tr, s) ∧
    pipelineMachine s (.snapshotCompose 0 9) = some (s', [.snapshotReturned 0 snapshot]) ∧
    snapshot.Consistent := by
  have hcreate : outputPipelineCreate (some jsonlConfig) allSucceed = .ok (some jsonlPipeline) :=
    rfl
  have hruns : (Machine.exec pipelineMachine (System.start jsonlPipeline)
      (undisturbedScript ++ [.snapshotCompose 0 9])).isSome = true := by decide +kernel
  obtain ⟨⟨tr, s'⟩, hexec⟩ := Option.isSome_iff_exists.mp hruns
  obtain ⟨before, s, es, hbefore, hlast, -⟩ := Machine.exec_concat.mp hexec
  obtain ⟨loaded, rfl⟩ := snapshotCompose_returns hlast
  exact ⟨before, s, s', _, hbefore, hlast,
    (snapshot_consistent_iff hcreate hbefore hlast).mpr (.inr (.inl rfl))⟩

def Event.returned? : Event → Option OutputPipelineSnapshot
  | .snapshotReturned _ snapshot => some snapshot
  | _ => none

/-- The drop that a submitter counts because of the snapshot itself shows in the counters of the
backend and not in the number of dropped records. -/
theorem snapshot_disagrees : ¬ ∀ (config : Option OutputPipelineConfig) (outcome : CreateOutcome)
    (pipeline : OutputPipeline), outputPipelineCreate config outcome = .ok (some pipeline) →
    ∀ (script : List Action) (tr : List Event) (s : System),
      Machine.exec pipelineMachine (System.start pipeline) script = some (tr, s) →
    ∀ (thread : ThreadId) (now : UInt64) (s' : System) (snapshot : OutputPipelineSnapshot),
      pipelineMachine s (.snapshotCompose thread now) =
        some (s', [.snapshotReturned thread snapshot]) →
      snapshot.Consistent := by
  intro hall
  have heval : (Machine.exec pipelineMachine (System.start jsonlPipeline)
      (contendedScript ++ [.snapshotCompose 0 9])).map (fun r =>
        (r.1.filterMap Event.returned?).map fun snapshot =>
          (snapshot.jsonlEnabled, recordTotal snapshot.prometheus .jsonl,
            snapshot.recordsAccepted, snapshot.recordsDropped, snapshot.queueDepth)) =
      some [(true, 1, 0, 0, 0)] := by decide +kernel
  obtain ⟨⟨tr, s'⟩, hexec, hvalues⟩ := Option.map_eq_some_iff.mp heval
  obtain ⟨before, s, es, hbefore, hlast, rfl⟩ := Machine.exec_concat.mp hexec
  obtain ⟨loaded, rfl⟩ := snapshotCompose_returns hlast
  have hconsistent := hall (some jsonlConfig) allSucceed jsonlPipeline rfl contendedScript before s
    hbefore 0 9 s' _ hlast
  simp only [List.filterMap_append, List.map_append, List.filterMap_cons, Event.returned?,
    List.filterMap_nil, List.map_cons, List.map_nil] at hvalues
  obtain ⟨-, hvalues⟩ := List.append_inj' (hvalues.trans (List.nil_append _).symm) rfl
  simp only [List.cons.injEq, Prod.mk.injEq, and_true] at hvalues
  obtain ⟨hon, htotal, haccepted, hdropped, hdepth⟩ := hvalues
  obtain ⟨processing, hle, heq⟩ := hconsistent .jsonl hon
  simp only [htotal, haccepted, hdropped, hdepth] at heq
  have hmax : processing = 18446744073709551615 := by grind
  rw [hmax] at hle
  exact absurd hle (by decide)

end TcdOran.Collector
