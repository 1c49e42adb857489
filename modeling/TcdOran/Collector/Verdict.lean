import TcdOran.Collector.MainLifecycle

/-! The verdict line of `main` against its exit code. The line is printed before the output
pipeline is shut down, the exit code is chosen behind it. -/
namespace TcdOran.Collector
open TcdOran.Lib

/-! ### A pipeline in which nothing goes wrong -/

/-- No `try_submit` is under way. -/
def System.SubmittersIdle (s : System) : Prop := ∀ thread, s.submitters thread = .idle

/-- The shutdown has met no failure so far. -/
def ShutdownPc.Unharmed : ShutdownPc → Prop
  | .accountCsv result => result = .ok
  | .accountJsonl result success => result = .ok ∧ success = true
  | .closeJsonl success | .compose success | .writePrometheus _ success | .checkDropped success
  | .checkFailed success | .returned success => success = true
  | _ => True

/-- Nothing was dropped, nothing has failed and no failure waits for its accounting. -/
structure Unharmed (s : System) : Prop where
  dropped : s.pipeline.recordsDropped = 0
  failed : s.pipeline.failed = false
  worker : s.worker.ResultsOk s.pipeline.csvEnabled s.pipeline.jsonlEnabled
  shutdown : s.shutdown.Unharmed

/-- The converse of `SystemOk`: a clean trace leaves nothing behind, but for the calls that have
not returned. -/
def UnharmedInv (tr : List Event) (s : System) : Prop :=
  Clean tr → s.SubmittersIdle → Unharmed s

section
variable {tr es : List Event} {s s' : System} {a : Action}

theorem UnharmedInv.frame (hi : UnharmedInv tr s) (hsub : s'.submitters = s.submitters)
    (hu : Clean es → Unharmed s → Unharmed s') : UnharmedInv (tr ++ es) s' := by
  intro hclean hidle
  obtain ⟨htr, hes⟩ := clean_append.mp hclean
  exact hu hes (hi htr fun thread => hsub ▸ hidle thread)

/-- A submit that rejects its record is under way until it returns false. -/
theorem unharmedInv_submit {thread : ThreadId} {record : Option CanonicalRecord}
    {contended : Bool} (hi : UnharmedInv tr s)
    (h : stepSubmit s thread record contended = some (s', es)) : UnharmedInv (tr ++ es) s' := by
  have hbusy {t : System} {pc : SubmitPc} (hpc : pc ≠ .idle) (ht : s' = t.setSubmitter thread pc) :
      ¬ s'.SubmittersIdle := by
    intro hidle
    have hthread := hidle thread
    rw [ht] at hthread
    exact hpc (by simpa [System.setSubmitter] using hthread)
  unfold stepSubmit at h
  split at h
  · split at h
    · obtain ⟨rfl, rfl⟩ := Prod.mk.inj (Option.some.inj h)
      exact hi.frame rfl fun _ hu => ⟨hu.dropped, hu.failed, hu.worker, hu.shutdown⟩
    · obtain ⟨rfl, rfl⟩ := Prod.mk.inj (Option.some.inj h)
      exact fun _ hidle => absurd hidle (hbusy (by simp) rfl)
  · obtain ⟨rfl, rfl⟩ := Prod.mk.inj (Option.some.inj h)
    exact fun _ hidle => absurd hidle (hbusy (by simp) rfl)
  · cases h

theorem unharmedInv_countDrop {thread : ThreadId} (h : stepCountDrop s thread = some (s', es)) :
    UnharmedInv (tr ++ es) s' := by
  unfold stepCountDrop at h
  split at h
  · obtain ⟨rfl, rfl⟩ := Prod.mk.inj (Option.some.inj h)
    intro _ hidle
    have hthread := hidle thread
    simp [System.setSubmitter] at hthread
  · cases h

theorem unharmedInv_markFailed {thread : ThreadId} (h : stepMarkFailed s thread = some (s', es)) :
    UnharmedInv (tr ++ es) s' := by
  unfold stepMarkFailed at h
  split at h
  · obtain ⟨rfl, rfl⟩ := Prod.mk.inj (Option.some.inj h)
    intro hclean
    have hreturn := clean_singleton.mp (clean_append.mp hclean).2
    cases hreturn
  · cases h

/-! ### The worker -/

theorem unharmedInv_dequeue (hi : UnharmedInv tr s) (h : stepDequeue s = some (s', es)) :
    UnharmedInv (tr ++ es) s' := by
  unfold stepDequeue at h
  split at h
  · split at h
    · cases h
    split at h
    · split at h
      · obtain ⟨rfl, rfl⟩ := Prod.mk.inj (Option.some.inj h)
        exact hi.frame rfl fun _ hu => ⟨hu.dropped, hu.failed, trivial, hu.shutdown⟩
      · cases h
    · simp only [Option.bind_eq_bind, Option.bind_eq_some_iff] at h
      obtain ⟨⟨record, queue⟩, -, h⟩ := h
      obtain ⟨rfl, rfl⟩ := Prod.mk.inj (Option.some.inj h)
      exact hi.frame rfl fun _ hu => ⟨hu.dropped, hu.failed, trivial, hu.shutdown⟩
  · cases h

theorem unharmedInv_writeCsv {outcome : WriteOutcome} (hi : UnharmedInv tr s)
    (h : stepWriteCsv s outcome = some (s', es)) : UnharmedInv (tr ++ es) s' := by
  unfold stepWriteCsv at h
  split at h
  · split at h
    · obtain ⟨rfl, rfl⟩ := Prod.mk.inj (Option.some.inj h)
      exact hi.frame rfl fun hes hu =>
        ⟨hu.dropped, hu.failed, fun _ => (clean_singleton.mp hes).1, hu.shutdown⟩
    · obtain ⟨rfl, rfl⟩ := Prod.mk.inj (Option.some.inj h)
      exact hi.frame rfl fun _ hu => ⟨hu.dropped, hu.failed, fun _ => rfl, hu.shutdown⟩
  · cases h

theorem unharmedInv_writeJsonl {outcome : WriteOutcome} (hi : UnharmedInv tr s)
    (h : stepWriteJsonl s outcome = some (s', es)) : UnharmedInv (tr ++ es) s' := by
  unfold stepWriteJsonl at h
  split at h
  · next record csvResult hpc =>
    have hcsv (hu : Unharmed s) : s.pipeline.csvEnabled = true → csvResult = .ok := by
      have hworker := hu.worker
      rwa [hpc] at hworker
    split at h
    · obtain ⟨rfl, rfl⟩ := Prod.mk.inj (Option.some.inj h)
      exact hi.frame rfl fun hes hu =>
        ⟨hu.dropped, hu.failed, ⟨hcsv hu, fun _ => (clean_singleton.mp hes).1⟩, hu.shutdown⟩
    · obtain ⟨rfl, rfl⟩ := Prod.mk.inj (Option.some.inj h)
      exact hi.frame rfl fun _ hu =>
        ⟨hu.dropped, hu.failed, ⟨hcsv hu, fun _ => rfl⟩, hu.shutdown⟩
  · cases h

theorem unharmedInv_account {now : UInt64} (hi : UnharmedInv tr s)
    (h : stepAccount s now = some (s', es)) : UnharmedInv (tr ++ es) s' := by
  unfold stepAccount at h
  split at h
  · next record csvResult jsonlResult hpc =>
    have hdropped : (accountResults s.pipeline record csvResult jsonlResult).recordsDropped =
        s.pipeline.recordsDropped := by
      rw [onlyAccounts_results s.pipeline record csvResult jsonlResult]
    have hfailed (hu : Unharmed s) :
        (accountResults s.pipeline record csvResult jsonlResult).failed = false := by
      have hworker := hu.worker
      rw [hpc] at hworker
      exact (accountResults_failed _ _ _ _).mpr ⟨hu.failed, hworker⟩
    split at h
    · cases h
    simp only at h
    split at h
    · obtain ⟨rfl, rfl⟩ := Prod.mk.inj (Option.some.inj h)
      exact hi.frame rfl fun _ hu => ⟨hdropped.trans hu.dropped, hfailed hu, trivial, hu.shutdown⟩
    · obtain ⟨rfl, rfl⟩ := Prod.mk.inj (Option.some.inj h)
      exact hi.frame rfl fun _ hu => ⟨hdropped.trans hu.dropped, hfailed hu, trivial, hu.shutdown⟩
  · cases h

theorem unharmedInv_prometheus {outcome : PrometheusOutcome} (hi : UnharmedInv tr s)
    (h : stepWritePrometheus s outcome = some (s', es)) : UnharmedInv (tr ++ es) s' := by
  unfold stepWritePrometheus at h
  split at h
  · obtain ⟨rfl, rfl⟩ := Prod.mk.inj (Option.some.inj h)
    exact hi.frame rfl fun hes hu =>
      ⟨hu.dropped, hu.failed, clean_singleton.mp hes, hu.shutdown⟩
  · cases h

theorem unharmedInv_accountPrometheus (hi : UnharmedInv tr s)
    (h : stepAccountPrometheus s = some (s', es)) : UnharmedInv (tr ++ es) s' := by
  unfold stepAccountPrometheus at h
  split at h
  · next record outcome hpc =>
    split at h
    · cases h
    obtain ⟨rfl, rfl⟩ := Prod.mk.inj (Option.some.inj h)
    refine hi.frame rfl fun _ hu => ?_
    have hworker := hu.worker
    rw [hpc] at hworker
    obtain rfl : outcome = .ok := hworker
    exact ⟨hu.dropped, hu.failed, trivial, hu.shutdown⟩
  · cases h

/-! ### The shutdown -/

/-- A step of the shutdown that leaves the worker and the counter of drops alone. -/
theorem UnharmedInv.teardown (hi : UnharmedInv tr s) (hsub : s'.submitters = s.submitters)
    (hworker : s'.worker = s.worker) (hsame : OnlyAccounts s.pipeline s'.pipeline)
    (hok : Clean es → Unharmed s → s'.pipeline.failed = false ∧ s'.shutdown.Unharmed) :
    UnharmedInv (tr ++ es) s' := by
  refine hi.frame hsub fun hes hu => ?_
  obtain ⟨hfailed, hshutdown⟩ := hok hes hu
  refine ⟨?_, hfailed, ?_, hshutdown⟩
  · rw [hsame]
    exact hu.dropped
  · rw [hworker, hsame]
    exact hu.worker

theorem unharmedInv_closeCsv {outcome : CloseOutcome} (hi : UnharmedInv tr s)
    (h : stepCloseCsv s outcome = some (s', es)) : UnharmedInv (tr ++ es) s' := by
  unfold stepCloseCsv at h
  split at h
  · split at h
    · obtain ⟨rfl, rfl⟩ := Prod.mk.inj (Option.some.inj h)
      exact hi.frame rfl fun hes hu =>
        ⟨hu.dropped, hu.failed, hu.worker, (clean_singleton.mp hes).1⟩
    · obtain ⟨rfl, rfl⟩ := Prod.mk.inj (Option.some.inj h)
      exact hi.frame rfl fun _ hu => ⟨hu.dropped, hu.failed, hu.worker, rfl⟩
  · cases h

theorem unharmedInv_closeJsonl {outcome : CloseOutcome} (hi : UnharmedInv tr s)
    (h : stepCloseJsonl s outcome = some (s', es)) : UnharmedInv (tr ++ es) s' := by
  unfold stepCloseJsonl at h
  split at h
  · next success hpc =>
    have hsuccess (hu : Unharmed s) : success = true := by
      have hshutdown := hu.shutdown
      rwa [hpc] at hshutdown
    split at h
    · obtain ⟨rfl, rfl⟩ := Prod.mk.inj (Option.some.inj h)
      exact hi.frame rfl fun hes hu =>
        ⟨hu.dropped, hu.failed, hu.worker, (clean_singleton.mp hes).1, hsuccess hu⟩
    · obtain ⟨rfl, rfl⟩ := Prod.mk.inj (Option.some.inj h)
      exact hi.frame rfl fun _ hu => ⟨hu.dropped, hu.failed, hu.worker, hsuccess hu⟩
  · cases h

theorem unharmedInv_accountCsv (hi : UnharmedInv tr s) (h : stepAccountCsv s = some (s', es)) :
    UnharmedInv (tr ++ es) s' := by
  unfold stepAccountCsv at h
  split at h
  · next result hpc =>
    split at h
    · cases h
    obtain ⟨rfl, rfl⟩ := Prod.mk.inj (Option.some.inj h)
    refine hi.teardown rfl rfl (onlyAccounts_close s.pipeline .csv result) fun _ hu => ?_
    have hshutdown := hu.shutdown
    rw [hpc] at hshutdown
    obtain rfl : result = .ok := hshutdown
    exact ⟨(accountClose_failed _ _ _).mpr ⟨hu.failed, rfl⟩, rfl⟩
  · cases h

theorem unharmedInv_accountJsonl (hi : UnharmedInv tr s)
    (h : stepAccountJsonl s = some (s', es)) : UnharmedInv (tr ++ es) s' := by
  unfold stepAccountJsonl at h
  split at h
  · next result success hpc =>
    split at h
    · cases h
    obtain ⟨rfl, rfl⟩ := Prod.mk.inj (Option.some.inj h)
    refine hi.teardown rfl rfl (onlyAccounts_close s.pipeline .jsonl result) fun _ hu => ?_
    have hshutdown := hu.shutdown
    rw [hpc] at hshutdown
    obtain ⟨rfl, rfl⟩ : result = .ok ∧ success = true := hshutdown
    exact ⟨(accountClose_failed _ _ _).mpr ⟨hu.failed, rfl⟩, rfl⟩
  · cases h

theorem unharmedInv_writeFinal {outcome : PrometheusOutcome} (hi : UnharmedInv tr s)
    (h : stepWriteFinal s outcome = some (s', es)) : UnharmedInv (tr ++ es) s' := by
  unfold stepWriteFinal at h
  split at h
  · next snapshot success hpc =>
    have hsuccess (hu : Unharmed s) : success = true := by
      have hshutdown := hu.shutdown
      rwa [hpc] at hshutdown
    split at h
    · split at h
      · obtain ⟨rfl, rfl⟩ := Prod.mk.inj (Option.some.inj h)
        exact hi.frame rfl fun _ hu => ⟨hu.dropped, hu.failed, hu.worker, hsuccess hu⟩
      · next hbad =>
        obtain ⟨rfl, rfl⟩ := Prod.mk.inj (Option.some.inj h)
        exact hi.frame rfl fun hes => absurd (clean_singleton.mp hes) hbad
    · obtain ⟨rfl, rfl⟩ := Prod.mk.inj (Option.some.inj h)
      exact hi.frame rfl fun _ hu => ⟨hu.dropped, hu.failed, hu.worker, hsuccess hu⟩
  · cases h

/-- The two last loads find no drop and no failure. -/
theorem unharmedInv_check (hi : UnharmedInv tr s)
    (h : stepCheckDropped s = some (s', es) ∨ stepCheckFailed s = some (s', es)) :
    UnharmedInv (tr ++ es) s' := by
  rcases h with h | h
  · unfold stepCheckDropped at h
    split at h
    · next success hpc =>
      obtain ⟨rfl, rfl⟩ := Prod.mk.inj (Option.some.inj h)
      refine hi.frame rfl fun _ hu => ?_
      have hshutdown := hu.shutdown
      rw [hpc] at hshutdown
      obtain rfl : success = true := hshutdown
      refine ⟨hu.dropped, hu.failed, hu.worker, ?_⟩
      simp [ShutdownPc.Unharmed, hu.dropped]
    · cases h
  · unfold stepCheckFailed at h
    split at h
    · next success hpc =>
      obtain ⟨rfl, rfl⟩ := Prod.mk.inj (Option.some.inj h)
      refine hi.frame rfl fun _ hu => ?_
      have hshutdown := hu.shutdown
      rw [hpc] at hshutdown
      obtain rfl : success = true := hshutdown
      refine ⟨hu.dropped, hu.failed, hu.worker, ?_⟩
      simp [ShutdownPc.Unharmed, hu.failed]
    · cases h

theorem UnharmedInv.step (hi : UnharmedInv tr s) (h : pipelineMachine s a = some (s', es)) :
    UnharmedInv (tr ++ es) s' := by
  unfold pipelineMachine at h
  split at h
  · cases h
  cases a with
  | submit thread record contended => exact unharmedInv_submit hi h
  | countDrop thread => exact unharmedInv_countDrop h
  | markFailed thread => exact unharmedInv_markFailed h
  | dequeue => exact unharmedInv_dequeue hi h
  | writeCsv outcome => exact unharmedInv_writeCsv hi h
  | writeJsonl outcome => exact unharmedInv_writeJsonl hi h
  | account now => exact unharmedInv_account hi h
  | writePrometheus outcome => exact unharmedInv_prometheus hi h
  | accountPrometheus => exact unharmedInv_accountPrometheus hi h
  | closeCsv outcome => exact unharmedInv_closeCsv hi h
  | accountCsv => exact unharmedInv_accountCsv hi h
  | closeJsonl outcome => exact unharmedInv_closeJsonl hi h
  | accountJsonl => exact unharmedInv_accountJsonl hi h
  | writeFinal outcome => exact unharmedInv_writeFinal hi h
  | checkDropped => exact unharmedInv_check hi (.inl h)
  | checkFailed => exact unharmedInv_check hi (.inr h)
  | composeFinal now =>
    simp only [stepLive, stepComposeFinal] at h
    split at h
    · next success hpc =>
      split at h
      · cases h
      obtain ⟨rfl, rfl⟩ := Prod.mk.inj (Option.some.inj h)
      refine hi.frame rfl fun _ hu => ?_
      have hshutdown := hu.shutdown
      rw [hpc] at hshutdown
      exact ⟨hu.dropped, hu.failed, hu.worker, hshutdown⟩
    · cases h
  | clearBusy | waitIdle | setRuntimeCounters | snapshotLock | snapshotDropped | snapshotCompose
  | stop | join =>
    simp only [stepLive, stepClearBusy, stepWaitIdle, stepSetRuntimeCounters, stepSnapshotLock,
      stepSnapshotDropped, stepSnapshotCompose, stepStop, stepJoin] at h
    repeat' split at h
    all_goals
      first
      | obtain ⟨rfl, rfl⟩ := Prod.mk.inj (Option.some.inj h)
        exact hi.frame rfl fun _ hu => ⟨hu.dropped, hu.failed, by first | trivial | exact hu.worker,
          by first | trivial | exact hu.shutdown⟩
      | cases h

theorem UnharmedInv.of_run {config : Option OutputPipelineConfig} {outcome : CreateOutcome}
    {pipeline : OutputPipeline} (hc : outputPipelineCreate config outcome = .ok (some pipeline))
    (h : Machine.Run pipelineMachine (System.start pipeline) tr s) : UnharmedInv tr s := by
  refine h.invariant ?_ fun hi hs => UnharmedInv.step hi hs
  obtain ⟨c, -, -, -, hp⟩ := outputPipelineCreate_some hc
  intro _ _
  exact ⟨by rw [hp]; rfl, by rw [hp]; rfl, trivial, trivial⟩

/-- Where nothing is rejected and nothing fails the shutdown returns true. -/
theorem verdict_of_clean {config : Option OutputPipelineConfig} {outcome : CreateOutcome}
    {created : Option OutputPipeline} (hc : outputPipelineCreate config outcome = .ok created)
    {c : Option System} (h : Machine.Run clientMachine (created.map System.start) tr c)
    (hclean : Clean tr) (hidle : ∀ system ∈ c, system.SubmittersIdle) {success : Bool}
    (hret : .shutdownReturned success ∈ tr) : success = true := by
  cases created with
  | none =>
    obtain ⟨-, -, hall⟩ := clean_of_null h
    exact hall success hret
  | some pipeline =>
    obtain ⟨system, rfl, hrun⟩ := run_of_client h
    have hu := UnharmedInv.of_run hc hrun hclean (hidle system rfl)
    have hpc := (VerdictInv.of_run hrun success hret).1
    have hshutdown := hu.shutdown
    rwa [hpc] at hshutdown

end

/-! ### The verdict of `main` -/

/-- The verdict lines are those that go with the exit code. -/
def VerdictMatches (tr : List MainEvent) (code : ℕ) : Prop :=
  (true ∈ results tr ↔ code = 0) ∧ (false ∈ results tr ↔ code ≠ 0)

/-- No `try_submit` is under way on the pipeline of the context. -/
def MainState.SubmittersIdle (s : MainState) : Prop :=
  ∀ client, s.output = some client → ∀ system ∈ client, system.SubmittersIdle

variable {config : CollectorConfig} {s : MainState} {tr : List MainEvent} {code : ℕ}

theorem mem_of_exitCodes (h : code ∈ exitCodes tr) : .returned code ∈ tr := by
  obtain ⟨e, he, hcode⟩ := List.mem_filterMap.mp h
  cases e with
  | returned later =>
    rw [← Option.some.inj hcode]
    exact he
  | callFailed | subscribed | unsubscribed | contextDestroyed | collectorResult | pipeline =>
    cases hcode

theorem verdictMatches_of_failed (h : Machine.Run (mainMachine config) mainStart tr s)
    (hcode : .returned code ∈ tr) (hfailed : failedCalls tr ≠ []) : VerdictMatches tr code := by
  obtain ⟨-, hby⟩ := exitCode_of_run h hcode
  cases hby with
  | passed outputOk hnone _ _ => exact absurd hnone hfailed
  | failed _ hresults =>
    rw [VerdictMatches, hresults]
    decide

/-- The output pipeline and its verdict behind a run that returned. -/
theorem output_of_passed (h : Machine.Run (mainMachine config) mainStart tr s) {outputOk : Bool}
    (hshutdown : .shutdownReturned outputOk ∈ outputEvents tr) :
    (outputOk = true → Clean (outputEvents tr)) ∧
      (Clean (outputEvents tr) → s.SubmittersIdle → outputOk = true) := by
  have hi := OutputInv.of_run h
  cases houtput : s.output with
  | none =>
    rw [hi.closed houtput] at hshutdown
    cases hshutdown
  | some client =>
    obtain ⟨output, outcome, created, hcreate, hrun⟩ := hi.run client houtput
    obtain ⟨hcomplete, -⟩ := shutdown_complete hcreate hrun hshutdown
    refine ⟨fun hok => (hcomplete hok).1, fun hclean hidle => ?_⟩
    exact verdict_of_clean hcreate hrun hclean (hidle client houtput) hshutdown

/-- The verdict goes with the exit code where a call before the verdict line has failed, or
where no record was rejected, by a call that has returned or by one still under way, and no file
or Prometheus operation has failed. Behind the line PASS any of these is enough to part them. -/
theorem verdict_matches (h : Machine.Run (mainMachine config) mainStart tr s)
    (hcode : .returned code ∈ tr) :
    (failedCalls tr ≠ [] ∨ Clean (outputEvents tr) ∧ s.SubmittersIdle → VerdictMatches tr code) ∧
    (VerdictMatches tr code → failedCalls tr ≠ [] ∨ Clean (outputEvents tr)) := by
  obtain ⟨-, hby⟩ := exitCode_of_run h hcode
  cases hby with
  | failed hfailed _ =>
    exact ⟨fun _ => verdictMatches_of_failed h hcode hfailed, fun _ => .inl hfailed⟩
  | passed outputOk hnone hresults hshutdown =>
    obtain ⟨hclean, hok⟩ := output_of_passed h hshutdown
    constructor
    · rintro (hfailed | ⟨hquiet, hidle⟩)
      · exact absurd hnone hfailed
      · rw [hok hquiet hidle, VerdictMatches, hresults]
        decide
    · intro hmatches
      have hpass : true ∈ results tr := by
        rw [hresults]
        exact List.mem_singleton.mpr rfl
      have hzero := hmatches.1.mp hpass
      cases outputOk with
      | true => exact .inr (hclean rfl)
      | false => cases hzero

theorem verdict_matches_sample : ∃ tr s,
    Machine.exec (mainMachine unwrittenConfig) mainStart mainScript = some (tr, s) ∧
    (failedCalls tr ≠ [] ∨ Clean (outputEvents tr) ∧ s.SubmittersIdle → VerdictMatches tr 0) ∧
    (VerdictMatches tr 0 → failedCalls tr ≠ [] ∨ Clean (outputEvents tr)) := by
  have hcodes : (Machine.exec (mainMachine unwrittenConfig) mainStart mainScript).map
      (fun r => exitCodes r.1) = some [0] := by decide +kernel
  obtain ⟨⟨tr, s⟩, hexec, hone⟩ := Option.map_eq_some_iff.mp hcodes
  have hcode : .returned 0 ∈ tr := mem_of_exitCodes (hone ▸ List.mem_singleton.mpr rfl)
  exact ⟨tr, s, hexec, verdict_matches (Machine.run_of_exec hexec) hcode⟩

/-- The way of `mainScript` up to the shutdown, with a JSONL file whose last flush fails. -/
def lostOutputScript : List MainAction :=
  [.advance, .transition false, .transition false, .nodes true, .transition false, .call true,
    .transition false, .call true, .init true (some jsonlConfig) allSucceed, .advance,
    .report (some 7), .transition false, .clock (some 100), .poll 0 false true none,
    .transition false, .advance, .transition false, .advance, .call true, .transition false,
    .advance, .advance, .counters 0, .pipeline .stop, .pipeline .dequeue, .pipeline .join,
    .pipeline (.closeCsv ⟨true, true⟩), .pipeline (.closeJsonl ⟨false, true⟩),
    .pipeline .accountJsonl, .pipeline (.composeFinal 8), .pipeline (.writeFinal .ok),
    .pipeline .checkDropped, .pipeline .checkFailed, .advance]

/-- PASS is in the output of a process that exits with 1. -/
theorem lost_output_passes : ∃ tr s,
    Machine.exec (mainMachine unwrittenConfig) mainStart lostOutputScript = some (tr, s) ∧
    results tr = [true] ∧ exitCodes tr = [1] ∧ ¬ VerdictMatches tr 1 := by
  have hends : (Machine.exec (mainMachine unwrittenConfig) mainStart lostOutputScript).map
      (fun r => (results r.1, exitCodes r.1)) = some ([true], [1]) := by decide +kernel
  obtain ⟨⟨tr, s⟩, hexec, hboth⟩ := Option.map_eq_some_iff.mp hends
  obtain ⟨hresults, hcodes⟩ := Prod.mk.inj hboth
  refine ⟨tr, s, hexec, hresults, hcodes, fun hmatches => ?_⟩
  have hpass : true ∈ results tr := by
    rw [hresults]
    exact List.mem_singleton.mpr rfl
  exact absurd (hmatches.1.mp hpass) (by decide)

end TcdOran.Collector
