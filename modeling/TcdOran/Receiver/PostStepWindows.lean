import TcdOran.Receiver.FreshnessAgreement

/-! The windows that the evaluator reports behind a control, and the readbacks of that control and of
the next. -/
namespace TcdOran.Receiver
open TcdOran.Lib Python
open Timeline (ActuatorEvent loadActuatorTimeline loadPostT0 selectControl)

/-- The time of the readback of a control; the first control has number 1. -/
def appliedReadback (events : List ActuatorEvent) (control : ℕ) : Option ℤ :=
  events[3 * (control - 1) + 1]?.map (·.timestampUtcNs)

/-- The interval starts at or after the readback of a control and ends by that of the next. -/
structure WithinControl (events : List ActuatorEvent) (control : ℕ) (row : IntervalRow) : Prop where
  starts : ∃ t0Ns startNs, appliedReadback events control = some t0Ns ∧
    observedBounds row = .ok (startNs, row.rxWallNs) ∧ t0Ns ≤ startNs
  ends : ∀ next ∈ appliedReadback events (control + 1), row.rxWallNs ≤ next

/-- The windows whose metrics are reported. -/
structure ReportedWindows (mode : Mode) (rows : List IntervalRow) (report : Report)
    (w1 w2 : List IntervalRow) : Prop where
  run : ∃ run, latestEligibleRun mode rows = .ok run ∧ lastWindows run = some (w1, w2)
  first : ∃ m1, windowMetrics w1 = .ok m1 ∧ report.w1 = some m1
  second : ∃ m2, windowMetrics w2 = .ok m2 ∧ report.w2 = some m2

theorem loadPostT0_readback {events : List ActuatorEvent} {experimentId runId : List ℕ} {control : ℕ}
    {t0Ns : ℤ} (h : loadPostT0 events experimentId runId control = .ok t0Ns) :
    appliedReadback events control = some t0Ns := by
  simp only [loadPostT0, unit_bind_eq_ok, Int.toNat_natCast] at h
  obtain ⟨-, -, -, -, hselect⟩ := h
  unfold selectControl at hselect
  split at hselect
  · next command applied acknowledgement htriplet =>
    simp only [require_bind_eq_ok] at hselect
    obtain ⟨-, -, -, hselect⟩ := hselect
    have hsecond := congrArg (·[1]?) htriplet
    simp only [List.getElem?_take, List.getElem?_drop] at hsecond
    obtain rfl := Except.ok.inj hselect
    rw [if_pos (by decide)] at hsecond
    rw [appliedReadback, Nat.mul_comm, hsecond]
    rfl
  · cases hselect

theorem lastWindows_append {run w1 w2 : List IntervalRow} (h : lastWindows run = some (w1, w2)) :
    50 ≤ run.length ∧
      w1 ++ w2 = (run.take (run.length / 25 * 25)).drop ((run.length / 25 - 2) * 25) := by
  have hfull : ¬ run.length / 25 < 2 := by
    intro hfew
    rw [lastWindows, windowSamples, if_pos hfew] at h
    cases h
  rw [lastWindows, windowSamples, if_neg hfull] at h
  obtain ⟨rfl, rfl⟩ := Prod.mk.inj (Option.some.inj h)
  refine ⟨by omega, ?_⟩
  obtain ⟨before, hbefore⟩ : ∃ before, run.length / 25 = before + 2 := ⟨run.length / 25 - 2, by omega⟩
  have hwindows : (before + 2) * 25 - before * 25 = 25 + 25 := by omega
  have hsecond : before * 25 + 25 = (before + 1) * 25 := by omega
  show (run.drop ((run.length / 25 - 1 - 1) * 25)).take 25 ++
    (run.drop ((run.length / 25 - 1) * 25)).take 25 = _
  rw [hbefore, Nat.add_sub_cancel, List.drop_take, hwindows, List.take_add, List.drop_drop, hsecond]
  rfl

/-- Eligible intervals start at or after the readback of the control. -/
theorem admits_postStep {t0Ns : ℤ} {row : IntervalRow} (h : admits (.postStep t0Ns) row = true) :
    ∃ startNs, observedBounds row = .ok (startNs, row.rxWallNs) ∧ t0Ns ≤ startNs := by
  have heligible : eligible (.postStep t0Ns) row = .ok true := by
    cases hadmitted : eligible (.postStep t0Ns) row with
    | error => simp [admits, hadmitted, Except.toOption] at h
    | ok admitted => simpa [admits, hadmitted, Except.toOption] using h
  rw [eligible] at heligible
  split_ifs at heligible
  · obtain ⟨⟨startNs, endNs⟩, hbounds, hstart⟩ := bind_eq_ok.mp heligible
    have hend : endNs = row.rxWallNs := by
      simp only [observedBounds, bind_eq_ok] at hbounds
      obtain ⟨_, -, -, -, hbounds⟩ := hbounds
      exact (Prod.mk.inj (Except.ok.inj hbounds)).2.symm
    exact ⟨startNs, hend ▸ hbounds, of_decide_eq_true (Except.ok.inj hstart)⟩
  · cases heligible

theorem walls_sorted {rows official : List IntervalRow} {experimentId runId : List ℕ}
    (h : loadIntervals rows experimentId runId = .ok official) :
    official.Pairwise fun before after => before.rxWallNs ≤ after.rxWallNs := by
  obtain ⟨-, -, -, hclocks, rfl⟩ := loadIntervals_ok_iff.mp h
  rw [List.isChain_map] at hclocks
  have hwalls : official.IsChain fun before after => before.rxWallNs ≤ after.rxWallNs :=
    hclocks.imp fun before after hfollow => hfollow.1
  exact List.isChain_iff_pairwise.mp hwalls

/-- The windows of a run end by a time where so many of its intervals do. -/
theorem windows_end_by_iff {run w1 w2 : List IntervalRow}
    (hsorted : run.Pairwise fun before after => before.rxWallNs ≤ after.rxWallNs)
    (hwindows : lastWindows run = some (w1, w2)) (next : ℤ) :
    (∀ row ∈ w1 ++ w2, row.rxWallNs ≤ next) ↔
      run.countP (fun row => row.rxWallNs ≤ next) % 25 +
        run.countP (fun row => next < row.rxWallNs) < 25 := by
  obtain ⟨hlength, happend⟩ := lastWindows_append hwindows
  have hsplit : run.length = run.countP (fun row => row.rxWallNs ≤ next) +
      run.countP (fun row => next < row.rxWallNs) := by
    rw [List.length_eq_countP_add_countP fun row => decide (row.rxWallNs ≤ next)]
    simp
  rw [happend, stretch_below_iff hsorted (by omega) (by omega)]
  omega

/-- The windows reported for a control lie between its readback and that of the next control exactly
where the last block of eligible intervals is too short for two windows or leaves to the intervals
behind the next readback no more than the remainder that no window takes. -/
theorem post_step_windows_iff {events : List ActuatorEvent} {rows official : List IntervalRow}
    {experimentId runId : List ℕ} {control : ℕ} {t0Ns : ℤ} {report : Report}
    (hcontrol : loadPostT0 events experimentId runId control = .ok t0Ns)
    (hload : loadIntervals rows experimentId runId = .ok official)
    (hreport : evaluate (.postStep t0Ns) official = .ok report) :
    (∀ w1 w2, ReportedWindows (.postStep t0Ns) official report w1 w2 →
      ∀ row ∈ w1 ++ w2, WithinControl events control row) ↔
    ∀ block next, LastBlock (admits (.postStep t0Ns)) contiguous official block →
      appliedReadback events (control + 1) = some next → block.length < 50 ∨
        block.countP (fun row => row.rxWallNs ≤ next) % 25 +
          block.countP (fun row => next < row.rxWallNs) < 25 := by
  obtain ⟨run, hrun, -, hreported⟩ := evaluate_ok hreport
  have hlast := latestEligibleRun_ok hrun
  obtain ⟨before, after, hofficial, hblock, -⟩ := hlast.parts
  have hsorted : run.Pairwise fun before after => before.rxWallNs ≤ after.rxWallNs := by
    have hall := walls_sorted hload
    rw [hofficial, List.append_assoc, List.pairwise_append] at hall
    exact (List.pairwise_append.mp hall.2.1).1
  constructor
  · intro hwithin block next hblock' hnext
    obtain rfl := hlast.unique hblock'
    by_cases hlength : run.length < 50
    · exact .inl hlength
    · cases hwindows : lastWindows run with
      | none =>
        rw [lastWindows, windowSamples, if_neg (by omega)] at hwindows
        cases hwindows
      | some windows =>
        obtain ⟨m1, m2, hm1, hm2, h1, h2⟩ := hreported _ _ hwindows
        refine .inr ((windows_end_by_iff hsorted hwindows next).mp fun row hrow => ?_)
        exact (hwithin _ _ ⟨⟨run, hrun, hwindows⟩, ⟨m1, hm1, h1⟩, ⟨m2, hm2, h2⟩⟩ row hrow).ends next hnext
  · intro hcondition w1 w2 hwindows row hrow
    obtain ⟨run', hrun', hwindows⟩ := hwindows.run
    obtain rfl := Except.ok.inj (hrun.symm.trans hrun')
    obtain ⟨hlength, happend⟩ := lastWindows_append hwindows
    have hmem : row ∈ run := by
      rw [happend] at hrow
      exact List.mem_of_mem_take (List.mem_of_mem_drop hrow)
    refine ⟨?_, fun next hnext => ?_⟩
    · obtain ⟨startNs, hbounds, hstart⟩ := admits_postStep (hblock.all row hmem)
      exact ⟨t0Ns, startNs, loadPostT0_readback hcontrol, hbounds, hstart⟩
    · obtain hshort | hend := hcondition run next hlast hnext
      · omega
      · exact (windows_end_by_iff hsorted hwindows next).mpr hend row hrow

/-- The events of a control that is read back at a time. -/
def controlEvents (control : String) (ratio prbs : ℤ) (readbackNs : ℤ) : List ActuatorEvent :=
  let event (suffix : String) (timestampUtcNs : ℤ) : ActuatorEvent := {
    experimentId := sampleExperiment
    runId := sampleRun
    recordId := chars control ++ chars suffix
    timestampUtcNs
    eventType := .command
    requestedMaxPrbRatioPct := none
    acknowledgementStatus := none
    appliedMinPrbs := none
    appliedMaxPrbs := none }
  [{ event "-COMMAND" (readbackNs - 100000000) with requestedMaxPrbRatioPct := some ratio },
    { event "-READBACK" readbackNs with
      eventType := .appliedReadback, appliedMinPrbs := some 0, appliedMaxPrbs := some prbs },
    { event "-ACK" (readbackNs + 50000000) with
      eventType := .acknowledgement, acknowledgementStatus := some .pass }]

/-- The first control is read back where the first interval starts, the second one where the tenth
ends. -/
def firstReadback : ℤ := 1767225626000000000

def secondReadback : ℤ := tickClock 9

def sampleTimeline : List ActuatorEvent :=
  controlEvents "CTRL-001" 75 39 firstReadback ++ controlEvents "CTRL-002" 50 26 secondReadback

theorem sampleTimeline_loads :
    (loadActuatorTimeline sampleTimeline sampleExperiment sampleRun).map Prod.snd =
      .ok [firstReadback, secondReadback] ∧
    loadPostT0 sampleTimeline sampleExperiment sampleRun 1 = .ok firstReadback ∧
    loadPostT0 (sampleTimeline.take 3) sampleExperiment sampleRun 1 = .ok firstReadback := by
  decide +kernel

theorem tick_eligible : ∀ i < 50, eligible (.postStep firstReadback)
    (tickFile.record sampleExperiment sampleRun i) = .ok true := by
  intro i _
  have hduration : exactDurationNs evaluatorPrecision pointTwo = .ok 200000000 := by decide +kernel
  have hbounds : observedBounds (tickFile.record sampleExperiment sampleRun i) =
      .ok (tickClock i - 200000000, tickClock i) := by
    have hpos : 0 ≤ tickClock i - 200000000 := by
      have := tickClock_pos i
      omega
    exact bind_eq_ok.mpr ⟨_, hduration, require_bind_eq_ok.mpr ⟨hpos, rfl⟩⟩
  have hstart : firstReadback ≤ tickClock i - 200000000 := by
    simp only [firstReadback, tickClock]
    omega
  rw [eligible, if_pos (isComplete_complete (RegularFile.complete_record i)), hbounds]
  exact congrArg Except.ok (decide_eq_true hstart)

/-- The report on the regular file behind the first control is about all its intervals. -/
theorem tick_reported : ∃ report, evaluate (.postStep firstReadback) tickRecords = .ok report ∧
    ReportedWindows (.postStep firstReadback) tickRecords report (tickRecords.take 25)
      (tickRecords.drop 25) := by
  have hregular := @tick_regular [] fun _ _ => rfl
  obtain ⟨hrun, report, hreport⟩ := hregular.evaluate_exists sampleExperiment sampleRun rfl tick_within
    tick_eligible
  have hwindows : lastWindows tickRecords = some (tickRecords.take 25, tickRecords.drop 25) := by
    apply lastWindows_fifty
    rw [tickRecords, RegularFile.records, List.length_map, List.length_range]
    rfl
  obtain ⟨run, hrun', -, hreported⟩ := evaluate_ok hreport
  obtain rfl := Except.ok.inj (hrun.symm.trans hrun')
  obtain ⟨m1, m2, hm1, hm2, h1, h2⟩ := hreported _ _ hwindows
  exact ⟨report, hreport, ⟨_, hrun, hwindows⟩, ⟨m1, hm1, h1⟩, ⟨m2, hm2, h2⟩⟩

/-- Where there is no other control, the windows lie behind the first one. -/
theorem post_step_windows_iff_sample : ∃ report w1 w2,
    ReportedWindows (.postStep firstReadback) tickRecords report w1 w2 ∧
    ∀ row ∈ w1 ++ w2, WithinControl (sampleTimeline.take 3) 1 row := by
  have hregular := @tick_regular [] fun _ _ => rfl
  obtain ⟨report, hreport, hwindows⟩ := tick_reported
  have hnone : appliedReadback (sampleTimeline.take 3) 2 = none := rfl
  refine ⟨report, _, _, hwindows, (post_step_windows_iff sampleTimeline_loads.2.2
    (hregular.loadIntervals_eq sample_ids (by decide)) hreport).mpr ?_ _ _ hwindows⟩
  intro block next _ hnext
  rw [hnone] at hnext
  cases hnext

/-- The second control is read back where the tenth of fifty intervals ends. None of them crosses a
transition, and both windows behind the first control are made of them. -/
theorem windows_span_next_control : ∃ report,
    (loadActuatorTimeline sampleTimeline sampleExperiment sampleRun).map Prod.snd =
      .ok [firstReadback, secondReadback] ∧
    loadPostT0 sampleTimeline sampleExperiment sampleRun 1 = .ok firstReadback ∧
    canonicalizerMain sampleExperiment sampleRun [firstReadback, secondReadback] tickFile.staging =
      .ok tickRecords ∧
    loadIntervals tickRecords sampleExperiment sampleRun = .ok tickRecords ∧
    evaluate (.postStep firstReadback) tickRecords = .ok report ∧
    ¬∀ w1 w2, ReportedWindows (.postStep firstReadback) tickRecords report w1 w2 →
      ∀ row ∈ w1 ++ w2, WithinControl sampleTimeline 1 row := by
  have hregular : tickFile.Regular [firstReadback, secondReadback] := tick_regular (by decide +kernel)
  obtain ⟨report, hreport, hwindows⟩ := tick_reported
  refine ⟨report, sampleTimeline_loads.1, sampleTimeline_loads.2.1,
    hregular.canonicalizerMain_eq sample_ids, hregular.loadIntervals_eq sample_ids (by decide), hreport,
    fun hall => ?_⟩
  have hlast : tickFile.record sampleExperiment sampleRun 49 ∈
      tickRecords.take 25 ++ tickRecords.drop 25 := by
    rw [List.take_append_drop]
    exact List.mem_map.mpr ⟨49, by decide, rfl⟩
  have hend := (hall _ _ hwindows _ hlast).ends secondReadback rfl
  exact absurd hend (by decide)

end TcdOran.Receiver
