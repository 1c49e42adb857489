import TcdOran.Receiver.WindowSelection

/-! How `classify_interval` places the readbacks among the intervals, and what the evaluator takes
from it. -/
namespace TcdOran.Receiver
open TcdOran.Lib Python
open Timeline (ActuatorEvent checkControls loadActuatorTimeline)

/-! ### The times of the readbacks -/

theorem checkControls_sorted : ∀ {rows : List ActuatorEvent} {index : ℕ} {previousAck : Option ℤ}
    {applieds : List ℤ}, checkControls index previousAck rows = .ok applieds →
      applieds.Pairwise (· < ·) ∧ ∀ previous ∈ previousAck, ∀ applied ∈ applieds, previous < applied
  | [], _, _, _, h => by
    obtain rfl := Except.ok.inj h
    simp
  | [_], _, _, _, h => by
    obtain rfl := Except.ok.inj h
    simp
  | [_, _], _, _, _, h => by
    obtain rfl := Except.ok.inj h
    simp
  | command :: applied :: acknowledgement :: rows, index, previousAck, applieds, h => by
    simp only [checkControls, bind_eq_ok, require_eq_ok] at h
    obtain ⟨-, -, -, -, -, -, -, -, -, -, -, ⟨hbefore, hafter⟩, -, hack, rest, hrest, h⟩ := h
    obtain rfl := Except.ok.inj h
    obtain ⟨hsorted, hbehind⟩ := checkControls_sorted hrest
    have hlater : ∀ later ∈ rest, applied.timestampUtcNs < later :=
      fun later hmem => hafter.trans (hbehind _ rfl later hmem)
    refine ⟨List.pairwise_cons.mpr ⟨hlater, hsorted⟩, fun previous hprevious later hmem => ?_⟩
    have hcommand : previous < command.timestampUtcNs := by
      rw [Option.mem_def.mp hprevious] at hack
      simpa using hack
    rcases List.mem_cons.mp hmem with rfl | hmem
    · exact hcommand.trans hbefore
    · exact (hcommand.trans hbefore).trans (hlater later hmem)

theorem readbacks_sorted {rows events : List ActuatorEvent} {experimentId runId : List ℕ}
    {applieds : List ℤ} (h : loadActuatorTimeline rows experimentId runId = .ok (events, applieds)) :
    applieds.Pairwise (· < ·) := by
  simp only [loadActuatorTimeline, bind_eq_ok] at h
  obtain ⟨-, -, -, -, -, -, -, -, applieds', hcontrols, h⟩ := h
  obtain ⟨-, rfl⟩ := Prod.mk.inj (Except.ok.inj h)
  exact (checkControls_sorted hcontrols).1

/-! ### One row -/

/-- The time lies strictly inside what is observed of the row. -/
def Inside (row : StagingRow) (t : ℤ) : Prop :=
  ∃ durationNs, exactDurationNs defaultPrecision row.interval.intervalDurationS = .ok durationNs ∧
    row.rxWallNs - durationNs < t ∧ t < row.rxWallNs

/-- The row passes every check of `classify_interval` that is not about the readbacks. -/
structure WellFormed (row : StagingRow) : Prop where
  base : ∃ intervalClass, baseIntervalClass row.interval = .ok intervalClass
  wall : 0 < row.rxWallNs
  start : ∃ durationNs,
    exactDurationNs defaultPrecision row.interval.intervalDurationS = .ok durationNs ∧
      durationNs ≤ row.rxWallNs

theorem baseIntervalClass_ne {interval : Interval} :
    baseIntervalClass interval ≠ .ok .transitionCrossing := by
  intro h
  rw [baseIntervalClass] at h
  cases hshape : interval.shape with
  | complete0p2 =>
    simp only [hshape, require_bind_eq_ok] at h
    obtain ⟨-, h⟩ := h
    split_ifs at h <;> cases h
  | partialTerminalCandidate =>
    simp only [hshape, require_bind_eq_ok] at h
    cases h.2

theorem mem_strictHits_iff {row : StagingRow} {durationNs : ℤ}
    (hduration : exactDurationNs defaultPrecision row.interval.intervalDurationS = .ok durationNs)
    {applieds : List ℤ} {t : ℤ} :
    t ∈ strictHits (row.rxWallNs - durationNs) row.rxWallNs applieds ↔ t ∈ applieds ∧ Inside row t := by
  rw [strictHits, List.mem_filter, decide_eq_true_iff]
  refine and_congr_right fun _ => ⟨fun h => ⟨durationNs, hduration, h⟩, ?_⟩
  rintro ⟨other, hother, h⟩
  obtain rfl := Except.ok.inj (hduration.symm.trans hother)
  exact h

theorem strictHits_length_eq_one_iff {row : StagingRow} {durationNs : ℤ}
    (hduration : exactDurationNs defaultPrecision row.interval.intervalDurationS = .ok durationNs)
    {applieds : List ℤ} (hsorted : applieds.Pairwise (· < ·)) :
    (strictHits (row.rxWallNs - durationNs) row.rxWallNs applieds).length = 1 ↔
      ∃! t, t ∈ applieds ∧ Inside row t := by
  rw [strictHits, length_filter_eq_one_iff hsorted]
  simp only [← mem_strictHits_iff hduration, strictHits, List.mem_filter]

theorem two_le_strictHits_length_iff {row : StagingRow} {durationNs : ℤ}
    (hduration : exactDurationNs defaultPrecision row.interval.intervalDurationS = .ok durationNs)
    {applieds : List ℤ} (hsorted : applieds.Pairwise (· < ·)) :
    2 ≤ (strictHits (row.rxWallNs - durationNs) row.rxWallNs applieds).length ↔
      ∃ t ∈ applieds, ∃ u ∈ applieds, t < u ∧ Inside row t ∧ Inside row u := by
  rw [strictHits, two_le_length_filter_iff hsorted]
  constructor
  · rintro ⟨t, ht, u, hu, hlt, htin, huin⟩
    exact ⟨t, ht, u, hu, hlt, ⟨durationNs, hduration, of_decide_eq_true htin⟩,
      ⟨durationNs, hduration, of_decide_eq_true huin⟩⟩
  · rintro ⟨t, ht, u, hu, hlt, htin, huin⟩
    have htmem := (mem_strictHits_iff hduration).mpr ⟨ht, htin⟩
    have humem := (mem_strictHits_iff hduration).mpr ⟨hu, huin⟩
    exact ⟨t, ht, u, hu, hlt, (List.mem_filter.mp htmem).2, (List.mem_filter.mp humem).2⟩

/-- What the class is where the readbacks `hits` lie strictly inside. -/
def classOfHits (base : IntervalClass) (hits : List ℤ) : Except String IntervalClass :=
  if hits.length ≤ 1 then
    if hits = [] then .ok base
    else
      match base with
      | .startupGuard => .error "applied_readback lies inside startup_guard interval"
      | .partialTerminal => .error "applied_readback lies inside partial_terminal interval"
      | .complete => .ok .transitionCrossing
      | .transitionCrossing => .error "transition crossing requires a complete interval"
  else .error ("multiple applied_readback events lie strictly " ++ "inside one receiver interval")

theorem classifyInterval_eq {row : StagingRow} {base : IntervalClass} {durationNs : ℤ}
    (hbase : baseIntervalClass row.interval = .ok base) (hwall : 0 < row.rxWallNs)
    (hduration : exactDurationNs defaultPrecision row.interval.intervalDurationS = .ok durationNs)
    (hstart : durationNs ≤ row.rxWallNs) (applieds : List ℤ) :
    classifyInterval row applieds =
      classOfHits base (strictHits (row.rxWallNs - durationNs) row.rxWallNs applieds) := by
  have hnonneg : 0 ≤ row.rxWallNs - durationNs := by omega
  rw [classifyInterval, hbase, ok_bind, hduration]
  by_cases hnone : applieds = []
  · rw [if_pos hnone, hnone]
    rfl
  · rw [if_neg hnone, ok_of_require hwall]
    simp only [ok_bind]
    rw [ok_of_require hnonneg, ok_bind]
    unfold classOfHits
    by_cases hone : (strictHits (row.rxWallNs - durationNs) row.rxWallNs applieds).length ≤ 1
    · rw [ok_of_require hone, if_pos hone, ok_bind]
      rfl
    · rw [if_neg hone, require, if_neg hone]
      rfl

theorem wellFormed_of_classify {row : StagingRow} {applieds : List ℤ} {intervalClass : IntervalClass}
    (hne : applieds ≠ []) (h : classifyInterval row applieds = .ok intervalClass) : WellFormed row := by
  simp only [classifyInterval, bind_eq_ok, if_neg hne, require_eq_ok] at h
  obtain ⟨base, hbase, -, hwall, durationNs, hduration, -, hstart, -⟩ := h
  exact ⟨⟨base, hbase⟩, hwall, durationNs, hduration, by omega⟩

theorem base_of_classify {row : StagingRow} {applieds : List ℤ} {intervalClass : IntervalClass}
    (h : classifyInterval row applieds = .ok intervalClass) :
    ∃ base, baseIntervalClass row.interval = .ok base ∧ base ≠ .transitionCrossing := by
  obtain ⟨base, hbase, -⟩ := bind_eq_ok.mp h
  refine ⟨base, hbase, ?_⟩
  rintro rfl
  exact baseIntervalClass_ne hbase

/-! ### The classes of a row by its hits -/

theorem classOfHits_crossing_iff {base : IntervalClass} (hbase : base ≠ .transitionCrossing)
    {hits : List ℤ} :
    classOfHits base hits = .ok .transitionCrossing ↔ base = .complete ∧ hits.length = 1 := by
  rcases hits with _ | ⟨t, _ | ⟨u, rest⟩⟩
  · simp [classOfHits, hbase]
  · cases base <;> simp [classOfHits] at hbase ⊢
  · simp [classOfHits]

theorem classOfHits_error_iff {base : IntervalClass} {hits : List ℤ} :
    (∃ e, classOfHits base hits = .error e) ↔
      2 ≤ hits.length ∨ hits.length = 1 ∧ base ≠ .complete := by
  rcases hits with _ | ⟨t, _ | ⟨u, rest⟩⟩
  · simp [classOfHits]
  · cases base <;> simp [classOfHits]
  · simp [classOfHits]

/-- Another class than that of a crossing leaves no readback inside. -/
theorem classOfHits_other {base c : IntervalClass} {hits : List ℤ}
    (h : classOfHits base hits = .ok c) (hc : c ≠ .transitionCrossing) : hits = [] ∧ c = base := by
  rcases hits with _ | ⟨t, _ | ⟨u, rest⟩⟩
  · exact ⟨rfl, (Except.ok.inj h).symm⟩
  · cases base <;> simp [classOfHits] at h
    exact absurd h.symm hc
  · simp [classOfHits] at h

/-! ### Coherence -/

/-- What the class of a row says of the readbacks. -/
structure Coherent (row : StagingRow) (applieds : List ℤ) : Prop where
  crossing : classifyInterval row applieds = .ok .transitionCrossing ↔ WellFormed row ∧
    baseIntervalClass row.interval = .ok .complete ∧ ∃! t, t ∈ applieds ∧ Inside row t
  refused : WellFormed row → ((∃ e, classifyInterval row applieds = .error e) ↔
    (∃ t ∈ applieds, ∃ u ∈ applieds, t < u ∧ Inside row t ∧ Inside row u) ∨
      (∃! t, t ∈ applieds ∧ Inside row t) ∧ baseIntervalClass row.interval ≠ .ok .complete)
  malformed : ¬ WellFormed row → if applieds = []
    then classifyInterval row applieds = baseIntervalClass row.interval
    else ∃ e, classifyInterval row applieds = .error e
  otherwise : ∀ c, classifyInterval row applieds = .ok c → c ≠ .transitionCrossing →
    baseIntervalClass row.interval = .ok c
  aside : ∀ c, classifyInterval row applieds = .ok c → c ≠ .transitionCrossing →
    ∀ t ∈ applieds, ∃ durationNs,
      exactDurationNs defaultPrecision row.interval.intervalDurationS = .ok durationNs ∧
        (row.rxWallNs ≤ t ∨ t ≤ row.rxWallNs - durationNs)
  behind : ∀ experimentId runId record,
    canonicalRecord experimentId runId row applieds = .ok record →
      intervalSchemaValid record = true → record.intervalClass = .complete →
        ∀ t0Ns ∈ applieds, (eligible (.postStep t0Ns) record = .ok true ↔
            ∃ durationNs, exactDurationNs defaultPrecision row.interval.intervalDurationS =
              .ok durationNs ∧ t0Ns ≤ row.rxWallNs - durationNs) ∧
          (eligible (.postStep t0Ns) record ≠ .ok true → row.rxWallNs ≤ t0Ns)

theorem classify_of_malformed {row : StagingRow} {applieds : List ℤ} (h : ¬ WellFormed row) :
    if applieds = [] then classifyInterval row applieds = baseIntervalClass row.interval
    else ∃ e, classifyInterval row applieds = .error e := by
  split_ifs with hnone
  · rw [hnone, classifyInterval]
    cases baseIntervalClass row.interval <;> rfl
  · cases hclass : classifyInterval row applieds with
    | error e => exact ⟨e, rfl⟩
    | ok c => exact absurd (wellFormed_of_classify hnone hclass) h

theorem classify_crossing_iff {row : StagingRow} {applieds : List ℤ}
    (hsorted : applieds.Pairwise (· < ·)) :
    classifyInterval row applieds = .ok .transitionCrossing ↔ WellFormed row ∧
      baseIntervalClass row.interval = .ok .complete ∧ ∃! t, t ∈ applieds ∧ Inside row t := by
  by_cases hform : WellFormed row
  · obtain ⟨⟨base, hbase⟩, hwall, durationNs, hduration, hstart⟩ := hform
    have hne : base ≠ .transitionCrossing := by
      rintro rfl
      exact baseIntervalClass_ne hbase
    rw [classifyInterval_eq hbase hwall hduration hstart, classOfHits_crossing_iff hne,
      strictHits_length_eq_one_iff hduration hsorted, hbase, Except.ok.injEq]
    exact (and_iff_right ⟨⟨base, hbase⟩, hwall, durationNs, hduration, hstart⟩).symm
  · refine iff_of_false (fun hclass => ?_) fun h => hform h.1
    by_cases hnone : applieds = []
    · have hmalformed := @classify_of_malformed row applieds hform
      rw [if_pos hnone, hclass] at hmalformed
      exact baseIntervalClass_ne hmalformed.symm
    · exact hform (wellFormed_of_classify hnone hclass)

theorem classify_error_iff {row : StagingRow} {applieds : List ℤ}
    (hsorted : applieds.Pairwise (· < ·)) (hform : WellFormed row) :
    (∃ e, classifyInterval row applieds = .error e) ↔
      (∃ t ∈ applieds, ∃ u ∈ applieds, t < u ∧ Inside row t ∧ Inside row u) ∨
        (∃! t, t ∈ applieds ∧ Inside row t) ∧ baseIntervalClass row.interval ≠ .ok .complete := by
  obtain ⟨⟨base, hbase⟩, hwall, durationNs, hduration, hstart⟩ := hform
  rw [classifyInterval_eq hbase hwall hduration hstart, classOfHits_error_iff,
    two_le_strictHits_length_iff hduration hsorted, strictHits_length_eq_one_iff hduration hsorted,
    hbase, ne_eq, ne_eq, Except.ok.injEq]

theorem classify_aside {row : StagingRow} {applieds : List ℤ} {c : IntervalClass}
    (h : classifyInterval row applieds = .ok c) (hc : c ≠ .transitionCrossing) {t : ℤ}
    (ht : t ∈ applieds) : ∃ durationNs,
      exactDurationNs defaultPrecision row.interval.intervalDurationS = .ok durationNs ∧
        (row.rxWallNs ≤ t ∨ t ≤ row.rxWallNs - durationNs) := by
  obtain ⟨⟨base, hbase⟩, hwall, durationNs, hduration, hstart⟩ :=
    wellFormed_of_classify (List.ne_nil_of_mem ht) h
  rw [classifyInterval_eq hbase hwall hduration hstart] at h
  have hnone := (classOfHits_other h hc).1
  refine ⟨durationNs, hduration, ?_⟩
  by_contra hinside
  push Not at hinside
  have hmem := (mem_strictHits_iff hduration).mpr ⟨ht, durationNs, hduration, hinside.2, hinside.1⟩
  rw [hnone] at hmem
  cases hmem

theorem classify_otherwise {row : StagingRow} {applieds : List ℤ} {c : IntervalClass}
    (h : classifyInterval row applieds = .ok c) (hc : c ≠ .transitionCrossing) :
    baseIntervalClass row.interval = .ok c := by
  by_cases hform : WellFormed row
  · obtain ⟨⟨base, hbase⟩, hwall, durationNs, hduration, hstart⟩ := hform
    rw [classifyInterval_eq hbase hwall hduration hstart] at h
    rw [hbase, (classOfHits_other h hc).2]
  · have hmalformed := @classify_of_malformed row applieds hform
    split_ifs at hmalformed
    · rw [← hmalformed, h]
    · obtain ⟨e, he⟩ := hmalformed
      rw [h] at he
      cases he

theorem canonicalRecord_ok {experimentId runId : List ℕ} {row : StagingRow} {applieds : List ℤ}
    {record : IntervalRow} (h : canonicalRecord experimentId runId row applieds = .ok record) :
    classifyInterval row applieds = .ok record.intervalClass ∧ record.rxWallNs = row.rxWallNs ∧
      record.intervalDurationS = row.interval.intervalDurationS := by
  simp only [canonicalRecord, bind_eq_ok] at h
  obtain ⟨-, -, -, -, -, -, c, hclass, h⟩ := h
  obtain rfl := Except.ok.inj h
  exact ⟨hclass, rfl, rfl⟩

/-- A complete record has the duration that both programs compute with, so that the evaluator looks
for the same start as the canonicalizer did. -/
theorem eligible_complete {experimentId runId : List ℕ} {row : StagingRow} {applieds : List ℤ}
    {record : IntervalRow} (h : canonicalRecord experimentId runId row applieds = .ok record)
    (hvalid : intervalSchemaValid record = true) (hcomplete : record.intervalClass = .complete)
    {t0Ns : ℤ} (ht : t0Ns ∈ applieds) :
    exactDurationNs defaultPrecision row.interval.intervalDurationS = .ok 200000000 ∧
      eligible (.postStep t0Ns) record = .ok (decide (t0Ns ≤ row.rxWallNs - 200000000)) := by
  obtain ⟨hclass, hwall, hduration⟩ := canonicalRecord_ok h
  have hexact : exactDurationNs defaultPrecision row.interval.intervalDurationS = .ok 200000000 := by
    rw [← hduration, duration_of_complete hvalid hcomplete]
    exact RegularFile.exactDurationNs_pointTwo
  obtain ⟨-, -, durationNs, hstarts, hstart⟩ :=
    wellFormed_of_classify (List.ne_nil_of_mem ht) hclass
  obtain rfl := Except.ok.inj (hexact.symm.trans hstarts)
  have hlate : ¬ record.rxWallNs < 200000000 := by omega
  refine ⟨hexact, ?_⟩
  rw [eligible, if_pos ((isComplete_iff hvalid).mpr hcomplete), ← hwall]
  simp only [observedBounds_complete hvalid hcomplete, if_neg hlate]
  rfl

theorem eligible_behind {experimentId runId : List ℕ} {row : StagingRow} {applieds : List ℤ}
    {record : IntervalRow} (h : canonicalRecord experimentId runId row applieds = .ok record)
    (hvalid : intervalSchemaValid record = true) (hcomplete : record.intervalClass = .complete)
    {t0Ns : ℤ} (ht : t0Ns ∈ applieds) :
    (eligible (.postStep t0Ns) record = .ok true ↔ ∃ durationNs,
        exactDurationNs defaultPrecision row.interval.intervalDurationS = .ok durationNs ∧
          t0Ns ≤ row.rxWallNs - durationNs) ∧
      (eligible (.postStep t0Ns) record ≠ .ok true → row.rxWallNs ≤ t0Ns) := by
  obtain ⟨hexact, heligible⟩ := eligible_complete h hvalid hcomplete ht
  have hclass := (canonicalRecord_ok h).1
  obtain ⟨durationNs, hduration, haside⟩ :=
    classify_aside hclass (by rw [hcomplete]; decide) ht
  obtain rfl := Except.ok.inj (hexact.symm.trans hduration)
  rw [heligible]
  constructor
  · constructor
    · exact fun hstart => ⟨200000000, hexact, of_decide_eq_true (Except.ok.inj hstart)⟩
    · rintro ⟨durationNs, hother, hstart⟩
      obtain rfl := Except.ok.inj (hexact.symm.trans hother)
      rw [decide_eq_true hstart]
  · intro hnot
    rcases haside with hbefore | hafter
    · exact hbefore
    · rw [decide_eq_true hafter] at hnot
      exact absurd rfl hnot

/-- The class of a row, where it lies between the readbacks, and what is eligible behind them. -/
theorem classification_coherent {applieds : List ℤ} (hsorted : applieds.Pairwise (· < ·))
    (row : StagingRow) : Coherent row applieds where
  crossing := classify_crossing_iff hsorted
  refused := classify_error_iff hsorted
  malformed := classify_of_malformed
  otherwise := fun _ h hc => classify_otherwise h hc
  aside := fun _ h hc _ ht => classify_aside h hc ht
  behind := fun _ _ _ h hvalid hcomplete _ ht => eligible_behind h hvalid hcomplete ht

/-! ### A row that begins before the epoch -/

def earlyInterval : Interval where
  streamId := 5
  intervalStartS := 2
  intervalEndS := 2476979795053773 / 1125899906842624
  intervalDurationS := pointTwo
  throughputKbitS := 18400
  jitterMs := none
  lossPct := none
  bytesTransferred := 460000
  lostDatagrams := none
  totalDatagrams := none
  iperfRole := none
  shape := .complete0p2
  sourceTransferValue := chars "449"
  sourceTransferUnit := chars "KBytes"
  sourceBitrateValue := chars "18.4"
  sourceBitrateUnit := chars "Mbits/sec"

def earlyRow : StagingRow where
  sourceSequence := 0
  rxWallNs := 150000000
  rxMonoNs := 1
  sourceRawOffsetStart := 0
  sourceRawOffsetEnd := 1
  sourceRawLineSha256 := .null
  interval := earlyInterval

theorem classification_coherent_sample : Coherent earlyRow [100000000] :=
  classification_coherent (List.pairwise_singleton _ _) earlyRow

/-- The row is complete and one readback lies strictly inside, and it has no class. -/
theorem early_row_refused : baseIntervalClass earlyRow.interval = .ok .complete ∧
    (∃! t, t ∈ [100000000] ∧ Inside earlyRow t) ∧
    classifyInterval earlyRow [100000000] = .error "derived observed interval start is negative" := by
  have hduration : exactDurationNs defaultPrecision earlyRow.interval.intervalDurationS =
      .ok 200000000 := RegularFile.exactDurationNs_pointTwo
  have hbase : baseIntervalClass earlyRow.interval = .ok .complete := by decide +kernel
  refine ⟨hbase, ⟨100000000, ⟨List.mem_singleton_self _, 200000000, hduration, by decide⟩, ?_⟩, ?_⟩
  · exact fun t ht => List.mem_singleton.mp ht.1
  · rw [classifyInterval, hbase, ok_bind, if_neg (by decide), hduration]
    rfl

end TcdOran.Receiver
