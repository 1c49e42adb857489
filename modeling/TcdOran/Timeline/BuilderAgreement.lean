import Mathlib.Data.List.Chain
import TcdOran.Timeline.TimelineLoaders

/-! What the builder of a timeline promises the programs that read it. Builder and loaders meet at
`ControlsFrom`, which says what a timeline is. -/
namespace TcdOran.Timeline
open TcdOran.Lib Python

/-- A control that has been carried out. -/
structure Control where
  index : ℕ
  ratio : ℤ
  prbs : ℤ
  commandNs : ℤ
  appliedNs : ℤ
  ackNs : ℤ

def Control.events (experimentId runId : List ℕ) (c : Control) : List ActuatorEvent :=
  [commandEvent experimentId runId c.index c.commandNs c.ratio,
    appliedEvent experimentId runId c.index c.appliedNs 0 c.prbs,
    acknowledgementEvent experimentId runId c.index c.ackNs]

/-- The controls follow each other from an index and behind a time. -/
inductive ControlsFrom : ℕ → Option ℤ → List Control → Prop
  | nil (index : ℕ) (previous : Option ℤ) : ControlsFrom index previous []
  | cons (index : ℕ) (previous : Option ℤ) (c : Control) (cs : List Control) : c.index = index →
      ratioToPrbs c.ratio = some c.prbs → (∀ t ∈ previous, t < c.commandNs) →
      c.commandNs < c.appliedNs → c.appliedNs < c.ackNs →
      ControlsFrom (index + 1) (some c.ackNs) cs → ControlsFrom index previous (c :: cs)

/-! ### The builder -/

section
variable {experimentId runId : List ℕ}

theorem orError_eq_ok {α : Type} {value : Option α} {error : String} {a : α} :
    orError value error = .ok a ↔ value = some a := by
  cases value <;> simp [orError]

theorem buildControl_ok {index : ℕ} {previous : Option ℤ} {input : ControlInput}
    {events : List ActuatorEvent} {ackNs : ℤ}
    (h : buildControl experimentId runId index previous input = .ok (events, ackNs)) :
    ∃ c : Control, c.index = index ∧ c.ratio = input.ratio ∧ ratioToPrbs c.ratio = some c.prbs ∧
      (∀ t ∈ previous, t < c.commandNs) ∧ c.commandNs < c.appliedNs ∧ c.appliedNs < c.ackNs ∧
      events = c.events experimentId runId ∧ ackNs = c.ackNs := by
  unfold buildControl at h
  simp only [bind_eq_ok, orError_eq_ok] at h
  obtain ⟨commandNs, -, appliedNs, -, ackTime, -, ⟨minimum, maximum⟩, -, h⟩ := h
  simp only [require_eq_ok] at h
  obtain ⟨appliedMin, -, appliedMax, -, expectedMax, hprbs, -, hmin, -, hmax, -, horder, -,
    hprevious, h⟩ := h
  obtain ⟨hevents, hack⟩ := Prod.mk.inj (Except.ok.inj h)
  refine ⟨⟨index, input.ratio, expectedMax, commandNs, appliedNs, ackTime⟩, rfl, rfl, hprbs, ?_,
    horder.1, horder.2, ?_, hack.symm⟩
  · intro t ht
    rw [ht] at hprevious
    exact of_decide_eq_true hprevious
  · rw [← hevents, hmin, hmax]
    rfl

theorem buildControls_ok {index : ℕ} {previous : Option ℤ} {inputs : List ControlInput}
    {events : List ActuatorEvent}
    (h : buildControls experimentId runId index previous inputs = .ok events) :
    ∃ cs, ControlsFrom index previous cs ∧ cs.map Control.ratio = inputs.map ControlInput.ratio ∧
      events = cs.flatMap (Control.events experimentId runId) := by
  induction inputs generalizing index previous events with
  | nil =>
    obtain rfl := Except.ok.inj h
    exact ⟨[], .nil index previous, rfl, rfl⟩
  | cons input inputs ih =>
    simp only [buildControls, bind_eq_ok] at h
    obtain ⟨⟨first, ackNs⟩, hcontrol, rest, hrest, h⟩ := h
    obtain rfl := Except.ok.inj h
    obtain ⟨c, hindex, hratio, hprbs, hprevious, happlied, hack, rfl, rfl⟩ := buildControl_ok hcontrol
    obtain ⟨cs, hcs, hratios, rfl⟩ := ih hrest
    refine ⟨c :: cs, .cons index previous c cs hindex hprbs hprevious happlied hack hcs, ?_, ?_⟩
    · rw [List.map_cons, List.map_cons, hratio, hratios]
    · rw [List.flatMap_cons]

theorem buildEvents_ok {ratios : List ℤ} {commandLines appliedLines ackLines : List (List ℕ)}
    {events : List ActuatorEvent}
    (h : buildEvents experimentId runId ratios commandLines appliedLines ackLines = .ok events) :
    ∃ cs, ControlsFrom 1 none cs ∧ cs.map Control.ratio = ratios ∧
      events = cs.flatMap (Control.events experimentId runId) := by
  simp only [buildEvents, require_bind_eq_ok] at h
  obtain ⟨hcommand, happlied, hack, h⟩ := h
  obtain ⟨cs, hcs, hratios, hevents⟩ := buildControls_ok h
  refine ⟨cs, hcs, ?_, hevents⟩
  rw [hratios, controlInputs, List.map_map]
  have hfst : (ratios.zip commandLines).map Prod.fst = ratios :=
    List.map_fst_zip (le_of_eq hcommand.symm)
  have hzip : ((ratios.zip commandLines).zip (appliedLines.zip ackLines)).map Prod.fst =
      ratios.zip commandLines := by
    apply List.map_fst_zip
    simp [hcommand, happlied, hack]
  calc ((ratios.zip commandLines).zip (appliedLines.zip ackLines)).map _
      = (((ratios.zip commandLines).zip (appliedLines.zip ackLines)).map Prod.fst).map Prod.fst := by
        rw [List.map_map]
        rfl
    _ = ratios := by rw [hzip, hfst]

end

/-! ### What a timeline is -/

section
variable {experimentId runId : List ℕ} {index : ℕ} {previous : Option ℤ} {cs : List Control}

theorem ControlsFrom.indices (h : ControlsFrom index previous cs) :
    cs.map Control.index = List.range' index cs.length := by
  induction h with
  | nil => rfl
  | cons index previous c cs hindex _ _ _ _ _ ih =>
    rw [List.map_cons, ih, hindex, List.length_cons, List.range'_succ]

/-- All that a control promises by itself. -/
structure Control.Sound (c : Control) : Prop where
  prbs : ratioToPrbs c.ratio = some c.prbs
  applied : c.commandNs < c.appliedNs
  acknowledged : c.appliedNs < c.ackNs

theorem ControlsFrom.sound (h : ControlsFrom index previous cs) : ∀ c ∈ cs, c.Sound := by
  induction h with
  | nil => simp
  | cons index previous c cs _ hprbs _ happlied hack _ ih =>
    intro d hd
    rcases List.mem_cons.mp hd with rfl | hd
    · exact ⟨hprbs, happlied, hack⟩
    · exact ih d hd

theorem ControlsFrom.behind (h : ControlsFrom index previous cs) :
    ∀ t ∈ previous, ∀ c ∈ cs, t < c.commandNs := by
  induction h with
  | nil => simp
  | cons index previous c cs _ _ hprevious happlied hack _ ih =>
    intro t ht d hd
    rcases List.mem_cons.mp hd with rfl | hd
    · exact hprevious t ht
    · exact (hprevious t ht).trans ((happlied.trans hack).trans (ih c.ackNs rfl d hd))

theorem ControlsFrom.pairwise (h : ControlsFrom index previous cs) :
    cs.Pairwise fun c d => c.ackNs < d.commandNs := by
  induction h with
  | nil => exact .nil
  | cons index previous c cs _ _ _ _ _ hrest ih => exact .cons (hrest.behind c.ackNs rfl) ih

end

/-! ### The loaders -/

theorem ratioToPrbs_range {ratio prbs : ℤ} (h : ratioToPrbs ratio = some prbs) :
    (0 ≤ ratio ∧ ratio ≤ 100) ∧ 0 ≤ prbs ∧ prbs ≤ 52 := by
  obtain ⟨before, after, htable, -⟩ := List.lookup_eq_some_iff.mp h
  have hmem : (ratio, prbs) ∈ [((25 : ℤ), (13 : ℤ)), (50, 26), (75, 39), (100, 52)] :=
    htable ▸ List.mem_append_right _ List.mem_cons_self
  simp only [List.mem_cons, Prod.mk.injEq, List.not_mem_nil, or_false] at hmem
  omega

theorem threeDigits_eq {index : ℕ} (h : index < 10) : threeDigits index = [48, 48, 48 + index] := by
  have hall : ∀ i < 10, threeDigits i = [48, 48, 48 + i] := by decide
  exact hall index h

theorem recordId_inj {i j : ℕ} {suffix suffix' : String} (hi : i < 10) (hj : j < 10)
    (h : recordId i suffix = recordId j suffix') : i = j ∧ chars suffix = chars suffix' := by
  rw [recordId, recordId, threeDigits_eq hi, threeDigits_eq hj, List.append_assoc,
    List.append_assoc] at h
  have htail := List.append_cancel_left h
  simp only [List.cons_append, List.nil_append, List.cons.injEq, true_and] at htail
  exact ⟨Nat.add_left_cancel htail.1, htail.2⟩

section
variable {experimentId runId : List ℕ} {index : ℕ} {previous : Option ℤ} {c : Control}
  {cs : List Control}

/-- The events of a control from the epoch on are valid by the schema. -/
theorem schemaValid_events (hid : validIdentity experimentId runId = true) (hc : c.Sound)
    (hns : 0 ≤ c.commandNs) : ∀ event ∈ c.events experimentId runId, schemaValid event = true := by
  obtain ⟨hexperiment, hrun⟩ := Bool.and_eq_true_iff.mp hid
  have hexperiment' : experimentPatterns.any (searchWhole · experimentId) = true := by
    rw [List.any_eq_true] at hexperiment ⊢
    obtain ⟨pattern, hmem, hmatch⟩ := hexperiment
    exact ⟨pattern, hmem, searchWhole_of_fullmatch hmatch⟩
  have hrun' := searchWhole_of_fullmatch hrun
  obtain ⟨⟨hlow, hhigh⟩, hprbsLow, hprbsHigh⟩ := ratioToPrbs_range hc.prbs
  have happlied := hns.trans hc.applied.le
  have hack := happlied.trans hc.acknowledged.le
  have hrecord (suffix : String) : recordId c.index suffix ≠ [] := by simp [recordId, chars]
  intro event hevent
  simp only [Control.events, List.mem_cons, List.not_mem_nil, or_false] at hevent
  rcases hevent with rfl | rfl | rfl
  · simp [schemaValid, commandEvent, hexperiment', hrun', hrecord, hns, inRange, hlow, hhigh,
      requiredFields]
  · simp [schemaValid, appliedEvent, hexperiment', hrun', hrecord, happlied, inRange, hprbsLow,
      hprbsHigh, requiredFields]
  · simp [schemaValid, acknowledgementEvent, hexperiment', hrun', hrecord, hack, inRange,
      requiredFields]

theorem checkRows_cons {seen : List (List ℕ)} {row : ActuatorEvent} {rows : List ActuatorEvent} :
    checkRows experimentId runId seen previous (row :: rows) = .ok () ↔
      schemaValid row = true ∧ row.experimentId = experimentId ∧ row.runId = runId ∧
        row.recordId ∉ seen ∧ (∀ t ∈ previous, t < row.timestampUtcNs) ∧
        checkRows experimentId runId (row.recordId :: seen) (some row.timestampUtcNs) rows =
          .ok () := by
  simp only [checkRows, require_bind_eq_ok, Option.all_eq_true, decide_eq_true_eq, Option.mem_def]

theorem checkRows_events {seen : List (List ℕ)} (h : ControlsFrom index previous cs)
    (hid : validIdentity experimentId runId = true) (hindex : index + cs.length ≤ 10)
    (hns : ∀ c ∈ cs, 0 ≤ c.commandNs)
    (hseen : ∀ i suffix, index ≤ i → i < 10 → recordId i suffix ∉ seen) :
    checkRows experimentId runId seen previous (cs.flatMap (Control.events experimentId runId)) =
      .ok () := by
  induction h generalizing seen with
  | nil => rfl
  | cons index previous c cs hc hprbs hprevious happlied hack hrest ih =>
    rw [List.length_cons] at hindex
    have hlow : index < 10 := by omega
    have hvalid := schemaValid_events hid ⟨hprbs, happlied, hack⟩ (hns c List.mem_cons_self)
    have hnew {suffix suffix' : String} (hne : chars suffix ≠ chars suffix') :
        recordId index suffix ≠ recordId index suffix' :=
      fun heq => hne (recordId_inj hlow hlow heq).2
    rw [List.flatMap_cons]
    show checkRows experimentId runId seen previous
      (commandEvent experimentId runId c.index c.commandNs c.ratio ::
        appliedEvent experimentId runId c.index c.appliedNs 0 c.prbs ::
        acknowledgementEvent experimentId runId c.index c.ackNs ::
        cs.flatMap (Control.events experimentId runId)) = .ok ()
    have hfree (suffix : String) : recordId c.index suffix ∉ seen :=
      hc ▸ hseen index suffix le_rfl hlow
    have hrec (suffix : String) : recordId c.index suffix = recordId index suffix := by rw [hc]
    rw [checkRows_cons, checkRows_cons, checkRows_cons]
    refine ⟨hvalid _ (by simp [Control.events]), rfl, rfl, hfree _, hprevious,
      hvalid _ (by simp [Control.events]), rfl, rfl, ?_, ?_,
      hvalid _ (by simp [Control.events]), rfl, rfl, ?_, ?_, ?_⟩
    · rw [List.mem_cons, not_or]
      refine ⟨?_, hfree _⟩
      show recordId c.index _ ≠ recordId c.index _
      rw [hrec, hrec]
      exact hnew (by decide)
    · intro t ht
      obtain rfl := Option.mem_some_iff.mp ht
      exact happlied
    · rw [List.mem_cons, List.mem_cons, not_or, not_or]
      refine ⟨?_, ?_, hfree _⟩
      · show recordId c.index _ ≠ recordId c.index _
        rw [hrec, hrec]
        exact hnew (by decide)
      · show recordId c.index _ ≠ recordId c.index _
        rw [hrec, hrec]
        exact hnew (by decide)
    · intro t ht
      obtain rfl := Option.mem_some_iff.mp ht
      exact hack
    · apply ih (by omega) (fun d hd => hns d (List.mem_cons_of_mem c hd))
      intro i suffix hi hlt hmem
      have hlater (suffix' : String) : recordId i suffix ≠ recordId c.index suffix' := by
        rw [hrec]
        intro heq
        have := (recordId_inj hlt hlow heq).1
        omega
      rcases List.mem_cons.mp hmem with heq | hmem
      · exact hlater _ heq
      rcases List.mem_cons.mp hmem with heq | hmem
      · exact hlater _ heq
      rcases List.mem_cons.mp hmem with heq | hmem
      · exact hlater _ heq
      · exact hseen i suffix (by omega) hlt hmem

theorem checkControls_events {start : ℕ} (h : ControlsFrom index previous cs) :
    checkControls start previous (cs.flatMap (Control.events experimentId runId)) =
      .ok (cs.map Control.appliedNs) := by
  induction h generalizing start with
  | nil => rfl
  | cons index previous c cs hc hprbs hprevious happlied hack hrest ih =>
    rw [List.flatMap_cons]
    show checkControls start previous (commandEvent experimentId runId c.index c.commandNs c.ratio ::
      appliedEvent experimentId runId c.index c.appliedNs 0 c.prbs ::
      acknowledgementEvent experimentId runId c.index c.ackNs ::
      cs.flatMap (Control.events experimentId runId)) = .ok (c.appliedNs :: cs.map Control.appliedNs)
    simp only [checkControls, bind_eq_ok, orError_eq_ok, require_eq_ok, Option.all_eq_true,
      decide_eq_true_eq]
    exact ⟨(), rfl, c.prbs, hprbs, (), rfl, (), rfl, (), rfl, (), ⟨happlied, hack⟩, (), hprevious,
      cs.map Control.appliedNs, ih, rfl⟩

theorem length_events :
    (cs.flatMap (Control.events experimentId runId)).length = cs.length * 3 := by
  induction cs with
  | nil => rfl
  | cons c cs ih =>
    rw [List.flatMap_cons, List.length_append, ih, List.length_cons, Nat.succ_mul, Nat.add_comm]
    rfl

theorem loadActuatorTimeline_events (h : ControlsFrom 1 none cs)
    (hid : validIdentity experimentId runId = true) (hpos : 1 ≤ cs.length) (hsix : cs.length ≤ 6)
    (hns : ∀ c ∈ cs, 0 ≤ c.commandNs) :
    loadActuatorTimeline (cs.flatMap (Control.events experimentId runId)) experimentId runId =
      .ok (cs.flatMap (Control.events experimentId runId), cs.map Control.appliedNs) := by
  have hne : cs.flatMap (Control.events experimentId runId) ≠ [] := by
    rw [← List.length_pos_iff, length_events]
    omega
  simp only [loadActuatorTimeline, require_bind_eq_ok, length_events]
  refine ⟨hne, Nat.mul_mod_left _ _, ?_, ?_⟩
  · rw [Nat.mul_div_cancel _ (by decide)]
    exact ⟨hpos, hsix⟩
  · rw [unit_bind_eq_ok, bind_eq_ok]
    refine ⟨?_, cs.map Control.appliedNs, checkControls_events h, rfl⟩
    exact checkRows_events h hid (by omega) hns fun _ _ _ _ hmem => by cases hmem

theorem checkPostRows_of_checkRows {seen : List (List ℕ)} {rows : List ActuatorEvent}
    (h : checkRows experimentId runId seen previous rows = .ok ()) :
    checkPostRows experimentId runId previous rows = .ok () := by
  induction rows generalizing seen previous with
  | nil => rfl
  | cons row rows ih =>
    obtain ⟨hvalid, hexperiment, hrun, -, hprevious, hrest⟩ := checkRows_cons.mp h
    simp only [checkPostRows, require_bind_eq_ok, Option.all_eq_true, decide_eq_true_eq]
    exact ⟨hvalid, hexperiment, hrun, hprevious, ih hrest⟩

theorem drop_events (k : ℕ) : (cs.flatMap (Control.events experimentId runId)).drop (k * 3) =
    (cs.drop k).flatMap (Control.events experimentId runId) := by
  induction k generalizing cs with
  | zero => simp
  | succ k ih =>
    cases cs with
    | nil => simp
    | cons c cs =>
      rw [List.drop_succ_cons, ← ih, List.flatMap_cons, Nat.succ_mul, Nat.add_comm, ← List.drop_drop]
      rfl

theorem loadPostT0_events (h : ControlsFrom 1 none cs)
    (hid : validIdentity experimentId runId = true) (hsix : cs.length ≤ 6)
    (hns : ∀ c ∈ cs, 0 ≤ c.commandNs) {k : ℕ} (hk : k < cs.length) :
    loadPostT0 (cs.flatMap (Control.events experimentId runId)) experimentId runId (k + 1 : ℕ) =
      .ok (cs.get ⟨k, hk⟩).appliedNs := by
  have hne : cs.flatMap (Control.events experimentId runId) ≠ [] := by
    rw [← List.length_pos_iff, length_events]
    omega
  have hsound := h.sound _ (List.get_mem cs ⟨k, hk⟩)
  have hselected : ((cs.flatMap (Control.events experimentId runId)).drop
      ((((k + 1 : ℕ) : ℤ).toNat - 1) * 3)).take 3 =
      (cs.get ⟨k, hk⟩).events experimentId runId := by
    rw [Int.toNat_natCast, Nat.add_sub_cancel, drop_events, List.drop_eq_getElem_cons hk,
      List.flatMap_cons]
    rfl
  simp only [loadPostT0, unit_bind_eq_ok, require_eq_ok, length_events]
  refine ⟨hne, Nat.mul_mod_left _ _, ?_, ?_, ?_⟩
  · rw [Nat.mul_div_cancel _ (by decide)]
    omega
  · exact checkPostRows_of_checkRows
      (@checkRows_events experimentId runId 1 none cs [] h hid (by omega) hns (by simp))
  · rw [hselected, Control.events, selectControl]
    simp only [require_bind_eq_ok]
    exact ⟨rfl, rfl, ⟨hsound.applied, hsound.acknowledged⟩, rfl⟩

/-! ### The events as a whole -/

theorem Control.Sound.between (hc : c.Sound) : ∀ event ∈ c.events experimentId runId,
    c.commandNs ≤ event.timestampUtcNs ∧ event.timestampUtcNs ≤ c.ackNs := by
  intro event hevent
  simp only [Control.events, List.mem_cons, List.not_mem_nil, or_false] at hevent
  rcases hevent with rfl | rfl | rfl
  · exact ⟨le_rfl, (hc.applied.trans hc.acknowledged).le⟩
  · exact ⟨hc.applied.le, hc.acknowledged.le⟩
  · exact ⟨(hc.applied.trans hc.acknowledged).le, le_rfl⟩

theorem timestamps_events (h : ControlsFrom index previous cs) :
    ((cs.flatMap (Control.events experimentId runId)).map (·.timestampUtcNs)).Pairwise (· < ·) := by
  rw [List.pairwise_map, List.pairwise_flatMap]
  constructor
  · intro c hc
    have hsound := h.sound c hc
    simp only [Control.events, List.pairwise_cons, List.mem_cons, List.not_mem_nil, or_false,
      forall_eq_or_imp, forall_eq]
    exact ⟨⟨hsound.applied, hsound.applied.trans hsound.acknowledged⟩, hsound.acknowledged,
      fun _ h => h.elim, .nil⟩
  · apply (List.Pairwise.and_mem.mp h.pairwise).imp
    intro c d ⟨hc, hd, hlt⟩ x hx y hy
    have hlast := ((h.sound c hc).between x hx).2
    have hfirst := ((h.sound d hd).between y hy).1
    exact (hlast.trans_lt hlt).trans_le hfirst

def Control.recordIds (c : Control) : List (List ℕ) :=
  [recordId c.index "-COMMAND", recordId c.index "-APPLIED-READBACK",
    recordId c.index "-ACKNOWLEDGEMENT"]

theorem Control.nodup_recordIds (h : c.index < 10) : c.recordIds.Nodup := by
  have hne {suffix suffix' : String} (hne : chars suffix ≠ chars suffix') :
      recordId c.index suffix ≠ recordId c.index suffix' :=
    fun heq => hne (recordId_inj h h heq).2
  simp only [Control.recordIds, List.nodup_cons, List.mem_cons, List.not_mem_nil, or_false, not_or,
    not_false_eq_true, List.nodup_nil, and_true]
  exact ⟨⟨hne (by decide), hne (by decide)⟩, hne (by decide)⟩

theorem recordIds_events (h : ControlsFrom index previous cs) (hindex : index + cs.length ≤ 10) :
    ((cs.flatMap (Control.events experimentId runId)).map (·.recordId)).Nodup := by
  have hids : (cs.flatMap (Control.events experimentId runId)).map (·.recordId) =
      cs.flatMap Control.recordIds := by
    rw [List.map_flatMap]
    rfl
  have hlow : ∀ c ∈ cs, c.index < 10 := by
    intro c hc
    have hmem : c.index ∈ List.range' index cs.length := h.indices ▸ List.mem_map_of_mem hc
    have := (List.mem_range'_1.mp hmem).2
    omega
  have hindices : cs.Pairwise fun c d => c.index ≠ d.index := by
    rw [← List.pairwise_map (R := (· ≠ ·)), h.indices]
    exact List.nodup_range'
  rw [hids, List.nodup_flatMap]
  refine ⟨fun c hc => c.nodup_recordIds (hlow c hc), ?_⟩
  apply (List.Pairwise.and_mem.mp hindices).imp
  intro c d ⟨hc, hd, hne⟩ text hctext hdtext
  have hof {c : Control} (h : text ∈ c.recordIds) : ∃ suffix, text = recordId c.index suffix := by
    simp only [Control.recordIds, List.mem_cons, List.not_mem_nil, or_false] at h
    rcases h with h | h | h <;> exact ⟨_, h⟩
  obtain ⟨suffix, hsuffix⟩ := hof hctext
  obtain ⟨suffix', hsuffix'⟩ := hof hdtext
  exact hne (recordId_inj (hlow c hc) (hlow d hd) (hsuffix.symm.trans hsuffix')).1

/-- The readbacks of a timeline. -/
def appliedReadbacks (events : List ActuatorEvent) : List ActuatorEvent :=
  events.filter fun event => event.eventType = .appliedReadback

theorem appliedReadbacks_events : appliedReadbacks (cs.flatMap (Control.events experimentId runId)) =
    cs.map fun c => appliedEvent experimentId runId c.index c.appliedNs 0 c.prbs := by
  induction cs with
  | nil => rfl
  | cons c cs ih =>
    rw [List.flatMap_cons, List.map_cons, ← ih, appliedReadbacks, List.filter_append]
    rfl

theorem checkRows_rows {seen : List (List ℕ)} {rows : List ActuatorEvent}
    (h : checkRows experimentId runId seen previous rows = .ok ()) :
    ∀ row ∈ rows, schemaValid row = true ∧ row.experimentId = experimentId ∧ row.runId = runId := by
  induction rows generalizing seen previous with
  | nil => simp
  | cons row rows ih =>
    obtain ⟨hvalid, hexperiment, hrun, -, -, hrest⟩ := checkRows_cons.mp h
    intro other hother
    rcases List.mem_cons.mp hother with rfl | hother
    · exact ⟨hvalid, hexperiment, hrun⟩
    · exact ih hrest other hother

theorem loaded_rows {rows loaded : List ActuatorEvent} {applieds : List ℤ}
    (h : loadActuatorTimeline rows experimentId runId = .ok (loaded, applieds)) :
    ∀ row ∈ rows, schemaValid row = true ∧ row.experimentId = experimentId ∧ row.runId = runId := by
  simp only [loadActuatorTimeline, unit_bind_eq_ok] at h
  exact checkRows_rows h.2.2.2.1

end

/-! ### Builder and loaders -/

/-- What the builder promises of the events of the ratios. -/
structure TimelineSound (ratios : List ℤ) (events : List ActuatorEvent) : Prop where
  recordIds : (events.map (·.recordId)).Nodup
  timestamps : (events.map (·.timestampUtcNs)).Pairwise (· < ·)
  applied : (appliedReadbacks events).map (fun event => (event.appliedMinPrbs, event.appliedMaxPrbs)) =
    ratios.map fun ratio => (some 0, ratioToPrbs ratio)

/-- Both loaders accept the timeline and answer with the times of its readbacks. -/
structure LoadersAccept (experimentId runId : List ℕ) (controls : ℕ) (events : List ActuatorEvent) :
    Prop where
  timeline : loadActuatorTimeline events experimentId runId =
    .ok (events, (appliedReadbacks events).map (·.timestampUtcNs))
  post : ∀ k : ℕ, 1 ≤ k → k ≤ controls → ∃ event, (appliedReadbacks events)[k - 1]? = some event ∧
    loadPostT0 events experimentId runId k = .ok event.timestampUtcNs

/-- What the builder returns for up to six controls is a sound timeline, and the loaders accept it
exactly where it does not reach back behind the epoch. -/
theorem built_timeline_accepted {experimentId runId : List ℕ} {ratios : List ℤ}
    {commandLines appliedLines ackLines : List (List ℕ)} {events : List ActuatorEvent}
    (hid : validIdentity experimentId runId = true) (hcount : 1 ≤ ratios.length ∧ ratios.length ≤ 6)
    (h : buildEvents experimentId runId ratios commandLines appliedLines ackLines = .ok events) :
    TimelineSound ratios events ∧
      (LoadersAccept experimentId runId ratios.length events ↔
        ∀ event ∈ events, 0 ≤ event.timestampUtcNs) := by
  obtain ⟨cs, hcs, rfl, rfl⟩ := buildEvents_ok h
  rw [List.length_map] at hcount ⊢
  have hreadbacks : (appliedReadbacks (cs.flatMap (Control.events experimentId runId))).map
      (·.timestampUtcNs) = cs.map Control.appliedNs := by
    rw [appliedReadbacks_events, List.map_map]
    rfl
  refine ⟨⟨recordIds_events hcs (by omega), timestamps_events hcs, ?_⟩, ?_, ?_⟩
  · rw [appliedReadbacks_events, List.map_map, List.map_map]
    apply List.map_congr_left
    intro c hc
    show (some 0, some c.prbs) = (some 0, ratioToPrbs c.ratio)
    rw [(hcs.sound c hc).prbs]
  · intro haccept event hevent
    have hvalid := (loaded_rows haccept.timeline event hevent).1
    simp only [schemaValid, Bool.and_eq_true, decide_eq_true_eq] at hvalid
    exact hvalid.1.1.1.1.2
  · intro hepoch
    have hns : ∀ c ∈ cs, 0 ≤ c.commandNs := fun c hc =>
      hepoch (commandEvent experimentId runId c.index c.commandNs c.ratio)
        (List.mem_flatMap.mpr ⟨c, hc, List.mem_cons_self⟩)
    constructor
    · rw [hreadbacks]
      exact loadActuatorTimeline_events hcs hid hcount.1 hcount.2 hns
    · intro k hpos hk
      have hlt : k - 1 < cs.length := by omega
      refine ⟨appliedEvent experimentId runId (cs.get ⟨k - 1, hlt⟩).index
        (cs.get ⟨k - 1, hlt⟩).appliedNs 0 (cs.get ⟨k - 1, hlt⟩).prbs, ?_, ?_⟩
      · rw [appliedReadbacks_events, List.getElem?_map, List.getElem?_eq_getElem hlt]
        rfl
      · have hload := loadPostT0_events hcs hid hcount.2 hns hlt
        rwa [Nat.sub_add_cancel hpos] at hload

/-- One control from 26 to 39 PRBs. -/
def sampleExperimentId : List ℕ := chars "EXP-20260101-DL-18000K-R01"

def sampleRunId : List ℕ := chars "RUN-20260101T000000Z-001"

def sampleEvents (day : String) : Except String (List ActuatorEvent) :=
  buildEvents sampleExperimentId sampleRunId [75] [chars day ++ chars "T00:00:01Z"]
    [chars day ++ chars "T00:00:02 PRB_ACTUATOR_APPLIED applied_min_prbs=0 applied_max_prbs=39"]
    [chars day ++ chars "T00:00:03.5Z"]

theorem sampleEvents_ok : (sampleEvents "2026-01-01").toBool = true ∧
    (sampleEvents "1969-12-31").toBool = true := by
  decide +kernel

theorem sample_validIdentity : validIdentity sampleExperimentId sampleRunId = true := by
  decide +kernel

theorem built_timeline_accepted_sample : ∃ events, sampleEvents "2026-01-01" = .ok events ∧
    TimelineSound [75] events ∧ (LoadersAccept sampleExperimentId sampleRunId 1 events ↔
      ∀ event ∈ events, 0 ≤ event.timestampUtcNs) := by
  obtain ⟨events, h⟩ := exists_ok sampleEvents_ok.1
  exact ⟨events, h, built_timeline_accepted sample_validIdentity (by decide) h⟩

/-- A timeline from before the epoch is built, but the canonicalizer does not load it. -/
theorem timeline_before_epoch_refused : ∃ events, sampleEvents "1969-12-31" = .ok events ∧
    validIdentity sampleExperimentId sampleRunId = true ∧
    loadActuatorTimeline events sampleExperimentId sampleRunId = .error "ValidationError" := by
  obtain ⟨events, h⟩ := exists_ok sampleEvents_ok.2
  refine ⟨events, h, sample_validIdentity, ?_⟩
  have hload : (sampleEvents "1969-12-31").bind
      (loadActuatorTimeline · sampleExperimentId sampleRunId) = .error "ValidationError" := by
    decide +kernel
  rwa [h] at hload

/-! ### Builder and adjudicators -/

/-- Both adjudicators refuse the timeline of the one control that the builder makes and the
canonicalizer loads: they expect the acknowledgement before the readback. -/
theorem built_timeline_refused {experimentId runId : List ℕ} {ratio : ℤ}
    {commandLines appliedLines ackLines : List (List ℕ)} {events loaded : List ActuatorEvent}
    {applieds : List ℤ}
    (h : buildEvents experimentId runId [ratio] commandLines appliedLines ackLines = .ok events)
    (hload : loadActuatorTimeline events experimentId runId = .ok (loaded, applieds)) :
    evidenceOrderCheck events = .error "SCIENTIFIC_TIMELINE_EVENT_ORDER_INVALID" ∧
      adjudicateEvidence events experimentId runId =
        .error "SCIENTIFIC_TIMELINE_EVENT_ORDER_INVALID" ∧
      postvalOrderCheck events = .error "ACTUATOR_TIMELINE_ORDER_INVALID" := by
  have hrows := loaded_rows hload
  obtain ⟨cs, -, hratios, rfl⟩ := buildEvents_ok h
  obtain ⟨c, rfl, -⟩ := List.map_eq_singleton_iff.mp hratios
  rw [List.flatMap_singleton] at hrows ⊢
  have hlength : (c.events experimentId runId).length = 3 := rfl
  have htypes : (c.events experimentId runId).map (·.eventType) ≠ adjudicatedOrder := by
    show triplet ≠ adjudicatedOrder
    decide
  have hcheck : evidenceOrderCheck (c.events experimentId runId) =
      .error "SCIENTIFIC_TIMELINE_EVENT_ORDER_INVALID" := by
    rw [evidenceOrderCheck, require, if_neg htypes]
    rfl
  have hvalid : (c.events experimentId runId).all schemaValid = true :=
    List.all_eq_true.mpr fun row hrow => (hrows row hrow).1
  have hidentity : ((c.events experimentId runId).all fun row =>
      row.experimentId = experimentId ∧ row.runId = runId) = true :=
    List.all_eq_true.mpr fun row hrow => decide_eq_true (hrows row hrow).2
  refine ⟨hcheck, ?_, ?_⟩
  · rw [adjudicateEvidence, require, if_pos hlength, require, if_pos hvalid, require,
      if_pos hidentity]
    exact hcheck
  · rw [postvalOrderCheck, require, if_neg fun hboth => htypes hboth.2]
    rfl

theorem sampleEvents_loaded : ((sampleEvents "2026-01-01").bind
    (loadActuatorTimeline · sampleExperimentId sampleRunId)).toBool = true := by
  decide +kernel

theorem built_timeline_refused_sample : ∃ events, sampleEvents "2026-01-01" = .ok events ∧
    evidenceOrderCheck events = .error "SCIENTIFIC_TIMELINE_EVENT_ORDER_INVALID" ∧
      adjudicateEvidence events sampleExperimentId sampleRunId =
        .error "SCIENTIFIC_TIMELINE_EVENT_ORDER_INVALID" ∧
      postvalOrderCheck events = .error "ACTUATOR_TIMELINE_ORDER_INVALID" := by
  obtain ⟨events, h⟩ := exists_ok sampleEvents_ok.1
  have hload := sampleEvents_loaded
  rw [h] at hload
  obtain ⟨⟨loaded, applieds⟩, hload⟩ := exists_ok hload
  exact ⟨events, h, built_timeline_refused h hload⟩

/-- The timeline of the transition from 26 to 39 PRBs is built and loaded, but neither adjudicator
accepts its order. -/
theorem transition_26_to_39_refused : ∃ events, sampleEvents "2026-01-01" = .ok events ∧
    (loadActuatorTimeline events sampleExperimentId sampleRunId).toBool = true ∧
    (loadPostT0 events sampleExperimentId sampleRunId 1).toBool = true ∧
    ¬(evidenceOrderCheck events = .ok () ∧ postvalOrderCheck events = .ok ()) := by
  obtain ⟨events, h⟩ := exists_ok sampleEvents_ok.1
  have hall : (sampleEvents "2026-01-01").map (fun events =>
      (loadActuatorTimeline events sampleExperimentId sampleRunId).toBool &&
      (loadPostT0 events sampleExperimentId sampleRunId 1).toBool &&
      !(evidenceOrderCheck events).toBool) = .ok true := by
    decide +kernel
  rw [h] at hall
  simp only [Except.map, Except.ok.injEq, Bool.and_eq_true, Bool.not_eq_true'] at hall
  refine ⟨events, h, hall.1.1, hall.1.2, ?_⟩
  intro ⟨hcheck, _⟩
  rw [hcheck] at hall
  exact absurd hall.2 (by decide)

end TcdOran.Timeline
