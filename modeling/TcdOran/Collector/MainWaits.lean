import TcdOran.Collector.Environment
import TcdOran.Collector.MainLifecycle

/-! How long `main` waits: the passes of its two polling loops in a run with a configuration that
the loader has taken. -/
namespace TcdOran.Collector
open TcdOran.Lib

def MainAction.asksNodes : MainAction → Bool
  | .nodes _ => true
  | _ => false

def MainAction.polls : MainAction → Bool
  | .poll _ _ _ _ => true
  | _ => false

/-- A reading of the monotonic clock, in milliseconds. -/
def MainAction.reading? : MainAction → Option ℕ
  | .clock reading | .poll _ _ _ reading => reading.map UInt64.toNat
  | _ => none

/-- Where a step stands with respect to a loop that is entered once. -/
inductive Loop (α : Type)
  | before
  | inside (at_ : α)
  | behind

def MainPc.discovery : MainPc → Loop UInt64
  | .initApi | .toApiInitialised | .toRicConnected => .before
  | .discover elapsedMs => .inside elapsedMs
  | _ => .behind

def MainPc.receiving : MainPc → Loop UInt64
  | .poll startMs _ => .inside startMs
  | .initApi | .toApiInitialised | .toRicConnected | .discover _ | .toNodeDiscovered | .selectNode
  | .toNodeSelected | .buildRequest | .contextInit | .install | .report | .toSubscriptionActive
  | .startClock => .before
  | _ => .behind

variable {config : CollectorConfig} {s s' t : MainState} {a : MainAction} {es : List MainEvent}

theorem pc_of_goto {pc : MainPc} (h : t.goto pc = some (s', es)) : s'.pc = pc := by
  obtain ⟨rfl, -⟩ := Prod.mk.inj (Option.some.inj h)
  rfl

theorem pc_of_fail {call : MainCall} {pc : MainPc} (h : t.fail call pc = some (s', es)) :
    s'.pc = pc := by
  obtain ⟨rfl, -⟩ := Prod.mk.inj (Option.some.inj h)
  rfl

theorem pc_of_transition {next : LifecycleState} {refused : Bool} {done failed : MainPc}
    (h : t.transition next refused done failed = some (s', es)) : s'.pc = done ∨ s'.pc = failed := by
  unfold MainState.transition at h
  split at h
  · obtain ⟨rfl, -⟩ := Prod.mk.inj (Option.some.inj h)
    exact .inl rfl
  · exact .inr (pc_of_fail h)

/-- A step that is no pass of a loop and does not read the clock. -/
def MovesOn (pc pc' : MainPc) : Prop :=
  pc' = pc ∨ pc = .toRicConnected ∧ pc' = .discover 0 ∨
    pc'.discovery = pc.discovery ∧ pc'.receiving = pc.receiving ∨
    pc'.discovery = .behind ∧ pc'.receiving = .behind

theorem movesOn_transition {next : LifecycleState} {refused : Bool} {done : MainPc}
    (h : t.transition next refused done .failure = some (s', es)) (hdone : MovesOn s.pc done) :
    MovesOn s.pc s'.pc := by
  rcases pc_of_transition h with hpc | hpc
  · rwa [hpc]
  · exact .inr (.inr (.inr (by rw [hpc]; exact ⟨rfl, rfl⟩)))

theorem movesOn_call {ok : Bool} {call : MainCall} {done : MainPc}
    (h : (if ok then t.goto done else s.fail call .failure) = some (s', es))
    (hdone : MovesOn s.pc done) : MovesOn s.pc s'.pc := by
  split at h
  · rwa [pc_of_goto h]
  · exact .inr (.inr (.inr (by rw [pc_of_fail h]; exact ⟨rfl, rfl⟩)))

/-- What lies behind both loops stays there. -/
theorem movesOn_behind (hstage : s'.pc.discovery = .behind ∧ s'.pc.receiving = .behind) :
    MovesOn s.pc s'.pc := .inr (.inr (.inr hstage))

theorem behind_of_transition {next : LifecycleState} {refused : Bool} {done failed : MainPc}
    (h : t.transition next refused done failed = some (s', es))
    (hdone : done.discovery = .behind ∧ done.receiving = .behind)
    (hfailed : failed.discovery = .behind ∧ failed.receiving = .behind) :
    s'.pc.discovery = .behind ∧ s'.pc.receiving = .behind := by
  rcases pc_of_transition h with hpc | hpc
  · rwa [hpc]
  · rwa [hpc]

theorem movesOn_pipeline {action : Action} (h : stepPipeline s action = some (s', es)) :
    MovesOn s.pc s'.pc := by
  unfold stepPipeline at h
  split at h
  · simp only [Option.bind_eq_bind, Option.bind_eq_some_iff] at h
    obtain ⟨client, -, ⟨client', events⟩, -, h⟩ := h
    obtain ⟨rfl, -⟩ := Prod.mk.inj (Option.some.inj h)
    show MovesOn s.pc (s.pc.afterPipeline events)
    unfold MainPc.afterPipeline
    split
    · exact .inr (.inr (.inr ⟨rfl, rfl⟩))
    · exact .inl rfl
  · cases h

theorem movesOn_contextInit {mutexInits : Bool} {output : Option OutputPipelineConfig}
    {outcome : CreateOutcome} (hpc : s.pc = .contextInit)
    (h : stepContextInit s mutexInits output outcome = some (s', es)) : MovesOn s.pc s'.pc := by
  unfold stepContextInit at h
  repeat' split at h
  · obtain ⟨rfl, -⟩ := Prod.mk.inj (Option.some.inj h)
    exact .inr (.inr (.inl (by rw [hpc]; exact ⟨rfl, rfl⟩)))
  · exact movesOn_behind (by rw [pc_of_fail h]; exact ⟨rfl, rfl⟩)
  · exact movesOn_behind (by rw [pc_of_fail h]; exact ⟨rfl, rfl⟩)

/-- Where a step leads, the passes of the loops aside. -/
theorem pc_step (h : mainMachine config s a = some (s', es)) :
    (∃ elapsedMs found, a = .nodes found ∧ s.pc = .discover elapsedMs ∧
      stepDiscover config s elapsedMs found = some (s', es)) ∨
    (∃ startMs receivingDone indications refused stopRequested reading,
      a = .poll indications refused stopRequested reading ∧ s.pc = .poll startMs receivingDone ∧
      stepPoll config s startMs receivingDone indications refused stopRequested reading =
        some (s', es)) ∨
    (∃ startMs, a = .clock (some startMs) ∧ s.pc = .startClock ∧ s'.pc = .poll startMs false) ∨
    a.asksNodes = false ∧ a.reading? = none ∧ a.polls = false ∧ MovesOn s.pc s'.pc := by
  unfold mainMachine at h
  split at h
  case h_5 elapsedMs found hpc => exact .inl ⟨elapsedMs, found, rfl, hpc, h⟩
  case h_16 startMs done indications refused stop reading hpc =>
    exact .inr (.inl ⟨startMs, done, indications, refused, stop, reading, rfl, hpc, h⟩)
  case h_14 startMs hpc => exact .inr (.inr (.inl ⟨startMs, rfl, hpc, pc_of_goto h⟩))
  case h_32 => cases h
  all_goals refine .inr (.inr (.inr ⟨rfl, rfl, rfl, ?_⟩))
  case h_1 => exact movesOn_pipeline h
  case h_2 hpc => exact .inr (.inr (.inl (by rw [hpc, pc_of_goto h]; exact ⟨rfl, rfl⟩)))
  case h_4 hpc => exact movesOn_transition h (.inr (.inl ⟨hpc, rfl⟩))
  case h_3 hpc | h_6 hpc | h_8 hpc | h_13 hpc =>
    exact movesOn_transition h (.inr (.inr (.inl (by rw [hpc]; exact ⟨rfl, rfl⟩))))
  case h_7 hpc | h_9 hpc =>
    exact movesOn_call h (.inr (.inr (.inl (by rw [hpc]; exact ⟨rfl, rfl⟩))))
  case h_10 hpc => exact movesOn_contextInit hpc h
  case h_11 hpc =>
    unfold stepInstall at h
    split at h
    · exact movesOn_behind (by rw [pc_of_fail h]; exact ⟨rfl, rfl⟩)
    · obtain ⟨rfl, -⟩ := Prod.mk.inj (Option.some.inj h)
      exact .inr (.inr (.inl (by rw [hpc]; exact ⟨rfl, rfl⟩)))
  case h_12 answer hpc =>
    cases answer with
    | none => exact movesOn_behind (by rw [pc_of_fail h]; exact ⟨rfl, rfl⟩)
    | some handle =>
      obtain ⟨rfl, -⟩ := Prod.mk.inj (Option.some.inj h)
      exact .inr (.inr (.inl (by rw [hpc]; exact ⟨rfl, rfl⟩)))
  case h_15 => exact movesOn_behind (by rw [pc_of_fail h]; exact ⟨rfl, rfl⟩)
  case h_17 | h_19 | h_22 => exact movesOn_behind (behind_of_transition h ⟨rfl, rfl⟩ ⟨rfl, rfl⟩)
  case h_18 | h_23 =>
    obtain ⟨rfl, -⟩ := Prod.mk.inj (Option.some.inj h)
    exact movesOn_behind ⟨rfl, rfl⟩
  case h_20 | h_27 => exact movesOn_behind (by rw [pc_of_goto h]; exact ⟨rfl, rfl⟩)
  case h_21 =>
    split at h
    · exact movesOn_behind (by rw [pc_of_goto h]; exact ⟨rfl, rfl⟩)
    · exact movesOn_behind (by rw [pc_of_fail h]; exact ⟨rfl, rfl⟩)
  case h_24 =>
    unfold stepFailure at h
    split at h <;> exact movesOn_behind (by rw [pc_of_goto h]; exact ⟨rfl, rfl⟩)
  case h_25 =>
    unfold stepFailureRemove at h
    split at h
    · obtain ⟨rfl, -⟩ := Prod.mk.inj (Option.some.inj h)
      exact movesOn_behind ⟨rfl, rfl⟩
    · exact movesOn_behind (by rw [pc_of_goto h]; exact ⟨rfl, rfl⟩)
  case h_26 =>
    unfold stepFailureUninstall at h
    split at h <;> exact movesOn_behind (by rw [pc_of_goto h]; exact ⟨rfl, rfl⟩)
  case h_28 =>
    unfold stepFailureStopped at h
    repeat' split at h
    all_goals exact movesOn_behind (by rw [pc_of_goto h]; exact ⟨rfl, rfl⟩)
  case h_29 =>
    unfold stepDestroy at h
    split at h
    · obtain ⟨rfl, -⟩ := Prod.mk.inj (Option.some.inj h)
      exact movesOn_behind ⟨rfl, rfl⟩
    · exact movesOn_behind (by rw [pc_of_goto h]; exact ⟨rfl, rfl⟩)
  case h_30 =>
    simp only [stepSetCounters, Option.bind_eq_bind, Option.bind_eq_some_iff] at h
    obtain ⟨client, -, ⟨client', events⟩, -, h⟩ := h
    obtain ⟨rfl, -⟩ := Prod.mk.inj (Option.some.inj h)
    exact movesOn_behind ⟨rfl, rfl⟩
  case h_31 =>
    unfold stepFinish at h
    repeat' split at h
    all_goals
      obtain ⟨rfl, -⟩ := Prod.mk.inj (Option.some.inj h)
      exact movesOn_behind ⟨rfl, rfl⟩

/-! ### Discovery -/

/-- `timeout_ms`, without overflow. -/
def timeoutMs (config : CollectorConfig) : ℕ := config.discoveryTimeoutSeconds.toNat * 1000

/-- What the loader guarantees of the numbers that the loops use. -/
structure Waitable (config : CollectorConfig) : Prop where
  timeout : config.discoveryTimeoutSeconds.toNat ≤ 300
  poll : 1 ≤ config.discoveryPollMs.toNat ∧ config.discoveryPollMs.toNat ≤ 5000
  duration : config.durationSeconds.toNat ≤ 86400

theorem waitable_of_load {env : Environment} {c : LoadedConfig}
    (h : loadEnvironment env configDefaults = .ok c) : Waitable c.toCollectorConfig := by
  have hd := described_of_load h
  have htimeout := hd.discoveryTimeoutSeconds.range (by decide) (by decide)
  have hpoll := hd.discoveryPollMs.range (by decide) (by decide)
  have hduration := hd.durationSeconds.range (by decide) (by decide)
  exact ⟨htimeout.2, ⟨by omega, hpoll.2⟩, hduration.2⟩

theorem toNat_scaled {x : UInt32} (h : x.toNat ≤ 86400) : (x.toUInt64 * 1000).toNat = x.toNat * 1000 := by
  have hthousand : (1000 : UInt64).toNat = 1000 := rfl
  rw [UInt64.toNat_mul, UInt32.toNat_toUInt64, hthousand, Nat.mod_eq_of_lt (by omega)]

/-- After `n` passes: the loop's clock is `n` poll intervals, cut at the timeout, and the pass before
the last one was early enough for another. -/
def DiscoveryInv (config : CollectorConfig) (n : ℕ) : Loop UInt64 → Prop
  | .before => n = 0
  | .inside elapsedMs =>
      elapsedMs.toNat = min (n * config.discoveryPollMs.toNat) (timeoutMs config) ∧
        (n = 0 ∨ (n - 1) * config.discoveryPollMs.toNat < timeoutMs config)
  | .behind => n ≤ 1 ∨ (n - 2) * config.discoveryPollMs.toNat < timeoutMs config

theorem DiscoveryInv.leave {n : ℕ} {elapsedMs : UInt64}
    (h : DiscoveryInv config n (.inside elapsedMs)) : DiscoveryInv config (n + 1) .behind := by
  rcases h.2 with rfl | hlt
  · exact .inl le_rfl
  · exact .inr (by rwa [show n + 1 - 2 = n - 1 by omega])

theorem discoveryInv_pass (hw : Waitable config) {n : ℕ} {elapsedMs : UInt64} {found : Bool}
    (hinv : DiscoveryInv config n (.inside elapsedMs))
    (h : stepDiscover config s elapsedMs found = some (s', es)) :
    DiscoveryInv config (n + 1) s'.pc.discovery := by
  have htimeout : (config.discoveryTimeoutSeconds.toUInt64 * 1000).toNat = timeoutMs config :=
    toNat_scaled (by have := hw.timeout; omega)
  have hlimit : timeoutMs config ≤ 300000 := by
    have := hw.timeout
    unfold timeoutMs
    omega
  have helapsed := hinv.1
  unfold stepDiscover at h
  simp only at h
  split_ifs at h with hlate hfound hend hnext
  · exact (pc_of_fail h).symm ▸ hinv.leave
  · exact (pc_of_goto h).symm ▸ hinv.leave
  · exact (pc_of_fail h).symm ▸ hinv.leave
  all_goals
    have hpoll := hw.poll
    have hsum : (elapsedMs + config.discoveryPollMs.toUInt64).toNat =
        elapsedMs.toNat + config.discoveryPollMs.toNat := by
      rw [UInt64.toNat_add, UInt32.toNat_toUInt64, Nat.mod_eq_of_lt (by omega)]
    have hearly : n * config.discoveryPollMs.toNat < timeoutMs config := by
      have hne : elapsedMs.toNat ≠ timeoutMs config := fun heq =>
        hend (UInt64.toNat_inj.mp (heq.trans htimeout.symm))
      omega
    have hgrow : (n + 1) * config.discoveryPollMs.toNat =
        n * config.discoveryPollMs.toNat + config.discoveryPollMs.toNat := Nat.succ_mul _ _
    rw [pc_of_goto h]
    rw [gt_iff_lt, UInt64.lt_iff_toNat_lt, htimeout, hsum] at hnext
  · exact ⟨by rw [htimeout]; omega, .inr hearly⟩
  · exact ⟨by rw [hsum]; omega, .inr hearly⟩

theorem discoveryInv_movesOn {n : ℕ} {pc pc' : MainPc} (h : MovesOn pc pc')
    (hinv : DiscoveryInv config n pc.discovery) : DiscoveryInv config n pc'.discovery := by
  rcases h with rfl | ⟨rfl, rfl⟩ | ⟨hsame, -⟩ | ⟨hbehind, -⟩
  · exact hinv
  · obtain rfl : n = 0 := hinv
    exact ⟨by simp, .inl rfl⟩
  · rwa [hsame]
  · rw [hbehind]
    cases hpc : pc.discovery with
    | before =>
      rw [hpc] at hinv
      obtain rfl : n = 0 := hinv
      exact .inl (by omega)
    | inside elapsedMs =>
      rw [hpc] at hinv
      rcases hinv.2 with rfl | hlt
      · exact .inl (by omega)
      · exact .inr (lt_of_le_of_lt (Nat.mul_le_mul_right _ (by omega)) hlt)
    | behind => rwa [hpc] at hinv

/-- A pass of the receiving loop goes on only with a reading in front of the deadline. -/
theorem pollRest_pass {startMs : UInt64} {receivingDone stopRequested : Bool}
    {reading : Option UInt64}
    (h : stepPollRest config t startMs receivingDone stopRequested reading = some (s', es)) :
    (∃ nowMs receivingDone, s'.pc = .poll startMs receivingDone ∧ reading = some nowMs ∧
      ¬ (config.durationSeconds > 0 ∧
        nowMs - startMs ≥ config.durationSeconds.toUInt64 * 1000)) ∨
      s'.pc = .toStopRequested ∨ s'.pc = .failure := by
  unfold stepPollRest at h
  cases stopRequested with
  | true => exact .inr (.inl (pc_of_goto h))
  | false =>
    cases reading with
    | none => exact .inr (.inr (pc_of_fail h))
    | some nowMs =>
      simp only [Bool.false_eq_true, if_false] at h
      split at h
      · exact .inr (.inl (pc_of_goto h))
      · next hearly => exact .inl ⟨nowMs, receivingDone, pc_of_goto h, rfl, hearly⟩

theorem poll_pass {startMs : UInt64} {receivingDone : Bool} {indications : UInt64}
    {refused stopRequested : Bool} {reading : Option UInt64}
    (h : stepPoll config s startMs receivingDone indications refused stopRequested reading =
      some (s', es)) :
    (∃ nowMs receivingDone, s'.pc = .poll startMs receivingDone ∧ reading = some nowMs ∧
      ¬ (config.durationSeconds > 0 ∧
        nowMs - startMs ≥ config.durationSeconds.toUInt64 * 1000)) ∨
      s'.pc = .toStopRequested ∨ s'.pc = .failure := by
  unfold stepPoll at h
  split at h
  · split at h
    · exact pollRest_pass h
    · exact .inr (.inr (pc_of_fail h))
  · exact pollRest_pass h

theorem discoveryInv_run (hw : Waitable config) {script : List MainAction} {tr : List MainEvent}
    (he : Machine.exec (mainMachine config) mainStart script = some (tr, s)) :
    DiscoveryInv config (script.countP MainAction.asksNodes) s.pc.discovery := by
  refine Machine.exec_invariant
    (I := fun as s => DiscoveryInv config (as.countP MainAction.asksNodes) s.pc.discovery) ?_ ?_ he
  · exact rfl
  intro as s a s' es hinv h
  rw [List.countP_append, List.countP_singleton]
  rcases pc_step h with ⟨elapsedMs, found, rfl, hpc, hstep⟩ |
      ⟨startMs, done, _, _, _, _, rfl, hpc, hstep⟩ | ⟨startMs, rfl, hpc, hpc'⟩ | ⟨hno, -, -, hmoves⟩
  · rw [hpc] at hinv
    exact discoveryInv_pass hw hinv hstep
  · rw [hpc] at hinv
    rcases poll_pass hstep with ⟨_, _, hpc', -⟩ | hpc' | hpc' <;>
      · rw [hpc']
        exact hinv
  · rw [hpc] at hinv
    rw [hpc']
    exact hinv
  · rw [hno]
    exact discoveryInv_movesOn hmoves hinv

/-! ### Receiving -/

/-- The readings of the clock: the one in front of the receiving loop, and one a pass. -/
def clockReadings (script : List MainAction) : List ℕ := script.filterMap MainAction.reading?

/-- The clock does not run backwards, and every pass sleeps for 10 ms behind its reading. -/
def Ticking : List ℕ → Prop
  | [] => True
  | start :: readings => (∀ r ∈ readings.head?, start ≤ r) ∧ readings.IsChain fun r r' => r + 10 ≤ r'

/-- The readings so far: those of the passes that went on lie in front of the deadline. -/
def ReceivingInv (config : CollectorConfig) (readings : List ℕ) (polls : ℕ) : Loop UInt64 → Prop
  | .before => readings = [] ∧ polls = 0
  | .inside startMs => ∃ later, readings = startMs.toNat :: later ∧ polls = later.length ∧
      ∀ r ∈ later, startMs.toNat ≤ r → r < startMs.toNat + config.durationSeconds.toNat * 1000
  | .behind => ∃ start early, (∀ r ∈ early, start ≤ r →
      r < start + config.durationSeconds.toNat * 1000) ∧ polls ≤ early.length + 1 ∧
      (start :: early <+: readings ∨ early = [])

theorem clockReadings_concat {script : List MainAction} {a : MainAction} :
    clockReadings (script ++ [a]) = clockReadings script ++ a.reading?.toList := by
  rw [clockReadings, List.filterMap_append]
  cases h : a.reading? <;> simp [clockReadings, h]

/-- What holds in front of the loop or inside it holds behind it. -/
theorem ReceivingInv.leave {readings : List ℕ} {polls : ℕ} {stage : Loop UInt64}
    (h : ReceivingInv config readings polls stage) : ReceivingInv config readings polls .behind := by
  cases stage with
  | before => exact ⟨0, [], by simp, by simp [h.2], .inr rfl⟩
  | inside startMs =>
    obtain ⟨later, rfl, rfl, hearly⟩ := h
    exact ⟨startMs.toNat, later, hearly, by omega, .inl (List.prefix_refl _)⟩
  | behind => exact h

theorem receivingInv_movesOn {readings : List ℕ} {polls : ℕ} {pc pc' : MainPc} (h : MovesOn pc pc')
    (hinv : ReceivingInv config readings polls pc.receiving) :
    ReceivingInv config readings polls pc'.receiving := by
  rcases h with rfl | ⟨rfl, rfl⟩ | ⟨-, hsame⟩ | ⟨-, hbehind⟩
  · exact hinv
  · exact hinv
  · rwa [hsame]
  · rw [hbehind]
    exact hinv.leave

theorem receiving_of_discover {elapsedMs : UInt64} {found : Bool}
    (h : stepDiscover config s elapsedMs found = some (s', es)) :
    s'.pc.receiving = .before ∨ s'.pc.receiving = .behind := by
  unfold stepDiscover at h
  simp only at h
  split_ifs at h
  · exact .inr (by rw [pc_of_fail h]; rfl)
  · exact .inl (by rw [pc_of_goto h]; rfl)
  · exact .inr (by rw [pc_of_fail h]; rfl)
  · exact .inl (by rw [pc_of_goto h]; rfl)
  · exact .inl (by rw [pc_of_goto h]; rfl)

/-- The difference of the readings does not wrap where the clock has not run backwards. -/
theorem early_of_continued {startMs nowMs : UInt64} {seconds : UInt32} (hpos : 0 < seconds.toNat)
    (hlimit : seconds.toNat ≤ 86400)
    (hgo : ¬ (seconds > 0 ∧ nowMs - startMs ≥ seconds.toUInt64 * 1000))
    (hle : startMs.toNat ≤ nowMs.toNat) : nowMs.toNat < startMs.toNat + seconds.toNat * 1000 := by
  have hset : seconds > 0 := UInt32.lt_iff_toNat_lt.mpr hpos
  have hlt : nowMs - startMs < seconds.toUInt64 * 1000 :=
    UInt64.not_le.mp fun hge => hgo ⟨hset, hge⟩
  rw [UInt64.lt_iff_toNat_lt, toNat_scaled hlimit,
    UInt64.toNat_sub_of_le _ _ (UInt64.le_iff_toNat_le.mpr hle)] at hlt
  omega

section
variable (hpos : 0 < config.durationSeconds.toNat) (hlimit : config.durationSeconds.toNat ≤ 86400)
include hpos hlimit

theorem receivingInv_pass {readings : List ℕ} {polls : ℕ} {startMs indications : UInt64}
    {receivingDone refused stopRequested : Bool} {reading : Option UInt64}
    (hinv : ReceivingInv config readings polls (.inside startMs))
    (h : stepPoll config s startMs receivingDone indications refused stopRequested reading =
      some (s', es)) :
    ReceivingInv config (readings ++ (reading.map UInt64.toNat).toList) (polls + 1)
      s'.pc.receiving := by
  obtain ⟨later, rfl, rfl, hearly⟩ := hinv
  rcases poll_pass h with ⟨nowMs, done, hpc, rfl, hgo⟩ | hpc | hpc
  · rw [hpc]
    refine ⟨later ++ [nowMs.toNat], rfl, by simp, fun r hr hle => ?_⟩
    rcases List.mem_append.mp hr with hr | hr
    · exact hearly r hr hle
    · obtain rfl := List.mem_singleton.mp hr
      exact early_of_continued hpos hlimit hgo hle
  all_goals
    rw [hpc]
    exact ⟨startMs.toNat, later, hearly, le_rfl, .inl (List.prefix_append _ _)⟩

theorem receivingInv_run {script : List MainAction} {tr : List MainEvent}
    (he : Machine.exec (mainMachine config) mainStart script = some (tr, s)) :
    ReceivingInv config (clockReadings script) (script.countP MainAction.polls) s.pc.receiving := by
  refine Machine.exec_invariant
    (I := fun as s => ReceivingInv config (clockReadings as) (as.countP MainAction.polls)
      s.pc.receiving) ?_ ?_ he
  · exact ⟨rfl, rfl⟩
  intro as s a s' es hinv h
  rw [List.countP_append, List.countP_singleton, clockReadings_concat]
  rcases pc_step h with ⟨elapsedMs, found, rfl, hpc, hstep⟩ |
      ⟨startMs, done, indications, refused, stop, reading, rfl, hpc, hstep⟩ |
      ⟨startMs, rfl, hpc, hpc'⟩ | ⟨-, hreading, hpolls, hmoves⟩
  · rw [hpc] at hinv
    have hkept : ReceivingInv config (clockReadings as ++ [])
        (as.countP MainAction.polls + 0) (.before : Loop UInt64) := by
      rwa [List.append_nil]
    rcases receiving_of_discover hstep with hpc' | hpc'
    · rw [hpc']
      exact hkept
    · rw [hpc']
      exact hkept.leave
  · rw [hpc] at hinv
    exact receivingInv_pass hpos hlimit hinv hstep
  · rw [hpc] at hinv
    rw [hpc', hinv.1, hinv.2]
    exact ⟨[], rfl, rfl, by simp⟩
  · rw [hreading, hpolls]
    have hmoved := receivingInv_movesOn hmoves hinv
    rwa [← List.append_nil (clockReadings as)] at hmoved

end

/-- Each reading lies 10 ms behind the one in front of it. -/
theorem chain_span {x : ℕ} {xs : List ℕ} (h : (x :: xs).IsChain fun r r' => r + 10 ≤ r') :
    ∃ r ∈ x :: xs, x + 10 * xs.length ≤ r := by
  induction xs generalizing x with
  | nil => exact ⟨x, List.mem_singleton_self x, by simp⟩
  | cons y ys ih =>
    obtain ⟨hstep, hrest⟩ := List.isChain_cons_cons.mp h
    obtain ⟨r, hr, hle⟩ := ih hrest
    exact ⟨r, List.mem_cons_of_mem x hr, by rw [List.length_cons]; omega⟩

theorem ReceivingInv.polls_le {readings : List ℕ} {polls : ℕ} {stage : Loop UInt64}
    (h : ReceivingInv config readings polls stage) (htick : Ticking readings) :
    polls ≤ 100 * config.durationSeconds.toNat + 1 := by
  obtain ⟨start, early, hearly, hpolls, hfront⟩ := h.leave
  cases early with
  | nil =>
    rw [List.length_nil] at hpolls
    omega
  | cons x xs =>
    obtain ⟨rest, rfl⟩ := hfront.resolve_right (List.cons_ne_nil x xs)
    obtain ⟨hhead, hchain⟩ := htick
    have hstart : start ≤ x := hhead x rfl
    obtain ⟨r, hr, hle⟩ := chain_span (List.IsChain.left_of_append hchain)
    have hlate : r < start + config.durationSeconds.toNat * 1000 := hearly r hr (by omega)
    rw [List.length_cons] at hpolls
    omega

/-- The passes that a timeout leaves room for. -/
theorem DiscoveryInv.asks_le (hw : Waitable config) {n : ℕ} {stage : Loop UInt64}
    (h : DiscoveryInv config n stage) :
    n ≤ (timeoutMs config + config.discoveryPollMs.toNat - 1) / config.discoveryPollMs.toNat + 1 := by
  have hfits {k : ℕ} (hk : k * config.discoveryPollMs.toNat < timeoutMs config) :
      k + 1 ≤ (timeoutMs config + config.discoveryPollMs.toNat - 1) /
        config.discoveryPollMs.toNat := by
    have hgrow : (k + 1) * config.discoveryPollMs.toNat =
        k * config.discoveryPollMs.toNat + config.discoveryPollMs.toNat := Nat.succ_mul _ _
    have hpoll := hw.poll.1
    rw [Nat.le_div_iff_mul_le (by omega)]
    omega
  cases stage with
  | before =>
    obtain rfl : n = 0 := h
    exact Nat.zero_le _
  | inside elapsedMs =>
    rcases h.2 with rfl | hlt
    · exact Nat.zero_le _
    · have := hfits hlt
      omega
  | behind =>
    rcases h with hone | hlt
    · exact hone.trans (Nat.le_add_left 1 _)
    · have := hfits hlt
      omega

/-- `main` never waits for ever on the configuration it has loaded: it asks for the nodes at most
once a poll interval until the timeout, and, where a duration is set and the clock ticks, it polls
for indications at most once every 10 ms until the duration is over. -/
theorem main_waits_bounded {env : Environment} {c : LoadedConfig} {script : List MainAction}
    {tr : List MainEvent} (hload : loadEnvironment env configDefaults = .ok c)
    (he : Machine.exec (mainMachine c.toCollectorConfig) mainStart script = some (tr, s)) :
    script.countP MainAction.asksNodes ≤
      (c.discoveryTimeoutSeconds.toNat * 1000 + c.discoveryPollMs.toNat - 1) /
        c.discoveryPollMs.toNat + 1 ∧
    (0 < c.durationSeconds.toNat → Ticking (clockReadings script) →
      script.countP MainAction.polls ≤ 100 * c.durationSeconds.toNat + 1) := by
  have hw := waitable_of_load hload
  exact ⟨(discoveryInv_run hw he).asks_le hw,
    fun hpos htick => (receivingInv_run hpos hw.duration he).polls_le htick⟩

/-- One second to receive in, and the defaults. -/
def waitingEnvironment : Environment where
  getenv name := if name = "TCD_KPM_DURATION_SECONDS" then some (bytes " +1") else none
  noNul h := by
    split at h
    · obtain rfl := Option.some.inj h
      decide
    · cases h

/-- A run that finds a node in the third pass and is stopped by the clock in the third poll. -/
def waitingScript : List MainAction :=
  [.advance, .transition false, .transition false, .nodes false, .nodes false, .nodes true,
    .transition false, .call true, .transition false, .call true,
    .init true (some ⟨none, none, none⟩) allSucceed, .advance, .report (some 7),
    .transition false, .clock (some 100), .poll 0 false false (some 100),
    .poll 0 false false (some 110), .poll 0 false false (some 1100)]

theorem main_waits_bounded_sample : ∃ c tr s,
    loadEnvironment waitingEnvironment configDefaults = .ok c ∧
    Machine.exec (mainMachine c.toCollectorConfig) mainStart waitingScript = some (tr, s) ∧
    waitingScript.countP MainAction.asksNodes ≤
      (c.discoveryTimeoutSeconds.toNat * 1000 + c.discoveryPollMs.toNat - 1) /
        c.discoveryPollMs.toNat + 1 ∧
    waitingScript.countP MainAction.polls ≤ 100 * c.durationSeconds.toNat + 1 := by
  have hruns : (loadEnvironment waitingEnvironment configDefaults).toOption.bind (fun c =>
      (Machine.exec (mainMachine c.toCollectorConfig) mainStart waitingScript).map fun _ =>
        decide (0 < c.durationSeconds.toNat)) = some true := by decide +kernel
  have hloads : (loadEnvironment waitingEnvironment configDefaults).toBool = true := by
    decide +kernel
  obtain ⟨c, hload⟩ := exists_ok hloads
  rw [hload] at hruns
  obtain ⟨⟨tr, s⟩, hexec, hpos⟩ := Option.map_eq_some_iff.mp hruns
  have hbounded := main_waits_bounded hload hexec
  have htick : Ticking (clockReadings waitingScript) := ⟨by decide, by decide⟩
  exact ⟨c, tr, s, hload, hexec, hbounded.1,
    hbounded.2 (of_decide_eq_true hpos) htick⟩

end TcdOran.Collector
