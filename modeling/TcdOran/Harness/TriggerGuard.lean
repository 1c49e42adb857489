import TcdOran.Harness.TriggerRecord
import TcdOran.Lib.PythonText

/-! What stands in front of the write of the trigger executor, and what its dry run leaves alone. -/
namespace TcdOran.Harness
open TcdOran.Lib Python Attempt

/-! ### What is admitted -/

theorem eq_of_decimalDiffers {left right : PyDecimal} (h : decimalDiffers left right = some false) :
    left = right := by
  unfold decimalDiffers at h
  split at h
  · cases h
  · cases h
  · cases h
  · cases h
  · exact not_not.mp (of_decide_eq_false (Option.some.inj h))

/-- The gates of the source. -/
structure SourcePasses (members : List (List ℕ × Json)) : Prop where
  selection : sourceGet members "selection" = .str (chars "latest_50_complete_contiguous_samples")
  count : equalsInt (sourceGet members "selected_complete_count") 50 = true
  windowBinding : sourceGet members "stationarity_window_binding_gate" = .str (chars "PASS")
  stationarity : sourceGet members "output_stationarity_gate" = .str (chars "PASS")
  freshness : sourceGet members "freshness_gate" = .str (chars "PASS")
  admission : sourceGet members "precontrol_admission_gate" = .str (chars "PASS")

theorem sourcePasses_iff {members : List (List ℕ × Json)} :
    requiredSourcePass members = true ↔ SourcePasses members := by
  simp only [requiredSourcePass, Bool.and_eq_true, isText_iff]
  constructor
  · rintro ⟨⟨⟨⟨⟨hselection, hcount⟩, hbinding⟩, hstationarity⟩, hfreshness⟩, hadmission⟩
    exact ⟨hselection, hcount, hbinding, hstationarity, hfreshness, hadmission⟩
  · rintro ⟨hselection, hcount, hbinding, hstationarity, hfreshness, hadmission⟩
    exact ⟨⟨⟨⟨⟨hselection, hcount⟩, hbinding⟩, hstationarity⟩, hfreshness⟩, hadmission⟩

theorem payload_eq {args : ExecutorArgs} {bytes : List UInt8} (h : payload args = some bytes) :
    bytes = utf8OfCodePoints args.triggerToken ++ [10] := by
  unfold payload encode at h
  split_ifs at h
  rw [← Option.some.inj h, utf8OfCodePoints_append]
  rfl

section
variable (o : ExecutorSurroundings) (args : ExecutorArgs)

/-- All that has held where a trigger is written. -/
structure TriggerGuards (bytes : List UInt8) : Prop where
  mode : args.mode = .fifo
  token : args.controlAuthorizationToken = some (chars controlAuthorizationToken)
  fifo : o.fifoStat = .fifo
  bytes_eq : bytes = utf8OfCodePoints args.triggerToken ++ [10]
  source : ∃ members, o.sourceIsFile = .ok true ∧ o.source = some (.obj members) ∧
    SourcePasses members ∧ ∃ timing, sourceTiming members args.maxAgeMs = some timing ∧
      timing.maxAgeMs = .finite 800 ∧ timing.requestedMaxAgeMs = .finite 800 ∧
      timing.decisionNs ≤ o.startNs ∧ 0 ≤ o.startNs - timing.latestSampleNs ∧
      o.startNs - timing.latestSampleNs ≤ 800 * 1000000

variable {o args}

theorem guards_of_submits {bytes : List UInt8} (h : Submits o args bytes) :
    TriggerGuards o args bytes := by
  obtain ⟨hmode, ⟨members, ⟨hfile, hsource, hpass⟩, timing, ⟨htiming, hsame, hfrozen⟩, injected,
    hinjected, hcontrol, hstart⟩, -, hpayload⟩ := h
  have hnone : injected = none := by
    cases injected with
    | none => rfl
    | some start => cases hmode.symm.trans hinjected.1
  rw [ControlAdmitted, hmode] at hcontrol
  obtain ⟨htoken, -, hstat, -⟩ := hcontrol
  obtain ⟨hdecision, hyoung, hold⟩ := hstart
  rw [hnone] at hdecision hyoung hold
  have hrequested := eq_of_decimalDiffers hfrozen
  exact ⟨hmode, htoken, hstat, payload_eq hpayload, members, hfile, hsource, sourcePasses_iff.mp hpass,
    timing, htiming, (eq_of_decimalDiffers hsame).trans hrequested, hrequested, hdecision, hyoung, hold⟩

/-! ### What is written -/

/-- What the run hands to the FIFO. -/
theorem fifoWrites_end : (executorMain o args).2.fifoWrites = [] ∨
    ∃ bytes, Submits o args bytes ∧ (executorMain o args).2.fifoWrites = [bytes] := by
  have hadmit := @decides_gates o args (executorStart args) ⟨rfl, rfl, rfl, rfl, rfl⟩
  have hmain := @executorMain_end o args
  rcases houtcome : outcome (checkGates o args) (executorStart args) with ⟨e | _, s⟩
  · rw [houtcome] at hadmit hmain
    obtain ⟨⟨-, -, -, hwrites, -⟩, -⟩ := hadmit
    rw [hmain]
    exact .inl ((failClosedResult_end e s).trans hwrites)
  · rw [houtcome] at hadmit hmain
    obtain ⟨hs, hadmitted⟩ := hadmit
    cases hmode : args.mode with
    | noControl =>
      rw [hmain, hmode]
      simp only
      rw [handler_notEarly (dryRun_end s).2, (dryRun_end s).1]
      exact .inl hs.2.2.2.1
    | fifo =>
      obtain ⟨⟨hnone, hsent⟩, hearly⟩ := @trigger_end o args s hs
      have hstate : (executorMain o args).2 = (outcome (trigger o args) s).2 := by
        rw [hmain, hmode]
        exact handler_notEarly hearly
      rw [hstate]
      by_cases hsubmits : ∃ bytes, Submits o args bytes
      · obtain ⟨bytes, hsubmit⟩ := hsubmits
        exact .inr ⟨bytes, hsubmit, (hsent bytes hsubmit.2.2.1 hsubmit.2.2.2).1⟩
      · exact .inl (hnone fun bytes h => hsubmits ⟨bytes, hmode, hadmitted, h⟩)

/-- The surroundings with another FIFO. -/
def withFifo (o : ExecutorSurroundings) (fifoStat : FifoStat) (openFifo : Except String Unit)
    (writeFifo : List UInt8 → Except String ℕ) (closeFifo : Except String Unit) :
    ExecutorSurroundings :=
  { o with fifoStat, openFifo, writeFifo, closeFifo }

/-- The dry run does not ask for the FIFO. -/
theorem executorMain_withFifo (hmode : args.mode = .noControl) (fifoStat : FifoStat)
    (openFifo : Except String Unit) (writeFifo : List UInt8 → Except String ℕ)
    (closeFifo : Except String Unit) :
    executorMain (withFifo o fifoStat openFifo writeFifo closeFifo) args = executorMain o args := by
  simp only [executorMain, runExecutor, checkGates, checkControlArguments, hmode]
  rfl

end

/-- What a run writes into the FIFO has all guards behind it; without control there is no write, and
the run goes the same way whatever the FIFO does. -/
structure TriggerGuarded (o : ExecutorSurroundings) (args : ExecutorArgs) : Prop where
  once : (executorMain o args).2.fifoWrites.length ≤ 1
  guarded : ∀ bytes ∈ (executorMain o args).2.fifoWrites, TriggerGuards o args bytes
  unopened : args.mode = .noControl → (executorMain o args).2.fifoWrites = [] ∧
    ∀ fifoStat openFifo writeFifo closeFifo,
      executorMain (withFifo o fifoStat openFifo writeFifo closeFifo) args = executorMain o args

theorem trigger_guarded (o : ExecutorSurroundings) (args : ExecutorArgs) : TriggerGuarded o args := by
  refine ⟨?_, ?_, fun hmode => ⟨?_, executorMain_withFifo hmode⟩⟩
  · rcases @fifoWrites_end o args with hnone | ⟨bytes, -, hone⟩
    · rw [hnone]
      exact Nat.zero_le 1
    · rw [hone]
      exact le_rfl
  · intro bytes hbytes
    rcases @fifoWrites_end o args with hnone | ⟨bytes', hsubmits, hone⟩
    · rw [hnone] at hbytes
      cases hbytes
    · rw [hone, List.mem_singleton] at hbytes
      rw [hbytes]
      exact guards_of_submits hsubmits
  · rcases @fifoWrites_end o args with hnone | ⟨bytes, hsubmits, -⟩
    · exact hnone
    · cases hmode.symm.trans hsubmits.1

end TcdOran.Harness
