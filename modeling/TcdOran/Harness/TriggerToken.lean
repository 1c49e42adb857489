import TcdOran.Harness.FifoReaderOnce
import TcdOran.Harness.TriggerRecord

/-! The token that the trigger executor writes and the line that the FIFO reader takes for a
trigger. -/
namespace TcdOran.Harness
open TcdOran.Lib Python Attempt

/-! ### What the executor reports -/

/-- The result file reports that the trigger is consumed. -/
def ReportsTrigger (s : ExecutorState) : Prop :=
  ∃ result, s.output = some result ∧
    result.reverse.lookup "CONTROL_EXECUTED" = some (.text "YES") ∧
    result.reverse.lookup "SCIENTIFIC_TRIGGER_CONSUMED" = some (.text "YES")

section
variable {o : ExecutorSurroundings} {args : ExecutorArgs}

theorem reports_afterWrite {s : ExecutorState} (houtput : s.output = none)
    (h : ReportsTrigger (afterWrite o s)) :
    s.result.reverse.lookup "CONTROL_EXECUTED" = some (.text "YES") := by
  by_cases hrecordable : Recordable o
  · rw [afterWrite_recordable hrecordable] at h
    obtain ⟨result, hresult, hexecuted, -⟩ := h
    obtain rfl := Option.some.inj hresult
    exact hexecuted
  · rw [afterWrite_not_recordable hrecordable] at h
    obtain ⟨result, hresult, -⟩ := h
    cases houtput.symm.trans hresult

theorem failClosedResult_reports {e : ExecutorExit} {s : ExecutorState} (houtput : s.output = none) :
    ¬ ReportsTrigger (outcome (failClosedResult o e) s).2 := by
  cases e with
  | raised exception =>
    rintro ⟨result, hresult, -⟩
    cases houtput.symm.trans hresult
  | failClosed reason rc =>
    unfold failClosedResult
    simp only
    rw [outcome_bind, update, outcome_modify]
    simp only
    generalize ht : ({ s with result := _ } : ExecutorState) = t
    obtain ⟨r, hr, -⟩ := writeResult_end (o := o) t
    rw [outcome_bind, hr]
    have hnot : ¬ ReportsTrigger (afterWrite o t) := by
      intro h
      have hexecuted := reports_afterWrite (by rw [← ht]; exact houtput) h
      rw [← ht] at hexecuted
      simp [List.lookup_cons] at hexecuted
    cases r with
    | ok => exact hnot
    | error exit => exact hnot

theorem dryRun_reports {s : ExecutorState} (houtput : s.output = none) :
    ¬ ReportsTrigger (outcome (dryRun o) s).2 := by
  unfold dryRun
  rw [outcome_bind, update, outcome_modify]
  simp only
  generalize ht : ({ s with result := _ } : ExecutorState) = t
  obtain ⟨r, hr, hearly⟩ := writeResult_end (o := o) t
  rw [outcome_bind, hr]
  have hnot : ¬ ReportsTrigger (afterWrite o t) := by
    intro h
    have hexecuted := reports_afterWrite (by rw [← ht]; exact houtput) h
    rw [← ht] at hexecuted
    simp [List.lookup_cons] at hexecuted
  cases r with
  | ok => exact hnot
  | error exit => exact hnot

theorem failure_reports (s : ExecutorState) (e : ExecutorExit) :
    (s.result ++ failureEntries s e).reverse.lookup "CONTROL_EXECUTED" ≠ some (.text "YES") := by
  by_cases h : s.writeAttemptCount = 0
  · simp [failureEntries, List.lookup_cons, h]
  · simp [failureEntries, List.lookup_cons, h]

theorem trigger_reports {s : ExecutorState} (hs : Untouched s)
    (h : ReportsTrigger (outcome (trigger o args) s).2) :
    ∃ bytes, o.openFifo = .ok () ∧ payload args = some bytes := by
  by_contra hnone
  have hunsent : ∀ bytes, ¬ (o.openFifo = .ok () ∧ payload args = some bytes) :=
    fun bytes hsent => hnone ⟨bytes, hsent⟩
  have htrigger : trigger o args = (do
      update [("TRIGGER_EXECUTOR_START_UTC_NS", .int o.triggerStartNs)]
      finish o (tryCatch (do submit o args; return none) fun e => some <$> recordFailure o e)) :=
    rfl
  rw [htrigger, outcome_bind, update, outcome_modify] at h
  simp only at h
  generalize hs' : ({ s with result := s.result ++ [("TRIGGER_EXECUTOR_START_UTC_NS",
    .int o.triggerStartNs)] } : ExecutorState) = s' at h
  have houtput : s'.output = none := by
    rw [← hs']
    exact hs.2.2.2.2
  have hsubmit := @submit_end o args s'
  have hcaught : ∀ e t, outcome (submit o args) s' = (.error e, t) →
      outcome (tryCatch (do submit o args; return none) fun e => some <$> recordFailure o e) s' =
        outcome (some <$> recordFailure o e) t := by
    intro e t hsubmit
    rw [outcome_tryCatch, outcome_bind, hsubmit]
  generalize outcome (submit o args) s' = end' at hsubmit hcaught
  cases hsubmit with
  | ambiguous exception bytes hopen hpayload => exact hunsent bytes ⟨hopen, hpayload⟩
  | complete bytes hopen hpayload => exact hunsent bytes ⟨hopen, hpayload⟩
  | unsent exception fd =>
    obtain ⟨r, hr, hearly⟩ := recordFailure_end (o := o) (.raised exception) { s' with fd := fd }
    have hbody := hcaught _ _ rfl
    rw [outcome_map, hr] at hbody
    obtain ⟨r', hfinish, -⟩ := finish_recorded (o := o) hbody hearly
    rw [hfinish] at h
    apply failure_reports { s' with fd := fd } (.raised exception)
    refine reports_afterWrite ?_ h
    exact houtput

/-- An executor that reports its trigger has written the token and a line feed, once. -/
theorem executor_reports (h : ReportsTrigger (executorMain o args).2) :
    ∃ bytes, payload args = some bytes ∧ (executorMain o args).2.fifoWrites = [bytes] := by
  have hadmit := @decides_gates o args (executorStart args) ⟨rfl, rfl, rfl, rfl, rfl⟩
  have hmain := @executorMain_end o args
  rcases houtcome : outcome (checkGates o args) (executorStart args) with ⟨e | _, s⟩
  · rw [houtcome] at hadmit hmain
    rw [hmain] at h
    exact absurd h (failClosedResult_reports hadmit.1.2.2.2.2)
  · rw [houtcome] at hadmit hmain
    obtain ⟨hs, -⟩ := hadmit
    cases hmode : args.mode with
    | noControl =>
      rw [hmain, hmode] at h
      simp only at h
      rw [handler_notEarly (dryRun_end s).2] at h
      exact absurd h (dryRun_reports hs.2.2.2.2)
    | fifo =>
      obtain ⟨⟨-, hsent⟩, hearly⟩ := @trigger_end o args s hs
      have hstate : (executorMain o args).2 = (outcome (trigger o args) s).2 := by
        rw [hmain, hmode]
        exact handler_notEarly hearly
      rw [hstate] at h ⊢
      obtain ⟨bytes, hopen, hpayload⟩ := trigger_reports hs h
      exact ⟨bytes, hpayload, (hsent bytes hopen hpayload).1⟩

end

/-! ### What the reader reads -/

/-- The lines that `readline` gives of a stream opened with `newline=""`; `line` is what has been
read of the current line. -/
def readLinesFrom (line : List ℕ) : List ℕ → List (List ℕ)
  | [] => if line = [] then [] else [line]
  | u :: rest =>
      if u = 10 ∨ u = 13 ∧ rest.head? ≠ some 10 then (line ++ [u]) :: readLinesFrom [] rest
      else readLinesFrom (line ++ [u]) rest

/-- The lines of the bytes of the FIFO, decoded strictly. -/
def readerLines (bytes : List UInt8) : Option (List (List ℕ)) :=
  (codePoints bytes).map (readLinesFrom [])

theorem flatten_readLinesFrom (line text : List ℕ) :
    (readLinesFrom line text).flatten = line ++ text := by
  induction text generalizing line with
  | nil =>
    rw [readLinesFrom]
    split_ifs with hline
    · rw [hline]
      rfl
    · simp
  | cons u rest ih =>
    rw [readLinesFrom]
    split_ifs
    · rw [List.flatten_cons, ih]
      simp
    · rw [ih]
      simp

/-- A character without a code point of its own is read back as NUL. -/
theorem toNat_ofNat (u : ℕ) : (Char.ofNat u).toNat = u ∨ (Char.ofNat u).toNat = 0 := by
  by_cases h : u.isValidChar
  · left
    rw [Char.ofNat, dif_pos h]
    rfl
  · right
    rw [Char.ofNat, dif_neg h]
    rfl

theorem readerLines_trigger_iff {args : ExecutorArgs} {bytes : List UInt8}
    (hpayload : payload args = some bytes) :
    readerLines bytes = some [triggerToken] ↔ args.triggerToken = chars "TRIGGER" := by
  have hbytes : bytes = utf8OfCodePoints (args.triggerToken ++ [10]) := by
    unfold payload encode at hpayload
    split at hpayload
    · exact (Option.some.inj hpayload).symm
    · cases hpayload
  subst hbytes
  have hdecoded : codePoints (utf8OfCodePoints (args.triggerToken ++ [10])) =
      some (args.triggerToken.map (fun u => (Char.ofNat u).toNat) ++ [10]) := by
    rw [utf8OfCodePoints, codePoints_encodeUtf8, List.map_map, List.map_append]
    rfl
  rw [readerLines, hdecoded, Option.map_some, Option.some.injEq]
  constructor
  · intro hlines
    have hflat := congrArg List.flatten hlines
    rw [flatten_readLinesFrom] at hflat
    have hline : [triggerToken].flatten = chars "TRIGGER" ++ [10] := rfl
    rw [hline, List.nil_append] at hflat
    have htoken := List.append_cancel_right hflat
    have hvalid : ∀ u ∈ args.triggerToken, (Char.ofNat u).toNat = u := by
      intro u hu
      rcases toNat_ofNat u with h | h
      · exact h
      · have hmem : (Char.ofNat u).toNat ∈ chars "TRIGGER" := htoken ▸ List.mem_map_of_mem hu
        rw [h] at hmem
        exact absurd hmem (by decide)
    rw [← htoken, List.map_congr_left hvalid, List.map_id']
  · intro htoken
    rw [htoken]
    decide

/-! ### Token and trigger -/

/-- What the reader makes of the bytes that an executor has reported: they are one trigger exactly
where the token is `TRIGGER`, and then a reader whose next binding is valid and not consumed runs
the actuator, which nothing else does for this transition. -/
theorem reported_trigger_executed {o : ExecutorSurroundings} {args : ExecutorArgs}
    (h : ReportsTrigger (executorMain o args).2) :
    ∃ bytes, (executorMain o args).2.fifoWrites = [bytes] ∧
      (readerLines bytes = some [triggerToken] ↔ args.triggerToken = chars "TRIGGER") ∧
      (args.triggerToken = chars "TRIGGER" →
        ∀ (lib : ReaderLibrary) (files : ReaderFiles) (tr : List ReaderEvent) (s : ReaderState)
          (id : ReaderId) (p : ReaderProcess) (raw : List UInt8) (b : RatioBinding) (nowUtc : ℤ),
          Machine.Run (readerMachine lib) (readerStart files) tr s → s.processes id = some p →
          p.pc = .readToken → p.next ≤ 6 → s.files.consumed p.next = none →
          s.files.binding p.next = some ⟨.regular, some raw⟩ →
          validateBinding lib p nowUtc raw = .ok b →
          ∃ tr' t, Machine.exec (readerMachine lib) s
              (((readerLines bytes).getD []).map (.token id ·) ++
                List.replicate 10 (.step id true nowUtc 0)) = some (tr', t) ∧
            .actuated id p.next (intText b.ratio) ∈ tr' ∧
            ((tr ++ tr').filterMap ReaderEvent.actuatedIndex?).count p.next = 1) := by
  obtain ⟨bytes, hpayload, hwrites⟩ := executor_reports h
  have hiff := readerLines_trigger_iff hpayload
  refine ⟨bytes, hwrites, hiff, ?_⟩
  intro htoken lib files tr s id p raw b nowUtc hrun hp hpc hnext hmarker hfile hvalid
  obtain ⟨t, ht⟩ := trigger_actuates hp hpc hnext hmarker hfile hvalid
  have hactuated : .actuated id p.next (intText b.ratio) ∈
      .token id triggerToken :: transitionTrace id p.next b := by simp [transitionTrace]
  refine ⟨_, t, ?_, hactuated, ?_⟩
  · rw [hiff.mpr htoken]
    exact ht
  · apply List.count_eq_one_of_mem (actuatedKey_unique (hrun.append_exec ht))
    rw [List.mem_filterMap]
    exact ⟨_, List.mem_append_right _ hactuated, rfl⟩

/-- Every call succeeds and the result path is free. -/
def recordableSurroundings : ExecutorSurroundings := { takenSurroundings with outputExists := .ok false }

def saysYes : Option ResultValue → Bool
  | some (.text "YES") => true
  | _ => false

theorem reportsTrigger_of {s : ExecutorState} (h : (s.output.map fun result =>
    saysYes (result.reverse.lookup "CONTROL_EXECUTED") &&
      saysYes (result.reverse.lookup "SCIENTIFIC_TRIGGER_CONSUMED")) = some true) :
    ReportsTrigger s := by
  have hyes {value : Option ResultValue} (h : saysYes value = true) : value = some (.text "YES") := by
    unfold saysYes at h
    split at h
    · rfl
    · cases h
  obtain ⟨result, hresult, h⟩ := Option.map_eq_some_iff.mp h
  obtain ⟨hexecuted, hconsumed⟩ := Bool.and_eq_true_iff.mp h
  exact ⟨result, hresult, hyes hexecuted, hyes hconsumed⟩

theorem reported_trigger_executed_sample : ∃ bytes,
    (executorMain recordableSurroundings sampleArgs).2.fifoWrites = [bytes] ∧
    (readerLines bytes = some [triggerToken] ↔ sampleArgs.triggerToken = chars "TRIGGER") ∧
    ∃ tr t, Machine.exec (readerMachine sampleReaderLibrary)
        ((((readerStart sampleReaderFiles).set 0 sampleReader).set 1 sampleReader).set 0 sampleReader)
        (((readerLines bytes).getD []).map (.token 1 ·) ++
          List.replicate 10 (.step 1 true 20 0)) = some (tr, t) ∧
      .actuated 1 1 (chars "75") ∈ tr := by
  obtain ⟨bytes, hwrites, hiff, hexecuted⟩ := reported_trigger_executed
    (reportsTrigger_of (s := (executorMain recordableSurroundings sampleArgs).2) (by decide +kernel))
  obtain ⟨tr, t, hexec, hactuated, -⟩ := hexecuted rfl sampleReaderLibrary sampleReaderFiles _ _ 1
    sampleReader _ ⟨chars "b1", 75⟩ 20 (Machine.run_of_exec sampleReaders_run) rfl rfl (by decide) rfl
    rfl sampleBinding_valid
  exact ⟨bytes, hwrites, hiff, tr, t, hexec, hactuated⟩

def otherArgs : ExecutorArgs := { sampleArgs with triggerToken := chars "GO" }

/-- An executor reports the trigger of a line that the reader rejects. -/
theorem other_token_reported :
    ReportsTrigger (executorMain recordableSurroundings otherArgs).2 ∧
    ∀ bytes ∈ (executorMain recordableSurroundings otherArgs).2.fifoWrites,
      readerLines bytes ≠ some [triggerToken] := by
  have hreports : ReportsTrigger (executorMain recordableSurroundings otherArgs).2 :=
    reportsTrigger_of (by decide +kernel)
  refine ⟨hreports, ?_⟩
  intro bytes hbytes
  obtain ⟨written, hpayload, hwrites⟩ := executor_reports hreports
  rw [hwrites, List.mem_singleton] at hbytes
  rw [hbytes, Ne, readerLines_trigger_iff hpayload]
  decide

end TcdOran.Harness
