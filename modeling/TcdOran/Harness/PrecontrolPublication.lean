import TcdOran.Harness.PrecontrolHandoff

/-! When the precontrol output holds the admitted candidate or is left as it was. -/
namespace TcdOran.Harness.Handoff
open TcdOran.Lib Python Attempt

/-! ### What admission needs -/

section
variable {w : Surroundings} {stationarity template : List (List ℕ)} {candidate : List UInt8}

theorem orRaised_eq_ok {exception : Option String} {u : Unit} :
    orRaised exception = .ok u ↔ exception = none := by
  cases exception <;> simp [orRaised]

theorem orReject_eq_ok {α : Type} {e : HandoffFailure} {x : Except ReadFailure α} {a : α} :
    orReject e x = .ok a ↔ x = .ok a := by
  rcases x with (_ | _) | _ <;> simp [orReject]

/-- The command returns and both logs are written. -/
structure Completed (w : Surroundings) (tool : Tool) (command : List (List ℕ)) (returncode : ℤ)
    (stdout : List ℕ) : Prop where
  run : ∃ stderr, w.run tool command = .completed returncode stdout stderr
  logs : w.fault (.stdoutLog tool) = none ∧ w.fault (.stderrLog tool) = none

theorem runTool_eq_ok {tool : Tool} {command : List (List ℕ)} {returncode : ℤ} {stdout : List ℕ} :
    runTool w tool command = .ok (returncode, stdout) ↔ Completed w tool command returncode stdout := by
  rw [runTool]
  cases hrun : w.run tool command with
  | osError exception =>
    exact iff_of_false nofun fun h => by
      obtain ⟨stderr, heq⟩ := h.run
      cases hrun.symm.trans heq
  | undecodable =>
    exact iff_of_false nofun fun h => by
      obtain ⟨stderr, heq⟩ := h.run
      cases hrun.symm.trans heq
  | completed returncode' stdout' stderr =>
    simp only [unit_bind_eq_ok, orRaised_eq_ok]
    constructor
    · rintro ⟨hout, herr, heq⟩
      obtain ⟨rfl, rfl⟩ := Prod.mk.inj (Except.ok.inj heq)
      exact ⟨⟨stderr, hrun⟩, hout, herr⟩
    · rintro ⟨⟨stderr', heq⟩, hout, herr⟩
      obtain ⟨rfl, rfl, -⟩ := CommandOutcome.completed.inj (hrun.symm.trans heq)
      exact ⟨hout, herr, rfl⟩

/-- The candidate is there, and every gate in it has passed. -/
structure CandidatePasses (w : Surroundings) (candidate : List UInt8) : Prop where
  read : w.candidate = some (.ok candidate)
  gates : ∃ text record, codePoints candidate = some text ∧ w.loads text = .value (.obj record) ∧
    gatesPass record

theorem validatePrecontrol_eq_ok :
    validatePrecontrol w = .ok candidate ↔ CandidatePasses w candidate := by
  rw [validatePrecontrol]
  cases hcandidate : w.candidate with
  | none => exact iff_of_false nofun fun h => by cases hcandidate.symm.trans h.read
  | some content =>
    simp only [bind_eq_ok, orReject_eq_ok]
    constructor
    · rintro ⟨data, rfl, hrecord⟩
      cases htext : codePoints data with
      | none =>
        rw [htext] at hrecord
        cases hrecord
      | some text =>
        rw [htext, Option.map_some] at hrecord
        cases hloads : w.loads text with
        | syntaxError =>
          rw [hloads] at hrecord
          cases hrecord
        | gaveUp =>
          rw [hloads] at hrecord
          cases hrecord
        | value value =>
          rw [hloads] at hrecord
          cases value with
          | obj record =>
            rw [require_bind_eq_ok] at hrecord
            obtain ⟨hgates, heq⟩ := hrecord
            obtain rfl := Except.ok.inj heq
            exact ⟨hcandidate, text, record, htext, hloads, hgates⟩
          | null | bool | num | str | arr => cases hrecord
    · rintro ⟨hread, text, record, htext, hloads, hgates⟩
      refine ⟨candidate, Option.some.inj (hcandidate.symm.trans hread), ?_⟩
      rw [htext, Option.map_some, hloads, require_bind_eq_ok]
      exact ⟨hgates, rfl⟩

/-- The stationarity gate is `PASS`, the freshness command has succeeded, and every gate of the
candidate has passed. -/
structure Admitted (w : Surroundings) (stationarity template : List (List ℕ))
    (candidate : List UInt8) : Prop where
  stationary : ∃ stdout record, Completed w .stationarity stationarity 0 stdout ∧
    parseStationarity w.loads stdout = .ok (record, .pass) ∧
    ∃ canonical bound freshnessStdout, validateCanonicalSnapshot w record = .ok canonical ∧
      bindCanonicalSnapshot template canonical = .ok bound ∧
      Completed w .freshness (resolveFreshnessCommand w none bound) 0 freshnessStdout
  candidate : CandidatePasses w candidate
  files : ∀ file ∈ [AttemptFile.commands, .precheck, .resolvedCommand], w.fault file = none

theorem requireSuccess_eq_ok {tool : Tool} {returncode : ℤ} {u : Unit} :
    requireSuccess tool returncode = .ok u ↔ returncode = 0 := require_eq_ok

theorem admit_eq_ok_some :
    (∃ stdout, admission w stationarity template = .ok (stdout, some candidate)) ↔
      Admitted w stationarity template candidate := by
  simp only [admission, bind_eq_ok, orRaised_eq_ok, requireSuccess_eq_ok, Prod.exists, runTool_eq_ok]
  constructor
  · rintro ⟨stdout, _, hcommands, returncode, stdout', hrun, _, rfl, record, gate, hparse, _,
      hprecheck, h⟩
    cases gate with
    | fail => cases h
    | pass =>
      simp only [bind_eq_ok, orRaised_eq_ok, Prod.exists, runTool_eq_ok, requireSuccess_eq_ok,
        validatePrecontrol_eq_ok] at h
      obtain ⟨canonical, hsnapshot, bound, hbound, _, hresolved, returncode, out, hfreshness, _, rfl,
        data, hdata, heq⟩ := h
      obtain ⟨rfl, hsome⟩ := Prod.mk.inj (Except.ok.inj heq)
      obtain rfl := Option.some.inj hsome
      exact ⟨⟨_, record, hrun, hparse, canonical, bound, out, hsnapshot, hbound, hfreshness⟩, hdata,
        by simp [hcommands, hprecheck, hresolved]⟩
  · rintro ⟨⟨stdout, record, hrun, hparse, canonical, bound, out, hsnapshot, hbound, hfreshness⟩,
      hdata, hfiles⟩
    refine ⟨stdout, (), hfiles _ (by simp), 0, stdout, hrun, (), rfl, record, .pass, hparse, (),
      hfiles _ (by simp), ?_⟩
    simp only [bind_eq_ok, orRaised_eq_ok, Prod.exists, runTool_eq_ok, requireSuccess_eq_ok,
      validatePrecontrol_eq_ok]
    exact ⟨canonical, hsnapshot, bound, hbound, (), hfiles _ (by simp), 0, out, hfreshness, (), rfl,
      candidate, hdata, rfl⟩

end

/-! ### The output -/

section
variable (w : Surroundings) (args : Args) (stationarity template : List (List ℕ))

/-- A run leaves the output as it was, or succeeds and puts the admitted candidate there. -/
def PublishesAdmitted (before : OutputPath) : Prop :=
  (outcome (execute w args stationarity template) before).2 = before ∨
    ∃ stdout candidate, before = .absent ∧ Admitted w stationarity template candidate ∧
      outcome (execute w args stationarity template) before = (.ok stdout, .file candidate)

/-- The attempt root and the output are different paths to what is not there yet. -/
structure Started (before : OutputPath) : Prop where
  absent : before = .absent
  distinct : absolutePath w.cwd args.attemptRoot ≠ absolutePath w.cwd args.precontrolOutput

/-- Nothing is left at the output by a publication that fails, and the payload is still the
candidate. -/
def PublicationWhole (candidate payload : List UInt8) : Prop :=
  match w.publication with
  | .complete => payload = candidate
  | .notOpened _ => True
  | .interrupted _ _ => False

/-- Making the attempt root does not make the output path, and where the candidate is published it is
published whole. -/
structure Undamaged (before : OutputPath) : Prop where
  root : Started w args before → LeadsThrough w args → w.makeRoot ≠ none ∧ w.parentsMade = false
  publication : Started w args before → w.makeRoot = none → w.fault .attempt = none →
    w.makeOutputParent = none → ∀ candidate, Admitted w stationarity template candidate →
      ∀ payload, w.candidateAgain = .ok payload → PublicationWhole w candidate payload

variable {w args stationarity template} {before : OutputPath}

/-- What follows the making of the attempt directory. -/
def concludeHandoff (w : Surroundings) (stationarity template : List (List ℕ)) :
    Execution (List ℕ) := do
  let (stdout, candidate) ← Attempt.ofExcept (admission w stationarity template)
  if candidate.isSome then publishExclusive w
  return stdout

variable (stationarity template) in
theorem outcome_execute_of_not_started (h : ¬ Started w args before) :
    ∃ e, outcome (execute w args stationarity template) before = (.error e, before) := by
  rw [execute, outcome_bind, outcome_get]
  by_cases habsent : before = .absent
  · have hsame : absolutePath w.cwd args.attemptRoot = absolutePath w.cwd args.precontrolOutput := by
      by_contra hdistinct
      exact h ⟨habsent, hdistinct⟩
    exact ⟨reject "ATTEMPT_ROOT_EQUALS_PRECONTROL_OUTPUT" 64, by simp [habsent, hsame]⟩
  · exact ⟨reject "PRECONTROL_OUTPUT_ALREADY_EXISTS" 65, by simp [habsent]⟩

theorem outcome_execute_of_started (h : Started w args before) :
    outcome (execute w args stationarity template) before =
      outcome (createAttempt w args >>= fun _ => concludeHandoff w stationarity template) .absent := by
  rw [execute, outcome_bind, outcome_get]
  simp [h.absent, h.distinct, concludeHandoff]

/-- What is already at the output path stays there. -/
theorem keeps_publishExclusive {output : OutputPath} (h : output ≠ .absent) :
    Keeps (· = output) (publishExclusive w) := by
  have hwrite (payload : List UInt8) : Keeps (· = output) (writeExclusive w payload) := by
    rintro _ rfl
    rw [writeExclusive, outcome_bind, outcome_get]
    simp [h]
  unfold publishExclusive
  refine (keeps_ofExcept _).bind fun _ => ?_
  rcases w.candidateAgain with (_ | _) | payload
  · exact keeps_throw _
  · exact keeps_throw _
  · exact hwrite payload

theorem keeps_concludeHandoff {output : OutputPath} (h : output ≠ .absent) :
    Keeps (· = output) (concludeHandoff w stationarity template) := by
  unfold concludeHandoff
  refine (keeps_ofExcept _).bind fun result => ?_
  rcases result with ⟨stdout, _ | candidate⟩
  · exact keeps_pure stdout
  · exact (keeps_publishExclusive h).bind fun _ => keeps_pure stdout

variable (stationarity template) in
/-- The attempt root takes the output path. -/
theorem outcome_of_leadsThrough (hthrough : LeadsThrough w args)
    (hmade : w.makeRoot = none ∨ w.parentsMade) :
    (outcome (createAttempt w args >>= fun _ => concludeHandoff w stationarity template) .absent).2 =
      .directory := by
  have hcreate : Triple (· = .absent) (createAttempt w args) (fun _ => (· = .directory))
      (fun _ => (· = .directory)) := by
    unfold createAttempt
    rw [if_pos ⟨hthrough, hmade⟩]
    refine Triple.bind (R := fun _ => (· = .directory)) (triple_modify fun _ _ => rfl) fun _ => ?_
    exact (keeps_ofExcept _).bind fun _ => keeps_ofExcept _
  have hall := hcreate.bind fun _ =>
    (keeps_concludeHandoff (by simp) : Keeps (· = .directory) (concludeHandoff w stationarity template))
  have hend := hall .absent rfl
  rcases houtcome : outcome (createAttempt w args >>= fun _ => concludeHandoff w stationarity template)
    .absent with ⟨_ | _, t⟩ <;> rwa [houtcome] at hend

/-- Elsewhere making the attempt directory leaves the output alone. -/
theorem outcome_createAttempt (h : ¬ (LeadsThrough w args ∧ (w.makeRoot = none ∨ w.parentsMade))) :
    outcome (createAttempt w args) .absent =
      ((orRaised w.makeRoot >>= fun _ => orRaised (w.fault .attempt)), .absent) := by
  unfold createAttempt
  rw [if_neg h, outcome_bind, outcome_ofExcept]
  cases hroot : w.makeRoot with
  | none => exact outcome_ofExcept _ _
  | some exception => rfl

/-- Where the output is absent, publishing writes it as the file system lets it. -/
theorem outcome_publishExclusive : outcome (publishExclusive w) .absent =
    match w.makeOutputParent, w.candidateAgain, w.publication with
    | some exception, _, _ => (.error (.raised exception), .absent)
    | none, .error (.osError exception), _ => (.error (publishFailed exception), .absent)
    | none, .error (.other exception), _ => (.error (.raised exception), .absent)
    | none, .ok _, .notOpened exception => (.error (publishFailed exception), .absent)
    | none, .ok payload, .interrupted written exception =>
        (.error (publishFailed exception), .file (payload.take written))
    | none, .ok payload, .complete => (.ok (), .file payload) := by
  rw [publishExclusive, outcome_bind, outcome_ofExcept]
  cases hparent : w.makeOutputParent with
  | some exception => rfl
  | none =>
    rcases hagain : w.candidateAgain with (_ | _) | payload
    · rfl
    · rfl
    · cases hpublication : w.publication <;>
        simp [writeExclusive, hpublication, orRaised, outcome_bind]

/-- What becomes of an absent output behind the attempt directory. -/
theorem publishes_iff (h : Started w args before)
    (hcreate : outcome (createAttempt w args) .absent = (.ok (), .absent)) :
    PublishesAdmitted w args stationarity template before ↔
      (w.makeOutputParent = none → ∀ candidate, Admitted w stationarity template candidate →
        ∀ payload, w.candidateAgain = .ok payload → PublicationWhole w candidate payload) := by
  have houtcome : outcome (execute w args stationarity template) before =
      outcome (concludeHandoff w stationarity template) .absent := by
    rw [outcome_execute_of_started h, outcome_bind, hcreate]
  rw [PublishesAdmitted, houtcome, h.absent, concludeHandoff, outcome_bind, outcome_ofExcept]
  have hunadmitted {result : Except HandoffFailure (List ℕ × Option (List UInt8))}
      (hresult : admission w stationarity template = result)
      (hnone : ∀ stdout candidate, result ≠ .ok (stdout, some candidate)) (candidate : List UInt8) :
      ¬ Admitted w stationarity template candidate := by
    intro hadmitted
    obtain ⟨stdout, hok⟩ := admit_eq_ok_some.mpr hadmitted
    exact hnone stdout candidate (hresult.symm.trans hok)
  cases hadmit : admission w stationarity template with
  | error e =>
    have hnone := hunadmitted hadmit (by simp)
    exact iff_of_true (.inl rfl) fun _ candidate hadmitted => absurd hadmitted (hnone candidate)
  | ok result =>
    rcases result with ⟨stdout, _ | candidate⟩
    · have hnone := hunadmitted hadmit (by simp)
      exact iff_of_true (.inl rfl) fun _ candidate hadmitted => absurd hadmitted (hnone candidate)
    · have hadmitted : Admitted w stationarity template candidate := admit_eq_ok_some.mp ⟨stdout, hadmit⟩
      have hunique : ∀ candidate', Admitted w stationarity template candidate' → candidate' = candidate :=
        fun candidate' h' => by
          have hread := h'.candidate.read.symm.trans hadmitted.candidate.read
          exact Except.ok.inj (Option.some.inj hread)
      have hpublished : outcome (do
          if (some candidate).isSome then publishExclusive w
          return stdout) .absent =
          ((outcome (publishExclusive w) .absent).1.map fun _ => stdout,
            (outcome (publishExclusive w) .absent).2) := outcome_map _ _ _
      simp only []
      rw [hpublished, outcome_publishExclusive]
      cases hparent : w.makeOutputParent with
      | some exception => exact iff_of_true (.inl rfl) nofun
      | none =>
        rcases hagain : w.candidateAgain with (_ | _) | payload
        · exact iff_of_true (.inl rfl) fun _ _ _ _ => nofun
        · exact iff_of_true (.inl rfl) fun _ _ _ _ => nofun
        · have hwhole : (∀ candidate', Admitted w stationarity template candidate' →
              ∀ payload', (.ok payload : Except ReadFailure (List UInt8)) = .ok payload' →
                PublicationWhole w candidate' payload') ↔ PublicationWhole w candidate payload := by
            constructor
            · exact fun h => h candidate hadmitted payload rfl
            · rintro h candidate' h' _ ⟨⟩
              rwa [hunique candidate' h']
          rw [eq_self, true_imp_iff, hwhole, PublicationWhole]
          cases w.publication with
          | notOpened exception => exact iff_of_true (.inl rfl) trivial
          | interrupted written exception => exact iff_of_false (by simp [Except.map]) id
          | complete =>
            simp only [Except.map, reduceCtorEq, false_or, true_and]
            constructor
            · rintro ⟨_, candidate', h', heq⟩
              obtain ⟨-, hfile⟩ := Prod.mk.inj heq
              exact (OutputPath.file.inj hfile).trans (hunique candidate' h')
            · rintro rfl
              exact ⟨stdout, payload, hadmitted, rfl⟩

end

/-- The output is left as it was or holds the admitted candidate of a run that has succeeded, exactly
where the attempt root does not take the output path and a publication that fails leaves nothing. -/
theorem publishes_admitted_iff (w : Surroundings) (args : Args) (stationarity template : List (List ℕ))
    (before : OutputPath) : PublishesAdmitted w args stationarity template before ↔
      Undamaged w args stationarity template before := by
  by_cases hstarted : Started w args before
  swap
  · obtain ⟨e, houtcome⟩ := outcome_execute_of_not_started stationarity template hstarted
    exact iff_of_true (.inl (congrArg Prod.snd houtcome))
      ⟨fun h => absurd h hstarted, fun h => absurd h hstarted⟩
  by_cases htaken : LeadsThrough w args ∧ (w.makeRoot = none ∨ w.parentsMade)
  · have houtput := outcome_of_leadsThrough stationarity template htaken.1 htaken.2
    rw [← outcome_execute_of_started hstarted] at houtput
    refine iff_of_false ?_ fun h => ?_
    · rintro (hsame | ⟨stdout, candidate, -, -, hfile⟩)
      · rw [houtput, hstarted.absent] at hsame
        cases hsame
      · rw [hfile] at houtput
        cases houtput
    · obtain ⟨hroot, hparents⟩ := h.root hstarted htaken.1
      exact htaken.2.elim hroot (by simp [hparents])
  have hroot : LeadsThrough w args → w.makeRoot ≠ none ∧ w.parentsMade = false := by
    intro hthrough
    refine ⟨fun hmade => htaken ⟨hthrough, .inl hmade⟩, ?_⟩
    exact Bool.eq_false_of_not_eq_true fun hmade => htaken ⟨hthrough, .inr hmade⟩
  have hcreate := outcome_createAttempt htaken
  by_cases hmade : w.makeRoot = none ∧ w.fault .attempt = none
  · rw [hmade.1, hmade.2] at hcreate
    rw [publishes_iff hstarted hcreate]
    constructor
    · exact fun h => ⟨fun _ => hroot, fun _ _ _ => h⟩
    · exact fun h => h.publication hstarted hmade.1 hmade.2
  · refine iff_of_true (.inl ?_) ⟨fun _ => hroot, fun _ h h' => absurd ⟨h, h'⟩ hmade⟩
    rw [outcome_execute_of_started hstarted, outcome_bind, hcreate, hstarted.absent]
    cases hfault : w.makeRoot with
    | some exception => rfl
    | none =>
      cases hattempt : w.fault .attempt with
      | some exception => rfl
      | none => exact absurd ⟨hfault, hattempt⟩ hmade

/-! ### A publication that is interrupted -/

def sampleStationarity : List (String × PyScalar) :=
  [("canonical_interval_snapshot_path",
      .str (chars "/r/attempt-1/processed/intervals.canonical.jsonl")),
    ("output_stationarity_gate", .str (chars "PASS"))]

def sampleCandidate : List (String × PyScalar) :=
  [("freshness_gate", .str (chars "PASS")), ("output_stationarity_gate", .str (chars "PASS")),
    ("precontrol_admission_gate", .str (chars "PASS")),
    ("selection", .str (chars "latest_50_complete_contiguous_samples")),
    ("stationarity_window_binding_gate", .str (chars "PASS"))]

def sampleBytes : List UInt8 := utf8OfCodePoints (dumps sampleCandidate)

def sampleArgs : Args := ⟨chars "/r/attempts", chars "/r/precontrol.json"⟩

/-- Both commands succeed, and the disk is full when the output is written. -/
def sampleSurroundings : Surroundings where
  cwd := ⟨false, []⟩
  resolve := AbsolutePath.names
  makeRoot := none
  parentsMade := false
  attempt := chars "/r/attempts/attempt-2"
  fault := fun _ => none
  loads := plainLoads
  run := fun tool _ => .completed 0 (if tool = .stationarity then dumps sampleStationarity else []) []
  realpath := .ok
  readBytes := fun _ => .ok [10]
  timeNs := 0
  candidate := some (.ok sampleBytes)
  candidateAgain := .ok sampleBytes
  makeOutputParent := none
  publication := .interrupted 16 "OSError"

theorem loads_sample : sampleSurroundings.loads = plainLoads := rfl

theorem loads_dumps {fields : List (String × PyScalar)} (hne : fields ≠ [])
    (hkeys : ∀ field ∈ fields, PlainKey field.1) :
    plainLoads (dumps fields) = .value (.obj (loadedMembers fields)) := by
  rw [plainLoads, parse_prints_end (prints_dumps hne hkeys)]

theorem parseStationarity_pass {loads : List ℕ → Loaded} {stdout : List ℕ}
    {record : List (List ℕ × Json)} (hloads : loads stdout = .value (.obj record))
    (hgate : isText ((dictLookup record (chars "output_stationarity_gate")).getD .null)
      (chars "PASS") = true) : parseStationarity loads stdout = .ok (record, .pass) := by
  rw [parseStationarity, hloads]
  exact if_pos hgate

theorem admitted_sample : Admitted sampleSurroundings [] [] sampleBytes where
  stationary := by
    refine ⟨dumps sampleStationarity, loadedMembers sampleStationarity, ⟨⟨[], rfl⟩, rfl, rfl⟩, ?_,
      chars "/r/attempt-1/processed/intervals.canonical.jsonl", [], [], by rfl, rfl,
      ⟨⟨[], rfl⟩, rfl, rfl⟩⟩
    have hloads : sampleSurroundings.loads (dumps sampleStationarity) =
        .value (.obj (loadedMembers sampleStationarity)) := by
      rw [loads_sample]
      exact loads_dumps (by simp [sampleStationarity]) (by decide)
    exact parseStationarity_pass hloads (by decide +kernel)
  candidate := by
    have hloads : sampleSurroundings.loads (dumps sampleCandidate) =
        .value (.obj (loadedMembers sampleCandidate)) := by
      rw [loads_sample]
      exact loads_dumps (by simp [sampleCandidate]) (by decide)
    have htexts : ∀ field ∈ sampleCandidate, ∀ text, field.2 = .str text → ∀ u ∈ text, u < 128 := by
      simp only [sampleCandidate, List.forall_mem_cons, PyScalar.str.injEq, forall_eq']
      exact ⟨by decide, by decide, by decide, by decide, by decide, by simp⟩
    have hscalar : ∀ u ∈ dumps sampleCandidate, Scalar u := by
      intro u hu
      rcases mem_dumps (by decide) hu with ⟨-, hlt⟩ | ⟨field, hfield, text, htext, hu, -⟩
      · exact .inl (by omega)
      · have hlt := htexts field hfield text htext u hu
        exact .inl (by omega)
    exact ⟨rfl, dumps sampleCandidate, loadedMembers sampleCandidate, codePoints_scalars hscalar,
      hloads, by decide +kernel⟩
  files := by simp [sampleSurroundings]

/-- A part of the candidate is left at the output by a run that fails. -/
theorem interrupted_publication_leaves_part : ¬ ∀ w args stationarity template before,
    PublishesAdmitted w args stationarity template before := by
  intro hall
  have hstarted : Started sampleSurroundings sampleArgs .absent := ⟨rfl, by decide⟩
  have hcreate : outcome (createAttempt sampleSurroundings sampleArgs) .absent = (.ok (), .absent) :=
    outcome_createAttempt (by decide)
  exact (publishes_iff hstarted hcreate).mp (hall _ _ [] [] _) rfl sampleBytes admitted_sample
    sampleBytes rfl

end TcdOran.Harness.Handoff
