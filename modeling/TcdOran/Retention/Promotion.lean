import TcdOran.Retention.Evidence

/-! Promotions and the verifications before them. -/
namespace TcdOran.Retention
open Lib Lib.Python Lib.Attempt

/-! ### The stored verdict -/

section
variable (sha : Sha256) (g : Gathered) (counts : Counts) (source destination : Manifest)

theorem check_passVerdict :
    checkVerification (some (.value (passVerdict sha g counts))) = .ok () := rfl

theorem check_failVerdict :
    checkVerification (some (.value (failVerdict source destination))) ≠ .ok () := by
  intro h
  rw [failVerdict, checkVerification, require_bind_eq_ok] at h
  exact Bool.false_ne_true h.1

end

/-- A verdict in the staging area that lets the operation be promoted. -/
def Promotable (s : Operation) : Prop :=
  ∃ staging, s.staging = .directory staging ∧
    checkVerification staging.control.verificationResult = .ok ()

def verifyKeys : List String :=
  ["REGULAR_FILE_COUNT", "DIRECTORY_COUNT", "TOTAL_REGULAR_FILE_BYTES", "SOURCE_MANIFEST_SHA256",
    "DESTINATION_MANIFEST_SHA256", "MANIFEST_SEMANTIC_EQUALITY", "VERIFY_GATE",
    "PROMOTION_PERFORMED", "SOURCE_DELETION_PERFORMED"]

/-- Over a verdict that has passed, an invocation of `verify` comes to a new one; and where it
writes one that passes, it can print its lines. -/
def Settled (sha : Sha256) (s : Operation) : Invocation → Prop
  | .verify w => ∀ staging, s.staging = .directory staging → s.final = .absent →
      (checkVerification staging.control.verificationResult = .ok () →
        w.fault .inspectPaths = none ∧ ∃ source payload, Settles sha w staging source payload) ∧
      ∀ source payload, w.fault .inspectPaths = none → Written sha w staging source payload →
        ∀ key ∈ verifyKeys, w.fault (.print key) = none
  | _ => True

section
variable {sha : Sha256} {w : Surroundings} {staging : Staging} {s : Operation}

theorem promotable_withVerdict {verdict : Json} (hstaging : s.staging = .directory staging) :
    Promotable (withVerdict verdict s) ↔ checkVerification (some (.value verdict)) = .ok () := by
  simp only [Promotable, withVerdict, onControl, onStaging, hstaging]
  constructor
  · rintro ⟨staging', heq, hcheck⟩
    obtain rfl := StagingPath.directory.inj heq
    exact hcheck
  · exact fun hcheck => ⟨_, rfl, hcheck⟩

theorem promotable_iff (hstaging : s.staging = .directory staging) :
    Promotable s ↔ checkVerification staging.control.verificationResult = .ok () := by
  constructor
  · rintro ⟨staging', heq, hcheck⟩
    obtain rfl := StagingPath.directory.inj (hstaging.symm.trans heq)
    exact hcheck
  · exact fun hcheck => ⟨staging, hstaging, hcheck⟩

theorem Promotable.printAll (h : Promotable s) (w : Surroundings) (lines : List (String × List ℕ)) :
    Promotable (outcome (printAll w lines) s).2 :=
  (keeps_printAll (P := Promotable) (fun _ _ hs => hs) lines).outcome h

/-- A verification that fails leaves a verdict that has passed exactly where it has not settled. -/
theorem stale_iff_not_settled (hstaging : s.staging = .directory staging) (hfinal : s.final = .absent) :
    (outcome (modeVerify sha w) s).1 ≠ .ok () ∧ Promotable (outcome (modeVerify sha w) s).2 ↔
      ¬ Settled sha s (.verify w) := by
  have hopen_iff : ∀ staging', openStaging w s = .ok staging' ↔
      w.fault .inspectPaths = none ∧ staging = staging' := by
    intro staging'
    rw [openStaging_eq_ok, hstaging, StagingPath.directory.injEq]
    exact and_congr_right fun _ => and_iff_left hfinal
  have hsettled_iff : Settled sha s (.verify w) ↔
      (Promotable s → w.fault .inspectPaths = none ∧
        ∃ source payload, Settles sha w staging source payload) ∧
      ∀ source payload, w.fault .inspectPaths = none → Written sha w staging source payload →
        ∀ key ∈ verifyKeys, w.fault (.print key) = none := by
    rw [promotable_iff hstaging]
    constructor
    · exact fun h => h staging hstaging hfinal
    · intro h staging' hstaging' _
      obtain rfl := StagingPath.directory.inj (hstaging.symm.trans hstaging')
      exact h
  have hends := modeVerify_ends sha w s
  generalize outcome (modeVerify sha w) s = result at hends
  rw [hsettled_iff]
  cases hends with
  | unsettled e hnone =>
    have hnot (hinspect : w.fault .inspectPaths = none) (source payload : FileTree) :
        ¬ Settles sha w staging source payload :=
      hnone staging source payload ((hopen_iff staging).mpr ⟨hinspect, rfl⟩)
    constructor
    · rintro ⟨-, hpromotable⟩ ⟨hfirst, -⟩
      obtain ⟨hinspect, source, payload, hsettles⟩ := hfirst hpromotable
      exact hnot hinspect source payload hsettles
    · intro hunsettled
      refine ⟨nofun, ?_⟩
      by_contra hpromotable
      exact hunsettled ⟨fun h => absurd h hpromotable,
        fun source payload hinspect h => absurd h.settles (hnot hinspect source payload)⟩
  | differs e staging' source payload hopen hsettles hdiffer =>
    obtain ⟨hinspect, rfl⟩ := (hopen_iff staging').mp hopen
    constructor
    · rintro ⟨-, hpromotable⟩
      exact absurd ((promotable_withVerdict hstaging).mp hpromotable) (check_failVerdict _ _)
    · intro hunsettled
      refine absurd ⟨fun _ => ⟨hinspect, source, payload, hsettles⟩, ?_⟩ hunsettled
      intro source' payload' _ hwritten
      obtain ⟨original, hcompared, -⟩ := hsettles.unchanged
      obtain ⟨original', hcompared', -⟩ := hwritten.settles.unchanged
      obtain ⟨rfl, rfl, -⟩ := hcompared.unique hcompared'
      exact absurd hwritten.same hdiffer
  | agrees staging' source payload original hopen hwritten =>
    obtain ⟨hinspect, rfl⟩ := (hopen_iff staging').mp hopen
    have hpromotable := ((promotable_withVerdict hstaging).mpr
      (check_passVerdict sha (gatheredFrom sha w source payload original) (countsOf payload))).printAll
      w (verifyLines sha (gatheredFrom sha w source payload original) (countsOf payload))
    constructor
    · rintro ⟨hfails, -⟩ ⟨-, hprint⟩
      refine hfails (congrArg Prod.fst (outcome_printAll ?_ _))
      have hkeys := hprint source payload hinspect hwritten
      simpa [verifyKeys, verifyLines] using hkeys
    · intro hunsettled
      refine ⟨fun hok => hunsettled ⟨fun _ => ⟨hinspect, source, payload, hwritten.settles⟩, ?_⟩,
        hpromotable⟩
      intro _ _ _ _
      have hlines := printAll_ok hok
      simpa [verifyKeys, verifyLines] using hlines

end

/-! ### Runs -/

/-- The last verification of a trace has passed. -/
def LastVerifyPassed (tr : List Event) : Prop :=
  ∃ before after, tr = before ++ .verified true :: after ∧ ∀ ok, .verified ok ∉ after

theorem LastVerifyPassed.append {tr : List Event} (h : LastVerifyPassed tr) {es : List Event}
    (hes : ∀ ok, .verified ok ∉ es) : LastVerifyPassed (tr ++ es) := by
  obtain ⟨before, after, rfl, hafter⟩ := h
  refine ⟨before, after ++ es, by simp, ?_⟩
  intro ok hmem
  exact (List.mem_append.mp hmem).elim (hafter ok) (hes ok)

theorem not_lastVerifyPassed_failed (tr : List Event) :
    ¬ LastVerifyPassed (tr ++ [.verified false]) := by
  rintro ⟨before, after, heq, hafter⟩
  rcases List.eq_nil_or_concat after with rfl | ⟨after, last, rfl⟩
  · obtain ⟨-, hlast⟩ := List.append_inj' heq rfl
    cases hlast
  · rw [List.concat_eq_append, ← List.cons_append, ← List.append_assoc] at heq
    obtain ⟨-, hlast⟩ := List.append_inj' heq rfl
    exact hafter false (by simp [← List.singleton_inj.mp hlast])

theorem lastVerifyPassed_verified (tr : List Event) : LastVerifyPassed (tr ++ [.verified true]) :=
  ⟨tr, [], rfl, by simp⟩

section
variable {sha : Sha256} {w : Surroundings} {s : Operation} {tr : List Event}

/-- A verification does not make an operation promotable that it does not find open. -/
theorem open_of_promotable (h : Promotable (outcome (modeVerify sha w) s).2)
    (hfinal : (outcome (modeVerify sha w) s).2.final = .absent) :
    ∃ staging, s.staging = .directory staging ∧ s.final = .absent := by
  have hends := modeVerify_ends sha w s
  generalize outcome (modeVerify sha w) s = result at h hfinal hends
  cases hends with
  | unsettled =>
    obtain ⟨staging, hstaging, -⟩ := h
    exact ⟨staging, hstaging, hfinal⟩
  | differs e staging source payload hopen => exact ⟨staging, (openStaging_eq_ok.mp hopen).2⟩
  | agrees staging source payload original hopen => exact ⟨staging, (openStaging_eq_ok.mp hopen).2⟩

theorem modePromote_cases (w : Surroundings) (s : Operation) :
    (∃ e, outcome (modePromote w) s = (.error e, s)) ∨ Promotable s ∧ s.final = .absent := by
  simp only [modePromote, outcome_bind, outcome_get, outcome_ofExcept]
  cases hopen : openStaging w s with
  | error e => exact .inl ⟨e, rfl⟩
  | ok staging =>
    obtain ⟨-, hstaging, hfinal⟩ := openStaging_eq_ok.mp hopen
    cases hcheck : checkVerification staging.control.verificationResult with
    | error e => exact .inl ⟨e, by simp [hcheck]⟩
    | ok _ => exact .inr ⟨(promotable_iff hstaging).mpr hcheck, hfinal⟩

/-- Where the operation can be promoted the last verification has passed. -/
def VerifiedIn (tr : List Event) (s : Operation) : Prop :=
  s.final = .absent → Promotable s → LastVerifyPassed tr

theorem VerifiedIn.append (h : VerifiedIn tr s) {es : List Event} (hes : ∀ ok, .verified ok ∉ es) :
    VerifiedIn (tr ++ es) s :=
  fun hfinal hpromotable => (h hfinal hpromotable).append hes

theorem verifiedIn_step {a : Invocation} {s' : Operation} {es : List Event} (h : VerifiedIn tr s)
    (hsettled : Settled sha s a) (hstep : retentionTool sha s a = some (s', es)) :
    VerifiedIn (tr ++ es) s' := by
  have hcleared : VerifiedIn tr { s with printed := [] } := h
  cases a with
  | transfer w =>
    obtain ⟨rfl, rfl⟩ := Prod.mk.inj (Option.some.inj hstep)
    rcases modeTransfer_cases sha w { s with printed := [] } with ⟨e, houtcome⟩ | hend
    · have hunchanged : (invoke (modeTransfer sha w) s).2 = { s with printed := [] } :=
        congrArg Prod.snd houtcome
      rw [hunchanged]
      exact hcleared.append (by simp)
    · rintro - ⟨staging, hstaging, hcheck⟩
      rw [(hend staging hstaging).1] at hcheck
      cases hcheck
  | verify w =>
    obtain ⟨rfl, rfl⟩ := Prod.mk.inj (Option.some.inj hstep)
    intro hfinal hpromotable
    obtain ⟨staging, hstaging, hopen⟩ := open_of_promotable hpromotable hfinal
    have hok : (invoke (modeVerify sha w) s).1 = .ok () := by
      by_contra hfails
      exact (stale_iff_not_settled hstaging hopen).mp ⟨hfails, hpromotable⟩ hsettled
    rw [hok]
    exact lastVerifyPassed_verified tr
  | promote w =>
    obtain ⟨rfl, rfl⟩ := Prod.mk.inj (Option.some.inj hstep)
    rcases modePromote_cases w { s with printed := [] } with ⟨e, houtcome⟩ | ⟨hpromotable, hopen⟩
    · have hunchanged : (invoke (modePromote w) s).2 = { s with printed := [] } :=
        congrArg Prod.snd houtcome
      rw [hunchanged]
      exact hcleared.append (by simp)
    · exact fun _ _ => (hcleared hopen hpromotable).append (by simp)
  | payloadChanges payload =>
    obtain ⟨rfl, rfl⟩ := Prod.mk.inj (Option.some.inj hstep)
    intro hfinal hpromotable
    rw [final_onStaging] at hfinal
    rw [List.append_nil]
    refine h hfinal ?_
    obtain ⟨staging, hstaging, hcheck⟩ := hpromotable
    cases hs : s.staging with
    | directory before =>
      simp only [onStaging, hs] at hstaging
      obtain rfl := StagingPath.directory.inj hstaging
      exact ⟨before, hs, hcheck⟩
    | absent | symlink | other =>
      simp only [onStaging, hs] at hstaging
      cases hstaging

theorem verifiedIn_run
    (hrun : Machine.Run ((retentionTool sha).restrict (Settled sha)) fresh tr s) : VerifiedIn tr s :=
  hrun.invariant (fun _ ⟨_, h, _⟩ => by cases h) fun h hstep =>
    verifiedIn_step h (Machine.restrict_eq_some.mp hstep).1 (Machine.restrict_eq_some.mp hstep).2

/-- An operation is only promoted if it can be. -/
theorem promotable_of_promoted {a : Invocation} {s' : Operation} {es pre post : List Event}
    (hstep : retentionTool sha s a = some (s', es)) (hes : es = pre ++ .promoted true :: post) :
    pre = [] ∧ Promotable s ∧ s.final = .absent := by
  have hsingle {e : Event} (h : [e] = pre ++ .promoted true :: post) :
      pre = [] ∧ e = .promoted true := by
    cases pre with
    | nil => exact ⟨rfl, (List.cons.inj h).1⟩
    | cons x pre => simp at h
  cases a with
  | transfer w =>
    obtain ⟨-, rfl⟩ := Prod.mk.inj (Option.some.inj hstep)
    exact absurd (hsingle hes).2 (by simp)
  | verify w =>
    obtain ⟨-, rfl⟩ := Prod.mk.inj (Option.some.inj hstep)
    exact absurd (hsingle hes).2 (by simp)
  | promote w =>
    obtain ⟨-, rfl⟩ := Prod.mk.inj (Option.some.inj hstep)
    obtain ⟨hpre, hok⟩ := hsingle hes
    refine ⟨hpre, ?_⟩
    rcases modePromote_cases w { s with printed := [] } with ⟨e, houtcome⟩ | h
    · rw [invoke, houtcome] at hok
      cases hok
    · exact h
  | payloadChanges payload =>
    obtain ⟨-, rfl⟩ := Prod.mk.inj (Option.some.inj hstep)
    exact absurd hes (by simp)

end

section
theorem promote_undisturbed (sha : Sha256) (source : FileTree) {staging : Staging}
    (hcheck : checkVerification staging.control.verificationResult = .ok ())
    (printed : List (String × List ℕ)) :
    retentionTool sha ⟨.directory staging, .absent, printed⟩ (.promote (undisturbed source)) =
      some (⟨.absent, .directory, promoteLines (undisturbed source)⟩, [.promoted true]) := by
  have hpromote : invoke (modePromote (undisturbed source)) ⟨.directory staging, .absent, printed⟩ = _ :=
    modePromote_undisturbed (fun _ => rfl) rfl rfl hcheck
  rw [retentionTool, hpromote]
  rfl

theorem settled_undisturbed {sha : Sha256} {s : Operation} {staging : Staging}
    (hstaging : s.staging = .directory staging) (hresult : staging.control.verificationResult = none)
    (source : FileTree) : Settled sha s (.verify (undisturbed source)) := by
  intro staging' hstaging' _
  obtain rfl := StagingPath.directory.inj (hstaging.symm.trans hstaging')
  refine ⟨fun hcheck => ?_, fun _ _ _ _ _ _ => rfl⟩
  rw [hresult] at hcheck
  cases hcheck

/-- A transfer and a verification that nothing disturbs. -/
theorem run_verified : ∃ g counts,
    Machine.Run ((retentionTool sampleSha).restrict (Settled sampleSha)) fresh
      [.transferred (.directory sampleTree) true, .verified true] (sampleVerified g counts) := by
  obtain ⟨g, counts, hinvoke⟩ := verify_sample
  have hverify : retentionTool sampleSha sampleStaged (.verify (undisturbed sampleTree)) =
      some (sampleVerified g counts, [.verified true]) := by
    rw [retentionTool, hinvoke]
    rfl
  have hsettled : Settled sampleSha sampleStaged (.verify (undisturbed sampleTree)) :=
    settled_undisturbed rfl rfl sampleTree
  have hallowed : Settled sampleSha fresh (.transfer (undisturbed sampleTree)) := trivial
  have hfirst : Machine.Run ((retentionTool sampleSha).restrict (Settled sampleSha)) fresh
      [.transferred (.directory sampleTree) true] sampleStaged :=
    Machine.Run.step .start (Machine.restrict_eq_some.mpr ⟨hallowed, transfer_sample⟩)
  exact ⟨g, counts, hfirst.step (Machine.restrict_eq_some.mpr ⟨hsettled, hverify⟩)⟩

end

/-- Where every verification settles, an operation is only promoted if the last verification has
passed, whatever else is invoked and changes. -/
theorem promotion_needs_verification (sha : Sha256) {tr : List Event} {s : Operation}
    (hrun : Machine.Run ((retentionTool sha).restrict (Settled sha)) fresh tr s)
    {pre post : List Event} (htr : tr = pre ++ .promoted true :: post) : LastVerifyPassed pre := by
  refine hrun.event_property (P := fun pre e => e = .promoted true → LastVerifyPassed pre) ?_ htr rfl
  rintro tr s a s' es hrun hstep pre e post hes rfl
  obtain ⟨rfl, hpromotable, hopen⟩ :=
    promotable_of_promoted (Machine.restrict_eq_some.mp hstep).2 hes
  rw [List.append_nil]
  exact verifiedIn_run hrun hopen hpromotable

theorem promotion_needs_verification_sample : ∃ s,
    Machine.Run ((retentionTool sampleSha).restrict (Settled sampleSha)) fresh
      [.transferred (.directory sampleTree) true, .verified true, .promoted true] s ∧
    LastVerifyPassed [.transferred (.directory sampleTree) true, .verified true] := by
  obtain ⟨g, counts, hrun⟩ := run_verified
  have hpromote : retentionTool sampleSha (sampleVerified g counts) (.promote (undisturbed sampleTree)) =
      some (_, [.promoted true]) :=
    promote_undisturbed sampleSha sampleTree (check_passVerdict sampleSha g counts) _
  have hallowed : Settled sampleSha (sampleVerified g counts) (.promote (undisturbed sampleTree)) :=
    trivial
  have hend := hrun.step (Machine.restrict_eq_some.mpr ⟨hallowed, hpromote⟩)
  have hpromoted : [Event.transferred (.directory sampleTree) true, .verified true, .promoted true] =
      [.transferred (.directory sampleTree) true, .verified true] ++ .promoted true :: [] := rfl
  exact ⟨_, hend, promotion_needs_verification sampleSha hend hpromoted⟩

/-- The sample with an empty directory `e` besides. -/
def extendedTree : FileTree where
  listing := .directory [101] .nil sampleTree.listing
  wellFormed := by
    have hname : ValidName [101] :=
      ⟨by simp, by simp, by simp, by simp, by simp, by simpa using unpaired_of_lt (by decide)⟩
    exact ⟨⟨hname, by simp [sampleTree, Listing.names]⟩, trivial, sampleTree.wellFormed⟩

/-- The directory is in no manifest, and only the count of the directories shows it. -/
theorem not_settles_extended {staging : Staging} {source payload : FileTree}
    (hpayload : staging.payload = .directory extendedTree) :
    ¬ Settles sampleSha (undisturbed sampleTree) staging source payload := by
  intro hsettles
  obtain ⟨original, hcompared, -⟩ := hsettles.unchanged
  obtain rfl : sampleTree = source := TreeRoot.directory.inj hcompared.accepted.source_eq
  obtain rfl : extendedTree = payload :=
    TreeRoot.directory.inj (hpayload.symm.trans hcompared.payload_eq)
  have hsame : (manifestOf sampleSha sampleTree).Same (manifestOf sampleSha extendedTree) :=
    Manifest.same_iff_perm.mpr (List.Perm.refl _)
  exact absurd (hsettles.agree hsame).directories (by decide)

/-- The verified sample with the directory put into its payload. -/
def sampleChanged (g : Gathered) (counts : Counts) (printed : List (String × List ℕ)) : Operation :=
  ⟨.directory (stagedAs sampleSha sampleTree (.directory extendedTree)
    (some (.value (passVerdict sampleSha g counts)))), .absent, printed⟩

theorem verify_sampleChanged (g : Gathered) (counts : Counts) (printed : List (String × List ℕ)) :
    retentionTool sampleSha (sampleChanged g counts printed) (.verify (undisturbed sampleTree)) =
      some (sampleChanged g counts [], [.verified false]) := by
  have hunsettled : ∃ e, invoke (modeVerify sampleSha (undisturbed sampleTree))
      (sampleChanged g counts printed) = (.error e, sampleChanged g counts []) := by
    refine modeVerify_unsettled fun staging source payload hopen => ?_
    obtain rfl := StagingPath.directory.inj (openStaging_eq_ok.mp hopen).2.1
    exact not_settles_extended rfl
  obtain ⟨e, hinvoke⟩ := hunsettled
  rw [retentionTool, hinvoke]
  rfl

/-- A verification that fails on the count of the directories leaves the verdict of the one before
it, and the payload is promoted. -/
theorem stale_verdict_promotes : ¬ ∀ sha tr s pre post,
    Machine.Run (retentionTool sha) fresh tr s → tr = pre ++ .promoted true :: post →
      LastVerifyPassed pre := by
  intro hall
  obtain ⟨g, counts, hrun⟩ := run_verified
  have hchanged : retentionTool sampleSha (sampleVerified g counts)
      (.payloadChanges (.directory extendedTree)) =
      some (sampleChanged g counts (verifyLines sampleSha g counts), []) := rfl
  have hpromote : retentionTool sampleSha (sampleChanged g counts []) (.promote (undisturbed sampleTree)) =
      some (_, [.promoted true]) :=
    promote_undisturbed sampleSha sampleTree (check_passVerdict sampleSha g counts) []
  have hend := ((hrun.of_restrict.step hchanged).step (verify_sampleChanged g counts _)).step hpromote
  exact not_lastVerifyPassed_failed _ (hall _ _ _ _ [] hend rfl)

end TcdOran.Retention
