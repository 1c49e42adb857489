import TcdOran.Retention.Tool

/-! What an invocation of `verify` ends with. -/
namespace TcdOran.Retention
open Lib Lib.Python

theorem attempt_eq_ok {w : Surroundings} {e : External} {u : Unit} :
    w.attempt e = .ok u ↔ w.fault e = none := by
  rw [Surroundings.attempt]
  cases w.fault e <;> simp

/-! ### The source -/

/-- A source that the snapshot does not refuse. -/
structure Accepted (w : Surroundings) (source : FileTree) : Prop where
  source_eq : w.source = .directory source
  symlinks : source.listing.symlinks = 0
  specials : ∀ kind, source.listing.specials kind = 0
  unreadable : w.unreadable = 0

theorem remoteSourceSnapshot_eq_ok {w : Surroundings} {snapshot : SourceSnapshot} :
    remoteSourceSnapshot w = .ok snapshot ↔ w.fault .sourceSnapshot = none ∧
      ∃ source, Accepted w source ∧ snapshot = snapshotOf source w.unreadable := by
  rw [remoteSourceSnapshot, unit_bind_eq_ok, attempt_eq_ok]
  refine and_congr_right fun _ => ?_
  cases hsource : w.source with
  | directory tree =>
    simp only [SourceSnapshot.check, rejectIf_bind_eq_ok, not_not]
    constructor
    · rintro ⟨hlinks, hfifo, hsockets, hblock, hchar, hunreadable, hvalue⟩
      refine ⟨tree, ⟨hsource, hlinks, ?_, hunreadable⟩, (Except.ok.inj hvalue).symm⟩
      intro kind
      cases kind <;> assumption
    · rintro ⟨source, haccepted, rfl⟩
      obtain rfl : tree = source := TreeRoot.directory.inj (hsource.symm.trans haccepted.source_eq)
      exact ⟨haccepted.symlinks, haccepted.specials .fifo, haccepted.specials .socket,
        haccepted.specials .blockDevice, haccepted.specials .charDevice, haccepted.unreadable, rfl⟩
  | absent | notDirectory | symlink =>
    constructor
    · intro h
      cases h
    · rintro ⟨source, haccepted, -⟩
      exact absurd (hsource.symm.trans haccepted.source_eq) (by simp)

theorem writeRemoteManifest_eq_ok {sha : Sha256} {w : Surroundings} {source : FileTree}
    (hsource : w.source = .directory source) {data : List UInt8} :
    writeRemoteManifest sha w = .ok data ↔ w.fault .sourceManifest = none ∧
      data = utf8OfCodePoints (manifestText sha source) := by
  rw [writeRemoteManifest, hsource, remoteManifest_directory]
  cases w.fault .sourceManifest with
  | none => simp [eq_comm]
  | some fault => cases fault <;> simp

theorem mapError_eq_ok {ε ε' α : Type} {f : ε → ε'} {x : Except ε α} {a : α} :
    x.mapError f = .ok a ↔ x = .ok a := by
  cases x <;> simp [Except.mapError]

/-! ### The manifests -/

/-- The three manifests are read and may be compared. -/
structure Compared (w : Surroundings) (staging : Staging) (source payload : FileTree)
    (original : Manifest) : Prop where
  accepted : Accepted w source
  payload_eq : staging.payload = .directory payload
  regular : payload.listing.hasIrregular = false
  recorded : ∃ data ∈ staging.control.sourceManifest, readManifest data = .ok original
  transferred : staging.control.transferResult = true
  clean : ∀ e ∈ [External.sourceSnapshot, .sourceManifest, .localManifest, .readManifests],
    w.fault e = none

/-- What is gathered from a source and a payload. -/
def gatheredFrom (sha : Sha256) (w : Surroundings) (source payload : FileTree)
    (original : Manifest) : Gathered where
  snapshotAfter := snapshotOf source w.unreadable
  regenerated := utf8OfCodePoints (manifestText sha source)
  destinationData := utf8OfCodePoints (manifestText sha payload)
  sourceOriginal := original
  sourceVerify := manifestOf sha source
  destination := manifestOf sha payload

theorem gather_eq_ok {sha : Sha256} {w : Surroundings} {staging : Staging} {g : Gathered} :
    gather sha w staging = .ok g ↔ ∃ source payload original,
      Compared w staging source payload original ∧ g = gatheredFrom sha w source payload original := by
  rw [gather]
  cases hrecorded : staging.control.sourceManifest with
  | none =>
    constructor
    · intro h
      cases h
    · rintro ⟨source, payload, original, hcompared, -⟩
      obtain ⟨data, hdata, -⟩ := hcompared.recorded
      exact absurd (hrecorded.symm.trans hdata) (by simp)
  | some recorded =>
    dsimp only
    rw [require_bind_eq_ok]
    simp only [bind_eq_ok, mapError_eq_ok, attempt_eq_ok, remoteSourceSnapshot_eq_ok]
    constructor
    · rintro ⟨htransferred, _, ⟨hsnapshot, source, haccepted, rfl⟩, regenerated, hregenerated, _,
        hlocal, data, hdata, _, hread, original, horiginal, verify, hverify, destination,
        hdestination, hg⟩
      obtain ⟨hmanifest, rfl⟩ := (writeRemoteManifest_eq_ok haccepted.source_eq).mp hregenerated
      obtain ⟨payload, hpayload, hregular, rfl⟩ := writeLocalManifest_eq_ok hdata
      rw [readManifest_manifestText, Except.ok.injEq] at hverify hdestination
      subst hverify hdestination
      have hcompared : Compared w staging source payload original :=
        ⟨haccepted, hpayload, hregular, ⟨recorded, hrecorded, horiginal⟩, htransferred,
          by simp [hsnapshot, hmanifest, hlocal, hread]⟩
      exact ⟨source, payload, original, hcompared, (Except.ok.inj hg).symm⟩
    · rintro ⟨source, payload, original, hcompared, rfl⟩
      obtain ⟨data, hdata, horiginal⟩ := hcompared.recorded
      obtain rfl : recorded = data := Option.some.inj (hrecorded.symm.trans hdata)
      have hclean := hcompared.clean
      simp only [List.forall_mem_cons, List.not_mem_nil, false_imp_iff, implies_true,
        and_true] at hclean
      obtain ⟨hsnapshot, hmanifest, hlocal, hread⟩ := hclean
      refine ⟨hcompared.transferred, _, ⟨hsnapshot, source, hcompared.accepted, rfl⟩, _,
        (writeRemoteManifest_eq_ok hcompared.accepted.source_eq).mpr ⟨hmanifest, rfl⟩, (), hlocal, _,
        ?_, (), hread, _, horiginal, _, readManifest_manifestText sha source, _,
        readManifest_manifestText sha payload, rfl⟩
      rw [hcompared.payload_eq]
      exact writeLocalManifest_directory sha payload hcompared.regular

section
variable {sha : Sha256} {w : Surroundings} {source payload : FileTree} {original : Manifest}

/-- Trees with the same map have as many files and bytes. -/
structure SameFiles (sha : Sha256) (source payload : FileTree) : Prop where
  at_path : ∀ path, (source.contentAt path).map (identityOf sha) =
    (payload.contentAt path).map (identityOf sha)
  count : payload.listing.files.length = source.listing.files.length
  totalBytes : payload.totalBytes = source.totalBytes

theorem sameFiles_of_same (h : (manifestOf sha source).Same (manifestOf sha payload)) :
    SameFiles sha source payload where
  at_path := by
    intro path
    rw [← lookup_manifestOf, ← lookup_manifestOf]
    exact Manifest.same_iff_lookup.mp h path
  count := by
    have hlength := (Manifest.same_iff_perm.mp h).length_eq
    rw [length_manifestOf, length_manifestOf] at hlength
    exact hlength.symm
  totalBytes := by
    have htotal := h.totalSize_eq
    rw [totalSize_manifestOf, totalSize_manifestOf] at htotal
    exact htotal.symm

/-- The directories of the payload are those of the source as far as they are counted. -/
structure CountsAgree (w : Surroundings) (source payload : FileTree) : Prop where
  links : payload.listing.directorySymlinks = 0
  directories : payload.listing.directories = source.listing.directories
  clean : ∀ e ∈ [External.countDirectories, .hashManifests, .writeVerification], w.fault e = none

def countsOf (payload : FileTree) : Counts :=
  ⟨payload.listing.files.length, 1 + payload.listing.directories, payload.totalBytes⟩

/-- Where the maps agree only the directories may still differ. -/
theorem checkCounts_eq_ok (h : (manifestOf sha source).Same (manifestOf sha payload))
    {counts : Counts} :
    checkCounts w (.directory payload) (gatheredFrom sha w source payload original) = .ok counts ↔
      w.fault .countDirectories = none ∧ payload.listing.directorySymlinks = 0 ∧
        payload.listing.directories = source.listing.directories ∧
        w.fault .hashManifests = none ∧ counts = countsOf payload := by
  obtain ⟨-, hcount, hbytes⟩ := sameFiles_of_same h
  simp only [checkCounts, directoryCount, gatheredFrom, snapshotOf, length_manifestOf,
    totalSize_manifestOf, unit_bind_eq_ok, attempt_eq_ok]
  refine and_congr_right fun _ => ?_
  rw [bind_eq_ok]
  constructor
  · rintro ⟨directories, hdirectories, hchecks⟩
    rw [rejectIf_bind_eq_ok, not_not] at hdirectories
    obtain rfl := Except.ok.inj hdirectories.2
    simp only [unit_bind_eq_ok, require_eq_ok, attempt_eq_ok] at hchecks
    obtain ⟨-, hequal, -, hhash, hcounts⟩ := hchecks
    exact ⟨hdirectories.1, Nat.add_left_cancel (require_eq_ok.mp hequal), hhash, (Except.ok.inj hcounts).symm⟩
  · rintro ⟨hlinks, hequal, hhash, rfl⟩
    refine ⟨1 + payload.listing.directories, ?_, ?_⟩
    · rw [rejectIf_bind_eq_ok, not_not]
      exact ⟨hlinks, rfl⟩
    · simp only [unit_bind_eq_ok, require_eq_ok, attempt_eq_ok]
      exact ⟨hcount, require_eq_ok.mpr (congrArg (1 + ·) hequal), hbytes, hhash, rfl⟩

end

/-! ### Where an invocation ends -/

theorem openStaging_eq_ok {w : Surroundings} {s : Operation} {staging : Staging} :
    openStaging w s = .ok staging ↔
      w.fault .inspectPaths = none ∧ s.staging = .directory staging ∧ s.final = .absent := by
  rw [openStaging, unit_bind_eq_ok, attempt_eq_ok]
  refine and_congr_right fun _ => ?_
  cases s.staging with
  | directory staging' =>
    rw [require_bind_eq_ok, and_comm]
    exact and_congr_left fun _ => ⟨fun h => congrArg _ (Except.ok.inj h),
      fun h => congrArg _ (StagingPath.directory.inj h)⟩
  | absent | symlink | other =>
    constructor
    · intro h
      cases h
    · rintro ⟨h, -⟩
      cases h

/-- The source is the recorded one, and the verdict on the payload comes to be written. -/
structure Settles (sha : Sha256) (w : Surroundings) (staging : Staging) (source payload : FileTree) :
    Prop where
  unchanged : ∃ original, Compared w staging source payload original ∧
    original.Same (manifestOf sha source)
  differ : ¬ (manifestOf sha source).Same (manifestOf sha payload) →
    Encodable (samples (manifestOf sha source) (manifestOf sha payload)) ∧
      w.fault .writeVerification = none
  agree : (manifestOf sha source).Same (manifestOf sha payload) → CountsAgree w source payload

/-- What has been written where the maps agree. -/
structure Written (sha : Sha256) (w : Surroundings) (staging : Staging) (source payload : FileTree) :
    Prop where
  settles : Settles sha w staging source payload
  same : (manifestOf sha source).Same (manifestOf sha payload)

def withVerdict (verdict : Json) : Operation → Operation :=
  onControl fun control => { control with verificationResult := some (.value verdict) }

/-- The ends of `verify`: no new verdict, a verdict against the payload, or one for it, behind which
the lines are printed. -/
inductive VerifyEnds (sha : Sha256) (w : Surroundings) (s : Operation) :
    Except Failure Unit × Operation → Prop
  | unsettled (e : Failure) (h : ∀ staging source payload, openStaging w s = .ok staging →
      ¬ Settles sha w staging source payload) : VerifyEnds sha w s (.error e, s)
  | differs (e : Failure) (staging : Staging) (source payload : FileTree)
      (hopen : openStaging w s = .ok staging) (h : Settles sha w staging source payload)
      (hdiffer : ¬ (manifestOf sha source).Same (manifestOf sha payload)) :
      VerifyEnds sha w s
        (.error e, withVerdict (failVerdict (manifestOf sha source) (manifestOf sha payload)) s)
  | agrees (staging : Staging) (source payload : FileTree) (original : Manifest)
      (hopen : openStaging w s = .ok staging) (h : Written sha w staging source payload) :
      VerifyEnds sha w s
        (Attempt.outcome (printAll w
            (verifyLines sha (gatheredFrom sha w source payload original) (countsOf payload)))
          (withVerdict
            (passVerdict sha (gatheredFrom sha w source payload original) (countsOf payload)) s))

theorem outcome_writeVerification (w : Surroundings) (names : List (List ℕ)) (verdict : Json)
    (s : Operation) :
    (∃ e, ¬ (Encodable names ∧ w.fault .writeVerification = none) ∧
      Attempt.outcome (writeVerification w names verdict) s = (.error e, s)) ∨
    (Encodable names ∧ w.fault .writeVerification = none) ∧
      Attempt.outcome (writeVerification w names verdict) s = (.ok (), withVerdict verdict s) := by
  rw [writeVerification]
  by_cases hnames : Encodable names
  · rw [if_neg (not_not.mpr hnames)]
    simp only [external, Surroundings.attempt]
    cases hfault : w.fault .writeVerification with
    | none => exact .inr ⟨⟨hnames, rfl⟩, rfl⟩
    | some fault => exact .inl ⟨fault.failure, by simp, rfl⟩
  · rw [if_pos hnames]
    exact .inl ⟨.raised, fun h => hnames h.1, rfl⟩

section
variable {sha : Sha256} {w : Surroundings} {source payload source' payload' : FileTree}
  {staging : Staging} {original original' : Manifest}

theorem Compared.unique (h : Compared w staging source payload original)
    (h' : Compared w staging source' payload' original') :
    source' = source ∧ payload' = payload ∧ original' = original := by
  obtain ⟨data, hdata, horiginal⟩ := h.recorded
  obtain ⟨data', hdata', horiginal'⟩ := h'.recorded
  obtain rfl : data = data' := Option.some.inj (hdata.symm.trans hdata')
  refine ⟨?_, ?_, ?_⟩
  · exact TreeRoot.directory.inj (h'.accepted.source_eq.symm.trans h.accepted.source_eq)
  · exact TreeRoot.directory.inj (h'.payload_eq.symm.trans h.payload_eq)
  · exact Except.ok.inj (horiginal'.symm.trans horiginal)

/-- Whatever else could settle the invocation has the same source and payload. -/
theorem unsettled_of {s : Operation} (e : Failure) (hopen : openStaging w s = .ok staging)
    (h : Compared w staging source payload original)
    (hnot : original.Same (manifestOf sha source) → ¬ Settles sha w staging source payload) :
    VerifyEnds sha w s (.error e, s) := by
  refine .unsettled e fun staging' source' payload' hopen' hsettles => ?_
  obtain rfl : staging = staging' := Except.ok.inj (hopen.symm.trans hopen')
  obtain ⟨original', hcompared, hsame⟩ := hsettles.unchanged
  obtain ⟨rfl, rfl, rfl⟩ := h.unique hcompared
  exact hnot hsame hsettles

theorem conclude_ends {s : Operation} (hopen : openStaging w s = .ok staging)
    (h : Compared w staging source payload original) :
    VerifyEnds sha w s
      (Attempt.outcome (conclude sha w staging.payload (gatheredFrom sha w source payload original)) s) := by
  rw [conclude, h.payload_eq]
  by_cases hunchanged : original.Same (manifestOf sha source)
  swap
  · rw [if_pos (by exact hunchanged)]
    exact unsettled_of _ hopen h fun hsame => absurd hsame hunchanged
  rw [if_neg (by exact not_not.mpr hunchanged)]
  by_cases hsame : (manifestOf sha source).Same (manifestOf sha payload)
  · rw [if_neg (by exact not_not.mpr hsame), Attempt.outcome_bind, Attempt.outcome_ofExcept]
    cases hcounts : checkCounts w (.directory payload) (gatheredFrom sha w source payload original) with
    | error e =>
      refine unsettled_of e hopen h fun _ hsettles => ?_
      obtain ⟨hlinks, hdirectories, hclean⟩ := hsettles.agree hsame
      have hok : checkCounts w (.directory payload) (gatheredFrom sha w source payload original) = _ :=
        (checkCounts_eq_ok hsame).mpr
          ⟨hclean _ (by simp), hlinks, hdirectories, hclean _ (by simp), rfl⟩
      cases hcounts.symm.trans hok
    | ok counts =>
      obtain ⟨hcount, hlinks, hdirectories, hhash, rfl⟩ := (checkCounts_eq_ok hsame).mp hcounts
      simp only [Attempt.outcome_bind]
      rcases outcome_writeVerification w [] _ s with
        ⟨e, hfault, houtcome⟩ | ⟨⟨hnames, hwrite⟩, houtcome⟩
      · rw [houtcome]
        refine unsettled_of e hopen h fun _ hsettles => hfault ⟨by simp [Encodable], ?_⟩
        exact (hsettles.agree hsame).clean _ (by simp)
      · rw [houtcome]
        have hagree : CountsAgree w source payload :=
          ⟨hlinks, hdirectories, by simp [hcount, hhash, hwrite]⟩
        exact .agrees staging source payload original hopen
          ⟨⟨⟨original, h, hunchanged⟩, fun hne => absurd hsame hne, fun _ => hagree⟩, hsame⟩
  · rw [if_pos (by exact hsame), Attempt.outcome_bind]
    rcases outcome_writeVerification w (samples (manifestOf sha source) (manifestOf sha payload)) _ s with
      ⟨e, hfault, houtcome⟩ | ⟨hwrite, houtcome⟩
    · dsimp only [gatheredFrom]
      rw [houtcome]
      exact unsettled_of e hopen h fun _ hsettles => hfault (hsettles.differ hsame)
    · dsimp only [gatheredFrom]
      rw [houtcome]
      exact .differs _ staging source payload hopen
        ⟨⟨original, h, hunchanged⟩, fun _ => hwrite, fun hmap => absurd hmap hsame⟩ hsame

variable (sha w) in
theorem modeVerify_ends (s : Operation) :
    VerifyEnds sha w s (Attempt.outcome (modeVerify sha w) s) := by
  rw [modeVerify, Attempt.outcome_bind, Attempt.outcome_get]
  simp only [Attempt.outcome_bind, Attempt.outcome_ofExcept]
  cases hopen : openStaging w s with
  | error e => exact .unsettled e fun staging source payload h => by cases hopen.symm.trans h
  | ok staging =>
    simp only []
    cases hgather : gather sha w staging with
    | error e =>
      refine .unsettled e fun staging' source payload h hsettles => ?_
      obtain rfl : staging = staging' := Except.ok.inj (hopen.symm.trans h)
      obtain ⟨original, hcompared, -⟩ := hsettles.unchanged
      cases hgather.symm.trans (gather_eq_ok.mpr ⟨source, payload, original, hcompared, rfl⟩)
    | ok g =>
      obtain ⟨source, payload, original, hcompared, rfl⟩ := gather_eq_ok.mp hgather
      exact conclude_ends hopen hcompared

end

/-- Where nothing settles, nothing changes. -/
theorem modeVerify_unsettled {sha : Sha256} {w : Surroundings} {s : Operation}
    (h : ∀ staging source payload, openStaging w s = .ok staging →
      ¬ Settles sha w staging source payload) :
    ∃ e, Attempt.outcome (modeVerify sha w) s = (.error e, s) := by
  have hends := modeVerify_ends sha w s
  generalize Attempt.outcome (modeVerify sha w) s = result at hends
  cases hends with
  | unsettled e => exact ⟨e, rfl⟩
  | differs e staging source payload hopen hsettles =>
    exact absurd hsettles (h staging source payload hopen)
  | agrees staging source payload original hopen hwritten =>
    exact absurd hwritten.settles (h staging source payload hopen)

/-! ### Lines that are printed -/

theorem outcome_printAll {w : Surroundings} {lines : List (String × List ℕ)}
    (h : ∀ line ∈ lines, w.fault (.print line.1) = none) (s : Operation) :
    Attempt.outcome (printAll w lines) s =
      (.ok (), { s with printed := s.printed ++ lines }) := by
  induction lines generalizing s with
  | nil => rw [List.append_nil]; rfl
  | cons line lines ih =>
    obtain ⟨hline, hlines⟩ := List.forall_mem_cons.mp h
    have hprint : Attempt.outcome (print w line) s =
        (.ok (), { s with printed := s.printed ++ [line] }) := by
      rw [print, external, Surroundings.attempt, hline]
      rfl
    rw [printAll, Attempt.outcome_bind, hprint]
    simp only []
    rw [ih hlines, List.append_assoc]
    rfl

/-- Lines are printed up to the first that cannot be. -/
theorem printAll_ok {w : Surroundings} {lines : List (String × List ℕ)} {s : Operation}
    (h : (Attempt.outcome (printAll w lines) s).1 = .ok ()) :
    ∀ line ∈ lines, w.fault (.print line.1) = none := by
  induction lines generalizing s with
  | nil => simp
  | cons line lines ih =>
    rw [printAll, Attempt.outcome_bind, print, external, Surroundings.attempt] at h
    cases hfault : w.fault (.print line.1) with
    | none =>
      rw [hfault] at h
      exact List.forall_mem_cons.mpr ⟨hfault, ih h⟩
    | some failure =>
      rw [hfault] at h
      cases h

section
variable {sha : Sha256} {w : Surroundings} {source payload : FileTree} {staging : Staging} {s : Operation}

/-- A verification that settles on maps that agree passes, where its lines can be printed. -/
theorem modeVerify_passes (hopen : openStaging w s = .ok staging)
    (h : Written sha w staging source payload)
    (hprint : ∀ key, w.fault (.print key) = none) :
    ∃ g counts verdict, Attempt.outcome (modeVerify sha w) s =
      (.ok (), { withVerdict verdict s with
        printed := (withVerdict verdict s).printed ++ verifyLines sha g counts }) ∧
      verdict = passVerdict sha g counts := by
  have hends := modeVerify_ends sha w s
  generalize hresult : Attempt.outcome (modeVerify sha w) s = result at hends
  cases hends with
  | unsettled e hnone => exact absurd h.settles (hnone staging source payload hopen)
  | differs e staging' source' payload' hopen' hsettles hdiffer =>
    obtain rfl : staging = staging' := Except.ok.inj (hopen.symm.trans hopen')
    obtain ⟨original, hcompared, -⟩ := h.settles.unchanged
    obtain ⟨original', hcompared', -⟩ := hsettles.unchanged
    obtain ⟨rfl, rfl, -⟩ := hcompared.unique hcompared'
    exact absurd h.same hdiffer
  | agrees staging' source' payload' original hopen' hwritten =>
    exact ⟨_, _, _, outcome_printAll (fun line _ => hprint line.1) _, rfl⟩

end

end TcdOran.Retention
