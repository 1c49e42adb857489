import TcdOran.Retention.Undisturbed

/-! The maps of the source at the transfer, of the source at `verify` and of the payload. -/
namespace TcdOran.Retention
open Lib Lib.Python Lib.Attempt

/-! ### The recorded manifest over a run -/

/-- The recorded manifest is that of the source of a transfer in the trace. -/
def RecordedIn (sha : Sha256) (tr : List Event) (control : Control) : Prop :=
  control.transferResult = true → ∃ tree ok, .transferred (.directory tree) ok ∈ tr ∧
    control.sourceManifest = some (utf8OfCodePoints (manifestText sha tree))

section
variable {sha : Sha256} {w : Surroundings} {tr : List Event} {p : Control → Prop} {s : Operation}

theorem RecordedIn.append {control : Control} (h : RecordedIn sha tr control) (es : List Event) :
    RecordedIn sha (tr ++ es) control := by
  intro hresult
  obtain ⟨tree, ok, hmem, hdata⟩ := h hresult
  exact ⟨tree, ok, List.mem_append_left _ hmem, hdata⟩

theorem controlHas_withVerdict {verdict : Json}
    (hp : ∀ control result, p control → p { control with verificationResult := result })
    (h : ControlHas p s) : ControlHas p (withVerdict verdict s) :=
  h.onStaging fun _ hs => hp _ _ hs

/-- A verification changes its own result only. -/
theorem keeps_modeVerify
    (hp : ∀ control result, p control → p { control with verificationResult := result }) :
    Keeps (ControlHas p) (modeVerify sha w) := by
  apply triple_of
  all_goals
    intro s a t hs houtcome
    have hend : ControlHas p (outcome (modeVerify sha w) s).2 := by
      have hends := modeVerify_ends sha w s
      generalize outcome (modeVerify sha w) s = result at hends
      cases hends with
      | unsettled => exact hs
      | differs => exact controlHas_withVerdict hp hs
      | agrees =>
        exact (keeps_printAll (fun _ _ h => h) _).outcome (controlHas_withVerdict hp hs)
    rwa [houtcome] at hend

/-- What is promoted is no longer in the staging area. -/
theorem keeps_modePromote : Keeps (ControlHas p) (modePromote w) := by
  have hmoved : Keeps (ControlHas p) (moveStaging w) := by
    have habsent : ∀ s : Operation, ControlHas p s →
        ControlHas p { s with staging := .absent, final := .directory } :=
      fun s _ staging h => by cases h
    have hinterrupted : ∀ s : Operation, ControlHas p s →
        ControlHas p { s with final := w.interruptedMove } := fun s hs => hs
    unfold moveStaging
    split
    · exact (keeps_modify hinterrupted).bind fun _ =>
        (keeps_external _).bind fun _ => keeps_modify habsent
    · exact (keeps_external _).bind fun _ => keeps_modify habsent
  have hget : Keeps (ControlHas p) (get : Mode Operation) := fun s hs => hs
  unfold modePromote
  refine hget.bind fun s => (keeps_ofExcept _).bind fun staging => (keeps_ofExcept _).bind fun _ => ?_
  exact hmoved.bind fun _ => (keeps_external _).bind fun _ => keeps_printAll (fun _ _ h => h) _

/-- The invariant of a step. -/
theorem recordedIn_step {a : Invocation} {s' : Operation} {es : List Event}
    (h : ControlHas (RecordedIn sha tr) s) (hstep : retentionTool sha s a = some (s', es)) :
    ControlHas (RecordedIn sha (tr ++ es)) s' := by
  have hmono : ControlHas (RecordedIn sha (tr ++ es)) { s with printed := [] } :=
    ControlHas.mono (s := { s with printed := [] }) h fun _ hrecorded => hrecorded.append es
  cases a with
  | transfer w =>
    obtain ⟨rfl, rfl⟩ := Prod.mk.inj (Option.some.inj hstep)
    rcases modeTransfer_cases sha w { s with printed := [] } with ⟨e, houtcome⟩ | hend
    · have hunchanged : (invoke (modeTransfer sha w) s).2 = { s with printed := [] } :=
        congrArg Prod.snd houtcome
      rw [hunchanged]
      exact hmono
    · refine hend.mono fun control htransferred hresult => ?_
      obtain ⟨tree, hsource, hdata⟩ := htransferred.2 hresult
      exact ⟨tree, _, List.mem_append_right _ (List.mem_singleton.mpr (by rw [hsource])), hdata⟩
  | verify w =>
    obtain ⟨rfl, rfl⟩ := Prod.mk.inj (Option.some.inj hstep)
    exact (keeps_modeVerify fun _ _ hcontrol => hcontrol).outcome hmono
  | promote w =>
    obtain ⟨rfl, rfl⟩ := Prod.mk.inj (Option.some.inj hstep)
    exact keeps_modePromote.outcome hmono
  | payloadChanges payload =>
    obtain ⟨rfl, rfl⟩ := Prod.mk.inj (Option.some.inj hstep)
    exact ControlHas.onStaging (s := s) (h.mono fun _ hrecorded => hrecorded.append []) fun _ hs => hs

theorem recordedIn_run (hrun : Machine.Run (retentionTool sha) fresh tr s) :
    ControlHas (RecordedIn sha tr) s :=
  hrun.invariant (I := fun tr s => ControlHas (RecordedIn sha tr) s) (fun _ h => by cases h)
    fun h hstep => recordedIn_step h hstep

end

/-! ### The maps -/

/-- What a verification has found where it reports success. -/
structure MapsAgree (sha : Sha256) (tr : List Event) (staging : Staging)
    (source payload : FileTree) : Prop where
  payload_eq : staging.payload = .directory payload
  files : SameFiles sha source payload
  directories : payload.listing.directories = source.listing.directories
  recorded : ∃ recorded ok, .transferred (.directory recorded) ok ∈ tr ∧
    SameFiles sha recorded source ∧
    ∃ data ∈ staging.control.sourceManifest, readManifest data = .ok (manifestOf sha recorded)

theorem printed_withVerdict (verdict : Json) (s : Operation) :
    (withVerdict verdict s).printed = s.printed := by
  unfold withVerdict onControl onStaging
  split <;> rfl

section
variable {sha : Sha256} {w : Surroundings} {tr : List Event} {staging : Staging}
  {source payload : FileTree} {s : Operation}

theorem Written.mapsAgree (h : Written sha w staging source payload)
    (hrecorded : RecordedIn sha tr staging.control) : MapsAgree sha tr staging source payload := by
  obtain ⟨original, hcompared, hunchanged⟩ := h.settles.unchanged
  obtain ⟨tree, ok, hmem, hmanifest⟩ := hrecorded hcompared.transferred
  obtain ⟨data, hdata, horiginal⟩ := hcompared.recorded
  obtain rfl : utf8OfCodePoints (manifestText sha tree) = data :=
    Option.some.inj (hmanifest.symm.trans hdata)
  have hread := readManifest_manifestText sha tree
  obtain rfl : original = manifestOf sha tree := Except.ok.inj (horiginal.symm.trans hread)
  exact ⟨hcompared.payload_eq, sameFiles_of_same h.same, (h.settles.agree h.same).directories,
    tree, ok, hmem, sameFiles_of_same hunchanged, _, hdata, hread⟩

theorem mapsAgree_of_reported (hrecorded : ControlHas (RecordedIn sha tr) s)
    (h : ("VERIFY_GATE", chars "PASS") ∈ (invoke (modeVerify sha w) s).2.printed) :
    ∃ staging source payload, s.staging = .directory staging ∧ w.source = .directory source ∧
      MapsAgree sha tr staging source payload := by
  have hends := modeVerify_ends sha w { s with printed := [] }
  rw [invoke] at h
  generalize outcome (modeVerify sha w) { s with printed := [] } = result at h hends
  cases hends with
  | unsettled e hnone => cases h
  | differs e staging source payload hopen hsettles hdiffer =>
    rw [printed_withVerdict] at h
    cases h
  | agrees staging source payload original hopen hwritten =>
    have hstaging : s.staging = .directory staging := (openStaging_eq_ok.mp hopen).2.1
    obtain ⟨original', hcompared, -⟩ := hwritten.settles.unchanged
    exact ⟨staging, source, payload, hstaging, hcompared.accepted.source_eq,
      hwritten.mapsAgree (hrecorded staging hstaging)⟩

end

/-- Manifests give the maps of their trees, and a reported verification means that the maps of the
recorded source, of the source and of the payload agree. -/
theorem manifests_faithful (sha : Sha256) :
    (∀ tree : FileTree, tree.listing.Regular → ∃ data manifest,
      writeLocalManifest sha (.directory tree) = .ok data ∧ readManifest data = .ok manifest ∧
        ∀ path, manifest.lookup path = (tree.contentAt path).map (identityOf sha)) ∧
    ∀ tr s w, Machine.Run (retentionTool sha) fresh tr s →
      ("VERIFY_GATE", chars "PASS") ∈ (invoke (modeVerify sha w) s).2.printed →
      ∃ staging source payload, s.staging = .directory staging ∧ w.source = .directory source ∧
        MapsAgree sha tr staging source payload := by
  constructor
  · intro tree hregular
    exact ⟨_, manifestOf sha tree,
      writeLocalManifest_directory sha tree hregular.hasIrregular,
      readManifest_manifestText sha tree, lookup_manifestOf sha tree⟩
  · intro tr s w hrun hreported
    exact mapsAgree_of_reported (recordedIn_run hrun) hreported

theorem manifests_faithful_sample :
    (∃ data manifest, writeLocalManifest sampleSha (.directory sampleTree) = .ok data ∧
      readManifest data = .ok manifest ∧
        ∀ path, manifest.lookup path = (sampleTree.contentAt path).map (identityOf sampleSha)) ∧
    ∃ tr s, Machine.Run (retentionTool sampleSha) fresh tr s ∧
      ("VERIFY_GATE", chars "PASS") ∈
        (invoke (modeVerify sampleSha (undisturbed sampleTree)) s).2.printed ∧
      ∃ staging source payload, s.staging = .directory staging ∧
        (undisturbed sampleTree).source = .directory source ∧
        MapsAgree sampleSha tr staging source payload := by
  obtain ⟨hmap, hagree⟩ := manifests_faithful sampleSha
  have hrun : Machine.Run (retentionTool sampleSha) fresh
      [.transferred (.directory sampleTree) true] sampleStaged :=
    Machine.Run.step .start transfer_sample
  obtain ⟨g, counts, hverify⟩ := verify_sample
  have hreported : ("VERIFY_GATE", chars "PASS") ∈
      (invoke (modeVerify sampleSha (undisturbed sampleTree)) sampleStaged).2.printed := by
    rw [hverify]
    simp [sampleVerified, verifyLines]
  exact ⟨hmap sampleTree regular_sampleTree, _, _, hrun, hreported, hagree _ _ _ hrun hreported⟩

end TcdOran.Retention
