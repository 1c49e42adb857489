import TcdOran.Retention.Transfer

/-! Invocations in which nothing fails. -/
namespace TcdOran.Retention
open Lib Lib.Python Lib.Attempt

section
variable {sha : Sha256} {w : Surroundings} {source payload : FileTree} {s : Operation}
  (hfault : ∀ e, w.fault e = none)
include hfault

theorem outcome_external (e : External) : outcome (external w e) s = (.ok (), s) := by
  rw [external, Surroundings.attempt, hfault e]
  rfl

theorem writeRemoteManifest_undisturbed (hsource : w.source = .directory source) :
    writeRemoteManifest sha w = .ok (utf8OfCodePoints (manifestText sha source)) :=
  (writeRemoteManifest_eq_ok hsource).mpr ⟨hfault _, rfl⟩

/-- The staging area behind a transfer. -/
def stagedAs (sha : Sha256) (source : FileTree) (copied : TreeRoot) (result : Option Loaded) : Staging :=
  ⟨copied, some (utf8OfCodePoints (manifestText sha source)), true, result⟩

theorem modeTransfer_undisturbed (haccepted : Accepted w source) :
    outcome (modeTransfer sha w) fresh =
      (.ok (), ⟨.directory (stagedAs sha source w.copied none), .absent,
        transferLines sha w (utf8OfCodePoints (manifestText sha source))⟩) := by
  have hsnapshot : remoteSourceSnapshot w = .ok (snapshotOf source w.unreadable) :=
    remoteSourceSnapshot_eq_ok.mpr ⟨hfault _, source, haccepted, rfl⟩
  have hprint (lines : List (String × List ℕ)) (t : Operation) :
      outcome (printAll w lines) t = (.ok (), { t with printed := t.printed ++ lines }) :=
    outcome_printAll (fun line _ => hfault _) t
  simp only [modeTransfer, ensureOperationAbsent, transferPayload, makeStaging, recordSource,
    writeRemoteManifest_undisturbed hfault haccepted.source_eq, hsnapshot, outcome_bind,
    outcome_external hfault, outcome_get, outcome_ofExcept, outcome_modify, outcome_pure, hprint,
    hfault, fresh, or_true, if_true]
  rfl

/-- The payload is the source, and the source is the recorded one. -/
theorem written_undisturbed {result : Option Loaded} (haccepted : Accepted w source)
    (hregular : source.listing.Regular) :
    Written sha w (stagedAs sha source (.directory source) result) source source := by
  have hsame : (manifestOf sha source).Same (manifestOf sha source) :=
    Manifest.same_iff_perm.mpr (List.Perm.refl _)
  have hcompared : Compared w (stagedAs sha source (.directory source) result) source source
      (manifestOf sha source) :=
    ⟨haccepted, rfl, hregular.hasIrregular, ⟨_, rfl, readManifest_manifestText sha source⟩, rfl,
      fun e _ => hfault e⟩
  have hlinks : source.listing.directorySymlinks = 0 := hregular.directorySymlinks
  exact ⟨⟨⟨_, hcompared, hsame⟩, fun hne => absurd hsame hne,
    fun _ => ⟨hlinks, rfl, fun e _ => hfault e⟩⟩, hsame⟩

theorem modePromote_undisturbed {staging : Staging} (hstaging : s.staging = .directory staging)
    (hfinal : s.final = .absent)
    (hcheck : checkVerification staging.control.verificationResult = .ok ()) :
    outcome (modePromote w) s = (.ok (), ⟨.absent, .directory, s.printed ++ promoteLines w⟩) := by
  have hopen : openStaging w s = .ok staging := openStaging_eq_ok.mpr ⟨hfault _, hstaging, hfinal⟩
  have hprint (lines : List (String × List ℕ)) (t : Operation) :
      outcome (printAll w lines) t = (.ok (), { t with printed := t.printed ++ lines }) :=
    outcome_printAll (fun line _ => hfault _) t
  simp only [modePromote, moveStaging, outcome_bind, outcome_get, outcome_ofExcept, hopen, hcheck,
    hfault, outcome_external hfault, outcome_modify, hprint, ne_eq, not_true_eq_false, if_false]

end

/-- Nothing fails, and `rsync` leaves a copy of the source. -/
def undisturbed (source : FileTree) : Surroundings where
  operationId := chars "op-1"
  retainedRoot := chars "/srv/retained-evidence"
  source := .directory source
  unreadable := 0
  fault := fun _ => none
  parentsMade := true
  interruptedManifest := none
  copied := .directory source
  interruptedMove := .absent

theorem accepted_undisturbed {source : FileTree} (hregular : source.listing.Regular) :
    Accepted (undisturbed source) source :=
  ⟨rfl, hregular.symlinks, hregular.specials, rfl⟩

section
variable (sha : Sha256) {source : FileTree} (hregular : source.listing.Regular)
include hregular

theorem transfer_undisturbed : retentionTool sha fresh (.transfer (undisturbed source)) =
    some (⟨.directory (stagedAs sha source (.directory source) none), .absent,
        transferLines sha (undisturbed source) (utf8OfCodePoints (manifestText sha source))⟩,
      [.transferred (.directory source) true]) := by
  have htransfer : invoke (modeTransfer sha (undisturbed source)) fresh = _ :=
    modeTransfer_undisturbed (fun _ => rfl) (accepted_undisturbed hregular)
  rw [retentionTool, htransfer]
  rfl

theorem verify_undisturbed (result : Option Loaded) (printed : List (String × List ℕ)) :
    ∃ g counts, invoke (modeVerify sha (undisturbed source))
        ⟨.directory (stagedAs sha source (.directory source) result), .absent, printed⟩ =
      (.ok (), ⟨.directory (stagedAs sha source (.directory source)
        (some (.value (passVerdict sha g counts)))), .absent, verifyLines sha g counts⟩) := by
  have hopen : openStaging (undisturbed source)
      ⟨.directory (stagedAs sha source (.directory source) result), .absent, []⟩ =
      .ok (stagedAs sha source (.directory source) result) := openStaging_eq_ok.mpr ⟨rfl, rfl, rfl⟩
  have hwritten : Written sha (undisturbed source)
      (stagedAs sha source (.directory source) result) source source :=
    written_undisturbed (fun _ => rfl) (accepted_undisturbed hregular) hregular
  obtain ⟨g, counts, _, houtcome, rfl⟩ := modeVerify_passes hopen hwritten fun _ => rfl
  exact ⟨g, counts, houtcome⟩

end

/-- A file `d/a` of two bytes. -/
def sampleTree : FileTree where
  listing := .directory [100] (.file [97] [1, 2] .nil) .nil
  wellFormed := by
    have hname (u : ℕ) (h : 97 ≤ u ∧ u ≤ 122) : ValidName [u] :=
      ⟨by simp, by simp; omega, by simp; omega, by simp; omega, by simp,
        by simpa using unpaired_of_lt (by omega)⟩
    exact ⟨⟨hname 100 (by decide), by simp [Listing.names]⟩,
      ⟨⟨hname 97 (by decide), by simp [Listing.names]⟩, trivial⟩, trivial⟩

theorem regular_sampleTree : sampleTree.listing.Regular := ⟨trivial, trivial⟩

def sampleSha : Sha256 := fun _ => ⟨List.replicate 64 48, by simp, by simp⟩

/-- The sample behind its transfer. -/
def sampleStaged : Operation :=
  ⟨.directory (stagedAs sampleSha sampleTree (.directory sampleTree) none), .absent,
    transferLines sampleSha (undisturbed sampleTree)
      (utf8OfCodePoints (manifestText sampleSha sampleTree))⟩

def sampleVerified (g : Gathered) (counts : Counts) : Operation :=
  ⟨.directory (stagedAs sampleSha sampleTree (.directory sampleTree)
    (some (.value (passVerdict sampleSha g counts)))), .absent, verifyLines sampleSha g counts⟩

theorem transfer_sample : retentionTool sampleSha fresh (.transfer (undisturbed sampleTree)) =
    some (sampleStaged, [.transferred (.directory sampleTree) true]) :=
  transfer_undisturbed sampleSha regular_sampleTree

theorem verify_sample : ∃ g counts,
    invoke (modeVerify sampleSha (undisturbed sampleTree)) sampleStaged =
      (.ok (), sampleVerified g counts) :=
  verify_undisturbed sampleSha regular_sampleTree none _

end TcdOran.Retention
