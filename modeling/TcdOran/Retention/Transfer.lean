import TcdOran.Retention.Verification

/-! What a transfer records, and that it is what a later `verify` compares with. -/
namespace TcdOran.Retention
open Lib Lib.Python Lib.Attempt

/-! ### Steps that leave the control directory alone -/

section
variable {P : Operation → Prop} {w : Surroundings}

theorem keeps_external (e : External) : Keeps P (external w e) := keeps_ofExcept _

theorem keeps_printAll (hP : ∀ s printed, P s → P { s with printed := printed })
    (lines : List (String × List ℕ)) : Keeps P (printAll w lines) := by
  induction lines with
  | nil => exact keeps_pure ()
  | cons line lines ih =>
    have hprint : Keeps P (print w line) :=
      (keeps_external _).bind fun _ => keeps_modify fun s hs => hP s _ hs
    exact hprint.bind fun _ => ih

end

/-- The operation is in the staging area only with a control directory of which `p` holds. -/
def ControlHas (p : Control → Prop) (s : Operation) : Prop :=
  ∀ staging, s.staging = .directory staging → p staging.control

section
variable {p p' : Control → Prop} {s : Operation}

theorem ControlHas.mono (h : ControlHas p s) (hp : ∀ control, p control → p' control) :
    ControlHas p' s :=
  fun staging hstaging => hp _ (h staging hstaging)

theorem ControlHas.onStaging {f : Staging → Staging} (h : ControlHas p s)
    (hf : ∀ staging, p staging.control → p' (f staging).control) :
    ControlHas p' (onStaging f s) := by
  intro staging hstaging
  cases hs : s.staging with
  | directory before =>
    simp only [Retention.onStaging, hs] at hstaging
    obtain rfl := StagingPath.directory.inj hstaging
    exact hf before (h before hs)
  | absent | symlink | other =>
    simp only [Retention.onStaging, hs] at hstaging
    cases hstaging

theorem final_onStaging (f : Staging → Staging) : (onStaging f s).final = s.final := by
  unfold Retention.onStaging
  split <;> rfl

end

/-! ### A transfer -/

section
variable (sha : Sha256) (w : Surroundings)

/-- The manifest of the source that the invocation meets. -/
def RecordsSource (control : Control) : Prop :=
  ∃ tree, w.source = .directory tree ∧
    control.sourceManifest = some (utf8OfCodePoints (manifestText sha tree))

def Unrecorded (control : Control) : Prop :=
  control.verificationResult = none ∧ control.transferResult = false

def Recorded (control : Control) : Prop := Unrecorded control ∧ RecordsSource sha w control

def Transferred (control : Control) : Prop :=
  control.verificationResult = none ∧ (control.transferResult = true → RecordsSource sha w control)

variable {sha w}

theorem Unrecorded.transferred {control : Control} (h : Unrecorded control) :
    Transferred sha w control :=
  ⟨h.1, fun htrue => by rw [h.2] at htrue; cases htrue⟩

theorem recordsSource_of_ok {data : List UInt8} (h : writeRemoteManifest sha w = .ok data) :
    ∃ tree, w.source = .directory tree ∧ data = utf8OfCodePoints (manifestText sha tree) := by
  cases hsource : w.source with
  | directory tree => exact ⟨tree, rfl, ((writeRemoteManifest_eq_ok hsource).mp h).2⟩
  | absent | notDirectory | symlink =>
    rw [writeRemoteManifest, hsource] at h
    cases hfault : w.fault .sourceManifest with
    | none => simp [hfault, remoteManifest] at h
    | some fault => cases fault <;> simp [hfault] at h

theorem keeps_makeStaging : Keeps (ControlHas Unrecorded) (makeStaging w) := by
  have hfresh : ∀ s : Operation, ControlHas Unrecorded s → ControlHas Unrecorded
      { s with staging := .directory ⟨.absent, noControl⟩ } := by
    intro s _ staging hstaging
    obtain rfl := StagingPath.directory.inj hstaging
    exact ⟨rfl, rfl⟩
  have hpayload : ∀ s : Operation, ControlHas Unrecorded s → ControlHas Unrecorded
      (onStaging (fun staging => { staging with payload := .directory emptyTree }) s) :=
    fun s hs => hs.onStaging fun _ h => h
  unfold makeStaging
  split
  · exact (keeps_modify hfresh).bind fun _ => (keeps_external _).bind fun _ =>
      (keeps_modify hpayload).bind fun _ => keeps_external _
  · exact (keeps_external _).bind fun _ => (keeps_modify hpayload).bind fun _ => keeps_external _

theorem triple_recordSource : Triple (ControlHas Unrecorded) (recordSource sha w)
    (fun _ => ControlHas (Recorded sha w)) (fun _ => ControlHas (Transferred sha w)) := by
  unfold recordSource
  cases hwrite : writeRemoteManifest sha w with
  | ok data =>
    obtain ⟨tree, hsource, rfl⟩ := recordsSource_of_ok hwrite
    intro s hs
    exact hs.onStaging fun staging h => ⟨h, tree, hsource, rfl⟩
  | error left =>
    intro s hs
    refine hs.onStaging fun staging h => ?_
    have hleft : Unrecorded { staging.control with sourceManifest := left.1 } := h
    exact hleft.transferred

theorem triple_transferPayload : Triple (ControlHas Unrecorded) (transferPayload sha w)
    (fun _ => ControlHas (Transferred sha w)) (fun _ => ControlHas (Transferred sha w)) := by
  have hunrecorded : ∀ s, ControlHas Unrecorded s → ControlHas (Transferred sha w) s :=
    fun s hs => hs.mono fun _ => Unrecorded.transferred
  have hrecorded : ∀ s, ControlHas (Recorded sha w) s → ControlHas (Transferred sha w) s :=
    fun s hs => hs.mono fun _ h => h.1.transferred
  have hpayload : ∀ s : Operation, ControlHas (Recorded sha w) s → ControlHas (Recorded sha w)
      (onStaging (fun staging => { staging with payload := w.copied }) s) :=
    fun s hs => hs.onStaging fun _ h => h
  have hresult : ∀ s : Operation, ControlHas (Recorded sha w) s → ControlHas (Transferred sha w)
      (onControl (fun control => { control with transferResult := true }) s) :=
    fun s hs => hs.onStaging fun _ h => ⟨h.1.1, fun _ => h.2⟩
  unfold transferPayload
  refine keeps_makeStaging.bind_triple (fun _ => hunrecorded) fun _ => ?_
  refine (keeps_external _).bind_triple (fun _ => hunrecorded) fun _ => ?_
  refine triple_recordSource.bind fun manifest => ?_
  refine (keeps_external _).bind_triple (fun _ => hrecorded) fun _ => ?_
  refine (keeps_modify hpayload).bind_triple (fun _ => hrecorded) fun _ => ?_
  refine (keeps_external _).bind_triple (fun _ => hrecorded) fun _ => ?_
  refine (keeps_external _).bind_triple (fun _ => hrecorded) fun _ => ?_
  refine (keeps_external _).bind_triple (fun _ => hrecorded) fun _ => ?_
  refine Triple.bind (R := fun _ => ControlHas (Transferred sha w)) (triple_modify hresult) fun _ => ?_
  exact keeps_printAll (fun _ _ hs => hs) _

theorem ensureOperationAbsent_cases (s : Operation) :
    (∃ e, outcome (ensureOperationAbsent w) s = (.error e, s)) ∨
      s.staging = .absent ∧ outcome (ensureOperationAbsent w) s = (.ok (), s) := by
  obtain ⟨staging, final, printed⟩ := s
  simp only [ensureOperationAbsent, external, outcome_bind, outcome_ofExcept, outcome_get]
  cases w.attempt .inspectPaths with
  | error e => exact .inl ⟨e, rfl⟩
  | ok _ =>
    cases staging with
    | absent =>
      by_cases hfinal : final = .absent
      · exact .inr ⟨rfl, by simp [hfinal]⟩
      · exact .inl ⟨.failed "final retained operation already exists", by simp [hfinal]⟩
    | directory staging => exact .inl ⟨_, rfl⟩
    | symlink => exact .inl ⟨_, rfl⟩
    | other => exact .inl ⟨_, rfl⟩

variable (sha w) in
/-- A transfer that does not find the staging area empty changes nothing. -/
theorem modeTransfer_cases (s : Operation) :
    (∃ e, outcome (modeTransfer sha w) s = (.error e, s)) ∨
      ControlHas (Transferred sha w) (outcome (modeTransfer sha w) s).2 := by
  rw [modeTransfer, outcome_bind]
  rcases ensureOperationAbsent_cases (w := w) s with ⟨e, houtcome⟩ | ⟨habsent, houtcome⟩
  · rw [houtcome]
    exact .inl ⟨e, rfl⟩
  · rw [houtcome]
    simp only [outcome_bind, outcome_ofExcept]
    cases remoteSourceSnapshot w with
    | error e => exact .inl ⟨e, rfl⟩
    | ok snapshot =>
      have hstart : ControlHas Unrecorded s := fun staging h => by cases habsent.symm.trans h
      have hend := @triple_transferPayload sha w s hstart
      right
      simp only []
      rcases houtcome : outcome (transferPayload sha w) s with ⟨_ | _, t⟩ <;>
        rwa [houtcome] at hend

end

end TcdOran.Retention
