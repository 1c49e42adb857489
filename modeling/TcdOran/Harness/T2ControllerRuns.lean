import TcdOran.Harness.T2Controller
import TcdOran.Lib.Once

/-! Every run of the controllers: a run id is started once, an answer of zero stands on the output of
its own process, and no directory has both verdicts while nothing raises behind a stored outcome. -/
namespace TcdOran.Harness.T2Controller
open TcdOran.Lib

/-! ### Where an invocation stands -/

/-- The claim of the run id was taken by this invocation, which is still running. -/
def Pc.holdsClaim : Pc → Bool
  | .claim .makeOperation | .owned _ => true
  | _ => false

def Pc.beforeStart : Pc → Bool
  | .claim _ | .owned .openIntent | .owned .storeIntent | .owned .openLog | .owned .popen => true
  | _ => false

/-- Behind the gate. -/
def Pc.gated : Pc → Bool
  | .owned .openOutcome | .owned .storeOutcome | .owned .syncOutcome | .owned .printPass => true
  | _ => false

def ControllerEvent.claimed? : ControllerEvent → Option String
  | .claimed _ runId => some runId
  | _ => none

theorem Raised.status_ne_zero (error : Raised) : error.status ≠ 0 := by
  cases error <;> decide

/-! ### What one step does -/

/-- A step of an invocation and its events. -/
inductive Move (id : InvocationId) (i : Invocation) : Invocation → List ControllerEvent → Prop
  | finish (status : ℤ) : (status = 0 → i.pc = .owned .printPass) →
      Move id i { i with pc := .ended (some status) } [.returned id status]
  | goto (pc : Pc) : (pc.holdsClaim = true → i.pc.holdsClaim = true) →
      (pc.beforeStart = true → i.pc.beforeStart = true) →
      (pc.gated = true → i.pc.gated = true ∨ i.passes = true) → Move id i { i with pc } []
  | claimed : i.pc = .claim .makeClaim →
      Move id i { i with pc := .claim .makeOperation } [.claimed id i.runId]
  | started (pc : Pc) : i.pc = .owned .popen → pc.beforeStart = false → pc.gated = false →
      Move id i { i with pc } [.started id i.runId]
  | observed (text : List ℕ) : i.pc = .owned .streaming → Move id i (i.observe text) [.read id text]
  | exited (rc : ℤ) : i.pc = .owned .waiting →
      Move id i { i with rc := some rc, pc := .owned .closeLog } [.exited id rc]

section
variable {id : InvocationId} {i i' : Invocation} {files files' : ControllerFiles}
  {d d' : OperationDirectory} {answer : Answer} {es : List ControllerEvent}

theorem move_finish {α : Type} {x y : α} {status : ℤ}
    (h : some (x, finish id i status) = some (y, i', es))
    (hstatus : status = 0 → i.pc = .owned .printPass) : Move id i i' es := by
  obtain ⟨-, rfl, rfl⟩ : x = y ∧ _ = i' ∧ _ = es := by simpa [finish] using h
  exact .finish status hstatus

theorem move_raised {α : Type} {x y : α} {error : Raised}
    (h : some (x, finish id i error.status) = some (y, i', es)) : Move id i i' es :=
  move_finish h fun hzero => absurd hzero error.status_ne_zero

theorem move_goto {α : Type} {x y : α} {pc : Pc}
    (h : some (x, { i with pc }, []) = some (y, i', es))
    (hholds : pc.holdsClaim = true → i.pc.holdsClaim = true)
    (hbefore : pc.beforeStart = true → i.pc.beforeStart = true)
    (hgated : pc.gated = true → i.pc.gated = true ∨ i.passes = true) : Move id i i' es := by
  obtain ⟨-, hrest⟩ := Prod.mk.inj (Option.some.inj h)
  obtain ⟨rfl, rfl⟩ := Prod.mk.inj hrest
  exact .goto pc hholds hbefore hgated

/-- Towards the record of a failure. -/
theorem move_failing {α : Type} {x y : α} {pc : OwnedPc} (hpc : i.pc = .owned pc)
    (h : some (x, i.goto .openFailure, []) = some (y, i', es)) : Move id i i' es := by
  apply move_goto h
  · rw [hpc]
    exact fun h => h
  · exact fun hbefore => by cases hbefore
  · exact fun hgated => by cases hgated

theorem claimStep_move {pc : ClaimPc} (hpc : i.pc = .claim pc)
    (h : claimStep id i files pc answer = some (files', i', es)) : Move id i i' es := by
  have hgoto {next : ClaimPc} (hnext : Pc.holdsClaim (.claim next) = false)
      (h : some (files, { i with pc := .claim next }, []) = some (files', i', es)) :
      Move id i i' es := by
    apply move_goto h
    · rw [hnext]
      exact fun h => (by cases h)
    · rw [hpc]
      exact fun _ => rfl
    · exact fun h => (by cases h)
  unfold claimStep at h
  split at h
  case h_1 | h_3 => exact hgoto rfl h
  case h_2 =>
    split_ifs at h
    · exact move_finish h (fun h => (by cases h))
    · exact hgoto rfl h
  case h_4 =>
    split_ifs at h
    · exact move_finish h (fun h => (by cases h))
    · obtain ⟨-, rfl, rfl⟩ : _ = files' ∧ _ = i' ∧ _ = es := by simpa using h
      exact .claimed hpc
  case h_5 => exact move_raised h
  case h_6 =>
    split_ifs at h
    · exact move_finish h (fun h => (by cases h))
    · apply move_goto h
      · rw [hpc]
        exact fun _ => rfl
      · rw [hpc]
        exact fun _ => rfl
      · exact fun h => (by cases h)
  case h_7 =>
    split_ifs at h
    · exact move_raised h
    · exact move_raised h
  case h_8 => exact move_raised h
  case h_9 => cases h

theorem tryStep_move {pc : OwnedPc} (hpc : i.pc = .owned pc)
    (h : tryStep id i d pc answer = some (d', i', es)) : Move id i i' es := by
  unfold tryStep at h
  split at h
  case h_1 =>
    split_ifs at h
    apply move_goto h
    · rw [hpc]
      exact fun _ => rfl
    · rw [hpc]
      exact fun _ => rfl
    · exact fun h => (by cases h)
  case h_2 | h_3 =>
    obtain ⟨-, rfl, rfl⟩ : _ = d' ∧ _ = i' ∧ _ = es := by simpa using h
    exact .started _ hpc rfl rfl
  case h_4 =>
    obtain ⟨-, rfl, rfl⟩ : _ = d' ∧ _ = i' ∧ _ = es := by simpa using h
    exact .observed _ hpc
  case h_5 =>
    apply move_goto h
    · rw [hpc]
      exact fun _ => rfl
    · exact fun h => (by cases h)
    · exact fun h => (by cases h)
  case h_6 =>
    obtain ⟨-, rfl, rfl⟩ : _ = d' ∧ _ = i' ∧ _ = es := by simpa using h
    exact .exited _ hpc
  case h_7 =>
    split at h
    · next hpasses =>
      apply move_goto h
      · rw [hpc]
        exact fun _ => rfl
      · exact fun h => (by cases h)
      · exact fun _ => .inr hpasses
    · exact move_failing hpc h
  case h_8 =>
    split_ifs at h
    apply move_goto h
    · rw [hpc]
      exact fun _ => rfl
    · exact fun h => (by cases h)
    · rw [hpc]
      exact fun _ => .inl rfl
  case h_9 | h_11 => exact move_failing hpc h
  case h_10 | h_12 =>
    apply move_goto h
    · rw [hpc]
      exact fun _ => rfl
    · exact fun h => (by cases h)
    · rw [hpc]
      exact fun _ => .inl rfl
  case h_13 => exact move_finish h fun _ => hpc
  case h_14 => exact move_failing hpc h
  case h_15 => cases h

theorem handlerStep_move {pc : OwnedPc} (hpc : i.pc = .owned pc)
    (h : handlerStep id i d pc answer = some (d', i', es)) : Move id i i' es := by
  have hgoto {x : OperationDirectory} {next : OwnedPc}
      (hbefore : Pc.beforeStart (.owned next) = false) (hgated : Pc.gated (.owned next) = false)
      (h : some (x, i.goto next, []) = some (d', i', es)) : Move id i i' es := by
    apply move_goto h
    · rw [hpc]
      exact fun _ => rfl
    · rw [hbefore]
      exact fun h => (by cases h)
    · rw [hgated]
      exact fun h => (by cases h)
  unfold handlerStep at h
  split at h
  case h_1 =>
    split_ifs at h
    exact hgoto rfl rfl h
  case h_2 | h_4 | h_5 => exact hgoto rfl rfl h
  case h_3 | h_7 => exact move_raised h
  case h_6 => exact move_finish h fun h => (by cases h)
  case h_8 => cases h

theorem ownedStep_move {pc : OwnedPc} (hpc : i.pc = .owned pc)
    (h : ownedStep id i d pc answer = some (d', i', es)) : Move id i i' es := by
  unfold ownedStep at h
  split at h
  case h_1 =>
    split_ifs at h
    apply move_goto h
    · rw [hpc]
      exact fun _ => rfl
    · rw [hpc]
      exact fun _ => rfl
    · exact fun h => (by cases h)
  case h_2 =>
    apply move_goto h
    · rw [hpc]
      exact fun _ => rfl
    · rw [hpc]
      exact fun _ => rfl
    · exact fun h => (by cases h)
  case h_3 | h_4 => exact move_raised h
  case h_5 | h_6 | h_7 => exact handlerStep_move hpc h
  case h_8 => exact tryStep_move hpc h

/-! ### The directory of an invocation -/

/-- The text of the outcome may be there. -/
def OwnedPc.stored : OwnedPc → Bool
  | .syncOutcome | .printPass => true
  | _ => false

/-- The record of a failure may be there. -/
def OwnedPc.failed : OwnedPc → Bool
  | .storeFailure | .reportFailure => true
  | _ => false

/-- What stands in the directory of an invocation at a step. -/
structure OwnedPc.Fits (pc : OwnedPc) (d : OperationDirectory) : Prop where
  outcome : pc.stored = false → d.outcome ≠ .complete
  failure : pc.failed = false → d.failure = .absent

def OperationDirectory.Sound (d : OperationDirectory) : Prop :=
  ¬ (d.outcome = .complete ∧ d.failure ≠ .absent)

theorem OwnedPc.Fits.sound {pc : OwnedPc} (h : pc.Fits d) : d.Sound := by
  rintro ⟨houtcome, hfailure⟩
  cases hfailed : pc.failed with
  | false => exact hfailure (h.failure hfailed)
  | true =>
    have hstored : pc.stored = false := by
      cases pc <;> first | rfl | cases hfailed
    exact h.outcome hstored houtcome

/-- What a step leaves: a sound directory that fits where the invocation stands. -/
def Leaves (d : OperationDirectory) (i : Invocation) : Prop :=
  d.Sound ∧ ∀ pc, i.pc = .owned pc → pc.Fits d

theorem leaves_goto {x : OperationDirectory} {j : Invocation} {pc : OwnedPc}
    {events : List ControllerEvent} (h : some (x, j.goto pc, events) = some (d', i', es))
    (hfits : pc.Fits x) : Leaves d' i' := by
  obtain ⟨rfl, rfl, -⟩ : x = d' ∧ _ = i' ∧ _ = es := by simpa using h
  refine ⟨hfits.sound, ?_⟩
  intro next hnext
  obtain rfl : pc = next := by simpa [Invocation.goto] using hnext
  exact hfits

theorem leaves_finish {x : OperationDirectory} {status : ℤ}
    (h : some (x, finish id i status) = some (d', i', es)) (hsound : x.Sound) : Leaves d' i' := by
  obtain ⟨rfl, rfl, -⟩ : x = d' ∧ _ = i' ∧ _ = es := by simpa [finish] using h
  exact ⟨hsound, fun _ h => (by cases h)⟩

/-- What may not happen once the text of the outcome is there. -/
def Quiet (pc : OwnedPc) (answer : Answer) : Prop :=
  ∀ error effect, answer = .raises error effect →
    pc ≠ .syncOutcome ∧ pc ≠ .printPass ∧ (pc = .storeOutcome → effect = false)

theorem tryStep_leaves {pc : OwnedPc} (hpc : i.pc = .owned pc) (hfailed : pc.failed = false)
    (hfits : pc.Fits d) (hquiet : Quiet pc answer)
    (h : tryStep id i d pc answer = some (d', i', es)) : Leaves d' i' := by
  unfold tryStep at h
  split at h
  case h_1 =>
    split_ifs at h
    exact leaves_goto h ⟨fun _ => hfits.outcome rfl, fun _ => hfits.failure rfl⟩
  case h_2 | h_3 | h_5 | h_6 =>
    exact leaves_goto h ⟨fun _ => hfits.outcome rfl, fun _ => hfits.failure rfl⟩
  case h_4 =>
    obtain ⟨rfl, rfl, -⟩ : d = d' ∧ _ = i' ∧ _ = es := by simpa using h
    refine ⟨hfits.sound, ?_⟩
    intro next hnext
    obtain rfl : OwnedPc.streaming = next := Pc.owned.inj (hpc.symm.trans hnext)
    exact hfits
  case h_7 =>
    apply leaves_goto h
    split
    · exact ⟨fun _ => hfits.outcome rfl, fun _ => hfits.failure rfl⟩
    · exact ⟨fun _ => hfits.outcome rfl, fun _ => hfits.failure rfl⟩
  case h_8 =>
    split_ifs at h
    exact leaves_goto h ⟨fun _ h => (by cases h), fun _ => hfits.failure rfl⟩
  case h_9 => exact leaves_goto h ⟨fun _ h => (by cases h), fun _ => hfits.failure rfl⟩
  case h_10 => exact leaves_goto h ⟨fun h => (by cases h), fun _ => hfits.failure rfl⟩
  case h_11 => exact absurd ((hquiet _ _ rfl).2.2 rfl) (by decide)
  case h_12 => exact leaves_goto h ⟨fun h => (by cases h), fun _ => hfits.failure rfl⟩
  case h_13 => exact leaves_finish h hfits.sound
  case h_14 =>
    obtain ⟨hsync, hprint, -⟩ := hquiet _ _ rfl
    have hstored : pc.stored = false := by
      cases pc <;> first | rfl | contradiction
    exact leaves_goto h ⟨fun _ => hfits.outcome hstored, fun _ => hfits.failure hfailed⟩
  case h_15 => cases h

theorem handlerStep_leaves {pc : OwnedPc} (hfits : pc.Fits d)
    (h : handlerStep id i d pc answer = some (d', i', es)) : Leaves d' i' := by
  unfold handlerStep at h
  split at h
  case h_1 =>
    split_ifs at h
    exact leaves_goto h ⟨fun _ => hfits.outcome rfl, fun h => (by cases h)⟩
  case h_2 effect =>
    apply leaves_goto h
    cases effect with
    | false => exact ⟨fun _ => hfits.outcome rfl, fun h => (by cases h)⟩
    | true => exact ⟨fun _ => hfits.outcome rfl, fun h => (by cases h)⟩
  case h_3 effect _ =>
    apply leaves_finish h
    cases effect with
    | false => exact hfits.sound
    | true => exact fun h => hfits.outcome rfl h.1
  case h_4 => exact leaves_goto h ⟨fun _ => hfits.outcome rfl, fun h => (by cases h)⟩
  case h_5 => exact leaves_goto h ⟨fun _ => hfits.outcome rfl, fun h => (by cases h)⟩
  case h_6 | h_7 => exact leaves_finish h hfits.sound
  case h_8 => cases h

theorem ownedStep_leaves {pc : OwnedPc} (hpc : i.pc = .owned pc) (hfits : pc.Fits d)
    (hquiet : Quiet pc answer) (h : ownedStep id i d pc answer = some (d', i', es)) :
    Leaves d' i' := by
  unfold ownedStep at h
  split at h
  case h_1 =>
    split_ifs at h
    exact leaves_goto h ⟨fun _ => hfits.outcome rfl, fun _ => hfits.failure rfl⟩
  case h_2 => exact leaves_goto h ⟨fun _ => hfits.outcome rfl, fun _ => hfits.failure rfl⟩
  case h_3 | h_4 => exact leaves_finish h hfits.sound
  case h_5 | h_6 | h_7 => exact handlerStep_leaves hfits h
  case h_8 hstore hreport _ =>
    have hfailed : pc.failed = false := by
      cases pc <;> first | rfl | contradiction
    exact tryStep_leaves hpc hfailed hfits hquiet h

/-! ### What a step of the machine changes -/

theorem Move.of_claimed {k : InvocationId} {runId : String} (h : Move id i i' es)
    (hmem : .claimed k runId ∈ es) : k = id ∧ runId = i.runId ∧ i.pc = .claim .makeClaim := by
  cases h with
  | claimed hpc =>
    obtain ⟨rfl, rfl⟩ : k = id ∧ runId = i.runId := by simpa using hmem
    exact ⟨rfl, rfl, hpc⟩
  | finish | goto | started | observed | exited => simp at hmem

theorem Move.of_started {k : InvocationId} {runId : String} (h : Move id i i' es)
    (hmem : .started k runId ∈ es) :
    k = id ∧ runId = i.runId ∧ i.pc = .owned .popen ∧ es = [.started id i.runId] ∧
      i'.pc.beforeStart = false := by
  cases h with
  | started pc hpc hbefore =>
    obtain ⟨rfl, rfl⟩ : k = id ∧ runId = i.runId := by simpa using hmem
    exact ⟨rfl, rfl, hpc, rfl, hbefore⟩
  | finish | goto | claimed | observed | exited => simp at hmem

theorem Move.of_returned {k : InvocationId} (h : Move id i i' es)
    (hmem : .returned k 0 ∈ es) : k = id ∧ i.pc = .owned .printPass := by
  cases h with
  | finish status hstatus =>
    obtain ⟨rfl, rfl⟩ : k = id ∧ 0 = status := by simpa using hmem
    exact ⟨rfl, hstatus rfl⟩
  | goto | claimed | started | observed | exited => simp at hmem

/-- Claims are kept; one that an invocation takes was free. -/
structure ClaimsMove (id : InvocationId) (files files' : ControllerFiles) (i : Invocation)
    (es : List ControllerEvent) : Prop where
  keeps : ∀ runId, files.claims runId = true → files'.claims runId = true
  claimed : .claimed id i.runId ∈ es →
    files.claims i.runId = false ∧ files'.claims i.runId = true

theorem claims_addClaim (files : ControllerFiles) (runId k : String)
    (h : files.claims k = true) : (files.addClaim runId).claims k = true := by
  show Function.update files.claims runId true k = true
  rw [Function.update_apply]
  split_ifs
  · rfl
  · exact h

/-- What becomes of the directories: the one of the invocation is made or moved, no other. -/
inductive DirectoryMove (quiet : Prop) (files files' : ControllerFiles) (i i' : Invocation) : Prop
  | unchanged : files'.operations = files.operations → (∀ pc, i'.pc ≠ .owned pc) →
      DirectoryMove quiet files files' i i'
  | created : files.operations i.experimentId i.runId = none →
      files'.operations = (files.setOperation i.experimentId i.runId .empty).operations →
      (∀ pc, i'.pc = .owned pc → pc = .openIntent) → DirectoryMove quiet files files' i i'
  | moved (pc : OwnedPc) (d d' : OperationDirectory) : i.pc = .owned pc →
      files.operations i.experimentId i.runId = some d →
      files'.operations = (files.setOperation i.experimentId i.runId d').operations →
      (quiet → pc.Fits d → Leaves d' i') → DirectoryMove quiet files files' i i'

theorem claimStep_files {quiet : Prop} {pc : ClaimPc}
    (h : claimStep id i files pc answer = some (files', i', es)) :
    ClaimsMove id files files' i es ∧ DirectoryMove quiet files files' i i' := by
  have hsame {x : Invocation} {events : List ControllerEvent}
      (h : some (files, x, events) = some (files', i', es)) (hpc : ∀ pc, x.pc ≠ .owned pc)
      (hevents : .claimed id i.runId ∉ events) :
      ClaimsMove id files files' i es ∧ DirectoryMove quiet files files' i i' := by
    obtain ⟨rfl, rfl, rfl⟩ : files = files' ∧ x = i' ∧ events = es := by simpa using h
    exact ⟨⟨fun _ h => h, fun h => absurd h hevents⟩, .unchanged rfl hpc⟩
  have hmade {x : Invocation} {events : List ControllerEvent}
      (hnone : files.operations i.experimentId i.runId = none)
      (h : some (files.setOperation i.experimentId i.runId .empty, x, events) =
        some (files', i', es)) (hpc : ∀ pc, x.pc = .owned pc → pc = .openIntent)
      (hevents : .claimed id i.runId ∉ events) :
      ClaimsMove id files files' i es ∧ DirectoryMove quiet files files' i i' := by
    obtain ⟨rfl, rfl, rfl⟩ : _ = files' ∧ x = i' ∧ events = es := by simpa using h
    exact ⟨⟨fun _ h => h, fun h => absurd h hevents⟩, .created hnone rfl hpc⟩
  unfold claimStep at h
  split at h
  case h_1 | h_3 => exact hsame h (fun _ h => (by cases h)) (by simp)
  case h_2 =>
    split_ifs at h
    · exact hsame h (fun _ h => (by cases h)) (by simp)
    · exact hsame h (fun _ h => (by cases h)) (by simp)
  case h_4 =>
    split_ifs at h with hclaim
    · exact hsame h (fun _ h => (by cases h)) (by simp)
    · obtain ⟨rfl, rfl, rfl⟩ : _ = files' ∧ _ = i' ∧ _ = es := by simpa using h
      refine ⟨⟨claims_addClaim files i.runId, fun _ => ⟨?_, ?_⟩⟩, .unchanged rfl ?_⟩
      · exact Bool.eq_false_iff.mpr hclaim
      · exact Function.update_self _ _ _
      · exact fun _ h => (by cases h)
  case h_5 effect =>
    obtain ⟨rfl, rfl, rfl⟩ : _ = files' ∧ _ = i' ∧ _ = es := by simpa [finish] using h
    cases effect with
    | false => exact ⟨⟨fun _ h => h, by simp⟩, .unchanged rfl fun _ h => (by cases h)⟩
    | true =>
      exact ⟨⟨claims_addClaim files i.runId, by simp⟩, .unchanged rfl fun _ h => (by cases h)⟩
  case h_6 =>
    split_ifs at h with hdirectory
    · exact hsame h (fun _ h => (by cases h)) (by simp)
    · refine hmade (Option.not_isSome_iff_eq_none.mp hdirectory) h ?_ (by simp)
      intro pc hpc
      exact (Pc.owned.inj hpc).symm
  case h_7 =>
    split_ifs at h with hdirectory
    · exact hmade hdirectory.2 h (fun _ h => (by cases h)) (by simp)
    · exact hsame h (fun _ h => (by cases h)) (by simp)
  case h_8 => exact hsame h (fun _ h => (by cases h)) (by simp)
  case h_9 => cases h

end

/-- What a step of the machine changes; `quiet` stands for the condition on the step. -/
inductive ControllerChange (quiet : Prop) (s : ControllerState) :
    ControllerState → List ControllerEvent → Prop
  | invoked (id : InvocationId) (experimentId runId : String) (protocol : Protocol) :
      s.invocations id = none → ControllerChange quiet s (s.setInvocation id
        ⟨experimentId, runId, protocol, .claim .makeParent, ⟨false, false⟩, none⟩)
        [.invoked id experimentId runId protocol]
  | moved (id : InvocationId) (i i' : Invocation) (files : ControllerFiles)
      (es : List ControllerEvent) : s.invocations id = some i → Move id i i' es →
      ClaimsMove id s.files files i es → DirectoryMove quiet s.files files i i' →
      ControllerChange quiet s ({ s with files }.setInvocation id i') es

section
variable {s s' : ControllerState} {a : ControllerAction} {es : List ControllerEvent}

theorem controllerChange (h : controllerMachine s a = some (s', es)) :
    ControllerChange (StoresQuietly s a) s s' es := by
  unfold controllerMachine at h
  cases a with
  | invoke id experimentId runId protocol =>
    simp only at h
    split at h
    · cases h
    · next hnone =>
      obtain ⟨rfl, rfl⟩ := Prod.mk.inj (Option.some.inj h)
      exact .invoked id experimentId runId protocol hnone
  | step id answer =>
    simp only [Option.bind_eq_bind, Option.bind_eq_some_iff] at h
    obtain ⟨i, hi, h⟩ := h
    split at h
    · next pc hpc =>
      simp only [stepClaim, Option.bind_eq_bind, Option.bind_eq_some_iff] at h
      obtain ⟨⟨files, i', events⟩, hstep, h⟩ := h
      obtain ⟨rfl, rfl⟩ := Prod.mk.inj (Option.some.inj h)
      obtain ⟨hclaims, hdirectory⟩ := claimStep_files hstep
      exact .moved id i i' files events hi (claimStep_move hpc hstep) hclaims hdirectory
    · next pc hpc =>
      simp only [stepOwned, Option.bind_eq_bind, Option.bind_eq_some_iff] at h
      obtain ⟨d, hd, ⟨d', i', events⟩, hstep, h⟩ := h
      obtain ⟨rfl, rfl⟩ := Prod.mk.inj (Option.some.inj h)
      have hmove := ownedStep_move hpc hstep
      refine .moved id i i' _ events hi hmove ⟨fun _ h => h, ?_⟩ (.moved pc d d' hpc hd rfl ?_)
      · intro hmem
        cases hpc.symm.trans (hmove.of_claimed hmem).2.2
      · intro hquiet hfits
        apply ownedStep_leaves hpc hfits _ hstep
        rintro error effect rfl
        obtain ⟨hsync, hprint, hstore⟩ := hquiet id error effect i rfl hi
        rw [hpc] at hsync hprint hstore
        exact ⟨fun h => hsync (h ▸ rfl), fun h => hprint (h ▸ rfl), fun h => hstore (h ▸ rfl)⟩
    · cases h
  | kill id =>
    simp only [Option.bind_eq_bind, Option.bind_eq_some_iff] at h
    obtain ⟨i, hi, h⟩ := h
    obtain ⟨rfl, rfl⟩ := Prod.mk.inj (Option.some.inj h)
    have hmove : Move id i { i with pc := .ended none } [] :=
      .goto (.ended none) (fun h => (by cases h)) (fun h => (by cases h)) (fun h => (by cases h))
    exact .moved id i _ s.files [] hi hmove ⟨fun _ h => h, fun h => (by cases h)⟩
      (.unchanged rfl fun _ h => (by cases h))

end

@[simp] theorem setInvocation_self (s : ControllerState) (id : InvocationId) (i : Invocation) :
    (s.setInvocation id i).invocations id = some i :=
  Function.update_self _ _ _

theorem setInvocation_of_ne (s : ControllerState) {id k : InvocationId} (i : Invocation)
    (h : k ≠ id) : (s.setInvocation id i).invocations k = s.invocations k :=
  Function.update_of_ne h _ _

/-! ### What the events say of an invocation -/

/-- What the trace knows of an invocation. -/
structure Tracked (tr : List ControllerEvent) (id : InvocationId) (i : Invocation) : Prop where
  invoked : .invoked id i.experimentId i.runId i.protocol ∈ tr
  claimed : i.pc.holdsClaim = true → .claimed id i.runId ∈ tr
  unstarted : i.pc.beforeStart = true → ∀ runId, .started id runId ∉ tr
  rc : ∀ rc, i.rc = some rc → .exited id rc ∈ tr
  isMacro : i.observed.isMacro = true → ∃ text, .read id text ∈ tr ∧ macroGate <:+: text
  scientific : i.observed.scientific = true →
    ∃ text, .read id text ∈ tr ∧ i.protocol.scientificGate <:+: text
  gated : i.pc.gated = true → i.passes = true

section
variable {tr es : List ControllerEvent} {id : InvocationId} {i i' : Invocation}

/-- More of a trace in which the invocation does not start. -/
theorem Tracked.append (h : Tracked tr id i) (hnone : ∀ runId, .started id runId ∉ es) :
    Tracked (tr ++ es) id i := by
  constructor
  · exact List.mem_append_left _ h.invoked
  · exact fun hpc => List.mem_append_left _ (h.claimed hpc)
  · intro hpc runId hmem
    rcases List.mem_append.mp hmem with hmem | hmem
    · exact h.unstarted hpc runId hmem
    · exact hnone runId hmem
  · exact fun rc hrc => List.mem_append_left _ (h.rc rc hrc)
  · intro hseen
    obtain ⟨text, hread, hgate⟩ := h.isMacro hseen
    exact ⟨text, List.mem_append_left _ hread, hgate⟩
  · intro hseen
    obtain ⟨text, hread, hgate⟩ := h.scientific hseen
    exact ⟨text, List.mem_append_left _ hread, hgate⟩
  · exact h.gated

/-- A new place in the script, with nothing else changed. -/
theorem Tracked.goto {pc : Pc} (h : Tracked tr id i)
    (hclaimed : pc.holdsClaim = true → .claimed id i.runId ∈ tr)
    (hunstarted : pc.beforeStart = true → ∀ runId, .started id runId ∉ tr)
    (hgated : pc.gated = true → i.passes = true) : Tracked tr id { i with pc } :=
  ⟨h.invoked, hclaimed, hunstarted, h.rc, h.isMacro, h.scientific, hgated⟩

theorem Tracked.observe {text : List ℕ} (h : Tracked tr id i) (hread : .read id text ∈ tr)
    (hpc : i.pc = .owned .streaming) : Tracked tr id (i.observe text) := by
  have hseen {gate : List ℕ} {seen : Bool}
      (hold : seen = true → ∃ text, .read id text ∈ tr ∧ gate <:+: text)
      (hnew : (seen || decide (gate <:+: text)) = true) :
      ∃ text, .read id text ∈ tr ∧ gate <:+: text := by
    rcases Bool.or_eq_true_iff.mp hnew with hnew | hnew
    · exact hold hnew
    · exact ⟨text, hread, of_decide_eq_true hnew⟩
  refine ⟨h.invoked, h.claimed, h.unstarted, h.rc, hseen h.isMacro, hseen h.scientific, ?_⟩
  intro hgated
  have hpc' : (i.observe text).pc = .owned .streaming := hpc
  rw [hpc'] at hgated
  cases hgated

theorem Tracked.move (h : Tracked tr id i) (hmove : Move id i i' es) :
    Tracked (tr ++ es) id i' := by
  cases hmove with
  | finish status =>
    exact (h.append (by simp)).goto (fun h => (by cases h)) (fun h => (by cases h)) (fun h => (by cases h))
  | goto pc hholds hbefore hgated =>
    rw [List.append_nil]
    apply h.goto
    · exact fun hpc => h.claimed (hholds hpc)
    · exact fun hpc => h.unstarted (hbefore hpc)
    · exact fun hpc => (hgated hpc).elim h.gated fun h => h
  | claimed hpc =>
    have happended : Tracked (tr ++ [.claimed id i.runId]) id i := h.append (by simp)
    apply happended.goto
    · exact fun _ => List.mem_append_right _ (List.mem_singleton_self _)
    · apply happended.unstarted ∘ fun _ => ?_
      rw [hpc]
      rfl
    · exact fun h => (by cases h)
  | started pc hpc hbefore hgated =>
    refine ⟨List.mem_append_left _ h.invoked, ?_, ?_, ?_, ?_, ?_, ?_⟩
    · intro _
      apply List.mem_append_left
      apply h.claimed
      rw [hpc]
      rfl
    · intro hpc'
      rw [hbefore] at hpc'
      cases hpc'
    · exact fun rc hrc => List.mem_append_left _ (h.rc rc hrc)
    · intro hseen
      obtain ⟨text, hread, hgate⟩ := h.isMacro hseen
      exact ⟨text, List.mem_append_left _ hread, hgate⟩
    · intro hseen
      obtain ⟨text, hread, hgate⟩ := h.scientific hseen
      exact ⟨text, List.mem_append_left _ hread, hgate⟩
    · intro hpc'
      rw [hgated] at hpc'
      cases hpc'
  | observed text hpc =>
    have happended : Tracked (tr ++ [.read id text]) id i := h.append (by simp)
    exact happended.observe (List.mem_append_right _ (List.mem_singleton_self _)) hpc
  | exited rc hpc =>
    have happended : Tracked (tr ++ [.exited id rc]) id i := h.append (by simp)
    refine ⟨happended.invoked, ?_, fun h => (by cases h), ?_, happended.isMacro,
      happended.scientific, fun h => (by cases h)⟩
    · intro _
      apply happended.claimed
      rw [hpc]
      rfl
    · intro rc' hrc
      obtain rfl := Option.some.inj hrc
      exact List.mem_append_right _ (List.mem_singleton_self _)

theorem Tracked.passed (h : Tracked tr id i) (hgated : i.pc.gated = true) : Passed tr id := by
  have hpasses := h.gated hgated
  simp only [Invocation.passes, decide_eq_true_eq] at hpasses
  obtain ⟨hrc, hmacro, hscientific⟩ := hpasses
  obtain ⟨text, hread, hgate⟩ := h.scientific hscientific
  exact ⟨h.rc 0 hrc, h.isMacro hmacro, _, _, _, text, h.invoked, hread, hgate⟩

theorem Passed.append (h : Passed tr id) : Passed (tr ++ es) id := by
  obtain ⟨hexited, ⟨text, hread, hgate⟩, e, r, p, text', hinvoked, hread', hgate'⟩ := h
  exact ⟨List.mem_append_left _ hexited, ⟨text, List.mem_append_left _ hread, hgate⟩, e, r, p, text',
    List.mem_append_left _ hinvoked, List.mem_append_left _ hread', hgate'⟩

end

/-! ### Runs -/

theorem takes_claimed {quiet : Prop} {s s' : ControllerState} {es : List ControllerEvent}
    (h : ControllerChange quiet s s' es) :
    Machine.Takes ControllerEvent.claimed? (fun s runId => s.files.claims runId = true) s s' es := by
  cases h with
  | invoked => exact .quiet (fun _ h => h) rfl
  | moved id i i' files es _ hmove hclaims =>
    cases hmove with
    | finish | goto | started | observed | exited => exact .quiet hclaims.keeps rfl
    | claimed =>
      obtain ⟨hfree, htaken⟩ := hclaims.claimed (List.mem_singleton_self _)
      constructor
      · exact hclaims.keeps
      · exact List.nodup_singleton _
      · intro runId hmem
        obtain rfl : runId = i.runId := by simpa [ControllerEvent.claimed?] using hmem
        exact Bool.eq_false_iff.mp hfree
      · intro runId hmem
        obtain rfl : runId = i.runId := by simpa [ControllerEvent.claimed?] using hmem
        exact htaken

/-- What holds of every run. -/
structure RunInv (tr : List ControllerEvent) (s : ControllerState) : Prop where
  claims : (tr.filterMap ControllerEvent.claimed?).Nodup
  tracked : ∀ id i, s.invocations id = some i → Tracked tr id i
  known : ∀ id runId, .started id runId ∈ tr → .claimed id runId ∈ tr ∧ s.invocations id ≠ none
  once : (tr.filterMap ControllerEvent.started?).Nodup
  passed : ∀ id, .returned id 0 ∈ tr → Passed tr id

/-- Two invocations that hold the claim of one run id are one. -/
theorem RunInv.owner_unique {tr : List ControllerEvent} {s : ControllerState} (h : RunInv tr s)
    {id k : InvocationId} {i j : Invocation} (hi : s.invocations id = some i)
    (hj : s.invocations k = some j) (hholds : i.pc.holdsClaim = true)
    (hholds' : j.pc.holdsClaim = true) (hrun : i.runId = j.runId) : id = k := by
  have hfirst := (h.tracked id i hi).claimed hholds
  have hsecond := (h.tracked k j hj).claimed hholds'
  rw [← hrun] at hsecond
  have hsame := Machine.eq_of_nodup_keys h.claims hfirst hsecond rfl rfl
  exact (ControllerEvent.claimed.inj hsame).1

theorem runInv {tr : List ControllerEvent} {s : ControllerState}
    (h : Machine.Run controllerMachine controllerStart tr s) : RunInv tr s := by
  have hclaims := (h.nodup_keys fun hs => takes_claimed (controllerChange hs)).1
  induction h with
  | start =>
    exact ⟨hclaims, fun _ _ h => (by cases h), fun _ _ h => (by cases h), List.nodup_nil,
      fun _ h => (by cases h)⟩
  | @step tr s s' a es hrun hs ih =>
    have hbefore : (tr.filterMap ControllerEvent.claimed?).Nodup :=
      (hrun.nodup_keys fun hs => takes_claimed (controllerChange hs)).1
    have inv := ih hbefore
    cases controllerChange hs with
    | invoked id experimentId runId protocol hnone =>
      refine ⟨hclaims, ?_, ?_, ?_, ?_⟩
      · intro k i hi
        by_cases hk : k = id
        · subst hk
          obtain rfl := Option.some.inj ((setInvocation_self s k _).symm.trans hi)
          refine ⟨List.mem_append_right _ (List.mem_singleton_self _), fun h => (by cases h), ?_,
            fun _ h => (by cases h), fun h => (by cases h), fun h => (by cases h), fun h => (by cases h)⟩
          intro _ runId' hmem
          rcases List.mem_append.mp hmem with hmem | hmem
          · exact (inv.known k runId' hmem).2 hnone
          · simp at hmem
        · rw [setInvocation_of_ne s _ hk] at hi
          exact (inv.tracked k i hi).append (by simp)
      · intro k runId' hmem
        have hold : .started k runId' ∈ tr := by simpa using hmem
        obtain ⟨hclaimed, hknown⟩ := inv.known k runId' hold
        refine ⟨List.mem_append_left _ hclaimed, ?_⟩
        have hne : k ≠ id := by
          rintro rfl
          exact hknown hnone
        rwa [setInvocation_of_ne s _ hne]
      · rw [List.filterMap_append]
        exact (List.append_nil _).symm ▸ inv.once
      · intro k hmem
        have hold : .returned k 0 ∈ tr := by simpa using hmem
        exact (inv.passed k hold).append
    | moved id i i' files es hi hmove _ _ =>
      have htracked := inv.tracked id i hi
      refine ⟨hclaims, ?_, ?_, ?_, ?_⟩
      · intro k j hj
        by_cases hk : k = id
        · subst hk
          obtain rfl := Option.some.inj ((setInvocation_self _ k _).symm.trans hj)
          exact htracked.move hmove
        · rw [setInvocation_of_ne _ _ hk] at hj
          exact (inv.tracked k j hj).append fun runId hmem => hk (hmove.of_started hmem).1
      · intro k runId hmem
        rcases List.mem_append.mp hmem with hmem | hmem
        · obtain ⟨hclaimed, hknown⟩ := inv.known k runId hmem
          refine ⟨List.mem_append_left _ hclaimed, ?_⟩
          by_cases hk : k = id
          · subst hk
            rw [setInvocation_self]
            exact fun h => (by cases h)
          · rwa [setInvocation_of_ne _ _ hk]
        · obtain ⟨rfl, rfl, hpc, -⟩ := hmove.of_started hmem
          constructor
          · apply List.mem_append_left
            apply htracked.claimed
            rw [hpc]
            rfl
          · rw [setInvocation_self]
            exact fun h => (by cases h)
      · rw [List.filterMap_append]
        refine List.Nodup.append inv.once ?_ ?_
        · cases hmove with
          | started => exact List.nodup_singleton _
          | finish | goto | claimed | observed | exited => exact List.nodup_nil
        · intro runId hold hnew
          obtain ⟨e, he, hkey⟩ := List.mem_filterMap.mp hnew
          obtain ⟨e', he', hkey'⟩ := List.mem_filterMap.mp hold
          cases e with
          | started k r =>
            obtain ⟨rfl, rfl, hpc, -⟩ := hmove.of_started he
            cases e' with
            | started k' r' =>
              obtain rfl := Option.some.inj hkey
              obtain rfl := Option.some.inj hkey'
              -- both invocations hold the claim, so they are one, which has not started before
              have hfirst := (inv.known k' _ he').1
              have hsecond := htracked.claimed (by rw [hpc]; rfl)
              have hsame := Machine.eq_of_nodup_keys hbefore hfirst hsecond rfl rfl
              obtain rfl := (ControllerEvent.claimed.inj hsame).1
              exact htracked.unstarted (by rw [hpc]; rfl) _ he'
            | invoked | claimed | read | exited | returned => cases hkey'
          | invoked | claimed | read | exited | returned => cases hkey
      · intro k hmem
        rcases List.mem_append.mp hmem with hmem | hmem
        · exact (inv.passed k hmem).append
        · obtain ⟨rfl, hpc⟩ := hmove.of_returned hmem
          exact (htracked.passed (by rw [hpc]; rfl)).append

/-- What holds of the directories while no step raises behind a stored outcome. -/
structure DirectoryInv (s : ControllerState) : Prop where
  sound : ∀ experimentId runId d, s.files.operations experimentId runId = some d → d.Sound
  fits : ∀ id i pc, s.invocations id = some i → i.pc = .owned pc →
    ∃ d, s.files.operations i.experimentId i.runId = some d ∧ pc.Fits d

theorem setOperation_self (files : ControllerFiles) (experimentId runId : String)
    (d : OperationDirectory) :
    (files.setOperation experimentId runId d).operations experimentId runId = some d :=
  if_pos ⟨rfl, rfl⟩

theorem setOperation_of_ne {files : ControllerFiles} {experimentId runId e r : String}
    (d : OperationDirectory) (h : ¬ (e = experimentId ∧ r = runId)) :
    (files.setOperation experimentId runId d).operations e r = files.operations e r :=
  if_neg h

/-- The directory of one invocation changes and no other. -/
theorem DirectoryInv.set {s : ControllerState} (h : DirectoryInv s) {id : InvocationId}
    {i i' : Invocation} {files : ControllerFiles} {d : OperationDirectory}
    (hfiles : files.operations = (s.files.setOperation i.experimentId i.runId d).operations)
    (hleaves : Leaves d i') (hid : i'.experimentId = i.experimentId ∧ i'.runId = i.runId)
    (hother : ∀ k j pc, k ≠ id → s.invocations k = some j → j.pc = .owned pc →
      ¬ (j.experimentId = i.experimentId ∧ j.runId = i.runId)) :
    DirectoryInv ({ s with files }.setInvocation id i') := by
  constructor
  · intro e r d' hd'
    change files.operations e r = some d' at hd'
    rw [hfiles] at hd'
    by_cases hsame : e = i.experimentId ∧ r = i.runId
    · obtain ⟨rfl, rfl⟩ := hsame
      rw [setOperation_self] at hd'
      obtain rfl := Option.some.inj hd'
      exact hleaves.1
    · rw [setOperation_of_ne d hsame] at hd'
      exact h.sound e r d' hd'
  · intro k j pc hj hpc
    change ∃ d, files.operations _ _ = some d ∧ _
    rw [hfiles]
    by_cases hk : k = id
    · subst hk
      obtain rfl := Option.some.inj ((setInvocation_self _ k _).symm.trans hj)
      rw [hid.1, hid.2, setOperation_self]
      exact ⟨d, rfl, hleaves.2 pc hpc⟩
    · rw [setInvocation_of_ne _ _ hk] at hj
      rw [setOperation_of_ne d (hother k j pc hk hj hpc)]
      exact h.fits k j pc hj hpc

theorem Move.same {id : InvocationId} {i i' : Invocation} {es : List ControllerEvent}
    (h : Move id i i' es) : i'.experimentId = i.experimentId ∧ i'.runId = i.runId := by
  cases h <;> exact ⟨rfl, rfl⟩

theorem directoryInv {tr : List ControllerEvent} {s : ControllerState}
    (h : Machine.Run (Machine.restrict controllerMachine StoresQuietly) controllerStart tr s) :
    DirectoryInv s := by
  induction h with
  | start => exact ⟨fun _ _ _ h => (by cases h), fun _ _ _ h => (by cases h)⟩
  | @step tr s s' a es hrun hs inv =>
    obtain ⟨hquiet, hs⟩ := Machine.restrict_eq_some.mp hs
    have hinv := runInv hrun.of_restrict
    cases controllerChange hs with
    | invoked id experimentId runId protocol hnone =>
      refine ⟨inv.sound, ?_⟩
      intro k j pc hj hpc
      by_cases hk : k = id
      · subst hk
        obtain rfl := Option.some.inj ((setInvocation_self s k _).symm.trans hj)
        cases hpc
      · rw [setInvocation_of_ne s _ hk] at hj
        exact inv.fits k j pc hj hpc
    | moved id i i' files es hi hmove _ hdirectory =>
      cases hdirectory with
      | unchanged hfiles hpc =>
        constructor
        · intro e r d hd
          exact inv.sound e r d (hfiles ▸ hd)
        · intro k j pc hj hpc'
          change ∃ d, files.operations _ _ = some d ∧ _
          rw [hfiles]
          by_cases hk : k = id
          · subst hk
            obtain rfl := Option.some.inj ((setInvocation_self _ k _).symm.trans hj)
            exact absurd hpc' (hpc pc)
          · rw [setInvocation_of_ne _ _ hk] at hj
            exact inv.fits k j pc hj hpc'
      | created hnone hfiles hpc =>
        apply inv.set hfiles _ hmove.same
        · rintro k j pc - hj hpc' ⟨he, hr⟩
          obtain ⟨d, hd, -⟩ := inv.fits k j pc hj hpc'
          rw [he, hr, hnone] at hd
          cases hd
        · refine ⟨fun h => (by cases h.1), ?_⟩
          intro pc hpc'
          rw [hpc pc hpc']
          exact ⟨fun _ h => (by cases h), fun _ => rfl⟩
      | moved pc d d' hpc hd hfiles hleaves =>
        obtain ⟨d₀, hd₀, hfits⟩ := inv.fits id i pc hi hpc
        obtain rfl := Option.some.inj (hd.symm.trans hd₀)
        apply inv.set hfiles (hleaves hquiet hfits) hmove.same
        rintro k j pc' hk hj hpc' ⟨-, hr⟩
        apply hk
        apply hinv.owner_unique hj hi _ _ hr
        · rw [hpc']
          rfl
        · rw [hpc]
          rfl

/-- Any number of invocations, in any order of their steps and with kills anywhere: a run id is
started once, an answer of zero has its reason, and no directory has both verdicts as long as
nothing raises behind a stored outcome. -/
theorem runs_unambiguous {tr : List ControllerEvent} {s : ControllerState}
    (h : Machine.Run (Machine.restrict controllerMachine StoresQuietly) controllerStart tr s) :
    Unambiguous tr s :=
  ⟨(runInv h.of_restrict).once, (runInv h.of_restrict).passed, (directoryInv h).sound⟩

/-! ### Two runs that are carried out -/

def sampleExperiment : String := "EXP-20260101-DL-18000K-R01"

def sampleRun : String := "RUN-20260101T120000Z-001"

/-- An invocation up to the text of its outcome. -/
def untilStored (id : InvocationId) : List ControllerAction :=
  .invoke id sampleExperiment sampleRun .legacy :: [.done, .done, .done, .done, .done, .done, .done,
    .done, .done, .line macroGate, .line Protocol.legacy.scientificGate, .endOfOutput, .exited 0,
    .done, .done, .done].map (.step id)

/-- A second invocation has the run id under another experiment id. -/
def twoInvocations : List ControllerAction :=
  untilStored 0 ++ [.step 0 .done, .step 0 .done, .invoke 1 "EXP-20260101-DL-18000K-R02" sampleRun
    .postvalV1, .step 1 .done, .step 1 .done, .step 1 .done, .step 1 .done]

/-- Nothing raises. -/
def raisesNothing : ControllerState → ControllerAction → Bool
  | _, .step _ (.raises _ _) => false
  | _, _ => true

theorem storesQuietly_of_raisesNothing (s : ControllerState) (a : ControllerAction)
    (h : raisesNothing s a = true) : StoresQuietly s a := by
  rintro id error effect i rfl -
  cases h

/-- The first invocation answers zero, and the second one is refused. -/
theorem runs_unambiguous_sample : ∃ tr s,
    Machine.Run (Machine.restrict controllerMachine StoresQuietly) controllerStart tr s ∧
    ControllerEvent.returned 0 0 ∈ tr ∧ ControllerEvent.returned 1 65 ∈ tr ∧ Unambiguous tr s := by
  have heval : (Machine.exec (fun s a => if raisesNothing s a then controllerMachine s a else none)
      controllerStart twoInvocations).map (fun r => r.1.filter fun e =>
        e = .returned 0 0 ∨ e = .returned 1 65) = some [.returned 0 0, .returned 1 65] := by
    decide +kernel
  obtain ⟨⟨tr, s⟩, hexec, hends⟩ := Option.map_eq_some_iff.mp heval
  have hmem {e : ControllerEvent} (he : e ∈ [ControllerEvent.returned 0 0, .returned 1 65]) :
      e ∈ tr := List.mem_of_mem_filter (hends ▸ he)
  have hrun := Machine.run_restrict_of_exec storesQuietly_of_raisesNothing hexec
  exact ⟨tr, s, hrun, hmem (by simp), hmem (by simp), runs_unambiguous hrun⟩

/-- The last print raises, and the handler writes the other verdict beside the outcome. -/
theorem failed_print_leaves_both : ¬ ∀ tr s,
    Machine.Run controllerMachine controllerStart tr s → Unambiguous tr s := by
  intro h
  have heval : (Machine.exec controllerMachine controllerStart
      (untilStored 0 ++ [.step 0 .done, .step 0 (.raises .osError false), .step 0 .done])).map
        (fun r => r.2.files.operations sampleExperiment sampleRun) =
      some (some ⟨.complete, true, .complete, .begun⟩) := by
    decide +kernel
  obtain ⟨⟨tr, s⟩, hexec, hdirectory⟩ := Option.map_eq_some_iff.mp heval
  have hrun := Machine.run_of_exec hexec
  exact (h tr s hrun).verdict _ _ _ hdirectory ⟨rfl, fun h => (by cases h)⟩

end TcdOran.Harness.T2Controller
