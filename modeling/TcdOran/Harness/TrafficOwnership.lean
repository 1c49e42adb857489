import Mathlib.Data.List.Infix
import TcdOran.Harness.TrafficSession

/-! The receiver container and the capture process of a bounded traffic session at its exit. -/
namespace TcdOran.Harness.TrafficSession
open TcdOran.Lib Command
open RunnerScript (Answer Signal)

/-! ### What is promised -/

structure Session.Clear (s : Session) : Prop where
  receiver : s.receiver ≠ .created
  capture : s.capture ≠ .running

structure SessionReleases (s : Session) : Prop where
  ended : ∀ status, s.mode = .ended status → s.Clear
  passed : s.passed = true → s.receiver = .removed

/-- What the session has made and not given back is recorded, and the cleanup is still to run. -/
structure Session.Held (s : Session) : Prop where
  receiver : s.receiver = .created → s.vars.receiverCreated = true ∧ s.vars.cleanupDone = false
  capture : s.capture = .running → s.vars.capturePid = true ∧ s.vars.cleanupDone = false

/-- A receiver is not made by a command that fails; the container is removed and the capture process
stops when they are told to; and a signal comes where all that is to be given back is recorded and the
cleanup has not begun, or where nothing is left. -/
def Undivided (s : Session) : SessionAction → Prop
  | .captureExits => True
  | .step answer => match s.mode, s.rest, answer with
    | .body _, c :: _, .fails _ effect => c = createReceiver → effect = false
    | .exitTrap _, c :: _, .signal _ effect => (s.interrupt c effect).Clear
    | _, c :: _, .signal _ effect => (s.interrupt c effect).Held
    | _, c :: _, .fails _ effect => c = stopCapture ∨ c = removeReceiver → effect = true
    | _, _, _ => True

instance (s : Session) : Decidable s.Clear :=
  decidable_of_iff (s.receiver ≠ .created ∧ s.capture ≠ .running)
    ⟨fun h => ⟨h.1, h.2⟩, fun h => ⟨h.receiver, h.capture⟩⟩

instance (s : Session) : Decidable s.Held :=
  decidable_of_iff
    ((s.receiver = .created → s.vars.receiverCreated = true ∧ s.vars.cleanupDone = false) ∧
      (s.capture = .running → s.vars.capturePid = true ∧ s.vars.cleanupDone = false))
    ⟨fun h => ⟨h.1, h.2⟩, fun h => ⟨h.receiver, h.capture⟩⟩

instance (s : Session) : DecidablePred (Undivided s) := by
  refine fun a => SessionAction.casesOn a (fun answer => ?_) (.isTrue trivial)
  dsimp only [Undivided]
  generalize s.mode = mode, s.rest = rest
  refine List.casesOn rest ?_ ?_ <;> refine Mode.casesOn mode ?_ ?_ ?_ ?_ ?_ ?_ ?_ <;>
    refine Answer.casesOn answer ?_ ?_ ?_ <;> intros <;> (dsimp only; infer_instance)

/-! ### The prefixes of the body -/

def varsAfter (done : List Command) : Vars := done.foldl Vars.perform .initial

/-- What is made is recorded. -/
def Recorded (done : List Command) : Prop :=
  (createReceiver ∈ done → (varsAfter done).receiverCreated = true) ∧
  (spawnCapture ∈ done → waitCapture ∈ done ∨ (varsAfter done).capturePid = true)

/-- Where a command of the body stands. -/
def Placed (done : List Command) : Command → Prop
  | .call _ | .createReceiver | .testCapture => Recorded done
  | .spawnCapture => waitCapture ∉ done
  | .removeReceiver | .stopCapture | .reportPass => False
  | _ => True

instance (done : List Command) : Decidable (Recorded done) :=
  inferInstanceAs (Decidable (_ ∧ _))

instance (done : List Command) (c : Command) : Decidable (Placed done c) := by
  cases c with
  | call | createReceiver | testCapture => exact inferInstanceAs (Decidable (Recorded done))
  | spawnCapture => exact inferInstanceAs (Decidable (_ ∉ _))
  | removeReceiver | stopCapture | reportPass => exact inferInstanceAs (Decidable False)
  | _ => exact inferInstanceAs (Decidable True)

theorem body_placed : ∀ done ∈ body.inits, (varsAfter done).cleanupDone = false ∧
    ∀ c ∈ done.getLast?, Placed done.dropLast c := by
  decide +kernel

theorem placed_of_split {done rest : List Command} {c : Command} (h : done ++ c :: rest = body) :
    Placed done c := by
  have hmem : done ++ [c] ∈ body.inits :=
    (List.mem_inits _ _).mpr ⟨rest, by rw [List.append_assoc, ← h]; rfl⟩
  have hplaced := (body_placed (done ++ [c]) hmem).2 c (by simp)
  rwa [List.dropLast_concat] at hplaced

/-! ### The invariant -/

def Command.isCleanup : Command → Bool
  | .clearSignals | .setCleanupDone | .stopCapture | .clearCapture | .removeReceiver
  | .clearCreated => true
  | _ => false

/-- The mode in which the commands of the cleanup run. -/
def Mode.cleans : Mode → Bool
  | .finishing _ | .handler _ | .exitTrap _ => true
  | _ => false

/-- What the session is about to give back. -/
structure Clearing (s : Session) (commands : List Command) : Prop where
  cleanup : ∀ c ∈ commands, c.isCleanup = true
  receiver : s.receiver = .created → removeReceiver ∈ commands
  capture : s.capture = .running → stopCapture ∈ commands

/-- What holds of a session in every run. -/
inductive Stage (s : Session) : Prop
  | entering : s.mode = .entering → s.vars = .initial → s.receiver = .absent →
      s.capture = .unstarted → s.passed = false → (∀ c ∈ s.rest, c ∈ arguments) → Stage s
  | body (done : List Command) : s.mode = .body 0 → done ++ s.rest = body →
      s.vars = varsAfter done →
      s.receiver = (if createReceiver ∈ done then .created else .absent) →
      (s.capture = .running → spawnCapture ∈ done ∧ waitCapture ∉ done) → s.passed = false → Stage s
  | leaving : s.mode = .body 76 → s.rest <:+ [waitCapture, clearCapture] → s.Held →
      (waitCapture ∉ s.rest → s.capture ≠ .running) → s.passed = false → Stage s
  | cleaning (commands tail : List Command) : s.mode.cleans = true → s.rest = commands ++ tail →
      Clearing s commands → (∀ c ∈ tail, c = clearTraps ∨ c = clearExit) →
      (s.mode = .finishing 0 → s.receiver ≠ .absent) → s.passed = false → Stage s
  | reporting (status : ℕ) : s.mode = .reporting status → s.Clear → (∀ c ∈ s.rest, c = reportPass) →
      (s.rest ≠ [] ∨ s.passed = true → s.receiver = .removed) → Stage s
  | ended (status : ℕ) : s.mode = .ended status → s.rest = [] → s.Clear →
      (s.passed = true → s.receiver = .removed) → Stage s

section
variable {s s' : Session} {c : Command} {rest : List Command} {answer : Answer} {status : ℕ}
  {effect : Bool} {signal : Signal}

theorem Stage.releases (h : Stage s) : SessionReleases s := by
  cases h with
  | entering hmode _ _ _ hpassed | body _ hmode _ _ _ _ hpassed | leaving hmode _ _ _ hpassed =>
    exact ⟨fun _ hended => (by cases hmode.symm.trans hended),
      fun h => (by cases hpassed.symm.trans h)⟩
  | cleaning _ _ hmode _ _ _ _ hpassed =>
    refine ⟨?_, fun h => (by cases hpassed.symm.trans h)⟩
    intro status hended
    rw [hended] at hmode
    cases hmode
  | reporting status hmode _ _ hreport =>
    exact ⟨fun _ hended => (by cases hmode.symm.trans hended), fun h => hreport (.inr h)⟩
  | ended status _ _ hclear hpassed => exact ⟨fun _ _ => hclear, hpassed⟩

/-! ### The cleanup -/

theorem clearing_cleanup (h : s.Held) : Clearing s s.cleanup := by
  refine ⟨?_, ?_, ?_⟩
  · intro c hc
    unfold Session.cleanup at hc
    split_ifs at hc <;> simp at hc
    · rcases hc with rfl | rfl | rfl | rfl | rfl <;> rfl
    · rcases hc with rfl | rfl | rfl <;> rfl
    · rcases hc with rfl | rfl | rfl <;> rfl
    · rw [hc]
      rfl
  · intro hreceiver
    obtain ⟨hcreated, hdone⟩ := h.receiver hreceiver
    simp [Session.cleanup, hcreated, hdone]
  · intro hcapture
    obtain ⟨hpid, hdone⟩ := h.capture hcapture
    simp [Session.cleanup, hpid, hdone]

theorem Clearing.clear (h : Clearing s []) : s.Clear :=
  ⟨fun hreceiver => absurd (h.receiver hreceiver) List.not_mem_nil,
    fun hcapture => absurd (h.capture hcapture) List.not_mem_nil⟩

theorem Session.Clear.held (h : s.Clear) : s.Held :=
  ⟨fun hreceiver => absurd hreceiver h.receiver, fun hcapture => absurd hcapture h.capture⟩

theorem returnBody_stage (h : s.Held) (hpassed : s.passed = false)
    (hreceiver : status = 0 → s.receiver ≠ .absent) : Stage (s.returnBody status) := by
  refine .cleaning s.cleanup [clearTraps] rfl rfl ?_ ?_ ?_ hpassed
  · have hclearing := clearing_cleanup h
    exact ⟨hclearing.cleanup, hclearing.receiver, hclearing.capture⟩
  · intro c hc
    exact .inl (List.mem_singleton.mp hc)
  · intro hmode
    exact hreceiver (Mode.finishing.inj hmode)

theorem enterHandler_stage (h : s.Held) (hpassed : s.passed = false) :
    Stage (s.enterHandler signal) := by
  refine .cleaning (clearSignals :: s.cleanup) [clearExit] rfl rfl ?_ ?_ ?_ hpassed
  · have hclearing := clearing_cleanup h
    refine ⟨?_, ?_, ?_⟩
    · intro c hc
      rcases List.mem_cons.mp hc with rfl | hc
      · rfl
      · exact hclearing.cleanup c hc
    · exact fun hreceiver => List.mem_cons_of_mem _ (hclearing.receiver hreceiver)
    · exact fun hcapture => List.mem_cons_of_mem _ (hclearing.capture hcapture)
  · intro c hc
    exact .inr (List.mem_singleton.mp hc)
  · intro hmode
    cases hmode

theorem enterExitTrap_stage (h : s.Held) (hpassed : s.passed = false) :
    Stage (s.enterExitTrap signal) := by
  have hclearing := clearing_cleanup h
  refine .cleaning s.cleanup [] rfl (List.append_nil _).symm
    ⟨hclearing.cleanup, hclearing.receiver, hclearing.capture⟩ (by simp) ?_ hpassed
  intro hmode
  cases hmode

/-- One command of the cleanup. -/
theorem Clearing.perform {commands : List Command} (h : Clearing s (c :: commands)) :
    Clearing (s.perform c) commands := by
  obtain ⟨hc, hcommands⟩ := List.forall_mem_cons.mp h.cleanup
  refine ⟨hcommands, ?_, ?_⟩
  · intro hreceiver
    have hne : c ≠ removeReceiver := by
      rintro rfl
      cases hreceiver
    have hbefore : s.receiver = .created := by
      cases c with
      | removeReceiver => exact absurd rfl hne
      | clearSignals | setCleanupDone | stopCapture | clearCapture | clearCreated => exact hreceiver
      | _ => cases hc
    exact (List.mem_cons.mp (h.receiver hbefore)).resolve_left hne.symm
  · intro hcapture
    have hne : c ≠ stopCapture := by
      rintro rfl
      have hstop : s.capture.stop = .running := hcapture
      cases hstate : s.capture <;> rw [hstate] at hstop <;> cases hstop
    have hbefore : s.capture = .running := by
      cases c with
      | stopCapture => exact absurd rfl hne
      | clearSignals | setCleanupDone | removeReceiver | clearCapture | clearCreated => exact hcapture
      | _ => cases hc
    exact (List.mem_cons.mp (h.capture hbefore)).resolve_left hne.symm

theorem perform_passed (hc : c ≠ reportPass) : (s.perform c).passed = s.passed := by
  simp [Session.perform, hc]

theorem interrupt_passed (hc : c ≠ reportPass) : (s.interrupt c effect).passed = s.passed := by
  unfold Session.interrupt
  split_ifs
  · exact perform_passed hc
  · rfl

theorem perform_receiver_absent (hc : c.isCleanup = true)
    (h : (s.perform c).receiver = .absent) : s.receiver = .absent := by
  cases c with
  | removeReceiver => cases h
  | clearSignals | setCleanupDone | stopCapture | clearCapture | clearCreated => exact h
  | _ => cases hc

/-- A signal in the cleanup. -/
theorem signalled_stage (hmode : s.mode.cleans = true) (hpassed : (s.interrupt c effect).passed = false)
    (hheld : (∀ status, s.mode ≠ .exitTrap status) → (s.interrupt c effect).Held)
    (hclear : (∃ status, s.mode = .exitTrap status) ∨ c = clearTraps ∨ c = clearExit →
      (s.interrupt c effect).Clear) : Stage (s.signalled c signal effect) := by
  have hfinish (h : (s.interrupt c effect).Clear) :
      Stage ((s.interrupt c effect).finish signal.status) :=
    .ended signal.status rfl rfl ⟨h.receiver, h.capture⟩ fun h => (by cases hpassed.symm.trans h)
  unfold Session.signalled
  cases hm : s.mode with
  | entering | body | reporting | ended =>
    rw [hm] at hmode
    cases hmode
  | exitTrap status => exact hfinish (hclear (.inl ⟨status, hm⟩))
  | finishing status =>
    simp only
    split_ifs with hc
    · exact hfinish (hclear (.inr (.inl hc.1)))
    · exact enterHandler_stage (hheld (by simp [hm])) hpassed
  | handler status =>
    simp only
    split_ifs with hsignals hexit
    · exact enterHandler_stage (hheld (by simp [hm])) hpassed
    · exact hfinish (hclear (.inr (.inr hexit.1)))
    · exact enterExitTrap_stage (hheld (by simp [hm])) hpassed

theorem cleaning_step {commands tail : List Command} (hmode : s.mode.cleans = true)
    (hrest : c :: rest = commands ++ tail) (hclearing : Clearing s commands)
    (htail : ∀ c ∈ tail, c = clearTraps ∨ c = clearExit)
    (hreceiver : s.mode = .finishing 0 → s.receiver ≠ .absent) (hpassed : s.passed = false)
    (hfails : ∀ status effect, answer = .fails status effect →
      c = stopCapture ∨ c = removeReceiver → effect = true)
    (hheld : ∀ signal effect, answer = .signal signal effect →
      (∀ status, s.mode ≠ .exitTrap status) → (s.interrupt c effect).Held)
    (hclear : ∀ signal effect, answer = .signal signal effect →
      (∃ status, s.mode = .exitTrap status) → (s.interrupt c effect).Clear)
    (h : s.stepCommand c rest answer = some s') : Stage s' := by
  have hreport : c ≠ reportPass := by
    rintro rfl
    rcases List.mem_append.mp (hrest ▸ List.mem_cons_self) with hc | hc
    · cases hclearing.cleanup _ hc
    · rcases htail _ hc with h | h <;> cases h
  have hnext {failed : Bool} : Stage { s.perform c with rest, cleanupFailed := failed } := by
    cases commands with
    | cons x commands =>
      obtain ⟨rfl, rfl⟩ := List.cons.inj hrest
      have hperform := hclearing.perform
      refine .cleaning commands tail hmode rfl
        ⟨hperform.cleanup, hperform.receiver, hperform.capture⟩ htail ?_
        ((perform_passed hreport).trans hpassed)
      exact fun hm habsent => hreceiver hm
        (perform_receiver_absent (hclearing.cleanup _ List.mem_cons_self) habsent)
    | nil =>
      rw [List.nil_append] at hrest
      subst hrest
      obtain ⟨hc, htail⟩ := List.forall_mem_cons.mp htail
      refine .cleaning [] rest hmode rfl ?_ htail ?_ ((perform_passed hreport).trans hpassed)
      · rcases hc with rfl | rfl
        · exact ⟨hclearing.cleanup, hclearing.receiver, hclearing.capture⟩
        · exact ⟨hclearing.cleanup, hclearing.receiver, hclearing.capture⟩
      · rcases hc with rfl | rfl
        · exact hreceiver
        · exact hreceiver
  cases answer with
  | ok =>
    simp only [Session.stepCommand] at h
    split_ifs at h
    obtain rfl := Option.some.inj h
    exact hnext
  | fails status effect =>
    have hfailed : s.failCleanup c rest effect = some s' := by
      cases hm : s.mode with
      | finishing | handler | exitTrap =>
        simp only [Session.stepCommand, hm] at h
        split_ifs at h
        exact h
      | entering | body | reporting | ended =>
        rw [hm] at hmode
        cases hmode
    have heffect := hfails status effect rfl
    cases c with
    | stopCapture =>
      obtain rfl := heffect (.inl rfl)
      obtain rfl := Option.some.inj hfailed
      exact hnext
    | removeReceiver =>
      obtain rfl := heffect (.inr rfl)
      obtain rfl := Option.some.inj hfailed
      exact hnext
    | _ => cases hfailed
  | signal signal effect =>
    obtain rfl := Option.some.inj h
    apply signalled_stage hmode ((interrupt_passed hreport).trans hpassed) (hheld signal effect rfl)
    rintro (htrap | hc)
    · exact hclear signal effect rfl htrap
    · cases commands with
      | cons x commands =>
        obtain ⟨rfl, rfl⟩ := List.cons.inj hrest
        have hcleanup := hclearing.cleanup _ List.mem_cons_self
        rcases hc with rfl | rfl <;> cases hcleanup
      | nil =>
        have hnow := hclearing.clear
        rcases hc with rfl | rfl <;> cases effect
        · exact hnow
        · exact ⟨hnow.receiver, hnow.capture⟩
        · exact hnow
        · exact ⟨hnow.receiver, hnow.capture⟩

theorem cleaning_end (hmode : s.mode.cleans = true) (hclear : s.Clear)
    (hreceiver : s.mode = .finishing 0 → s.receiver ≠ .absent) (hpassed : s.passed = false)
    (h : s.stepEnd answer = some s') : Stage s' := by
  have hfinish (status : ℕ) : Stage (s.finish status) :=
    .ended status rfl rfl ⟨hclear.receiver, hclear.capture⟩ fun h => (by cases hpassed.symm.trans h)
  cases hm : s.mode with
  | entering | body | reporting | ended =>
    rw [hm] at hmode
    cases hmode
  | handler status =>
    cases answer with
    | ok =>
      simp only [Session.stepEnd, hm] at h
      obtain rfl := Option.some.inj h
      exact hfinish _
    | fails => cases h
    | signal signal effect =>
      simp only [Session.stepEnd, hm] at h
      obtain rfl := Option.some.inj h
      exact hfinish _
  | exitTrap status =>
    cases answer with
    | ok =>
      simp only [Session.stepEnd, hm] at h
      obtain rfl := Option.some.inj h
      exact hfinish _
    | fails => cases h
    | signal signal effect =>
      simp only [Session.stepEnd, hm] at h
      obtain rfl := Option.some.inj h
      exact hfinish _
  | finishing status =>
    cases answer with
    | ok =>
      simp only [Session.stepEnd, hm] at h
      split_ifs at h with hpass
      · obtain rfl := Option.some.inj h
        refine .reporting 0 rfl ⟨hclear.receiver, hclear.capture⟩
          (fun c hc => List.mem_singleton.mp hc) ?_
        rintro -
        show s.receiver = .removed
        have hpresent := hreceiver (by rw [hm, hpass.1])
        cases hstate : s.receiver with
        | absent => exact absurd hstate hpresent
        | created => exact absurd hstate hclear.receiver
        | removed => rfl
      all_goals
        obtain rfl := Option.some.inj h
        refine .reporting _ rfl ⟨hclear.receiver, hclear.capture⟩ (by simp) ?_
        rintro (hrest | hpassed')
        · exact absurd rfl hrest
        · cases hpassed.symm.trans hpassed'
    | fails => cases h
    | signal signal effect =>
      simp only [Session.stepEnd, hm] at h
      obtain rfl := Option.some.inj h
      exact hfinish _

/-! ### The body -/

theorem held_of_recorded {done : List Command} (hdone : done ∈ body.inits) (hrecorded : Recorded done)
    (hvars : s.vars = varsAfter done)
    (hreceiver : s.receiver = if createReceiver ∈ done then .created else .absent)
    (hcapture : s.capture = .running → spawnCapture ∈ done ∧ waitCapture ∉ done) : s.Held := by
  have hcleanup : s.vars.cleanupDone = false := hvars ▸ (body_placed done hdone).1
  constructor
  · intro h
    have hmem : createReceiver ∈ done := by
      by_contra hnot
      rw [if_neg hnot] at hreceiver
      cases hreceiver.symm.trans h
    exact ⟨hvars ▸ hrecorded.1 hmem, hcleanup⟩
  · intro h
    obtain ⟨hspawn, hwait⟩ := hcapture h
    exact ⟨hvars ▸ (hrecorded.2 hspawn).resolve_left hwait, hcleanup⟩

theorem body_step {done : List Command} (hmode : s.mode = .body 0)
    (hscript : done ++ c :: rest = body) (hvars : s.vars = varsAfter done)
    (hreceiver : s.receiver = if createReceiver ∈ done then .created else .absent)
    (hcapture : s.capture = .running → spawnCapture ∈ done ∧ waitCapture ∉ done)
    (hpassed : s.passed = false)
    (hfails : ∀ status effect, answer = .fails status effect → c = createReceiver → effect = false)
    (hheld : ∀ signal effect, answer = .signal signal effect → (s.interrupt c effect).Held)
    (h : s.stepCommand c rest answer = some s') : Stage s' := by
  have hplaced := placed_of_split hscript
  have hinits : done ∈ body.inits := (List.mem_inits _ _).mpr ⟨_, hscript⟩
  have hreport : c ≠ reportPass := by
    rintro rfl
    exact hplaced
  cases answer with
  | ok =>
    simp only [Session.stepCommand] at h
    split_ifs at h with hready
    obtain rfl := Option.some.inj h
    have hnext : s.vars.perform c = varsAfter (done ++ [c]) := by
      rw [varsAfter, List.foldl_concat, hvars, varsAfter]
    refine .body (done ++ [c]) hmode ?_ hnext ?_ ?_ ((perform_passed hreport).trans hpassed)
    · rw [List.append_assoc]
      exact hscript
    · cases c with
      | createReceiver =>
        rw [if_pos (List.mem_append_right _ (List.mem_singleton_self _))]
        rfl
      | removeReceiver => exact absurd hplaced not_false
      | _ => simpa [Session.perform] using hreceiver
    · intro hrunning
      cases c with
      | spawnCapture =>
        have hnot : waitCapture ∉ done := hplaced
        exact ⟨by simp, by simpa using hnot⟩
      | waitCapture =>
        have hexited : s.capture = .exited := of_decide_eq_true hready
        cases hexited.symm.trans hrunning
      | stopCapture => exact absurd hplaced not_false
      | _ =>
        obtain ⟨hspawn, hwait⟩ := hcapture hrunning
        exact ⟨List.mem_append_left _ hspawn, by simpa using hwait⟩
  | fails status effect =>
    simp only [Session.stepCommand, hmode] at h
    split_ifs at h with hzero
    cases c with
    | call =>
      obtain rfl := Option.some.inj h
      exact returnBody_stage (held_of_recorded hinits hplaced hvars hreceiver hcapture) hpassed
        fun h => absurd h hzero
    | createReceiver =>
      obtain rfl := hfails status effect rfl rfl
      obtain rfl := Option.some.inj h
      exact returnBody_stage (held_of_recorded hinits hplaced hvars hreceiver hcapture) hpassed
        fun h => absurd h hzero
    | testCapture =>
      obtain rfl := Option.some.inj h
      have hheld := held_of_recorded hinits hplaced hvars hreceiver hcapture
      exact .leaving rfl (List.suffix_refl _) ⟨hheld.receiver, hheld.capture⟩
        (fun h => absurd (List.mem_cons_self) h) hpassed
    | _ => cases h
  | signal signal effect =>
    obtain rfl := Option.some.inj h
    unfold Session.signalled
    rw [hmode]
    exact enterHandler_stage (hheld signal effect rfl) ((interrupt_passed hreport).trans hpassed)

/-- The wait for a capture that was found ended. -/
theorem leaving_step (hmode : s.mode = .body 76) (hrest : c :: rest <:+ [waitCapture, clearCapture])
    (hheld : s.Held) (hwaited : waitCapture ∉ c :: rest → s.capture ≠ .running)
    (hpassed : s.passed = false)
    (hsignal : ∀ signal effect, answer = .signal signal effect → (s.interrupt c effect).Held)
    (h : s.stepCommand c rest answer = some s') : Stage s' := by
  have hposition : c = waitCapture ∧ rest = [clearCapture] ∨ c = clearCapture ∧ rest = [] := by
    rcases List.suffix_cons_iff.mp hrest with h | h
    · exact .inl (List.cons.inj h)
    · rcases List.suffix_cons_iff.mp h with h | h
      · exact .inr (List.cons.inj h)
      · exact absurd (List.suffix_nil.mp h) (List.cons_ne_nil _ _)
  have hreport : c ≠ reportPass := by
    rintro rfl
    rcases hposition with ⟨h, -⟩ | ⟨h, -⟩ <;> cases h
  cases answer with
  | ok =>
    simp only [Session.stepCommand] at h
    split_ifs at h with hready
    obtain rfl := Option.some.inj h
    have hpassed' := (perform_passed hreport).trans hpassed
    rcases hposition with ⟨rfl, rfl⟩ | ⟨rfl, rfl⟩
    · have hexited : s.capture = .exited := of_decide_eq_true hready
      have hstopped : s.capture ≠ .running := by
        rw [hexited]
        exact fun h => by cases h
      exact .leaving hmode (List.suffix_cons _ _) ⟨hheld.receiver, hheld.capture⟩ (fun _ => hstopped)
        hpassed'
    · have hstopped := hwaited (by simp)
      exact .leaving hmode (List.nil_suffix) ⟨hheld.receiver, fun h => absurd h hstopped⟩
        (fun _ => hstopped) hpassed'
  | fails status effect =>
    simp only [Session.stepCommand, hmode] at h
    split_ifs at h
    rcases hposition with ⟨rfl, -⟩ | ⟨rfl, -⟩ <;> cases h
  | signal signal effect =>
    obtain rfl := Option.some.inj h
    unfold Session.signalled
    rw [hmode]
    exact enterHandler_stage (hsignal signal effect rfl) ((interrupt_passed hreport).trans hpassed)

theorem body_end (hmode : s.mode = .body status) (hheld : s.Held) (hpassed : s.passed = false)
    (hreceiver : status = 0 → s.receiver ≠ .absent) (h : s.stepEnd answer = some s') : Stage s' := by
  cases answer with
  | ok =>
    simp only [Session.stepEnd, hmode] at h
    obtain rfl := Option.some.inj h
    exact returnBody_stage hheld hpassed hreceiver
  | fails => cases h
  | signal signal effect =>
    simp only [Session.stepEnd, hmode] at h
    obtain rfl := Option.some.inj h
    exact enterHandler_stage hheld hpassed

/-! ### Whole runs -/

theorem entering_step (hmode : s.mode = .entering) (hvars : s.vars = .initial)
    (hreceiver : s.receiver = .absent) (hcapture : s.capture = .unstarted) (hpassed : s.passed = false)
    (hrest : ∀ c ∈ s.rest, c ∈ arguments) (h : s.step answer = some s') : Stage s' := by
  unfold Session.step at h
  have hclear : s.Clear := by
    constructor
    · exact fun h => (by cases hreceiver.symm.trans h)
    · exact fun h => (by cases hcapture.symm.trans h)
  have hfinish (status : ℕ) : Stage (s.finish status) :=
    .ended status rfl rfl ⟨hclear.receiver, hclear.capture⟩ fun h => (by cases hpassed.symm.trans h)
  cases hcommands : s.rest with
  | nil =>
    rw [hcommands] at h
    cases answer with
    | ok =>
      simp only [Session.stepEnd, hmode] at h
      obtain rfl := Option.some.inj h
      refine .body [] rfl rfl hvars ?_ ?_ hpassed
      · exact hreceiver
      · intro hrunning
        exact absurd hrunning hclear.capture
    | fails => cases h
    | signal signal effect =>
      simp only [Session.stepEnd, hmode] at h
      obtain rfl := Option.some.inj h
      exact enterHandler_stage hclear.held hpassed
  | cons c rest =>
    rw [hcommands] at h hrest
    obtain ⟨hc, hrest⟩ := List.forall_mem_cons.mp hrest
    have hperform : (s.perform c).vars = s.vars ∧ (s.perform c).receiver = s.receiver ∧
        (s.perform c).capture = s.capture ∧ (s.perform c).passed = s.passed := by
      simp only [arguments, List.mem_cons, List.not_mem_nil, or_false] at hc
      rcases hc with rfl | rfl
      · exact ⟨rfl, rfl, rfl, Bool.or_false _⟩
      · exact ⟨rfl, rfl, rfl, Bool.or_false _⟩
    obtain ⟨hvars', hreceiver', hcapture', hpassed'⟩ := hperform
    cases answer with
    | ok =>
      simp only [Session.stepCommand] at h
      split_ifs at h
      obtain rfl := Option.some.inj h
      exact .entering hmode (hvars'.trans hvars) (hreceiver'.trans hreceiver)
        (hcapture'.trans hcapture) (hpassed'.trans hpassed) hrest
    | fails status effect =>
      simp only [Session.stepCommand, hmode] at h
      split_ifs at h
      obtain rfl := Option.some.inj h
      exact hfinish 64
    | signal signal effect =>
      obtain rfl := Option.some.inj h
      unfold Session.signalled
      rw [hmode]
      have hleft : (s.interrupt c effect).Clear ∧ (s.interrupt c effect).passed = false := by
        unfold Session.interrupt
        split_ifs
        · exact ⟨⟨hreceiver' ▸ hclear.receiver, hcapture' ▸ hclear.capture⟩, hpassed'.trans hpassed⟩
        · exact ⟨hclear, hpassed⟩
      exact .ended signal.status rfl rfl ⟨hleft.1.receiver, hleft.1.capture⟩
        fun h => (by cases hleft.2.symm.trans h)

theorem reporting_step (hmode : s.mode = .reporting status) (hclear : s.Clear)
    (hrest : ∀ c ∈ s.rest, c = reportPass)
    (hreport : s.rest ≠ [] ∨ s.passed = true → s.receiver = .removed)
    (h : s.step answer = some s') : Stage s' := by
  unfold Session.step at h
  have hfinish (status : ℕ) : Stage (s.finish status) :=
    .ended status rfl rfl ⟨hclear.receiver, hclear.capture⟩ fun h => hreport (.inr h)
  cases hcommands : s.rest with
  | nil =>
    rw [hcommands] at h
    cases answer with
    | ok =>
      simp only [Session.stepEnd, hmode] at h
      obtain rfl := Option.some.inj h
      exact hfinish status
    | fails => cases h
    | signal signal effect =>
      simp only [Session.stepEnd, hmode] at h
      obtain rfl := Option.some.inj h
      exact hfinish _
  | cons c rest =>
    have hremoved := hreport (.inl (by rw [hcommands]; exact List.cons_ne_nil _ _))
    rw [hcommands] at h hrest
    obtain ⟨rfl, hrest'⟩ := List.forall_mem_cons.mp hrest
    cases answer with
    | ok =>
      simp only [Session.stepCommand] at h
      split_ifs at h
      obtain rfl := Option.some.inj h
      exact .reporting status hmode ⟨hclear.receiver, hclear.capture⟩ hrest' fun _ => hremoved
    | fails status' effect =>
      simp only [Session.stepCommand, hmode] at h
      split_ifs at h
      obtain rfl := Option.some.inj h
      exact hfinish status'
    | signal signal effect =>
      obtain rfl := Option.some.inj h
      unfold Session.signalled
      rw [hmode]
      cases effect with
      | false => exact hfinish _
      | true =>
        exact .ended signal.status rfl rfl ⟨hclear.receiver, hclear.capture⟩ fun _ => hremoved

theorem step_stage (hstage : Stage s) (hundivided : Undivided s (.step answer))
    (h : s.step answer = some s') : Stage s' := by
  unfold Undivided at hundivided
  cases hstage with
  | entering hmode hvars hreceiver hcapture hpassed hrest =>
    exact entering_step hmode hvars hreceiver hcapture hpassed hrest h
  | body done hmode hscript hvars hreceiver hcapture hpassed =>
    unfold Session.step at h
    cases hrest : s.rest with
    | nil =>
      rw [hrest] at h
      rw [hrest, List.append_nil] at hscript
      subst hscript
      have hheld := held_of_recorded (List.mem_inits _ _ |>.mpr (List.prefix_refl _))
        (by decide) hvars hreceiver hcapture
      refine body_end hmode hheld hpassed ?_ h
      rintro - habsent
      cases hreceiver.symm.trans habsent
    | cons c rest =>
      rw [hrest] at h hscript
      rw [hmode, hrest] at hundivided
      refine body_step hmode hscript hvars hreceiver hcapture hpassed ?_ ?_ h
      · rintro status effect rfl
        exact hundivided
      · rintro signal effect rfl
        exact hundivided
  | leaving hmode hrest hheld hwaited hpassed =>
    unfold Session.step at h
    cases hcommands : s.rest with
    | nil =>
      rw [hcommands] at h
      exact body_end hmode hheld hpassed (fun h => absurd h (by decide)) h
    | cons c rest =>
      rw [hcommands] at h hrest hwaited
      rw [hmode, hcommands] at hundivided
      refine leaving_step hmode hrest hheld hwaited hpassed ?_ h
      rintro signal effect rfl
      exact hundivided
  | cleaning commands tail hmode hrest hclearing htail hreceiver hpassed =>
    unfold Session.step at h
    cases hcommands : s.rest with
    | nil =>
      rw [hcommands] at h
      obtain ⟨rfl, -⟩ := List.append_eq_nil_iff.mp (hrest.symm.trans hcommands)
      exact cleaning_end hmode hclearing.clear hreceiver hpassed h
    | cons c rest =>
      rw [hcommands] at h
      rw [hcommands] at hundivided
      refine cleaning_step hmode (hcommands.symm.trans hrest) hclearing htail hreceiver hpassed ?_ ?_
        ?_ h
      · rintro status effect rfl
        cases hm : s.mode with
        | finishing | handler | exitTrap =>
          rw [hm] at hundivided
          exact hundivided
        | entering | body | reporting | ended =>
          rw [hm] at hmode
          cases hmode
      · rintro signal effect rfl hnot
        cases hm : s.mode with
        | exitTrap status => exact absurd hm (hnot status)
        | finishing | handler =>
          rw [hm] at hundivided
          exact hundivided
        | entering | body | reporting | ended =>
          rw [hm] at hmode
          cases hmode
      · rintro signal effect rfl ⟨status, hm⟩
        rw [hm] at hundivided
        exact hundivided
  | reporting status hmode hclear hrest hreport =>
    exact reporting_step hmode hclear hrest hreport h
  | ended status hmode hrest =>
    unfold Session.step at h
    rw [hrest] at h
    cases answer <;> simp only [Session.stepEnd, hmode] at h <;> cases h

/-- The capture process exits. -/
theorem exits_stage (h : Stage s) (hrunning : s.capture = .running) :
    Stage { s with capture := .exited } := by
  have hexited : Capture.exited ≠ .running := by decide
  cases h with
  | entering _ _ _ hcapture => cases hcapture.symm.trans hrunning
  | body done hmode hscript hvars hreceiver _ hpassed =>
    exact .body done hmode hscript hvars hreceiver (fun h => absurd h hexited) hpassed
  | leaving hmode hrest hheld _ hpassed =>
    exact .leaving hmode hrest ⟨hheld.receiver, fun h => absurd h hexited⟩ (fun _ => hexited) hpassed
  | cleaning commands tail hmode hrest hclearing htail hreceiver hpassed =>
    exact .cleaning commands tail hmode hrest
      ⟨hclearing.cleanup, hclearing.receiver, fun h => absurd h hexited⟩ htail hreceiver hpassed
  | reporting status hmode hclear hrest hreport =>
    exact .reporting status hmode ⟨hclear.receiver, hexited⟩ hrest hreport
  | ended status hmode hrest hclear hpassed =>
    exact .ended status hmode hrest ⟨hclear.receiver, hexited⟩ hpassed

/-- In every run in which no signal falls between making something and recording it, or into a cleanup
that has begun, a session gives back what it made. -/
theorem session_releases {tr : List Empty}
    (h : Machine.Run (Machine.restrict sessionMachine Undivided) Session.start tr s) :
    SessionReleases s := by
  have hstage : Stage s := by
    refine h.invariant (I := fun _ s => Stage s) (.entering rfl rfl rfl rfl rfl fun _ h => h) ?_
    intro tr s a s' es hstage hs
    obtain ⟨hundivided, hs⟩ := Machine.restrict_eq_some.mp hs
    cases a with
    | step answer =>
      obtain ⟨s'', hstep, hpair⟩ := Option.map_eq_some_iff.mp hs
      obtain rfl := (Prod.mk.inj hpair).1
      exact step_stage hstage hundivided hstep
    | captureExits =>
      simp only [sessionMachine] at hs
      split_ifs at hs with hrunning
      obtain ⟨rfl, -⟩ := Prod.mk.inj (Option.some.inj hs)
      exact exits_stage hstage hrunning
  exact hstage.releases

end

/-! ### Interrupted sessions -/

def oks (n : ℕ) : List SessionAction := List.replicate n (.step .ok)

/-- INT comes while the client runs. -/
theorem session_releases_sample : ∃ s,
    Machine.Run (Machine.restrict sessionMachine Undivided) Session.start [] s ∧
    (s.mode, s.receiver, s.capture) = (.ended 130, .removed, .exited) ∧ SessionReleases s := by
  have heval : (Machine.exec (fun s a => if decide (Undivided s a) then sessionMachine s a else none)
      Session.start (oks 13 ++ [.step (.signal .int false)] ++ oks 8)).map
        (fun result => (result.2.mode, result.2.receiver, result.2.capture)) =
      some (.ended 130, .removed, .exited) := by
    decide +kernel
  obtain ⟨⟨tr, s⟩, hexec, hend⟩ := Option.map_eq_some_iff.mp heval
  cases tr with
  | cons e => cases e
  | nil =>
    have hrun := Machine.run_restrict_of_exec (fun _ _ => of_decide_eq_true) hexec
    exact ⟨s, hrun, hend, session_releases hrun⟩

/-- INT comes while the container is made: the handler finds no receiver recorded. -/
theorem interrupted_create_leaves_receiver : ¬ ∀ tr s,
    Machine.Run sessionMachine Session.start tr s → SessionReleases s := by
  intro h
  have heval : (Machine.exec sessionMachine Session.start
      (oks 6 ++ [.step (.signal .int true)] ++ oks 4)).map
        (fun result => (result.2.mode, result.2.receiver)) = some (.ended 130, .created) := by
    decide +kernel
  obtain ⟨⟨tr, s⟩, hexec, hend⟩ := Option.map_eq_some_iff.mp heval
  obtain ⟨hmode, hreceiver⟩ := Prod.mk.inj hend
  exact ((h tr s (Machine.run_of_exec hexec)).ended 130 hmode).receiver hreceiver

end TcdOran.Harness.TrafficSession
