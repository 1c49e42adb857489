import Mathlib.Data.List.Basic

/-! Machines that take an action or refuse it and emit observations, with the induction
rules through which the safety statements about whole runs are proved. -/
namespace TcdOran.Lib

/-- A transition function. It answers `none` where the action is not enabled. -/
abbrev Machine (σ α ε : Type*) := σ → α → Option (σ × List ε)

namespace Machine
variable {σ α ε : Type*}

/-- Some sequence of enabled actions leads from `s₀` to `s` and emits the trace `tr`. -/
inductive Run (m : Machine σ α ε) (s₀ : σ) : List ε → σ → Prop
  | start : Run m s₀ [] s₀
  | step {tr : List ε} {s s' : σ} {a : α} {es : List ε} :
      Run m s₀ tr s → m s a = some (s', es) → Run m s₀ (tr ++ es) s'

variable {m : Machine σ α ε} {s₀ : σ}

/-- What holds at the start and survives every step holds along every run. The trace
so far is part of the statement, so history variables are not needed in the state. -/
theorem Run.invariant {I : List ε → σ → Prop} (start : I [] s₀)
    (step : ∀ {tr s a s' es}, I tr s → m s a = some (s', es) → I (tr ++ es) s')
    {tr : List ε} {s : σ} (h : Run m s₀ tr s) : I tr s := by
  induction h with
  | start => exact start
  | step _ hs ih => exact step ih hs

/-- A property of each emitted event relative to the trace before it. -/
theorem Run.event_property {P : List ε → ε → Prop}
    (step : ∀ {tr s a s' es}, Run m s₀ tr s → m s a = some (s', es) →
      ∀ {pre e post}, es = pre ++ e :: post → P (tr ++ pre) e)
    {tr : List ε} {s : σ} (h : Run m s₀ tr s) {pre : List ε} {e : ε} {post : List ε}
    (htr : tr = pre ++ e :: post) : P pre e := by
  induction h generalizing post with
  | start => simp at htr
  | step hr hs ih =>
    rcases List.append_eq_append_iff.mp htr with ⟨mid, hpre, hes⟩ | ⟨mid, htr', hmid⟩
    · rw [hpre]
      exact step hr hs hes
    · cases mid with
      | nil =>
        rw [List.append_nil] at htr'
        have hP := @step _ _ _ _ _ hr hs [] e post hmid.symm
        rwa [List.append_nil, htr'] at hP
      | cons x mid =>
        obtain ⟨rfl, -⟩ := List.cons.inj hmid
        exact ih htr'

/-- Execute a script of actions; a refused action ends it. -/
def exec (m : Machine σ α ε) (s : σ) : List α → Option (List ε × σ)
  | [] => some ([], s)
  | a :: as => do
      let (s', es) ← m s a
      let (tr, t) ← exec m s' as
      return (es ++ tr, t)

theorem Run.append_exec {tr : List ε} {s : σ} (h : Run m s₀ tr s) {as : List α}
    {tr' : List ε} {t : σ} (he : exec m s as = some (tr', t)) : Run m s₀ (tr ++ tr') t := by
  induction as generalizing tr s tr' with
  | nil =>
    obtain ⟨rfl, rfl⟩ : [] = tr' ∧ s = t := by simpa [exec] using he
    simpa using h
  | cons a as ih =>
    simp only [exec, Option.bind_eq_bind, Option.bind_eq_some_iff] at he
    obtain ⟨⟨s', es⟩, hs, ⟨tr₁, t₁⟩, hr, hret⟩ := he
    obtain ⟨rfl, rfl⟩ : es ++ tr₁ = tr' ∧ t₁ = t := by simpa using hret
    rw [← List.append_assoc]
    exact ih (h.step hs) hr

/-- A script that executes is a run. -/
theorem run_of_exec {as : List α} {tr : List ε} {s : σ}
    (he : exec m s₀ as = some (tr, s)) : Run m s₀ tr s := by
  have hstart : Run m s₀ [] s₀ := .start
  simpa using hstart.append_exec he

theorem exec_concat {as : List α} {a : α} {tr : List ε} {t : σ} :
    exec m s₀ (as ++ [a]) = some (tr, t) ↔
      ∃ before s es, exec m s₀ as = some (before, s) ∧ m s a = some (t, es) ∧ tr = before ++ es := by
  induction as generalizing s₀ tr with
  | nil =>
    simp only [List.nil_append, exec, Option.bind_eq_bind, Option.bind_eq_some_iff,
      Option.pure_def, Option.some.injEq, Prod.mk.injEq, Prod.exists]
    constructor
    · rintro ⟨s', es, hs, _, _, ⟨rfl, rfl⟩, rfl, rfl⟩
      exact ⟨[], s₀, _, ⟨rfl, rfl⟩, hs, List.append_nil _⟩
    · rintro ⟨_, _, _, ⟨rfl, rfl⟩, hs, rfl⟩
      exact ⟨t, _, hs, [], t, ⟨rfl, rfl⟩, List.append_nil _, rfl⟩
  | cons b bs ih =>
    simp only [List.cons_append, exec, Option.bind_eq_bind, Option.bind_eq_some_iff,
      Option.pure_def, Option.some.injEq, Prod.mk.injEq, Prod.exists]
    constructor
    · rintro ⟨s', es, hs, tr₁, t₁, he, rfl, rfl⟩
      obtain ⟨before, s, last, hbefore, hlast, rfl⟩ := ih.mp he
      exact ⟨es ++ before, s, last, ⟨s', es, hs, before, s, hbefore, rfl, rfl⟩, hlast,
        (List.append_assoc es before last).symm⟩
    · rintro ⟨_, s, last, ⟨s', es, hs, before, s₁, hbefore, rfl, rfl⟩, hlast, rfl⟩
      exact ⟨s', es, hs, before ++ last, t, ih.mpr ⟨before, s₁, last, hbefore, hlast, rfl⟩,
        (List.append_assoc es before last).symm, rfl⟩

theorem exec_invariant_from {I : List α → σ → Prop}
    (step : ∀ {as s a s' es}, I as s → m s a = some (s', es) → I (as ++ [a]) s')
    {before as : List α} {tr : List ε} {s : σ} (start : I before s₀)
    (he : exec m s₀ as = some (tr, s)) : I (before ++ as) s := by
  induction as generalizing before s₀ tr with
  | nil =>
    obtain ⟨-, rfl⟩ : [] = tr ∧ s₀ = s := by simpa [exec] using he
    simpa using start
  | cons a as ih =>
    simp only [exec, Option.bind_eq_bind, Option.bind_eq_some_iff] at he
    obtain ⟨⟨s', es⟩, hs, ⟨tr₁, t₁⟩, hr, hret⟩ := he
    obtain ⟨-, rfl⟩ : es ++ tr₁ = tr ∧ t₁ = s := by simpa using hret
    rw [List.append_cons]
    exact ih (step start hs) hr

/-- The rule of `Run.invariant` where the statement speaks of the actions taken. -/
theorem exec_invariant {I : List α → σ → Prop} (start : I [] s₀)
    (step : ∀ {as s a s' es}, I as s → m s a = some (s', es) → I (as ++ [a]) s')
    {as : List α} {tr : List ε} {s : σ} (he : exec m s₀ as = some (tr, s)) : I as s :=
  exec_invariant_from step start he

open Classical in
/-- The machine that takes an action only where it is allowed. -/
noncomputable def restrict (m : Machine σ α ε) (allowed : σ → α → Prop) : Machine σ α ε :=
  fun s a => if allowed s a then m s a else none

theorem restrict_eq_some {allowed : σ → α → Prop} {s : σ} {a : α} {result : σ × List ε} :
    restrict m allowed s a = some result ↔ allowed s a ∧ m s a = some result := by
  unfold restrict
  split_ifs with h <;> simp [h]

theorem Run.of_restrict {allowed : σ → α → Prop} {tr : List ε} {s : σ}
    (h : Run (restrict m allowed) s₀ tr s) : Run m s₀ tr s := by
  induction h with
  | start => exact .start
  | step _ hs ih => exact ih.step (restrict_eq_some.mp hs).2

/-- A script whose steps pass a check is a run of the restricted machine. -/
theorem run_restrict_of_exec {allowed : σ → α → Prop} {check : σ → α → Bool}
    (hcheck : ∀ s a, check s a = true → allowed s a) {as : List α} {tr : List ε} {s : σ}
    (he : exec (fun s a => if check s a then m s a else none) s₀ as = some (tr, s)) :
    Run (restrict m allowed) s₀ tr s := by
  generalize run_of_exec he = hrun
  clear he
  induction hrun with
  | start => exact .start
  | step _ hs ih =>
    split at hs
    · next hallowed => exact ih.step (restrict_eq_some.mpr ⟨hcheck _ _ hallowed, hs⟩)
    · cases hs

end Machine
end TcdOran.Lib
