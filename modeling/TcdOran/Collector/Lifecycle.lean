import TcdOran.Lib.Machine

/-! The lifecycle of lifecycle.c. -/
namespace TcdOran.Collector
open TcdOran.Lib

inductive LifecycleState
  | created | apiInitialised | ricConnected | nodeDiscovered | nodeSelected | subscriptionActive
  | receiving | stopRequested | subscriptionRemoved | failed | stopped
  deriving DecidableEq

structure Lifecycle where
  state : LifecycleState
  subscriptionActive : Bool
  logicalSubscriptionId : UInt64

def lifecycleInit : Lifecycle := ⟨.created, false, 0⟩

def lifecycleCanTransition (lifecycle : Lifecycle) (next : LifecycleState) : Bool :=
  match lifecycle.state with
  | .created => next = .apiInitialised || next = .failed
  | .apiInitialised => next = .ricConnected || next = .stopRequested || next = .failed
  | .ricConnected => next = .nodeDiscovered || next = .stopRequested || next = .failed
  | .nodeDiscovered => next = .nodeSelected || next = .stopRequested || next = .failed
  | .nodeSelected => next = .subscriptionActive || next = .stopRequested || next = .failed
  | .subscriptionActive => next = .receiving || next = .stopRequested || next = .failed
  | .receiving => next = .stopRequested || next = .failed
  | .stopRequested =>
      if next = .subscriptionRemoved then lifecycle.subscriptionActive
      else if next = .stopped then !lifecycle.subscriptionActive
      else next = .failed
  | .failed =>
      if next = .subscriptionRemoved then lifecycle.subscriptionActive
      else if next = .stopped then !lifecycle.subscriptionActive
      else false
  | .subscriptionRemoved => next = .stopped
  | .stopped => false

/-- The lifecycle behind a transition, `none` when it is refused. -/
def lifecycleTransition (lifecycle : Lifecycle) (next : LifecycleState) : Option Lifecycle :=
  if lifecycleCanTransition lifecycle next then
    some { lifecycle with
      state := next
      subscriptionActive :=
        if next = .subscriptionActive then true
        else if next = .subscriptionRemoved then false
        else lifecycle.subscriptionActive }
  else none

/-- The lifecycle as a machine that follows any requests. -/
def lifecycleMachine : Machine Lifecycle LifecycleState LifecycleState := fun lifecycle next =>
  (lifecycleTransition lifecycle next).map fun after => (after, [next])

/-- Behind the removal of the subscription it is not active. -/
def Lifecycle.Consistent (lifecycle : Lifecycle) : Prop :=
  lifecycle.state = .subscriptionRemoved ∨ lifecycle.state = .stopped →
    lifecycle.subscriptionActive = false

theorem lifecycleInit_consistent : lifecycleInit.Consistent := by
  rintro (h | h) <;> cases h

/-- Only an inactive subscription lets the lifecycle stop. -/
theorem subscriptionActive_of_stopped {lifecycle : Lifecycle} (h : lifecycle.Consistent)
    (hcan : lifecycleCanTransition lifecycle .stopped = true) :
    lifecycle.subscriptionActive = false := by
  unfold lifecycleCanTransition at hcan
  cases hstate : lifecycle.state with
  | subscriptionRemoved => exact h (.inl hstate)
  | stopped => exact h (.inr hstate)
  | stopRequested | failed =>
    simp only [hstate, reduceCtorEq, if_false, if_true] at hcan
    simpa using hcan
  | created | apiInitialised | ricConnected | nodeDiscovered | nodeSelected
  | subscriptionActive | receiving =>
    simp [hstate] at hcan

theorem Lifecycle.Consistent.transition {lifecycle after : Lifecycle} {next : LifecycleState}
    (h : lifecycle.Consistent) (ht : lifecycleTransition lifecycle next = some after) :
    after.Consistent := by
  unfold lifecycleTransition at ht
  split at ht
  · next hcan =>
    obtain rfl := Option.some.inj ht
    rintro (rfl | rfl)
    · rfl
    · show lifecycle.subscriptionActive = false
      exact subscriptionActive_of_stopped h hcan
  · cases ht

theorem Lifecycle.Consistent.of_run {tr : List LifecycleState} {lifecycle : Lifecycle}
    (h : Machine.Run lifecycleMachine lifecycleInit tr lifecycle) : lifecycle.Consistent := by
  refine h.invariant (I := fun _ lifecycle => lifecycle.Consistent) lifecycleInit_consistent ?_
  intro tr lifecycle next after es hi hs
  obtain ⟨after', ht, h⟩ := Option.map_eq_some_iff.mp hs
  obtain ⟨rfl, -⟩ := Prod.mk.inj h
  exact hi.transition ht

end TcdOran.Collector
