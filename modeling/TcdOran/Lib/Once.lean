import Mathlib.Data.List.Nodup
import TcdOran.Lib.Machine

/-! Keys that a machine takes and never gives back: the events that take a key are at most one
for each key. -/
namespace TcdOran.Lib.Machine
variable {σ α ε κ : Type*} {m : Machine σ α ε} {s₀ : σ}

/-- A step keeps what is taken, and its events take distinct keys that were free before. -/
structure Takes (key : ε → Option κ) (taken : σ → κ → Prop) (s s' : σ) (es : List ε) : Prop where
  keeps : ∀ k, taken s k → taken s' k
  nodup : (es.filterMap key).Nodup
  free : ∀ k ∈ es.filterMap key, ¬ taken s k
  takes : ∀ k ∈ es.filterMap key, taken s' k

theorem Takes.quiet {key : ε → Option κ} {taken : σ → κ → Prop} {s s' : σ} {es : List ε}
    (hkeeps : ∀ k, taken s k → taken s' k) (hnone : es.filterMap key = []) :
    Takes key taken s s' es := by
  constructor
  · exact hkeeps
  · rw [hnone]
    exact List.nodup_nil
  · simp [hnone]
  · simp [hnone]

theorem Run.nodup_keys {key : ε → Option κ} {taken : σ → κ → Prop}
    (step : ∀ {s a s' es}, m s a = some (s', es) → Takes key taken s s' es)
    {tr : List ε} {s : σ} (h : Run m s₀ tr s) :
    (tr.filterMap key).Nodup ∧ ∀ k ∈ tr.filterMap key, taken s k := by
  induction h with
  | start => exact ⟨List.nodup_nil, by simp⟩
  | step _ hs ih =>
    obtain ⟨hnodup, htaken⟩ := ih
    have ht := step hs
    rw [List.filterMap_append]
    constructor
    · apply hnodup.append ht.nodup
      intro k hold hnew
      exact ht.free k hnew (htaken k hold)
    · intro k hk
      rcases List.mem_append.mp hk with hk | hk
      · exact ht.keeps k (htaken k hk)
      · exact ht.takes k hk

/-- Two events that take one key are one event. -/
theorem eq_of_nodup_keys {key : ε → Option κ} {tr : List ε} (h : (tr.filterMap key).Nodup)
    {e f : ε} (he : e ∈ tr) (hf : f ∈ tr) {k : κ} (hek : key e = some k) (hfk : key f = some k) :
    e = f := by
  induction tr with
  | nil => cases he
  | cons g tr ih =>
    have hmem {x : ε} (hx : x ∈ tr) (hxk : key x = some k) : k ∈ tr.filterMap key :=
      List.mem_filterMap.mpr ⟨x, hx, hxk⟩
    have hhead {x : ε} (hx : x ∈ tr) (hxk : key x = some k) (hg : key g = some k) : False := by
      rw [List.filterMap_cons, hg] at h
      exact (List.nodup_cons.mp h).1 (hmem hx hxk)
    have hrest : (tr.filterMap key).Nodup := by
      cases hg : key g with
      | none => rwa [List.filterMap_cons, hg] at h
      | some k' =>
        rw [List.filterMap_cons, hg] at h
        exact (List.nodup_cons.mp h).2
    rcases List.mem_cons.mp he with rfl | he' <;> rcases List.mem_cons.mp hf with rfl | hf'
    · rfl
    · exact (hhead hf' hfk hek).elim
    · exact (hhead he' hek hfk).elim
    · exact ih hrest he' hf'

theorem length_le_one {keys : List κ} (h : keys.Nodup) (hall : ∀ k ∈ keys, ∀ k' ∈ keys, k = k') :
    keys.length ≤ 1 := by
  match keys, h with
  | [], _ => exact Nat.zero_le 1
  | [_], _ => exact Nat.le_refl 1
  | k :: k' :: rest, h =>
    have hsame := hall k List.mem_cons_self k' (List.mem_cons_of_mem _ List.mem_cons_self)
    subst hsame
    exact absurd List.mem_cons_self (List.nodup_cons.mp h).1

end TcdOran.Lib.Machine
