import TcdOran.Receiver.Evaluator

/-! The run that `latest_eligible_run` selects among loaded rows, and the windows that `evaluate`
takes from it. -/
namespace TcdOran.Receiver
open TcdOran.Lib Python

/-! ### Loaded rows -/

theorem exactDurationNs_evaluator : exactDurationNs evaluatorPrecision pointTwo = .ok 200000000 := by
  decide +kernel

theorem duration_of_complete {row : IntervalRow} (hvalid : intervalSchemaValid row = true)
    (hclass : row.intervalClass = .complete) : row.intervalDurationS = pointTwo := by
  simp only [intervalSchemaValid, Bool.and_eq_true] at hvalid
  have hduration := hvalid.2
  rw [hclass] at hduration
  exact of_decide_eq_true hduration

/-- The schema leaves no other duration to a complete row. -/
theorem isComplete_iff {row : IntervalRow} (hvalid : intervalSchemaValid row = true) :
    isComplete row = true ↔ row.intervalClass = .complete := by
  rw [isComplete, decide_eq_true_iff]
  refine ⟨And.left, fun hclass => ⟨hclass, ?_⟩⟩
  rw [duration_of_complete hvalid hclass]
  decide +kernel

theorem observedBounds_complete {row : IntervalRow} (hvalid : intervalSchemaValid row = true)
    (hclass : row.intervalClass = .complete) :
    observedBounds row = if row.rxWallNs < 200000000
      then .error "derived observed interval start is negative"
      else .ok (row.rxWallNs - 200000000, row.rxWallNs) := by
  rw [observedBounds, duration_of_complete hvalid hclass, exactDurationNs_evaluator, ok_bind]
  simp only
  split_ifs with hearly
  · have hnegative : ¬ 0 ≤ row.rxWallNs - 200000000 := by omega
    simp only [require, if_neg hnegative]
    rfl
  · have hstart : 0 ≤ row.rxWallNs - 200000000 := by omega
    rw [ok_of_require hstart]
    rfl

end TcdOran.Receiver
