import TcdOran.Receiver.Evaluator

/-! prompt12-precontrol-freshness.py: the last fifty complete intervals before a control, and how
they are bound to the windows of the evaluator. -/
namespace TcdOran.Receiver
open TcdOran.Lib Python

/-! ### The rows -/

/-- The second loop of `load_rows`; `previous` is the timestamp of the row before. -/
def completeUntil (cutoff : Option ℤ) : Option ℤ → List IntervalRow → Except String (List IntervalRow)
  | _, [] => .ok []
  | previous, row :: rows => do
      require (previous.all fun previous => previous < row.timestampUtcNs)
        "canonical timestamp order is not strictly increasing"
      if row.intervalClass ≠ .complete ∨ cutoff.any fun cutoff => cutoff < row.timestampUtcNs then
        completeUntil cutoff (some row.timestampUtcNs) rows
      else
        require (reprDecimal row.intervalDurationS = 1 / 5)
          "eligible complete interval duration is not 0.2 s"
        let rest ← completeUntil cutoff (some row.timestampUtcNs) rows
        return row :: rest

/-- `load_rows`: all rows and the complete ones up to the cutoff. -/
def loadRows (rows : List IntervalRow) (experimentId runId : List ℕ) (cutoff : Option ℤ) :
    Except String (List IntervalRow × List IntervalRow) := do
  rows.forM fun row => do
    require (row.experimentId = experimentId) "experiment_id mismatch"
    require (row.runId = runId) "run_id mismatch"
  let complete ← completeUntil cutoff none rows
  return (rows, complete)

/-- `left["interval_end_s"] == right["interval_start_s"]`, as decimals. -/
def meets (left right : IntervalRow) : Bool :=
  reprDecimal left.intervalEndS = reprDecimal right.intervalStartS

def validateWindow (window : List IntervalRow) : Except String Unit := do
  require (window.length = 25) "stationarity window does not contain 25 samples"
  require ((neighbours window).all fun (left, right) => meets left right)
    "selected stationarity window contains a logical timing gap"
  require (dsub defaultPrecision (spanOf window).2 (spanOf window).1 = 5)
    "selected stationarity window does not span 5 s"

/-! ### The selection -/

/-- `complete[-50:]`. -/
def lastFifty (complete : List IntervalRow) : List IntervalRow := complete.drop (complete.length - 50)

/-- The selection of `main` under an accepted policy. -/
def selectRows (rows : List IntervalRow) (experimentId runId : List ℕ) (cutoff : Option ℤ) :
    Except String (List IntervalRow) := do
  let (_, complete) ← loadRows rows experimentId runId cutoff
  require (50 ≤ complete.length) "fewer than 50 complete eligible samples"
  let selected := lastFifty complete
  let w1 := selected.take 25
  let w2 := selected.drop 25
  validateWindow w1
  validateWindow w2
  require (w1.getLast?.any fun last => w2.head?.any fun first => meets last first)
    "W1 and W2 are not consecutive"
  return selected

/-- The record ids of the ends of both windows. -/
structure WindowBinding where
  w1First : List ℕ
  w1Last : List ℕ
  w2First : List ℕ
  w2Last : List ℕ
  deriving DecidableEq

def expectedBinding (selected : List IntervalRow) : WindowBinding :=
  let first (window : List IntervalRow) := window.head?.elim [] (·.recordId)
  let last (window : List IntervalRow) := window.getLast?.elim [] (·.recordId)
  ⟨first (selected.take 25), last (selected.take 25), first (selected.drop 25), last (selected.drop 25)⟩

/-- `actual_binding`; a window that is missing has no record ids. -/
def actualBinding (report : Report) : Except String WindowBinding := do
  let m1 ← orRaise "TypeError" report.w1
  let m2 ← orRaise "TypeError" report.w2
  return ⟨m1.recordIdFirst, m1.recordIdLast, m2.recordIdFirst, m2.recordIdLast⟩

/-- `binding_pass`. -/
def bindingPass (selected : List IntervalRow) (report : Report) : Except String Bool := do
  let actual ← actualBinding report
  return decide (actual = expectedBinding selected)

/-- The evaluation of the selected rows, which are written to a file of their own. -/
def evaluateSelected (selected : List IntervalRow) (experimentId runId : List ℕ) :
    Except String Report := do
  let officialRows ← loadIntervals selected experimentId runId
  evaluate .initialPreStep officialRows

end TcdOran.Receiver
