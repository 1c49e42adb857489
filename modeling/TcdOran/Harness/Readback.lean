import TcdOran.Lib.Check
import TcdOran.Lib.PythonNumber
import TcdOran.Lib.PythonPattern
import TcdOran.Lib.PythonTime

/-! prompt12-authoritative-prb-readback.py, from the text of the log to the gate, and when a gate
that passes has seen one marker in its window only. -/
namespace TcdOran.Harness
open TcdOran.Lib Python

/-! ### The marker pattern -/

/-- `\d`. -/
def isDecimal (u : ℕ) : Bool := (digitOf u).isSome

section
-- `str.isalnum` beyond ASCII
variable (alnum : ℕ → Bool)

/-- `\w`. -/
def isWord (u : ℕ) : Bool :=
  Pattern.upper u || Pattern.lower u || u == 95 || isDecimal u || (decide (128 ≤ u) && alnum u)

/-- `\b`. -/
def boundary (before after : Option ℕ) : Bool :=
  before.any (isWord alnum) != after.any (isWord alnum)

/-- `\d{4}-\d{2}-\d{2}[T ]\d{2}:\d{2}:\d{2}`. -/
def timestampClasses : List (ℕ → Bool) :=
  let dash (u : ℕ) : Bool := u = 45
  let colon (u : ℕ) : Bool := u = 58
  let separator (u : ℕ) : Bool := u = 84 ∨ u = 32
  let two := [isDecimal, isDecimal]
  two ++ two ++ [dash] ++ two ++ [dash] ++ two ++ [separator] ++ two ++ [colon] ++ two ++ [colon] ++
    two

/-- The timestamp at the front, with its fraction, and what follows it. A shorter fraction would
leave no boundary in front of the marker that a longer one does not leave. -/
def takeTimestamp (text : List ℕ) : Option (List ℕ × List ℕ) := do
  let (taken, rest) ← takeFixed timestampClasses text
  match rest with
  | 46 :: rest' =>
      let digits := rest'.takeWhile isDecimal
      if digits = [] then return (taken, rest)
      else return (taken ++ 46 :: digits, rest'.dropWhile isDecimal)
  | _ => return (taken, rest)

/-- `\bname=(\d+)\b`: the digits and what follows them. Fewer digits would not end at a word
boundary. -/
def takeField (name : String) (before : Option ℕ) (text : List ℕ) :
    Option (List ℕ × List ℕ) := do
  let rest ← takeLiteral (chars name ++ [61]) text
  let digits := rest.takeWhile isDecimal
  let after := rest.dropWhile isDecimal
  if boundary alnum before text.head? ∧ digits ≠ [] ∧ boundary alnum digits.getLast? after.head? then
    some (digits, after)
  else none

structure MarkerMatch where
  timestamp : List ℕ
  minimum : List ℕ
  maximum : List ℕ

def marker : List ℕ := chars "PRB_ACTUATOR_APPLIED"

def findMaximum (before : Option ℕ) (text : List ℕ) : Option (List ℕ) := do
  let (digits, _) ← takeField alnum "applied_max_prbs" before text
  return digits

def findMinimum (before : Option ℕ) (text : List ℕ) : Option (List ℕ × List ℕ) := do
  let (minimum, rest) ← takeField alnum "applied_min_prbs" before text
  let maximum ← scan (findMaximum alnum) minimum.getLast? rest
  return (minimum, maximum)

def findMarker (before : Option ℕ) (text : List ℕ) : Option (List ℕ × List ℕ) := do
  let rest ← takeLiteral marker text
  if boundary alnum before text.head? && boundary alnum marker.getLast? rest.head? then
    scan (findMinimum alnum) marker.getLast? rest
  else none

def findTimestamped (text : List ℕ) : Option MarkerMatch := do
  let (timestamp, rest) ← takeTimestamp text
  let (minimum, maximum) ← scan (findMarker alnum) timestamp.getLast? rest
  return ⟨timestamp, minimum, maximum⟩

/-- `MARKER_RE.search`. -/
def searchMarker (line : List ℕ) : Option MarkerMatch :=
  scan (fun _ text => findTimestamped alnum text) none line

/-! ### The markers -/

def asciiNumber (text : List ℕ) : Option ℕ :=
  if text.all isDigit then some (digitsValue text) else none

/-- The digits of a fraction as microseconds; further digits are cut off. -/
def microseconds (digits : List ℕ) : ℕ :=
  digitsValue (digits.take 6) * 10 ^ (6 - (digits.take 6).length)

/-- `parse_time` on what the pattern takes as a timestamp, in microseconds; `none` is a
`ValueError`. -/
def parseTime (text : List ℕ) : Option ℤ := do
  let field (first length : ℕ) := asciiNumber ((text.drop first).take length)
  let t : DateTime := ⟨← field 0 4, ← field 5 2, ← field 8 2, ← field 11 2, ← field 14 2,
    ← field 17 2⟩
  let fraction := text.drop 20
  if t.valid ∧ fraction.all isDigit then some (t.epochSeconds * 1000000 + microseconds fraction)
  else none

structure PrbMarker where
  lineNumber : ℕ
  timestamp : Option ℤ
  appliedMinPrbs : Option ℤ
  appliedMaxPrbs : Option ℤ
  raw : List ℕ
  parsed : Bool

/-- `none` is an exception. -/
def parseMarker (line : List ℕ × ℕ) : Option PrbMarker :=
  match searchMarker alnum line.1 with
  | none => some ⟨line.2, none, none, none, line.1, false⟩
  | some found => do
      let timestamp ← parseTime found.timestamp
      let minimum ← intOfText found.minimum
      let maximum ← intOfText found.maximum
      return ⟨line.2, some timestamp, some minimum, some maximum, line.1, true⟩

def carriesMarker (line : List ℕ) : Bool := marker <:+: line

/-- `parse_markers`. -/
def parseMarkers (text : List ℕ) : Option (List PrbMarker) :=
  (((splitlines text).zipIdx 1).filter fun line => carriesMarker line.1).mapM (parseMarker alnum)

end

/-! ### The gate -/

structure ReadbackWindow where
  windowStart : ℤ
  windowEnd : ℤ
  expectedMin : ℤ
  expectedMax : ℤ

inductive ReadbackGate
  | pass | failNotFound | failAmbiguous
  deriving DecidableEq

structure ReadbackResult where
  windowMarkerCount : ℕ
  expectedMarkerCount : ℕ
  gate : ReadbackGate
  selected : Option PrbMarker

namespace ReadbackWindow
variable (w : ReadbackWindow)

def contains (timestamp : Option ℤ) : Bool :=
  timestamp.any fun t => w.windowStart ≤ t ∧ t ≤ w.windowEnd

def expects (item : PrbMarker) : Bool :=
  item.appliedMinPrbs = some w.expectedMin ∧ item.appliedMaxPrbs = some w.expectedMax

/-- `evaluate_markers`. -/
def evaluateMarkers (markers : List PrbMarker) : ReadbackResult :=
  let inWindow := markers.filter fun item => w.contains item.timestamp
  let expected := inWindow.filter w.expects
  match expected with
  | [selected] => ⟨inWindow.length, 1, .pass, some selected⟩
  | [] => ⟨inWindow.length, 0, .failNotFound, none⟩
  | _ => ⟨inWindow.length, expected.length, .failAmbiguous, none⟩

/-- The result of the readback of a log; `none` is an exception. -/
def readback (alnum : ℕ → Bool) (text : List ℕ) : Option ReadbackResult :=
  (parseMarkers alnum text).map w.evaluateMarkers

end ReadbackWindow

/-! ### The lines of the window -/

section
variable (alnum : ℕ → Bool) (w : ReadbackWindow)

/-- The time of a marker line: what the pattern reads or, where it does not match, the first
timestamp of the line. -/
def lineTime (line : List ℕ) : Option ℤ :=
  match searchMarker alnum line with
  | some found => parseTime found.timestamp
  | none => (scan (fun _ text => takeTimestamp text) none line).bind fun (timestamp, _) =>
      parseTime timestamp

/-- The marker lines in the window. -/
def ReadbackWindow.lines (text : List ℕ) : List (List ℕ) :=
  (splitlines text).filter fun line => carriesMarker line && w.contains (lineTime alnum line)

/-- The line states the expected minimum and maximum. -/
def ReadbackWindow.states (line : List ℕ) : Bool :=
  (searchMarker alnum line).any fun found =>
    intOfText found.minimum = some w.expectedMin ∧ intOfText found.maximum = some w.expectedMax

/-- The times and numbers of the markers can be converted. -/
def Readable (text : List ℕ) : Prop :=
  ∀ line ∈ splitlines text, carriesMarker line = true → ∀ found,
    searchMarker alnum line = some found → (parseTime found.timestamp).isSome ∧
      (intOfText found.minimum).isSome ∧ (intOfText found.maximum).isSome

/-- The gate passes on a single marker line in the window only, which states what is expected. -/
def PassesExactly (text : List ℕ) : Prop :=
  ∀ result, w.readback alnum text = some result → result.gate = .pass →
    ∃ line, w.lines alnum text = [line] ∧ w.states alnum line = true

/-- One marker line of the window states what is expected, and the window has another one. -/
def Superseded (text : List ℕ) : Prop :=
  (w.lines alnum text).countP (w.states alnum) = 1 ∧ 1 < (w.lines alnum text).length

end

section
variable {alnum : ℕ → Bool} {w : ReadbackWindow} {text : List ℕ}

/-- A line whose markers convert gives an item, and one that the gate expects where the line lies
in the window and states what is expected. -/
theorem parseMarker_isSome {line : List ℕ} {n : ℕ} :
    (∃ item, parseMarker alnum (line, n) = some item) ↔ ∀ found,
      searchMarker alnum line = some found → (parseTime found.timestamp).isSome ∧
        (intOfText found.minimum).isSome ∧ (intOfText found.maximum).isSome := by
  unfold parseMarker
  cases hsearch : searchMarker alnum line with
  | none => simp
  | some found =>
    simp only [Option.bind_eq_bind, Option.bind_eq_some_iff, Option.pure_def,
      Option.isSome_iff_exists]
    constructor
    · rintro ⟨item, t, ht, a, ha, b, hb, -⟩ found' hfound
      obtain rfl := Option.some.inj hfound
      exact ⟨⟨t, ht⟩, ⟨a, ha⟩, ⟨b, hb⟩⟩
    · intro h
      obtain ⟨⟨t, ht⟩, ⟨a, ha⟩, ⟨b, hb⟩⟩ := h found rfl
      exact ⟨_, t, ht, a, ha, b, hb, rfl⟩

theorem expects_parseMarker {line : List ℕ} {n : ℕ} {item : PrbMarker}
    (h : parseMarker alnum (line, n) = some item) :
    (w.contains item.timestamp && w.expects item) =
      (w.contains (lineTime alnum line) && w.states alnum line) := by
  unfold parseMarker at h
  cases hsearch : searchMarker alnum line with
  | none =>
    simp only [hsearch, Option.some.injEq] at h
    rw [← h]
    simp [ReadbackWindow.states, hsearch, ReadbackWindow.contains]
  | some found =>
    simp only [hsearch, Option.bind_eq_bind, Option.bind_eq_some_iff, Option.pure_def,
      Option.some.injEq] at h
    obtain ⟨t, ht, a, ha, b, hb, rfl⟩ := h
    simp [ReadbackWindow.states, ReadbackWindow.expects, lineTime, hsearch, ht, ha, hb]

theorem parseMarkers_isSome :
    (∃ markers, parseMarkers alnum text = some markers) ↔ Readable alnum text := by
  unfold parseMarkers Readable
  rw [exists_mapM_eq_some]
  constructor
  · intro h line hline hcarries
    obtain ⟨n, hn⟩ : ∃ n, (line, n) ∈ (splitlines text).zipIdx 1 := by
      have hmem : line ∈ ((splitlines text).zipIdx 1).map Prod.fst := by
        rw [List.zipIdx_map_fst]
        exact hline
      obtain ⟨⟨line', n⟩, hn, rfl⟩ := List.mem_map.mp hmem
      exact ⟨n, hn⟩
    exact parseMarker_isSome.mp (h (line, n) (List.mem_filter.mpr ⟨hn, hcarries⟩))
  · rintro h ⟨line, n⟩ hmem
    obtain ⟨hn, hcarries⟩ := List.mem_filter.mp hmem
    have hline : line ∈ splitlines text := List.fst_mem_of_mem_zipIdx hn
    exact parseMarker_isSome.mpr (h line hline hcarries)

/-- As many items are expected in the window as lines of the window state what is expected. -/
theorem expected_length {markers : List PrbMarker} (h : parseMarkers alnum text = some markers) :
    ((markers.filter fun item => w.contains item.timestamp).filter w.expects).length =
      (w.lines alnum text).countP (w.states alnum) := by
  have hlines : (splitlines text).countP (fun line => (w.contains (lineTime alnum line) &&
      w.states alnum line) && carriesMarker line) =
      (w.lines alnum text).countP (w.states alnum) := by
    rw [ReadbackWindow.lines, List.countP_filter]
    congr 1
    funext line
    cases carriesMarker line <;> cases w.states alnum line <;> simp
  unfold parseMarkers at h
  have hcount := countP_of_forall₂ (mapM_eq_some.mp h) fun line item hitem =>
    @expects_parseMarker alnum w line.1 line.2 item hitem
  rw [List.filter_filter, ← List.countP_eq_length_filter, ← hlines]
  conv_rhs => rw [← List.zipIdx_map_fst 1 (splitlines text), List.countP_map]
  rw [List.countP_filter] at hcount
  refine Eq.trans ?_ hcount
  congr 1
  funext item
  exact Bool.and_comm _ _

theorem gate_pass_iff {markers : List PrbMarker} :
    (w.evaluateMarkers markers).gate = .pass ↔
      ((markers.filter fun item => w.contains item.timestamp).filter w.expects).length = 1 := by
  unfold ReadbackWindow.evaluateMarkers
  simp only
  split
  · next hexpected => simp [hexpected]
  · next hexpected => simp [hexpected]
  · next hone _ =>
    constructor
    · intro h
      cases h
    · intro h
      obtain ⟨item, hitem⟩ := List.length_eq_one_iff.mp h
      exact absurd hitem (hone item)

end

/-- A gate that passes has seen exactly one marker line in its window, and that line states what
is expected, exactly where the log raises or has no second marker line in the window beside the
one that states it. -/
theorem passesExactly_iff (alnum : ℕ → Bool) (w : ReadbackWindow) (text : List ℕ) :
    PassesExactly alnum w text ↔ (Readable alnum text → ¬ Superseded alnum w text) := by
  constructor
  · rintro h hreadable ⟨hone, hmore⟩
    obtain ⟨markers, hmarkers⟩ := parseMarkers_isSome.mpr hreadable
    have hpass : (w.evaluateMarkers markers).gate = .pass := by
      rw [gate_pass_iff, expected_length hmarkers]
      exact hone
    obtain ⟨line, hline, -⟩ := h (w.evaluateMarkers markers)
      (by rw [ReadbackWindow.readback, hmarkers]; rfl) hpass
    rw [hline] at hmore
    exact absurd hmore (lt_irrefl 1)
  · intro h result hresult hpass
    obtain ⟨markers, hmarkers, rfl⟩ := Option.map_eq_some_iff.mp hresult
    have hone := gate_pass_iff.mp hpass
    rw [expected_length hmarkers] at hone
    have hnot := h (parseMarkers_isSome.mp ⟨markers, hmarkers⟩)
    have hpos : 0 < (w.lines alnum text).countP (w.states alnum) := by
      rw [hone]
      exact Nat.one_pos
    obtain ⟨line, hmem, hstates⟩ := List.countP_pos_iff.mp hpos
    have hlength : (w.lines alnum text).length = 1 := by
      have hle : (w.lines alnum text).countP (w.states alnum) ≤ (w.lines alnum text).length :=
        List.countP_le_length
      have hmore : ¬ 1 < (w.lines alnum text).length := fun hmore => hnot ⟨hone, hmore⟩
      omega
    obtain ⟨only, honly⟩ := List.length_eq_one_iff.mp hlength
    rw [honly] at hmem
    obtain rfl := List.mem_singleton.mp hmem
    exact ⟨line, honly, hstates⟩

/-! A state of 39 PRBs that supersedes the expected state of 26 PRBs in the window. -/

def supersededLog : List ℕ :=
  chars "2026-10-04T09:18:27 PRB_ACTUATOR_APPLIED applied_min_prbs=0 applied_max_prbs=26" ++ [10] ++
    chars "2026-10-04T09:18:28 PRB_ACTUATOR_APPLIED applied_min_prbs=0 applied_max_prbs=39" ++ [10]

def sampleWindow : ReadbackWindow := ⟨1791105500000000, 1791105570000000, 0, 26⟩

theorem superseded_log_passes :
    ¬ PassesExactly (fun _ => false) sampleWindow supersededLog := by
  have hgate : (sampleWindow.readback (fun _ => false) supersededLog).map
      ReadbackResult.gate = some .pass := by decide +kernel
  have hlines : (sampleWindow.lines (fun _ => false) supersededLog).length = 2 := by
    decide +kernel
  intro h
  obtain ⟨result, hresult, hpass⟩ := Option.map_eq_some_iff.mp hgate
  obtain ⟨line, hline, -⟩ := h result hresult hpass
  rw [hline] at hlines
  cases hlines

end TcdOran.Harness
