import TcdOran.Harness.ProductionBinding
import TcdOran.Lib.PatternParts
import TcdOran.Lib.PythonTime
import TcdOran.Timeline.ActuatorTimeline

/-! The identity of a run: the rules of the experiment controller and of the runtime profile
materializer, which admit it, and the rules of the stages to which the run is passed later. -/
namespace TcdOran.Harness.ExperimentIdentity
open TcdOran.Lib Python ProductionBinding

/-! ### The rules -/

open Pattern in
/-- `EXP-D{8}-DL-18000K-R` with a class of digits. -/
def experimentHead (digit : ℕ → Bool) : Pattern :=
  literal "EXP-" ++ times digit 8 ++ literal "-DL-18000K-R"

open Pattern in
/-- `EXP-D{8}-DL-18000K-R(?:0[1-9]|[1-9]S)`, with the class of the last digit. -/
def experimentRule (digit second : ℕ → Bool) (text : List ℕ) : Bool :=
  fullmatch (experimentHead digit ++ literal "0" ++ times nonzeroDigit 1) text ||
    fullmatch (experimentHead digit ++ times nonzeroDigit 1 ++ times second 1) text

open Pattern in
/-- `RUN-D{8}TD{6}Z-D{3}` -/
def runRule (digit : ℕ → Bool) (text : List ℕ) : Bool :=
  fullmatch (literal "RUN-" ++ times digit 8 ++ literal "T" ++ times digit 6 ++ literal "Z-" ++
    times digit 3) text

/-- `text[first:last]` -/
def slice (text : List ℕ) (first last : ℕ) : List ℕ := (text.take last).drop first

/-! ### The controller -/

def EXP : List ℕ → Bool := experimentRule unicodeDigit unicodeDigit
def RUN : List ℕ → Bool := runRule unicodeDigit

/-- The checks of `validate` on the identifiers; a live run has the current date. -/
def validate (today : Option (List ℕ)) (experimentId runId : List ℕ) : Except (List ℕ) Unit := do
  require (EXP experimentId ∧ RUN runId) (chars "SCIENTIFIC_ID_FORMAT_INVALID")
  require (slice experimentId 4 12 = slice runId 4 12) (chars "SCIENTIFIC_ID_DATE_MISMATCH")
  require (∀ date ∈ today, slice experimentId 4 12 = date)
    (chars "LIVE_EXPERIMENT_DATE_NOT_CURRENT_UTC")

/-! ### The materializer -/

/-- `int` of digits. -/
def digitsNumber (text : List ℕ) : ℕ := numberOf (spanDigits text).1

open Pattern in
/-- The two characters of a field of `strptime`. Its shorter alternatives leave a rest of the text,
which it refuses. -/
def fieldMatches (alternatives : List ((ℕ → Bool) × (ℕ → Bool))) (text : List ℕ) : Bool :=
  alternatives.any fun (first, second) => fullmatch (times first 1 ++ times second 1) text

/-- `[low-high]` -/
def between (low high : Char) (u : ℕ) : Bool := low.toNat ≤ u ∧ u ≤ high.toNat

def readsMonth : List ℕ → Bool :=
  fieldMatches [(between '1' '1', between '0' '2'), (between '0' '0', nonzeroDigit)]

def readsDay : List ℕ → Bool :=
  fieldMatches [(between '3' '3', between '0' '1'), (between '1' '2', unicodeDigit),
    (between '0' '0', nonzeroDigit)]

def readsHour : List ℕ → Bool :=
  fieldMatches [(between '2' '2', between '0' '3'), (between '0' '1', unicodeDigit)]

def readsMinute : List ℕ → Bool := fieldMatches [(between '0' '5', unicodeDigit)]

def readsSecond : List ℕ → Bool :=
  fieldMatches [(between '6' '6', between '0' '1'), (between '0' '5', unicodeDigit)]

/-- `strptime(text, "%Y%m%d")` for eight digits. -/
def readsDate (text : List ℕ) : Bool :=
  let year := digitsNumber (slice text 0 4)
  let month := digitsNumber (slice text 4 6)
  readsMonth (slice text 4 6) && readsDay (slice text 6 8) && decide (1 ≤ year) &&
    decide (digitsNumber (slice text 6 8) ≤ daysInMonth year month)

/-- The part `%H%M%S` of `strptime` for six digits. -/
def readsTime (text : List ℕ) : Bool :=
  readsHour (slice text 0 2) && readsMinute (slice text 2 4) && readsSecond (slice text 4 6) &&
    decide (digitsNumber (slice text 4 6) ≤ 59)

/-- `validate_identity` of the materializer. -/
def validateIdentity (experimentId runId : List ℕ) : Except (List ℕ) Unit := do
  require (experimentRule unicodeDigit isDigit experimentId) (chars "EXPERIMENT_ID_INVALID")
  require (runRule unicodeDigit runId) (chars "RUN_ID_INVALID")
  require (readsDate (slice experimentId 4 12) ∧ readsDate (slice runId 4 12) ∧
    readsTime (slice runId 13 19)) (chars "IDENTITY_TIMESTAMP_INVALID")
  require (slice experimentId 4 12 = slice runId 4 12) (chars "IDENTITY_DATE_MISMATCH")

/-! ### The later stages -/

/-- The checks of the production binding builder on the identifiers of a profile. -/
def builderChecks (experimentId runId : List ℕ) : Except (List ℕ) Unit := do
  require (validExperimentId experimentId) (chars "EXPERIMENT_ID_FORMAT_INVALID")
  require (validRunId runId) (chars "RUN_ID_FORMAT_INVALID")

/-- `validate_identity` of the receiver canonicalizer. -/
def canonicalizerValidateIdentity (experimentId runId : List ℕ) : Except (List ℕ) Unit := do
  require (experimentRule isDigit isDigit experimentId) (chars "invalid Prompt-12 experiment_id")
  require (runRule isDigit runId) (chars "invalid Prompt-12 run_id")

open Pattern in
/-- `^EXP-[0-9]{8}-DL-18000K-R0[1-4]$` -/
def validateExperimentId (value : List ℕ) : Except (List ℕ) Unit :=
  require (fullmatch (experimentHead isDigit ++ literal "0" ++ times (between '1' '4') 1) value)
    (chars "invalid Prompt-12 experiment ID")

def validateRunId (value : List ℕ) : Except (List ℕ) Unit :=
  require (runRule isDigit value) (chars "invalid Prompt-12 run ID")

/-- The checks of the receiver pipeline on its two arguments. -/
def pipelineChecks (experimentId runId : List ℕ) : Except (List ℕ) Unit := do
  validateExperimentId experimentId
  validateRunId runId

/-- Both stages that admit an identity do. -/
def Admitted (today : Option (List ℕ)) (experimentId runId : List ℕ) : Prop :=
  validate today experimentId runId = .ok () ∧ validateIdentity experimentId runId = .ok ()

/-- All stages to which the run is passed later take the identity. -/
structure Taken (experimentId runId : List ℕ) : Prop where
  builder : builderChecks experimentId runId = .ok ()
  canonicalizer : canonicalizerValidateIdentity experimentId runId = .ok ()
  timeline : Timeline.validIdentity experimentId runId = true
  pipeline : pipelineChecks experimentId runId = .ok ()

/-! ### The texts that the rules match -/

variable {digit second : ℕ → Bool} {text : List ℕ}

theorem experimentHead_iff {accept : List ℕ → Bool} {items : Pattern} :
    matchThen accept (experimentHead digit ++ items) text = true ↔
      ∃ date behind, text = chars "EXP-" ++ date ++ chars "-DL-18000K-R" ++ behind ∧
        date.length = 8 ∧ (∀ u ∈ date, digit u = true) ∧ matchThen accept items behind = true := by
  simp only [experimentHead, List.append_assoc, matchThen_literal, matchThen_times]
  constructor
  · rintro ⟨_, rfl, date, _, rfl, hlength, hdate, behind, rfl, h⟩
    exact ⟨date, behind, rfl, hlength, hdate, h⟩
  · rintro ⟨date, behind, rfl, hlength, hdate, h⟩
    exact ⟨_, rfl, date, _, rfl, hlength, hdate, behind, rfl, h⟩

theorem pair_iff {first : ℕ → Bool} : fullmatch [⟨first, false⟩, ⟨second, false⟩] text = true ↔
    ∃ a b, text = [a, b] ∧ first a = true ∧ second b = true := by
  rw [fullmatch, matchThen_one]
  constructor
  · rintro ⟨a, _, rfl, ha, h⟩
    obtain ⟨b, rest, rfl, hb, h⟩ := matchThen_one.mp h
    obtain rfl := fullmatch_nil.mp h
    exact ⟨a, b, rfl, ha, hb⟩
  · rintro ⟨a, b, rfl, ha, hb⟩
    exact ⟨a, [b], rfl, ha, matchThen_one.mpr ⟨b, [], rfl, hb, rfl⟩⟩

/-- An experiment id with its date and the two characters of its repetition. -/
def experimentText (date : List ℕ) (a b : ℕ) : List ℕ :=
  chars "EXP-" ++ date ++ chars "-DL-18000K-R" ++ [a, b]

theorem experimentPair_iff {first : ℕ → Bool} :
    fullmatch (experimentHead digit ++ [⟨first, false⟩, ⟨second, false⟩]) text = true ↔
      ∃ date a b, text = experimentText date a b ∧ date.length = 8 ∧
        (∀ u ∈ date, digit u = true) ∧ first a = true ∧ second b = true := by
  rw [fullmatch, experimentHead_iff]
  constructor
  · rintro ⟨date, behind, rfl, hlength, hdate, h⟩
    obtain ⟨a, b, rfl, ha, hb⟩ := pair_iff.mp h
    exact ⟨date, a, b, rfl, hlength, hdate, ha, hb⟩
  · rintro ⟨date, a, b, rfl, hlength, hdate, ha, hb⟩
    exact ⟨date, [a, b], rfl, hlength, hdate, pair_iff.mpr ⟨a, b, rfl, ha, hb⟩⟩

theorem experimentRule_iff : experimentRule digit second text = true ↔
    ∃ date a b, text = experimentText date a b ∧ date.length = 8 ∧ (∀ u ∈ date, digit u = true) ∧
      (a = 48 ∧ nonzeroDigit b = true ∨ nonzeroDigit a = true ∧ second b = true) := by
  have hzero : experimentHead digit ++ Pattern.literal "0" ++ Pattern.times nonzeroDigit 1 =
      experimentHead digit ++ [⟨fun u => u = 48, false⟩, ⟨nonzeroDigit, false⟩] :=
    List.append_assoc _ _ _
  have hnonzero : experimentHead digit ++ Pattern.times nonzeroDigit 1 ++ Pattern.times second 1 =
      experimentHead digit ++ [⟨nonzeroDigit, false⟩, ⟨second, false⟩] := List.append_assoc _ _ _
  rw [experimentRule, Bool.or_eq_true, hzero, hnonzero, experimentPair_iff, experimentPair_iff]
  constructor
  · rintro (⟨date, a, b, htext, hlength, hdate, ha, hb⟩ | ⟨date, a, b, htext, hlength, hdate, h⟩)
    · exact ⟨date, a, b, htext, hlength, hdate, .inl ⟨of_decide_eq_true ha, hb⟩⟩
    · exact ⟨date, a, b, htext, hlength, hdate, .inr h⟩
  · rintro ⟨date, a, b, htext, hlength, hdate, ⟨rfl, hb⟩ | h⟩
    · exact .inl ⟨date, 48, b, htext, hlength, hdate, rfl, hb⟩
    · exact .inr ⟨date, a, b, htext, hlength, hdate, h⟩

theorem runRule_iff : runRule digit text = true ↔
    ∃ date time number, text = chars "RUN-" ++ date ++ chars "T" ++ time ++ chars "Z-" ++ number ∧
      date.length = 8 ∧ time.length = 6 ∧ number.length = 3 ∧
        ∀ u ∈ date ++ time ++ number, digit u = true := by
  have hpattern : Pattern.literal "RUN-" ++ Pattern.times digit 8 ++ Pattern.literal "T" ++
      Pattern.times digit 6 ++ Pattern.literal "Z-" ++ Pattern.times digit 3 =
      Pattern.literal "RUN-" ++ (Pattern.times digit 8 ++ (Pattern.literal "T" ++
        (Pattern.times digit 6 ++ (Pattern.literal "Z-" ++ (Pattern.times digit 3 ++ []))))) := by
    simp only [List.append_assoc, List.append_nil]
  rw [runRule, hpattern, fullmatch]
  simp only [matchThen_literal, matchThen_times]
  constructor
  · rintro ⟨_, rfl, date, _, rfl, hdate, hd, _, rfl, time, _, rfl, htime, ht, _, rfl, number,
      rest, rfl, hnumber, hn, h⟩
    obtain rfl := fullmatch_nil.mp h
    refine ⟨date, time, number, by simp, hdate, htime, hnumber, fun u hu => ?_⟩
    rcases List.mem_append.mp hu with hu | hu
    · exact (List.mem_append.mp hu).elim (hd u) (ht u)
    · exact hn u hu
  · rintro ⟨date, time, number, rfl, hdate, htime, hnumber, h⟩
    simp only [List.forall_mem_append] at h
    exact ⟨_, by simp only [List.append_assoc], date, _, rfl, hdate, h.1.1, _, rfl, time, _, rfl,
      htime, h.1.2, _, rfl, number, [], (List.append_nil _).symm, hnumber, h.2, rfl⟩

/-! ### Where the stages agree -/

def Ascii (text : List ℕ) : Prop := ∀ u ∈ text, u < 128

instance (text : List ℕ) : Decidable (Ascii text) :=
  inferInstanceAs (Decidable (∀ u ∈ text, u < 128))

/-- The two characters behind `-R`. -/
def repetition (experimentId : List ℕ) : List ℕ := experimentId.drop 24

theorem repetition_experimentText {date : List ℕ} (h : date.length = 8) (a b : ℕ) :
    repetition (experimentText date a b) = [a, b] := by
  have hlength : (chars "EXP-" ++ date ++ chars "-DL-18000K-R").length = 24 := by
    simp [h, chars]
  rw [repetition, experimentText, ← hlength, List.drop_left]

theorem unicodeDigit_of_isDigit {u : ℕ} (h : isDigit u = true) : unicodeDigit u = true := by
  rw [unicodeDigit, digitOf_digit h]
  rfl

theorem isDigit_of_ascii {u : ℕ} (h : unicodeDigit u = true) (hu : u < 128) : isDigit u = true := by
  have hall : ∀ u < 128, unicodeDigit u = true → isDigit u = true := by decide +kernel
  exact hall u hu h

theorem lt_of_isDigit {u : ℕ} (h : isDigit u = true) : u < 128 := by
  simp only [isDigit, decide_eq_true_eq] at h
  omega

theorem isDigit_of_nonzeroDigit {u : ℕ} (h : nonzeroDigit u = true) : isDigit u = true := by
  simp only [nonzeroDigit, isDigit, decide_eq_true_eq] at h ⊢
  omega

/-- A run id that the rule takes is the same rule's with ASCII digits where it is ASCII. -/
theorem runRule_ascii : runRule isDigit text = true ↔ runRule unicodeDigit text = true ∧ Ascii text := by
  rw [runRule_iff, runRule_iff]
  constructor
  · rintro ⟨date, time, number, rfl, hdate, htime, hnumber, h⟩
    refine ⟨⟨date, time, number, rfl, hdate, htime, hnumber,
      fun u hu => unicodeDigit_of_isDigit (h u hu)⟩, ?_⟩
    have hwords : Ascii (chars "RUN-") ∧ Ascii (chars "T") ∧ Ascii (chars "Z-") := by decide
    simp only [Ascii, List.forall_mem_append] at h hwords ⊢
    exact ⟨⟨⟨⟨⟨hwords.1, fun u hu => lt_of_isDigit (h.1.1 u hu)⟩, hwords.2.1⟩,
      fun u hu => lt_of_isDigit (h.1.2 u hu)⟩, hwords.2.2⟩, fun u hu => lt_of_isDigit (h.2 u hu)⟩
  · rintro ⟨⟨date, time, number, rfl, hdate, htime, hnumber, h⟩, hascii⟩
    refine ⟨date, time, number, rfl, hdate, htime, hnumber, fun u hu => ?_⟩
    apply isDigit_of_ascii (h u hu)
    apply hascii u
    simp only [List.mem_append] at hu ⊢
    tauto

theorem ascii_experimentText {date : List ℕ} {a b : ℕ} :
    Ascii (experimentText date a b) ↔ Ascii date ∧ a < 128 ∧ b < 128 := by
  have hwords : Ascii (chars "EXP-") ∧ Ascii (chars "-DL-18000K-R") := by decide
  simp only [Ascii, experimentText, List.forall_mem_append, List.forall_mem_cons,
    List.not_mem_nil, false_implies, implies_true, and_true] at hwords ⊢
  tauto

/-- The same for experiment ids. -/
theorem experimentRule_ascii : experimentRule isDigit isDigit text = true ↔
    experimentRule unicodeDigit isDigit text = true ∧ Ascii text := by
  rw [experimentRule_iff, experimentRule_iff]
  constructor
  · rintro ⟨date, a, b, rfl, hlength, hdate, hpair⟩
    refine ⟨⟨date, a, b, rfl, hlength, fun u hu => unicodeDigit_of_isDigit (hdate u hu), hpair⟩,
      ascii_experimentText.mpr ⟨fun u hu => lt_of_isDigit (hdate u hu), ?_⟩⟩
    rcases hpair with ⟨rfl, hb⟩ | ⟨ha, hb⟩
    · exact ⟨by decide, lt_of_isDigit (isDigit_of_nonzeroDigit hb)⟩
    · exact ⟨lt_of_isDigit (isDigit_of_nonzeroDigit ha), lt_of_isDigit hb⟩
  · rintro ⟨⟨date, a, b, rfl, hlength, hdate, hpair⟩, hascii⟩
    have hd := (ascii_experimentText.mp hascii).1
    exact ⟨date, a, b, rfl, hlength, fun u hu => isDigit_of_ascii (hdate u hu) (hd u hu), hpair⟩

/-- `0[1-4]` -/
theorem firstFour_iff {a b : ℕ} : [a, b] ∈ ["01", "02", "03", "04"].map chars ↔
    a = 48 ∧ between '1' '4' b = true := by
  have hchars : ["01", "02", "03", "04"].map chars = [[48, 49], [48, 50], [48, 51], [48, 52]] := by
    decide
  rw [hchars, between, decide_eq_true_eq, show '1'.toNat = 49 from rfl, show '4'.toNat = 52 from rfl]
  simp only [List.mem_cons, List.cons.injEq, List.not_mem_nil, or_false, and_true]
  omega

/-- The rule of the pipeline is the one of the canonicalizer for the first four repetitions. -/
theorem validateExperimentId_iff : validateExperimentId text = .ok () ↔
    experimentRule isDigit isDigit text = true ∧
      repetition text ∈ ["01", "02", "03", "04"].map chars := by
  have hpattern : experimentHead isDigit ++ Pattern.literal "0" ++
      Pattern.times (between '1' '4') 1 =
      experimentHead isDigit ++ [⟨fun u => u = 48, false⟩, ⟨between '1' '4', false⟩] :=
    List.append_assoc _ _ _
  rw [validateExperimentId, require_eq_ok, hpattern, experimentPair_iff, experimentRule_iff]
  constructor
  · rintro ⟨date, a, b, rfl, hlength, hdate, ha, hb⟩
    obtain rfl := of_decide_eq_true ha
    have hnonzero : nonzeroDigit b = true := by
      simp only [between, nonzeroDigit, decide_eq_true_eq] at hb ⊢
      exact ⟨hb.1, hb.2.trans (by decide)⟩
    refine ⟨⟨date, 48, b, rfl, hlength, hdate, .inl ⟨rfl, hnonzero⟩⟩, ?_⟩
    rw [repetition_experimentText hlength]
    exact firstFour_iff.mpr ⟨rfl, hb⟩
  · rintro ⟨⟨date, a, b, rfl, hlength, hdate, -⟩, hrepetition⟩
    rw [repetition_experimentText hlength] at hrepetition
    obtain ⟨rfl, hb⟩ := firstFour_iff.mp hrepetition
    exact ⟨date, 48, b, rfl, hlength, hdate, rfl, hb⟩

theorem timeline_validIdentity (experimentId runId : List ℕ) :
    Timeline.validIdentity experimentId runId =
      (experimentRule isDigit isDigit experimentId && runRule isDigit runId) := by
  have hany : (Timeline.experimentPatterns.any fun p => fullmatch p experimentId) =
      experimentRule isDigit isDigit experimentId := by
    rw [Timeline.experimentPatterns, List.any_cons, List.any_cons, List.any_nil, Bool.or_false]
    rfl
  rw [Timeline.validIdentity, hany]
  rfl

theorem stem_matches {date behind : List ℕ} {accept : List ℕ → Bool} {items : Pattern}
    (hlength : date.length = 8) (hdate : ∀ u ∈ date, unicodeDigit u = true)
    (h : matchThen accept items behind = true) :
    matchThen accept (experimentStem ++ items)
      (chars "EXP-" ++ date ++ chars "-DL-18000K-R" ++ behind) = true := by
  have hsplit : chars "-DL-18000K-R" = chars "-DL-" ++ (chars "18000" ++ chars "K-R") := by decide
  have hkilobits : ∀ u ∈ chars "18000", unicodeDigit u = true := by decide
  simp only [experimentStem, hsplit, List.append_assoc, matchThen_literal, matchThen_times]
  exact ⟨_, rfl, date, _, rfl, hlength, hdate, _, rfl,
    matchThen_many (by decide) hkilobits (matchThen_literal.mpr ⟨behind, rfl, h⟩)⟩

/-- The builder takes each number of kilobits. -/
theorem validExperimentId_of (h : experimentRule unicodeDigit isDigit text = true) :
    validExperimentId text = true := by
  obtain ⟨date, a, b, rfl, hlength, hdate, hpair⟩ := experimentRule_iff.mp h
  rw [validExperimentId, Bool.or_eq_true, fullmatch, fullmatch, List.append_assoc,
    List.append_assoc]
  rcases hpair with ⟨rfl, hb⟩ | ⟨ha, hb⟩
  · exact .inl (stem_matches hlength hdate (pair_iff.mpr ⟨48, b, rfl, rfl, hb⟩))
  · exact .inr (stem_matches hlength hdate (pair_iff.mpr ⟨a, b, rfl, ha, hb⟩))

/-- An identity that both admit is taken by all later stages exactly where it is ASCII and its
repetition is one of the first four. -/
theorem taken_iff (today : Option (List ℕ)) (experimentId runId : List ℕ)
    (h : Admitted today experimentId runId) :
    Taken experimentId runId ↔ Ascii experimentId ∧ Ascii runId ∧
      repetition experimentId ∈ ["01", "02", "03", "04"].map chars := by
  obtain ⟨-, hidentity⟩ := h
  rw [validateIdentity, require_bind_eq_ok, require_bind_eq_ok] at hidentity
  obtain ⟨hexperiment, hrun, -⟩ := hidentity
  constructor
  · intro htaken
    obtain ⟨hid, hrunId⟩ := unit_bind_eq_ok.mp htaken.pipeline
    obtain ⟨hrule, hrepetition⟩ := validateExperimentId_iff.mp hid
    exact ⟨(experimentRule_ascii.mp hrule).2, (runRule_ascii.mp (require_eq_ok.mp hrunId)).2,
      hrepetition⟩
  · rintro ⟨hascii, hasciiRun, hrepetition⟩
    have hrule := experimentRule_ascii.mpr ⟨hexperiment, hascii⟩
    have hrunRule := runRule_ascii.mpr ⟨hrun, hasciiRun⟩
    constructor
    · exact require_bind_eq_ok.mpr ⟨validExperimentId_of hexperiment, require_eq_ok.mpr hrun⟩
    · exact require_bind_eq_ok.mpr ⟨hrule, require_eq_ok.mpr hrunRule⟩
    · rw [timeline_validIdentity, hrule, hrunRule]
      rfl
    · exact unit_bind_eq_ok.mpr ⟨validateExperimentId_iff.mpr ⟨hrule, hrepetition⟩,
        require_eq_ok.mpr hrunRule⟩

/-- The fifth repetition is admitted, and the receiver pipeline refuses it. -/
theorem fifth_repetition_refused :
    let experimentId := chars "EXP-20261010-DL-18000K-R05"
    let runId := chars "RUN-20261010T172303Z-001"
    Admitted (some (chars "20261010")) experimentId runId ∧ ¬ Taken experimentId runId := by
  refine ⟨⟨by decide +kernel, by decide +kernel⟩, fun htaken => ?_⟩
  have hrefused : pipelineChecks (chars "EXP-20261010-DL-18000K-R05")
      (chars "RUN-20261010T172303Z-001") ≠ .ok () := by decide +kernel
  exact hrefused htaken.pipeline

theorem taken_iff_sample :
    let experimentId := chars "EXP-20261010-DL-18000K-R04"
    let runId := chars "RUN-20261010T172303Z-001"
    Admitted (some (chars "20261010")) experimentId runId ∧
      (Taken experimentId runId ↔ Ascii experimentId ∧ Ascii runId ∧
        repetition experimentId ∈ ["01", "02", "03", "04"].map chars) := by
  have hadmitted : Admitted (some (chars "20261010")) (chars "EXP-20261010-DL-18000K-R04")
      (chars "RUN-20261010T172303Z-001") := ⟨by decide +kernel, by decide +kernel⟩
  exact ⟨hadmitted, taken_iff _ _ _ hadmitted⟩

end TcdOran.Harness.ExperimentIdentity
