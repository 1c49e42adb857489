import TcdOran.Harness.FifoReaderOnce
import TcdOran.Lib.PythonDumps
import TcdOran.Lib.PythonPattern
import TcdOran.Lib.PythonTime

/-! prompt12-pretrigger-ratio-binding-writer.py, and that the FIFO reader takes what it writes. The
texts and numbers are those that `parse_args` hands over. -/
namespace TcdOran.Harness
open TcdOran.Lib Python

def writerSchema : String := "sci_oran_prompt12_v2_pretrigger_ratio_binding_v1"

/-- `ALLOWED_RATIOS` of the writer. -/
def writableRatios : List ℤ := [25, 50, 75, 100]

/-- `BindingError` by its text. -/
abbrev Writer := Except (List ℕ)

def nonemptyIdentity (value : List ℕ) (name : String) : Writer (List ℕ) :=
  if validIdentity value then .ok value else .error (chars name ++ chars "_INVALID")

def validateTransition (label : List ℕ) (index : ℤ) : Writer (List ℕ × ℤ) := do
  require (1 ≤ index ∧ index ≤ 6) (chars "TRANSITION_INDEX_INVALID")
  let expected := chars "T" ++ intText index
  require (label = expected)
    (chars "TRANSITION_LABEL_INDEX_MISMATCH:" ++ label ++ chars ":" ++ intText index)
  return (label, index)

def validateRatio (value : ℤ) : Writer ℤ := do
  require (value ∈ writableRatios) (chars "REQUESTED_RATIO_INVALID:" ++ intText value)
  return value

/-- `uuid.uuid4().hex` -/
structure UuidHex where
  text : List ℕ
  length_eq : text.length = 32
  hex : ∀ u ∈ text, Pattern.hexDigit u = true

/-- `isoformat()` in UTC to the second, with its offset replaced by `Z`. -/
def utcNow (now : UtcReading) : List ℕ := now.time.iso ++ chars "Z"

def makeBindingId (experimentId runId label : List ℕ) (index : ℤ) (uuid : UuidHex) : List ℕ :=
  experimentId ++ chars ":" ++ runId ++ chars ":" ++ label ++ chars ":" ++ intText index ++
    chars ":" ++ uuid.text

section
variable (experimentId runId label : List ℕ) (index ratio : ℤ) (uuid : UuidHex) (now : UtcReading)

/-- The dictionary that `build_binding` returns. -/
def bindingFields : List (String × PyScalar) :=
  [("schema", .str (chars writerSchema)),
   ("binding_id", .str (makeBindingId experimentId runId label index uuid)),
   ("experiment_id", .str experimentId), ("run_id", .str runId),
   ("transition_label", .str label), ("transition_index", .int index),
   ("requested_ratio_pct", .int ratio), ("created_utc", .str (utcNow now))]

def buildBinding : Writer (List (String × PyScalar)) := do
  let experimentId ← nonemptyIdentity experimentId "EXPERIMENT_ID"
  let runId ← nonemptyIdentity runId "RUN_ID"
  let (label, index) ← validateTransition label index
  let ratio ← validateRatio ratio
  return bindingFields experimentId runId label index ratio uuid now

end

def encodeBinding (binding : List (String × PyScalar)) : List UInt8 :=
  utf8OfCodePoints (dumpsIndented binding ++ chars "\n")

/-! ### What the writer admits -/

section
variable {experimentId runId label : List ℕ} {index ratio : ℤ} {uuid : UuidHex} {now : UtcReading}

theorem nonemptyIdentity_eq_ok {value value' : List ℕ} {name : String} :
    nonemptyIdentity value name = .ok value' ↔ validIdentity value = true ∧ value = value' := by
  unfold nonemptyIdentity
  split_ifs with h <;> simp [h]

theorem validateTransition_eq_ok {result : List ℕ × ℤ} :
    validateTransition label index = .ok result ↔
      (1 ≤ index ∧ index ≤ 6) ∧ label = chars "T" ++ intText index ∧ (label, index) = result := by
  rw [validateTransition, require_bind_eq_ok, require_bind_eq_ok]
  simp [pure, Except.pure]

theorem validateRatio_eq_ok {ratio' : ℤ} :
    validateRatio ratio = .ok ratio' ↔ ratio ∈ writableRatios ∧ ratio = ratio' := by
  rw [validateRatio, require_bind_eq_ok]
  simp [pure, Except.pure]

/-- What `build_binding` asks of its arguments. -/
structure Writable (experimentId runId label : List ℕ) (index ratio : ℤ) : Prop where
  experimentId_valid : validIdentity experimentId = true
  runId_valid : validIdentity runId = true
  index_range : 1 ≤ index ∧ index ≤ 6
  label_eq : label = chars "T" ++ intText index
  ratio_mem : ratio ∈ writableRatios

theorem buildBinding_eq_ok {binding : List (String × PyScalar)} :
    buildBinding experimentId runId label index ratio uuid now = .ok binding ↔
      Writable experimentId runId label index ratio ∧
        binding = bindingFields experimentId runId label index ratio uuid now := by
  simp only [buildBinding, bind_eq_ok, nonemptyIdentity_eq_ok, validateTransition_eq_ok,
    validateRatio_eq_ok]
  constructor
  · rintro ⟨_, ⟨he, rfl⟩, _, ⟨hr, rfl⟩, _, ⟨hindex, hlabel, rfl⟩, _, ⟨hratio, rfl⟩, hb⟩
    exact ⟨⟨he, hr, hindex, hlabel, hratio⟩, (Except.ok.inj hb).symm⟩
  · rintro ⟨⟨he, hr, hindex, hlabel, hratio⟩, rfl⟩
    exact ⟨_, ⟨he, rfl⟩, _, ⟨hr, rfl⟩, _, ⟨hindex, hlabel, rfl⟩, _, ⟨hratio, rfl⟩, rfl⟩

/-! ### What is read of the bytes -/

theorem bindingFields_plain : ∀ field ∈ bindingFields experimentId runId label index ratio uuid now,
    PlainKey field.1 := by
  have hkeys : ∀ key ∈ ["schema", "binding_id", "experiment_id", "run_id", "transition_label",
      "transition_index", "requested_ratio_pct", "created_utc"], PlainKey key := by decide
  exact fun field hfield => hkeys field.1 (List.mem_map_of_mem (f := Prod.fst) hfield)

theorem bindingFields_nodup :
    ((bindingFields experimentId runId label index ratio uuid now).map fun field =>
      chars field.1).Nodup := by
  show requiredBindingKeys.Nodup
  decide

theorem lt_of_validIdentity {value : List ℕ} (h : validIdentity value = true) :
    ∀ u ∈ value, u < 128 := by
  cases value with
  | nil => simp
  | cons u rest =>
    have hclass {v : ℕ} (hv : validIdentity.alphanumeric v = true) : v < 128 := by
      simp only [validIdentity.alphanumeric, decide_eq_true_eq] at hv
      omega
    have hpunctuation : ∀ v ∈ chars "._:-", v < 128 := by decide
    simp only [validIdentity, decide_eq_true_eq] at h
    obtain ⟨hfirst, -, hrest⟩ := h
    exact List.forall_mem_cons.mpr ⟨hclass hfirst, fun v hv => (hrest v hv).elim hclass
      (hpunctuation v)⟩

theorem lt_of_hexDigit {u : ℕ} (h : Pattern.hexDigit u = true) : u < 128 := by
  simp only [Pattern.hexDigit, isDigit, decide_eq_true_eq] at h
  omega

theorem bindingFields_readable (h : Writable experimentId runId label index ratio) :
    ∀ field ∈ bindingFields experimentId runId label index ratio uuid now, field.2.Readable := by
  have hlow {text : List ℕ} (htext : ∀ u ∈ text, u < 128) : (PyScalar.str text).Readable :=
    fun u hu => unpaired_of_lt (htext u hu)
  have he := lt_of_validIdentity h.experimentId_valid
  have hr := lt_of_validIdentity h.runId_valid
  have hindex : ∀ u ∈ intText index, u < 128 := fun u hu => (mem_intText hu).2
  have hlabel : ∀ u ∈ label, u < 128 := by
    rw [h.label_eq]
    exact List.forall_mem_append.mpr ⟨by decide, hindex⟩
  have hcolon : ∀ u ∈ chars ":", u < 128 := by decide
  have hid : ∀ u ∈ makeBindingId experimentId runId label index uuid, u < 128 := by
    simp only [makeBindingId, List.forall_mem_append]
    exact ⟨⟨⟨⟨⟨⟨⟨⟨he, hcolon⟩, hr⟩, hcolon⟩, hlabel⟩, hcolon⟩, hindex⟩, hcolon⟩,
      fun u hu => lt_of_hexDigit (uuid.hex u hu)⟩
  have hnow : ∀ u ∈ utcNow now, u < 128 :=
    List.forall_mem_append.mpr ⟨fun u hu => DateTime.lt_of_mem_iso hu, by decide⟩
  simp only [bindingFields, List.forall_mem_cons, List.not_mem_nil, false_implies, implies_true,
    and_true]
  exact ⟨hlow (by decide), hlow hid, hlow he, hlow hr, hlow hlabel, trivial, trivial, hlow hnow⟩

theorem parse_encodeBinding (h : Writable experimentId runId label index ratio) :
    Json.parse (dumpsIndented (bindingFields experimentId runId label index ratio uuid now) ++
        chars "\n") =
      some (.obj (loadedMembers
        ((bindingFields experimentId runId label index ratio uuid now).mergeSort byKey))) :=
  Json.parse_prints (prints_dumpsIndented bindingFields_plain (bindingFields_readable h)
    (List.cons_ne_nil _ _))

theorem codePoints_encodeBinding :
    codePoints (encodeBinding (bindingFields experimentId runId label index ratio uuid now)) =
      some (dumpsIndented (bindingFields experimentId runId label index ratio uuid now) ++
        chars "\n") := by
  apply codePoints_scalars
  intro u hu
  rcases List.mem_append.mp hu with hu | hu
  · exact .inl ((dumpsIndented_lt bindingFields_plain hu).trans (by decide))
  · exact .inl ((show ∀ v ∈ chars "\n", v < 0xD800 by decide) u hu)

/-! ### What the reader makes of them -/

/-- A value of an object that meets no limit of the interpreter. -/
def Shallow : Json → Prop
  | .str _ => True
  | .num literal => literal.isInteger = true ∧ literal.integer.length ≤ maxStrDigits
  | _ => False

/-- What the reader relies on of the library: `json.loads` reads an object of strings and integers
as the grammar has it, and `fromisoformat` is the inverse of `isoformat`. -/
structure ReaderLibrary.Documented (lib : ReaderLibrary) : Prop where
  loads {text : List ℕ} {members : List (List ℕ × Json)} :
    Json.parse text = some (.obj members) → (∀ member ∈ members, Shallow member.2) →
      lib.loads text = .value (.obj members)
  fromisoformat {t : DateTime} : t.valid = true →
    lib.fromisoformat (t.iso ++ chars "+00:00") = some (t.epochSeconds * 1000000)

theorem shallow_int {z : ℤ} (h : 0 ≤ z) (hz : z ≤ 100) : Shallow (PyScalar.int z).json := by
  refine ⟨NumberLiteral.ofInt_isInteger z, ?_⟩
  interval_cases z <;> decide

theorem bindingFields_shallow (h : Writable experimentId runId label index ratio) :
    ∀ field ∈ bindingFields experimentId runId label index ratio uuid now, Shallow field.2.json := by
  obtain ⟨hlow, hhigh⟩ := h.index_range
  have hratio : 0 ≤ ratio ∧ ratio ≤ 100 := by
    have hmem := h.ratio_mem
    simp only [writableRatios, List.mem_cons, List.not_mem_nil, or_false] at hmem
    omega
  simp only [bindingFields, List.forall_mem_cons, List.not_mem_nil, false_implies, implies_true,
    and_true]
  exact ⟨trivial, trivial, trivial, trivial, trivial, shallow_int (by omega) (by omega),
    shallow_int hratio.1 hratio.2, trivial⟩

variable {lib : ReaderLibrary} (hlib : lib.Documented)
include hlib

theorem bindingMembers_encodeBinding (h : Writable experimentId runId label index ratio) :
    ∃ members, bindingMembers lib
        (encodeBinding (bindingFields experimentId runId label index ratio uuid now)) = .ok members ∧
      hasBindingKeys members = true ∧
      ∀ field ∈ bindingFields experimentId runId label index ratio uuid now,
        bindingField members field.1 = field.2.json := by
  refine ⟨_, bindingMembers_of_loads codePoints_encodeBinding
    (hlib.loads (parse_encodeBinding h) fun member hmember => ?_), ?_, fun field hfield => ?_⟩
  · obtain ⟨field, hfield, rfl⟩ := List.mem_map.mp hmember
    exact bindingFields_shallow h field (List.mem_mergeSort.mp hfield)
  · have hkeys := @keys_loadedMembers_sorted
      (bindingFields experimentId runId label index ratio uuid now)
    rw [show (bindingFields experimentId runId label index ratio uuid now).map
      (fun field => chars field.1) = requiredBindingKeys from rfl] at hkeys
    rw [hasBindingKeys, Bool.and_eq_true, List.all_eq_true, List.all_eq_true]
    constructor
    · intro member hmember
      exact decide_eq_true (hkeys.subset (List.mem_map_of_mem hmember))
    · exact fun key hkey => decide_eq_true (hkeys.mem_iff.mpr hkey)
  · rw [bindingField, dictLookup_sorted bindingFields_nodup hfield, Option.getD_some]

/-- What the reader asks beyond the bytes: whose binding it is, that its identifier is new, and that
it was created between the start of the reader and five seconds from now. -/
theorem validateBinding_encodeBinding (h : Writable experimentId runId label index ratio)
    {p : ReaderProcess} {nowUtc : ℤ} {b : RatioBinding} :
    validateBinding lib p nowUtc
        (encodeBinding (bindingFields experimentId runId label index ratio uuid now)) = .ok b ↔
      makeBindingId experimentId runId label index uuid ∉ p.consumedIds ∧
        experimentId = p.experimentId ∧ runId = p.runId ∧ label = readerLabel p.next ∧
        index = p.next ∧ p.startedUtc ≤ now.time.epochSeconds ∧
        now.time.epochSeconds ≤ nowUtc + 5 ∧
        ⟨makeBindingId experimentId runId label index uuid, ratio⟩ = b := by
  obtain ⟨members, hmembers, hkeys, hfields⟩ :=
    @bindingMembers_encodeBinding experimentId runId label index ratio uuid now lib hlib h
  simp only [bindingFields, List.forall_mem_cons, List.not_mem_nil, false_implies, implies_true,
    and_true, PyScalar.json] at hfields
  obtain ⟨hschema, hbindingId, hexperiment, hrun, hlabel, hindex, hratio, hcreated⟩ := hfields
  have hid : ∃ u rest, makeBindingId experimentId runId label index uuid = u :: rest := by
    refine List.exists_cons_of_ne_nil fun hnil => ?_
    simp [makeBindingId, chars] at hnil
  obtain ⟨u, rest, hid⟩ := hid
  have hallowed : ratioOf (.num (.ofInt ratio)) = some ratio := by
    have hmem : ratio ∈ allowedRatios := h.ratio_mem
    simp [ratioOf, NumberLiteral.ofInt_isInteger, hmem]
  have hutc : parseCreatedUtc lib (.str (utcNow now)) = .ok (now.time.epochSeconds * 1000000) := by
    have hlast : (utcNow now).getLast? = some 90 := by simp [utcNow, chars]
    have hstem : (utcNow now).dropLast = now.time.iso := by simp [utcNow, chars]
    rw [parseCreatedUtc, if_pos hlast, hstem, hlib.fromisoformat now.time_valid]
  rw [validateBinding, hmembers, ok_bind, hschema, hbindingId, hexperiment, hrun, hlabel, hindex,
    hratio, hcreated, hid, hallowed, hutc]
  simp only [require_bind_eq_ok, ok_bind, isText, equalsInt, decide_eq_true_eq,
    NumberLiteral.ofInt_isInteger, NumberLiteral.intValue_ofInt, if_true]
  have hstart : p.startedUtc * 1000000 ≤ now.time.epochSeconds * 1000000 ↔
      p.startedUtc ≤ now.time.epochSeconds := by omega
  have hfuture : now.time.epochSeconds * 1000000 ≤ (nowUtc + 5) * 1000000 ↔
      now.time.epochSeconds ≤ nowUtc + 5 := by omega
  have hsame : chars writerSchema = chars bindingSchema := rfl
  rw [hstart, hfuture]
  simp only [hkeys, hsame, true_and, pure, Except.pure, Except.ok.injEq]

end

/-- Writer and reader agree on a binding. -/
structure BindingRoundTrip (lib : ReaderLibrary) (experimentId runId label : List ℕ)
    (index ratio : ℤ) (uuid : UuidHex) (now : UtcReading) (bytes : List UInt8) : Prop where
  /-- The reader of the run that waits for this transition takes the bytes, with their ratio. -/
  accepted {s : ReaderState} {id : ReaderId} {p : ReaderProcess} {startedUs nowUs : ℤ} :
    s.processes id = some p → p.pc = .checkMarker →
    p.experimentId = experimentId → p.runId = runId → p.next = index →
    s.files.binding p.next = some ⟨.regular, some bytes⟩ →
    pathExists (s.files.consumed p.next) = false →
    makeBindingId experimentId runId label index uuid ∉ p.consumedIds →
    p.startedUtc = startedUs / 1000000 → startedUs ≤ now.micros →
    now.micros ≤ nowUs + 5000000 →
    ∃ t, Machine.exec (readerMachine lib) s (List.replicate 3 (.step id true (nowUs / 1000000) 0)) =
      some ([.performed id p.next .checkMarker, .performed id p.next .statBinding,
        .performed id p.next .readBinding,
        .validated id p.next ⟨makeBindingId experimentId runId label index uuid, ratio⟩], t)
  /-- Every other reader refuses them. -/
  refused {p : ReaderProcess} {nowUtc : ℤ} :
    p.experimentId ≠ experimentId ∨ p.runId ≠ runId ∨ (p.next : ℤ) ≠ index →
    ∃ error, validateBinding lib p nowUtc bytes = .error error
  /-- A reader can be started for the run and transition; label and ratio are as it wants them. -/
  admitted (startedUtc : ℤ) : ∃ p, startReader experimentId runId startedUtc index true = some p ∧
    p.next = index ∧ label = readerLabel p.next ∧ ratioOf (.num (.ofInt ratio)) = some ratio

section
variable {experimentId runId label : List ℕ} {index ratio : ℤ} {uuid : UuidHex} {now : UtcReading}
  {lib : ReaderLibrary}

theorem accepted_of_writable (hlib : lib.Documented)
    (h : Writable experimentId runId label index ratio) {s : ReaderState} {id : ReaderId}
    {p : ReaderProcess} {startedUs nowUs : ℤ} (hp : s.processes id = some p) (hpc : p.pc = .checkMarker)
    (hexperiment : p.experimentId = experimentId) (hrun : p.runId = runId) (hindex : p.next = index)
    (hfile : s.files.binding p.next = some ⟨.regular,
      some (encodeBinding (bindingFields experimentId runId label index ratio uuid now))⟩)
    (hmarker : pathExists (s.files.consumed p.next) = false)
    (hnew : makeBindingId experimentId runId label index uuid ∉ p.consumedIds)
    (hstarted : p.startedUtc = startedUs / 1000000) (hstart : startedUs ≤ now.micros)
    (hfuture : now.micros ≤ nowUs + 5000000) :
    ∃ t, Machine.exec (readerMachine lib) s (List.replicate 3 (.step id true (nowUs / 1000000) 0)) =
      some ([.performed id p.next .checkMarker, .performed id p.next .statBinding,
        .performed id p.next .readBinding,
        .validated id p.next ⟨makeBindingId experimentId runId label index uuid, ratio⟩], t) := by
  have hlabel : label = readerLabel p.next := by rw [h.label_eq, ← hindex]; rfl
  have hsecond := now.micros_ediv
  have hvalid : validateBinding lib p (nowUs / 1000000)
      (encodeBinding (bindingFields experimentId runId label index ratio uuid now)) =
        .ok ⟨makeBindingId experimentId runId label index uuid, ratio⟩ :=
    (validateBinding_encodeBinding hlib h).mpr ⟨hnew, hexperiment.symm, hrun.symm, hlabel,
      hindex.symm, by omega, by omega, rfl⟩
  obtain ⟨hcheck, hstat, hread⟩ :=
    @loadBinding_succeeds lib s.files id p _ _ _ hmarker hfile hvalid
  have hself : { p with pc := .checkMarker } = p := by rw [← hpc]
  refine exec_step hp rfl (hself ▸ hcheck) rfl fun s₁ hp₁ hf₁ => ?_
  refine exec_step hp₁ hf₁ hstat rfl fun s₂ hp₂ hf₂ => ?_
  exact exec_step hp₂ hf₂ hread rfl fun t _ _ => ⟨t, rfl⟩

theorem refused_of_writable (hlib : lib.Documented)
    (h : Writable experimentId runId label index ratio) {p : ReaderProcess} {nowUtc : ℤ}
    (hother : p.experimentId ≠ experimentId ∨ p.runId ≠ runId ∨ (p.next : ℤ) ≠ index) :
    ∃ error, validateBinding lib p nowUtc
      (encodeBinding (bindingFields experimentId runId label index ratio uuid now)) =
        .error error := by
  cases hresult : validateBinding lib p nowUtc
      (encodeBinding (bindingFields experimentId runId label index ratio uuid now)) with
  | error error => exact ⟨error, rfl⟩
  | ok b =>
    obtain ⟨-, hexperiment, hrun, -, hindex, -⟩ :=
      (validateBinding_encodeBinding hlib h).mp hresult
    rcases hother with hne | hne | hne
    · exact absurd hexperiment.symm hne
    · exact absurd hrun.symm hne
    · exact absurd hindex.symm hne

theorem startReader_of_writable (h : Writable experimentId runId label index ratio)
    (startedUtc : ℤ) : ∃ p, startReader experimentId runId startedUtc index true = some p ∧
      p.next = index ∧ label = readerLabel p.next ∧
      ratioOf (.num (.ofInt ratio)) = some ratio := by
  obtain ⟨hlow, hhigh⟩ := h.index_range
  have hnat : (index.toNat : ℤ) = index := Int.toNat_of_nonneg (by omega)
  refine ⟨_, if_pos ⟨h.experimentId_valid, h.runId_valid, rfl, hlow, hhigh⟩, hnat, ?_, ?_⟩
  · rw [h.label_eq, readerLabel, hnat]
  · have hmem : ratio ∈ allowedRatios := h.ratio_mem
    simp [ratioOf, NumberLiteral.ofInt_isInteger, hmem]

/-- Whatever the arguments: what `build_binding` builds, the reader of the same run and transition
takes for the same ratio, and no other reader does. -/
theorem ratio_binding_round_trip (hlib : lib.Documented) {binding : List (String × PyScalar)}
    (hbuild : buildBinding experimentId runId label index ratio uuid now = .ok binding) :
    BindingRoundTrip lib experimentId runId label index ratio uuid now (encodeBinding binding) := by
  obtain ⟨h, rfl⟩ := buildBinding_eq_ok.mp hbuild
  constructor
  · intro s id p startedUs nowUs
    exact accepted_of_writable hlib h
  · intro p nowUtc
    exact refused_of_writable hlib h
  · exact startReader_of_writable h

end

/-! ### A sample -/

/-- `fromisoformat` for what `isoformat` writes in UTC. -/
def documentedLibrary : ReaderLibrary where
  loads := plainLoads
  fromisoformat text :=
    if text.drop 19 = chars "+00:00" then
      (DateTime.ofIso (text.take 19)).map fun t => t.epochSeconds * 1000000
    else none

theorem documentedLibrary_documented : documentedLibrary.Documented where
  loads hparse _ := by simp only [documentedLibrary, plainLoads, hparse]
  fromisoformat {t} hvalid := by
    have hdrop : (t.iso ++ chars "+00:00").drop 19 = chars "+00:00" := rfl
    have htake : (t.iso ++ chars "+00:00").take 19 = t.iso := rfl
    simp only [documentedLibrary, hdrop, htake, if_true, DateTime.ofIso_iso hvalid, Option.map_some]

def sampleUuid : UuidHex := ⟨List.replicate 32 48, rfl, by decide⟩

/-- Half a second past 1970-01-01T00:00:10Z. -/
def sampleReading : UtcReading := ⟨⟨1970, 1, 1, 0, 0, 10⟩, 500000, by decide, by decide⟩

def sampleFields : List (String × PyScalar) :=
  bindingFields (chars "e") (chars "r") (chars "T1") 1 75 sampleUuid sampleReading

/-- A reader that was started at the same second and has read a trigger. -/
def sampleWaiting : ReaderState where
  files := ⟨Function.update (fun _ => none) 1 (some ⟨.regular, some (encodeBinding sampleFields)⟩),
    fun _ => none⟩
  processes := Function.update (fun _ => none) 0
    (some ⟨chars "e", chars "r", 10, 1, 1, [], .checkMarker⟩)

theorem ratio_binding_round_trip_sample :
    buildBinding (chars "e") (chars "r") (chars "T1") 1 75 sampleUuid sampleReading =
        .ok sampleFields ∧
      (∃ t, Machine.exec (readerMachine documentedLibrary) sampleWaiting
          (List.replicate 3 (.step 0 true 10 0)) =
        some ([.performed 0 1 .checkMarker, .performed 0 1 .statBinding,
          .performed 0 1 .readBinding, .validated 0 1
            ⟨makeBindingId (chars "e") (chars "r") (chars "T1") 1 sampleUuid, 75⟩], t)) ∧
      ∃ error, validateBinding documentedLibrary
        ⟨chars "e", chars "r", 10, 1, 2, [], .readBinding⟩ 10 (encodeBinding sampleFields) =
          .error error := by
  have hbuild : buildBinding (chars "e") (chars "r") (chars "T1") 1 75 sampleUuid sampleReading =
      .ok sampleFields :=
    buildBinding_eq_ok.mpr ⟨⟨by decide, by decide, by decide, by decide, by decide⟩, rfl⟩
  have htrip := ratio_binding_round_trip documentedLibrary_documented hbuild
  have hmicros : sampleReading.micros = 10500000 := by decide
  refine ⟨hbuild, ?_, htrip.refused (.inr (.inr (by decide)))⟩
  exact @BindingRoundTrip.accepted _ _ _ _ _ _ _ _ _ htrip sampleWaiting 0 _ 10200000 10700000 rfl
    rfl rfl rfl rfl rfl rfl (by simp) rfl (by rw [hmicros]; decide) (by rw [hmicros]; decide)

end TcdOran.Harness
