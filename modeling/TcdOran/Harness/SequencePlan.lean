import TcdOran.Harness.ProductionCommands
import TcdOran.Harness.Supervisor
import TcdOran.Lib.JsonDocument

/-! prompt12-bounded-sequence-plan-builder.py: the plan that it makes of a binding, as the supervisor
loads it. -/
namespace TcdOran.Harness.SequencePlan
open TcdOran.Lib Python ProductionBinding

def bindingSchema : List ℕ := chars "sci_oran_prompt12_bounded_sequence_bindings_v1"
def planSchema : List ℕ := chars "sci_oran_prompt12_bounded_sequence_v1"

/-- A `PlanBuilderError` by its text. -/
abbrev Built := Except (List ℕ)

/-- A plan has the keys of a binding. -/
abbrev Plan := Binding

def rootKeys : List String :=
  ["schema", "traffic_command", "initial_stationarity_command", "finalization_command",
    "transitions"]

def transitionKeys : List String :=
  ["label", "ratio_bind_command", "trigger_command", "post_stationarity_command"]

def requireExactKeys (record : Json) (expected : List String) (role : List ℕ) : Built Members :=
  match record with
  | .obj members => do
      let missing := (expected.map chars).filter fun key => key ∉ members.map Prod.fst
      let extra := (members.map Prod.fst).dedup.filter fun key => key ∉ expected.map chars
      require (missing = []) (role ++ chars " missing keys: " ++ joinSorted missing)
      require (extra = []) (role ++ chars " has unexpected keys: " ++ joinSorted extra)
      return members
  | _ => .error (role ++ chars " must be an object")

/-- One pass of the loop of `validate_command`. -/
def commandItem (role : List ℕ) (item : Json) (index : ℕ) : Built (List ℕ) :=
  let refusal := role ++ chars "[" ++ decimalUnits index ++
    chars "] must be a non-empty string without NUL"
  match item with
  | .str text => do
      require (text ≠ [] ∧ 0 ∉ text) refusal
      return text
  | _ => .error refusal

def validateCommand (value : Json) (role : List ℕ) : Built Command :=
  match value with
  | .arr items => do
      require (items ≠ []) (role ++ chars " must be a non-empty argv array")
      items.zipIdx.mapM fun entry => commandItem role entry.1 entry.2
  | _ => .error (role ++ chars " must be a non-empty argv array")

/-- One pass of the loop of `build_plan`. -/
def buildTransition (transition : Json) (index : ℕ) : Built Transition := do
  let role := chars "transitions[" ++ decimalUnits index ++ chars "]"
  let expectedLabel := transitionLabel (index + 1)
  let members ← requireExactKeys transition transitionKeys role
  require (isText (member members (chars "label")) expectedLabel)
    (role ++ chars ".label must be " ++ expectedLabel)
  let command (key : String) : Built Command :=
    validateCommand (member members (chars key)) (role ++ chars "." ++ chars key)
  return {
    label := expectedLabel
    ratioBindCommand := ← command "ratio_bind_command"
    triggerCommand := ← command "trigger_command"
    postStationarityCommand := ← command "post_stationarity_command" }

def sixTransitions (value : Json) : Built (List Json) :=
  match value with
  | .arr transitions => do
      require (transitions.length = 6) (chars "exactly six transitions are required")
      return transitions
  | _ => .error (chars "transitions must be an array")

def buildPlan (root : Json) : Built Plan := do
  let members ← requireExactKeys root rootKeys (chars "binding manifest")
  require (isText (member members (chars "schema")) bindingSchema)
    (chars "binding manifest schema is invalid")
  let transitions ← sixTransitions (member members (chars "transitions"))
  let builtTransitions ← transitions.zipIdx.mapM fun entry => buildTransition entry.1 entry.2
  let command (key : String) : Built Command :=
    validateCommand (member members (chars key)) (chars key)
  return {
    schema := planSchema
    trafficCommand := ← command "traffic_command"
    initialStationarityCommand := ← command "initial_stationarity_command"
    finalizationCommand := ← command "finalization_command"
    transitions := builtTransitions }

/-! ### The files -/

def commandDocument (command : Command) : Document :=
  .list (command.map fun text => .scalar (.str text))

def transitionFields (transition : Transition) : List (String × Document) :=
  [("label", .scalar (.str transition.label)),
    ("ratio_bind_command", commandDocument transition.ratioBindCommand),
    ("trigger_command", commandDocument transition.triggerCommand),
    ("post_stationarity_command", commandDocument transition.postStationarityCommand)]

def planFields (plan : Plan) : List (String × Document) :=
  [("schema", .scalar (.str plan.schema)),
    ("traffic_command", commandDocument plan.trafficCommand),
    ("initial_stationarity_command", commandDocument plan.initialStationarityCommand),
    ("finalization_command", commandDocument plan.finalizationCommand),
    ("transitions",
      .list (plan.transitions.map fun transition => .dict (transitionFields transition)))]

/-- What both builders hand to `json.dump`. -/
def document (plan : Plan) : Document := .dict (planFields plan)

def fileText (plan : Plan) : List ℕ := dumpDocument (document plan) ++ [10]

inductive BindingFile
  | unreadable (error : List ℕ)
  | text (content : List ℕ)

/-- How writing ends once the output has been checked. A write that fails may leave a part. -/
inductive WriteEnd
  | written
  | taken
  | failed (error : List ℕ) (left : Option (List ℕ))

/-- What the builder meets outside. -/
structure Surroundings where
  binding : BindingFile
  loads : List ℕ → Loaded
  syntaxErrorText : List ℕ → List ℕ
  outputExists : Bool
  parentIsDir : Bool
  writeEnd : WriteEnd

/-- `main` catches `PlanBuilderError` only. -/
inductive MainEnd
  | passed
  | failed (reason : List ℕ)
  | uncaught
  deriving DecidableEq

section
variable (o : Surroundings)

/-- `none` for an exception other than `PlanBuilderError`. -/
def loadBindings : Option (Built Json) :=
  match o.binding with
  | .unreadable error => some (.error (chars "binding manifest cannot be read: " ++ error))
  | .text content =>
    match o.loads content with
    | .value root => some (.ok root)
    | .syntaxError => some (.error
        (chars "binding manifest is not valid JSON: " ++ o.syntaxErrorText content))
    | .gaveUp => none

/-- The new file with the result. -/
def writePlan (plan : Plan) : Option (List ℕ) × Built Unit :=
  if o.outputExists then (none, .error (chars "output path already exists"))
  else if !o.parentIsDir then (none, .error (chars "output parent directory does not exist"))
  else match o.writeEnd with
    | .written => (some (fileText plan), .ok ())
    | .taken => (none, .error (chars "output path already exists"))
    | .failed error left => (left, .error (chars "output plan cannot be written: " ++ error))

/-- The new file with the way it ends. The return code is 0 for `passed` and 65 for `failed`. -/
def main : Option (List ℕ) × MainEnd :=
  match loadBindings o with
  | none => (none, .uncaught)
  | some (.error reason) => (none, .failed reason)
  | some (.ok root) =>
    match buildPlan root with
    | .error reason => (none, .failed reason)
    | .ok plan =>
      match writePlan o plan with
      | (file, .ok ()) => (file, .passed)
      | (file, .error reason) => (file, .failed reason)

end

/-! ### What is carried from one to the next -/

/-- A command as JSON. -/
def commandJson (command : Command) : Json := .arr (command.map .str)

structure CarriesTransition (value : Json) (transition : Transition) : Prop where
  label : item value "label" = .ok (.str transition.label)
  ratioBind : item value "ratio_bind_command" = .ok (commandJson transition.ratioBindCommand)
  trigger : item value "trigger_command" = .ok (commandJson transition.triggerCommand)
  postStationarity :
    item value "post_stationarity_command" = .ok (commandJson transition.postStationarityCommand)

/-- The value has the commands of the plan, each under its key. -/
structure Carries (value : Json) (plan : Plan) : Prop where
  traffic : item value "traffic_command" = .ok (commandJson plan.trafficCommand)
  initial :
    item value "initial_stationarity_command" = .ok (commandJson plan.initialStationarityCommand)
  finalization : item value "finalization_command" = .ok (commandJson plan.finalizationCommand)
  transitions : ∃ items, item value "transitions" = .ok (.arr items) ∧
    List.Forall₂ CarriesTransition items plan.transitions

/-- A command that can be started. -/
def SoundCommand (command : Command) : Prop :=
  command ≠ [] ∧ ∀ word ∈ command, word ≠ [] ∧ 0 ∉ word

structure SoundTransition (transition : Transition) : Prop where
  ratioBind : SoundCommand transition.ratioBindCommand
  trigger : SoundCommand transition.triggerCommand
  postStationarity : SoundCommand transition.postStationarityCommand

structure Sound (plan : Plan) : Prop where
  traffic : SoundCommand plan.trafficCommand
  initial : SoundCommand plan.initialStationarityCommand
  finalization : SoundCommand plan.finalizationCommand
  labels : plan.transitions.map Transition.label = (List.range' 1 6).map transitionLabel
  transitions : ∀ transition ∈ plan.transitions, SoundTransition transition

/-- An object with exactly these keys. -/
def HasKeys (record : Json) (keys : List String) : Prop :=
  ∃ members, record = .obj members ∧ ∀ key, key ∈ members.map Prod.fst ↔ key ∈ keys.map chars

/-- What `build_plan` asks of a binding manifest. -/
structure Describes (root : Json) (plan : Plan) : Prop where
  keys : HasKeys root rootKeys
  schema : item root "schema" = .ok (.str bindingSchema)
  carries : Carries root plan
  transitionKeys : ∀ transition ∈ planTransitions root, HasKeys transition transitionKeys

/-! ### The builder -/

theorem requireExactKeys_eq_ok {record : Json} {expected : List String} {role : List ℕ}
    {members : Members} : requireExactKeys record expected role = .ok members ↔
      record = .obj members ∧ ∀ key, key ∈ members.map Prod.fst ↔ key ∈ expected.map chars := by
  cases record with
  | obj found =>
    simp only [requireExactKeys, require_bind_eq_ok, List.filter_eq_nil_iff, decide_not,
      Bool.not_eq_true', decide_eq_false_iff_not, not_not, List.mem_dedup]
    constructor
    · rintro ⟨hmissing, hextra, h⟩
      cases h
      exact ⟨rfl, fun key => ⟨hextra key, hmissing key⟩⟩
    · rintro ⟨h, hkeys⟩
      cases h
      exact ⟨fun key => (hkeys key).mpr, fun key => (hkeys key).mp, rfl⟩
  | _ => simp [requireExactKeys]

theorem dictLookup_isSome {members : Members} {key : List ℕ} (h : key ∈ members.map Prod.fst) :
    ∃ value, dictLookup members key = some value := by
  obtain ⟨entry, hentry, rfl⟩ := List.mem_map.mp h
  cases hlookup : dictLookup members entry.1 with
  | some value => exact ⟨value, rfl⟩
  | none =>
    have hne := List.lookup_eq_none_iff.mp hlookup entry (List.mem_reverse.mpr hentry)
    simp at hne

/-- What the builder reads under an expected key. -/
theorem item_eq_member {members : Members} {key : String} (h : chars key ∈ members.map Prod.fst) :
    item (.obj members) key = .ok (member members (chars key)) := by
  obtain ⟨value, hvalue⟩ := dictLookup_isSome h
  simp only [item, member, hvalue, Option.getD_some]

theorem commandItem_eq_ok {role text : List ℕ} {value : Json} {index : ℕ} :
    commandItem role value index = .ok text ↔ value = .str text ∧ text ≠ [] ∧ 0 ∉ text := by
  cases value with
  | str units =>
    simp only [commandItem, require_bind_eq_ok]
    constructor
    · rintro ⟨hvalid, h⟩
      cases h
      exact ⟨rfl, hvalid⟩
    · rintro ⟨h, hvalid⟩
      cases h
      exact ⟨hvalid, rfl⟩
  | _ => simp [commandItem]

/-- The loop of `validate_command`, by induction on the items. -/
theorem commandItems_eq_ok {role : List ℕ} {items : List Json} {index : ℕ} {command : Command} :
    ((items.zipIdx index).mapM fun entry => commandItem role entry.1 entry.2) = .ok command ↔
      items = command.map .str ∧ ∀ word ∈ command, word ≠ [] ∧ 0 ∉ word := by
  induction items generalizing index command with
  | nil => cases command <;> simp [pure, Except.pure]
  | cons value items ih =>
    simp only [List.zipIdx_cons, List.mapM_cons, bind_eq_ok, commandItem_eq_ok, ih]
    constructor
    · rintro ⟨word, ⟨rfl, hword⟩, rest, ⟨rfl, hrest⟩, h⟩
      cases h
      exact ⟨rfl, List.forall_mem_cons.mpr ⟨hword, hrest⟩⟩
    · rintro ⟨h, hwords⟩
      cases command with
      | nil => cases h
      | cons word rest =>
        obtain ⟨rfl, rfl⟩ := List.cons.inj h
        obtain ⟨hword, hrest⟩ := List.forall_mem_cons.mp hwords
        exact ⟨word, ⟨rfl, hword⟩, rest, ⟨rfl, hrest⟩, rfl⟩

theorem validateCommand_eq_ok {value : Json} {role : List ℕ} {command : Command} :
    validateCommand value role = .ok command ↔
      value = commandJson command ∧ SoundCommand command := by
  cases value with
  | arr items =>
    simp only [validateCommand, require_bind_eq_ok, commandItems_eq_ok, commandJson, SoundCommand,
      Json.arr.injEq]
    constructor
    · rintro ⟨hne, rfl, hwords⟩
      exact ⟨rfl, by simpa using hne, hwords⟩
    · rintro ⟨rfl, hne, hwords⟩
      exact ⟨by simpa using hne, rfl, hwords⟩
  | _ => simp [validateCommand, commandJson]

theorem buildTransition_eq_ok {value : Json} {index : ℕ} {transition : Transition} :
    buildTransition value index = .ok transition ↔ HasKeys value transitionKeys ∧
      CarriesTransition value transition ∧ transition.label = transitionLabel (index + 1) ∧
      SoundTransition transition := by
  simp only [buildTransition, bind_eq_ok, require_eq_ok, requireExactKeys_eq_ok,
    validateCommand_eq_ok, isText_iff]
  constructor
  · rintro ⟨members, ⟨rfl, hkeys⟩, _, hlabel, bind, ⟨hbind, hbindSound⟩, trigger,
      ⟨htrigger, htriggerSound⟩, post, ⟨hpost, hpostSound⟩, h⟩
    cases h
    have hitem {key : String} (hkey : chars key ∈ transitionKeys.map chars) :
        item (.obj members) key = .ok (member members (chars key)) :=
      item_eq_member ((hkeys _).mpr hkey)
    refine ⟨⟨members, rfl, hkeys⟩, ?_, rfl, hbindSound, htriggerSound, hpostSound⟩
    constructor
    · rw [hitem (by decide), hlabel]
    · rw [hitem (by decide), hbind]
    · rw [hitem (by decide), htrigger]
    · rw [hitem (by decide), hpost]
  · rintro ⟨⟨members, rfl, hkeys⟩, hcarries, hlabel, hsound⟩
    have hitem {key : String} (hkey : chars key ∈ transitionKeys.map chars) {value : Json}
        (h : item (.obj members) key = .ok value) : member members (chars key) = value :=
      Except.ok.inj ((item_eq_member ((hkeys _).mpr hkey)).symm.trans h)
    refine ⟨members, ⟨rfl, hkeys⟩, (), ?_, _, ⟨?_, hsound.ratioBind⟩, _, ⟨?_, hsound.trigger⟩, _,
      ⟨?_, hsound.postStationarity⟩, ?_⟩
    · rw [hitem (by decide) hcarries.label, hlabel]
    · exact hitem (by decide) hcarries.ratioBind
    · exact hitem (by decide) hcarries.trigger
    · exact hitem (by decide) hcarries.postStationarity
    · rw [← hlabel]
      rfl

/-- The loop of `build_plan`, by induction on the transitions. -/
theorem buildTransitions_eq_ok {items : List Json} {index : ℕ} {transitions : List Transition} :
    ((items.zipIdx index).mapM fun entry => buildTransition entry.1 entry.2) = .ok transitions ↔
      (∀ item ∈ items, HasKeys item transitionKeys) ∧
        List.Forall₂ CarriesTransition items transitions ∧
        transitions.map Transition.label =
          (List.range' (index + 1) items.length).map transitionLabel ∧
        ∀ transition ∈ transitions, SoundTransition transition := by
  induction items generalizing index transitions with
  | nil => cases transitions <;> simp [pure, Except.pure]
  | cons value items ih =>
    simp only [List.zipIdx_cons, List.mapM_cons, bind_eq_ok, buildTransition_eq_ok, ih]
    constructor
    · rintro ⟨transition, ⟨hkeys, hcarries, hlabel, hsound⟩, rest,
        ⟨hallKeys, hrest, hlabels, hsounds⟩, h⟩
      cases h
      refine ⟨List.forall_mem_cons.mpr ⟨hkeys, hallKeys⟩, .cons hcarries hrest, ?_,
        List.forall_mem_cons.mpr ⟨hsound, hsounds⟩⟩
      rw [List.map_cons, hlabel, hlabels, List.length_cons, List.range'_succ, List.map_cons]
    · rintro ⟨hkeys, hcarries, hlabels, hsounds⟩
      cases hcarries with
      | @cons _ transition _ rest hcarries hrest =>
        obtain ⟨hkey, hallKeys⟩ := List.forall_mem_cons.mp hkeys
        obtain ⟨hsound, hall⟩ := List.forall_mem_cons.mp hsounds
        rw [List.length_cons, List.range'_succ, List.map_cons, List.map_cons] at hlabels
        obtain ⟨hlabel, hlabels⟩ := List.cons.inj hlabels
        exact ⟨transition, ⟨hkey, hcarries, hlabel, hsound⟩, rest, ⟨hallKeys, hrest, hlabels, hall⟩,
          rfl⟩

theorem sixTransitions_eq_ok {value : Json} {items : List Json} :
    sixTransitions value = .ok items ↔ value = .arr items ∧ items.length = 6 := by
  cases value with
  | arr found =>
    simp only [sixTransitions, require_bind_eq_ok, Json.arr.injEq]
    constructor
    · rintro ⟨hlength, h⟩
      cases h
      exact ⟨rfl, hlength⟩
    · rintro ⟨rfl, hlength⟩
      exact ⟨hlength, rfl⟩
  | _ => simp [sixTransitions]

theorem planTransitions_eq {value : Json} {items : List Json}
    (h : item value "transitions" = .ok (.arr items)) : planTransitions value = items := by
  rw [planTransitions, h]

/-- What the builder accepts, and what it makes of it. -/
theorem buildPlan_eq_ok {root : Json} {plan : Plan} :
    buildPlan root = .ok plan ↔ plan.schema = planSchema ∧ Describes root plan ∧ Sound plan := by
  simp only [buildPlan, bind_eq_ok, require_eq_ok, requireExactKeys_eq_ok, validateCommand_eq_ok,
    isText_iff, sixTransitions_eq_ok, buildTransitions_eq_ok]
  constructor
  · rintro ⟨members, ⟨rfl, hkeys⟩, _, hschema, items, ⟨hitems, hsix⟩, transitions,
      ⟨hallKeys, hcarries, hlabels, hsounds⟩, traffic, ⟨htraffic, htrafficSound⟩, initial,
      ⟨hinitial, hinitialSound⟩, finalization, ⟨hfinalization, hfinalizationSound⟩, h⟩
    cases h
    have hitem {key : String} (hkey : chars key ∈ rootKeys.map chars) :
        item (.obj members) key = .ok (member members (chars key)) :=
      item_eq_member ((hkeys _).mpr hkey)
    have htransitions : item (.obj members) "transitions" = .ok (.arr items) := by
      rw [hitem (by decide), hitems]
    refine ⟨rfl, ⟨⟨members, rfl, hkeys⟩, ?_, ⟨?_, ?_, ?_, items, htransitions, hcarries⟩, ?_⟩,
      htrafficSound, hinitialSound, hfinalizationSound, ?_, hsounds⟩
    · rw [hitem (by decide), hschema]
    · rw [hitem (by decide), htraffic]
    · rw [hitem (by decide), hinitial]
    · rw [hitem (by decide), hfinalization]
    · rw [planTransitions_eq htransitions]
      exact hallKeys
    · rw [hlabels, hsix]
  · rintro ⟨hplan, ⟨⟨members, rfl, hkeys⟩, hschema, hcarries, hallKeys⟩, hsound⟩
    have hitem {key : String} (hkey : chars key ∈ rootKeys.map chars) {value : Json}
        (h : item (.obj members) key = .ok value) : member members (chars key) = value :=
      Except.ok.inj ((item_eq_member ((hkeys _).mpr hkey)).symm.trans h)
    obtain ⟨items, htransitions, hall⟩ := hcarries.transitions
    have hsix : items.length = 6 := by
      have hlength := congrArg List.length hsound.labels
      rw [List.length_map, List.length_map, List.length_range'] at hlength
      rw [hall.length_eq, hlength]
    refine ⟨members, ⟨rfl, hkeys⟩, (), hitem (by decide) hschema, items,
      ⟨hitem (by decide) htransitions, hsix⟩, plan.transitions,
      ⟨planTransitions_eq htransitions ▸ hallKeys, hall, ?_, hsound.transitions⟩, _,
      ⟨hitem (by decide) hcarries.traffic, hsound.traffic⟩, _,
      ⟨hitem (by decide) hcarries.initial, hsound.initial⟩, _,
      ⟨hitem (by decide) hcarries.finalization, hsound.finalization⟩, ?_⟩
    · rw [hsix]
      exact hsound.labels
    · rw [← hplan]
      rfl

/-! ### The text of a plan -/

/-- All texts of a plan, as far as `json.dump` can be read back. -/
structure Readable (plan : Plan) : Prop where
  schema : ∀ u ∈ plan.schema, Unpaired u
  traffic : ∀ word ∈ plan.trafficCommand, ∀ u ∈ word, Unpaired u
  initial : ∀ word ∈ plan.initialStationarityCommand, ∀ u ∈ word, Unpaired u
  finalization : ∀ word ∈ plan.finalizationCommand, ∀ u ∈ word, Unpaired u
  transitions : ∀ transition ∈ plan.transitions, (∀ u ∈ transition.label, Unpaired u) ∧
    ∀ word ∈ transition.ratioBindCommand ++ transition.triggerCommand ++
      transition.postStationarityCommand, ∀ u ∈ word, Unpaired u

theorem readable_iff {plan : Plan} : ((∀ u ∈ plan.schema, Unpaired u) ∧
    (∀ word ∈ plan.trafficCommand, ∀ u ∈ word, Unpaired u) ∧
    (∀ word ∈ plan.initialStationarityCommand, ∀ u ∈ word, Unpaired u) ∧
    (∀ word ∈ plan.finalizationCommand, ∀ u ∈ word, Unpaired u) ∧
    ∀ transition ∈ plan.transitions, (∀ u ∈ transition.label, Unpaired u) ∧
      ∀ word ∈ transition.ratioBindCommand ++ transition.triggerCommand ++
        transition.postStationarityCommand, ∀ u ∈ word, Unpaired u) ↔ Readable plan := by
  constructor
  · rintro ⟨hschema, htraffic, hinitial, hfinalization, htransitions⟩
    exact ⟨hschema, htraffic, hinitial, hfinalization, htransitions⟩
  · intro h
    exact ⟨h.schema, h.traffic, h.initial, h.finalization, h.transitions⟩

instance decidableUnpaired (u : ℕ) : Decidable (Unpaired u) := inferInstanceAs (Decidable (_ ∧ _))

instance decidableReadable (plan : Plan) : Decidable (Readable plan) := decidable_of_iff _ readable_iff

instance decidableSoundCommand (command : Command) : Decidable (SoundCommand command) :=
  inferInstanceAs (Decidable (_ ∧ _))

theorem unpaired_planSchema : ∀ u ∈ planSchema, Unpaired u := by decide

theorem readable_command {command : Command} (h : ∀ word ∈ command, ∀ u ∈ word, Unpaired u) :
    (commandDocument command).Readable := by
  refine .list _ fun item hitem => ?_
  obtain ⟨word, hword, rfl⟩ := List.mem_map.mp hitem
  exact .scalar _ (h word hword)

theorem keys_transitionFields (transition : Transition) :
    (transitionFields transition).map Prod.fst = transitionKeys := rfl

theorem keys_planFields (plan : Plan) : (planFields plan).map Prod.fst = rootKeys := rfl

theorem plainKey_of_keys {fields : List (String × Document)} {keys : List String}
    (hkeys : fields.map Prod.fst = keys) (h : ∀ key ∈ keys, PlainKey key) :
    ∀ field ∈ fields, PlainKey field.1 :=
  fun _ hfield => h _ (hkeys ▸ List.mem_map_of_mem hfield)

theorem readable_transition {transition : Transition} (hlabel : ∀ u ∈ transition.label, Unpaired u)
    (h : ∀ word ∈ transition.ratioBindCommand ++ transition.triggerCommand ++
      transition.postStationarityCommand, ∀ u ∈ word, Unpaired u) :
    (Document.dict (transitionFields transition)).Readable := by
  simp only [List.forall_mem_append] at h
  obtain ⟨⟨hbind, htrigger⟩, hpost⟩ := h
  refine .dict _ (plainKey_of_keys (keys_transitionFields transition) (by decide)) ?_
  simp only [transitionFields, List.forall_mem_cons]
  exact ⟨.scalar _ hlabel, readable_command hbind, readable_command htrigger, readable_command hpost,
    by simp⟩

theorem Readable.document {plan : Plan} (h : Readable plan) : (document plan).Readable := by
  refine .dict _ (plainKey_of_keys (keys_planFields plan) (by decide)) ?_
  simp only [planFields, List.forall_mem_cons]
  refine ⟨.scalar _ h.schema, readable_command h.traffic, readable_command h.initial,
    readable_command h.finalization, .list _ fun item hitem => ?_, by simp⟩
  obtain ⟨transition, htransition, rfl⟩ := List.mem_map.mp hitem
  obtain ⟨hlabel, hwords⟩ := h.transitions transition htransition
  exact readable_transition hlabel hwords

/-- Both readers find the document in the file. -/
theorem parse_fileText {plan : Plan} (h : Readable plan) :
    Json.parse (fileText plan) = some (document plan).json := parse_dumpDocument h.document

theorem item_dict {fields : List (String × Document)} (hnodup : (fields.map Prod.fst).Nodup)
    {key : String} {value : Document} (h : (key, value) ∈ fields) :
    item (Document.dict fields).json key = .ok value.json := by
  obtain ⟨members, hmembers, hlookup⟩ := dictLookup_dict hnodup h
  rw [hmembers]
  simp only [item, hlookup]

theorem hasKeys_dict {fields : List (String × Document)} {keys : List String}
    (h : fields.map Prod.fst = keys) : HasKeys (Document.dict fields).json keys := by
  refine ⟨_, dict_json fields, fun key => ?_⟩
  have hperm : ((fields.mergeSort fieldOrder).map fun field => chars field.1).Perm
      (fields.map fun field => chars field.1) := (List.mergeSort_perm fields fieldOrder).map _
  rw [← h, List.map_map, List.map_map]
  exact hperm.mem_iff

theorem commandDocument_json (command : Command) :
    (commandDocument command).json = commandJson command := by
  rw [commandDocument, Document.json, itemValues_eq, List.map_map]
  rfl

theorem item_transition (transition : Transition) {key : String} {value : Document}
    (h : (key, value) ∈ transitionFields transition) :
    item (Document.dict (transitionFields transition)).json key = .ok value.json := by
  apply item_dict _ h
  rw [keys_transitionFields]
  decide

theorem item_plan (plan : Plan) {key : String} {value : Document}
    (h : (key, value) ∈ planFields plan) : item (document plan).json key = .ok value.json := by
  apply item_dict _ h
  rw [keys_planFields]
  decide

theorem carries_transition (transition : Transition) :
    CarriesTransition (Document.dict (transitionFields transition)).json transition := by
  constructor
  · have hmem : ("label", .scalar (.str transition.label)) ∈ transitionFields transition := by
      simp [transitionFields]
    exact item_transition transition hmem
  all_goals
    rw [← commandDocument_json]
    exact item_transition transition (by simp [transitionFields])

theorem item_transitions (plan : Plan) : item (document plan).json "transitions" =
    .ok (.arr (plan.transitions.map fun transition =>
      (Document.dict (transitionFields transition)).json)) := by
  rw [item_plan plan (List.getLast_mem (List.cons_ne_nil _ _)), Document.json, itemValues_eq,
    List.map_map]
  rfl

theorem carries_document (plan : Plan) : Carries (document plan).json plan := by
  refine ⟨?_, ?_, ?_, _, item_transitions plan, ?_⟩
  · rw [← commandDocument_json]
    exact item_plan plan (by simp [planFields])
  · rw [← commandDocument_json]
    exact item_plan plan (by simp [planFields])
  · rw [← commandDocument_json]
    exact item_plan plan (by simp [planFields])
  · rw [List.forall₂_map_left_iff, List.forall₂_same]
    exact fun transition _ => carries_transition transition

theorem item_schema (plan : Plan) : item (document plan).json "schema" = .ok (.str plan.schema) :=
  item_plan plan List.mem_cons_self

/-- The builder takes a sound binding that has been written, and changes the schema only. -/
theorem buildPlan_document {binding : Binding} (hschema : binding.schema = bindingSchema)
    (h : Sound binding) :
    buildPlan (document binding).json = .ok { binding with schema := planSchema } := by
  have hcarries := carries_document binding
  refine buildPlan_eq_ok.mpr ⟨rfl, ⟨?_, hschema ▸ item_schema binding, ?_, ?_⟩, ?_⟩
  · exact hasKeys_dict (keys_planFields binding)
  · exact ⟨hcarries.traffic, hcarries.initial, hcarries.finalization, hcarries.transitions⟩
  · rw [planTransitions_eq (item_transitions binding), List.forall_mem_map]
    exact fun transition _ => hasKeys_dict (keys_transitionFields transition)
  · exact ⟨h.traffic, h.initial, h.finalization, h.labels, h.transitions⟩

/-! ### The supervisor -/

theorem get_of_item {value result : Json} {key : String} (h : item value key = .ok result) :
    get value key = .ok result := by
  cases value with
  | obj members =>
    simp only [item] at h
    cases hlookup : dictLookup members (chars key) with
    | none =>
      rw [hlookup] at h
      cases h
    | some found =>
      rw [hlookup] at h
      cases h
      simp only [get, hlookup, Option.getD_some]
  | _ => cases h

theorem checkCommand_sound {command : Command} (h : SoundCommand command) (name : List ℕ) :
    checkCommand (commandJson command) name = .ok () := by
  obtain ⟨hne, hwords⟩ := h
  refine if_pos ⟨by simpa using hne, List.all_eq_true.mpr fun item hitem => ?_⟩
  obtain ⟨word, hword, rfl⟩ := List.mem_map.mp hitem
  exact decide_eq_true (hwords word hword).1

theorem checkTransition_carries {value : Json} {transition : Transition} {index : ℕ}
    (h : CarriesTransition value transition) (hlabel : transition.label = transitionLabel index)
    (hsound : SoundTransition transition) : checkTransition index value = .ok () := by
  cases value with
  | obj members =>
    simp only [checkTransition, get_of_item h.label, get_of_item h.trigger,
      get_of_item h.postStationarity, ok_bind, checkCommand_sound hsound.trigger,
      checkCommand_sound hsound.postStationarity]
    rw [ok_of_require (isText_iff.mpr (congrArg Json.str hlabel)), ok_bind]
  | _ => cases h.label

/-- The loop of `load_plan`, by induction on the transitions. -/
theorem checkTransitions_carries {items : List Json} {transitions : List Transition} {index n : ℕ}
    (h : List.Forall₂ CarriesTransition items transitions)
    (hlabels : transitions.map Transition.label = (List.range' index n).map transitionLabel)
    (hsound : ∀ transition ∈ transitions, SoundTransition transition) :
    checkTransitions index items = .ok () := by
  induction h generalizing index n with
  | nil => rfl
  | @cons value transition items transitions hvalue _ ih =>
    obtain ⟨hfirst, hrest⟩ := List.forall_mem_cons.mp hsound
    cases n with
    | zero => cases hlabels
    | succ n =>
      rw [List.map_cons, List.range'_succ, List.map_cons] at hlabels
      obtain ⟨hlabel, hlabels⟩ := List.cons.inj hlabels
      rw [checkTransitions, checkTransition_carries hvalue hlabel hfirst, ok_bind]
      exact ih hlabels hrest

/-- The supervisor accepts what has the commands of a sound plan. -/
theorem loadPlan_carries {loads : List ℕ → Loaded} {file : PlanFile} {value : Json} {plan : Plan}
    (hread : readPlan loads file = .ok value) (hschema : item value "schema" = .ok (.str planSchema))
    (hcarries : Carries value plan) (hsound : Sound plan) : loadPlan loads file = .ok value := by
  obtain ⟨items, hitems, hall⟩ := hcarries.transitions
  have hsix : items.length = transitionCount := by
    have hlength := congrArg List.length hsound.labels
    rw [List.length_map, List.length_map, List.length_range'] at hlength
    rw [hall.length_eq, hlength]
    rfl
  simp only [loadPlan, hread, ok_bind, get_of_item hschema, get_of_item hcarries.traffic,
    get_of_item hcarries.initial, get_of_item hcarries.finalization, get_of_item hitems,
    checkCommand_sound hsound.traffic, checkCommand_sound hsound.initial,
    checkCommand_sound hsound.finalization, checkTransitions_carries hall hsound.labels
      hsound.transitions]
  have htext : isText (.str planSchema) (chars supervisorSchema) = true := isText_iff.mpr rfl
  rw [ok_of_require htext, ok_bind, ok_of_require hsix, ok_bind]
  rfl

/-- A plan that has been written is accepted, and nothing of it is lost. -/
theorem loadPlan_fileText {plan : Plan} (hschema : plan.schema = planSchema)
    (hreadable : Readable plan) (h : Sound plan) : ∃ loaded,
      loadPlan plainLoads (.text (fileText plan)) = .ok loaded ∧ Carries loaded plan := by
  have hread : readPlan plainLoads (.text (fileText plan)) = .ok (document plan).json := by
    simp only [readPlan, plainLoads, parse_fileText hreadable]
  exact ⟨_, loadPlan_carries hread (hschema ▸ item_schema plan) (carries_document plan) h,
    carries_document plan⟩

theorem main_passed {o : Surroundings} {file : List ℕ} :
    main o = (some file, .passed) ↔ ∃ root plan, loadBindings o = some (.ok root) ∧
      buildPlan root = .ok plan ∧ o.outputExists = false ∧ o.parentIsDir = true ∧
      o.writeEnd = .written ∧ file = fileText plan := by
  unfold main
  cases hload : loadBindings o with
  | none => simp
  | some loaded =>
    cases loaded with
    | error reason => simp
    | ok root =>
      cases hplan : buildPlan root with
      | error reason => simp [hplan]
      | ok plan =>
        unfold writePlan
        cases hexists : o.outputExists <;> cases hparent : o.parentIsDir <;>
          cases hwrite : o.writeEnd <;> simp [hplan, eq_comm]

/-- The plan builder ends well only with a plan that has the commands of the binding. The supervisor
takes that plan, with the same commands. -/
theorem written_plan_supervised {o : Surroundings} {file : List ℕ}
    (hmain : main o = (some file, .passed)) : ∃ root plan, loadBindings o = some (.ok root) ∧
      buildPlan root = .ok plan ∧ Describes root plan ∧ Sound plan ∧ file = fileText plan ∧
      (Readable plan → ∃ loaded, loadPlan plainLoads (.text file) = .ok loaded ∧
        Carries loaded plan) := by
  obtain ⟨root, plan, hload, hplan, -, -, -, rfl⟩ := main_passed.mp hmain
  obtain ⟨hschema, hdescribes, hsound⟩ := buildPlan_eq_ok.mp hplan
  exact ⟨root, plan, hload, hplan, hdescribes, hsound, rfl, fun hreadable =>
    loadPlan_fileText hschema hreadable hsound⟩

def sampleTransition (index : ℕ) : Transition where
  label := transitionLabel index
  ratioBindCommand := [chars "bind", decimalUnits index]
  triggerCommand := [chars "trigger"]
  postStationarityCommand := [chars "stationarity"]

def sampleBinding : Binding where
  schema := bindingSchema
  trafficCommand := [chars "traffic"]
  initialStationarityCommand := [chars "stationarity"]
  finalizationCommand := [chars "finalize"]
  transitions := (List.range' 1 6).map sampleTransition

def sampleSurroundings : Surroundings where
  binding := .text (fileText sampleBinding)
  loads := plainLoads
  syntaxErrorText _ := []
  outputExists := false
  parentIsDir := true
  writeEnd := .written

theorem sound_sample : Sound sampleBinding where
  traffic := by decide
  initial := by decide
  finalization := by decide
  labels := by decide
  transitions := by
    rw [sampleBinding, List.forall_mem_map]
    intro index _
    have htrigger : SoundCommand [chars "trigger"] := by decide
    have hpost : SoundCommand [chars "stationarity"] := by decide
    refine ⟨⟨List.cons_ne_nil _ _, ?_⟩, htrigger, hpost⟩
    simp only [sampleTransition, List.forall_mem_cons]
    exact ⟨by decide, ⟨decimalUnits_ne_nil index, (operand_decimalUnits index).noNul⟩, by simp⟩

theorem written_plan_supervised_sample : ∃ file loaded,
    main sampleSurroundings = (some file, .passed) ∧
      loadPlan plainLoads (.text file) = .ok loaded ∧ Carries loaded sampleBinding := by
  have hreadable : Readable sampleBinding := by decide +kernel
  have hload : loadBindings sampleSurroundings = some (.ok (document sampleBinding).json) := by
    simp only [loadBindings, sampleSurroundings, plainLoads, parse_fileText hreadable]
  have hbuild := buildPlan_document rfl sound_sample
  have hmain := main_passed.mpr ⟨_, _, hload, hbuild, rfl, rfl, rfl, rfl⟩
  obtain ⟨root, plan, hroot, hplan, -, -, -, hsupervised⟩ := written_plan_supervised hmain
  obtain rfl := Except.ok.inj (Option.some.inj (hload.symm.trans hroot))
  obtain rfl := Except.ok.inj (hbuild.symm.trans hplan)
  obtain ⟨loaded, hloaded, hcarries⟩ := hsupervised ⟨unpaired_planSchema, hreadable.traffic, hreadable.initial,
    hreadable.finalization, hreadable.transitions⟩
  exact ⟨_, loaded, hmain, hloaded, hcarries.traffic, hcarries.initial, hcarries.finalization,
    hcarries.transitions⟩

end TcdOran.Harness.SequencePlan
