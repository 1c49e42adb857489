import TcdOran.Lib.Check
import TcdOran.Lib.PythonDumps
import TcdOran.Lib.PythonNumber

/-! The admission record that prompt12-persistent-prearmed-actuator-provider.py writes, and the
checks of prompt12-production-provider-manager-launcher.py on it. -/
namespace TcdOran.Harness.ProviderAdmission
open TcdOran.Lib Python

/-! ### The record -/

/-- A string that comes from the system: only the low half of a surrogate pair may stand alone. -/
def SystemText := { text : List ℕ // ∀ u ∈ text, Unpaired u }

/-- What the provider knows by the time it admits. -/
structure Facts where
  executionHost : SystemText
  runtimeRoot : SystemText
  fifoPath : SystemText
  fifoMode : SystemText
  fifoUid : ℕ
  fifoGid : ℕ
  providerIdentity : SystemText
  providerPid : ℕ
  startIdentity : SystemText
  launchArgvSha256 : SystemText
  admissionUtc : SystemText

def textField (key : String) (text : SystemText) (plain : PlainKey key) : PrintedField :=
  .str key text.1 plain text.2

/-- A text of the source, whose characters are plain. -/
def wordField (key word : String) (plain : PlainKey key) (h : PlainKey word) : PrintedField :=
  .str key (chars word) plain (unpaired_of_plain h)

def admissionFields (facts : Facts) : List PrintedField :=
  [wordField "schema" "sci_oran_prompt12_persistent_prearmed_actuator_provider_admission_v1"
      (by decide) (by decide),
    wordField "state" "ADMITTED" (by decide) (by decide),
    textField "execution_host" facts.executionHost (by decide),
    textField "runtime_root" facts.runtimeRoot (by decide),
    textField "fifo_path" facts.fifoPath (by decide),
    textField "fifo_mode" facts.fifoMode (by decide),
    .int "fifo_uid" facts.fifoUid (by decide),
    .int "fifo_gid" facts.fifoGid (by decide),
    textField "provider_identity" facts.providerIdentity (by decide),
    .int "provider_pid" facts.providerPid (by decide),
    textField "provider_process_start_identity" facts.startIdentity (by decide),
    .int "provider_restart_count" 0 (by decide),
    textField "provider_launch_argv_sha256" facts.launchArgvSha256 (by decide),
    wordField "reader_readiness_gate" "PASS" (by decide) (by decide),
    wordField "readiness_method" "O_WRONLY_NONBLOCK_ZERO_BYTE_OPEN" (by decide) (by decide),
    .bool "readiness_writer_fd_held" true (by decide),
    .int "trigger_write_attempt_count" 0 (by decide),
    .int "trigger_write_success_count" 0 (by decide),
    .bool "control_executed" false (by decide),
    .bool "traffic_executed" false (by decide),
    textField "admission_utc" facts.admissionUtc (by decide)]

/-- The object that `json.dump` writes. -/
def objectText (facts : Facts) : List ℕ := dumpsFields (admissionFields facts)

/-- What `write_json_exclusive` writes. -/
def admissionText (facts : Facts) : List ℕ := objectText facts ++ [10]

/-! ### The checks of the launcher -/

/-- A `LauncherError` by its reason and status, or another exception. -/
inductive LauncherFailure
  | launcher (reason : List ℕ) (rc : ℕ)
  | raised (exception : String)
  deriving DecidableEq

abbrev Launched := Except LauncherFailure

def reject (reason : String) : LauncherFailure := .launcher (chars reason) 65

/-- What the launcher takes from the allocation. -/
structure Allocation where
  runtimeRoot : List ℕ
  fifoPath : List ℕ
  providerIdentity : List ℕ

/-- What the launcher sees besides the record: the start identity of a process, whether the runtime
root is a directory, and what `stat` says of the FIFO, whether it is one and its mode. -/
structure Sights where
  identity : ℕ → Option (List ℕ)
  rootIsDir : Bool
  fifo : Option (Bool × ℕ)

inductive Expected
  | text (text : List ℕ)
  /-- `False` and `True` equal 0 and 1. -/
  | int (n : ℤ)

def agrees (value : Json) : Expected → Bool
  | .text text => isText value text
  | .int n => equalsInt value n

/-- `exact`, in its order. -/
def expectedFields (allocation : Allocation) : List (String × Expected) :=
  [("state", .text (chars "ADMITTED")), ("runtime_root", .text allocation.runtimeRoot),
    ("fifo_path", .text allocation.fifoPath),
    ("provider_identity", .text allocation.providerIdentity), ("provider_restart_count", .int 0),
    ("reader_readiness_gate", .text (chars "PASS")),
    ("readiness_method", .text (chars "O_WRONLY_NONBLOCK_ZERO_BYTE_OPEN")),
    ("readiness_writer_fd_held", .int 1), ("trigger_write_attempt_count", .int 0),
    ("trigger_write_success_count", .int 0), ("control_executed", .int 0),
    ("traffic_executed", .int 0)]

/-- `value.get(key)` -/
def fieldOf (members : List (List ℕ × Json)) (key : String) : Json :=
  (dictLookup members (chars key)).getD .null

def upperKey (key : String) : List ℕ :=
  (chars key).map fun u => if 97 ≤ u ∧ u ≤ 122 then u - 32 else u

def checkField (members : List (List ℕ × Json)) (field : String × Expected) : Launched Unit :=
  require (agrees (fieldOf members field.1) field.2)
    (.launcher (chars "PROVIDER_ADMISSION_" ++ upperKey field.1 ++ chars "_MISMATCH") 65)

/-- `isinstance(value, int)` and positive. -/
def providerPid : Json → Launched ℕ
  | .num literal => do
      require (literal.isInteger ∧ 0 < literal.intValue) (reject "PROVIDER_PID_INVALID")
      return literal.intValue.toNat
  | .bool true => .ok 1
  | _ => .error (reject "PROVIDER_PID_INVALID")

def recordedIdentity : Json → Launched (List ℕ)
  | .str identity => do
      require (identity ≠ []) (reject "PROVIDER_PROCESS_START_IDENTITY_INVALID")
      return identity
  | _ => .error (reject "PROVIDER_PROCESS_START_IDENTITY_INVALID")

def readIdentity (sights : Sights) (pid : ℕ) : Launched (List ℕ) :=
  match sights.identity pid with
  | some identity => .ok identity
  | none => .error (reject "PROCESS_START_IDENTITY_UNAVAILABLE")

def fifoAfterAdmission (sights : Sights) : Launched (Bool × ℕ) :=
  match sights.fifo with
  | some fifo => .ok fifo
  | none => .error (reject "FIFO_UNAVAILABLE_AFTER_ADMISSION")

def objectMembers : Loaded → Launched (List (List ℕ × Json))
  | .value (.obj members) => .ok members
  | .value _ => .error (.raised "AttributeError")
  | .syntaxError => .error (reject "PROVIDER_ADMISSION_JSON_INVALID")
  | .gaveUp => .error (.raised "RecursionError")

/-- `validate_admission` on the text that has been read. -/
def validateAdmission (allocation : Allocation) (sights : Sights) (text : List ℕ) :
    Launched (List (List ℕ × Json)) := do
  let members ← objectMembers (plainLoads text)
  (expectedFields allocation).forM (checkField members)
  let pid ← providerPid (fieldOf members "provider_pid")
  let recorded ← recordedIdentity (fieldOf members "provider_process_start_identity")
  let observed ← readIdentity sights pid
  require (observed = recorded) (reject "PROVIDER_PROCESS_START_IDENTITY_MISMATCH")
  require sights.rootIsDir (reject "RUNTIME_ROOT_NOT_DIRECTORY_AFTER_ADMISSION")
  let fifo ← fifoAfterAdmission sights
  require fifo.1 (reject "FIFO_NOT_FIFO_AFTER_ADMISSION")
  require (fifo.2 = 0o600) (reject "FIFO_MODE_INVALID_AFTER_ADMISSION")
  return members

/-! ### A complete record is accepted -/

/-- The admission is the one that the launcher expects. -/
structure Matching (allocation : Allocation) (sights : Sights) (facts : Facts) : Prop where
  runtimeRoot : facts.runtimeRoot.1 = allocation.runtimeRoot
  fifoPath : facts.fifoPath.1 = allocation.fifoPath
  providerIdentity : facts.providerIdentity.1 = allocation.providerIdentity
  providerPid : 0 < facts.providerPid
  startIdentity : facts.startIdentity.1 ≠ []
  observed : sights.identity facts.providerPid = some facts.startIdentity.1
  rootIsDir : sights.rootIsDir = true
  fifo : sights.fifo = some (true, 0o600)

section
variable {allocation : Allocation} {sights : Sights} {facts : Facts}

theorem nodup_admissionFields (facts : Facts) :
    ((admissionFields facts).map PrintedField.key).Nodup := by
  have hkeys : (admissionFields facts).map PrintedField.key =
      ["schema", "state", "execution_host", "runtime_root", "fifo_path", "fifo_mode", "fifo_uid",
        "fifo_gid", "provider_identity", "provider_pid", "provider_process_start_identity",
        "provider_restart_count", "provider_launch_argv_sha256", "reader_readiness_gate",
        "readiness_method", "readiness_writer_fd_held", "trigger_write_attempt_count",
        "trigger_write_success_count", "control_executed", "traffic_executed", "admission_utc"] := rfl
  rw [hkeys]
  decide

/-- A field of the record is read back under its key. -/
theorem fieldOf_admission (i : ℕ) {key : String} {value : Json}
    (h : (admissionFields facts)[i]?.map (fun field => (field.key, field.value)) =
      some (key, value)) : fieldOf (fieldMembers (admissionFields facts)) key = value := by
  obtain ⟨field, hfield, hpair⟩ := Option.map_eq_some_iff.mp h
  obtain ⟨rfl, rfl⟩ := Prod.mk.inj hpair
  rw [fieldOf, lookup_fieldMembers (nodup_admissionFields facts) (List.mem_of_getElem? hfield),
    Option.getD_some]

theorem loads_objectText (facts : Facts) :
    plainLoads (objectText facts) = .value (.obj (fieldMembers (admissionFields facts))) := by
  rw [plainLoads, objectText, parse_prints_end (prints_dumpsFields (by simp [admissionFields]))]

theorem loads_admissionText (facts : Facts) :
    plainLoads (admissionText facts) = .value (.obj (fieldMembers (admissionFields facts))) := by
  rw [plainLoads, admissionText, objectText,
    Json.parse_prints (prints_dumpsFields (by simp [admissionFields]))]

section
variable {members : List (List ℕ × Json)} {key : String}

theorem checkField_text {text : List ℕ} (h : fieldOf members key = .str text) :
    checkField members (key, .text text) = .ok () := by
  rw [checkField, h]
  exact ok_of_require (by simp [agrees, isText])

theorem checkField_int {z : ℤ} (h : fieldOf members key = .num (.ofInt z)) :
    checkField members (key, .int z) = .ok () := by
  rw [checkField, h]
  exact ok_of_require (by simp [agrees, equalsInt, NumberLiteral.ofInt_isInteger])

theorem checkField_bool {b : Bool} (h : fieldOf members key = .bool b) :
    checkField members (key, .int (if b then 1 else 0)) = .ok () := by
  rw [checkField, h]
  exact ok_of_require (by simp [agrees, equalsInt])

end

theorem checkFields_admission (h : Matching allocation sights facts) :
    (expectedFields allocation).forM (checkField (fieldMembers (admissionFields facts))) = .ok () := by
  have hroot : fieldOf (fieldMembers (admissionFields facts)) "runtime_root" =
      .str allocation.runtimeRoot := h.runtimeRoot ▸ fieldOf_admission 3 rfl
  have hfifo : fieldOf (fieldMembers (admissionFields facts)) "fifo_path" =
      .str allocation.fifoPath := h.fifoPath ▸ fieldOf_admission 4 rfl
  have hidentity : fieldOf (fieldMembers (admissionFields facts)) "provider_identity" =
      .str allocation.providerIdentity := h.providerIdentity ▸ fieldOf_admission 8 rfl
  refine forM_eq_ok.mpr ?_
  simp only [expectedFields, List.forall_mem_cons]
  exact ⟨checkField_text (fieldOf_admission 1 rfl), checkField_text hroot, checkField_text hfifo,
    checkField_text hidentity, checkField_int (fieldOf_admission 11 rfl),
    checkField_text (fieldOf_admission 13 rfl), checkField_text (fieldOf_admission 14 rfl),
    checkField_bool (b := true) (fieldOf_admission 15 rfl),
    checkField_int (fieldOf_admission 16 rfl), checkField_int (fieldOf_admission 17 rfl),
    checkField_bool (b := false) (fieldOf_admission 18 rfl),
    checkField_bool (b := false) (fieldOf_admission 19 rfl), by simp⟩

/-- What is accepted of a text that decodes to the record. -/
theorem validateAdmission_of_loads (h : Matching allocation sights facts) {text : List ℕ}
    (hloads : plainLoads text = .value (.obj (fieldMembers (admissionFields facts)))) :
    validateAdmission allocation sights text = .ok (fieldMembers (admissionFields facts)) := by
  have hpid : providerPid (fieldOf (fieldMembers (admissionFields facts)) "provider_pid") =
      .ok facts.providerPid := by
    have hvalue : fieldOf (fieldMembers (admissionFields facts)) "provider_pid" =
        .num (.ofInt facts.providerPid) := fieldOf_admission 9 rfl
    have hpositive : (NumberLiteral.ofInt facts.providerPid).isInteger = true ∧
        0 < (NumberLiteral.ofInt facts.providerPid).intValue := by
      rw [NumberLiteral.intValue_ofInt]
      exact ⟨NumberLiteral.ofInt_isInteger _, by exact_mod_cast h.providerPid⟩
    rw [hvalue, providerPid, ok_of_require hpositive, ok_bind, NumberLiteral.intValue_ofInt]
    rfl
  have hidentity : recordedIdentity (fieldOf (fieldMembers (admissionFields facts))
      "provider_process_start_identity") = .ok facts.startIdentity.1 := by
    have hvalue : fieldOf (fieldMembers (admissionFields facts))
        "provider_process_start_identity" = .str facts.startIdentity.1 := fieldOf_admission 10 rfl
    rw [hvalue, recordedIdentity, ok_of_require h.startIdentity]
    rfl
  have hfields := checkFields_admission h
  rw [validateAdmission, hloads, objectMembers, ok_bind, hfields, ok_bind, hpid, ok_bind, hidentity,
    ok_bind, readIdentity, h.observed]
  simp only [fifoAfterAdmission, h.fifo, h.rootIsDir]
  rw [ok_bind, ok_of_require rfl, ok_bind, ok_of_require trivial, ok_bind, ok_bind,
    ok_of_require rfl, ok_bind, ok_of_require rfl]
  rfl

end

end TcdOran.Harness.ProviderAdmission
