import TcdOran.Collector.MainMachine
import TcdOran.Lib.Strtol
import TcdOran.Lib.Validation

/-! config.c: the configuration of the collector, as `main` loads it from the environment. -/
namespace TcdOran.Collector
open TcdOran.Lib

abbrev nodeTypeSelectorCapacity : ℕ := 64
abbrev nodeSelectorCapacity : ℕ := 128

/-- `tcd_kpm_collector_config_t`. -/
structure LoadedConfig extends CollectorConfig where
  nodeType : CharArray nodeTypeSelectorCapacity
  nodeId : CharArray nodeSelectorCapacity
  requireExactlyOneMatch : Bool
  subscriptionPeriodMs : UInt32
  maxIndications : UInt64
  structuredDebugStderr : Bool

/-- The variables of a process. Their values are strings of C. -/
structure Environment where
  getenv : String → Option (List UInt8)
  noNul {name : String} {value : List UInt8} : getenv name = some value → 0 ∉ value

/-- `tcd_kpm_collector_config_defaults`. -/
def configDefaults : LoadedConfig where
  nodeType := CharArray.store (Vector.replicate nodeTypeSelectorCapacity 0) (bytes "gNB_DU")
  nodeId := Vector.replicate _ 0
  requireExactlyOneMatch := true
  discoveryTimeoutSeconds := 10
  discoveryPollMs := 200
  subscriptionPeriodMs := 1000
  maxIndications := 10
  durationSeconds := 30
  structuredDebugStderr := false

/-- `tcd_kpm_collector_config_has_finite_limit`. -/
def hasFiniteLimit (config : LoadedConfig) : Bool :=
  config.maxIndications > 0 || config.durationSeconds > 0

def trueTexts : List String := ["1", "true", "yes"]
def falseTexts : List String := ["0", "false", "no"]

section
variable (env : Environment) {n : ℕ}

/-- A text of at least `minimum` bytes that fits with its NUL. -/
def copyText (name : String) (minimum : ℕ) (error : String) (destination : CharArray n) :
    Except String (CharArray n) :=
  match env.getenv name with
  | none => .ok destination
  | some value =>
      if value.length < minimum ∨ value.length ≥ n then .error error
      else .ok (destination.store value)

def copyEnvironmentString (name : String) (destination : CharArray n) :
    Except String (CharArray n) :=
  copyText env name 1 "invalid environment string" destination

/-- The loader's own lines on the identifier, which may be empty. -/
def copyNodeId (destination : CharArray n) : Except String (CharArray n) :=
  copyText env "TCD_KPM_NODE_ID" 0 "node identifier is too long" destination

def parseU32Environment (name : String) (minimum maximum destination : UInt32) :
    Except String UInt32 :=
  match env.getenv name with
  | none => .ok destination
  | some value =>
      let parsed := strtoul value
      if !parsed.whole ∨ parsed.value > 4294967295 ∨ parsed.value < minimum.toUInt64 ∨
          parsed.value > maximum.toUInt64 then
        .error "invalid unsigned environment value"
      else .ok parsed.value.toUInt32

def parseU64Environment (name : String) (minimum maximum destination : UInt64) :
    Except String UInt64 :=
  match env.getenv name with
  | none => .ok destination
  | some value =>
      let parsed := strtoul value
      if !parsed.whole ∨ parsed.value < minimum ∨ parsed.value > maximum then
        .error "invalid 64-bit environment value"
      else .ok parsed.value

/-- `1` and `0` have no letters, so that `strcmp` is `strcasecmp` on them. -/
def parseBoolEnvironment (name : String) (destination : Bool) : Except String Bool :=
  match env.getenv name with
  | none => .ok destination
  | some value =>
      if trueTexts.any fun text => sameIgnoringCase value (bytes text) then .ok true
      else if falseTexts.any fun text => sameIgnoringCase value (bytes text) then .ok false
      else .error "invalid boolean environment value"

def parseRequiredExactMatch (destination : Bool) : Except String Bool := do
  let value ← parseBoolEnvironment env "TCD_KPM_REQUIRE_EXACTLY_ONE_MATCH" destination
  if value then return value
  else .error "COLLECTOR-01 requires exactly one matching E2 node"

/-- `tcd_kpm_collector_config_load_environment`. -/
def loadEnvironment (config : LoadedConfig) : Except String LoadedConfig := do
  let nodeType ← copyEnvironmentString env "TCD_KPM_NODE_TYPE" config.nodeType
  let nodeId ← copyNodeId env config.nodeId
  let requireExactlyOneMatch ← parseRequiredExactMatch env config.requireExactlyOneMatch
  let discoveryTimeoutSeconds ← parseU32Environment env "TCD_KPM_DISCOVERY_TIMEOUT_SECONDS" 1 300
    config.discoveryTimeoutSeconds
  let discoveryPollMs ← parseU32Environment env "TCD_KPM_DISCOVERY_POLL_MS" 10 5000
    config.discoveryPollMs
  let subscriptionPeriodMs ← parseU32Environment env "TCD_KPM_SUBSCRIPTION_PERIOD_MS" 1 60000
    config.subscriptionPeriodMs
  let maxIndications ← parseU64Environment env "TCD_KPM_MAX_INDICATIONS" 0 1000000000
    config.maxIndications
  let durationSeconds ← parseU32Environment env "TCD_KPM_DURATION_SECONDS" 0 86400
    config.durationSeconds
  let structuredDebugStderr ← parseBoolEnvironment env "TCD_KPM_STRUCTURED_DEBUG_STDERR"
    config.structuredDebugStderr
  let loaded : LoadedConfig := {
    nodeType, nodeId, requireExactlyOneMatch, discoveryTimeoutSeconds, discoveryPollMs
    subscriptionPeriodMs, maxIndications, durationSeconds, structuredDebugStderr }
  if hasFiniteLimit loaded then return loaded
  else .error "at least one runtime bound must be non-zero"

/-! ### What the variables say -/

/-- A numeric variable that is not set leaves the default; one that is set is blanks, a sign and
digits, and the number `strtoul` makes of them lies within the bounds. -/
def Numeric (name : String) (minimum maximum default value : ℕ) : Prop :=
  (env.getenv name = none ∧ value = default) ∨
    ∃ text negative magnitude, env.getenv name = some text ∧ SpellsNumber text negative magnitude ∧
      magnitude < 2 ^ 64 ∧ value = unsignedValue negative magnitude ∧
      minimum ≤ value ∧ value ≤ maximum

def Switch (name : String) (default value : Bool) : Prop :=
  (env.getenv name = none ∧ value = default) ∨
    ∃ text, env.getenv name = some text ∧
      (value = true ∧ (∃ t ∈ trueTexts, sameIgnoringCase text (bytes t) = true) ∨
        value = false ∧ ∃ t ∈ falseTexts, sameIgnoringCase text (bytes t) = true)

/-- A text variable, of a length in the given range where it is set. -/
def TextFits (name : String) (minimum capacity : ℕ) : Prop :=
  ∀ text, env.getenv name = some text → minimum ≤ text.length ∧ text.length < capacity

/-- The checks of the loader in their order, with their messages. -/
def environmentDemands : List (Demand String) := [
  ⟨TextFits env "TCD_KPM_NODE_TYPE" 1 nodeTypeSelectorCapacity, "invalid environment string"⟩,
  ⟨TextFits env "TCD_KPM_NODE_ID" 0 nodeSelectorCapacity, "node identifier is too long"⟩,
  ⟨∃ value, Switch env "TCD_KPM_REQUIRE_EXACTLY_ONE_MATCH" true value,
    "invalid boolean environment value"⟩,
  ⟨Switch env "TCD_KPM_REQUIRE_EXACTLY_ONE_MATCH" true true,
    "COLLECTOR-01 requires exactly one matching E2 node"⟩,
  ⟨∃ value, Numeric env "TCD_KPM_DISCOVERY_TIMEOUT_SECONDS" 1 300 10 value,
    "invalid unsigned environment value"⟩,
  ⟨∃ value, Numeric env "TCD_KPM_DISCOVERY_POLL_MS" 10 5000 200 value,
    "invalid unsigned environment value"⟩,
  ⟨∃ value, Numeric env "TCD_KPM_SUBSCRIPTION_PERIOD_MS" 1 60000 1000 value,
    "invalid unsigned environment value"⟩,
  ⟨∃ value, Numeric env "TCD_KPM_MAX_INDICATIONS" 0 1000000000 10 value,
    "invalid 64-bit environment value"⟩,
  ⟨∃ value, Numeric env "TCD_KPM_DURATION_SECONDS" 0 86400 30 value,
    "invalid unsigned environment value"⟩,
  ⟨∃ value, Switch env "TCD_KPM_STRUCTURED_DEBUG_STDERR" false value,
    "invalid boolean environment value"⟩,
  ⟨∃ value, (Numeric env "TCD_KPM_MAX_INDICATIONS" 0 1000000000 10 value ∨
      Numeric env "TCD_KPM_DURATION_SECONDS" 0 86400 30 value) ∧ 0 < value,
    "at least one runtime bound must be non-zero"⟩]

/-- Every field is what its variable says. -/
structure Described (config : LoadedConfig) : Prop where
  nodeType : config.nodeType.cString = (env.getenv "TCD_KPM_NODE_TYPE").getD (bytes "gNB_DU")
  nodeId : config.nodeId.cString = (env.getenv "TCD_KPM_NODE_ID").getD []
  requireExactlyOneMatch : config.requireExactlyOneMatch = true
  discoveryTimeoutSeconds : Numeric env "TCD_KPM_DISCOVERY_TIMEOUT_SECONDS" 1 300 10
    config.discoveryTimeoutSeconds.toNat
  discoveryPollMs : Numeric env "TCD_KPM_DISCOVERY_POLL_MS" 10 5000 200 config.discoveryPollMs.toNat
  subscriptionPeriodMs : Numeric env "TCD_KPM_SUBSCRIPTION_PERIOD_MS" 1 60000 1000
    config.subscriptionPeriodMs.toNat
  maxIndications : Numeric env "TCD_KPM_MAX_INDICATIONS" 0 1000000000 10 config.maxIndications.toNat
  durationSeconds : Numeric env "TCD_KPM_DURATION_SECONDS" 0 86400 30 config.durationSeconds.toNat
  structuredDebugStderr : Switch env "TCD_KPM_STRUCTURED_DEBUG_STDERR" false
    config.structuredDebugStderr
  bounded : 0 < config.maxIndications.toNat ∨ 0 < config.durationSeconds.toNat

end

/-! ### Each parser -/

section
variable {env : Environment} {name : String} {n : ℕ}

theorem Numeric.range {minimum maximum default value : ℕ} (hlow : minimum ≤ default)
    (hhigh : default ≤ maximum) (h : Numeric env name minimum maximum default value) :
    minimum ≤ value ∧ value ≤ maximum := by
  rcases h with ⟨-, rfl⟩ | ⟨_, _, _, -, -, -, -, hrange⟩
  · exact ⟨hlow, hhigh⟩
  · exact hrange

theorem Numeric.unique {minimum maximum default value value' : ℕ}
    (h : Numeric env name minimum maximum default value)
    (h' : Numeric env name minimum maximum default value') : value = value' := by
  rcases h with ⟨hnone, rfl⟩ | ⟨text, negative, magnitude, hget, hd, -, rfl, -⟩
  · rcases h' with ⟨-, rfl⟩ | ⟨_, _, _, hget', -⟩
    · rfl
    · rw [hnone] at hget'
      cases hget'
  · rcases h' with ⟨hnone, -⟩ | ⟨text', negative', magnitude', hget', hd', -, rfl, -⟩
    · rw [hnone] at hget
      cases hget
    · obtain rfl := Option.some.inj (hget.symm.trans hget')
      obtain ⟨rfl, rfl⟩ := hd.unique hd'
      rfl

/-- What a conversion behind all tests says about the text. -/
theorem numeric_of_whole {text : List UInt8} {minimum maximum default : ℕ}
    (hget : env.getenv name = some text) (hwhole : (strtoul text).whole = true)
    (hlow : minimum ≤ (strtoul text).value.toNat) (hhigh : (strtoul text).value.toNat ≤ maximum) :
    Numeric env name minimum maximum default (strtoul text).value.toNat := by
  obtain ⟨negative, magnitude, hd, hlt, hvalue⟩ := strtoul_whole_iff.mp ⟨hwhole, rfl⟩
  exact .inr ⟨text, negative, magnitude, hget, hd, hlt, hvalue.symm, hlow, hhigh⟩

theorem whole_of_numeric {text : List UInt8} {minimum maximum default value : ℕ}
    (hget : env.getenv name = some text) (h : Numeric env name minimum maximum default value) :
    (strtoul text).whole = true ∧ minimum ≤ (strtoul text).value.toNat ∧
      (strtoul text).value.toNat ≤ maximum := by
  rcases h with ⟨hnone, -⟩ | ⟨text', negative, magnitude, hget', hd, hlt, rfl, hlow, hhigh⟩
  · rw [hnone] at hget
    cases hget
  · obtain rfl := Option.some.inj (hget'.symm.trans hget)
    obtain ⟨hwhole, hvalue⟩ := strtoul_whole_iff.mpr ⟨negative, magnitude, hd, hlt, rfl⟩
    exact ⟨hwhole, hvalue ▸ hlow, hvalue ▸ hhigh⟩

theorem u32_refused_iff {parsed : Converted UInt64} {minimum maximum : UInt32} :
    (!parsed.whole ∨ parsed.value > 4294967295 ∨ parsed.value < minimum.toUInt64 ∨
      parsed.value > maximum.toUInt64) ↔ ¬ (parsed.whole = true ∧
        minimum.toNat ≤ parsed.value.toNat ∧ parsed.value.toNat ≤ maximum.toNat) := by
  have hmax := maximum.toNat_lt
  have hlimit : (4294967295 : UInt64).toNat = 4294967295 := rfl
  cases parsed.whole <;>
    simp only [gt_iff_lt, UInt64.lt_iff_toNat_lt, UInt32.toNat_toUInt64, hlimit, Bool.not_true,
      Bool.not_false, Bool.false_eq_true, true_or, false_or, true_and, false_and, not_false_iff]
  omega

theorem u64_refused_iff {parsed : Converted UInt64} {minimum maximum : UInt64} :
    (!parsed.whole ∨ parsed.value < minimum ∨ parsed.value > maximum) ↔
      ¬ (parsed.whole = true ∧ minimum.toNat ≤ parsed.value.toNat ∧
        parsed.value.toNat ≤ maximum.toNat) := by
  cases parsed.whole <;>
    simp only [gt_iff_lt, UInt64.lt_iff_toNat_lt, Bool.not_true, Bool.not_false,
      Bool.false_eq_true, true_or, false_or, true_and, false_and, not_false_iff]
  omega

theorem validates_parseU32 {minimum maximum destination : UInt32} :
    Validates [⟨∃ value, Numeric env name minimum.toNat maximum.toNat destination.toNat value,
      "invalid unsigned environment value"⟩]
      (parseU32Environment env name minimum maximum destination) := by
  unfold parseU32Environment
  cases hget : env.getenv name with
  | none => exact validates_single (fun _ => ⟨_, rfl⟩) fun h => absurd ⟨_, .inl ⟨hget, rfl⟩⟩ h
  | some text =>
    apply validates_single
    · rintro ⟨value, h⟩
      exact ⟨_, if_neg fun hbad => u32_refused_iff.mp hbad (whole_of_numeric hget h)⟩
    · intro h
      exact if_pos (u32_refused_iff.mpr fun hgood =>
        h ⟨_, numeric_of_whole hget hgood.1 hgood.2.1 hgood.2.2⟩)

theorem numeric_parseU32 {minimum maximum destination value : UInt32}
    (h : parseU32Environment env name minimum maximum destination = .ok value) :
    Numeric env name minimum.toNat maximum.toNat destination.toNat value.toNat := by
  unfold parseU32Environment at h
  cases hget : env.getenv name with
  | none =>
    rw [hget] at h
    obtain rfl := Except.ok.inj h
    exact .inl ⟨hget, rfl⟩
  | some text =>
    rw [hget] at h
    simp only at h
    split_ifs at h with hbad
    obtain rfl := Except.ok.inj h
    obtain ⟨hwhole, hlow, hhigh⟩ := not_not.mp (u32_refused_iff.not.mp hbad)
    have hmax := maximum.toNat_lt
    have hsame : (strtoul text).value.toUInt32.toNat = (strtoul text).value.toNat := by
      rw [UInt64.toNat_toUInt32]
      omega
    rw [hsame]
    exact numeric_of_whole hget hwhole hlow hhigh

theorem validates_parseU64 {minimum maximum destination : UInt64} :
    Validates [⟨∃ value, Numeric env name minimum.toNat maximum.toNat destination.toNat value,
      "invalid 64-bit environment value"⟩]
      (parseU64Environment env name minimum maximum destination) := by
  unfold parseU64Environment
  cases hget : env.getenv name with
  | none => exact validates_single (fun _ => ⟨_, rfl⟩) fun h => absurd ⟨_, .inl ⟨hget, rfl⟩⟩ h
  | some text =>
    apply validates_single
    · rintro ⟨value, h⟩
      exact ⟨_, if_neg fun hbad => u64_refused_iff.mp hbad (whole_of_numeric hget h)⟩
    · intro h
      exact if_pos (u64_refused_iff.mpr fun hgood =>
        h ⟨_, numeric_of_whole hget hgood.1 hgood.2.1 hgood.2.2⟩)

theorem numeric_parseU64 {minimum maximum destination value : UInt64}
    (h : parseU64Environment env name minimum maximum destination = .ok value) :
    Numeric env name minimum.toNat maximum.toNat destination.toNat value.toNat := by
  unfold parseU64Environment at h
  cases hget : env.getenv name with
  | none =>
    rw [hget] at h
    obtain rfl := Except.ok.inj h
    exact .inl ⟨hget, rfl⟩
  | some text =>
    rw [hget] at h
    simp only at h
    split_ifs at h with hbad
    obtain rfl := Except.ok.inj h
    obtain ⟨hwhole, hlow, hhigh⟩ := not_not.mp (u64_refused_iff.not.mp hbad)
    exact numeric_of_whole hget hwhole hlow hhigh

theorem validates_parseBool {destination : Bool} :
    Validates [⟨∃ value, Switch env name destination value, "invalid boolean environment value"⟩]
      (parseBoolEnvironment env name destination) := by
  unfold parseBoolEnvironment
  cases hget : env.getenv name with
  | none => exact validates_single (fun _ => ⟨_, rfl⟩) fun h => absurd ⟨_, .inl ⟨hget, rfl⟩⟩ h
  | some text =>
    simp only
    split_ifs with htrue hfalse
    · exact validates_single (fun _ => ⟨_, rfl⟩) fun h =>
        absurd ⟨true, .inr ⟨text, hget, .inl ⟨rfl, List.any_eq_true.mp htrue⟩⟩⟩ h
    · exact validates_single (fun _ => ⟨_, rfl⟩) fun h =>
        absurd ⟨false, .inr ⟨text, hget, .inr ⟨rfl, List.any_eq_true.mp hfalse⟩⟩⟩ h
    · refine validates_single (fun h => ?_) fun _ => rfl
      obtain ⟨value, ⟨hnone, -⟩ | ⟨text', hget', hmeans⟩⟩ := h
      · rw [hnone] at hget
        cases hget
      · obtain rfl := Option.some.inj (hget'.symm.trans hget)
        rcases hmeans with ⟨-, h⟩ | ⟨-, h⟩
        · exact absurd (List.any_eq_true.mpr h) htrue
        · exact absurd (List.any_eq_true.mpr h) hfalse

theorem switch_parseBool {destination value : Bool}
    (h : parseBoolEnvironment env name destination = .ok value) :
    Switch env name destination value := by
  unfold parseBoolEnvironment at h
  cases hget : env.getenv name with
  | none =>
    rw [hget] at h
    obtain rfl := Except.ok.inj h
    exact .inl ⟨hget, rfl⟩
  | some text =>
    rw [hget] at h
    simp only at h
    split_ifs at h with htrue hfalse
    · obtain rfl := Except.ok.inj h
      exact .inr ⟨text, hget, .inl ⟨rfl, List.any_eq_true.mp htrue⟩⟩
    · obtain rfl := Except.ok.inj h
      exact .inr ⟨text, hget, .inr ⟨rfl, List.any_eq_true.mp hfalse⟩⟩

/-- No text is both. -/
theorem switchTexts_disjoint : ∀ t ∈ trueTexts, ∀ t' ∈ falseTexts,
    (bytes t).map lowerByte ≠ (bytes t').map lowerByte := by decide

theorem Switch.unique {default value value' : Bool} (h : Switch env name default value)
    (h' : Switch env name default value') : value = value' := by
  rcases h with ⟨hnone, rfl⟩ | ⟨text, hget, hmeans⟩
  · rcases h' with ⟨-, rfl⟩ | ⟨_, hget', -⟩
    · rfl
    · rw [hnone] at hget'
      cases hget'
  · rcases h' with ⟨hnone, -⟩ | ⟨text', hget', hmeans'⟩
    · rw [hnone] at hget
      cases hget
    · obtain rfl := Option.some.inj (hget.symm.trans hget')
      simp only [sameIgnoringCase, decide_eq_true_eq] at hmeans hmeans'
      rcases hmeans with ⟨rfl, t, ht, hsame⟩ | ⟨rfl, t, ht, hsame⟩
      · rcases hmeans' with ⟨rfl, -⟩ | ⟨-, t', ht', hsame'⟩
        · rfl
        · exact absurd (hsame.symm.trans hsame') (switchTexts_disjoint t ht t' ht')
      · rcases hmeans' with ⟨-, t', ht', hsame'⟩ | ⟨rfl, -⟩
        · exact absurd (hsame'.symm.trans hsame) (switchTexts_disjoint t' ht' t ht)
        · rfl

theorem validates_requiredExactMatch :
    Validates [⟨∃ value, Switch env "TCD_KPM_REQUIRE_EXACTLY_ONE_MATCH" true value,
        "invalid boolean environment value"⟩,
      ⟨Switch env "TCD_KPM_REQUIRE_EXACTLY_ONE_MATCH" true true,
        "COLLECTOR-01 requires exactly one matching E2 node"⟩]
      (parseRequiredExactMatch env true) := by
  refine validates_parseBool.bind fun value hvalue => ?_
  have hswitch := switch_parseBool hvalue
  cases value with
  | true => exact validates_single (fun _ => ⟨_, rfl⟩) fun h => absurd hswitch h
  | false => exact validates_single (fun h => absurd (h.unique hswitch) (by decide)) fun _ => rfl

theorem requiredExactMatch_ok {value : Bool} (h : parseRequiredExactMatch env true = .ok value) :
    value = true := by
  obtain ⟨read, -, hread⟩ := bind_eq_ok.mp h
  cases read with
  | true => exact (Except.ok.inj hread).symm
  | false => cases hread

theorem validates_copyText {minimum : ℕ} {error : String} {destination : CharArray n} :
    Validates [⟨TextFits env name minimum n, error⟩] (copyText env name minimum error destination) := by
  unfold copyText
  cases hget : env.getenv name with
  | none =>
    refine validates_single (fun _ => ⟨_, rfl⟩) fun h => absurd (fun text htext => ?_) h
    rw [hget] at htext
    cases htext
  | some text =>
    apply validates_single
    · intro h
      have hfits := h text hget
      exact ⟨_, if_neg (by omega)⟩
    · intro h
      refine if_pos ?_
      by_contra hnot
      refine h fun text' htext => ?_
      obtain rfl := Option.some.inj (hget.symm.trans htext)
      omega

/-- A value that fits is copied whole. -/
theorem cString_stored {value : List UInt8} {destination : CharArray n}
    (hget : env.getenv name = some value) (hfits : value.length < n) :
    (destination.store value).cString = value := by
  rw [CharArray.cString_store destination (by omega) (env.noNul hget),
    List.take_of_length_le (by omega)]

theorem copyText_cString {minimum : ℕ} {error : String} {destination result : CharArray n}
    (h : copyText env name minimum error destination = .ok result) :
    result.cString = (env.getenv name).getD destination.cString := by
  unfold copyText at h
  cases hget : env.getenv name with
  | none =>
    rw [hget] at h
    obtain rfl := Except.ok.inj h
    rfl
  | some value =>
    rw [hget] at h
    simp only at h
    split_ifs at h with hbad
    obtain rfl := Except.ok.inj h
    exact cString_stored hget (by omega)

end

/-! ### The whole environment -/

theorem defaults_nodeType : configDefaults.nodeType.cString = bytes "gNB_DU" := by
  rw [configDefaults, CharArray.cString_store _ (by decide) (by decide)]
  decide

theorem defaults_nodeId : configDefaults.nodeId.cString = [] := by
  rw [CharArray.cString_eq_nil_iff _ (by decide)]
  decide

variable {env : Environment} {c : LoadedConfig}

theorem hasFiniteLimit_iff {config : LoadedConfig} : hasFiniteLimit config = true ↔
    0 < config.maxIndications.toNat ∨ 0 < config.durationSeconds.toNat := by
  simp only [hasFiniteLimit, Bool.or_eq_true, decide_eq_true_eq, gt_iff_lt,
    UInt64.lt_iff_toNat_lt, UInt32.lt_iff_toNat_lt]
  rfl

/-- The last check, on the two bounds that have been read. -/
theorem validates_finite {loaded : LoadedConfig}
    (hmax : Numeric env "TCD_KPM_MAX_INDICATIONS" 0 1000000000 10 loaded.maxIndications.toNat)
    (hduration : Numeric env "TCD_KPM_DURATION_SECONDS" 0 86400 30 loaded.durationSeconds.toNat) :
    Validates [⟨∃ value, (Numeric env "TCD_KPM_MAX_INDICATIONS" 0 1000000000 10 value ∨
        Numeric env "TCD_KPM_DURATION_SECONDS" 0 86400 30 value) ∧ 0 < value,
      "at least one runtime bound must be non-zero"⟩]
      (if hasFiniteLimit loaded then pure loaded
        else .error "at least one runtime bound must be non-zero" : Except String LoadedConfig) := by
  apply validates_single
  · rintro ⟨value, hvalue | hvalue, hpos⟩
    · exact ⟨_, if_pos (hasFiniteLimit_iff.mpr (.inl (hvalue.unique hmax ▸ hpos)))⟩
    · exact ⟨_, if_pos (hasFiniteLimit_iff.mpr (.inr (hvalue.unique hduration ▸ hpos)))⟩
  · intro h
    refine if_neg fun hlimit => h ?_
    rcases hasFiniteLimit_iff.mp hlimit with hpos | hpos
    · exact ⟨_, .inl hmax, hpos⟩
    · exact ⟨_, .inr hduration, hpos⟩

theorem validates_loadEnvironment :
    Validates (environmentDemands env) (loadEnvironment env configDefaults) := by
  refine validates_copyText.bind fun nodeType _ => ?_
  refine validates_copyText.bind fun nodeId _ => ?_
  refine validates_requiredExactMatch.bind fun exactlyOne _ => ?_
  refine validates_parseU32.bind fun timeout _ => ?_
  refine validates_parseU32.bind fun poll _ => ?_
  refine validates_parseU32.bind fun period _ => ?_
  refine validates_parseU64.bind fun maximum hmax => ?_
  refine validates_parseU32.bind fun duration hduration => ?_
  refine validates_parseBool.bind fun debug _ => ?_
  exact validates_finite (numeric_parseU64 hmax) (numeric_parseU32 hduration)

theorem described_of_load (h : loadEnvironment env configDefaults = .ok c) : Described env c := by
  obtain ⟨nodeType, htype, h⟩ := bind_eq_ok.mp h
  obtain ⟨nodeId, hid, h⟩ := bind_eq_ok.mp h
  obtain ⟨exactlyOne, hone, h⟩ := bind_eq_ok.mp h
  obtain ⟨timeout, htimeout, h⟩ := bind_eq_ok.mp h
  obtain ⟨poll, hpoll, h⟩ := bind_eq_ok.mp h
  obtain ⟨period, hperiod, h⟩ := bind_eq_ok.mp h
  obtain ⟨maximum, hmax, h⟩ := bind_eq_ok.mp h
  obtain ⟨duration, hduration, h⟩ := bind_eq_ok.mp h
  obtain ⟨debug, hdebug, h⟩ := bind_eq_ok.mp h
  simp only at h
  split_ifs at h with hlimit
  obtain rfl := Except.ok.inj h
  exact {
    nodeType := by rw [copyText_cString htype, defaults_nodeType]
    nodeId := by rw [copyText_cString hid, defaults_nodeId]
    requireExactlyOneMatch := requiredExactMatch_ok hone
    discoveryTimeoutSeconds := numeric_parseU32 htimeout
    discoveryPollMs := numeric_parseU32 hpoll
    subscriptionPeriodMs := numeric_parseU32 hperiod
    maxIndications := numeric_parseU64 hmax
    durationSeconds := numeric_parseU32 hduration
    structuredDebugStderr := switch_parseBool hdebug
    bounded := hasFiniteLimit_iff.mp hlimit }

/-- The loader takes an environment exactly when every variable passes its check, it names the
first one that does not, and the configuration it gives says what the variables say. -/
theorem environment_loaded (env : Environment) :
    Validates (environmentDemands env) (loadEnvironment env configDefaults) ∧
      ∀ c, loadEnvironment env configDefaults = .ok c → Described env c :=
  ⟨validates_loadEnvironment, fun _ h => described_of_load h⟩

end TcdOran.Collector
