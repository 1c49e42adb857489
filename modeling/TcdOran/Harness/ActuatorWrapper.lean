import TcdOran.Lib.Attempt
import TcdOran.Lib.Python
import TcdOran.Lib.Validation

/-! prompt12-production-actuator-wrapper.py: the one run of the container of the actuator. -/
namespace TcdOran.Harness.ActuatorWrapper
open TcdOran.Lib Python
open Attempt (outcome)

def ratioEnv : List ℕ := chars "SCI_ORAN_MAX_PRB_RATIO"

def allowedRatioTexts : List (List ℕ) := [chars "25", chars "50", chars "75", chars "100"]

def executionImage : List ℕ :=
  chars "sha256:02a7181afaf1cb5892bbaaaeb3808e9db9bcb7594fa48396e3da56e210bc60bb"

def executionNetwork : List ℕ := chars "tcd-base05-zmq_ran"

def actuatorBinarySource : List ℕ :=
  chars "/home/khoshaba/sci-oran/build/prompt12-actuator-bfd1a35b/build/examples/xApp/c/control/" ++
    chars "xapp_oran_slice_ctrl"

def actuatorBinarySha256 : List ℕ :=
  chars "de71dcc0298c50c433828ec80be60bd68447ad6ef2912b2dcf3da65e10d4700f"

def actuatorBinaryDestination : List ℕ := chars "/opt/action11r/canonical-actuator"

def xappConfigSource : List ℕ :=
  chars "/home/khoshaba/project/tcd-oran-testbed-integration/" ++
    chars "deploy/phase-2-flexric/tb3-runtime/configs/ric.conf"

def xappConfigSha256 : List ℕ :=
  chars "940d8e1a87b8e937fea3678ca9fc47dd765f3bdf9f68f731cf6d2d47dda8be68"

def xappConfigDestination : List ℕ := chars "/opt/action11r/xapp_oran_sm.conf"

def actuatorArguments : List (List ℕ) := [chars "-c", chars "/opt/action11r/xapp_oran_sm.conf"]

def containerPrefixText : List ℕ := chars "prompt12-siso-actuator-v2"

/-- What the checks of a file see. `sha256` is `none` where the file cannot be read. -/
structure FileIdentity where
  present : Bool
  isSymlink : Bool
  isFile : Bool
  executable : Bool
  sha256 : Option (List ℕ)

/-- What `shutil.which("docker")` finds. -/
structure DockerClient where
  path : List ℕ
  isFile : Bool
  executable : Bool

structure CommandResult where
  returncode : ℤ
  stdout : List ℕ
  stderr : List ℕ

def isHexDigit (u : ℕ) : Bool := (48 ≤ u ∧ u ≤ 57) ∨ (97 ≤ u ∧ u ≤ 102)

/-- What a run of the wrapper meets. The three results are those of its commands, where the call
does not raise; `uuid` is what `uuid.uuid4().hex` gives. -/
structure WrapperHost where
  environ : List ℕ → Option (List ℕ)
  binary : FileIdentity
  config : FileIdentity
  docker : Option DockerClient
  imageInspect : Option CommandResult
  networkInspect : Option CommandResult
  dockerRun : Option CommandResult
  uuid : List ℕ
  uuid_hex : uuid.length = 32 ∧ ∀ u ∈ uuid, isHexDigit u = true

inductive WrapperError
  | refused (code : String)
  | uncaught
  deriving DecidableEq

/-- The arguments of each command run. -/
abbrev Commands := List (List (List ℕ))

abbrev Wrapper := Attempt Commands WrapperError

def demand (holds : Bool) (code : String) : Except WrapperError Unit :=
  require holds (.refused code)

def validateRatio (host : WrapperHost) : Except WrapperError (List ℕ) :=
  match host.environ ratioEnv with
  | none => .error (.refused "RATIO_ENV_MISSING")
  | some raw => do
      demand (raw ∈ allowedRatioTexts) "RATIO_ENV_INVALID"
      return raw

/-- `validate_regular_file_identity` of a path that is absolute. -/
def validateRegularFileIdentity (file : FileIdentity) (expectedSha256 : List ℕ)
    (requireExecutable : Bool) (label : String) : Except WrapperError (List ℕ) := do
  demand file.present (label ++ "_MISSING")
  demand (!file.isSymlink) (label ++ "_SYMLINK_PROHIBITED")
  demand file.isFile (label ++ "_NOT_REGULAR_FILE")
  demand (!requireExecutable || file.executable) (label ++ "_NOT_EXECUTABLE")
  match file.sha256 with
  | none => .error .uncaught
  | some actual => do
      demand (actual = expectedSha256) (label ++ "_SHA256_MISMATCH")
      return actual

def isAbsolute (path : List ℕ) : Bool := path.head? = some 47

def resolveDocker (host : WrapperHost) : Except WrapperError (List ℕ) :=
  match host.docker with
  | none => .error (.refused "DOCKER_CLIENT_MISSING")
  | some client => do
      demand (isAbsolute client.path) "DOCKER_CLIENT_PATH_NOT_ABSOLUTE"
      demand client.isFile "DOCKER_CLIENT_NOT_REGULAR_FILE"
      demand client.executable "DOCKER_CLIENT_NOT_EXECUTABLE"
      return client.path

def runCommand (argv : List (List ℕ)) (result : Option CommandResult) : Wrapper CommandResult := do
  modify (· ++ [argv])
  match result with
  | none => throw .uncaught
  | some result => return result

def runProbe (argv : List (List ℕ)) (result : Option CommandResult) (failureCode : String) :
    Wrapper Unit := do
  let result ← runCommand argv result
  if result.returncode ≠ 0 then throw (.refused failureCode)

def imageInspectArgv (docker : List ℕ) : List (List ℕ) :=
  [docker, chars "image", chars "inspect", executionImage]

def networkInspectArgv (docker : List ℕ) : List (List ℕ) :=
  [docker, chars "network", chars "inspect", executionNetwork]

def validateImageAndNetwork (host : WrapperHost) (docker : List ℕ) : Wrapper Unit := do
  runProbe (imageInspectArgv docker) host.imageInspect "DOCKER_IMAGE_MISSING"
  runProbe (networkInspectArgv docker) host.networkInspect "DOCKER_NETWORK_MISSING"

def invocationCharacter (u : ℕ) : Bool :=
  (97 ≤ u ∧ u ≤ 122) ∨ (65 ≤ u ∧ u ≤ 90) ∨ (48 ≤ u ∧ u ≤ 57) ∨ u = 45 ∨ u = 95

def validateInvocationId (value : List ℕ) : Except WrapperError (List ℕ) := do
  demand (value ≠ []) "INVOCATION_ID_INVALID"
  demand (value.all invocationCharacter) "INVOCATION_ID_INVALID"
  demand (value.length ≤ 48) "INVOCATION_ID_INVALID"
  return value

/-- `container_name` of an identifier that has been validated. -/
def containerName (invocationId : List ℕ) : List ℕ :=
  containerPrefixText ++ chars "-" ++ invocationId

def readonlyBindMount (source destination : List ℕ) : List ℕ :=
  chars "type=bind,src=" ++ source ++ chars ",dst=" ++ destination ++ chars ",readonly"

def buildDockerRunArgv (docker ratio invocationId : List ℕ) : List (List ℕ) :=
  [docker, chars "run", chars "--name", containerName invocationId,
    chars "--network", executionNetwork, chars "--restart", chars "no",
    chars "--security-opt", chars "no-new-privileges",
    chars "--env", ratioEnv ++ chars "=" ++ ratio,
    chars "--mount", readonlyBindMount actuatorBinarySource actuatorBinaryDestination,
    chars "--mount", readonlyBindMount xappConfigSource xappConfigDestination,
    chars "--entrypoint", actuatorBinaryDestination, executionImage] ++ actuatorArguments

inductive WrapperGate
  | pass | fail
  deriving DecidableEq

/-- The evidence, its constants aside. A refused run has the first three. -/
structure WrapperEvidence where
  gate : WrapperGate
  error : Option String
  dockerExecutionAttemptCount : ℕ
  requestedRatioPct : ℕ
  invocationId : List ℕ
  dockerPath : List ℕ
  actuatorBinarySha256 : List ℕ
  xappConfigSha256 : List ℕ
  dockerArgv : List (List ℕ)
  result : Option CommandResult

/-- The lines of `execute` in front of its first command: the ratio, both digests and the client. -/
def checkHost (host : WrapperHost) :
    Except WrapperError (List ℕ × List ℕ × List ℕ × List ℕ) := do
  let ratio ← validateRatio host
  let actuatorSha ←
    validateRegularFileIdentity host.binary actuatorBinarySha256 true "ACTUATOR_BINARY"
  let configSha ← validateRegularFileIdentity host.config xappConfigSha256 false "XAPP_CONFIG"
  let docker ← resolveDocker host
  demand (isAbsolute docker) "DOCKER_CLIENT_PATH_NOT_ABSOLUTE"
  return (ratio, actuatorSha, configSha, docker)

def runEvidence (ratio actuatorSha configSha docker invocationId : List ℕ) (result : CommandResult) :
    WrapperEvidence where
  gate := if result.returncode = 0 then .pass else .fail
  error := if result.returncode = 0 then none else some "ACTUATOR_EXECUTION_FAILED"
  dockerExecutionAttemptCount := 1
  requestedRatioPct := digitsValue ratio
  invocationId
  dockerPath := docker
  actuatorBinarySha256 := actuatorSha
  xappConfigSha256 := configSha
  dockerArgv := buildDockerRunArgv docker ratio invocationId
  result := some result

/-- `execute`, and the return code of the container. -/
def execute (host : WrapperHost) : Wrapper (WrapperEvidence × ℤ) := do
  let (ratio, actuatorSha, configSha, docker) ← Attempt.ofExcept (checkHost host)
  validateImageAndNetwork host docker
  let invocationId ← Attempt.ofExcept (validateInvocationId host.uuid)
  let result ← runCommand (buildDockerRunArgv docker ratio invocationId) host.dockerRun
  return (runEvidence ratio actuatorSha configSha docker invocationId result, result.returncode)

def failureEvidence (code : String) : WrapperEvidence :=
  ⟨.fail, some code, 0, 0, [], [], [], [], [], none⟩

/-- What `main` prints and returns where `execute` raises. -/
def failureReport : WrapperError → Option WrapperEvidence × ℤ
  | .refused code => (some (failureEvidence code), 2)
  | .uncaught => (none, 1)

/-- What `main` prints, and what it returns. An exception that is not caught ends the process. -/
def wrapperMain (host : WrapperHost) : Option WrapperEvidence × ℤ × Commands :=
  match outcome (execute host) [] with
  | (.ok (evidence, returncode), commands) => (some evidence, returncode, commands)
  | (.error e, commands) => ((failureReport e).1, (failureReport e).2, commands)

/-! ### The demands on a host -/

def identityDemands (file : FileIdentity) (expectedSha256 : List ℕ) (requireExecutable : Bool)
    (label : String) : List (Demand WrapperError) := [
  ⟨file.present = true, .refused (label ++ "_MISSING")⟩,
  ⟨(!file.isSymlink) = true, .refused (label ++ "_SYMLINK_PROHIBITED")⟩,
  ⟨file.isFile = true, .refused (label ++ "_NOT_REGULAR_FILE")⟩,
  ⟨(!requireExecutable || file.executable) = true, .refused (label ++ "_NOT_EXECUTABLE")⟩,
  ⟨file.sha256 ≠ none, .uncaught⟩,
  ⟨∀ actual ∈ file.sha256, actual = expectedSha256, .refused (label ++ "_SHA256_MISMATCH")⟩]

def ratioDemands (host : WrapperHost) : List (Demand WrapperError) := [
  ⟨host.environ ratioEnv ≠ none, .refused "RATIO_ENV_MISSING"⟩,
  ⟨∀ ratio ∈ host.environ ratioEnv, ratio ∈ allowedRatioTexts, .refused "RATIO_ENV_INVALID"⟩]

def dockerDemands (host : WrapperHost) : List (Demand WrapperError) := [
  ⟨host.docker ≠ none, .refused "DOCKER_CLIENT_MISSING"⟩,
  ⟨∀ client ∈ host.docker, isAbsolute client.path = true,
    .refused "DOCKER_CLIENT_PATH_NOT_ABSOLUTE"⟩,
  ⟨∀ client ∈ host.docker, client.isFile = true, .refused "DOCKER_CLIENT_NOT_REGULAR_FILE"⟩,
  ⟨∀ client ∈ host.docker, client.executable = true, .refused "DOCKER_CLIENT_NOT_EXECUTABLE"⟩]

def checkDemands (host : WrapperHost) : List (Demand WrapperError) :=
  ratioDemands host ++
    (identityDemands host.binary actuatorBinarySha256 true "ACTUATOR_BINARY" ++
      (identityDemands host.config xappConfigSha256 false "XAPP_CONFIG" ++ dockerDemands host))

def probeDemands (result : Option CommandResult) (failureCode : String) :
    List (Demand WrapperError) :=
  [⟨result ≠ none, .uncaught⟩,
    ⟨∀ answer ∈ result, answer.returncode = 0, .refused failureCode⟩]

/-- The checks in front of the container, in their order. -/
def wrapperDemands (host : WrapperHost) : List (Demand WrapperError) :=
  checkDemands host ++ (probeDemands host.imageInspect "DOCKER_IMAGE_MISSING" ++
    probeDemands host.networkInspect "DOCKER_NETWORK_MISSING")

/-- The commands that run a container. -/
def containerRuns (commands : Commands) : Commands :=
  commands.filter fun argv => argv[1]? = some (chars "run")

/-! ### Each check -/

section
variable {host : WrapperHost}

theorem validates_demand {holds : Bool} {code : String} :
    Validates [⟨holds = true, .refused code⟩] (demand holds code) := validates_require

theorem demand_ok {holds : Bool} {code : String} (h : holds = true) : demand holds code = .ok () :=
  if_pos h

theorem validates_ratio : Validates (ratioDemands host) (validateRatio host) := by
  intro e
  unfold validateRatio ratioDemands
  rw [fails_cons]
  cases host.environ ratioEnv with
  | none => simp
  | some raw =>
    have h : (do demand (raw ∈ allowedRatioTexts) "RATIO_ENV_INVALID"; return raw) =
        .error e ↔ _ := (validates_demand.bind_pure fun _ => raw) e
    simpa [fails_cons] using h

theorem validateRatio_ok {ratio : List ℕ} (h : validateRatio host = .ok ratio) :
    host.environ ratioEnv = some ratio ∧ ratio ∈ allowedRatioTexts := by
  unfold validateRatio at h
  cases hraw : host.environ ratioEnv with
  | none =>
    rw [hraw] at h
    cases h
  | some raw =>
    rw [hraw] at h
    obtain ⟨_, hallowed, hsame⟩ := bind_eq_ok.mp h
    obtain rfl := Except.ok.inj hsame
    exact ⟨rfl, of_decide_eq_true (require_eq_ok.mp hallowed)⟩

theorem validates_identity {file : FileIdentity} {expectedSha256 : List ℕ} {requireExecutable : Bool}
    {label : String} : Validates (identityDemands file expectedSha256 requireExecutable label)
      (validateRegularFileIdentity file expectedSha256 requireExecutable label) := by
  refine validates_demand.bind fun _ _ => validates_demand.bind fun _ _ =>
    validates_demand.bind fun _ _ => validates_demand.bind fun _ _ => fun e => ?_
  rw [fails_cons]
  cases file.sha256 with
  | none => simp
  | some actual =>
    have h : (do demand (actual = expectedSha256) (label ++ "_SHA256_MISMATCH"); return actual) =
        .error e ↔ _ := (validates_demand.bind_pure fun _ => actual) e
    simpa [fails_cons] using h

theorem validates_docker : Validates (dockerDemands host) (resolveDocker host) := by
  intro e
  unfold resolveDocker dockerDemands
  rw [fails_cons]
  cases host.docker with
  | none => simp
  | some client =>
    have h := (@validates_demand (isAbsolute client.path)
      "DOCKER_CLIENT_PATH_NOT_ABSOLUTE").bind (f := fun _ => do
        demand client.isFile "DOCKER_CLIENT_NOT_REGULAR_FILE"
        demand client.executable "DOCKER_CLIENT_NOT_EXECUTABLE"
        return client.path) (fun _ _ => validates_demand.bind fun _ _ =>
          validates_demand.bind_pure fun _ => client.path) e
    simpa [fails_cons] using h

theorem resolveDocker_ok {docker : List ℕ} (h : resolveDocker host = .ok docker) :
    host.docker.map DockerClient.path = some docker ∧ isAbsolute docker = true := by
  unfold resolveDocker at h
  cases hclient : host.docker with
  | none =>
    rw [hclient] at h
    cases h
  | some client =>
    rw [hclient] at h
    obtain ⟨_, habsolute, h⟩ := bind_eq_ok.mp h
    obtain ⟨-, -, h⟩ := bind_eq_ok.mp h
    obtain ⟨-, -, h⟩ := bind_eq_ok.mp h
    obtain rfl := Except.ok.inj h
    exact ⟨rfl, require_eq_ok.mp habsolute⟩

theorem validates_checkHost : Validates (checkDemands host) (checkHost host) := by
  refine validates_ratio.bind fun ratio _ => validates_identity.bind fun actuatorSha _ =>
    validates_identity.bind fun configSha _ => ?_
  have hlast (docker : List ℕ) (h : resolveDocker host = .ok docker) : Validates [] (do
      demand (isAbsolute docker) "DOCKER_CLIENT_PATH_NOT_ABSOLUTE"
      return (ratio, actuatorSha, configSha, docker)) := by
    rw [demand_ok (resolveDocker_ok h).2]
    exact validates_ok _
  have hvalid := validates_docker.bind hlast
  rwa [List.append_nil] at hvalid

theorem validateInvocationId_uuid : validateInvocationId host.uuid = .ok host.uuid := by
  obtain ⟨hlength, hhex⟩ := host.uuid_hex
  have hne : host.uuid ≠ [] := by
    intro h
    rw [h] at hlength
    cases hlength
  have hall : host.uuid.all invocationCharacter = true := by
    rw [List.all_eq_true]
    intro u hu
    have hdigit := hhex u hu
    simp only [isHexDigit, invocationCharacter, decide_eq_true_eq] at hdigit ⊢
    omega
  unfold validateInvocationId
  rw [demand_ok (decide_eq_true hne), demand_ok hall, demand_ok (decide_eq_true (by omega))]
  rfl

/-! ### A run -/

theorem checkHost_ok {ratio actuatorSha configSha docker : List ℕ}
    (h : checkHost host = .ok (ratio, actuatorSha, configSha, docker)) :
    host.environ ratioEnv = some ratio ∧ ratio ∈ allowedRatioTexts ∧
      host.docker.map DockerClient.path = some docker := by
  obtain ⟨ratio', hratio, h⟩ := bind_eq_ok.mp h
  obtain ⟨_, -, h⟩ := bind_eq_ok.mp h
  obtain ⟨_, -, h⟩ := bind_eq_ok.mp h
  obtain ⟨docker', hdocker, h⟩ := bind_eq_ok.mp h
  obtain ⟨_, -, hsame⟩ := bind_eq_ok.mp h
  cases hsame
  obtain ⟨henviron, hallowed⟩ := validateRatio_ok hratio
  exact ⟨henviron, hallowed, (resolveDocker_ok hdocker).1⟩

theorem outcome_runCommand (argv : List (List ℕ)) (result : Option CommandResult)
    (commands : Commands) : outcome (runCommand argv result) commands =
      (result.elim (.error .uncaught) .ok, commands ++ [argv]) := by
  cases result <;> rfl

theorem outcome_runProbe (argv : List (List ℕ)) (result : Option CommandResult) (code : String)
    (commands : Commands) : ∃ x, outcome (runProbe argv result code) commands =
      (x, commands ++ [argv]) ∧ Validates (probeDemands result code) x := by
  unfold runProbe
  rw [Attempt.outcome_bind, outcome_runCommand]
  cases result with
  | none => exact ⟨.error .uncaught, rfl, fun e => by simp [probeDemands, fails_cons]⟩
  | some answer =>
    by_cases hzero : answer.returncode = 0
    · refine ⟨.ok (), ?_, fun e => by simp [probeDemands, fails_cons, hzero]⟩
      simp only [Option.elim, hzero, ne_eq, not_true, if_false, Attempt.outcome_pure]
    · refine ⟨.error (.refused code), ?_, fun e => by simp [probeDemands, fails_cons, hzero]⟩
      simp only [Option.elim, ne_eq, hzero, not_false_eq_true, if_true, Attempt.outcome_throw]

/-- The commands behind the checks of a run that gets to its container. -/
def wrapperCommands (host : WrapperHost) (docker ratio : List ℕ) : Commands :=
  [imageInspectArgv docker, networkInspectArgv docker, buildDockerRunArgv docker ratio host.uuid]

/-- Either a check fails, and no container is run, or all hold and one is run. -/
inductive Executed (host : WrapperHost) :
    Except WrapperError (WrapperEvidence × ℤ) × Commands → Prop
  | refused (e : WrapperError) (commands : Commands) : Fails (wrapperDemands host) e →
      containerRuns commands = [] → Executed host (.error e, commands)
  | ran (ratio actuatorSha configSha docker : List ℕ) : (∀ d ∈ wrapperDemands host, d.holds) →
      checkHost host = .ok (ratio, actuatorSha, configSha, docker) →
      Executed host (host.dockerRun.elim (.error .uncaught) fun result =>
        .ok (runEvidence ratio actuatorSha configSha docker host.uuid result, result.returncode),
        wrapperCommands host docker ratio)

theorem execute_executed (host : WrapperHost) : Executed host (outcome (execute host) []) := by
  unfold execute
  rw [Attempt.outcome_bind, Attempt.outcome_ofExcept]
  cases hcheck : checkHost host with
  | error e =>
    refine .refused e [] (fails_append.mpr (.inl ?_)) rfl
    exact (validates_checkHost e).mp hcheck
  | ok checked =>
    obtain ⟨ratio, actuatorSha, configSha, docker⟩ := checked
    have hchecked := validates_checkHost.of_ok hcheck
    simp only [validateImageAndNetwork, bind_assoc]
    obtain ⟨image, himage, himageValid⟩ := outcome_runProbe (imageInspectArgv docker)
      host.imageInspect "DOCKER_IMAGE_MISSING" []
    rw [Attempt.outcome_bind, himage]
    cases image with
    | error e =>
      refine .refused e _ (fails_append.mpr (.inr ⟨hchecked, fails_append.mpr (.inl ?_)⟩)) rfl
      exact (himageValid e).mp rfl
    | ok _ =>
      have himageHolds := himageValid.of_ok rfl
      obtain ⟨network, hnetwork, hnetworkValid⟩ := outcome_runProbe (networkInspectArgv docker)
        host.networkInspect "DOCKER_NETWORK_MISSING" [imageInspectArgv docker]
      dsimp only
      rw [List.nil_append, Attempt.outcome_bind, hnetwork]
      cases network with
      | error e =>
        refine .refused e _ (fails_append.mpr (.inr ⟨hchecked,
          fails_append.mpr (.inr ⟨himageHolds, ?_⟩)⟩)) rfl
        exact (hnetworkValid e).mp rfl
      | ok _ =>
        have hnetworkHolds := hnetworkValid.of_ok rfl
        have hall : ∀ d ∈ wrapperDemands host, d.holds :=
          List.forall_mem_append.mpr ⟨hchecked, List.forall_mem_append.mpr ⟨himageHolds, hnetworkHolds⟩⟩
        dsimp only
        rw [Attempt.outcome_bind, Attempt.outcome_ofExcept, validateInvocationId_uuid]
        dsimp only
        rw [Attempt.outcome_bind, outcome_runCommand]
        have hran := Executed.ran ratio actuatorSha configSha docker hall hcheck
        cases hresult : host.dockerRun with
        | none =>
          rw [hresult] at hran
          exact hran
        | some result =>
          rw [hresult] at hran
          exact hran

end

/-- The containers that a run of the wrapper runs. -/
theorem wrapper_containers (host : WrapperHost) :
    (¬ ∀ d ∈ wrapperDemands host, d.holds) ∧ containerRuns (wrapperMain host).2.2 = [] ∨
    (∀ d ∈ wrapperDemands host, d.holds) ∧ ∃ ratio docker, host.environ ratioEnv = some ratio ∧
      containerRuns (wrapperMain host).2.2 = [buildDockerRunArgv docker ratio host.uuid] := by
  have hexecuted := execute_executed host
  unfold wrapperMain
  generalize outcome (execute host) [] = run at hexecuted ⊢
  cases hexecuted with
  | refused e commands hfails hnone => exact .inl ⟨hfails.not_all, hnone⟩
  | ran ratio actuatorSha configSha docker hall hcheck =>
    refine .inr ⟨hall, ratio, docker, (checkHost_ok hcheck).1, ?_⟩
    cases host.dockerRun <;> rfl

/-- Where a check fails, the first that does gives the code and no container is run. Otherwise one
is run, with the ratio of the environment, and main ends as it does. Evidence counts the containers
that were run, and passes exactly where main returns zero. -/
theorem wrapper_runs_once (host : WrapperHost) :
    (∀ e, Fails (wrapperDemands host) e → containerRuns (wrapperMain host).2.2 = [] ∧
      ((wrapperMain host).1, (wrapperMain host).2.1) = failureReport e) ∧
    ((∀ d ∈ wrapperDemands host, d.holds) → ∃ ratio docker,
      host.environ ratioEnv = some ratio ∧ ratio ∈ allowedRatioTexts ∧
      host.docker.map DockerClient.path = some docker ∧
      (wrapperMain host).2.2 = wrapperCommands host docker ratio ∧
      containerRuns (wrapperMain host).2.2 = [buildDockerRunArgv docker ratio host.uuid] ∧
      (wrapperMain host).2.1 = host.dockerRun.elim 1 CommandResult.returncode ∧
      ((wrapperMain host).1.isSome ↔ host.dockerRun.isSome)) ∧
    ∀ evidence, (wrapperMain host).1 = some evidence →
      evidence.dockerExecutionAttemptCount = (containerRuns (wrapperMain host).2.2).length ∧
      (evidence.gate = .pass ↔ (wrapperMain host).2.1 = 0) ∧
      ∀ argv ∈ containerRuns (wrapperMain host).2.2, argv = evidence.dockerArgv := by
  have hexecuted := execute_executed host
  unfold wrapperMain
  generalize outcome (execute host) [] = run at hexecuted ⊢
  cases hexecuted with
  | refused e commands hfails hnone =>
    refine ⟨fun e' hfails' => ⟨hnone, ?_⟩, fun hall => absurd hall hfails.not_all, ?_⟩
    · rw [hfails.unique hfails']
    · intro evidence hevidence
      dsimp only at hevidence ⊢
      rw [hnone]
      cases e with
      | refused code =>
        obtain rfl := Option.some.inj hevidence
        exact ⟨rfl, iff_of_false (by simp [failureEvidence]) (by simp [failureReport]), by simp⟩
      | uncaught => cases hevidence
  | ran ratio actuatorSha configSha docker hall hcheck =>
    obtain ⟨henviron, hallowed, hdocker⟩ := checkHost_ok hcheck
    refine ⟨fun e hfails => absurd hall hfails.not_all, fun _ => ⟨ratio, docker, henviron, hallowed,
      hdocker, ?_⟩, ?_⟩
    · cases host.dockerRun with
      | none => exact ⟨rfl, rfl, rfl, by simp [failureReport]⟩
      | some result => exact ⟨rfl, rfl, rfl, by simp⟩
    · cases host.dockerRun with
      | none => simp [failureReport]
      | some result =>
        intro evidence hevidence
        obtain rfl := Option.some.inj hevidence
        refine ⟨rfl, ?_, fun argv hargv => List.mem_singleton.mp hargv⟩
        by_cases hzero : result.returncode = 0 <;> simp [runEvidence, hzero]

end TcdOran.Harness.ActuatorWrapper
