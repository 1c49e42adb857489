import TcdOran.Actuator.ControlRequest
import TcdOran.Harness.ActuatorWrapper
import TcdOran.Harness.FifoReaderOnce

/-! From the binding that a FIFO reader validates to the control request of the xApp: the reader
starts the wrapper, the wrapper runs a container, and the xApp in it reads its environment. -/
namespace TcdOran.Actuator
open TcdOran.Lib Python TcdOran.Harness TcdOran.Harness.ActuatorWrapper

/-! ### `docker run` -/

/-- The options of the wrapper's `docker run`. Each has a value behind it. -/
def runOptions : List (List ℕ) :=
  [chars "--name", chars "--network", chars "--restart", chars "--security-opt", chars "--env",
    chars "--mount", chars "--entrypoint"]

/-- `docker run [--option value]... image arguments`. -/
def runArgv (docker : List ℕ) (options : List (List ℕ × List ℕ)) (image : List ℕ)
    (arguments : List (List ℕ)) : List (List ℕ) :=
  docker :: chars "run" :: options.flatMap (fun o => [o.1, o.2]) ++ image :: arguments

/-- Of what `getenv` gives in the container that is run by these arguments: the value of the only
`--env` option is the variable's. -/
structure PassesEnvironment (getenv : List (List ℕ) → List ℕ → Option (List UInt8)) : Prop where
  passes {docker image name value : List ℕ} {options : List (List ℕ × List ℕ)}
    {arguments : List (List ℕ)} :
    (∀ o ∈ options, o.1 ∈ runOptions) →
    options.filter (fun o => o.1 = chars "--env") = [(chars "--env", name ++ 61 :: value)] →
    (∀ u ∈ name, u ≠ 61) → (∀ u ∈ value, 0 < u ∧ u < 128) →
    getenv (runArgv docker options image arguments) name = some (value.map UInt8.ofNat)

/-- The options of `build_docker_run_argv`. -/
def wrapperOptions (ratio invocationId : List ℕ) : List (List ℕ × List ℕ) :=
  [(chars "--name", containerName invocationId), (chars "--network", executionNetwork),
    (chars "--restart", chars "no"), (chars "--security-opt", chars "no-new-privileges"),
    (chars "--env", ratioEnv ++ 61 :: ratio),
    (chars "--mount", readonlyBindMount actuatorBinarySource actuatorBinaryDestination),
    (chars "--mount", readonlyBindMount xappConfigSource xappConfigDestination),
    (chars "--entrypoint", actuatorBinaryDestination)]

section
variable {getenv : List (List ℕ) → List ℕ → Option (List UInt8)} {docker ratio invocationId : List ℕ}

theorem buildDockerRunArgv_eq : buildDockerRunArgv docker ratio invocationId =
    runArgv docker (wrapperOptions ratio invocationId) executionImage actuatorArguments := by
  simp [buildDockerRunArgv, runArgv, wrapperOptions, chars]

/-- The container of the wrapper has the ratio in its environment. -/
theorem getenv_ratio (hdocker : PassesEnvironment getenv) (hratio : ∀ u ∈ ratio, 0 < u ∧ u < 128) :
    getenv (buildDockerRunArgv docker ratio invocationId) ratioEnv =
      some (ratio.map UInt8.ofNat) := by
  rw [buildDockerRunArgv_eq]
  exact hdocker.passes (by simp [wrapperOptions, runOptions]) rfl (by decide) hratio

end

/-! ### One start of the wrapper -/

/-- The reader's environment, with the ratio in it, is the wrapper's. -/
def withRatio (host : WrapperHost) (ratioText : List ℕ) : WrapperHost :=
  { host with environ := Function.update host.environ ratioEnv (some ratioText) }

theorem withRatio_environ (host : WrapperHost) (ratioText : List ℕ) :
    (withRatio host ratioText).environ ratioEnv = some ratioText := by
  simp [withRatio]

/-- The control requests of the containers that one start of the wrapper runs. -/
def controlsOf (getenv : List (List ℕ) → List ℕ → Option (List UInt8)) (host : WrapperHost)
    (xapp : XappHost) : List (ℕ × RcCtrlReq) :=
  (containerRuns (wrapperMain host).2.2).flatMap fun argv =>
    controls (xappMain (getenv argv ratioEnv) xapp).1

/-- Nothing stands in the way of the request: the wrapper's checks hold, and the xApp finds one
node. -/
structure Reaches (host : WrapperHost) (xapp : XappHost) : Prop where
  checks : ∀ d ∈ wrapperDemands host, d.holds
  nodes : xapp.nodes = 1
  memory : xapp.memory = true

section
variable {getenv : List (List ℕ) → List ℕ → Option (List UInt8)} {host : WrapperHost}
  {xapp : XappHost} {ratio : ℤ}

theorem allowedRatio_text (h : ratio ∈ allowedRatios) :
    (∀ u ∈ intText ratio, 0 < u ∧ u < 128) ∧
      maxPrbRatioPct (some ((intText ratio).map UInt8.ofNat)) = some ratio := by
  simp only [allowedRatios, List.mem_cons, List.not_mem_nil, or_false] at h
  rcases h with rfl | rfl | rfl | rfl <;> decide

theorem mem_controlsOf (hdocker : PassesEnvironment getenv) (hratio : ratio ∈ allowedRatios)
    (henviron : host.environ ratioEnv = some (intText ratio)) :
    (controlsOf getenv host xapp).length ≤ 1 ∧
      ∀ sent, sent ∈ controlsOf getenv host xapp ↔
        Reaches host xapp ∧ sent = (0, genRcCtrlReq ratio) := by
  obtain ⟨hascii, hparsed⟩ := allowedRatio_text hratio
  unfold controlsOf
  rcases wrapper_containers host with ⟨hnot, hnone⟩ | ⟨hall, text, docker, htext, hone⟩
  · rw [hnone]
    refine ⟨by simp, fun sent => iff_of_false (by simp) fun h => hnot h.1.checks⟩
  · obtain rfl : text = intText ratio := Option.some.inj (htext.symm.trans henviron)
    rw [hone, List.flatMap_singleton, getenv_ratio hdocker hascii, xappMain_controls hparsed]
    by_cases hready : xapp.nodes = 1 ∧ xapp.memory = true
    · rw [if_pos hready]
      refine ⟨Nat.le_refl 1, fun sent => ?_⟩
      rw [List.mem_singleton]
      exact ⟨fun h => ⟨⟨hall, hready.1, hready.2⟩, h⟩, fun h => h.2⟩
    · rw [if_neg hready]
      exact ⟨by simp, fun sent => iff_of_false (by simp) fun h => hready ⟨h.1.nodes, h.1.memory⟩⟩

end

/-! ### Runs of the readers -/

section
variable (getenv : List (List ℕ) → List ℕ → Option (List UInt8))
  (hosts : ReaderId → TransitionIndex → WrapperHost × XappHost)

/-- The control requests that an event of the readers leads to, by their transition. -/
def sentBy : ReaderEvent → List (TransitionIndex × ℕ × RcCtrlReq)
  | .actuated id index ratioText =>
      (controlsOf getenv (withRatio (hosts id index).1 ratioText) (hosts id index).2).map (index, ·)
  | _ => []

def sentControls (tr : List ReaderEvent) : List (TransitionIndex × ℕ × RcCtrlReq) :=
  tr.flatMap (sentBy getenv hosts)

end

/-- A validated binding has a ratio that is allowed. -/
def RatioAllowed : ReaderEvent → Prop
  | .validated _ _ binding => binding.ratio ∈ allowedRatios
  | _ => True

section
variable {lib : ReaderLibrary} {files : ReaderFiles} {s s' : ReaderState} {tr es : List ReaderEvent}
  {a : ReaderAction}

theorem ratioOf_allowed {value : Json} {ratio : ℤ} (h : ratioOf value = some ratio) :
    ratio ∈ allowedRatios := by
  cases value with
  | num literal =>
    simp only [ratioOf] at h
    split_ifs at h with hallowed
    exact Option.some.inj h ▸ hallowed.2
  | _ => cases h

theorem validateBinding_ratio {p : ReaderProcess} {nowUtc : ℤ} {raw : List UInt8} {b : RatioBinding}
    (h : validateBinding lib p nowUtc raw = .ok b) : b.ratio ∈ allowedRatios := by
  obtain ⟨members, -, h⟩ := bind_eq_ok.mp h
  obtain ⟨-, h⟩ := unit_bind_eq_ok.mp h
  obtain ⟨-, h⟩ := unit_bind_eq_ok.mp h
  cases hratio : ratioOf (bindingField members "requested_ratio_pct") with
  | none =>
    simp only [hratio] at h
    split at h
    · obtain ⟨bindingId, -, h⟩ := bind_eq_ok.mp h
      obtain ⟨-, h⟩ := unit_bind_eq_ok.mp h
      obtain ⟨-, h⟩ := unit_bind_eq_ok.mp h
      obtain ⟨-, h⟩ := unit_bind_eq_ok.mp h
      obtain ⟨-, h⟩ := unit_bind_eq_ok.mp h
      obtain ⟨-, h⟩ := unit_bind_eq_ok.mp h
      cases h
    · cases h
  | some ratio =>
    simp only [hratio] at h
    split at h
    · obtain ⟨bindingId, -, h⟩ := bind_eq_ok.mp h
      obtain ⟨-, h⟩ := unit_bind_eq_ok.mp h
      obtain ⟨-, h⟩ := unit_bind_eq_ok.mp h
      obtain ⟨-, h⟩ := unit_bind_eq_ok.mp h
      obtain ⟨-, h⟩ := unit_bind_eq_ok.mp h
      obtain ⟨-, h⟩ := unit_bind_eq_ok.mp h
      obtain ⟨_, hsame, h⟩ := bind_eq_ok.mp h
      obtain rfl := Except.ok.inj hsame
      obtain ⟨createdUtc, -, h⟩ := bind_eq_ok.mp h
      obtain ⟨-, h⟩ := unit_bind_eq_ok.mp h
      obtain ⟨-, h⟩ := unit_bind_eq_ok.mp h
      obtain rfl := Except.ok.inj h
      exact ratioOf_allowed hratio
    · cases h

theorem loadBindingStep_ratio {id : ReaderId} {p : ReaderProcess} {ok : Bool} {nowUtc : ℤ}
    {move : ReaderStep} (h : loadBindingStep lib files id p ok nowUtc = some move) :
    ∀ e ∈ move.2.2, RatioAllowed e := by
  have hquiet {move : ReaderStep} (hnone : move.2.2 = []) : ∀ e ∈ move.2.2, RatioAllowed e := by
    rw [hnone]
    simp
  unfold loadBindingStep at h
  split at h
  case h_1 =>
    split_ifs at h <;> obtain rfl := Option.some.inj h <;> exact hquiet rfl
  case h_2 =>
    split at h
    · obtain rfl := Option.some.inj h
      exact hquiet rfl
    · split_ifs at h
      · obtain rfl := Option.some.inj h
        exact hquiet rfl
      · split at h <;> obtain rfl := Option.some.inj h <;> exact hquiet rfl
  case h_3 =>
    split at h
    · obtain rfl := Option.some.inj h
      exact hquiet rfl
    · split_ifs at h
      · obtain rfl := Option.some.inj h
        exact hquiet rfl
      · split at h
        · obtain rfl := Option.some.inj h
          exact hquiet rfl
        · obtain rfl := Option.some.inj h
          rename_i hvalid
          intro e he
          rw [List.mem_singleton.mp he]
          exact validateBinding_ratio hvalid
  case h_4 => cases h

/-- The steps behind the validation emit no further one. -/
theorem move_ratio {id : ReaderId} {p : ReaderProcess} {op : ReaderOp} {move : ReaderStep}
    (h : ReaderMove files id p op move) (hpc : p.pc ≠ .readBinding) :
    ∀ e ∈ move.2.2, RatioAllowed e := by
  cases h with
  | validated b hread => exact absurd hread hpc
  | _ => simp [RatioAllowed]

theorem readerStep_ratio {id : ReaderId} {p : ReaderProcess} {ok : Bool} {nowUtc returncode : ℤ}
    {move : ReaderStep} (h : readerStep lib files id p ok nowUtc returncode = some move) :
    ∀ e ∈ move.2.2, RatioAllowed e := by
  by_cases hpc : p.pc = .readBinding
  · obtain ⟨op, -, h⟩ := Option.bind_eq_some_iff.mp h
    obtain ⟨inner, hinner, h⟩ := Option.bind_eq_some_iff.mp h
    obtain rfl := Option.some.inj h
    have hrest : consumeBindingStep files id p ok = none ∧
        actuatorStep files id p ok returncode = none := by
      unfold consumeBindingStep actuatorStep
      rw [hpc]
      exact ⟨rfl, rfl⟩
    rw [hrest.1, hrest.2, Option.or_none, Option.or_none] at hinner
    exact List.forall_mem_cons.mpr ⟨trivial, loadBindingStep_ratio hinner⟩
  · obtain ⟨op, hop, hmove⟩ := readerStep_move h
    exact move_ratio hmove hpc

theorem readerMachine_ratio (h : readerMachine lib s a = some (s', es)) :
    ∀ e ∈ es, RatioAllowed e := by
  cases a with
  | step id ok nowUtc returncode =>
    simp only [readerMachine, Option.bind_eq_bind, Option.bind_eq_some_iff] at h
    obtain ⟨p, -, ⟨files, p', events⟩, hstep, h⟩ := h
    obtain ⟨rfl, rfl⟩ := Prod.mk.inj (Option.some.inj h)
    exact readerStep_ratio hstep
  | token id line =>
    obtain ⟨p, -, h⟩ := Option.bind_eq_some_iff.mp h
    obtain ⟨-, -, h⟩ := Option.bind_eq_some_iff.mp h
    obtain ⟨-, rfl⟩ := Prod.mk.inj (Option.some.inj h)
    simp [RatioAllowed]
  | start id experimentId runId startedUtc initial ok =>
    obtain ⟨-, -, h⟩ := Option.bind_eq_some_iff.mp h
    obtain ⟨p, -, h⟩ := Option.bind_eq_some_iff.mp h
    obtain ⟨-, rfl⟩ := Prod.mk.inj (Option.some.inj h)
    simp
  | crash id =>
    obtain ⟨p, -, h⟩ := Option.bind_eq_some_iff.mp h
    obtain ⟨-, rfl⟩ := Prod.mk.inj (Option.some.inj h)
    simp
  | place index file =>
    obtain ⟨-, -, h⟩ := Option.bind_eq_some_iff.mp h
    obtain ⟨-, rfl⟩ := Prod.mk.inj (Option.some.inj h)
    simp

theorem ratioAllowed_of_run (h : Machine.Run (readerMachine lib) (readerStart files) tr s) :
    ∀ e ∈ tr, RatioAllowed e := by
  refine h.invariant (I := fun tr _ => ∀ e ∈ tr, RatioAllowed e) (by simp) fun hall hstep => ?_
  exact List.forall_mem_append.mpr ⟨hall, readerMachine_ratio hstep⟩

variable {getenv : List (List ℕ) → List ℕ → Option (List UInt8)}
  {hosts : ReaderId → TransitionIndex → WrapperHost × XappHost}

/-- An event leads to a request at most where it starts the actuator, and then to one. -/
theorem sentBy_sublist (hdocker : PassesEnvironment getenv) {e : ReaderEvent}
    (h : ∀ id index text, e = .actuated id index text →
      ∃ b : RatioBinding, b.ratio ∈ allowedRatios ∧ text = intText b.ratio) :
    ((sentBy getenv hosts e).map Prod.fst).Sublist e.actuatedIndex?.toList := by
  cases e with
  | actuated id index text =>
    obtain ⟨b, hratio, rfl⟩ := h id index text rfl
    have hlength := (@mem_controlsOf getenv (withRatio (hosts id index).1 (intText b.ratio))
      (hosts id index).2 b.ratio hdocker hratio (withRatio_environ _ _)).1
    rw [sentBy, List.map_map]
    rcases hsent : controlsOf getenv (withRatio (hosts id index).1 (intText b.ratio))
      (hosts id index).2 with _ | ⟨sent, _ | ⟨second, rest⟩⟩
    · exact List.nil_sublist _
    · exact List.Sublist.refl _
    · rw [hsent] at hlength
      simp at hlength
  | _ => exact List.nil_sublist _

theorem sentControls_sublist (hdocker : PassesEnvironment getenv)
    (h : ∀ id index text, .actuated id index text ∈ tr →
      ∃ b : RatioBinding, b.ratio ∈ allowedRatios ∧ text = intText b.ratio) :
    ((sentControls getenv hosts tr).map Prod.fst).Sublist
      (tr.filterMap ReaderEvent.actuatedIndex?) := by
  induction tr with
  | nil => exact List.nil_sublist _
  | cons e tr ih =>
    have hhead := @sentBy_sublist getenv hosts hdocker e
      fun id index text he => h id index text (he ▸ List.mem_cons_self)
    have htail := ih fun id index text hmem => h id index text (List.mem_cons_of_mem e hmem)
    have hsplit : (e :: tr).filterMap ReaderEvent.actuatedIndex? =
        e.actuatedIndex?.toList ++ tr.filterMap ReaderEvent.actuatedIndex? := by
      rw [List.filterMap_cons]
      cases e.actuatedIndex? <;> rfl
    rw [sentControls, List.flatMap_cons, List.map_append, hsplit]
    exact hhead.append htail

/-- What a reader has done with its binding when it starts the actuator. -/
theorem actuated_binding (h : Machine.Run (readerMachine lib) (readerStart files) tr s)
    {id : ReaderId} {index : TransitionIndex} {text : List ℕ} (he : .actuated id index text ∈ tr) :
    ∃ b : RatioBinding, .validated id index b ∈ tr ∧ .consumed id index ∈ tr ∧
      b.ratio ∈ allowedRatios ∧ text = intText b.ratio := by
  obtain ⟨before, after, htr⟩ := List.append_of_mem he
  obtain ⟨hconsumed, b, hvalidated, htext⟩ := prepared_of_run h htr
  have hmem {e : ReaderEvent} (he : e ∈ before) : e ∈ tr := htr ▸ List.mem_append_left _ he
  exact ⟨b, hmem hvalidated, hmem hconsumed, ratioAllowed_of_run h _ (hmem hvalidated), htext⟩

/-- Whatever the readers, their crashes and the binding files: for each transition at most one
control request is sent, to the only node, with the ratio of the binding that a reader has validated
and consumed for it. It is sent exactly where the actuator is started and nothing else fails. -/
theorem control_once_per_transition (hdocker : PassesEnvironment getenv)
    (h : Machine.Run (readerMachine lib) (readerStart files) tr s) :
    ((sentControls getenv hosts tr).map Prod.fst).Nodup ∧
    ∀ index node request, (index, node, request) ∈ sentControls getenv hosts tr ↔
      ∃ (id : ReaderId) (b : RatioBinding), .actuated id index (intText b.ratio) ∈ tr ∧
        .validated id index b ∈ tr ∧ .consumed id index ∈ tr ∧ b.ratio ∈ allowedRatios ∧
        Reaches (withRatio (hosts id index).1 (intText b.ratio)) (hosts id index).2 ∧
        node = 0 ∧ request = genRcCtrlReq b.ratio ∧
        slicePolicy request = some ⟨[0x00, 0xf1, 0x10], [0x01], 0, b.ratio⟩ := by
  have hbinding {id : ReaderId} {index : TransitionIndex} {text : List ℕ}
      (he : .actuated id index text ∈ tr) := actuated_binding h he
  constructor
  · refine (sentControls_sublist hdocker fun id index text he => ?_).nodup (actuatedKey_unique h)
    obtain ⟨b, -, -, hratio, htext⟩ := hbinding he
    exact ⟨b, hratio, htext⟩
  · intro index node request
    have hsent (id : ReaderId) (b : RatioBinding) (hratio : b.ratio ∈ allowedRatios) :=
      (@mem_controlsOf getenv (withRatio (hosts id index).1 (intText b.ratio)) (hosts id index).2
        b.ratio hdocker hratio (withRatio_environ _ _)).2 (node, request)
    constructor
    · intro hmem
      obtain ⟨e, he, hby⟩ := List.mem_flatMap.mp hmem
      cases e with
      | actuated id index' text =>
        obtain ⟨sent, hcontrol, hsame⟩ := List.mem_map.mp hby
        obtain ⟨rfl, rfl⟩ := Prod.mk.inj hsame
        obtain ⟨b, hvalidated, hconsumed, hratio, rfl⟩ := hbinding he
        obtain ⟨hreaches, hrequest⟩ := (hsent id b hratio).mp hcontrol
        obtain ⟨rfl, rfl⟩ := Prod.mk.inj hrequest
        exact ⟨id, b, he, hvalidated, hconsumed, hratio, hreaches, rfl, rfl, rfl⟩
      | _ => cases hby
    · rintro ⟨id, b, he, -, -, hratio, hreaches, rfl, rfl, -⟩
      have hcontrol := (hsent id b hratio).mpr ⟨hreaches, rfl⟩
      exact List.mem_flatMap.mpr ⟨_, he, List.mem_map.mpr ⟨_, hcontrol, rfl⟩⟩

end
/-- The value of the first `--env` option that is for the variable. -/
def containerEnv (name : List ℕ) : List (List ℕ) → Option (List UInt8)
  | option :: value :: rest =>
      if option = chars "--env" ∧ (name ++ [61]) <+: value then
        some ((value.drop (name.length + 1)).map UInt8.ofNat)
      else if option ∈ runOptions then containerEnv name rest else none
  | _ => none

def sampleGetenv (argv : List (List ℕ)) (name : List ℕ) : Option (List UInt8) :=
  containerEnv name (argv.drop 2)

theorem containerEnv_options {name value image : List ℕ} {arguments : List (List ℕ)} :
    ∀ options : List (List ℕ × List ℕ), (∀ o ∈ options, o.1 ∈ runOptions) →
      options.filter (fun o => o.1 = chars "--env") = [(chars "--env", name ++ 61 :: value)] →
      containerEnv name (options.flatMap (fun o => [o.1, o.2]) ++ image :: arguments) =
        some (value.map UInt8.ofNat) := by
  intro options
  induction options with
  | nil => exact fun _ h => by cases h
  | cons o options ih =>
    obtain ⟨option, given⟩ := o
    intro hall hfilter
    by_cases henv : option = chars "--env"
    · rw [List.filter_cons_of_pos (by simpa using henv)] at hfilter
      obtain ⟨hsame, -⟩ := List.cons.inj hfilter
      obtain ⟨-, rfl⟩ := Prod.mk.inj hsame
      simp [containerEnv, henv]
    · rw [List.filter_cons_of_neg (by simpa using henv)] at hfilter
      have hrest := ih (fun o ho => hall o (List.mem_cons_of_mem _ ho)) hfilter
      have hmem : option ∈ runOptions := hall _ List.mem_cons_self
      simpa [containerEnv, henv, hmem] using hrest

theorem sampleGetenv_passes : PassesEnvironment sampleGetenv :=
  ⟨fun hall hone _ _ => containerEnv_options _ hall hone⟩

def sampleWrapperHost : WrapperHost where
  environ _ := none
  binary := ⟨true, false, true, true, some actuatorBinarySha256⟩
  config := ⟨true, false, true, false, some xappConfigSha256⟩
  docker := some ⟨chars "/usr/bin/docker", true, true⟩
  imageInspect := some ⟨0, [], []⟩
  networkInspect := some ⟨0, [], []⟩
  dockerRun := some ⟨0, [], []⟩
  uuid := List.replicate 32 48
  uuid_hex := by decide

theorem sampleWrapperHost_reaches : Reaches (withRatio sampleWrapperHost (intText 75)) ⟨1, true⟩ := by
  refine ⟨?_, rfl, rfl⟩
  simp [wrapperDemands, checkDemands, ratioDemands, identityDemands, dockerDemands, probeDemands,
    withRatio_environ]
  simp [withRatio, sampleWrapperHost]
  decide

theorem control_once_per_transition_sample : ∃ tr s,
    Machine.Run (readerMachine sampleReaderLibrary) (readerStart sampleReaderFiles) tr s ∧
    (1, 0, genRcCtrlReq 75) ∈
      sentControls sampleGetenv (fun _ _ => (sampleWrapperHost, ⟨1, true⟩)) tr ∧
    ((sentControls sampleGetenv (fun _ _ => (sampleWrapperHost, ⟨1, true⟩)) tr).map Prod.fst).Nodup := by
  obtain ⟨t, ht⟩ := @trigger_actuates sampleReaderLibrary
    ((((readerStart sampleReaderFiles).set 0 sampleReader).set 1 sampleReader).set 0 sampleReader) 1
    sampleReader ⟨chars "b1", 75⟩ _ 20 rfl rfl (by decide) rfl rfl sampleBinding_valid
  have hrun := (Machine.run_of_exec sampleReaders_run).append_exec ht
  obtain ⟨hnodup, hsent⟩ := @control_once_per_transition _ _ _ _ sampleGetenv
    (fun _ _ => (sampleWrapperHost, ⟨1, true⟩)) sampleGetenv_passes hrun
  refine ⟨_, t, hrun, (hsent 1 0 _).mpr ⟨1, ⟨chars "b1", 75⟩, ?_, ?_, ?_, by decide,
    sampleWrapperHost_reaches, rfl, rfl, rfl⟩, hnodup⟩
  all_goals simp [transitionTrace, sampleReader]

end TcdOran.Actuator
