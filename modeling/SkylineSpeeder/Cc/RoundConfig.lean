import SkylineSpeeder.Machine.Run
import SkylineSpeeder.Cc.Frame

/-!
No round runs on a mix of two configurations.

A connection copies its configuration; it takes a new one in `skyline_init`, on the
first ACK that finds none, and on an ACK that ends a round, and starts its model
over whenever it does.  Publications interleave with the callbacks arbitrarily:
what an adoption reads is any configuration that was published, or is refused.

* `ModelReset`: what `skyline_reset_generation` leaves, for a given socket;
* `ChangesProperly`: when a callback may change the configuration, and that the
  reset comes first;
* `usedConfig`: what a `cong_control` call computes pacing and window from;
* `RunsFrom`, `ComputesFrom`: the outcome of such a call, the second of one that takes
  no configuration, which what is published does not change;
* `config_one_per_round`: changes are proper, and from one round end to the next
  the outcome of every call is computed from one published configuration;
* `init_reads_initial_cwnd_first`: in `skyline_init` the reset does not come before
  everything, since the initial window it snapshots is a coefficient already.
-/

namespace SkylineSpeeder

open Machine

/-! ### A change of configuration -/

/-- The state of a connection right after `skyline_reset_generation` on the socket
`sk`. -/
structure ModelReset (flow : FlowState) (sk : TcpSock) : Prop where
  mode : flow.mode = .startup
  plateau : flow.plateauRounds = 0
  minRtt : flow.minRttUs = 0 ∧ flow.minSrttUs = 0
  bandwidth : flow.bwBps = 0 ∧ flow.priorRoundBwBps = 0 ∧ flow.roundRateBps = 0 ∧
    flow.bwSamples = fun _ => 0
  lossRate : flow.lossRatePermille = 0
  guardrail : flow.queueClamped = false
  recovery : flow.recoveryActive = false
  round : flow.nextRoundDelivered = sk.delivered.toUInt64
  window : flow.priorCwnd = sk.sndCwnd ∧ flow.wMax = sk.sndCwnd ∧ flow.tcpCwnd = sk.sndCwnd

lemma modelReset (flow : FlowState) (sk : TcpSock) (nowNs : UInt64) :
    ModelReset (skylineResetGeneration flow sk nowNs) sk :=
  ⟨rfl, rfl, ⟨rfl, rfl⟩, ⟨rfl, rfl, rfl, rfl⟩, rfl, rfl, rfl, rfl, ⟨rfl, rfl, rfl⟩⟩

/-- The callbacks in which a connection may change its configuration. -/
def MayChange (s : SockState) : Callback → Prop
  | .init .. => True
  | .congControl _ input =>
      skylineHasConfig s.flow = false ∨
        skylineRoundReached input.sample s.flow.nextRoundDelivered = true
  | _ => False

/-- The callback works on a state that was reset on the socket `sk` and runs on
`config`: `skyline_init` leaves it, `skyline_cong_control` computes everything from it. -/
def StartsOver (K : Kernel) (s : SockState) (c : Callback) (sk : TcpSock)
    (config : KernelConfig) : Prop :=
  ∃ flow, ModelReset flow sk ∧ flow.config = config ∧
    match c with
    | .init .. => (c.exec K s).state.storage = some flow
    | .congControl _ input =>
        (c.exec K s).state =
          ⟨(congControlRun K s.sk flow input).1, some (congControlRun K s.sk flow input).2.1⟩
    | _ => False

/-- A callback changes the configuration only where it may, and starts over on the
new one.  `atReset` is the socket the reset finds. -/
def ChangesProperly (K : Kernel) (atReset : SockState → Callback → KernelConfig → TcpSock)
    (s : SockState) (c : Callback) : Prop :=
  (c.exec K s).state.flow.config ≠ s.flow.config → MayChange s c ∧
    StartsOver K s c (atReset s c (c.exec K s).state.flow.config)
      (c.exec K s).state.flow.config

/-- The socket as the callback found it. -/
def asFound (s : SockState) (_ : Callback) (_ : KernelConfig) : TcpSock := s.sk

/-- The same, but with the initial window of the new configuration already in place
in `skyline_init`. -/
def withInitialCwnd (s : SockState) : Callback → KernelConfig → TcpSock
  | .init .., config =>
      if config.initialCwndPackets ≠ 0 then s.sk.storeCwnd config.initialCwndPackets else s.sk
  | _, _ => s.sk

/-! ### Runs -/

/-- A callback, and how the kernel moved the socket on before it. -/
structure ConfigEvent where
  kernel : TcpSock → TcpSock
  callback : Callback

/-- The socket a callback finds. -/
def ConfigEvent.before (e : ConfigEvent) (s : SockState) : SockState :=
  { s with sk := { e.kernel s.sk with cwndStored := false } }

/-- One callback. -/
def configStep (K : Kernel) (s : SockState) (e : ConfigEvent) : SockState :=
  (e.callback.exec K (e.before s)).state

/-- An adoption that succeeds has read a published configuration. -/
def Callback.ReadsFrom (published : Set KernelConfig) : Callback → Prop
  | .init _ read _ =>
      (skylineAdoptConfig FlowState.zero read).2 = true → ∃ config ∈ published,
        read.slot = some config
  | .congControl _ input =>
      (skylineAdoptConfig FlowState.zero input.read).2 = true → ∃ config ∈ published,
        input.read.slot = some config
  | _ => True

/-- The configuration a callback computes pacing and window from, if it is a
`cong_control` call that gets that far. -/
def usedConfig (s : SockState) : Callback → Option KernelConfig
  | .congControl allocated input =>
      (skylineFlowGet s.storage allocated).bind fun flow =>
        (congControlAdopt s.sk flow input).map fun taken => taken.1.config
  | _ => none

/-- What a `cong_control` call leaves and reports, when the configuration phase ended with
`flow` and the reports `switched`. -/
def runOutcome (K : Kernel) (sk : TcpSock) (flow : FlowState) (switched : List Report)
    (input : AckInput) : Outcome :=
  let run := congControlRun K sk flow input
  ⟨⟨run.1, some run.2.1⟩, none, switched ++ run.2.2⟩

/-- The callback is a `cong_control` call whose whole outcome is computed on a flow that
holds `config`: the one it found, or that flow started over on the new configuration. -/
def RunsFrom (K : Kernel) (config : KernelConfig) (s : SockState) (c : Callback) : Prop :=
  ∃ allocated input flow switched, c = .congControl allocated input ∧
    congControlAdopt s.sk s.flow input = some (flow, switched) ∧ flow.config = config ∧
    c.exec K s = runOutcome K s.sk flow switched input

/-- The outcome of the call is computed on the flow as the call found it, which holds
`config`, whatever shared memory shows the call. -/
def ComputesFrom (K : Kernel) (config : KernelConfig) (s : SockState) (allocated : Bool)
    (input : AckInput) : Prop :=
  s.flow.config = config ∧ ∀ read seqNow,
    (Callback.congControl allocated { input with read := read, seqNow := seqNow }).exec K s =
      runOutcome K s.sk s.flow [] input

/-- No `skyline_init`, and no `cong_control` call whose sample ends the round. -/
def InRound (s : SockState) : Callback → Prop
  | .init .. => False
  | .congControl _ input =>
      skylineRoundReached input.sample s.flow.nextRoundDelivered = false
  | _ => True

/-! ### One callback -/

/-- What a successful adoption does to the configuration. -/
lemma adopt_config {flow : FlowState} {read : ConfigRead}
    (h : (skylineAdoptConfig flow read).2 = true) :
    read.slot = some (skylineAdoptConfig flow read).1.config := by
  obtain ⟨seq, copy, hread, -, hflow⟩ := adoptConfig_true h
  rw [hflow, hread]

/-- The call that computes from `config`, taken apart. -/
lemma exists_of_usedConfig {s : SockState} {c : Callback} {config : KernelConfig}
    (h : usedConfig s c = some config) :
    ∃ allocated input flow reports, c = .congControl allocated input ∧
      skylineFlowGet s.storage allocated = some s.flow ∧
      congControlAdopt s.sk s.flow input = some (flow, reports) ∧ flow.config = config := by
  cases c with
  | congControl allocated input =>
      obtain ⟨flow, hget, hrun⟩ := Option.bind_eq_some_iff.mp h
      obtain ⟨taken, hadopt, hconfig⟩ := Option.map_eq_some_iff.mp hrun
      obtain ⟨hnone, -⟩ | hflow := flowGet_cases s allocated
      · rw [hnone] at hget
        simp at hget
      · rw [hflow, Option.some.injEq] at hget
        rw [← hget] at hadopt
        exact ⟨allocated, input, taken.1, taken.2, rfl, hflow, hadopt, hconfig⟩
  | _ => simp [usedConfig] at h

/-- The state a `cong_control` call leaves runs on the configuration it computed
from. -/
lemma congControlRun_flow_config (K : Kernel) (sk : TcpSock) (flow : FlowState)
    (input : AckInput) : (congControlRun K sk flow input).2.1.config = flow.config :=
  congrArg FlowConfig.config (congControlRun_config K sk flow input)

/-- `skyline_init` on a socket no window has been stored to. -/
lemma exec_init (K : Kernel) {s : SockState} (hs : s.sk.cwndStored = false) (allocated : Bool)
    (read : ConfigRead) (nowNs : UInt64) :
    ((Callback.init allocated read nowNs).exec K s).state =
      (skylineInit s allocated read nowNs).1 := by
  rw [Callback.exec, ← hs]

lemma exec_congControl (K : Kernel) {s : SockState} (hs : s.sk.cwndStored = false)
    (allocated : Bool) (input : AckInput) :
    ((Callback.congControl allocated input).exec K s).state =
      (skylineCongControl K s allocated input).1 := by
  rw [Callback.exec, ← hs]

lemma changesProperly_init (K : Kernel) {s : SockState} (hs : s.sk.cwndStored = false)
    (allocated : Bool) (read : ConfigRead) (nowNs : UInt64) :
    ChangesProperly K withInitialCwnd s (.init allocated read nowNs) := by
  rw [ChangesProperly, StartsOver]
  dsimp only
  rw [exec_init K hs]
  have heff := initEffect s allocated read nowNs
  generalize (skylineInit s allocated read nowNs).1 = s' at heff ⊢
  intro hchange
  cases heff with
  | unallocated _ => exact absurd rfl hchange
  | refused _ _ => exact absurd rfl hchange
  | adopted flow sk _ _ _ hsk =>
      refine ⟨trivial, _, ?_, rfl, rfl⟩
      have hat : withInitialCwnd s (.init allocated read nowNs) flow.config = sk := hsk.symm
      rw [SockState.flow_some, show (skylineResetGeneration flow sk nowNs).config = flow.config
        from rfl, hat]
      exact modelReset flow sk nowNs

lemma changesProperly_congControl (K : Kernel) {s : SockState} (hs : s.sk.cwndStored = false)
    (allocated : Bool) (input : AckInput) :
    ChangesProperly K withInitialCwnd s (.congControl allocated input) := by
  rw [ChangesProperly, StartsOver]
  dsimp only
  rw [exec_congControl K hs]
  have heff := congControlEffect K s allocated input
  generalize (skylineCongControl K s allocated input).1 = s' at heff ⊢
  intro hchange
  cases heff with
  | unallocated _ => exact absurd rfl hchange
  | refused _ _ => exact absurd rfl hchange
  | ran flow reports _ hadopt =>
      rw [SockState.flow_some, congControlRun_flow_config] at hchange ⊢
      cases hadopt with
      | first hno _ => exact ⟨.inl hno, _, modelReset _ _ _, rfl, rfl⟩
      | kept _ _ => exact absurd rfl hchange
      | switched _ _ hround _ _ => exact ⟨.inr hround, _, modelReset _ _ _, rfl, rfl⟩

/-- Every callback changes the configuration properly. -/
lemma changesProperly (K : Kernel) {s : SockState} (hs : s.sk.cwndStored = false) (c : Callback) :
    ChangesProperly K withInitialCwnd s c := by
  have hquiet : c.Quiet → ChangesProperly K withInitialCwnd s c :=
    fun hq hchange => absurd (quietEffect K hq s).config hchange
  cases c with
  | init allocated read nowNs => exact changesProperly_init K hs allocated read nowNs
  | congControl allocated input => exact changesProperly_congControl K hs allocated input
  | _ => exact hquiet trivial

/-! ### What a connection runs on -/

/-- The connection runs on `config`. -/
def RunsOn (config : KernelConfig) (s : SockState) : Prop :=
  s.flow.config = config ∧ config.abiVersion = abiVersion

lemma RunsOn.hasConfig {config : KernelConfig} {s : SockState} (h : RunsOn config s) :
    skylineHasConfig s.flow = true := by
  rw [skylineHasConfig, h.1]
  exact beq_iff_eq.mpr h.2

/-- Storage that holds a configuration is there, whatever an allocation would do. -/
lemma flowGet_of_hasConfig {s : SockState} (h : skylineHasConfig s.flow = true)
    (allocated : Bool) : skylineFlowGet s.storage allocated = some s.flow := by
  obtain ⟨-, hs⟩ | hget := flowGet_cases s allocated
  · rw [SockState.flow, hs] at h
    exact absurd h (by decide)
  · exact hget

/-- A `cong_control` call within a round computes from what the connection runs on. -/
lemma usedConfig_of_runsOn {config : KernelConfig} {s : SockState} {allocated : Bool}
    {input : AckInput} (h : RunsOn config s)
    (hround : skylineRoundReached input.sample s.flow.nextRoundDelivered = false) :
    usedConfig s (.congControl allocated input) = some config := by
  simp [usedConfig, flowGet_of_hasConfig h.hasConfig allocated, congControlAdopt, h.hasConfig,
    hround, h.1]

/-- What a `cong_control` call leaves and reports, once it has a configuration. -/
lemma exec_congControl_run (K : Kernel) {s : SockState} (hs : s.sk.cwndStored = false)
    {allocated : Bool} {input : AckInput} {flow : FlowState} {switched : List Report}
    (hget : skylineFlowGet s.storage allocated = some s.flow)
    (hadopt : congControlAdopt s.sk s.flow input = some (flow, switched)) :
    (Callback.congControl allocated input).exec K s = runOutcome K s.sk flow switched input := by
  rw [Callback.exec, ← hs]
  simp only [skylineCongControl, hget, hadopt, runOutcome]

/-- Within a round the outcome of a call is computed on the flow it found, and shared
memory has no part in it. -/
lemma computesFrom_of_runsOn (K : Kernel) {config : KernelConfig} {s : SockState}
    {allocated : Bool} {input : AckInput} (hs : s.sk.cwndStored = false) (h : RunsOn config s)
    (hround : skylineRoundReached input.sample s.flow.nextRoundDelivered = false) :
    ComputesFrom K config s allocated input := by
  refine ⟨h.1, fun read seqNow => ?_⟩
  have hkept : congControlAdopt s.sk s.flow { input with read := read, seqNow := seqNow } =
      some (s.flow, []) := by
    simp [congControlAdopt, h.hasConfig, hround]
  -- the second part of the callback does not look at `read` and `seqNow`
  exact exec_congControl_run K hs (flowGet_of_hasConfig h.hasConfig allocated) hkept

/-- The outcome of a call that gets as far as computing. -/
lemma runsFrom_of_usedConfig (K : Kernel) {config : KernelConfig} {s : SockState} {c : Callback}
    (hs : s.sk.cwndStored = false) (h : usedConfig s c = some config) :
    RunsFrom K config s c := by
  obtain ⟨allocated, input, flow, reports, rfl, hget, hadopt, hconfig⟩ := exists_of_usedConfig h
  exact ⟨allocated, input, flow, reports, rfl, hadopt, hconfig,
    exec_congControl_run K hs hget hadopt⟩

/-- A call leaves the connection on what it computed from. -/
lemma runsOn_of_usedConfig (K : Kernel) {config : KernelConfig} {s : SockState} {c : Callback}
    (hs : s.sk.cwndStored = false) (h : usedConfig s c = some config) :
    RunsOn config (c.exec K s).state := by
  obtain ⟨allocated, input, flow, reports, rfl, hget, hrun, rfl⟩ := exists_of_usedConfig h
  have hadopt := adopts_of_congControl s.sk s.flow input
  rw [hrun] at hadopt
  have hhas := hadopt.hasConfig
  rw [skylineHasConfig, beq_iff_eq] at hhas
  refine ⟨?_, hhas⟩
  rw [exec_congControl K hs, skylineCongControl, hget]
  simp only [hrun]
  rw [SockState.flow_some, congControlRun_flow_config]

/-- Within a round a connection keeps what it runs on. -/
lemma runsOn_exec (K : Kernel) {config : KernelConfig} {s : SockState} {c : Callback}
    (hs : s.sk.cwndStored = false) (h : RunsOn config s) (hround : InRound s c) :
    RunsOn config (c.exec K s).state := by
  have hquiet : c.Quiet → RunsOn config (c.exec K s).state :=
    fun hq => ⟨(quietEffect K hq s).config.trans h.1, h.2⟩
  cases c with
  | init => exact hround.elim
  | congControl allocated input => exact runsOn_of_usedConfig K hs (usedConfig_of_runsOn h hround)
  | _ => exact hquiet trivial

/-! ### Publication -/

/-- A connection with a configuration has a published one. -/
def HasPublished (published : Set KernelConfig) (s : SockState) : Prop :=
  skylineHasConfig s.flow = true → s.flow.config ∈ published

/-- What an adoption takes is published. -/
lemma adopt_published {published : Set KernelConfig} {flow : FlowState} {read : ConfigRead}
    (hread : (skylineAdoptConfig FlowState.zero read).2 = true → ∃ config ∈ published,
      read.slot = some config)
    (h : (skylineAdoptConfig flow read).2 = true) :
    (skylineAdoptConfig flow read).1.config ∈ published := by
  obtain ⟨config, hmem, hslot⟩ := hread (by rw [adoptConfig_snd _ flow]; exact h)
  rw [adopt_config h, Option.some.injEq] at hslot
  rw [hslot]
  exact hmem

/-- A `cong_control` call that runs computes from a published configuration. -/
lemma usedConfig_published {published : Set KernelConfig} {s : SockState} {c : Callback}
    {config : KernelConfig} (hs : HasPublished published s) (hread : c.ReadsFrom published)
    (h : usedConfig s c = some config) : config ∈ published := by
  obtain ⟨allocated, input, flow, reports, rfl, -, hrun, rfl⟩ := exists_of_usedConfig h
  have hadopt := adopts_of_congControl s.sk s.flow input
  rw [hrun] at hadopt
  cases hadopt with
  | first _ hok => exact adopt_published hread hok
  | kept hhas _ => exact hs hhas
  | switched _ _ _ _ hok => exact adopt_published hread hok

/-- What a connection holds stays published. -/
lemma hasPublished_exec (K : Kernel) {published : Set KernelConfig} {s : SockState} {c : Callback}
    (hs : s.sk.cwndStored = false) (h : HasPublished published s)
    (hread : c.ReadsFrom published) : HasPublished published (c.exec K s).state := by
  have hquiet : c.Quiet → HasPublished published (c.exec K s).state := by
    intro hq
    rw [HasPublished, skylineHasConfig, (quietEffect K hq s).config]
    exact h
  cases c with
  | init allocated read nowNs =>
      rw [exec_init K hs]
      have heff := initEffect s allocated read nowNs
      generalize (skylineInit s allocated read nowNs).1 = s' at heff ⊢
      cases heff with
      | unallocated _ => exact h
      | refused _ _ => exact h
      | adopted flow sk _ hok hflow _ =>
          intro _
          rw [SockState.flow_some]
          show flow.config ∈ published
          rw [hflow]
          exact adopt_published hread hok
  | congControl allocated input =>
      rw [exec_congControl K hs]
      have heff := congControlEffect K s allocated input
      generalize (skylineCongControl K s allocated input).1 = s' at heff ⊢
      cases heff with
      | unallocated _ => exact h
      | refused _ _ => exact h
      | ran flow reports hget hadopt =>
          intro _
          rw [SockState.flow_some, congControlRun_flow_config]
          cases hadopt with
          | first _ hok => exact adopt_published hread hok
          | kept hhas _ => exact h hhas
          | switched _ _ _ _ hok => exact adopt_published hread hok
  | _ => exact hquiet trivial

/-! ### One configuration a round -/

/-- **No round runs on a mix of two configurations.**  For every run of callbacks, with
any kernel in between and any publications: the configuration of a connection
changes only in `skyline_init`, in a `cong_control` call before which it had none,
or in one whose sample ends the round; a change starts the model over, from the
socket as the callback found it and before anything is computed from the new
configuration, except that `skyline_init` has put the new initial window in place.
And once a `cong_control` call has computed pacing and window from a configuration,
which is a published one, all calls up to the next `skyline_init` or round end
compute their whole outcome on a flow that holds the same, and no publication in
between changes it. -/
theorem config_one_per_round (K : Kernel) (published : Set KernelConfig) (sk₀ : TcpSock)
    (es : List ConfigEvent) (hread : ∀ e ∈ es, e.callback.ReadsFrom published) :
    Along (configStep K)
        (fun s e => ChangesProperly K withInitialCwnd (e.before s) e.callback) ⟨sk₀, none⟩ es ∧
      ∀ es₁ e₀ mid e, es = es₁ ++ e₀ :: (mid ++ [e]) → ∀ config,
        let s := es₁.foldl (configStep K) ⟨sk₀, none⟩
        usedConfig (e₀.before s) e₀.callback = some config →
        Along (configStep K) (fun s e => InRound (e.before s) e.callback) (configStep K s e₀)
          (mid ++ [e]) →
        (config ∈ published ∧ RunsFrom K config (e₀.before s) e₀.callback) ∧
          ∀ allocated input, e.callback = .congControl allocated input →
            let s' := e.before (mid.foldl (configStep K) (configStep K s e₀))
            usedConfig s' e.callback = some config ∧ ComputesFrom K config s' allocated input := by
  constructor
  · exact along_mono (I := fun _ => True) (fun _ _ _ _ => trivial)
      (fun s e _ _ => changesProperly K rfl e.callback) es _ trivial (along_of_forall es _ hread)
  · intro es₁ e₀ mid e hes config s hused hround
    have hpub : HasPublished published s := by
      refine along_invariant (P := fun _ e => e.callback.ReadsFrom published)
        (fun s e hs he => hasPublished_exec K (s := e.before s) rfl hs he) es₁ _ ?_ ?_
      · intro hhas
        exact absurd (show skylineHasConfig FlowState.zero = true from hhas) (by decide)
      · exact along_of_forall es₁ _ fun e he => hread e (by simp [hes, he])
    have hruns : RunsOn config (configStep K s e₀) := runsOn_of_usedConfig K rfl hused
    obtain ⟨hmid, hlast, -⟩ := (along_append mid [e] _).mp hround
    have hend : RunsOn config (mid.foldl (configStep K) (configStep K s e₀)) :=
      along_invariant (fun s e hs he => runsOn_exec K (s := e.before s) rfl hs he) mid _ hruns hmid
    refine ⟨⟨usedConfig_published (s := e₀.before s) hpub (hread e₀ (by simp [hes])) hused,
      runsFrom_of_usedConfig K rfl hused⟩, ?_⟩
    intro allocated input he
    rw [he] at hlast ⊢
    -- the kernel moved the socket on, not the flow
    have hat : RunsOn config (e.before (mid.foldl (configStep K) (configStep K s e₀))) := hend
    exact ⟨usedConfig_of_runsOn hat hlast, computesFrom_of_runsOn K rfl hat hlast⟩

/-- The input of the ACK of a packet sent after `prior` deliveries. -/
def ackInput (prior : UInt32) (input : AckInput) : AckInput :=
  { input with sample := { input.sample with priorDelivered := prior } }

/-- The ACK of a packet sent after `prior` deliveries, the `delivered`-th itself. -/
def ackEvent (delivered prior : UInt32) (input : AckInput) : ConfigEvent :=
  ⟨fun sk => { sk with delivered := delivered, packetsOut := 10, srttUs := 320000 },
    .congControl true (ackInput prior input)⟩

/-- What an ACK reads after a second configuration went out. -/
def midRoundInput : AckInput :=
  { AckInput.of .tenSegments .speeder with
    seqNow := some 2, read := .of { KernelConfig.speeder with generation := 2 } 2 }

/-- An ACK in the middle of the second round, after a second configuration went out. -/
def midRoundAck : ConfigEvent := ackEvent 16 11 midRoundInput

/-- The connection as that ACK finds it, in its second round on the first configuration. -/
def midRoundState : SockState :=
  midRoundAck.before ([⟨id, .init true (.of .speeder 1) 1000000⟩,
    ackEvent 11 1 (.of .tenSegments .speeder)].foldl (configStep Kernel.linux)
      ⟨TcpSock.established, none⟩)

/-- The connection finishes its second round on the first configuration. -/
theorem config_one_per_round_publish :
    usedConfig midRoundState midRoundAck.callback = some .speeder ∧
      ComputesFrom Kernel.linux .speeder midRoundState true (ackInput 11 midRoundInput) := by
  let start : ConfigEvent := ⟨id, .init true (.of .speeder 1) 1000000⟩
  let ack : ConfigEvent := ackEvent 11 1 (.of .tenSegments .speeder)
  have hread : ∀ e ∈ [start, ack, midRoundAck], e.callback.ReadsFrom
      {KernelConfig.speeder, { KernelConfig.speeder with generation := 2 }} := by
    intro e he
    simp only [List.mem_cons, List.not_mem_nil, or_false] at he
    obtain rfl | rfl | rfl := he
    · exact fun _ => ⟨.speeder, .inl rfl, rfl⟩
    · exact fun _ => ⟨.speeder, .inl rfl, rfl⟩
    · exact fun _ => ⟨_, .inr rfl, rfl⟩
  obtain ⟨-, hround⟩ := config_one_per_round Kernel.linux _ TcpSock.established
    [start, ack, midRoundAck] hread
  have hused : usedConfig (ack.before (configStep Kernel.linux ⟨TcpSock.established, none⟩ start))
      ack.callback = some .speeder := by decide +kernel
  exact (hround [start] ack [] midRoundAck rfl .speeder hused
    ⟨show skylineRoundReached _ _ = false by decide +kernel, trivial⟩).2 _ _ rfl

/-- The reset does not come first in `skyline_init`: the window it snapshots is the new
configuration's `initial_cwnd_packets` already, not the one the callback found. -/
theorem init_reads_initial_cwnd_first :
    ¬ ChangesProperly Kernel.linux asFound ⟨TcpSock.established, none⟩
      (.init true (.of .speeder 1) 1000000) := by
  intro h
  obtain ⟨-, flow, hreset, -, hstorage⟩ := h (by decide +kernel)
  have hfound : flow.priorCwnd = 10 := hreset.window.1
  have hset : ((Callback.init true (.of .speeder 1) 1000000).exec Kernel.linux
      ⟨TcpSock.established, none⟩).state.storage.map (fun f => f.priorCwnd) = some 100 := by
    decide +kernel
  rw [show _ = some flow from hstorage, Option.map_some, hfound] at hset
  exact absurd hset (by decide)

end SkylineSpeeder
