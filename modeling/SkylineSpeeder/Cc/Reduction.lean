import SkylineSpeeder.Cc.Frame
import SkylineSpeeder.Machine.Run

/-!
A connection through its reductions: the CA states the kernel sets, and the two
records the congestion control keeps of them, `recovery_active` and
`prr_delivered`.

* `adoptsNow`, `taken`, `congControl_storage`: `skyline_cong_control` either starts the
  model over, or keeps the configuration it has;
* `Episode`, `EpisodeEvent`, `Episode.step`: the connection with the kernel's part in a
  reduction.  Two ghosts record what PRR should have counted, and from which window;
* `recoveryActive_tracks`: the flag follows the CA state as long as no configuration is
  adopted during a reduction;
* `KernelMove`, `Episode.move`: what the kernel does at once, `tcp_enter_loss` included;
* `prr_counts`: PRR starts from the window, and counts since, the reset of the kernel's own
  counter or the last configuration adopted after that.
-/

namespace SkylineSpeeder

open Machine
open Word (maxT)

/-- `CWR`, `Recovery` and `Loss`: a reduction is under way. -/
def CaState.reduced : CaState → Bool
  | .cwr | .recovery | .loss => true
  | .opened | .disorder => false

/-- `tcp_in_cwnd_reduction`: `CWR` and `Recovery`, where the kernel counts what it
sends. -/
def CaState.counting : CaState → Bool
  | .cwr | .recovery => true
  | .opened | .disorder | .loss => false

/-! ### What `skyline_cong_control` does to the fields of a reduction -/

/-- Whether `skyline_cong_control` adopts a configuration on this ACK: its first, or at a
round end a newer one. -/
def adoptsNow (flow : FlowState) (input : AckInput) : Bool :=
  (skylineAdoptConfig flow input.read).2 &&
    (!skylineHasConfig flow ||
      (skylineRoundReached input.sample flow.nextRoundDelivered &&
        (input.seqNow.isSome && decide (input.seqNow ≠ some flow.configSeq))))

/-- The state the second part of `skyline_cong_control` works on. -/
def taken (sk : TcpSock) (flow : FlowState) (input : AckInput) : FlowState :=
  if adoptsNow flow input then
    skylineResetGeneration (skylineAdoptConfig flow input.read).1 sk input.resetNs
  else flow

lemma Adopts.taken_eq {sk : TcpSock} {flow flow' : FlowState} {input : AckInput}
    {reports : List Report} (h : Adopts sk flow input (some (flow', reports))) :
    flow' = taken sk flow input := by
  rw [taken]
  cases h with
  | first hno hread =>
      rw [if_pos (by simp [adoptsNow, hno, hread])]
  | kept hhas hwhy =>
      rw [if_neg]
      rcases hwhy with hround | hseq | hread
      · simp [adoptsNow, hhas, hround]
      · simp only [adoptsNow, hhas, Bool.not_true, Bool.false_or, Bool.and_eq_true,
          decide_eq_true_eq]
        exact fun h => hseq h.2.2
      · simp [adoptsNow, hread]
  | switched _ hhas hround hseq hread =>
      rw [if_pos]
      simp only [adoptsNow, hhas, hround, hread, Bool.not_true, Bool.false_or, Bool.true_and,
        Bool.and_eq_true, decide_eq_true_eq]
      exact hseq

/-- The second part of `skyline_cong_control` keeps the flag and the window PRR starts
from; where PRR runs it counts the ACK. -/
lemma congControlRun_episode (K : Kernel) (sk : TcpSock) (flow : FlowState) (input : AckInput) :
    (congControlRun K sk flow input).2.1.recoveryActive = flow.recoveryActive ∧
    (congControlRun K sk flow input).2.1.priorCwnd = flow.priorCwnd ∧
    (prrRuns sk flow.config = true → flow.priorCwnd ≠ 0 →
      (congControlRun K sk flow input).2.1.prrDelivered =
        flow.prrDelivered + input.sample.ackedSacked) := by
  have hpaced := applyPacing_frame sk (modelled sk flow input) flow.config
  have hcubic := modelled_cubic sk flow input
  have hactive : (modelled sk flow input).recoveryActive = flow.recoveryActive :=
    congrArg FlowCubic.recoveryActive hcubic
  have hprior : (modelled sk flow input).priorCwnd = flow.priorCwnd :=
    congrArg FlowCubic.priorCwnd hcubic
  have hdelivered : (modelled sk flow input).prrDelivered = flow.prrDelivered :=
    congrArg FlowCubic.prrDelivered hcubic
  have hruns : prrRuns (skylineApplyPacing sk (modelled sk flow input) flow.config).1
      (modelled sk flow input).config = prrRuns sk flow.config := by
    rw [prrRuns, hpaced.state, congrArg FlowConfig.config (modelled_config sk flow input)]
    rfl
  rw [congControlRun_flow]
  cases hprr : prrRuns sk flow.config with
  | false =>
      have hframe := setWindow_episode K input (hruns.trans hprr)
      exact ⟨hframe.active.trans hactive, hframe.prior.trans hprior, fun h => by simp at h⟩
  | true =>
      rw [setWindow_prr K (hruns.trans hprr), skylineApplyPrr]
      by_cases hidle : input.sample.ackedSacked = 0 ∨ (modelled sk flow input).priorCwnd = 0
      · rw [if_pos hidle]
        refine ⟨hactive, hprior, fun _ hne => ?_⟩
        have hacked : input.sample.ackedSacked = 0 :=
          hidle.resolve_right fun h => hne (hprior ▸ h)
        rw [hacked, UInt32.add_zero]
        exact hdelivered
      · rw [if_neg hidle]
        exact ⟨hactive, hprior, fun _ _ => congrArg (· + input.sample.ackedSacked) hdelivered⟩

/-- `skyline_cong_control` on a socket with storage. -/
lemma congControl_storage (K : Kernel) (s : SockState) (allocated : Bool) (input : AckInput)
    (hget : skylineFlowGet s.storage allocated = some s.flow) :
    (skylineHasConfig (taken s.sk s.flow input) = false ∧
      (skylineCongControl K s allocated input).1.storage = some s.flow ∧
      adoptsNow s.flow input = false) ∨
    (skylineHasConfig (taken s.sk s.flow input) = true ∧
      (skylineCongControl K s allocated input).1.storage =
        some (congControlRun K s.sk (taken s.sk s.flow input) input).2.1) := by
  rw [skylineCongControl, hget]
  have hadopt := adopts_of_congControl s.sk s.flow input
  cases h : congControlAdopt s.sk s.flow input with
  | none =>
      rw [h] at hadopt
      cases hadopt with
      | refused hno hread =>
          have hnow : adoptsNow s.flow input = false := by simp [adoptsNow, hread]
          refine .inl ⟨?_, by simp [h], hnow⟩
          rw [taken, hnow]
          exact hno
  | some pair =>
      obtain ⟨flow, reports⟩ := pair
      rw [h] at hadopt
      have htaken := hadopt.taken_eq
      refine .inr ⟨htaken ▸ hadopt.hasConfig, ?_⟩
      simp [h, ← htaken]

/-! ### The other callbacks -/

/-- The storage read back. -/
lemma flow_of_storage {s : SockState} {flow : FlowState} (h : s.storage = some flow) :
    s.flow = flow := by
  rw [SockState.flow, h]
  rfl

/-- A configuration is held in storage. -/
lemma storage_of_hasConfig {s : SockState} (h : skylineHasConfig s.flow = true) :
    s.storage.isSome = true := by
  rw [Option.isSome_iff_ne_none]
  intro hnone
  rw [SockState.flow, hnone] at h
  exact absurd h (by decide)

/-- The fields of a reduction, in storage that was there or in storage a callback
creates. -/
lemma episode_of_storage {s s' : SockState} {flow : FlowState} (h : s'.storage = some flow)
    (hflow : EpisodeFrame s.flow flow) : EpisodeFrame s.flow s'.flow := by
  rw [flow_of_storage h]
  exact hflow

lemma undoCwnd_episode (K : Kernel) (s : SockState) (allocated : Bool) :
    EpisodeFrame s.flow (skylineUndoCwnd K s allocated).1.flow := by
  rw [skylineUndoCwnd]
  obtain ⟨hget, -⟩ | hget := flowGet_cases s allocated
  · rw [hget]
    exact EpisodeFrame.refl s.flow
  · rw [hget]
    exact episode_of_storage rfl (EpisodeFrame.refl s.flow)

lemma txStart_episode (s : SockState) (allocated : Bool) (nowNs : UInt64) :
    EpisodeFrame s.flow (skylineTxStart s allocated nowNs).flow := by
  rw [skylineTxStart]
  obtain ⟨hget, -⟩ | hget := flowGet_cases s allocated
  · rw [hget]
    exact EpisodeFrame.refl s.flow
  · rw [hget]
    exact episode_of_storage rfl ⟨rfl, rfl, rfl⟩

lemma release_episode (s : SockState) : EpisodeFrame s.flow (skylineRelease s).1.flow := by
  rw [skylineRelease]
  cases hs : s.storage with
  | none => exact EpisodeFrame.refl s.flow
  | some flow =>
      dsimp only
      split_ifs
      · exact EpisodeFrame.refl s.flow
      · refine episode_of_storage rfl ?_
        rw [flow_of_storage hs]
        exact ⟨rfl, rfl, rfl⟩

/-- `skyline_ssthresh` records the window, on a flow with a configuration. -/
lemma ssthresh_episode (s : SockState) (allocated : Bool) :
    (skylineSsthresh s allocated).1.flow.recoveryActive = s.flow.recoveryActive ∧
    (skylineHasConfig s.flow = true →
      (skylineSsthresh s allocated).1.flow.priorCwnd = s.sk.sndCwnd) := by
  rw [skylineSsthresh]
  obtain ⟨hget, hs⟩ | hget := flowGet_cases s allocated
  · rw [hget]
    refine ⟨rfl, fun h => ?_⟩
    rw [SockState.flow, hs] at h
    exact absurd h (by decide)
  · rw [hget]
    dsimp only
    cases hhas : skylineHasConfig s.flow with
    | false => exact ⟨rfl, fun h => by simp at h⟩
    | true => exact ⟨rfl, fun _ => rfl⟩

/-- `skyline_set_state` on a socket with storage: the flag says whether the new state is
a reduction, and PRR starts over in `CWR` and `Recovery`. -/
lemma setState_episode {s : SockState} (hs : s.storage.isSome = true) (allocated : Bool)
    (newState : CaState) :
    (skylineSetState s allocated newState).flow.recoveryActive = newState.reduced ∧
    (skylineSetState s allocated newState).flow.priorCwnd = s.flow.priorCwnd ∧
    (newState.counting = true →
      (skylineSetState s allocated newState).flow.prrDelivered = 0) := by
  obtain ⟨flow, hflow⟩ := Option.isSome_iff_exists.mp hs
  have hget : skylineFlowGet s.storage allocated = some s.flow := by
    simp [skylineFlowGet, SockState.flow, hflow]
  have hend : (endReduction s s.flow).flow.recoveryActive = false ∧
      (endReduction s s.flow).flow.priorCwnd = s.flow.priorCwnd := by
    rw [endReduction]
    cases hactive : s.flow.recoveryActive with
    | false => exact ⟨hactive, rfl⟩
    | true =>
        simp only [Bool.not_true, Bool.false_eq_true, if_false]
        split <;> exact ⟨rfl, rfl⟩
  rw [skylineSetState, hget]
  cases newState with
  | opened => exact ⟨hend.1, hend.2, fun h => by simp [CaState.counting] at h⟩
  | disorder => exact ⟨hend.1, hend.2, fun h => by simp [CaState.counting] at h⟩
  | cwr => exact ⟨rfl, rfl, fun _ => rfl⟩
  | recovery => exact ⟨rfl, rfl, fun _ => rfl⟩
  | loss => exact ⟨rfl, rfl, fun h => by simp [CaState.counting] at h⟩

/-! ### The connection -/

/-- A connection with the kernel's record of the reduction: the CA state it last set and
`prr_out`.  The other fields are ghosts: the window PRR has to start from, what it has to
have counted, and whether `CWR` or `Recovery` was set again since. -/
structure Episode where
  sock : SockState
  ca : CaState
  prrOut : UInt32
  start : UInt32
  acked : ℕ
  again : Bool

/-- What happens to it: a callback, after the kernel wrote the socket; a change of the CA
state; segments sent. -/
inductive EpisodeEvent where
  | call (kernel : TcpSock → TcpSock) (callback : Callback)
  | setCaState (kernel : TcpSock → TcpSock) (allocated allocated' : Bool) (newState : CaState)
  | transmit (segments : UInt32)

/-- The callbacks of a connection while it holds the congestion control, but
`set_state`. -/
def Callback.Ordinary : Callback → Prop
  | .init .. => False
  | .setState .. => False
  | _ => True

instance (callback : Callback) : Decidable callback.Ordinary := by
  cases callback <;> unfold Callback.Ordinary <;> infer_instance

/-- `tcp_init_cwnd_reduction`: `prr_out` starts over, and the congestion control is asked
for the new `snd_ssthresh`. -/
def tcpInitCwndReduction (s : SockState) (allocated : Bool) : SockState :=
  let (t, ssthresh) := skylineSsthresh { s with sk := { s.sk with prrOut := 0 } } allocated
  { t with sk := { t.sk with sndSsthresh := ssthresh } }

lemma initCwndReduction_quiet (s : SockState) (allocated : Bool) :
    QuietEffect s (tcpInitCwndReduction s allocated) := by
  have hquiet := ssthresh_quiet { s with sk := { s.sk with prrOut := 0 } } allocated
  exact ⟨hquiet.config, hquiet.seq, hquiet.path, hquiet.storage⟩

/-- It keeps the flag, and records the window on a flow with a configuration. -/
lemma initCwndReduction_episode (s : SockState) (allocated : Bool) :
    (tcpInitCwndReduction s allocated).flow.recoveryActive = s.flow.recoveryActive ∧
    (skylineHasConfig s.flow = true →
      (tcpInitCwndReduction s allocated).flow.priorCwnd = s.sk.sndCwnd) :=
  ssthresh_episode { s with sk := { s.sk with prrOut := 0 } } allocated

lemma initCwndReduction_cwnd (s : SockState) (allocated : Bool) :
    (tcpInitCwndReduction s allocated).sk.sndCwnd = s.sk.sndCwnd := by
  have hsk := ssthresh_sk { s with sk := { s.sk with prrOut := 0 } } allocated
  rw [tcpInitCwndReduction]
  dsimp only
  rw [hsk]

namespace Episode

/-- The socket as the next callback finds it; the CA state and `prr_out` only the kernel
writes. -/
def found (c : Episode) (kernel : TcpSock → TcpSock) : SockState :=
  { c.sock with
    sk := { kernel c.sock.sk with icskCaState := c.ca, prrOut := c.prrOut, cwndStored := false } }

/-- The ghosts after a callback: an adoption starts the count over, at the window it
finds. -/
def credit (c : Episode) (s : SockState) : Callback → Episode
  | .congControl allocated input =>
      if (skylineFlowGet s.storage allocated).isSome && adoptsNow s.flow input then
        { c with
          start := s.sk.sndCwnd, acked := input.sample.ackedSacked.toNat, again := false }
      else { c with acked := c.acked + input.sample.ackedSacked.toNat }
  | _ => c

/-- One event.  The kernel calls `tcp_init_cwnd_reduction` on the way to `CWR` or `Recovery`
from another state, and only there, and `set_state` at every change. -/
def step (K : Kernel) (c : Episode) : EpisodeEvent → Episode
  | .transmit segments => if c.ca.counting then { c with prrOut := c.prrOut + segments } else c
  | .call kernel callback =>
      { c.credit (c.found kernel) callback with sock := (callback.exec K (c.found kernel)).state }
  | .setCaState kernel allocated allocated' newState =>
      let s := c.found kernel
      if newState.counting && !c.ca.counting then
        { sock := skylineSetState (tcpInitCwndReduction s allocated) allocated' newState
          ca := newState
          prrOut := 0
          start := s.sk.sndCwnd
          acked := 0
          again := false }
      else
        { c with
          sock := skylineSetState s allocated' newState
          ca := newState
          again := c.again || (newState.counting && c.ca.counting) }

end Episode

/-! ### The flag -/

/-- What the flag needs of a step: the connection keeps the congestion control, and no
configuration is adopted during a reduction. -/
def SettledConfig (c : Episode) : EpisodeEvent → Prop
  | .call kernel callback => callback.Ordinary ∧
      match callback with
      | .congControl _ input =>
          c.ca.reduced = true → adoptsNow (c.found kernel).flow input = false
      | _ => True
  | _ => True

/-- The flag follows the CA state. -/
structure Tracks (c : Episode) : Prop where
  storage : c.sock.storage.isSome = true
  active : c.sock.flow.recoveryActive = c.ca.reduced

/-- A reset ends whatever reduction was recorded. -/
lemma taken_active (sk : TcpSock) (flow : FlowState) (input : AckInput) :
    (taken sk flow input).recoveryActive =
      if adoptsNow flow input then false else flow.recoveryActive := by
  rw [taken]
  split <;> rfl

/-- Storage once there stays, through every callback. -/
lemma exec_storage (K : Kernel) {callback : Callback} (h : callback.Ordinary) {s : SockState}
    (hs : s.storage.isSome = true) : (callback.exec K s).state.storage.isSome = true := by
  cases callback with
  | init => exact h.elim
  | congControl allocated input =>
      have hget : skylineFlowGet s.storage allocated = some s.flow := by
        obtain ⟨flow, hflow⟩ := Option.isSome_iff_exists.mp hs
        simp [skylineFlowGet, SockState.flow, hflow]
      obtain ⟨-, hstorage, -⟩ | ⟨-, hstorage⟩ := congControl_storage K
        { s with sk := { s.sk with cwndStored := false } } allocated input hget
      · exact congrArg Option.isSome hstorage
      · exact congrArg Option.isSome hstorage
  | _ => exact (quietEffect K (by trivial) s).storage hs

/-- The flag through an ordinary callback: only an adoption writes it. -/
lemma exec_active (K : Kernel) {callback : Callback} (h : callback.Ordinary) {s : SockState}
    (hs : s.storage.isSome = true)
    (hkeeps : ∀ allocated input, callback = .congControl allocated input →
      s.flow.recoveryActive = true → adoptsNow s.flow input = false) :
    (callback.exec K s).state.flow.recoveryActive = s.flow.recoveryActive := by
  cases callback with
  | init => exact h.elim
  | setState => exact h.elim
  | congControl allocated input =>
      obtain ⟨flow, hflow⟩ := Option.isSome_iff_exists.mp hs
      have hget : skylineFlowGet s.storage allocated = some s.flow := by
        simp [skylineFlowGet, SockState.flow, hflow]
      set s₀ : SockState := { s with sk := { s.sk with cwndStored := false } } with hs₀
      -- only a configuration that is adopted ends the episode, and none is
      have hactive : (taken s₀.sk s.flow input).recoveryActive = s.flow.recoveryActive := by
        rw [taken_active]
        split_ifs with hadopts
        · cases hon : s.flow.recoveryActive with
          | false => rfl
          | true =>
              rw [hkeeps allocated input rfl hon] at hadopts
              exact absurd hadopts Bool.false_ne_true
        · rfl
      obtain ⟨-, hstorage, -⟩ | ⟨-, hstorage⟩ := congControl_storage K s₀ allocated input hget
      · exact congrArg (fun flow : FlowState => flow.recoveryActive) (flow_of_storage hstorage)
      · have hsame := flow_of_storage hstorage
        calc (Callback.exec K (.congControl allocated input) s).state.flow.recoveryActive
            = (congControlRun K s₀.sk (taken s₀.sk s.flow input) input).2.1.recoveryActive :=
              congrArg (fun flow : FlowState => flow.recoveryActive) hsame
          _ = (taken s₀.sk s.flow input).recoveryActive :=
              (congControlRun_episode K s₀.sk _ input).1
          _ = s.flow.recoveryActive := hactive
  | ssthresh allocated =>
      exact (ssthresh_episode { s with sk := { s.sk with cwndStored := false } } allocated).1
  | undoCwnd allocated =>
      exact (undoCwnd_episode K { s with sk := { s.sk with cwndStored := false } } allocated).active
  | cwndEvent txStart allocated nowNs =>
      cases txStart with
      | false => rfl
      | true =>
          exact (txStart_episode { s with sk := { s.sk with cwndStored := false } } allocated
            nowNs).active
  | cwndEventTxStart allocated nowNs =>
      exact (txStart_episode { s with sk := { s.sk with cwndStored := false } } allocated
        nowNs).active
  | release => exact (release_episode { s with sk := { s.sk with cwndStored := false } }).active

/-- The ghosts aside, a callback changes the socket and its storage. -/
lemma credit_ca (c : Episode) (s : SockState) (callback : Callback) :
    (c.credit s callback).ca = c.ca := by
  cases callback with
  | congControl allocated input =>
      rw [Episode.credit]
      split <;> rfl
  | _ => rfl

/-- One step keeps the flag in line with the CA state. -/
lemma tracks_step (K : Kernel) (c : Episode) (e : EpisodeEvent) (hc : Tracks c)
    (he : SettledConfig c e) : Tracks (c.step K e) := by
  cases e with
  | transmit segments =>
      rw [Episode.step]
      split
      · exact ⟨hc.storage, hc.active⟩
      · exact hc
  | call kernel callback =>
      obtain ⟨hordinary, hadopt⟩ := he
      refine ⟨exec_storage K hordinary hc.storage, ?_⟩
      have hactive := exec_active K hordinary (s := c.found kernel) hc.storage (by
        rintro allocated input rfl hon
        exact hadopt (hc.active ▸ hon))
      calc (c.step K (.call kernel callback)).sock.flow.recoveryActive
          = c.sock.flow.recoveryActive := hactive
        _ = c.ca.reduced := hc.active
        _ = (c.step K (.call kernel callback)).ca.reduced :=
            congrArg CaState.reduced (credit_ca c (c.found kernel) callback).symm
  | setCaState kernel allocated allocated' newState =>
      -- on either way `set_state` finds the storage and records the new state
      have hset : ∀ s : SockState, s.storage.isSome = true →
          (skylineSetState s allocated' newState).storage.isSome = true ∧
          (skylineSetState s allocated' newState).flow.recoveryActive = newState.reduced :=
        fun s hs => ⟨(setState_quiet s allocated' newState).storage hs,
          (setState_episode hs allocated' newState).1⟩
      have hfound : (c.found kernel).storage.isSome = true := hc.storage
      rw [Episode.step]
      split
      · obtain ⟨hstorage, hactive⟩ := hset _ ((initCwndReduction_quiet _ allocated).storage hfound)
        exact ⟨hstorage, hactive⟩
      · obtain ⟨hstorage, hactive⟩ := hset _ hfound
        exact ⟨hstorage, hactive⟩

/-- What `skyline_set_state` stores, without M2: at the end of a reduction the snap to
`snd_ssthresh`, and nothing at any other change. -/
lemma setState_cwnd {s : SockState} (hs : s.storage.isSome = true)
    (hhas : skylineHasConfig s.flow = true)
    (hm2 : s.flow.config.has featureAdaptiveCwnd = false) (allocated : Bool)
    (newState : CaState) :
    (skylineSetState s allocated newState).sk.sndCwnd =
      if s.flow.recoveryActive && !newState.reduced then maxT s.sk.sndSsthresh skylineMinCwndFloor
      else s.sk.sndCwnd := by
  obtain ⟨flow, hflow⟩ := Option.isSome_iff_exists.mp hs
  have hget : skylineFlowGet s.storage allocated = some s.flow := by
    simp [skylineFlowGet, SockState.flow, hflow]
  have hend : (endReduction s s.flow).sk.sndCwnd = if s.flow.recoveryActive then
      maxT s.sk.sndSsthresh skylineMinCwndFloor else s.sk.sndCwnd := by
    rw [endReduction]
    cases s.flow.recoveryActive with
    | false => rfl
    | true =>
        have hsnap : skylineHasConfig { s.flow with recoveryActive := false } = true ∧
            (!s.flow.config.has featureAdaptiveCwnd) = true :=
          ⟨hhas, by rw [hm2]; rfl⟩
        simp only [Bool.not_true, Bool.false_eq_true, if_false, if_true]
        rw [if_pos hsnap]
        rfl
  rw [skylineSetState, hget]
  cases newState with
  | opened => simpa [CaState.reduced] using hend
  | disorder => simpa [CaState.reduced] using hend
  | cwr => simp [CaState.reduced]
  | recovery => simp [CaState.reduced]
  | loss => simp [CaState.reduced]

/-- A change of the CA state on a flow without M2. -/
lemma tracks_snap (K : Kernel) {c : Episode} (hc : Tracks c)
    (hhas : skylineHasConfig c.sock.flow = true)
    (hm2 : c.sock.flow.config.has featureAdaptiveCwnd = false) (kernel : TcpSock → TcpSock)
    (allocated allocated' : Bool) (newState : CaState) :
    (c.step K (.setCaState kernel allocated allocated' newState)).sock.sk.sndCwnd =
      if c.ca.reduced && !newState.reduced then
        maxT (c.found kernel).sk.sndSsthresh skylineMinCwndFloor
      else (c.found kernel).sk.sndCwnd := by
  have hfound : (c.found kernel).storage.isSome = true := hc.storage
  rw [← hc.active, Episode.step]
  by_cases henter : (newState.counting && !c.ca.counting) = true
  · -- the way into `CWR` or `Recovery` asks for a new `snd_ssthresh` but stores no window
    have hquiet := initCwndReduction_quiet (c.found kernel) allocated
    have hreduced : newState.reduced = true := by
      cases newState <;> simp_all [CaState.counting, CaState.reduced]
    rw [if_pos henter, setState_cwnd (hquiet.storage hfound) (by
      rw [skylineHasConfig, hquiet.config]; exact hhas) (by rw [hquiet.config]; exact hm2),
      hreduced, initCwndReduction_cwnd]
    simp
  · rw [if_neg henter]
    exact setState_cwnd hfound hhas hm2 allocated' newState

/-- The connection right after `skyline_init`. -/
def Episode.afterInit (s : SockState) (allocated : Bool) (read : ConfigRead) (nowNs : UInt64) :
    Episode where
  sock := (skylineInit s allocated read nowNs).1
  ca := s.sk.icskCaState
  prrOut := s.sk.prrOut
  start := 0
  acked := 0
  again := false

/-- A flow that took a configuration in `skyline_init`, or whose storage had no reduction
open, starts with the flag off. -/
lemma afterInit_tracks {s : SockState} (hopen : s.sk.icskCaState = .opened) {allocated : Bool}
    {read : ConfigRead} {nowNs : UInt64}
    (hstorage : (skylineInit s allocated read nowNs).1.storage.isSome = true)
    (hfresh : (skylineAdoptConfig s.flow read).2 = true ∨ s.flow.recoveryActive = false) :
    Tracks (.afterInit s allocated read nowNs) := by
  refine ⟨hstorage, ?_⟩
  rw [Episode.afterInit, hopen]
  have heffect := initEffect s allocated read nowNs
  dsimp only
  generalize (skylineInit s allocated read nowNs).1 = s' at heffect hstorage ⊢
  cases heffect with
  | unallocated hs =>
      rw [hs] at hstorage
      exact absurd hstorage (by decide)
  | refused _ hread =>
      rw [adoptConfig_snd _ s.flow] at hread
      rw [hread] at hfresh
      exact hfresh.resolve_left (by decide)
  | adopted flow sk _ _ _ _ => rfl

/-- **Where the reduction flag tracks the CA state**: take a socket on which
`skyline_init` ran in `Open` and obtained storage, and took a configuration there or found
no reduction open in it.  Along any run of callbacks and CA state changes in which no
`skyline_cong_control` adopts a configuration during a reduction, `recovery_active` is 1
exactly in `CWR`, `Recovery` and `Loss`; and without M2 a change of the CA state sets the
window to `max(snd_ssthresh, 4)` if it ends a reduction, and stores none otherwise. -/
theorem recoveryActive_tracks (K : Kernel) (s : SockState)
    (hopen : s.sk.icskCaState = .opened) (allocated : Bool) (read : ConfigRead) (nowNs : UInt64)
    (hstorage : (skylineInit s allocated read nowNs).1.storage.isSome = true)
    (hfresh : (skylineAdoptConfig s.flow read).2 = true ∨ s.flow.recoveryActive = false)
    (es : List EpisodeEvent)
    (hrun : Along (Episode.step K) SettledConfig (.afterInit s allocated read nowNs) es) :
    let c := es.foldl (Episode.step K) (.afterInit s allocated read nowNs)
    c.sock.flow.recoveryActive = c.ca.reduced ∧
    (skylineHasConfig c.sock.flow = true →
      c.sock.flow.config.has featureAdaptiveCwnd = false →
      ∀ (kernel : TcpSock → TcpSock) (allocated allocated' : Bool) (newState : CaState),
        (c.step K (.setCaState kernel allocated allocated' newState)).sock.sk.sndCwnd =
          if c.ca.reduced && !newState.reduced then
            maxT (c.found kernel).sk.sndSsthresh skylineMinCwndFloor
          else (c.found kernel).sk.sndCwnd) := by
  intro c
  have hc : Tracks c := along_invariant (fun c e hc he => tracks_step K c e hc he) es _
    (afterInit_tracks hopen hstorage hfresh) hrun
  exact ⟨hc.active, fun hhas hm2 => tracks_snap K hc hhas hm2⟩

/-- A new configuration comes out under number 2, and this ACK ends a round. -/
def AckInput.newer : AckInput :=
  { AckInput.of .tenSegments withoutM2 with
    seqNow := some 2, read := .of { withoutM2 with generation := 2 } 2 }

/-- A socket right after its handshake, on which `skyline_init` takes `withoutM2`. -/
def Episode.fresh : Episode :=
  .afterInit ⟨TcpSock.established, none⟩ true (.of withoutM2 1) 1000000

/-- An adoption in `Open`, then a reduction without one. -/
def Episode.plainReduction : List EpisodeEvent :=
  [.call id (.congControl true .newer), .setCaState id true true .recovery,
    .call (fun sk => { sk with packetsOut := 90, srttUs := 320000 })
      (.congControl true { AckInput.newer with sample := { RateSample.tenSegments with
        priorMstamp := 0 } })]

/-- Such a reduction ends at the `snd_ssthresh` it began with, 77 of the 110 packets the
first ACK left. -/
theorem recoveryActive_tracks_reduction :
    let c := Episode.plainReduction.foldl (Episode.step Kernel.linux) Episode.fresh
    c.sock.flow.recoveryActive = true ∧ c.ca = .recovery ∧
    (c.step Kernel.linux (.setCaState id true true .opened)).sock.sk.sndCwnd = 77 := by
  have h := recoveryActive_tracks Kernel.linux ⟨TcpSock.established, none⟩ rfl true
    (.of withoutM2 1) 1000000 (by decide) (.inl (by decide)) Episode.plainReduction
    ⟨⟨trivial, fun h => absurd h (by decide)⟩, trivial,
      ⟨trivial, fun _ => by decide +kernel⟩, trivial⟩
  refine ⟨h.1.trans (by decide +kernel), by decide +kernel, ?_⟩
  exact (h.2 (by decide +kernel) (by decide +kernel) id true true .opened).trans
    (by decide +kernel)

/-- A configuration adopted in `Recovery` clears the flag there, and the end of the
reduction then leaves the window alone. -/
theorem recoveryActive_lost_by_adoption :
    let c := [EpisodeEvent.setCaState id true true .recovery,
      .call id (.congControl true .newer)].foldl (Episode.step Kernel.linux) Episode.fresh
    c.ca = .recovery ∧ c.sock.flow.recoveryActive = false ∧
    ¬ (c.sock.flow.recoveryActive = true ↔ c.ca.reduced = true) ∧
    skylineHasConfig c.sock.flow = true ∧
    c.sock.flow.config.has featureAdaptiveCwnd = false ∧
    ¬ (c.step Kernel.linux (.setCaState id true true .opened)).sock.sk.sndCwnd =
      maxT (c.found id).sk.sndSsthresh skylineMinCwndFloor := by
  decide +kernel

/-! ### PRR -/

/-- What the kernel does at once: an event, or `tcp_enter_loss` where it asks for
`snd_ssthresh` again on the way to `Loss`, from any state. -/
inductive KernelMove where
  | event (e : EpisodeEvent)
  | enterLoss (kernel kernel' kernel'' : TcpSock → TcpSock) (allocated allocated' : Bool)
      (nowNs : UInt64)

/-- The events of a move: `ssthresh`, then `CA_EVENT_LOSS`, then the change to `Loss`. -/
def KernelMove.events : KernelMove → List EpisodeEvent
  | .event e => [e]
  | .enterLoss kernel kernel' kernel'' allocated allocated' nowNs =>
      [.call kernel (.ssthresh allocated), .call kernel' (.cwndEvent false allocated nowNs),
        .setCaState kernel'' allocated allocated' .loss]

/-- One move. -/
def Episode.move (K : Kernel) (c : Episode) (m : KernelMove) : Episode :=
  m.events.foldl (Episode.step K) c

/-- What PRR needs of the kernel: the connection keeps the congestion control, and in `CWR`
and `Recovery` `ssthresh` is asked for in `tcp_enter_loss` only. -/
def KernelOrder (c : Episode) : KernelMove → Prop
  | .event (.call _ callback) => callback.Ordinary ∧
      match callback with
      | .ssthresh _ => c.ca.counting = false
      | _ => True
  | _ => True

/-- The configuration has PRR govern the window. -/
def prrGoverns (config : KernelConfig) : Bool :=
  !config.has featureAdaptiveCwnd && config.has featurePrr

/-- The window PRR starts from, in `CWR` and `Recovery`, and its count, unless one of the
two was set again. -/
def Counts (c : Episode) : Prop :=
  skylineHasConfig c.sock.flow = true → c.ca.counting = true →
    c.sock.flow.priorCwnd = c.start ∧
    (c.again = false → prrGoverns c.sock.flow.config = true → c.start ≠ 0 →
      c.sock.flow.prrDelivered = UInt32.ofNat c.acked)

/-- `prrRuns` for a socket in the hands of the kernel. -/
lemma prrRuns_found (c : Episode) (kernel : TcpSock → TcpSock) (config : KernelConfig)
    (hca : c.ca.counting = true) :
    prrRuns (c.found kernel).sk config = prrGoverns config := by
  have hstate : (c.found kernel).sk.icskCaState = c.ca := rfl
  rw [prrRuns, prrGoverns, hstate]
  cases h : c.ca <;> simp_all [CaState.counting]

/-- An ACK. -/
lemma counts_ack (K : Kernel) {c : Episode} (hc : Counts c) (kernel : TcpSock → TcpSock)
    (allocated : Bool) (input : AckInput) :
    Counts (c.step K (.call kernel (.congControl allocated input))) := by
  intro hhas hca
  set s := c.found kernel with hs
  rw [show (c.step K (.call kernel (.congControl allocated input))).ca = c.ca from
    credit_ca c s _] at hca
  have hsock : (c.step K (.call kernel (.congControl allocated input))).sock =
      (skylineCongControl K s allocated input).1 := rfl
  have hghosts : c.step K (.call kernel (.congControl allocated input)) =
      { c.credit s (.congControl allocated input) with
        sock := (skylineCongControl K s allocated input).1 } := rfl
  rw [hsock] at hhas ⊢
  obtain ⟨hget, hnone⟩ | hget := flowGet_cases s allocated
  · -- no storage, no configuration
    have hsame : (skylineCongControl K s allocated input).1 = s := by
      rw [skylineCongControl, hget]
    rw [hsame, SockState.flow, hnone] at hhas
    exact absurd hhas (by decide)
  obtain ⟨hno, hstorage, hkept⟩ | ⟨hyes, hstorage⟩ := congControl_storage K s allocated input hget
  · -- a configuration was refused, so there is none
    rw [flow_of_storage hstorage] at hhas
    rw [taken, hkept] at hno
    exact absurd (hhas.symm.trans hno) (by decide)
  · obtain ⟨-, hprior, hcount⟩ := congControlRun_episode K s.sk (taken s.sk s.flow input) input
    have hconfig := congrArg FlowConfig.config
      (congControlRun_config K s.sk (taken s.sk s.flow input) input)
    rw [prrRuns_found c kernel _ hca] at hcount
    rw [flow_of_storage hstorage, hprior, hconfig]
    cases hadopts : adoptsNow s.flow input with
    | true =>
        have hcredit : c.credit s (.congControl allocated input) =
            { c with
              start := s.sk.sndCwnd, acked := input.sample.ackedSacked.toNat, again := false } := by
          rw [Episode.credit, hget, hadopts]
          rfl
        rw [taken, hadopts, if_pos rfl] at hcount ⊢
        rw [hghosts, hcredit]
        refine ⟨rfl, fun _ hgoverns hne => ?_⟩
        rw [hcount hgoverns hne]
        simp [skylineResetGeneration]
    | false =>
        have hcredit : c.credit s (.congControl allocated input) =
            { c with acked := c.acked + input.sample.ackedSacked.toNat } := by
          rw [Episode.credit, hget, hadopts]
          rfl
        have htaken : taken s.sk s.flow input = s.flow := by
          rw [taken, hadopts]
          rfl
        rw [htaken] at hyes hcount ⊢
        rw [hghosts, hcredit]
        obtain ⟨hstart, hdelivered⟩ := hc hyes hca
        refine ⟨hstart, fun hagain hgoverns hne => ?_⟩
        rw [hcount hgoverns (by rw [show s.flow.priorCwnd = c.start from hstart]; exact hne)]
        rw [show s.flow.prrDelivered = UInt32.ofNat c.acked from
            hdelivered hagain hgoverns hne,
          UInt32.ofNat_add, UInt32.ofNat_toNat]

/-- A callback that leaves the configuration and the fields of a reduction alone. -/
lemma Counts.of_frame {c c' : Episode} (hc : Counts c)
    (hconfig : c'.sock.flow.config = c.sock.flow.config)
    (hframe : EpisodeFrame c.sock.flow c'.sock.flow) (hca : c'.ca = c.ca)
    (hstart : c'.start = c.start) (hacked : c'.acked = c.acked) (hagain : c'.again = c.again) :
    Counts c' := by
  rw [Counts, skylineHasConfig, hconfig, hframe.prior, hframe.delivered, hca, hstart, hacked,
    hagain]
  exact hc

/-- A change of the CA state. -/
lemma counts_setCaState (K : Kernel) {c : Episode} (hc : Counts c) (kernel : TcpSock → TcpSock)
    (allocated allocated' : Bool) (newState : CaState) :
    Counts (c.step K (.setCaState kernel allocated allocated' newState)) := by
  rw [Episode.step]
  split
  case isTrue henter =>
    -- the kernel starts its count, and so does `set_state`
    intro hhas _
    rw [Bool.and_eq_true] at henter
    set s := tcpInitCwndReduction (c.found kernel) allocated with hs
    have hquiet := initCwndReduction_quiet (c.found kernel) allocated
    have hset := setState_quiet s allocated' newState
    have hhas' : skylineHasConfig (c.found kernel).flow = true := by
      rw [skylineHasConfig, ← hquiet.config, ← hset.config]
      exact hhas
    have hsome : s.storage.isSome = true := hquiet.storage (storage_of_hasConfig hhas')
    obtain ⟨-, hprior, hzero⟩ := setState_episode hsome allocated' newState
    refine ⟨?_, fun _ _ _ => hzero henter.1⟩
    exact hprior.trans ((initCwndReduction_episode (c.found kernel) allocated).2 hhas')
  case isFalse henter =>
    intro hhas hca
    have hnew : newState.counting = true := hca
    -- not entered, and yet counted in: `CWR` or `Recovery` is set again
    have hold : c.ca.counting = true := by
      rw [hnew, Bool.true_and, Bool.not_eq_true', Bool.not_eq_false] at henter
      exact henter
    have hhas' : skylineHasConfig (c.found kernel).flow = true := by
      rw [skylineHasConfig, ← (setState_quiet (c.found kernel) allocated' newState).config]
      exact hhas
    have hprior := (setState_episode (storage_of_hasConfig hhas') allocated' newState).2.1
    refine ⟨hprior.trans (hc hhas' hold).1, fun hagain => ?_⟩
    dsimp only at hagain
    rw [hold, hnew, Bool.and_true, Bool.or_true] at hagain
    exact absurd hagain (by decide)

/-- `tcp_enter_loss` ends what was counted. -/
lemma counts_enterLoss (K : Kernel) (c : Episode) (kernel kernel' kernel'' : TcpSock → TcpSock)
    (allocated allocated' : Bool) (nowNs : UInt64) :
    Counts (c.move K (.enterLoss kernel kernel' kernel'' allocated allocated' nowNs)) :=
  fun _ hca => absurd (show CaState.loss.counting = true from hca) (by decide)

/-- One event keeps the count. -/
lemma counts_step (K : Kernel) (c : Episode) (e : EpisodeEvent) (hc : Counts c)
    (he : KernelOrder c (.event e)) : Counts (c.step K e) := by
  cases e with
  | transmit segments =>
      rw [Episode.step]
      split
      · exact hc
      · exact hc
  | setCaState kernel allocated allocated' newState =>
      exact counts_setCaState K hc kernel allocated allocated' newState
  | call kernel callback =>
      obtain ⟨hordinary, horder⟩ := he
      -- a callback that is no ACK leaves the configuration alone
      have hkeep : callback.Quiet → (c.credit (c.found kernel) callback = c) →
          EpisodeFrame c.sock.flow (callback.exec K (c.found kernel)).state.flow →
          Counts (c.step K (.call kernel callback)) := by
        intro hquiet hcredit hframe
        have hstep : c.step K (.call kernel callback) =
            { c with sock := (callback.exec K (c.found kernel)).state } := by
          rw [Episode.step, hcredit]
        rw [hstep]
        exact hc.of_frame (quietEffect K hquiet (c.found kernel)).config hframe rfl rfl rfl rfl
      cases callback with
      | init => exact hordinary.elim
      | setState => exact hordinary.elim
      | congControl allocated input => exact counts_ack K hc kernel allocated input
      | ssthresh allocated =>
          -- not in `CWR` or `Recovery`, where there is nothing to keep
          intro _ hca
          exact absurd (hca.symm.trans horder) (by decide)
      | undoCwnd allocated =>
          exact hkeep trivial rfl (undoCwnd_episode K (c.found kernel) allocated)
      | cwndEvent txStart allocated nowNs =>
          cases txStart with
          | false => exact hkeep trivial rfl (EpisodeFrame.refl _)
          | true => exact hkeep trivial rfl (txStart_episode (c.found kernel) allocated nowNs)
      | cwndEventTxStart allocated nowNs =>
          exact hkeep trivial rfl (txStart_episode (c.found kernel) allocated nowNs)
      | release => exact hkeep trivial rfl (release_episode (c.found kernel))

/-- One move keeps the count. -/
lemma counts_move (K : Kernel) (c : Episode) (m : KernelMove) (hc : Counts c)
    (hm : KernelOrder c m) : Counts (c.move K m) := by
  cases m with
  | event e => exact counts_step K c e hc hm
  | enterLoss kernel kernel' kernel'' allocated allocated' nowNs =>
      exact counts_enterLoss K c kernel kernel' kernel'' allocated allocated' nowNs

/-- **What PRR counts**: take a connection that is in neither `CWR` nor `Recovery` and any
run of callbacks, CA state changes and transmissions from there, with configuration
adoptions among them and `tcp_enter_loss` from any state.  In every state of `CWR` and
`Recovery` `prior_cwnd` is the window at the start of the count.  Where PRR governs the
window, and `CWR` or `Recovery` was not set again since, `prr_delivered` is the total of
`acked_sacked` over the calls since, modulo `2^32`.  The count starts when the kernel resets
`prr_out`, and again with each configuration adopted after that. -/
theorem prr_counts (K : Kernel) (c₀ : Episode) (h₀ : c₀.ca.counting = false)
    (ms : List KernelMove) (hrun : Along (Episode.move K) KernelOrder c₀ ms) :
    let c := ms.foldl (Episode.move K) c₀
    skylineHasConfig c.sock.flow = true → c.ca.counting = true →
      c.sock.flow.priorCwnd = c.start ∧
      (c.again = false → prrGoverns c.sock.flow.config = true → c.start ≠ 0 →
        c.sock.flow.prrDelivered = UInt32.ofNat c.acked) := by
  intro c
  have hstart : Counts c₀ := fun _ hca => absurd (hca.symm.trans h₀) (by decide)
  exact along_invariant (fun c m hc hm => counts_move K c m hc hm) ms c₀ hstart hrun

/-- An ACK, the kernel having written nothing else. -/
def EpisodeEvent.ack (input : AckInput) : EpisodeEvent := .call id (.congControl true input)

/-- A reduction that ends in a timeout, then one in which `Recovery` follows on `CWR`, with
an ACK before and two ACKs after the configuration changes. -/
def Episode.switchedReduction : List KernelMove :=
  [.event (.setCaState id true true .recovery),
    .enterLoss id id (fun sk => { sk with sndCwnd := 1 }) true true 3000000,
    .event (.setCaState (fun sk => { sk with sndCwnd := 50 }) true true .opened),
    .event (.setCaState id true true .cwr), .event (.ack (.of .tenSegments withoutM2)),
    .event (.setCaState id true true .recovery), .event (.transmit 7),
    .event (.ack .newer), .event (.ack { AckInput.newer with flag := flagSndUnaAdvanced })]

/-- The count after it is that of the two ACKs since the adoption. -/
theorem prr_counts_since_adoption :
    let c := Episode.switchedReduction.foldl (Episode.move Kernel.linux) Episode.fresh
    c.acked = 20 ∧ c.sock.flow.prrDelivered = 20 ∧ c.sock.flow.priorCwnd = c.start := by
  have h := prr_counts Kernel.linux Episode.fresh rfl Episode.switchedReduction
    ⟨trivial, trivial, trivial, trivial, ⟨trivial, trivial⟩, trivial, trivial,
      ⟨trivial, trivial⟩, ⟨trivial, trivial⟩, trivial⟩
    (by decide +kernel) (by decide +kernel)
  have hacked : (Episode.switchedReduction.foldl (Episode.move Kernel.linux) Episode.fresh).acked =
    20 := by decide +kernel
  refine ⟨hacked, ?_, h.1⟩
  exact (h.2 (by decide +kernel) (by decide +kernel) (by decide +kernel)).trans
    (by rw [hacked]; rfl)

/-- The total of `acked_sacked` over the `skyline_cong_control` calls of a run. -/
def ackedTotal (es : List EpisodeEvent) : ℕ :=
  (es.map fun
    | .call _ (.congControl _ input) => input.sample.ackedSacked.toNat
    | _ => 0).sum

/-- It is not the total since the kernel reset `prr_out`: a configuration adopted on the
way starts the count over, and so does `Recovery` after `CWR`, while `prr_out` goes on. -/
theorem prr_loses_count :
    (let es := [EpisodeEvent.ack (.of .tenSegments withoutM2), .transmit 7, .ack .newer]
    let c := (.setCaState id true true .recovery :: es).foldl (Episode.step Kernel.linux)
      Episode.fresh
    c.ca = .recovery ∧ c.prrOut = 7 ∧ ackedTotal es = 20 ∧ c.sock.flow.prrDelivered = 10 ∧
      c.sock.flow.prrDelivered.toNat ≠ ackedTotal es) ∧
    (let es := [EpisodeEvent.ack (.of .tenSegments withoutM2), .transmit 7,
      .setCaState id true true .recovery, .ack (.of .tenSegments withoutM2)]
    let c := (.setCaState id true true .cwr :: es).foldl (Episode.step Kernel.linux)
      Episode.fresh
    c.ca = .recovery ∧ c.prrOut = 7 ∧ ackedTotal es = 20 ∧ c.sock.flow.prrDelivered = 10 ∧
      c.sock.flow.prrDelivered.toNat ≠ ackedTotal es) := by
  decide +kernel

end SkylineSpeeder
