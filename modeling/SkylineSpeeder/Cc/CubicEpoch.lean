import SkylineSpeeder.Cc.Reduction
import SkylineSpeeder.Cc.RoundConfig

/-!
The growth epochs of the CUBIC path, over every run of a connection.

* `Reno`, `Epoch`: the epoch as it should be, kept beside the connection: it ends with a
  reduction, and starts with a model started over or with the first CUBIC target after a
  reduction, at the window of that moment;
* `growPoint`, `cubicPoint`, `Callback.targetPoint`: where a callback computes a CUBIC
  target;
* `Follows`: `epoch_k_ms`, `tcp_cwnd` and `ack_cnt` are those of the epoch, and
  `epoch_start_ns` is zero exactly while none is open.  `Follows.reset`, `Follows.reduce`,
  `Follows.idle` and `Follows.grow` are its step lemmas;
* `cubic_epoch_consistent`: the fields belong to the epoch in every run in which no idle
  restart comes between a reduction and the next CUBIC target.  `skyline_tx_start` writes
  `epoch_start_ns` without looking at it, and the next target then takes the epoch before
  the reduction for its own (`cubic_epoch_stale`).
-/

namespace SkylineSpeeder

open Machine
open Word (minT maxT)

/-! ### The epoch as it should be -/

/-- The Reno estimate of an epoch: `tcp_cwnd` and `ack_cnt`. -/
structure Reno where
  tcpCwnd : UInt32
  ackCnt : UInt32
  deriving DecidableEq

/-- The estimate at the start of an epoch. -/
def Reno.restart (cwnd : UInt32) : Reno := ⟨cwnd, 0⟩

/-- The estimate moved by `acked` packets at window `cwnd`: one packet for each `15/8`
windows. -/
def Reno.move (r : Reno) (cwnd acked : UInt32) : Reno :=
  let ackCnt := r.ackCnt + acked
  let delta := cwnd.toUInt64 * 15 / 8
  let incr := (ackCnt.toUInt64 / delta).toUInt32
  if delta ≠ 0 ∧ incr ≠ 0 then ⟨r.tcpCwnd + incr, ackCnt - incr * delta.toUInt32⟩
  else ⟨r.tcpCwnd, ackCnt⟩

/-- A growth epoch: whether one is open, the window it started at and its estimate. -/
structure Epoch where
  opened : Bool
  cwnd : UInt32
  reno : Reno
  deriving DecidableEq

namespace Epoch

/-- No epoch yet. -/
def unopened : Epoch := ⟨false, 0, Reno.restart 0⟩

/-- An epoch that starts at window `cwnd`. -/
def start (cwnd : UInt32) : Epoch := ⟨true, cwnd, Reno.restart cwnd⟩

/-- A reduction ends the epoch. -/
def reduce (ep : Epoch) : Epoch := { ep with opened := false }

/-- A CUBIC target, computed at window `cwnd` for `acked` packets, starts an epoch if none
is open. -/
def grow (ep : Epoch) (cwnd acked : UInt32) : Epoch :=
  let ep := if ep.opened then ep else start cwnd
  { ep with reno := ep.reno.move cwnd acked }

end Epoch

/-- `K` of an epoch that starts at window `cwnd` below `wMax`. -/
def epochK (wMax cwnd : UInt32) : UInt32 :=
  (skylineCubeRoot
    (minT (if wMax > cwnd then (wMax - cwnd).toUInt64 else 0) 1000000 * 2500000000)).toUInt32

/-- At the window of the last reduction `K` is zero. -/
lemma epochK_self (cwnd : UInt32) : epochK cwnd cwnd = 0 := by
  rw [epochK, if_neg (by simp)]
  decide +kernel

/-! ### Where a CUBIC target is computed -/

/-- The socket and what is left of `acked` when `skyline_grow_cwnd` comes to compute a
CUBIC target, if it does. -/
def growPoint (K : Kernel) (tp : TcpSock) (acked : UInt32) : Option (TcpSock × UInt32) :=
  if acked = 0 then none
  else if !skylineCwndLimited tp then none
  else if tp.sndCwnd < tp.sndSsthresh then
    if (K.slowStart tp acked).2 = 0 then none else some (K.slowStart tp acked)
  else some (tp, acked)

lemma growCwnd_flow (K : Kernel) (tp : TcpSock) (flow : FlowState) (config : KernelConfig)
    (acked : UInt32) (nowNs : UInt64) :
    (skylineGrowCwnd K tp flow config acked nowNs).2 =
      match growPoint K tp acked with
      | none => flow
      | some point => (growAvoid K point.1 flow config point.2 nowNs).2 := by
  rw [skylineGrowCwnd, growPoint]
  by_cases hacked : acked = 0
  · rw [if_pos hacked, if_pos hacked]
  rw [if_neg hacked, if_neg hacked]
  by_cases hlimited : (!skylineCwndLimited tp) = true
  · rw [if_pos hlimited, if_pos hlimited]
  rw [if_neg hlimited, if_neg hlimited]
  by_cases hslow : tp.sndCwnd < tp.sndSsthresh
  · rw [if_pos hslow, if_pos hslow]
    by_cases hleft : (K.slowStart tp acked).2 = 0
    · simp only [hleft, if_true]
    · simp only [hleft, if_false]
  · rw [if_neg hslow, if_neg hslow]

/-- The same for the window of one ACK: not with M2, and not in `CWR` or `Recovery`. -/
def cubicPoint (K : Kernel) (sk : TcpSock) (flow : FlowState) (input : AckInput) :
    Option (TcpSock × UInt32) :=
  if flow.config.has featureAdaptiveCwnd then none
  else if sk.icskCaState = .cwr ∨ sk.icskCaState = .recovery then none
  else growPoint K sk input.sample.ackedSacked

/-- The same for a whole callback. -/
def Callback.targetPoint (K : Kernel) (s : SockState) : Callback → Option (TcpSock × UInt32)
  | .congControl allocated input =>
      let flow := taken s.sk s.flow input
      if (skylineFlowGet s.storage allocated).isSome && skylineHasConfig flow then
        cubicPoint K (skylineApplyPacing s.sk (modelled s.sk flow input) flow.config).1 flow input
      else none
  | _ => none

/-- A reduction: the kernel asks for `ssthresh` on a flow with a configuration. -/
def Callback.reduces (s : SockState) : Callback → Bool
  | .ssthresh _ => skylineHasConfig s.flow
  | _ => false

/-- The window at which a callback starts the model over, if it does. -/
def Callback.resetPoint (s : SockState) : Callback → Option UInt32
  | .init allocated read _ =>
      if (skylineFlowGet s.storage allocated).isSome && (skylineAdoptConfig s.flow read).2 then
        let config := (skylineAdoptConfig s.flow read).1.config
        some (if config.initialCwndPackets ≠ 0 then config.initialCwndPackets else s.sk.sndCwnd)
      else none
  | .congControl allocated input =>
      if (skylineFlowGet s.storage allocated).isSome && adoptsNow s.flow input then
        some s.sk.sndCwnd
      else none
  | _ => none

/-- `CA_EVENT_TX_START`, through either op. -/
def Callback.startsSending : Callback → Bool
  | .cwndEvent txStart _ _ => txStart
  | .cwndEventTxStart _ _ => true
  | _ => false

/-- The epoch after a callback: a reduction ends it, a model started over starts one, and
so does a CUBIC target after a reduction. -/
def Epoch.step (K : Kernel) (ep : Epoch) (s : SockState) (callback : Callback) : Epoch :=
  let ep := if callback.reduces s then ep.reduce else ep
  let ep := match callback.resetPoint s with
    | some cwnd => .start cwnd
    | none => ep
  match callback.targetPoint K s with
  | some (tp, acked) => ep.grow tp.sndCwnd acked
  | none => ep

/-- One callback, with the epoch. -/
def epochStep (K : Kernel) (y : SockState × Epoch) (e : ConfigEvent) : SockState × Epoch :=
  (configStep K y.1 e, y.2.step K (e.before y.1) e.callback)

/-- A socket that no callback has seen. -/
def epochInit (sk : TcpSock) : SockState × Epoch := (⟨sk, none⟩, .unopened)

/-! ### The fields of an epoch -/

/-- `tcp_cwnd` and `ack_cnt`. -/
def FlowCubic.reno (c : FlowCubic) : Reno := ⟨c.tcpCwnd, c.ackCnt⟩

/-- The CUBIC fields are those of the epoch. -/
structure Follows (c : FlowCubic) (ep : Epoch) : Prop where
  opened : ep.opened = true ↔ c.epochStartNs ≠ 0
  k : ep.opened = true → c.epochKMs = epochK c.wMax ep.cwnd
  reno : ep.opened = true → c.reno = ep.reno

/-- A model started over starts an epoch at its window. -/
lemma Follows.reset (flow : FlowState) (tp : TcpSock) {nowNs : UInt64} (hnow : nowNs ≠ 0) :
    Follows (skylineResetGeneration flow tp nowNs).toFlowCubic (.start tp.sndCwnd) where
  opened := iff_of_true rfl hnow
  k := fun _ => (epochK_self tp.sndCwnd).symm
  reno := fun _ => rfl

/-- A reduction clears `epoch_start_ns`. -/
lemma Follows.reduce {c : FlowCubic} (ep : Epoch) (h : c.epochStartNs = 0) :
    Follows c ep.reduce where
  opened := iff_of_false (by simp [Epoch.reduce]) (not_not_intro h)
  k := fun h => by simp [Epoch.reduce] at h
  reno := fun h => by simp [Epoch.reduce] at h

/-- An idle restart during an epoch moves its start time and nothing else. -/
lemma Follows.idle {c : FlowCubic} {ep : Epoch} (h : Follows c ep) (hopen : c.epochStartNs ≠ 0)
    {nowNs : UInt64} (hnow : nowNs ≠ 0) : Follows { c with epochStartNs := nowNs } ep where
  opened := iff_of_true (h.opened.mpr hopen) hnow
  k := h.k
  reno := h.reno

lemma updateFriendly_reno (tp : TcpSock) (flow : FlowState) (freshEpoch : Bool) (acked : UInt32) :
    (updateFriendly tp flow freshEpoch acked).toFlowCubic.reno =
      (if freshEpoch then Reno.restart tp.sndCwnd else flow.toFlowCubic.reno).move
        tp.sndCwnd acked := by
  rw [updateFriendly, Reno.move]
  cases freshEpoch with
  | true =>
      simp only [if_true, Reno.restart, UInt32.zero_add]
      split_ifs <;> rfl
  | false =>
      simp only [Bool.false_eq_true, if_false, FlowCubic.reno]
      split_ifs <;> rfl

/-- The estimate is all that the TCP-friendly region moves. -/
lemma updateFriendly_curve (tp : TcpSock) (flow : FlowState) (freshEpoch : Bool)
    (acked : UInt32) :
    (updateFriendly tp flow freshEpoch acked).epochStartNs = flow.epochStartNs ∧
    (updateFriendly tp flow freshEpoch acked).wMax = flow.wMax ∧
    (updateFriendly tp flow freshEpoch acked).epochKMs = flow.epochKMs := by
  rw [updateFriendly]
  cases freshEpoch with
  | true =>
      simp only [if_true]
      split_ifs <;> exact ⟨rfl, rfl, rfl⟩
  | false =>
      simp only [Bool.false_eq_true, if_false]
      split_ifs <;> exact ⟨rfl, rfl, rfl⟩

/-- The first target of an epoch takes `K` from the window it finds. -/
lemma startEpoch_fresh {flow : FlowState} (hopen : flow.epochStartNs = 0) (cwnd : UInt32)
    (nowNs : UInt64) :
    (startEpoch flow cwnd nowNs).epochStartNs = nowNs ∧
    (startEpoch flow cwnd nowNs).epochKMs =
      epochK (startEpoch flow cwnd nowNs).wMax cwnd := by
  rw [startEpoch, if_pos hopen]
  exact ⟨rfl, rfl⟩

/-- A CUBIC target keeps the open epoch, or starts one at the window it finds. -/
lemma Follows.grow {flow : FlowState} {ep : Epoch} (h : Follows flow.toFlowCubic ep)
    (K : Kernel) (tp : TcpSock) (config : KernelConfig) (acked : UInt32) {nowNs : UInt64}
    (hnow : nowNs ≠ 0) :
    Follows (growAvoid K tp flow config acked nowNs).2.toFlowCubic (ep.grow tp.sndCwnd acked) := by
  have hflow : (growAvoid K tp flow config acked nowNs).2 =
      updateFriendly tp (startEpoch flow tp.sndCwnd nowNs) (flow.epochStartNs == 0) acked := rfl
  obtain ⟨hstart, hwMax, hk⟩ := updateFriendly_curve tp (startEpoch flow tp.sndCwnd nowNs)
    (flow.epochStartNs == 0) acked
  have hreno := updateFriendly_reno tp (startEpoch flow tp.sndCwnd nowNs)
    (flow.epochStartNs == 0) acked
  rw [hflow]
  by_cases hopen : flow.epochStartNs = 0
  · -- no epoch is open: this target starts one, at its own window
    have hclosed : ep.opened = false := by
      rw [← Bool.not_eq_true, h.opened, not_not]
      exact hopen
    obtain ⟨hnew, hknew⟩ := startEpoch_fresh hopen tp.sndCwnd nowNs
    rw [Epoch.grow, hclosed]
    refine ⟨iff_of_true rfl ?_, fun _ => ?_, fun _ => ?_⟩
    · rw [hstart, hnew]
      exact hnow
    · rw [hk, hwMax]
      exact hknew
    · rw [hreno, hopen]
      rfl
  · have hopened : ep.opened = true := h.opened.mpr hopen
    have hkept : startEpoch flow tp.sndCwnd nowNs = flow := if_neg hopen
    rw [hkept] at hstart hwMax hk hreno
    rw [Epoch.grow, hopened, hkept]
    refine ⟨iff_of_true hopened ?_, fun _ => ?_, fun _ => ?_⟩
    · rw [hstart]
      exact hopen
    · rw [hk, hwMax]
      exact h.k hopened
    · rw [hreno, beq_eq_false_iff_ne.mpr hopen, if_neg Bool.false_ne_true, h.reno hopened]
      rfl

/-! ### One callback -/

/-- The connection is on the CUBIC path: a configuration without M2. -/
def CubicRuns (flow : FlowState) : Prop :=
  skylineHasConfig flow = true ∧ flow.config.has featureAdaptiveCwnd = false

instance (flow : FlowState) : Decidable (CubicRuns flow) := by
  unfold CubicRuns
  infer_instance

/-- Storage nobody has created holds no configuration. -/
lemma not_cubicRuns_of_storage {s : SockState} (hs : s.storage = none) : ¬ CubicRuns s.flow := by
  rw [SockState.flow, hs]
  decide

/-- What makes up an epoch is left alone. -/
structure CurveFrame (c c' : FlowCubic) : Prop where
  start : c'.epochStartNs = c.epochStartNs
  wMax : c'.wMax = c.wMax
  k : c'.epochKMs = c.epochKMs
  reno : c'.reno = c.reno

lemma CurveFrame.refl (c : FlowCubic) : CurveFrame c c := ⟨rfl, rfl, rfl, rfl⟩

lemma Follows.frame {c c' : FlowCubic} {ep : Epoch} (h : Follows c ep) (hc : CurveFrame c c') :
    Follows c' ep where
  opened := by rw [hc.start, h.opened]
  k := fun hopen => by rw [hc.k, hc.wMax, h.k hopen]
  reno := fun hopen => by rw [hc.reno, h.reno hopen]

lemma undoCwnd_curve (K : Kernel) (s : SockState) (allocated : Bool) :
    CurveFrame s.flow.toFlowCubic (skylineUndoCwnd K s allocated).1.flow.toFlowCubic := by
  rw [skylineUndoCwnd]
  obtain ⟨hget, -⟩ | hget := flowGet_cases s allocated
  · rw [hget]
    exact .refl _
  · rw [hget]
    exact .refl _

lemma setState_curve (s : SockState) (allocated : Bool) (newState : CaState) :
    CurveFrame s.flow.toFlowCubic (skylineSetState s allocated newState).flow.toFlowCubic := by
  have hend : CurveFrame s.flow.toFlowCubic (endReduction s s.flow).flow.toFlowCubic := by
    rw [endReduction]
    dsimp only
    split_ifs
    all_goals exact ⟨rfl, rfl, rfl, rfl⟩
  rw [skylineSetState]
  obtain ⟨hget, -⟩ | hget := flowGet_cases s allocated
  · rw [hget]
    exact .refl _
  · rw [hget]
    cases newState with
    | loss => exact ⟨rfl, rfl, rfl, rfl⟩
    | recovery => exact ⟨rfl, rfl, rfl, rfl⟩
    | cwr => exact ⟨rfl, rfl, rfl, rfl⟩
    | opened => exact hend
    | disorder => exact hend

lemma release_curve (s : SockState) :
    CurveFrame s.flow.toFlowCubic (skylineRelease s).1.flow.toFlowCubic := by
  rw [skylineRelease]
  cases hs : s.storage with
  | none => exact .refl _
  | some flow =>
      dsimp only
      split_ifs
      · exact .refl _
      · rw [flow_of_storage hs]
        exact ⟨rfl, rfl, rfl, rfl⟩

/-- The window of one ACK grows the epoch where a target is computed. -/
lemma setWindow_follows (K : Kernel) (sk : TcpSock) {flow : FlowState} {input : AckInput}
    {ep : Epoch} (h : Follows flow.toFlowCubic ep)
    (hcubic : flow.config.has featureAdaptiveCwnd = false) (hnow : input.growNs ≠ 0) :
    Follows (setWindow K sk flow input).2.1.toFlowCubic
      (match cubicPoint K sk flow input with
        | some (tp, acked) => ep.grow tp.sndCwnd acked
        | none => ep) := by
  rw [setWindow, cubicPoint, hcubic]
  simp only [Bool.false_eq_true, if_false]
  by_cases hca : sk.icskCaState = .cwr ∨ sk.icskCaState = .recovery
  · -- PRR keeps to its own field
    rw [if_pos hca, if_pos hca]
    split
    · refine h.frame ?_
      rw [skylineApplyPrr]
      split_ifs
      all_goals exact ⟨rfl, rfl, rfl, rfl⟩
    · exact h
  · rw [if_neg hca, if_neg hca]
    dsimp only
    rw [growCwnd_flow]
    cases growPoint K sk input.sample.ackedSacked with
    | none => exact h
    | some point => exact h.grow K point.1 flow.config point.2 hnow

/-- The second part of `skyline_cong_control` does. -/
lemma congControlRun_follows (K : Kernel) (sk : TcpSock) {flow : FlowState} {input : AckInput}
    {ep : Epoch} (h : Follows flow.toFlowCubic ep)
    (hcubic : flow.config.has featureAdaptiveCwnd = false) (hnow : input.growNs ≠ 0) :
    Follows (congControlRun K sk flow input).2.1.toFlowCubic
      (match cubicPoint K (skylineApplyPacing sk (modelled sk flow input) flow.config).1 flow
          input with
        | some (tp, acked) => ep.grow tp.sndCwnd acked
        | none => ep) := by
  have hconfig : (modelled sk flow input).config = flow.config :=
    congrArg FlowConfig.config (modelled_config sk flow input)
  have hpoint : cubicPoint K (skylineApplyPacing sk (modelled sk flow input) flow.config).1 flow
      input = cubicPoint K (skylineApplyPacing sk (modelled sk flow input) flow.config).1
        (modelled sk flow input) input := by
    rw [cubicPoint, cubicPoint, hconfig]
  have hmodelled : Follows (modelled sk flow input).toFlowCubic ep := by
    rw [modelled_cubic]
    exact h
  rw [congControlRun_flow, hpoint]
  exact setWindow_follows K _ hmodelled (hconfig ▸ hcubic) hnow

/-- Every reading of `bpf_ktime_get_ns`, the time since boot, is not zero. -/
def Callback.Ticks : Callback → Prop
  | .init _ _ nowNs => nowNs ≠ 0
  | .congControl _ input => input.resetNs ≠ 0 ∧ input.modelNs ≠ 0 ∧ input.growNs ≠ 0
  | .cwndEvent _ _ nowNs => nowNs ≠ 0
  | .cwndEventTxStart _ nowNs => nowNs ≠ 0
  | _ => True

instance (callback : Callback) : Decidable callback.Ticks :=
  match callback with
  | .init _ _ _ | .cwndEvent _ _ _ | .cwndEventTxStart _ _ => inferInstanceAs (Decidable (_ ≠ _))
  | .congControl _ _ => inferInstanceAs (Decidable (_ ∧ _ ∧ _))
  | .ssthresh _ | .undoCwnd _ | .setState _ _ | .release => inferInstanceAs (Decidable True)

/-- No idle restart while no epoch is open. -/
def IdleInEpoch (flow : FlowState) (callback : Callback) : Prop :=
  callback.startsSending = true → CubicRuns flow → flow.epochStartNs ≠ 0

instance (flow : FlowState) (callback : Callback) : Decidable (IdleInEpoch flow callback) := by
  unfold IdleInEpoch
  infer_instance

/-- On the CUBIC path the fields are those of the epoch. -/
def EpochInv (y : SockState × Epoch) : Prop := CubicRuns y.1.flow → Follows y.1.flow.toFlowCubic y.2

lemma epochInv_init {s : SockState} {ep : Epoch} (h : EpochInv (s, ep)) (K : Kernel)
    (allocated : Bool) (read : ConfigRead) {nowNs : UInt64} (hnow : nowNs ≠ 0) :
    EpochInv ((skylineInit s allocated read nowNs).1,
      ep.step K s (.init allocated read nowNs)) := by
  have heffect := initEffect s allocated read nowNs
  have hsnd : (skylineAdoptConfig { s.flow with counted := true } read).2 =
      (skylineAdoptConfig s.flow read).2 := adoptConfig_snd _ _ read
  generalize (skylineInit s allocated read nowNs).1 = s' at heffect ⊢
  intro hruns
  cases heffect with
  | unallocated hs => exact absurd hruns (not_cubicRuns_of_storage hs)
  | refused hget hread =>
      have hep : ep.step K s (.init allocated read nowNs) = ep := by
        simp [Epoch.step, Callback.resetPoint, Callback.reduces, Callback.targetPoint, hget,
          ← hsnd, hread]
      rw [hep]
      exact h hruns
  | adopted flow sk hget hread hflow hsk =>
      have htrue : (skylineAdoptConfig s.flow read).2 = true := hsnd ▸ hread
      have hconfig : (skylineAdoptConfig s.flow read).1.config = flow.config := by
        rw [hflow]
        exact Option.some.inj ((adopt_config htrue).symm.trans (adopt_config hread))
      have hcwnd : (if flow.config.initialCwndPackets ≠ 0 then flow.config.initialCwndPackets
          else s.sk.sndCwnd) = sk.sndCwnd := by
        rw [hsk]
        split_ifs <;> rfl
      have hep : ep.step K s (.init allocated read nowNs) = .start sk.sndCwnd := by
        simp only [Epoch.step, Callback.resetPoint, Callback.targetPoint, hget, htrue, hconfig,
          hcwnd, Option.isSome_some, Bool.and_self, if_true]
      rw [hep]
      exact Follows.reset flow sk hnow

lemma epochInv_congControl {s : SockState} {ep : Epoch} (h : EpochInv (s, ep)) (K : Kernel)
    (allocated : Bool) {input : AckInput} (hreset : input.resetNs ≠ 0)
    (hgrow : input.growNs ≠ 0) :
    EpochInv ((skylineCongControl K s allocated input).1,
      ep.step K s (.congControl allocated input)) := by
  have heffect := congControlEffect K s allocated input
  generalize (skylineCongControl K s allocated input).1 = s' at heffect ⊢
  intro hruns
  cases heffect with
  | unallocated hs => exact absurd hruns (not_cubicRuns_of_storage hs)
  | refused hno _ => exact absurd hruns.1 (by rw [SockState.flow_some, hno]; decide)
  | ran flow reports hget hadopt =>
      have hconfig : (congControlRun K s.sk flow input).2.1.config = flow.config :=
        congControlRun_flow_config K s.sk flow input
      have hcubic : flow.config.has featureAdaptiveCwnd = false := hconfig ▸ hruns.2
      have hhas := hadopt.hasConfig
      have htaken := hadopt.taken_eq
      -- the epoch the second part starts from
      have hstart : Follows flow.toFlowCubic
          (match (Callback.congControl allocated input).resetPoint s with
            | some cwnd => .start cwnd
            | none => ep) := by
        rw [Callback.resetPoint, hget]
        cases hnow : adoptsNow s.flow input with
        | true =>
            rw [htaken, taken, if_pos hnow]
            exact Follows.reset _ s.sk hreset
        | false =>
            have hkept : flow = s.flow := by
              rw [htaken, taken, hnow, if_neg Bool.false_ne_true]
            rw [hkept]
            exact h ⟨hkept ▸ hhas, hkept ▸ hcubic⟩
      have hpoint : (Callback.congControl allocated input).targetPoint K s =
          cubicPoint K (skylineApplyPacing s.sk (modelled s.sk flow input) flow.config).1 flow
            input := by
        simp only [Callback.targetPoint, hget, ← htaken, hhas, Option.isSome_some, Bool.and_self,
          if_true]
      rw [Epoch.step, hpoint]
      exact congControlRun_follows K s.sk hstart hcubic hgrow

lemma epochInv_ssthresh {s : SockState} {ep : Epoch} (K : Kernel)
    (allocated : Bool) :
    EpochInv ((skylineSsthresh s allocated).1, ep.step K s (.ssthresh allocated)) := by
  intro hruns
  have hconfig : (skylineSsthresh s allocated).1.flow.config = s.flow.config :=
    (ssthresh_quiet s allocated).config
  have hhas : skylineHasConfig s.flow = true := by
    rw [skylineHasConfig, ← hconfig]
    exact hruns.1
  have hep : ep.step K s (.ssthresh allocated) = ep.reduce := by
    simp [Epoch.step, Callback.reduces, Callback.resetPoint, Callback.targetPoint, hhas]
  rw [hep]
  refine Follows.reduce ep ?_
  rw [skylineSsthresh]
  obtain ⟨-, hs⟩ | hget := flowGet_cases s allocated
  · exact absurd hhas (by rw [SockState.flow, hs]; decide)
  · rw [hget]
    simp only [hhas, Bool.not_true, Bool.false_eq_true, if_false]
    rfl

lemma epochInv_txStart {s : SockState} {ep : Epoch} (h : EpochInv (s, ep)) (allocated : Bool)
    {nowNs : UInt64} (hnow : nowNs ≠ 0) (hidle : CubicRuns s.flow → s.flow.epochStartNs ≠ 0) :
    EpochInv (skylineTxStart s allocated nowNs, ep) := by
  rw [skylineTxStart]
  obtain ⟨hget, -⟩ | hget := flowGet_cases s allocated
  · rw [hget]
    exact h
  · rw [hget]
    exact fun hruns => (h hruns).idle (hidle hruns) hnow

/-- A callback that leaves the configuration and the epoch alone. -/
lemma epochInv_frame {s s' : SockState} {ep : Epoch} (h : EpochInv (s, ep))
    (hquiet : QuietEffect s s') (hcurve : CurveFrame s.flow.toFlowCubic s'.flow.toFlowCubic) :
    EpochInv (s', ep) := by
  intro hruns
  have hsame : CubicRuns s.flow := by
    rw [CubicRuns, skylineHasConfig, ← hquiet.config]
    exact hruns
  exact (h hsame).frame hcurve

/-- **One callback**: what it leaves belongs to the epoch, if the clock runs and no idle
restart comes between a reduction and the next target. -/
lemma epochInv_step (K : Kernel) {y : SockState × Epoch} {e : ConfigEvent} (h : EpochInv y)
    (hticks : e.callback.Ticks) (hidle : IdleInEpoch y.1.flow e.callback) :
    EpochInv (epochStep K y e) := by
  obtain ⟨s, ep⟩ := y
  obtain ⟨kernel, callback⟩ := e
  -- the callback finds the storage the one before left
  have hbefore : EpochInv ((ConfigEvent.mk kernel callback).before s, ep) := h
  cases callback with
  | init allocated read nowNs => exact epochInv_init hbefore K allocated read hticks
  | congControl allocated input =>
      exact epochInv_congControl hbefore K allocated hticks.1 hticks.2.2
  | ssthresh allocated => exact epochInv_ssthresh K allocated
  | undoCwnd allocated =>
      exact epochInv_frame hbefore (undoCwnd_quiet K _ allocated) (undoCwnd_curve K _ allocated)
  | setState allocated newState =>
      exact epochInv_frame hbefore (setState_quiet _ allocated newState)
        (setState_curve _ allocated newState)
  | cwndEvent txStart allocated nowNs =>
      cases txStart with
      | false => exact hbefore
      | true => exact epochInv_txStart hbefore allocated hticks (hidle rfl)
  | cwndEventTxStart allocated nowNs =>
      exact epochInv_txStart hbefore allocated hticks (hidle rfl)
  | release => exact epochInv_frame hbefore (release_quiet _) (release_curve _)

/-! ### Every run -/

/-- What one callback has to keep to: a CUBIC target is computed from the `K` and the Reno
estimate of its epoch, and an idle restart moves the start of the epoch and nothing
else. -/
def SelfConsistent (K : Kernel) (y : SockState × Epoch) (e : ConfigEvent) : Prop :=
  ((e.callback.targetPoint K (e.before y.1)).isSome = true →
    (epochStep K y e).1.flow.epochKMs =
        epochK (epochStep K y e).1.flow.wMax (epochStep K y e).2.cwnd ∧
      (epochStep K y e).1.flow.reno = (epochStep K y e).2.reno) ∧
  (e.callback.startsSending = true → CubicRuns y.1.flow →
    (epochStep K y e).1.flow =
        { y.1.flow with epochStartNs := (epochStep K y e).1.flow.epochStartNs } ∧
      ((epochStep K y e).1.flow.epochStartNs = 0 ↔ y.1.flow.epochStartNs = 0))

instance (K : Kernel) (y : SockState × Epoch) (e : ConfigEvent) :
    Decidable (SelfConsistent K y e) := by
  unfold SelfConsistent
  infer_instance

lemma Epoch.grow_opened (ep : Epoch) (cwnd acked : UInt32) :
    (ep.grow cwnd acked).opened = true := by
  rw [Epoch.grow]
  cases hopen : ep.opened with
  | true => exact hopen
  | false => rfl

/-- A target leaves an epoch open. -/
lemma Epoch.step_opened {K : Kernel} {ep : Epoch} {s : SockState} {callback : Callback}
    (h : (callback.targetPoint K s).isSome = true) : (ep.step K s callback).opened = true := by
  obtain ⟨point, hpoint⟩ := Option.isSome_iff_exists.mp h
  rw [Epoch.step, hpoint]
  exact Epoch.grow_opened _ point.1.sndCwnd point.2

/-- A target is computed on the CUBIC path, and the connection stays on it. -/
lemma cubicRuns_of_target (K : Kernel) {s : SockState} {allocated : Bool} {input : AckInput}
    (h : ((Callback.congControl allocated input).targetPoint K s).isSome = true) :
    CubicRuns (skylineCongControl K s allocated input).1.flow := by
  rw [Callback.targetPoint] at h
  split at h
  · rename_i hhas
    rw [Bool.and_eq_true] at hhas
    have hget : skylineFlowGet s.storage allocated = some s.flow := by
      obtain ⟨hnone, -⟩ | hget := flowGet_cases s allocated
      · rw [hnone] at hhas
        simp at hhas
      · exact hget
    have hm2 : (taken s.sk s.flow input).config.has featureAdaptiveCwnd = false := by
      rw [cubicPoint] at h
      split at h
      · simp at h
      · rename_i hoff
        exact Bool.eq_false_iff.mpr hoff
    obtain ⟨hno, -⟩ | ⟨-, hstorage⟩ := congControl_storage K s allocated input hget
    · rw [hhas.2] at hno
      exact absurd hno (by decide)
    · rw [flow_of_storage hstorage]
      have hconfig := congControlRun_flow_config K s.sk (taken s.sk s.flow input) input
      refine ⟨?_, hconfig ▸ hm2⟩
      rw [skylineHasConfig, hconfig]
      exact hhas.2
  · simp at h

/-- What an idle restart does to a flow with a configuration. -/
lemma txStart_flow {s : SockState} (hruns : CubicRuns s.flow) (allocated : Bool)
    (nowNs : UInt64) :
    (skylineTxStart s allocated nowNs).flow = { s.flow with epochStartNs := nowNs } := by
  rw [skylineTxStart]
  obtain ⟨-, hs⟩ | hget := flowGet_cases s allocated
  · exact absurd hruns (not_cubicRuns_of_storage hs)
  · rw [hget]
    rfl

lemma selfConsistent_step (K : Kernel) {y : SockState × Epoch} {e : ConfigEvent} (h : EpochInv y)
    (hticks : e.callback.Ticks) (hidle : IdleInEpoch y.1.flow e.callback) :
    SelfConsistent K y e := by
  have hnext := epochInv_step K h hticks hidle
  obtain ⟨s, ep⟩ := y
  obtain ⟨kernel, callback⟩ := e
  -- what an idle restart at `nowNs` leaves, once it is known to fall in an epoch
  have hrestart : ∀ allocated nowNs, nowNs ≠ 0 → CubicRuns s.flow → s.flow.epochStartNs ≠ 0 →
      (skylineTxStart ((ConfigEvent.mk kernel callback).before s) allocated nowNs).flow =
        { s.flow with epochStartNs := (skylineTxStart
          ((ConfigEvent.mk kernel callback).before s) allocated nowNs).flow.epochStartNs } ∧
      ((skylineTxStart ((ConfigEvent.mk kernel callback).before s)
        allocated nowNs).flow.epochStartNs = 0 ↔ s.flow.epochStartNs = 0) := by
    intro allocated nowNs hnow hruns hopen
    have hflow : (skylineTxStart ((ConfigEvent.mk kernel callback).before s) allocated
        nowNs).flow = { s.flow with epochStartNs := nowNs } :=
      txStart_flow (s := (ConfigEvent.mk kernel callback).before s) hruns allocated nowNs
    rw [hflow]
    exact ⟨rfl, iff_of_false hnow hopen⟩
  constructor
  · intro htarget
    have hruns : CubicRuns (epochStep K (s, ep) ⟨kernel, callback⟩).1.flow := by
      cases callback with
      | congControl allocated input => exact cubicRuns_of_target K htarget
      | _ => simp [Callback.targetPoint] at htarget
    have hopened : (epochStep K (s, ep) ⟨kernel, callback⟩).2.opened = true :=
      Epoch.step_opened htarget
    exact ⟨(hnext hruns).k hopened, (hnext hruns).reno hopened⟩
  · intro hsend hruns
    cases callback with
    | cwndEvent txStart allocated nowNs =>
        cases txStart with
        | true => exact hrestart allocated nowNs hticks hruns (hidle rfl hruns)
        | false => simp [Callback.startsSending] at hsend
    | cwndEventTxStart allocated nowNs =>
        exact hrestart allocated nowNs hticks hruns (hidle rfl hruns)
    | _ => simp [Callback.startsSending] at hsend

/-- **The CUBIC epoch is self-consistent** in every run, from a socket no callback has seen,
in which every idle restart of a connection on the CUBIC path comes while an epoch is open:
each CUBIC target is computed from the `K` of the current `w_max` and the window at which
its epoch started, with the Reno estimate restarted from that window, and an idle restart
moves the start of the epoch alone. -/
theorem cubic_epoch_consistent (K : Kernel) (sk : TcpSock) (es : List ConfigEvent)
    (hrun : Along (epochStep K) (fun y e => e.callback.Ticks ∧ IdleInEpoch y.1.flow e.callback)
      (epochInit sk) es) :
    Along (epochStep K) (SelfConsistent K) (epochInit sk) es := by
  have hinit : EpochInv (epochInit sk) := fun hruns =>
    absurd hruns (not_cubicRuns_of_storage rfl)
  exact along_mono (fun y e hinv hstep => epochInv_step K hinv hstep.1 hstep.2)
    (fun y e hinv hstep => selfConsistent_step K hinv hstep.1 hstep.2) es _ hinit hrun

/-! ### Concrete runs -/

/-- The connection opens at window 100 without M2. -/
def epochOpening : ConfigEvent := ⟨id, .init true (.of withoutM2 1) 1000000⟩

/-- The kernel asks for `ssthresh`. -/
def epochCut : ConfigEvent := ⟨id, .ssthresh true⟩

/-- The first send after an idle time, once the kernel has cut the window to 70. -/
def epochRestart : ConfigEvent :=
  ⟨fun sk => { sk with sndCwnd := 70, sndSsthresh := 70 }, .cwndEventTxStart true 1500000⟩

/-- An ACK for ten segments in the window of 70. -/
def epochAck : ConfigEvent :=
  ⟨fun sk => { sk with sndCwnd := 70, sndSsthresh := 70 },
    .congControl true (.of .tenSegments withoutM2)⟩

/-- A reduction, the ACK that starts the next epoch, an idle restart in it, and its next
ACK. -/
theorem cubic_epoch_after_cut :
    Along (epochStep Kernel.linux) (SelfConsistent Kernel.linux) (epochInit .established)
        [epochOpening, epochCut, epochAck, epochRestart, epochAck] ∧
      ([epochOpening, epochCut, epochAck].foldl (epochStep Kernel.linux)
        (epochInit .established)).1.flow.epochKMs = epochK 100 70 :=
  ⟨cubic_epoch_consistent Kernel.linux .established _ (by decide +kernel), by decide +kernel⟩

/-- The idle restart before that ACK: the target after it is computed with the `K` and the
Reno estimate of the epoch before the reduction. -/
theorem cubic_epoch_stale :
    (∀ e ∈ [epochOpening, epochCut, epochRestart, epochAck], e.callback.Ticks) ∧
      ([epochOpening, epochCut, epochRestart, epochAck].foldl (epochStep Kernel.linux)
        (epochInit .established)).1.flow.epochKMs = epochK 100 100 ∧
      epochK 100 100 ≠ epochK 100 70 ∧
      ¬ Along (epochStep Kernel.linux) (SelfConsistent Kernel.linux) (epochInit .established)
        [epochOpening, epochCut, epochRestart, epochAck] := by
  decide +kernel

end SkylineSpeeder
