import SkylineSpeeder.Cc.RoundConfig
import SkylineSpeeder.Cc.LossHistory

/-!
Loss never shrinks M2's window or M4's rate: two runs of one connection with M2 on,
fed the same ACKs, where the second loses at least as much in every round, and
where each run may see its own reductions, undos and window changes in between.

* `LossAlike`: the relation between the two states, equal up to the loss history;
* `congControlAdopt_alike`, `congControlRun_alike`: one ACK keeps it and orders the
  windows and the rates;
* `LossEvent`, `lossStep`, `LossBounds`: the two runs, and what they promise;
* `loss_never_shrinks`: after every ACK with an estimate the second run's window and
  rate are no smaller.
-/

namespace SkylineSpeeder

open Machine

/-! ### The relation -/

/-- Two states equal up to their loss history, the second with the larger average. -/
structure LossAlike (f f' : FlowState) : Prop where
  config : f'.config = f.config
  seq : f'.configSeq = f.configSeq
  path : f'.toFlowPath =
    { f.toFlowPath with lossRatePermille := f'.lossRatePermille, lastLost := f'.lastLost }
  le : LossLe f.lossHistory f'.lossHistory

lemma LossAlike.eq_withLoss {f f' : FlowState} (h : LossAlike f f') :
    f' = f.withLoss f'.lossHistory := by
  obtain ⟨⟨seq, counted, config⟩, path, cubic⟩ := f
  obtain ⟨⟨seq', counted', config'⟩, path', cubic'⟩ := f'
  obtain rfl : config' = config := h.config
  obtain rfl : seq' = seq := h.seq
  exact congrArg (fun p => FlowState.mk ⟨seq', counted', config'⟩ p cubic') h.path

lemma lossAlike_withLoss {f : FlowState} {g : LossHistory} (h : LossLe f.lossHistory g) :
    LossAlike f (f.withLoss g) :=
  ⟨rfl, rfl, rfl, h⟩

lemma LossAlike.hasConfig {f f' : FlowState} (h : LossAlike f f') :
    skylineHasConfig f' = skylineHasConfig f := by
  rw [skylineHasConfig, skylineHasConfig, h.config]

lemma LossAlike.round {f f' : FlowState} (h : LossAlike f f') :
    f'.nextRoundDelivered = f.nextRoundDelivered := by
  rw [h.path]

/-- A state nothing of the path model has changed in is alike to the same states. -/
lemma LossAlike.quiet_left {s t : SockState} {f' : FlowState} (h : LossAlike s.flow f')
    (hq : QuietEffect s t) : LossAlike t.flow f' := by
  have hrate : t.flow.lossRatePermille = s.flow.lossRatePermille :=
    congrArg FlowPath.lossRatePermille hq.path
  refine ⟨h.config.trans hq.config.symm, h.seq.trans hq.seq.symm, ?_, ?_⟩
  · rw [hq.path]
    exact h.path
  · refine ⟨?_, h.le.le_thousand⟩
    show t.flow.lossRatePermille.toNat ≤ f'.lossRatePermille.toNat
    rw [hrate]
    exact h.le.le

lemma LossAlike.quiet_right {s t : SockState} {f : FlowState} (h : LossAlike f s.flow)
    (hq : QuietEffect s t) : LossAlike f t.flow := by
  have hrate : t.flow.lossRatePermille = s.flow.lossRatePermille :=
    congrArg FlowPath.lossRatePermille hq.path
  refine ⟨hq.config.trans h.config, hq.seq.trans h.seq, ?_, ?_, ?_⟩
  · rw [hq.path]
    exact h.path
  · show f.lossRatePermille.toNat ≤ t.flow.lossRatePermille.toNat
    rw [hrate]
    exact h.le.le
  · show t.flow.lossRatePermille.toNat ≤ 1000
    rw [hrate]
    exact h.le.le_thousand

/-! ### One ACK -/

section Ack

variable {sk sk' : TcpSock} {f f' : FlowState}

lemma LossAlike.adopt (h : LossAlike f f') (read : ConfigRead) :
    LossAlike (skylineAdoptConfig f read).1 (skylineAdoptConfig f' read).1 := by
  cases hok : (skylineAdoptConfig f read).2 with
  | false =>
      have hok' := (adoptConfig_snd f' f read).trans hok
      rw [adoptConfig_false hok, adoptConfig_false hok']
      exact h
  | true =>
      obtain ⟨seq, copy, hread, -, hf⟩ := adoptConfig_true hok
      obtain ⟨seq', copy', hread', -, hf'⟩ := adoptConfig_true
        ((adoptConfig_snd f' f read).trans hok)
      rw [hread, ConfigRead.mk.injEq, Option.some.injEq, Option.some.injEq] at hread'
      obtain ⟨rfl, rfl, -⟩ := hread'
      rw [hf, hf']
      exact ⟨rfl, rfl, h.path, h.le⟩

/-- A reset starts both loss histories over. -/
lemma LossAlike.reset (h : LossAlike f f') (hsk : SameAck sk sk') (nowNs : UInt64) :
    LossAlike (skylineResetGeneration f sk nowNs) (skylineResetGeneration f' sk' nowNs) := by
  refine ⟨h.config, h.seq, ?_, le_rfl, Nat.zero_le _⟩
  simp only [skylineResetGeneration, hsk.delivered, hsk.deliveredCe]

/-- Right after a reset nothing has been lost. -/
lemma losesMore_reset (f f' : FlowState) (sk sk' : TcpSock) (nowNs : UInt64) :
    LosesMore sk (skylineResetGeneration f sk nowNs).lossHistory sk'
      (skylineResetGeneration f' sk' nowNs).lossHistory
      (skylineResetGeneration f' sk' nowNs).lastLossRateDelivered := by
  have hself : ∀ x : UInt32, (x - x).toNat = 0 := by simp
  constructor
  · show (sk.lost - sk.lost).toNat ≤ (sk'.lost - sk'.lost).toNat
    rw [hself, hself]
  · show 1000 * (sk'.lost - sk'.lost).toNat < 2 ^ 32
    rw [hself]
    norm_num
  · show (sk'.lost - sk'.lost).toNat + (sk'.delivered - sk'.delivered).toNat < 2 ^ 32
    rw [hself, hself]
    norm_num

/-- The first part of `skyline_cong_control` on alike states: both are refused, or both go
on alike, and at a round end the second has lost more. -/
lemma congControlAdopt_alike (h : LossAlike f f') (hsk : SameAck sk sk') (input : AckInput)
    (hmore : skylineRoundReached input.sample f.nextRoundDelivered = true →
      LosesMore sk f.lossHistory sk' f'.lossHistory f'.lastLossRateDelivered) :
    (congControlAdopt sk f input = none ∧ congControlAdopt sk' f' input = none) ∨
      ∃ g g' r r', congControlAdopt sk f input = some (g, r) ∧
        congControlAdopt sk' f' input = some (g', r') ∧ LossAlike g g' ∧
        ((skylineNewRound sk g input.sample).2 = true →
          LosesMore sk g.lossHistory sk' g'.lossHistory g'.lastLossRateDelivered) := by
  have hok : (skylineAdoptConfig f' input.read).2 = (skylineAdoptConfig f input.read).2 :=
    adoptConfig_snd f' f input.read
  have hreset := (h.adopt input.read).reset hsk input.resetNs
  have hlost := losesMore_reset (skylineAdoptConfig f input.read).1
    (skylineAdoptConfig f' input.read).1 sk sk' input.resetNs
  -- a flow that keeps its configuration ends a round exactly if the test at entry says so
  have hkept : (skylineNewRound sk f input.sample).2 = true →
      LosesMore sk f.lossHistory sk' f'.lossHistory f'.lastLossRateDelivered := by
    intro hround
    rw [skylineNewRound] at hround
    split_ifs at hround with hreached
    exact hmore hreached
  rw [congControlAdopt, congControlAdopt, h.hasConfig, h.round, h.seq]
  dsimp only
  rw [hok]
  cases skylineHasConfig f with
  | false =>
      simp only [Bool.not_false, if_true]
      cases (skylineAdoptConfig f input.read).2 with
      | false => exact .inl ⟨rfl, rfl⟩
      | true => exact .inr ⟨_, _, _, _, rfl, rfl, hreset, fun _ => hlost⟩
  | true =>
      simp only [Bool.not_true, Bool.false_eq_true, if_false]
      split_ifs
      · exact .inr ⟨_, _, _, _, rfl, rfl, hreset, fun _ => hlost⟩
      · exact .inr ⟨_, _, _, _, rfl, rfl, h, hkept⟩
      · exact .inr ⟨_, _, _, _, rfl, rfl, h, hkept⟩
      · exact .inr ⟨_, _, _, _, rfl, rfl, h, hkept⟩

/-- Once the model has taken the ACK the states are alike again. -/
lemma LossAlike.modelled (h : LossAlike f f') (hsk : SameAck sk sk') (input : AckInput)
    (hmore : (skylineNewRound sk f input.sample).2 = true →
      LosesMore sk f.lossHistory sk' f'.lossHistory f'.lastLossRateDelivered) :
    LossAlike (modelled sk f input) (modelled sk' f' input) := by
  have hlast : f'.lastLossRateDelivered = f.lastLossRateDelivered := by rw [h.path]
  rw [h.eq_withLoss, modelled_withLoss f f'.lossHistory hsk input]
  refine lossAlike_withLoss ?_
  rw [modelled_lossHistory f sk input]
  refine lossAverage_le hsk h.le _ fun hround => ?_
  rw [← hlast]
  exact hmore hround

lemma LossAlike.hasEstimate (h : LossAlike f f') : HasEstimate f ↔ HasEstimate f' := by
  rw [h.eq_withLoss]
  rfl

/-- M2's window leaves the pacing rate alone. -/
lemma setCwndTarget_pacingRate (K : Kernel) (tp : TcpSock) (flow : FlowState)
    (config : KernelConfig) (acked : UInt32) (afterRto : Bool) :
    (skylineSetCwndTarget K tp flow config acked afterRto).skPacingRate = tp.skPacingRate := by
  have hcap : ∀ (tp : TcpSock) cap, (tp.capCwnd cap).skPacingRate = tp.skPacingRate := by
    intro tp cap
    rw [TcpSock.capCwnd]
    split_ifs <;> rfl
  have hfloor : ∀ (tp : TcpSock) least, (tp.floorCwnd least).skPacingRate = tp.skPacingRate := by
    intro tp least
    rw [TcpSock.floorCwnd]
    split_ifs <;> rfl
  rw [skylineSetCwndTarget]
  dsimp only
  split_ifs
  all_goals simp only [hcap, hfloor]
  all_goals rfl

/-- Marking a connection app-limited leaves window and rate alone. -/
lemma markAppLimited_frame (K : Kernel) (tp : TcpSock) :
    (skylineMarkAppLimited K tp).sndCwnd = tp.sndCwnd ∧
      (skylineMarkAppLimited K tp).skPacingRate = tp.skPacingRate := by
  rw [skylineMarkAppLimited]
  dsimp only
  split_ifs
  all_goals exact ⟨rfl, rfl⟩

/-- The socket `skyline_cong_control` leaves with M2 on: window and rate. -/
lemma congControlRun_m2 (K : Kernel) {config : KernelConfig}
    (hm2 : config.has featureAdaptiveCwnd = true) {flow : FlowState} (hflow : flow.config = config)
    (sk : TcpSock) (input : AckInput) :
    (congControlRun K sk flow input).2.1 = modelled sk flow input ∧
      (congControlRun K sk flow input).1.sndCwnd =
        (skylineSetCwndTarget K (skylineApplyPacing sk (modelled sk flow input) config).1
          (modelled sk flow input) config input.sample.ackedSacked
          (decide ((skylineApplyPacing sk (modelled sk flow input) config).1.icskCaState
            = .loss))).sndCwnd ∧
      (congControlRun K sk flow input).1.skPacingRate =
        (skylineApplyPacing sk (modelled sk flow input) config).1.skPacingRate := by
  have hconfig : (modelled sk flow input).config = config :=
    (congrArg FlowConfig.config (modelled_config sk flow input)).trans hflow
  rw [congControlRun_flow, congControlRun_sock, hflow, setWindow, hconfig]
  simp only [hm2, if_true]
  refine ⟨trivial, ?_⟩
  split_ifs
  · obtain ⟨hcwnd, hrate⟩ := markAppLimited_frame K (skylineSetCwndTarget K
      (skylineApplyPacing sk (modelled sk flow input) config).1 (modelled sk flow input) config
      input.sample.ackedSacked
      (decide ((skylineApplyPacing sk (modelled sk flow input) config).1.icskCaState = .loss)))
    exact ⟨hcwnd, hrate.trans (setCwndTarget_pacingRate ..)⟩
  · exact ⟨rfl, setCwndTarget_pacingRate ..⟩

/-- Pacing changes nothing the sockets agree on. -/
lemma applyPacing_same (sk : TcpSock) (flow : FlowState) (config : KernelConfig) :
    SameAck sk (skylineApplyPacing sk flow config).1 := by
  obtain ⟨rate, status, heq⟩ := applyPacing_eq sk flow config
  rw [heq]
  exact ⟨rfl, rfl, rfl, rfl, rfl, rfl⟩

lemma SameAck.paced (h : SameAck sk sk') (flow flow' : FlowState) (config : KernelConfig) :
    SameAck (skylineApplyPacing sk flow config).1 (skylineApplyPacing sk' flow' config).1 := by
  have hl := applyPacing_same sk flow config
  have hr := applyPacing_same sk' flow' config
  exact ⟨by rw [hl.mss, hr.mss, h.mss], by rw [hl.srtt, hr.srtt, h.srtt],
    by rw [hl.delivered, hr.delivered, h.delivered],
    by rw [hl.deliveredCe, hr.deliveredCe, h.deliveredCe],
    by rw [hl.packetsOut, hr.packetsOut, h.packetsOut],
    by rw [hl.maxPacing, hr.maxPacing, h.maxPacing]⟩

lemma TargetFits.paced {flow : FlowState} {config : KernelConfig} (h : TargetFits sk flow config) :
    TargetFits (skylineApplyPacing sk flow config).1 flow config := by
  refine ⟨h.bytes, ?_, h.rate⟩
  rw [inflatedPackets, (applyPacing_same sk flow config).mss]
  exact h.packets

/-- What the second run owes the first after an ACK: an estimate at the same ACKs, and
with one no smaller window and, with M4 on, no smaller rate. -/
structure LossOrdered (config : KernelConfig) (s s' : SockState) : Prop where
  estimate : HasEstimate s.flow ↔ HasEstimate s'.flow
  cwnd : HasEstimate s.flow → s.sk.sndCwnd ≤ s'.sk.sndCwnd
  rate : HasEstimate s.flow → config.has featurePacing = true →
    s.sk.skPacingRate ≤ s'.sk.skPacingRate

/-- **The second part of `skyline_cong_control`** keeps the states alike and orders the
sockets. -/
lemma congControlRun_alike (K : Kernel) {config : KernelConfig} (hvalid : ValidGains config)
    (hm2 : config.has featureAdaptiveCwnd = true) (h : LossAlike f f') (hf : f.config = config)
    (hsk : SameAck sk sk') (input : AckInput)
    (hmore : (skylineNewRound sk f input.sample).2 = true →
      LosesMore sk f.lossHistory sk' f'.lossHistory f'.lastLossRateDelivered)
    (hfits : TargetFits sk' (modelled sk' f' input) config) :
    LossAlike (congControlRun K sk f input).2.1 (congControlRun K sk' f' input).2.1 ∧
      LossOrdered config
        ⟨(congControlRun K sk f input).1, some (congControlRun K sk f input).2.1⟩
        ⟨(congControlRun K sk' f' input).1, some (congControlRun K sk' f' input).2.1⟩ := by
  obtain ⟨hflow, hcwnd, hrate⟩ := congControlRun_m2 K hm2 hf sk input
  obtain ⟨hflow', hcwnd', hrate'⟩ := congControlRun_m2 K hm2 (h.config.trans hf) sk' input
  have hmodel := h.modelled hsk input hmore
  set m := SkylineSpeeder.modelled sk f input
  set m' := SkylineSpeeder.modelled sk' f' input
  have hm : m' = m.withLoss m'.lossHistory := hmodel.eq_withLoss
  have hpaced := hsk.paced m m' config
  rw [hflow, hflow']
  refine ⟨hmodel, hmodel.hasEstimate, fun hest => ?_, fun hest hm4 => ?_⟩
  · show (congControlRun K sk f input).1.sndCwnd ≤ (congControlRun K sk' f' input).1.sndCwnd
    have hfits' := hfits.paced
    rw [hcwnd, hcwnd', UInt32.le_iff_toNat_le]
    rw [hm] at hfits' hpaced ⊢
    exact setCwndTarget_mono (h := m.lossHistory) hpaced (show HasEstimate m from hest) hmodel.le
      hfits' K _ _ _
  · show (congControlRun K sk f input).1.skPacingRate ≤
      (congControlRun K sk' f' input).1.skPacingRate
    rw [hrate, hrate', UInt64.le_iff_toNat_le]
    rw [hm] at hfits ⊢
    exact applyPacing_mono (h := m.lossHistory) hsk hvalid hm4 (show HasEstimate m from hest)
      hmodel.le hfits

end Ack

/-! ### The two runs -/

/-- A callback both runs get, with what each of them sees before it: its own callbacks,
which leave the path model alone, and its own changes by the kernel. -/
structure LossEvent where
  left : List ConfigEvent
  right : List ConfigEvent
  leftKernel : TcpSock → TcpSock
  rightKernel : TcpSock → TcpSock
  callback : Callback

/-- The sockets as the common callback finds them. -/
def LossEvent.before (K : Kernel) (y : SockState × SockState) (e : LossEvent) :
    SockState × SockState :=
  ((ConfigEvent.mk e.leftKernel e.callback).before (e.left.foldl (configStep K) y.1),
    (ConfigEvent.mk e.rightKernel e.callback).before (e.right.foldl (configStep K) y.2))

/-- One common callback, in both runs. -/
def lossStep (K : Kernel) (y : SockState × SockState) (e : LossEvent) : SockState × SockState :=
  ((e.callback.exec K (e.before K y).1).state, (e.callback.exec K (e.before K y).2).state)

/-- What the two runs promise at a common callback. -/
structure LossBounds (K : Kernel) (config : KernelConfig) (y : SockState × SockState)
    (e : LossEvent) : Prop where
  left_quiet : ∀ i ∈ e.left, i.callback.Quiet
  right_quiet : ∀ i ∈ e.right, i.callback.Quiet
  reads : e.callback.ReadsFrom {config}
  same : SameAck (e.before K y).1.sk (e.before K y).2.sk
  /-- At a round end the second run has lost at least as much since the last one. -/
  loses : ∀ allocated input, e.callback = .congControl allocated input →
    skylineRoundReached input.sample (e.before K y).1.flow.nextRoundDelivered = true →
    LosesMore (e.before K y).1.sk (e.before K y).1.flow.lossHistory (e.before K y).2.sk
      (e.before K y).2.flow.lossHistory (e.before K y).2.flow.lastLossRateDelivered
  /-- The arithmetic of the second run's target and rate does not overflow. -/
  fits : ∀ allocated input, e.callback = .congControl allocated input →
    ∀ taken ∈ congControlAdopt (e.before K y).2.sk (e.before K y).2.flow input,
      TargetFits (e.before K y).2.sk (modelled (e.before K y).2.sk taken.1 input) config

/-- The invariant of the two runs. -/
structure LossInv (config : KernelConfig) (y : SockState × SockState) : Prop where
  left : y.1.storage.isSome = true
  right : y.2.storage.isSome = true
  published : HasPublished {config} y.1
  /-- A flow without a configuration has no estimate. -/
  unset : skylineHasConfig y.1.flow = false → y.1.flow.bwBps = 0
  alike : LossAlike y.1.flow y.2.flow

lemma QuietEffect.trans {s t u : SockState} (h : QuietEffect s t) (h' : QuietEffect t u) :
    QuietEffect s u :=
  ⟨h'.config.trans h.config, h'.seq.trans h.seq, h'.path.trans h.path,
    fun hs => h'.storage (h.storage hs)⟩

/-- Callbacks that leave the path model alone leave it alone together. -/
lemma quiet_run (K : Kernel) :
    ∀ (es : List ConfigEvent) (s : SockState), (∀ e ∈ es, e.callback.Quiet) →
      QuietEffect s (es.foldl (configStep K) s) := by
  intro es
  induction es with
  | nil => exact fun s _ => QuietEffect.refl s
  | cons e es ih =>
      intro s hq
      have hmoved : QuietEffect s (e.before s) := ⟨rfl, rfl, rfl, id⟩
      have hstep : QuietEffect s (configStep K s e) :=
        hmoved.trans (quietEffect K (hq e (by simp)) (e.before s))
      exact hstep.trans (ih _ fun e' he' => hq e' (List.mem_cons_of_mem e he'))

section Step

variable {K : Kernel} {config : KernelConfig} {y : SockState × SockState} {e : LossEvent}

/-- Whatever leaves the path model alone keeps the invariant. -/
lemma LossInv.quiet {y' : SockState × SockState} (h : LossInv config y)
    (hl : QuietEffect y.1 y'.1) (hr : QuietEffect y.2 y'.2) : LossInv config y' := by
  refine ⟨hl.storage h.left, hr.storage h.right, ?_, ?_, (h.alike.quiet_left hl).quiet_right hr⟩
  · rw [HasPublished, skylineHasConfig, hl.config]
    exact h.published
  · rw [skylineHasConfig, hl.config, show y'.1.flow.bwBps = y.1.flow.bwBps from
      congrArg FlowPath.bwBps hl.path]
    exact h.unset

/-- The invariant when the common callback starts. -/
lemma LossInv.before (h : LossInv config y) (hb : LossBounds K config y e) :
    LossInv config (e.before K y) := by
  refine h.quiet ?_ ?_
  · exact (quiet_run K e.left y.1 hb.left_quiet).trans ⟨rfl, rfl, rfl, id⟩
  · exact (quiet_run K e.right y.2 hb.right_quiet).trans ⟨rfl, rfl, rfl, id⟩

lemma flowGet_of_isSome {s : SockState} (h : s.storage.isSome = true) (allocated : Bool) :
    skylineFlowGet s.storage allocated = some s.flow := by
  obtain ⟨-, hs⟩ | hget := flowGet_cases s allocated
  · rw [hs] at h
    exact absurd h (by simp)
  · exact hget

/-- A state with a configuration needs no estimate to be unset. -/
lemma LossInv.of_some {sk sk' : TcpSock} {f f' : FlowState} (hf : f.config = config)
    (habi : config.abiVersion = abiVersion) (h : LossAlike f f') :
    LossInv config (⟨sk, some f⟩, ⟨sk', some f'⟩) := by
  refine ⟨rfl, rfl, fun _ => hf, fun hno => ?_, h⟩
  rw [SockState.flow_some, skylineHasConfig, hf, habi] at hno
  simp at hno

/-- `skyline_cong_control` in both runs. -/
lemma congControl_alike (hvalid : ValidGains config)
    (hm2 : config.has featureAdaptiveCwnd = true) {t t' : SockState} (h : LossInv config (t, t'))
    (hsk : SameAck t.sk t'.sk) {allocated : Bool} {input : AckInput}
    (hread : (Callback.congControl allocated input).ReadsFrom {config})
    (hmore : skylineRoundReached input.sample t.flow.nextRoundDelivered = true →
      LosesMore t.sk t.flow.lossHistory t'.sk t'.flow.lossHistory t'.flow.lastLossRateDelivered)
    (hfits : ∀ taken ∈ congControlAdopt t'.sk t'.flow input,
      TargetFits t'.sk (modelled t'.sk taken.1 input) config) :
    LossInv config ((skylineCongControl K t allocated input).1,
        (skylineCongControl K t' allocated input).1) ∧
      LossOrdered config (skylineCongControl K t allocated input).1
        (skylineCongControl K t' allocated input).1 := by
  have hget := flowGet_of_isSome h.left allocated
  have hget' := flowGet_of_isSome h.right allocated
  rw [skylineCongControl, skylineCongControl, hget, hget']
  obtain ⟨hnone, hnone'⟩ | ⟨g, g', r, r', hrun, hrun', halike, hmore'⟩ :=
    congControlAdopt_alike h.alike hsk input hmore
  · -- both are refused: neither has an estimate
    simp only [hnone, hnone']
    have hadopt := adopts_of_congControl t.sk t.flow input
    rw [hnone] at hadopt
    cases hadopt with
    | refused hno _ =>
        have hbw : ¬ HasEstimate t.flow := fun hest => hest.1 (h.unset hno)
        refine ⟨⟨rfl, rfl, h.published, h.unset, h.alike⟩, h.alike.hasEstimate, ?_, ?_⟩
        · exact fun hest => absurd hest hbw
        · exact fun hest => absurd hest hbw
  · simp only [hrun, hrun']
    have hused : usedConfig t (.congControl allocated input) = some g.config := by
      simp [usedConfig, hget, hrun]
    have hconfig : g.config = config :=
      Set.mem_singleton_iff.mp (usedConfig_published h.published hread hused)
    have habi : config.abiVersion = abiVersion := by
      have hadopt := adopts_of_congControl t.sk t.flow input
      rw [hrun] at hadopt
      rw [← hconfig]
      exact beq_iff_eq.mp hadopt.hasConfig
    obtain ⟨hflow, hordered⟩ := congControlRun_alike K hvalid hm2 halike hconfig hsk input hmore'
      (hfits (g', r') hrun')
    refine ⟨LossInv.of_some ?_ habi hflow, hordered⟩
    rw [congControlRun_flow_config]
    exact hconfig

/-- `skyline_init` in both runs. -/
lemma init_alike {t t' : SockState} (h : LossInv config (t, t')) (hsk : SameAck t.sk t'.sk)
    {allocated : Bool} {read : ConfigRead} {nowNs : UInt64}
    (hread : (Callback.init allocated read nowNs).ReadsFrom {config}) :
    LossInv config ((skylineInit t allocated read nowNs).1,
      (skylineInit t' allocated read nowNs).1) := by
  have hget := flowGet_of_isSome h.left allocated
  have hget' := flowGet_of_isSome h.right allocated
  have halike := h.alike
  have hcounted : LossAlike { t.flow with counted := true } { t'.flow with counted := true } :=
    ⟨halike.config, halike.seq, halike.path, ⟨halike.le.le, halike.le.le_thousand⟩⟩
  have hok : (skylineAdoptConfig { t'.flow with counted := true } read).2 =
      (skylineAdoptConfig { t.flow with counted := true } read).2 := adoptConfig_snd _ _ read
  rw [skylineInit, skylineInit, hget, hget']
  dsimp only
  rw [hok]
  cases hadopted : (skylineAdoptConfig { t.flow with counted := true } read).2 with
  | false =>
      have hadopted' := hok.trans hadopted
      simp only [Bool.not_false, if_true, adoptConfig_false hadopted, adoptConfig_false hadopted']
      exact ⟨rfl, rfl, h.published, h.unset, hcounted⟩
  | true =>
      simp only [Bool.not_true, Bool.false_eq_true, if_false]
      have hconfig : (skylineAdoptConfig { t.flow with counted := true } read).1.config = config :=
        Set.mem_singleton_iff.mp (adopt_published hread hadopted)
      have habi : config.abiVersion = abiVersion := by
        rw [← hconfig]
        exact beq_iff_eq.mp (hasConfig_of_adopt hadopted)
      refine LossInv.of_some hconfig habi ((hcounted.adopt read).reset ?_ nowNs)
      split_ifs
      all_goals exact ⟨hsk.mss, hsk.srtt, hsk.delivered, hsk.deliveredCe, hsk.packetsOut,
        hsk.maxPacing⟩

/-- The step lemma: a common callback keeps the invariant, and an ACK orders the
sockets. -/
lemma lossStep_alike (hvalid : ValidGains config) (hm2 : config.has featureAdaptiveCwnd = true)
    (h : LossInv config y) (hb : LossBounds K config y e) :
    LossInv config (lossStep K y e) ∧
      ((∃ allocated input, e.callback = .congControl allocated input) →
        LossOrdered config (lossStep K y e).1 (lossStep K y e).2) := by
  have hbefore := h.before hb
  rw [lossStep]
  cases hc : e.callback with
  | congControl allocated input =>
      have hread := hb.reads
      rw [hc] at hread
      rw [exec_congControl K rfl, exec_congControl K rfl]
      obtain ⟨hinv, hordered⟩ := congControl_alike (K := K) hvalid hm2 hbefore hb.same hread
        (hb.loses allocated input hc) (hb.fits allocated input hc)
      exact ⟨hinv, fun _ => hordered⟩
  | init allocated read nowNs =>
      have hread := hb.reads
      rw [hc] at hread
      rw [exec_init K rfl, exec_init K rfl]
      exact ⟨init_alike hbefore hb.same hread, by simp⟩
  | _ =>
      refine ⟨hbefore.quiet (quietEffect K ?_ _) (quietEffect K ?_ _), by simp⟩
      all_goals exact trivial

end Step

/-- **Loss never shrinks M2's window or M4's rate.**  Two runs of one fresh flow on the
same validated configuration with M2 on, whatever their sockets, through the same
`skyline_init` and `cong_control` calls, each with its own reductions, undos and
kernel writes in between.  If at every call the sockets agree as `SameAck` says, at
every round end the second run has lost at least as much, and its arithmetic does
not overflow, then after every ACK both runs have an estimate or neither has, and
with one the second run's window is at least the first's and, with M4 on, so is its
rate. -/
theorem loss_never_shrinks (K : Kernel) (config : KernelConfig) (hvalid : ValidGains config)
    (hm2 : config.has featureAdaptiveCwnd = true) (sk sk' : TcpSock) (es : List LossEvent)
    (hes : Along (lossStep K) (LossBounds K config)
      (⟨sk, some FlowState.zero⟩, ⟨sk', some FlowState.zero⟩) es) :
    Along (lossStep K)
      (fun y e => (∃ allocated input, e.callback = .congControl allocated input) →
        LossOrdered config (lossStep K y e).1 (lossStep K y e).2)
      (⟨sk, some FlowState.zero⟩, ⟨sk', some FlowState.zero⟩) es := by
  refine along_mono (I := LossInv config)
    (fun y e hy he => (lossStep_alike hvalid hm2 hy he).1)
    (fun y e hy he => (lossStep_alike hvalid hm2 hy he).2) es _ ?_ hes
  refine ⟨rfl, rfl, fun hhas => ?_, fun _ => rfl, ⟨rfl, rfl, rfl, le_rfl, Nat.zero_le _⟩⟩
  exact absurd (show skylineHasConfig FlowState.zero = true from hhas) (by decide)

/-- The ACK that ends the first round: a hundred segments delivered, and in each run its
own number lost. -/
def firstRoundEnd (left right : UInt32) (inserted : List ConfigEvent) : LossEvent where
  left := []
  right := inserted
  leftKernel := fun sk => { sk with delivered := 101, srttUs := 320000, lost := left }
  rightKernel := fun sk => { sk with delivered := 101, srttUs := 320000, lost := right }
  callback := .congControl true
    (.of { RateSample.tenSegments with delivered := 100, ackedSacked := 100 } .speeder)

/-- The second run loses thirty segments and enters recovery. -/
def lossyRound : List LossEvent :=
  [⟨[], [], id, id, .init true (.of .speeder 1) 1000000⟩,
    firstRoundEnd 0 30 [⟨id, .ssthresh true⟩,
      ⟨fun sk => { sk with sndSsthresh := 50, icskCaState := .recovery },
        .setState true .recovery⟩]]

/-- The run that lost more ends up with the larger window. -/
theorem loss_never_shrinks_recovery :
    Along (lossStep Kernel.linux)
        (fun y e => (∃ allocated input, e.callback = .congControl allocated input) →
          LossOrdered .speeder (lossStep Kernel.linux y e).1 (lossStep Kernel.linux y e).2)
        (⟨TcpSock.established, some FlowState.zero⟩, ⟨TcpSock.established, some FlowState.zero⟩)
        lossyRound ∧
      ((lossyRound.foldl (lossStep Kernel.linux) (⟨TcpSock.established, some FlowState.zero⟩,
        ⟨TcpSock.established, some FlowState.zero⟩)).1.sk.sndCwnd,
       (lossyRound.foldl (lossStep Kernel.linux) (⟨TcpSock.established, some FlowState.zero⟩,
        ⟨TcpSock.established, some FlowState.zero⟩)).2.sk.sndCwnd) = (300, 318) := by
  refine ⟨loss_never_shrinks Kernel.linux .speeder ⟨by decide, by decide⟩ (by decide) _ _
    lossyRound ⟨⟨by simp, by simp, fun _ => ⟨_, rfl, rfl⟩, ?_, by simp, by simp⟩,
      ⟨by simp [firstRoundEnd], ?_, fun _ => ⟨_, rfl, rfl⟩, ?_, ?_, ?_⟩, trivial⟩,
    by decide +kernel⟩
  · exact ⟨rfl, rfl, rfl, rfl, rfl, rfl⟩
  · intro i hi
    simp only [firstRoundEnd, List.mem_cons, List.not_mem_nil, or_false] at hi
    obtain rfl | rfl := hi
    · exact trivial
    · exact trivial
  · exact ⟨by decide +kernel, by decide +kernel, by decide +kernel, by decide +kernel,
      by decide +kernel, by decide +kernel⟩
  · intro allocated input he _
    exact ⟨by decide +kernel, by decide +kernel, by decide +kernel⟩
  · intro allocated input he
    obtain ⟨-, rfl⟩ := Callback.congControl.inj he
    decide +kernel

end SkylineSpeeder
