import SkylineSpeeder.Cc.Frame

/-!
The loss history of a connection, and what depends on it.

The path model reads the loss history in one place, the loss average of M3, and
writes it nowhere else: every other stage commutes with replacing it.  From the
average on, everything is monotone: the inflation, M2's target and window, M4's
rate.

* `SameAck`: what the sockets of two runs agree on at an ACK;
* `withLoss`, `updateModel_withLoss`: the model up to its loss history;
* `lossSample_le`, `lossAverage_le`: the average is monotone in what is lost;
* `inflation_le`, `bdpPackets_le`, `setCwndTarget_mono`, `applyPacing_mono`: so are
  the inflation, the target, the window and the rate.
-/

namespace SkylineSpeeder

open Word (minT maxT)

/-! ### The model up to its loss history -/

/-- What the two sockets agree on when an ACK arrives. -/
structure SameAck (tp tp' : TcpSock) : Prop where
  mss : tp'.mssCache = tp.mssCache
  srtt : tp'.srttUs = tp.srttUs
  delivered : tp'.delivered = tp.delivered
  deliveredCe : tp'.deliveredCe = tp.deliveredCe
  packetsOut : tp'.packetsOut = tp.packetsOut
  maxPacing : tp'.skMaxPacingRate = tp.skMaxPacingRate

/-- The part of a connection's state in which the two runs may differ. -/
structure LossHistory where
  counted : Bool
  lossRatePermille : UInt32
  lastLost : UInt32
  cubic : FlowCubic

/-- The state with another loss history. -/
def FlowState.withLoss (flow : FlowState) (h : LossHistory) : FlowState :=
  { flow with
    counted := h.counted
    lossRatePermille := h.lossRatePermille
    lastLost := h.lastLost
    toFlowCubic := h.cubic }

/-- The loss history of a state. -/
def FlowState.lossHistory (flow : FlowState) : LossHistory :=
  ⟨flow.counted, flow.lossRatePermille, flow.lastLost, flow.toFlowCubic⟩

lemma withLoss_lossHistory (flow : FlowState) : flow.withLoss flow.lossHistory = flow := rfl

section Commutes

variable {tp tp' : TcpSock} (flow : FlowState) (h : LossHistory)

lemma withLoss_ite (c : Prop) [Decidable c] (f g : FlowState) :
    (if c then f else g).withLoss h = if c then f.withLoss h else g.withLoss h :=
  apply_ite (fun f => FlowState.withLoss f h) c f g

lemma newRound_withLoss (htp : SameAck tp tp') (sample : RateSample) :
    (skylineNewRound tp' (flow.withLoss h) sample).2 = (skylineNewRound tp flow sample).2 ∧
      (skylineNewRound tp' (flow.withLoss h) sample).1 =
        (skylineNewRound tp flow sample).1.withLoss h := by
  rw [skylineNewRound, skylineNewRound, htp.delivered, htp.packetsOut]
  by_cases hround : skylineRoundReached sample flow.nextRoundDelivered
  · have hround' : skylineRoundReached sample (flow.withLoss h).nextRoundDelivered := hround
    rw [if_pos hround, if_pos hround']
    exact ⟨rfl, rfl⟩
  · have hround' : ¬ skylineRoundReached sample (flow.withLoss h).nextRoundDelivered := hround
    rw [if_neg hround, if_neg hround']
    exact ⟨rfl, rfl⟩

lemma updateMinRtt_withLoss (config : KernelConfig) (sample : RateSample) (nowUs : UInt64) :
    updateMinRtt config sample nowUs (flow.withLoss h) =
      (updateMinRtt config sample nowUs flow).withLoss h := by
  rw [updateMinRtt, updateMinRtt, withLoss_ite]
  rfl

lemma updateMinSrtt_withLoss (htp : SameAck tp tp') (config : KernelConfig) (nowUs : UInt64) :
    updateMinSrtt config tp' nowUs (flow.withLoss h) =
      (updateMinSrtt config tp nowUs flow).withLoss h := by
  rw [updateMinSrtt, updateMinSrtt, htp.srtt, withLoss_ite]
  rfl

lemma updateBwWindow_withLoss (config : KernelConfig) (newRound : Bool) :
    (updateBwWindow config newRound (flow.withLoss h)).2 =
        (updateBwWindow config newRound flow).2 ∧
      (updateBwWindow config newRound (flow.withLoss h)).1 =
        (updateBwWindow config newRound flow).1.withLoss h := by
  rw [updateBwWindow, updateBwWindow]
  by_cases hmeasured : newRound = true ∧ flow.roundRateBps ≠ 0
  · rw [if_pos hmeasured, if_pos (show newRound = true ∧ (flow.withLoss h).roundRateBps ≠ 0
      from hmeasured)]
    exact ⟨rfl, rfl⟩
  · rw [if_neg hmeasured, if_neg (show ¬ (newRound = true ∧ (flow.withLoss h).roundRateBps ≠ 0)
      from hmeasured)]
    exact ⟨rfl, rfl⟩

lemma acceptSample_withLoss (htp : SameAck tp tp') (sample : RateSample) (rateBps : UInt64) :
    acceptSample tp' sample rateBps (flow.withLoss h) =
      (acceptSample tp sample rateBps flow).withLoss h := by
  have hpath : skylineSampleMeasuresPath tp' sample = skylineSampleMeasuresPath tp sample := by
    rw [skylineSampleMeasuresPath, skylineSampleMeasuresPath, htp.srtt]
  rw [acceptSample, acceptSample, hpath, withLoss_ite]
  rfl

lemma updateStartup_withLoss (config : KernelConfig) (measuredRound : Bool) :
    (updateStartup config measuredRound (flow.withLoss h)).1 =
      (updateStartup config measuredRound flow).1.withLoss h := by
  have hend : ∀ f : FlowState,
      (if (f.withLoss h).plateauRounds ≥ config.startupPlateauRtts ∨ (f.withLoss h).queueClamped
        then skylineTransition (f.withLoss h) .cruise else (f.withLoss h, [])).1 =
      (if f.plateauRounds ≥ config.startupPlateauRtts ∨ f.queueClamped then
        skylineTransition f .cruise else (f, [])).1.withLoss h := by
    intro f
    rw [apply_ite Prod.fst, apply_ite Prod.fst, withLoss_ite]
    have htransition : (skylineTransition (f.withLoss h) .cruise).1 =
        (skylineTransition f .cruise).1.withLoss h := by
      rw [skylineTransition, skylineTransition, apply_ite Prod.fst, apply_ite Prod.fst,
        withLoss_ite]
      rfl
    rw [htransition]
    rfl
  rw [updateStartup, updateStartup]
  by_cases hmode : flow.mode = .startup
  · rw [if_pos hmode, if_pos (show (flow.withLoss h).mode = .startup from hmode)]
    cases measuredRound with
    | false => exact hend flow
    | true => exact hend { flow with plateauRounds := _ }
  · rw [if_neg hmode, if_neg (show ¬ (flow.withLoss h).mode = .startup from hmode)]

lemma updateGuardrail_withLoss (htp : SameAck tp tp') (config : KernelConfig)
    (newRound measuredRound : Bool) :
    (updateGuardrail tp' config newRound measuredRound (flow.withLoss h)).1 =
      (updateGuardrail tp config newRound measuredRound flow).1.withLoss h := by
  rw [updateGuardrail, updateGuardrail]
  have hdelay : skylineQueueDelayUs tp' (flow.withLoss h) = skylineQueueDelayUs tp flow := by
    rw [skylineQueueDelayUs, skylineQueueDelayUs, htp.srtt]
    rfl
  split
  · dsimp only
    rw [hdelay, htp.deliveredCe]
    exact congrArg
      (fun f : FlowState =>
        { f with priorRoundBwBps := f.bwBps, lastDeliveredCe := tp.deliveredCe })
      (updateStartup_withLoss { flow with queueClamped := _ } h config measuredRound)
  · rfl

/-- The loss sample of a round, in permille. -/
def lossSample (lost delivered : UInt32) : UInt32 :=
  if lost + delivered ≠ 0 then 1000 * lost / (lost + delivered) else 0

/-- The loss history after an ACK, if it ended a round. -/
def LossHistory.update (h : LossHistory) (newRound : Bool) (tp : TcpSock)
    (lastDelivered : UInt32) : LossHistory :=
  if newRound then
    { h with
      lossRatePermille :=
        (h.lossRatePermille * 3 + lossSample (tp.lost - h.lastLost) (tp.delivered - lastDelivered))
          / 4
      lastLost := tp.lost }
  else h

lemma updateLossRate_withLoss (htp : SameAck tp tp') (newRound : Bool) :
    updateLossRate tp' newRound (flow.withLoss h) =
      (updateLossRate tp newRound flow).withLoss
        (h.update newRound tp' flow.lastLossRateDelivered) := by
  cases newRound with
  | false => rfl
  | true =>
      rw [updateLossRate, updateLossRate, if_pos rfl, if_pos rfl, LossHistory.update, if_pos rfl,
        htp.delivered]
      rfl

/-- Until the loss average takes the round, its mark stands. -/
lemma acceptSample_lastDelivered (tp : TcpSock) (sample : RateSample) (config : KernelConfig)
    (nowUs rateBps : UInt64) (newRound : Bool) :
    (acceptSample tp sample rateBps (updateBwWindow config newRound (updateMinSrtt config tp nowUs
      (updateMinRtt config sample nowUs (skylineNewRound tp flow sample).1))).1
      ).lastLossRateDelivered = flow.lastLossRateDelivered := by
  have haccept : ∀ f, (acceptSample tp sample rateBps f).lastLossRateDelivered =
      f.lastLossRateDelivered := by
    intro f
    rw [acceptSample]
    split <;> rfl
  have hwindow : ∀ f, (updateBwWindow config newRound f).1.lastLossRateDelivered =
      f.lastLossRateDelivered := by
    intro f
    rw [updateBwWindow]
    split <;> rfl
  have hsrtt : ∀ f, (updateMinSrtt config tp nowUs f).lastLossRateDelivered =
      f.lastLossRateDelivered := by
    intro f
    rw [updateMinSrtt]
    split_ifs <;> rfl
  have hrtt : ∀ f, (updateMinRtt config sample nowUs f).lastLossRateDelivered =
      f.lastLossRateDelivered := by
    intro f
    rw [updateMinRtt]
    split_ifs <;> rfl
  have hround : (skylineNewRound tp flow sample).1.lastLossRateDelivered =
      flow.lastLossRateDelivered := by
    rw [skylineNewRound]
    split_ifs <;> rfl
  rw [haccept, hwindow, hsrtt, hrtt, hround]

/-- **The model up to its loss history**: fed the same ACK, two states that differ in
their loss history only still do, and each history has taken its own losses. -/
lemma updateModel_withLoss (htp : SameAck tp tp') (config : KernelConfig) (sample : RateSample)
    (nowNs : UInt64) :
    (skylineUpdateModel tp' (flow.withLoss h) config sample nowNs).1 =
      (skylineUpdateModel tp flow config sample nowNs).1.withLoss
        (h.update (skylineNewRound tp flow sample).2 tp' flow.lastLossRateDelivered) := by
  obtain ⟨hround, hflow⟩ := newRound_withLoss flow h htp sample
  have hrate : skylineRateSampleBps tp' sample = skylineRateSampleBps tp sample := by
    rw [skylineRateSampleBps, skylineRateSampleBps, htp.mss]
  rw [updateModel_eq, updateModel_eq]
  dsimp only
  rw [hround, hflow, hrate, updateMinRtt_withLoss, updateMinSrtt_withLoss _ _ htp]
  obtain ⟨hmeasured, hwindow⟩ := updateBwWindow_withLoss (updateMinSrtt config tp (nowNs / 1000)
    (updateMinRtt config sample (nowNs / 1000) (skylineNewRound tp flow sample).1)) h config
    (skylineNewRound tp flow sample).2
  rw [hmeasured, hwindow, acceptSample_withLoss _ _ htp, updateLossRate_withLoss _ _ htp,
    updateGuardrail_withLoss _ _ htp, acceptSample_lastDelivered]

lemma recordLoss_withLoss (htp : SameAck tp tp') (sample : RateSample) :
    (recordLoss tp' (flow.withLoss h) sample).1 = (recordLoss tp flow sample).1.withLoss h := by
  rw [recordLoss, recordLoss, htp.delivered, apply_ite Prod.fst, apply_ite Prod.fst, withLoss_ite]
  rfl

/-- The same for everything that comes before the controls. -/
lemma modelled_withLoss (htp : SameAck tp tp') (input : AckInput) :
    modelled tp' (flow.withLoss h) input = (modelled tp flow input).withLoss
      (h.update (skylineNewRound tp flow input.sample).2 tp' flow.lastLossRateDelivered) := by
  rw [modelled, modelled, updateModel_withLoss flow h htp, recordLoss_withLoss _ _ htp]
  rfl

/-- What becomes of a connection's own loss history. -/
lemma modelled_lossHistory (tp : TcpSock) (input : AckInput) :
    (modelled tp flow input).lossHistory =
      flow.lossHistory.update (skylineNewRound tp flow input.sample).2 tp
        flow.lastLossRateDelivered := by
  have hself : SameAck tp tp := ⟨rfl, rfl, rfl, rfl, rfl, rfl⟩
  have h := modelled_withLoss flow flow.lossHistory hself input
  rw [withLoss_lossHistory] at h
  exact congrArg FlowState.lossHistory h

end Commutes

/-! ### The average -/

lemma lossSample_toNat {lost delivered : UInt32} (hlost : 1000 * lost.toNat < 2 ^ 32)
    (htotal : lost.toNat + delivered.toNat < 2 ^ 32) :
    (lossSample lost delivered).toNat = 1000 * lost.toNat / (lost.toNat + delivered.toNat) := by
  have hsum : (lost + delivered).toNat = lost.toNat + delivered.toNat := by
    rw [UInt32.toNat_add, Nat.mod_eq_of_lt htotal]
  rw [lossSample]
  split_ifs with hzero
  · rw [UInt32.toNat_div, hsum, UInt32.toNat_mul, show (1000 : UInt32).toNat = 1000 from rfl,
      Nat.mod_eq_of_lt hlost]
  · have h0 : lost.toNat + delivered.toNat = 0 := by
      rw [← hsum, not_not.mp hzero]
      rfl
    rw [h0, Nat.div_zero]
    rfl

/-- What is lost of a round is at most all of it, also where the product wraps. -/
lemma lossSample_le_thousand {lost delivered : UInt32}
    (htotal : lost.toNat + delivered.toNat < 2 ^ 32) :
    (lossSample lost delivered).toNat ≤ 1000 := by
  rw [lossSample]
  split_ifs with hzero
  · rw [UInt32.toNat_div, UInt32.toNat_add, Nat.mod_eq_of_lt htotal, UInt32.toNat_mul]
    refine Nat.div_le_of_le_mul ?_
    calc 1000 * lost.toNat % 2 ^ 32 ≤ 1000 * lost.toNat := Nat.mod_le _ _
      _ ≤ (lost.toNat + delivered.toNat) * 1000 := by omega
  · exact Nat.zero_le _

/-- More lost of the same delivered is a larger sample. -/
lemma lossSample_le {lost lost' delivered : UInt32} (hle : lost.toNat ≤ lost'.toNat)
    (hlost : 1000 * lost'.toNat < 2 ^ 32) (htotal : lost'.toNat + delivered.toNat < 2 ^ 32) :
    (lossSample lost delivered).toNat ≤ (lossSample lost' delivered).toNat := by
  rw [lossSample_toNat (by omega) (by omega), lossSample_toNat hlost htotal]
  by_cases hzero : lost.toNat + delivered.toNat = 0
  · rw [hzero, Nat.div_zero]
    exact Nat.zero_le _
  · refine Word.nat_div_le_div_of_mul_le_mul (by omega) (by omega) ?_
    -- both sides but the products with `delivered` are the same
    have hcross : lost.toNat * delivered.toNat ≤ lost'.toNat * delivered.toNat :=
      Nat.mul_le_mul_right _ hle
    have hleft : 1000 * lost.toNat * (lost'.toNat + delivered.toNat) =
        1000 * (lost.toNat * lost'.toNat) + 1000 * (lost.toNat * delivered.toNat) := by ring
    have hright : 1000 * lost'.toNat * (lost.toNat + delivered.toNat) =
        1000 * (lost.toNat * lost'.toNat) + 1000 * (lost'.toNat * delivered.toNat) := by ring
    omega

/-- The second history has the larger average, and both are shares. -/
structure LossLe (h h' : LossHistory) : Prop where
  le : h.lossRatePermille.toNat ≤ h'.lossRatePermille.toNat
  le_thousand : h'.lossRatePermille.toNat ≤ 1000

/-- What the second run has lost since its last round end, against the first, at an ACK
that ends a round: at least as much, and little enough for the arithmetic. -/
structure LosesMore (tp : TcpSock) (h : LossHistory) (tp' : TcpSock) (h' : LossHistory)
    (lastDelivered : UInt32) : Prop where
  more : (tp.lost - h.lastLost).toNat ≤ (tp'.lost - h'.lastLost).toNat
  few : 1000 * (tp'.lost - h'.lastLost).toNat < 2 ^ 32
  total : (tp'.lost - h'.lastLost).toNat + (tp'.delivered - lastDelivered).toNat < 2 ^ 32

/-- The moving average of a share. -/
lemma average_toNat {rate sample : UInt32} (hrate : rate.toNat ≤ 1000)
    (hsample : sample.toNat ≤ 1000) :
    ((rate * 3 + sample) / 4).toNat = (rate.toNat * 3 + sample.toNat) / 4 := by
  rw [UInt32.toNat_div, UInt32.toNat_add, UInt32.toNat_mul, show (3 : UInt32).toNat = 3 from rfl,
    show (4 : UInt32).toNat = 4 from rfl]
  omega

/-- **The average is monotone in what is lost.** -/
lemma lossAverage_le {tp tp' : TcpSock} {h h' : LossHistory} (htp : SameAck tp tp')
    (hle : LossLe h h') (newRound : Bool) {lastDelivered : UInt32}
    (hmore : newRound = true → LosesMore tp h tp' h' lastDelivered) :
    LossLe (h.update newRound tp lastDelivered) (h'.update newRound tp' lastDelivered) := by
  cases newRound with
  | false => exact hle
  | true =>
      obtain ⟨hmore, hfew, htotal⟩ := hmore rfl
      rw [htp.delivered] at htotal
      have hrate := hle.le
      have hrate' := hle.le_thousand
      have hsample := lossSample_le hmore hfew htotal
      have hsample' := lossSample_le_thousand htotal
      rw [LossHistory.update, LossHistory.update, if_pos rfl, if_pos rfl, htp.delivered]
      constructor
      · rw [average_toNat (by omega) (by omega), average_toNat hrate' hsample']
        omega
      · rw [average_toNat hrate' hsample']
        omega

/-! ### The controls -/

section Controls

variable {config : KernelConfig} {flow : FlowState} {h h' : LossHistory}

/-- The share of loss that is compensated for. -/
def compensated (rate : UInt32) (config : KernelConfig) : UInt32 :=
  minT (minT rate config.lossInflationMaxPermille) lossInflationMaxPermille

lemma compensated_toNat (rate : UInt32) (config : KernelConfig) :
    (compensated rate config).toNat =
      min (min rate.toNat config.lossInflationMaxPermille.toNat) 500 := by
  rw [compensated, Word.U32.toNat_minT, Word.U32.toNat_minT]
  rfl

/-- The inflation factor, if M3 is on and not set to zero. -/
lemma inflation_toNat {flow : FlowState} (hon : config.has featureLossClassifier = true)
    (hmax : config.lossInflationMaxPermille ≠ 0) :
    (skylineLossInflationPermille flow config).toNat =
      1000000 / (1000 - (compensated flow.lossRatePermille config).toNat) := by
  have hle := compensated_toNat flow.lossRatePermille config
  rw [skylineLossInflationPermille, hon]
  simp only [Bool.not_true, Bool.false_eq_true, if_false, hmax]
  show ((1000 * 1000 / (1000 - compensated flow.lossRatePermille config) : UInt32)).toNat = _
  rw [UInt32.toNat_div, UInt32.toNat_sub_of_le]
  · rfl
  · rw [UInt32.le_iff_toNat_le, hle]
    show _ ≤ 1000
    omega

/-- The inflation is between one and two. -/
lemma inflation_le_two (flow : FlowState) (config : KernelConfig) :
    (skylineLossInflationPermille flow config).toNat ≤ 2000 := by
  by_cases hon : config.has featureLossClassifier = true
  · by_cases hmax : config.lossInflationMaxPermille = 0
    · simp [skylineLossInflationPermille, hon, hmax]
    · have hle := compensated_toNat flow.lossRatePermille config
      rw [inflation_toNat hon hmax]
      calc 1000000 / (1000 - (compensated flow.lossRatePermille config).toNat)
          ≤ 1000000 / 500 := Nat.div_le_div_left (by omega) (by omega)
        _ ≤ 2000 := by norm_num
  · simp [skylineLossInflationPermille, hon]

lemma one_le_inflation (flow : FlowState) (config : KernelConfig) :
    1000 ≤ (skylineLossInflationPermille flow config).toNat := by
  by_cases hon : config.has featureLossClassifier = true
  · by_cases hmax : config.lossInflationMaxPermille = 0
    · simp [skylineLossInflationPermille, hon, hmax]
    · have hle := compensated_toNat flow.lossRatePermille config
      rw [inflation_toNat hon hmax]
      calc 1000 = 1000000 / 1000 := by norm_num
        _ ≤ 1000000 / (1000 - (compensated flow.lossRatePermille config).toNat) :=
          Nat.div_le_div_left (by omega) (by omega)
  · simp [skylineLossInflationPermille, hon]

/-- More loss, more inflation. -/
lemma inflation_le (hle : h.lossRatePermille.toNat ≤ h'.lossRatePermille.toNat) :
    (skylineLossInflationPermille (flow.withLoss h) config).toNat ≤
      (skylineLossInflationPermille (flow.withLoss h') config).toNat := by
  by_cases hon : config.has featureLossClassifier = true
  · by_cases hmax : config.lossInflationMaxPermille = 0
    · simp [skylineLossInflationPermille, hmax]
    · rw [inflation_toNat hon hmax, inflation_toNat hon hmax]
      have hc := compensated_toNat h.lossRatePermille config
      have hc' := compensated_toNat h'.lossRatePermille config
      show 1000000 / (1000 - (compensated h.lossRatePermille config).toNat) ≤
        1000000 / (1000 - (compensated h'.lossRatePermille config).toNat)
      exact Nat.div_le_div_left (by omega) (by omega)
  · simp [skylineLossInflationPermille, hon]

/-- The bytes of `skyline_bdp_packets` before the inflation. -/
def bdpBytes (flow : FlowState) (gain : UInt32) : UInt64 :=
  flow.bwBps * skylineBaseRttUs flow / (8 * 1000000) * gain.toUInt64 / 1000

/-- The packets they make after it. -/
def inflatedPackets (tp : TcpSock) (flow : FlowState) (config : KernelConfig) (gain : UInt32) :
    UInt64 :=
  bdpBytes flow gain * (skylineLossInflationPermille flow config).toUInt64 / 1000
    / (maxT tp.mssCache 1).toUInt64

/-- No 64-bit product of the target and the rate overflows, and neither does the
conversion of the target to 32 bits. -/
structure TargetFits (tp : TcpSock) (flow : FlowState) (config : KernelConfig) : Prop where
  bytes : (bdpBytes flow (cwndGain flow config)).toNat *
    (skylineLossInflationPermille flow config).toNat < 2 ^ 64
  packets : (inflatedPackets tp flow config (cwndGain flow config)).toNat < 2 ^ 32
  rate : flow.bwBps.toNat * (pacingGain flow config).toNat < 2 ^ 64

instance (tp : TcpSock) (flow : FlowState) (config : KernelConfig) :
    Decidable (TargetFits tp flow config) :=
  decidable_of_iff (_ ∧ _ ∧ _)
    ⟨fun h => ⟨h.1, h.2.1, h.2.2⟩, fun h => ⟨h.bytes, h.packets, h.rate⟩⟩

/-- The connection has a bandwidth and an RTT estimate. -/
def HasEstimate (flow : FlowState) : Prop := flow.bwBps ≠ 0 ∧ flow.minRttUs ≠ 0

lemma bdpPackets_eq {tp : TcpSock} (flow : FlowState) (hest : HasEstimate flow) (gain : UInt32) :
    skylineBdpPackets tp flow config gain =
      maxT (inflatedPackets tp flow config gain).toUInt32 (skylineMinCwnd config) := by
  rw [skylineBdpPackets, if_neg (not_or.mpr hest)]
  rfl

/-- More loss, no smaller target. -/
lemma bdpPackets_le {tp tp' : TcpSock} (htp : SameAck tp tp') (hest : HasEstimate flow)
    (hle : h.lossRatePermille.toNat ≤ h'.lossRatePermille.toNat) (gain : UInt32)
    (hbytes : (bdpBytes flow gain).toNat *
      (skylineLossInflationPermille (flow.withLoss h') config).toNat < 2 ^ 64)
    (hpackets : (inflatedPackets tp' (flow.withLoss h') config gain).toNat < 2 ^ 32) :
    (skylineBdpPackets tp (flow.withLoss h) config gain).toNat ≤
      (skylineBdpPackets tp' (flow.withLoss h') config gain).toNat := by
  have hinflated : (inflatedPackets tp (flow.withLoss h) config gain).toNat ≤
      (inflatedPackets tp' (flow.withLoss h') config gain).toNat := by
    rw [inflatedPackets, inflatedPackets, htp.mss, UInt64.toNat_div, UInt64.toNat_div]
    refine Nat.div_le_div_right (Word.U64.mul_div_le_mul_div ?_ ?_ 1000)
    · rw [UInt32.toNat_toUInt64, UInt32.toNat_toUInt64]
      exact inflation_le hle
    · rw [UInt32.toNat_toUInt64]
      exact hbytes
  rw [bdpPackets_eq (flow.withLoss h) hest, bdpPackets_eq (flow.withLoss h') hest,
    Word.U32.toNat_maxT, Word.U32.toNat_maxT, UInt64.toNat_toUInt32, UInt64.toNat_toUInt32]
  omega

/-- The window after cap and floor, in the order M2 applies them. -/
lemma capFloor_toNat (tp : TcpSock) (target cap least : UInt32) :
    (((tp.storeCwnd target).capCwnd cap).floorCwnd least).sndCwnd.toNat =
      max (if cap = 0 then target.toNat else min target.toNat cap.toNat) least.toNat := by
  have hcap : ((tp.storeCwnd target).capCwnd cap).sndCwnd.toNat =
      if cap = 0 then target.toNat else min target.toNat cap.toNat := by
    rw [TcpSock.capCwnd]
    by_cases hzero : cap = 0
    · simp [hzero, TcpSock.storeCwnd]
    · by_cases hover : target > cap
      · rw [if_pos ⟨hzero, hover⟩, if_neg hzero]
        rw [gt_iff_lt, UInt32.lt_iff_toNat_lt] at hover
        show cap.toNat = _
        omega
      · rw [if_neg (fun hc => hover hc.2), if_neg hzero]
        rw [gt_iff_lt, UInt32.lt_iff_toNat_lt] at hover
        show target.toNat = _
        omega
  rw [← hcap, TcpSock.floorCwnd]
  split_ifs with hlow
  · rw [UInt32.lt_iff_toNat_lt] at hlow
    show least.toNat = _
    omega
  · rw [UInt32.lt_iff_toNat_lt] at hlow
    omega

/-- **M2's window is monotone in the loss history.** -/
lemma setCwndTarget_mono {tp tp' : TcpSock} (htp : SameAck tp tp') (hest : HasEstimate flow)
    (hle : LossLe h h') (hfits : TargetFits tp' (flow.withLoss h') config) (K : Kernel)
    (acked : UInt32) (afterRto afterRto' : Bool) :
    (skylineSetCwndTarget K tp (flow.withLoss h) config acked afterRto).sndCwnd.toNat ≤
      (skylineSetCwndTarget K tp' (flow.withLoss h') config acked afterRto').sndCwnd.toNat := by
  have htarget := bdpPackets_le htp hest hle.le (cwndGain flow config) hfits.bytes hfits.packets
  have hnone : ∀ g : LossHistory,
      ¬ ((flow.withLoss g).bwBps = 0 ∨ (flow.withLoss g).minRttUs = 0) :=
    fun _ => not_or.mpr hest
  rw [skylineSetCwndTarget, skylineSetCwndTarget, if_neg (hnone h), if_neg (hnone h')]
  dsimp only
  rw [capFloor_toNat, capFloor_toNat]
  have hgain : ∀ g : LossHistory, cwndGain (flow.withLoss g) config = cwndGain flow config :=
    fun _ => rfl
  rw [hgain, hgain]
  split_ifs <;> omega

/-- The gains a validated configuration allows. -/
structure ValidGains (config : KernelConfig) : Prop where
  startup : config.startupGainPermille ≤ 1000000
  pacing : config.cruisePacingPermille ≤ 1000000

/-- More loss, no smaller pacing gain: within the validated gains the product stays in
32 bits. -/
lemma pacingGain_le (hvalid : ValidGains config)
    (hle : h.lossRatePermille.toNat ≤ h'.lossRatePermille.toNat) :
    (pacingGain (flow.withLoss h) config).toNat ≤ (pacingGain (flow.withLoss h') config).toNat := by
  have hscaled : ∀ gain : UInt32, gain ≤ 1000000 → ∀ g : LossHistory,
      (gain * skylineLossInflationPermille (flow.withLoss g) config / 1000).toNat =
        gain.toNat * (skylineLossInflationPermille (flow.withLoss g) config).toNat / 1000 := by
    intro gain hgain g
    have htwo := inflation_le_two (flow.withLoss g) config
    have hmul : gain.toNat * (skylineLossInflationPermille (flow.withLoss g) config).toNat ≤
        1000000 * 2000 := Nat.mul_le_mul (UInt32.le_iff_toNat_le.mp hgain) htwo
    rw [UInt32.toNat_div, UInt32.toNat_mul, Nat.mod_eq_of_lt (by omega)]
    rfl
  have hmono : ∀ gain : UInt32, gain ≤ 1000000 →
      (gain * skylineLossInflationPermille (flow.withLoss h) config / 1000).toNat ≤
        (gain * skylineLossInflationPermille (flow.withLoss h') config / 1000).toNat := by
    intro gain hgain
    rw [hscaled gain hgain, hscaled gain hgain]
    exact Nat.div_le_div_right (Nat.mul_le_mul_left _ (inflation_le hle))
  rw [pacingGain, pacingGain]
  by_cases hclamped : flow.queueClamped
  · rw [if_pos (show (flow.withLoss h).queueClamped = true from hclamped),
      if_pos (show (flow.withLoss h').queueClamped = true from hclamped)]
  · rw [if_neg (show ¬ (flow.withLoss h).queueClamped = true from hclamped),
      if_neg (show ¬ (flow.withLoss h').queueClamped = true from hclamped)]
    by_cases hmode : config.has featureAdaptiveCwnd = true ∧ flow.mode = .startup
    · rw [if_pos (show _ ∧ (flow.withLoss h).mode = .startup from hmode),
        if_pos (show _ ∧ (flow.withLoss h').mode = .startup from hmode)]
      exact hmono _ hvalid.startup
    · rw [if_neg (show ¬ (_ ∧ (flow.withLoss h).mode = .startup) from hmode),
        if_neg (show ¬ (_ ∧ (flow.withLoss h').mode = .startup) from hmode)]
      exact hmono _ hvalid.pacing

/-- **M4's rate is monotone in the loss history.** -/
lemma applyPacing_mono {tp tp' : TcpSock} (htp : SameAck tp tp') (hvalid : ValidGains config)
    (hm4 : config.has featurePacing = true) (hest : HasEstimate flow) (hle : LossLe h h')
    (hfits : TargetFits tp' (flow.withLoss h') config) :
    (skylineApplyPacing tp (flow.withLoss h) config).1.skPacingRate.toNat ≤
      (skylineApplyPacing tp' (flow.withLoss h') config).1.skPacingRate.toNat := by
  have hfloor : skylinePacingFloorBps tp' (flow.withLoss h') config =
      skylinePacingFloorBps tp (flow.withLoss h) config := by
    rw [skylinePacingFloorBps, skylinePacingFloorBps, htp.srtt, htp.mss]
    rfl
  have hnone : ∀ g : LossHistory, ¬ (flow.withLoss g).bwBps = 0 := fun _ => hest.1
  have hgain : (pacingGain (flow.withLoss h) config).toUInt64.toNat ≤
      (pacingGain (flow.withLoss h') config).toUInt64.toNat := by
    rw [UInt32.toNat_toUInt64, UInt32.toNat_toUInt64]
    exact pacingGain_le hvalid hle.le
  have hrate : ((flow.withLoss h).bwBps * (pacingGain (flow.withLoss h) config).toUInt64
      / 1000).toNat ≤ ((flow.withLoss h').bwBps * (pacingGain (flow.withLoss h') config).toUInt64
      / 1000).toNat := by
    refine Word.U64.mul_div_le_mul_div hgain ?_ 1000
    rw [UInt32.toNat_toUInt64]
    exact hfits.rate
  simp only [skylineApplyPacing, hm4, Bool.not_true, Bool.false_eq_true, if_false, hnone, hfloor,
    htp.maxPacing]
  refine Word.U64.limit_le_limit ?_ _
  rw [UInt64.toNat_div, UInt64.toNat_div]
  refine Nat.div_le_div_right ?_
  have hfloored := Word.U64.floor_le_floor hrate (skylinePacingFloorBps tp (flow.withLoss h) config)
  by_cases hcap : config.maxPacingBps = 0
  · simpa [hcap] using hfloored
  · simpa [hcap] using Word.U64.limit_le_limit hfloored config.maxPacingBps

end Controls

end SkylineSpeeder
