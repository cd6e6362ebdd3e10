import SkylineSpeeder.Cc.Callbacks

/-!
What each part of `bpf/skyline_cc.bpf.c` does to the state of a connection,
said once, so that no later proof opens a callback again.

* `srtt_toNat`, `baseRtt_toNat`: the round-trip times in microseconds;
* `newRound_view`, ..., `updateGuardrail_view`: a stage of `skyline_update_model` changes no
  view of the state that does not see what the stage writes;
* `ModelFrame`: what `skyline_update_model` leaves alone beside the round end it
  counts (`updateModel_frame`);
* `setWindow_frame`: the window functions write the CUBIC and PRR fields only;
  `setWindow_prr`, `setWindow_episode`: of the fields of a reduction they write the one
  that PRR counts, and where PRR does not run none;
* `Adopts`, `adopts_of_congControl`: the four ways the first part of
  `skyline_cong_control` ends;
* `InitEffect`, `initEffect`: the three ways `skyline_init` ends;
* `CongControlEffect`, `congControlEffect`: the three ways
  `skyline_cong_control` ends;
* `QuietEffect`, `quietEffect`: what all other callbacks have in common.
-/

namespace SkylineSpeeder

/-! ### The round-trip times -/

/-- The smoothed RTT in microseconds; the kernel keeps it in eighths. -/
lemma srtt_toNat (tp : TcpSock) : (tp.srttUs >>> 3).toUInt64.toNat = tp.srttUs.toNat / 8 := by
  rw [UInt32.toNat_toUInt64, UInt32.toNat_shiftRight, Nat.shiftRight_eq_div_pow]
  rfl

lemma baseRtt_toNat (flow : FlowState) :
    (skylineBaseRttUs flow).toNat = max flow.minRttUs.toNat flow.minSrttUs.toNat :=
  Word.U64.toNat_maxT _ _

/-! ### The stages of the model update -/

/-- The plateau count of a round that ended in `STARTUP`. -/
def countPlateau (config : KernelConfig) (measuredRound : Bool) (flow : FlowState) : FlowState :=
  if measuredRound then
    { flow with
      plateauRounds :=
        if flow.priorRoundBwBps ≠ 0 ∧ flow.bwBps * 1000 <
            flow.priorRoundBwBps * (1000 + config.startupGrowthPermille).toUInt64 then
          flow.plateauRounds + 1
        else 0 }
  else flow

/-- The check counts first and then looks whether `STARTUP` is over. -/
lemma updateStartup_eq (config : KernelConfig) (measuredRound : Bool) (flow : FlowState) :
    updateStartup config measuredRound flow =
      if flow.mode = .startup then
        if (countPlateau config measuredRound flow).plateauRounds ≥ config.startupPlateauRtts ∨
            (countPlateau config measuredRound flow).queueClamped then
          skylineTransition (countPlateau config measuredRound flow) .cruise
        else (countPlateau config measuredRound flow, [])
      else (flow, []) := rfl

/-- `skyline_update_model` as the composition of its stages. -/
lemma updateModel_eq (tp : TcpSock) (flow : FlowState) (config : KernelConfig)
    (sample : RateSample) (nowNs : UInt64) :
    skylineUpdateModel tp flow config sample nowNs =
      let round := skylineNewRound tp flow sample
      let window := updateBwWindow config round.2
        (updateMinSrtt config tp (nowNs / 1000) (updateMinRtt config sample (nowNs / 1000) round.1))
      updateGuardrail tp config round.2 window.2 (updateLossRate tp round.2
        (acceptSample tp sample (skylineRateSampleBps tp sample) window.1)) := rfl

section Stages

-- A stage changes no view of the state that does not see the fields the stage writes.
variable {α : Type*} (view : FlowState → α)

lemma newRound_view (h : ∀ f next, view { f with nextRoundDelivered := next } = view f)
    (tp : TcpSock) (flow : FlowState) (sample : RateSample) :
    view (skylineNewRound tp flow sample).1 = view flow := by
  rw [skylineNewRound]
  split_ifs
  · exact h _ _
  · rfl

lemma updateMinRtt_view
    (h : ∀ f rtt stamp, view { f with minRttUs := rtt, minRttStampUs := stamp } = view f)
    (config : KernelConfig) (sample : RateSample) (nowUs : UInt64) (flow : FlowState) :
    view (updateMinRtt config sample nowUs flow) = view flow := by
  rw [updateMinRtt]
  split_ifs
  · exact h _ _ _
  · rfl

lemma updateMinSrtt_view
    (h : ∀ f srtt stamp, view { f with minSrttUs := srtt, minSrttStampUs := stamp } = view f)
    (config : KernelConfig) (tp : TcpSock) (nowUs : UInt64) (flow : FlowState) :
    view (updateMinSrtt config tp nowUs flow) = view flow := by
  rw [updateMinSrtt]
  split_ifs
  · exact h _ _ _
  · rfl

lemma updateBwWindow_view
    (h : ∀ f bw round samples,
      view { f with bwBps := bw, roundRateBps := round, bwSamples := samples } = view f)
    (config : KernelConfig) (newRound : Bool) (flow : FlowState) :
    view (updateBwWindow config newRound flow).1 = view flow := by
  rw [updateBwWindow]
  split_ifs
  · exact h _ _ _ _
  · rfl

lemma acceptSample_view
    (h : ∀ f bw round, view { f with bwBps := bw, roundRateBps := round } = view f)
    (tp : TcpSock) (sample : RateSample) (rateBps : UInt64) (flow : FlowState) :
    view (acceptSample tp sample rateBps flow) = view flow := by
  rw [acceptSample]
  split
  · exact h _ _ _
  · rfl

lemma updateLossRate_view
    (h : ∀ f rate lost delivered, view { f with
      lossRatePermille := rate, lastLost := lost, lastLossRateDelivered := delivered } = view f)
    (tp : TcpSock) (newRound : Bool) (flow : FlowState) :
    view (updateLossRate tp newRound flow) = view flow := by
  rw [updateLossRate]
  split_ifs
  · exact h _ _ _ _
  · rfl

lemma updateStartup_view
    (h : ∀ f mode plateau, view { f with mode := mode, plateauRounds := plateau } = view f)
    (config : KernelConfig) (measuredRound : Bool) (flow : FlowState) :
    view (updateStartup config measuredRound flow).1 = view flow := by
  have hcount : view (countPlateau config measuredRound flow) = view flow := by
    rw [countPlateau]
    split
    · exact h flow flow.mode _
    · rfl
  have htransition : ∀ f : FlowState, view (skylineTransition f .cruise).1 = view f := by
    intro f
    rw [skylineTransition]
    split_ifs
    · rfl
    · exact h f .cruise f.plateauRounds
  rw [updateStartup_eq]
  split_ifs
  · exact (htransition _).trans hcount
  · exact hcount
  · rfl

lemma updateGuardrail_view
    (h : ∀ f mode plateau, view { f with mode := mode, plateauRounds := plateau } = view f)
    (hend : ∀ f clamped prior ce, view { f with
      queueClamped := clamped, priorRoundBwBps := prior, lastDeliveredCe := ce } = view f)
    (tp : TcpSock) (config : KernelConfig) (newRound measuredRound : Bool) (flow : FlowState) :
    view (updateGuardrail tp config newRound measuredRound flow).1 = view flow := by
  rw [updateGuardrail]
  split
  · refine (hend _ _ _ _).trans ?_
    exact (updateStartup_view view h config measuredRound _).trans
      (hend flow _ flow.priorRoundBwBps flow.lastDeliveredCe)
  · rfl

end Stages

/-- What every stage of `skyline_update_model` after the round test leaves alone. -/
structure ModelFrame (flow flow' : FlowState) : Prop where
  config : flow'.toFlowConfig = flow.toFlowConfig
  cubic : flow'.toFlowCubic = flow.toFlowCubic
  round : flow'.nextRoundDelivered = flow.nextRoundDelivered

/-- `skyline_update_model` counts the round and otherwise leaves the
configuration, the CUBIC fields and the round mark alone. -/
lemma updateModel_frame (tp : TcpSock) (flow : FlowState) (config : KernelConfig)
    (sample : RateSample) (nowNs : UInt64) :
    ModelFrame (skylineNewRound tp flow sample).1
      (skylineUpdateModel tp flow config sample nowNs).1 := by
  have hview : ∀ f g : FlowState, (g.toFlowConfig, g.toFlowCubic, g.nextRoundDelivered) =
      (f.toFlowConfig, f.toFlowCubic, f.nextRoundDelivered) → ModelFrame f g := by
    intro f g h
    exact ⟨congrArg Prod.fst h, congrArg (·.2.1) h, congrArg (·.2.2) h⟩
  refine hview _ _ ?_
  rw [updateModel_eq]
  dsimp only
  let view : FlowState → FlowConfig × FlowCubic × UInt64 :=
    fun f => (f.toFlowConfig, f.toFlowCubic, f.nextRoundDelivered)
  refine (updateGuardrail_view view (fun _ _ _ => rfl) (fun _ _ _ _ => rfl) ..).trans ?_
  refine (updateLossRate_view view (fun _ _ _ _ => rfl) ..).trans ?_
  refine (acceptSample_view view (fun _ _ _ => rfl) ..).trans ?_
  refine (updateBwWindow_view view (fun _ _ _ _ => rfl) ..).trans ?_
  refine (updateMinSrtt_view view (fun _ _ _ => rfl) ..).trans ?_
  exact updateMinRtt_view view (fun _ _ _ => rfl) ..

lemma newRound_config (tp : TcpSock) (flow : FlowState) (sample : RateSample) :
    (skylineNewRound tp flow sample).1.toFlowConfig = flow.toFlowConfig := by
  rw [skylineNewRound]
  split_ifs <;> rfl

lemma newRound_cubic (tp : TcpSock) (flow : FlowState) (sample : RateSample) :
    (skylineNewRound tp flow sample).1.toFlowCubic = flow.toFlowCubic := by
  rw [skylineNewRound]
  split_ifs <;> rfl

lemma recordLoss_frame (sk : TcpSock) (flow : FlowState) (sample : RateSample) :
    ModelFrame flow (recordLoss sk flow sample).1 := by
  rw [recordLoss]
  split_ifs
  all_goals exact ⟨rfl, rfl, rfl⟩

/-! ### The window functions -/

/-- What the window functions leave alone. -/
structure WindowFrame (flow flow' : FlowState) : Prop where
  config : flow'.toFlowConfig = flow.toFlowConfig
  path : flow'.toFlowPath = flow.toFlowPath

lemma WindowFrame.refl (flow : FlowState) : WindowFrame flow flow := ⟨rfl, rfl⟩

lemma WindowFrame.trans {f g h : FlowState} (hfg : WindowFrame f g) (hgh : WindowFrame g h) :
    WindowFrame f h :=
  ⟨hgh.config.trans hfg.config, hgh.path.trans hfg.path⟩

lemma startEpoch_frame (flow : FlowState) (cwnd : UInt32) (nowNs : UInt64) :
    WindowFrame flow (startEpoch flow cwnd nowNs) := by
  rw [startEpoch]
  split
  · exact ⟨rfl, rfl⟩
  · exact WindowFrame.refl flow

lemma cubicTarget_frame (flow : FlowState) (cwnd : UInt32) (nowNs : UInt64) :
    WindowFrame flow (skylineCubicTarget flow cwnd nowNs).1 :=
  startEpoch_frame flow cwnd nowNs

lemma updateFriendly_frame (tp : TcpSock) (flow : FlowState) (freshEpoch : Bool) (acked : UInt32) :
    WindowFrame flow (updateFriendly tp flow freshEpoch acked) := by
  rw [updateFriendly]
  cases freshEpoch with
  | false =>
      simp only [Bool.false_eq_true, if_false]
      split
      all_goals exact ⟨rfl, rfl⟩
  | true =>
      simp only [if_true]
      split
      all_goals exact ⟨rfl, rfl⟩

lemma growAvoid_frame (K : Kernel) (tp : TcpSock) (flow : FlowState) (config : KernelConfig)
    (acked : UInt32) (nowNs : UInt64) :
    WindowFrame flow (growAvoid K tp flow config acked nowNs).2 := by
  rw [growAvoid]
  exact (cubicTarget_frame flow tp.sndCwnd nowNs).trans (updateFriendly_frame tp _ _ acked)

lemma growCwnd_frame (K : Kernel) (tp : TcpSock) (flow : FlowState) (config : KernelConfig)
    (acked : UInt32) (nowNs : UInt64) :
    WindowFrame flow (skylineGrowCwnd K tp flow config acked nowNs).2 := by
  rw [skylineGrowCwnd]
  by_cases hacked : acked = 0
  · rw [if_pos hacked]
    exact WindowFrame.refl flow
  rw [if_neg hacked]
  split
  · exact WindowFrame.refl flow
  split
  · dsimp only
    split
    · exact WindowFrame.refl flow
    · exact growAvoid_frame ..
  · exact growAvoid_frame ..

lemma applyPrr_frame (tp : TcpSock) (flow : FlowState) (sample : RateSample) (flag : UInt32) :
    WindowFrame flow (skylineApplyPrr tp flow sample flag).2.1 := by
  rw [skylineApplyPrr]
  split_ifs
  all_goals exact ⟨rfl, rfl⟩

/-- Setting the window writes the CUBIC and PRR fields only. -/
lemma setWindow_frame (K : Kernel) (sk : TcpSock) (flow : FlowState) (input : AckInput) :
    WindowFrame flow (setWindow K sk flow input).2.1 := by
  rw [setWindow]
  split
  · exact WindowFrame.refl flow
  split
  · split
    · exact applyPrr_frame ..
    · exact WindowFrame.refl flow
  · exact growCwnd_frame ..

/-- Pacing writes the rate and the status, and nothing else of the socket. -/
lemma applyPacing_eq (sk : TcpSock) (flow : FlowState) (config : KernelConfig) :
    ∃ rate status, (skylineApplyPacing sk flow config).1 =
      { sk with skPacingRate := rate, skPacingStatus := status } := by
  rw [skylineApplyPacing]
  split
  · split
    · rw [skylineApplyAutoPacingRate]
      split
      · exact ⟨sk.skPacingRate, sk.skPacingStatus, rfl⟩
      · exact ⟨_, skPacingNeeded, rfl⟩
    · exact ⟨_, sk.skPacingStatus, rfl⟩
  split
  · exact ⟨sk.skPacingRate, sk.skPacingStatus, rfl⟩
  · exact ⟨_, _, rfl⟩

/-- Pacing writes the rate and nothing the window is computed from. -/
structure PacingFrame (sk sk' : TcpSock) : Prop where
  stored : sk'.cwndStored = sk.cwndStored
  cwnd : sk'.sndCwnd = sk.sndCwnd
  ssthresh : sk'.sndSsthresh = sk.sndSsthresh
  state : sk'.icskCaState = sk.icskCaState
  flight : prrInFlight sk' = prrInFlight sk
  out : sk'.prrOut = sk.prrOut

lemma applyPacing_frame (sk : TcpSock) (flow : FlowState) (config : KernelConfig) :
    PacingFrame sk (skylineApplyPacing sk flow config).1 := by
  obtain ⟨rate, status, heq⟩ := applyPacing_eq sk flow config
  rw [heq]
  exact ⟨rfl, rfl, rfl, rfl, rfl, rfl⟩

/-! ### The fields of a reduction -/

/-- What CUBIC growth leaves alone: the fields `set_state` and PRR keep. -/
structure EpisodeFrame (flow flow' : FlowState) : Prop where
  active : flow'.recoveryActive = flow.recoveryActive
  prior : flow'.priorCwnd = flow.priorCwnd
  delivered : flow'.prrDelivered = flow.prrDelivered

lemma EpisodeFrame.refl (flow : FlowState) : EpisodeFrame flow flow := ⟨rfl, rfl, rfl⟩

lemma startEpoch_episode (flow : FlowState) (cwnd : UInt32) (nowNs : UInt64) :
    EpisodeFrame flow (startEpoch flow cwnd nowNs) := by
  rw [startEpoch]
  split
  · exact ⟨rfl, rfl, rfl⟩
  · exact EpisodeFrame.refl flow

lemma updateFriendly_episode (tp : TcpSock) (flow : FlowState) (freshEpoch : Bool)
    (acked : UInt32) : EpisodeFrame flow (updateFriendly tp flow freshEpoch acked) := by
  rw [updateFriendly]
  cases freshEpoch with
  | false =>
      simp only [Bool.false_eq_true, if_false]
      split
      all_goals exact ⟨rfl, rfl, rfl⟩
  | true =>
      simp only [if_true]
      split
      all_goals exact ⟨rfl, rfl, rfl⟩

lemma growAvoid_episode (K : Kernel) (tp : TcpSock) (flow : FlowState) (config : KernelConfig)
    (acked : UInt32) (nowNs : UInt64) :
    EpisodeFrame flow (growAvoid K tp flow config acked nowNs).2 := by
  have hepoch := startEpoch_episode flow tp.sndCwnd nowNs
  have hfriendly := updateFriendly_episode tp (skylineCubicTarget flow tp.sndCwnd nowNs).1
    (flow.epochStartNs == 0) acked
  rw [growAvoid]
  exact ⟨hfriendly.active.trans hepoch.active, hfriendly.prior.trans hepoch.prior,
    hfriendly.delivered.trans hepoch.delivered⟩

lemma growCwnd_episode (K : Kernel) (tp : TcpSock) (flow : FlowState) (config : KernelConfig)
    (acked : UInt32) (nowNs : UInt64) :
    EpisodeFrame flow (skylineGrowCwnd K tp flow config acked nowNs).2 := by
  rw [skylineGrowCwnd]
  by_cases hacked : acked = 0
  · rw [if_pos hacked]
    exact EpisodeFrame.refl flow
  rw [if_neg hacked]
  split
  · exact EpisodeFrame.refl flow
  split
  · dsimp only
    split
    · exact EpisodeFrame.refl flow
    · exact growAvoid_episode ..
  · exact growAvoid_episode ..

/-- PRR runs: M2 is off, the feature is on, and the CA state is `CWR` or `Recovery`. -/
def prrRuns (sk : TcpSock) (config : KernelConfig) : Bool :=
  !config.has featureAdaptiveCwnd && config.has featurePrr &&
    (sk.icskCaState == .cwr || sk.icskCaState == .recovery)

/-- Where PRR runs, it is what sets the window. -/
lemma setWindow_prr (K : Kernel) {sk : TcpSock} {flow : FlowState} {input : AckInput}
    (h : prrRuns sk flow.config = true) :
    setWindow K sk flow input = skylineApplyPrr sk flow input.sample input.flag := by
  simp only [prrRuns, Bool.and_eq_true, Bool.not_eq_true', Bool.or_eq_true, beq_iff_eq] at h
  rw [setWindow]
  simp only [h.1.1, Bool.false_eq_true, if_false]
  rw [if_pos h.2, if_pos h.1.2]

/-- Where it does not, the fields of a reduction stay. -/
lemma setWindow_episode (K : Kernel) {sk : TcpSock} {flow : FlowState} (input : AckInput)
    (h : prrRuns sk flow.config = false) :
    EpisodeFrame flow (setWindow K sk flow input).2.1 := by
  rw [setWindow]
  by_cases hm2 : flow.config.has featureAdaptiveCwnd = true
  · simp only [hm2, if_true]
    exact EpisodeFrame.refl flow
  · by_cases hca : sk.icskCaState = .cwr ∨ sk.icskCaState = .recovery
    · have hprr : ¬ flow.config.has featurePrr = true := by
        intro hprr
        simp only [prrRuns, hm2, hprr, Bool.not_false, Bool.true_and, Bool.or_eq_false_iff,
          beq_eq_false_iff_ne] at h
        exact hca.elim h.1 h.2
      simp only [if_neg hm2, if_pos hca, if_neg hprr]
      exact EpisodeFrame.refl flow
    · simp only [if_neg hm2, if_neg hca]
      exact growCwnd_episode ..

/-! ### `skyline_cong_control` -/

/-- The state `skyline_cong_control` sets rate and window from: the model and the loss
bookkeeping have taken the ACK. -/
def modelled (sk : TcpSock) (flow : FlowState) (input : AckInput) : FlowState :=
  (recordLoss sk (skylineUpdateModel sk flow flow.config input.sample input.modelNs).1
    input.sample).1

lemma modelled_config (sk : TcpSock) (flow : FlowState) (input : AckInput) :
    (modelled sk flow input).toFlowConfig = flow.toFlowConfig := by
  refine (recordLoss_frame sk _ input.sample).config.trans ?_
  refine (updateModel_frame sk flow flow.config input.sample input.modelNs).config.trans ?_
  exact newRound_config sk flow input.sample

lemma modelled_cubic (sk : TcpSock) (flow : FlowState) (input : AckInput) :
    (modelled sk flow input).toFlowCubic = flow.toFlowCubic := by
  refine (recordLoss_frame sk _ input.sample).cubic.trans ?_
  refine (updateModel_frame sk flow flow.config input.sample input.modelNs).cubic.trans ?_
  exact newRound_cubic sk flow input.sample

lemma modelled_round (sk : TcpSock) (flow : FlowState) (input : AckInput) :
    (modelled sk flow input).nextRoundDelivered =
      (skylineNewRound sk flow input.sample).1.nextRoundDelivered := by
  refine (recordLoss_frame sk _ input.sample).round.trans ?_
  exact (updateModel_frame sk flow flow.config input.sample input.modelNs).round

/-- The second part of `skyline_cong_control`: the state it leaves. -/
lemma congControlRun_flow (K : Kernel) (sk : TcpSock) (flow : FlowState) (input : AckInput) :
    (congControlRun K sk flow input).2.1 =
      (setWindow K (skylineApplyPacing sk (modelled sk flow input) flow.config).1
        (modelled sk flow input) input).2.1 := rfl

/-- The second part of `skyline_cong_control`: the socket it leaves. -/
lemma congControlRun_sock (K : Kernel) (sk : TcpSock) (flow : FlowState) (input : AckInput) :
    (congControlRun K sk flow input).1 =
      let sk := (setWindow K (skylineApplyPacing sk (modelled sk flow input) flow.config).1
        (modelled sk flow input) input).1
      if flow.config.has (featureAdaptiveCwnd ||| featurePacing) then skylineMarkAppLimited K sk
      else sk := rfl

lemma congControlRun_config (K : Kernel) (sk : TcpSock) (flow : FlowState) (input : AckInput) :
    (congControlRun K sk flow input).2.1.toFlowConfig = flow.toFlowConfig := by
  rw [congControlRun_flow]
  exact (setWindow_frame K _ _ input).config.trans (modelled_config sk flow input)

lemma congControlRun_round (K : Kernel) (sk : TcpSock) (flow : FlowState) (input : AckInput) :
    (congControlRun K sk flow input).2.1.nextRoundDelivered =
      (skylineNewRound sk flow input.sample).1.nextRoundDelivered := by
  rw [congControlRun_flow]
  refine (congrArg FlowPath.nextRoundDelivered (setWindow_frame K _ _ input).path).trans ?_
  exact modelled_round sk flow input

/-- The four ways the first part of `skyline_cong_control` ends: a flow without a
configuration is `refused` one or takes its `first`; a flow with one has it
`kept`, or, at a round end and if a newer one is out, `switched`. -/
inductive Adopts (sk : TcpSock) (flow : FlowState) (input : AckInput) :
    Option (FlowState × List Report) → Prop
  | refused (hno : skylineHasConfig flow = false)
      (hread : (skylineAdoptConfig flow input.read).2 = false) : Adopts sk flow input none
  | first (hno : skylineHasConfig flow = false)
      (hread : (skylineAdoptConfig flow input.read).2 = true) :
      Adopts sk flow input (some
        (skylineResetGeneration (skylineAdoptConfig flow input.read).1 sk input.resetNs, []))
  | kept (hhas : skylineHasConfig flow = true)
      (hwhy : skylineRoundReached input.sample flow.nextRoundDelivered = false ∨
        ¬ (input.seqNow.isSome ∧ input.seqNow ≠ some flow.configSeq) ∨
        (skylineAdoptConfig flow input.read).2 = false) :
      Adopts sk flow input (some (flow, []))
  | switched (reports : List Report) (hhas : skylineHasConfig flow = true)
      (hround : skylineRoundReached input.sample flow.nextRoundDelivered = true)
      (hseq : input.seqNow.isSome ∧ input.seqNow ≠ some flow.configSeq)
      (hread : (skylineAdoptConfig flow input.read).2 = true) :
      Adopts sk flow input (some
        (skylineResetGeneration (skylineAdoptConfig flow input.read).1 sk input.resetNs, reports))

lemma adopts_of_congControl (sk : TcpSock) (flow : FlowState) (input : AckInput) :
    Adopts sk flow input (congControlAdopt sk flow input) := by
  rw [congControlAdopt]
  cases hhas : skylineHasConfig flow with
  | false =>
      simp only [Bool.not_false, if_true]
      cases hread : (skylineAdoptConfig flow input.read).2 with
      | false =>
          simp only [Bool.not_false, if_true]
          exact .refused hhas hread
      | true =>
          simp only [Bool.not_true, Bool.false_eq_true, if_false]
          exact .first hhas hread
  | true =>
      simp only [Bool.not_true, Bool.false_eq_true, if_false]
      cases hround : skylineRoundReached input.sample flow.nextRoundDelivered with
      | false => exact .kept hhas (.inl hround)
      | true =>
          simp only [if_true]
          by_cases hseq : input.seqNow.isSome ∧ input.seqNow ≠ some flow.configSeq
          · rw [if_pos hseq]
            cases hread : (skylineAdoptConfig flow input.read).2 with
            | false => exact .kept hhas (.inr (.inr hread))
            | true => exact .switched _ hhas hround hseq hread
          · rw [if_neg hseq]
            exact .kept hhas (.inr (.inl hseq))

/-- A flow that took a configuration has one. -/
lemma hasConfig_of_adopt {flow : FlowState} {read : ConfigRead}
    (h : (skylineAdoptConfig flow read).2 = true) :
    skylineHasConfig (skylineAdoptConfig flow read).1 = true := by
  obtain ⟨seq, copy, -, habi, hflow⟩ := adoptConfig_true h
  rw [hflow, skylineHasConfig]
  exact beq_iff_eq.mpr habi

/-- The first part of `skyline_cong_control` hands on a flow with a configuration. -/
lemma Adopts.hasConfig {sk : TcpSock} {flow flow' : FlowState} {input : AckInput}
    {reports : List Report} (h : Adopts sk flow input (some (flow', reports))) :
    skylineHasConfig flow' = true := by
  cases h with
  | first _ hread => exact hasConfig_of_adopt hread
  | kept hhas _ => exact hhas
  | switched _ _ _ _ hread => exact hasConfig_of_adopt hread

/-! ### Whole callbacks -/

/-- The storage a callback works on when its allocation succeeds: storage nobody
has created yet reads as zero. -/
def SockState.flow (s : SockState) : FlowState := s.storage.getD FlowState.zero

@[simp] lemma SockState.flow_some (sk : TcpSock) (flow : FlowState) :
    SockState.flow ⟨sk, some flow⟩ = flow := rfl

lemma flowGet_cases (s : SockState) (allocated : Bool) :
    (skylineFlowGet s.storage allocated = none ∧ s.storage = none) ∨
      skylineFlowGet s.storage allocated = some s.flow := by
  cases hs : s.storage with
  | none =>
      cases allocated with
      | false => exact .inl ⟨rfl, rfl⟩
      | true => exact .inr (by simp [skylineFlowGet, SockState.flow, hs])
  | some flow => exact .inr (by simp [skylineFlowGet, SockState.flow, hs])

/-- Socket and storage after `skyline_init`. -/
inductive InitEffect (s : SockState) (allocated : Bool) (read : ConfigRead) (nowNs : UInt64) :
    SockState → Prop
  | unallocated (hs : s.storage = none) : InitEffect s allocated read nowNs s
  | refused (hget : skylineFlowGet s.storage allocated = some s.flow)
      (hread : (skylineAdoptConfig { s.flow with counted := true } read).2 = false) :
      InitEffect s allocated read nowNs { s with storage := some { s.flow with counted := true } }
  | adopted (flow : FlowState) (sk : TcpSock)
      (hget : skylineFlowGet s.storage allocated = some s.flow)
      (hread : (skylineAdoptConfig { s.flow with counted := true } read).2 = true)
      (hflow : flow = (skylineAdoptConfig { s.flow with counted := true } read).1)
      (hsk : sk = if flow.config.initialCwndPackets ≠ 0 then
        s.sk.storeCwnd flow.config.initialCwndPackets else s.sk) :
      InitEffect s allocated read nowNs
        ⟨{ sk with sndSsthresh := 0x7fffffff }, some (skylineResetGeneration flow sk nowNs)⟩

lemma initEffect (s : SockState) (allocated : Bool) (read : ConfigRead) (nowNs : UInt64) :
    InitEffect s allocated read nowNs (skylineInit s allocated read nowNs).1 := by
  rw [skylineInit]
  obtain ⟨hget, hs⟩ | hget := flowGet_cases s allocated
  · rw [hget]
    exact .unallocated hs
  · rw [hget]
    dsimp only
    cases hread : (skylineAdoptConfig { s.flow with counted := true } read).2 with
    | false =>
        simp only [Bool.not_false, if_true, adoptConfig_false hread]
        exact .refused hget hread
    | true =>
        simp only [Bool.not_true, Bool.false_eq_true, if_false]
        exact .adopted _ _ hget hread rfl rfl

/-- Socket and storage after `skyline_cong_control`. -/
inductive CongControlEffect (K : Kernel) (s : SockState) (allocated : Bool) (input : AckInput) :
    SockState → Prop
  | unallocated (hs : s.storage = none) : CongControlEffect K s allocated input s
  | refused (hno : skylineHasConfig s.flow = false)
      (hread : (skylineAdoptConfig s.flow input.read).2 = false) :
      CongControlEffect K s allocated input
        ⟨K.renoCongAvoid s.sk input.ack input.sample.ackedSacked, some s.flow⟩
  | ran (flow : FlowState) (reports : List Report)
      (hget : skylineFlowGet s.storage allocated = some s.flow)
      (hadopt : Adopts s.sk s.flow input (some (flow, reports))) :
      CongControlEffect K s allocated input
        ⟨(congControlRun K s.sk flow input).1, some (congControlRun K s.sk flow input).2.1⟩

lemma congControlEffect (K : Kernel) (s : SockState) (allocated : Bool) (input : AckInput) :
    CongControlEffect K s allocated input (skylineCongControl K s allocated input).1 := by
  rw [skylineCongControl]
  obtain ⟨hget, hs⟩ | hget := flowGet_cases s allocated
  · rw [hget]
    exact .unallocated hs
  · rw [hget]
    dsimp only
    have hadopt := adopts_of_congControl s.sk s.flow input
    cases h : congControlAdopt s.sk s.flow input with
    | none =>
        rw [h] at hadopt
        cases hadopt with
        | refused hno hread => exact .refused hno hread
    | some taken =>
        rw [h] at hadopt
        exact .ran taken.1 taken.2 hget hadopt

/-- The callbacks other than `init` and `cong_control`. -/
def Callback.Quiet : Callback → Prop
  | .init .. => False
  | .congControl .. => False
  | _ => True

/-- What those callbacks leave alone: the configuration, its number, the path model,
and storage once it is there. -/
structure QuietEffect (s s' : SockState) : Prop where
  config : s'.flow.config = s.flow.config
  seq : s'.flow.configSeq = s.flow.configSeq
  path : s'.flow.toFlowPath = s.flow.toFlowPath
  storage : s.storage.isSome = true → s'.storage.isSome = true

lemma QuietEffect.refl (s : SockState) : QuietEffect s s := ⟨rfl, rfl, rfl, id⟩

/-- A flow with the same configuration and path model. -/
lemma QuietEffect.of_storage {s s' : SockState} {flow : FlowState} (h : s'.storage = some flow)
    (hconfig : flow.config = s.flow.config) (hseq : flow.configSeq = s.flow.configSeq)
    (hpath : flow.toFlowPath = s.flow.toFlowPath) : QuietEffect s s' := by
  have hflow : s'.flow = flow := by
    rw [SockState.flow, h]
    rfl
  exact ⟨by rw [hflow, hconfig], by rw [hflow, hseq], by rw [hflow, hpath], fun _ => by rw [h]; rfl⟩

lemma ssthresh_quiet (s : SockState) (allocated : Bool) :
    QuietEffect s (skylineSsthresh s allocated).1 := by
  rw [skylineSsthresh]
  obtain ⟨hget, -⟩ | hget := flowGet_cases s allocated
  · rw [hget]
    exact QuietEffect.refl s
  · rw [hget]
    dsimp only
    split
    · exact .of_storage rfl rfl rfl rfl
    · exact .of_storage rfl rfl rfl rfl

lemma undoCwnd_quiet (K : Kernel) (s : SockState) (allocated : Bool) :
    QuietEffect s (skylineUndoCwnd K s allocated).1 := by
  rw [skylineUndoCwnd]
  obtain ⟨hget, -⟩ | hget := flowGet_cases s allocated
  · rw [hget]
    exact QuietEffect.refl s
  · rw [hget]
    exact .of_storage rfl rfl rfl rfl

lemma endReduction_quiet (s : SockState) : QuietEffect s (endReduction s s.flow) := by
  rw [endReduction]
  dsimp only
  split_ifs
  all_goals exact .of_storage rfl rfl rfl rfl

lemma setState_quiet (s : SockState) (allocated : Bool) (newState : CaState) :
    QuietEffect s (skylineSetState s allocated newState) := by
  rw [skylineSetState]
  obtain ⟨hget, -⟩ | hget := flowGet_cases s allocated
  · rw [hget]
    exact QuietEffect.refl s
  · rw [hget]
    cases newState with
    | loss => exact .of_storage rfl rfl rfl rfl
    | recovery => exact .of_storage rfl rfl rfl rfl
    | cwr => exact .of_storage rfl rfl rfl rfl
    | opened => exact endReduction_quiet s
    | disorder => exact endReduction_quiet s

lemma txStart_quiet (s : SockState) (allocated : Bool) (nowNs : UInt64) :
    QuietEffect s (skylineTxStart s allocated nowNs) := by
  rw [skylineTxStart]
  obtain ⟨hget, -⟩ | hget := flowGet_cases s allocated
  · rw [hget]
    exact QuietEffect.refl s
  · rw [hget]
    exact .of_storage rfl rfl rfl rfl

lemma release_quiet (s : SockState) : QuietEffect s (skylineRelease s).1 := by
  rw [skylineRelease]
  cases hs : s.storage with
  | none => exact QuietEffect.refl s
  | some flow =>
      have hflow : s.flow = flow := by
        rw [SockState.flow, hs]
        rfl
      dsimp only
      split_ifs
      · exact QuietEffect.refl s
      · exact .of_storage rfl (by rw [hflow]) (by rw [hflow]) (by rw [hflow])

/-- **Only `init` and `cong_control`** touch the configuration or the path model of a
connection. -/
theorem quietEffect (K : Kernel) {callback : Callback} (hquiet : callback.Quiet) (s : SockState) :
    QuietEffect s (callback.exec K s).state := by
  -- `exec` starts by clearing a ghost of the socket, which no storage depends on
  have hclear : ∀ s', QuietEffect { s with sk := { s.sk with cwndStored := false } } s' →
      QuietEffect s s' := fun _ h => ⟨h.config, h.seq, h.path, h.storage⟩
  cases callback with
  | init => exact hquiet.elim
  | congControl => exact hquiet.elim
  | ssthresh allocated => exact hclear _ (ssthresh_quiet _ allocated)
  | undoCwnd allocated => exact hclear _ (undoCwnd_quiet K _ allocated)
  | setState allocated newState => exact hclear _ (setState_quiet _ allocated newState)
  | cwndEvent txStart allocated nowNs =>
      cases txStart with
      | false => exact hclear _ (QuietEffect.refl _)
      | true => exact hclear _ (txStart_quiet _ allocated nowNs)
  | cwndEventTxStart allocated nowNs => exact hclear _ (txStart_quiet _ allocated nowNs)
  | release => exact hclear _ (release_quiet _)

/-! Of the callbacks but `init`, `cong_control` and `set_state`, none writes the
socket. -/

lemma ssthresh_sk (s : SockState) (allocated : Bool) :
    (skylineSsthresh s allocated).1.sk = s.sk := by
  rw [skylineSsthresh]
  split
  · rfl
  · split_ifs <;> rfl

lemma undoCwnd_sk (K : Kernel) (s : SockState) (allocated : Bool) :
    (skylineUndoCwnd K s allocated).1.sk = s.sk := by
  rw [skylineUndoCwnd]
  dsimp only
  split <;> rfl

lemma txStart_sk (s : SockState) (allocated : Bool) (nowNs : UInt64) :
    (skylineTxStart s allocated nowNs).sk = s.sk := by
  rw [skylineTxStart]
  split <;> rfl

lemma release_sk (s : SockState) : (skylineRelease s).1.sk = s.sk := by
  rw [skylineRelease]
  split
  · rfl
  · split_ifs <;> rfl

end SkylineSpeeder
