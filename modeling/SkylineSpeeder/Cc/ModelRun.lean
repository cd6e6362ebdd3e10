import SkylineSpeeder.Cc.Frame
import SkylineSpeeder.Machine.Run

/-!
Runs of the path model of a connection on one configuration, and what one
`skyline_update_model` does to each group of its fields.

* `ModelEvent`, `modelStep`: an ACK, a reset, or what the rest of the callbacks writes in
  between; `congControl_modelRun` finds these events in `skyline_cong_control`;
* `BwPart`, `updateModel_bw`: the bandwidth filter;
* `minTake`, `updateModel_minima`: the two minima;
* `StartPart`, `updateModel_start_on`, `updateModel_start_off`: `STARTUP` and its plateau.
-/

namespace SkylineSpeeder

open Word (minT)

/-! ### Runs -/

/-- What happens to the state of a connection on one configuration: the model starts over,
takes an ACK, or the rest of a callback writes the fields the model does not keep. -/
inductive ModelEvent where
  | reset (tp : TcpSock) (nowNs : UInt64)
  | ack (tp : TcpSock) (sample : RateSample) (nowNs : UInt64)
  | rest (cubic : FlowCubic) (lastLossDelivered : UInt32)

/-- One event. -/
def modelStep (config : KernelConfig) (flow : FlowState) : ModelEvent → FlowState
  | .reset tp nowNs => skylineResetGeneration flow tp nowNs
  | .ack tp sample nowNs => (skylineUpdateModel tp flow config sample nowNs).1
  | .rest cubic lastLossDelivered =>
      { flow with toFlowCubic := cubic, lastLossDelivered := lastLossDelivered }

/-- A flow state is its three groups. -/
lemma flowState_ext {f g : FlowState} (hconfig : f.toFlowConfig = g.toFlowConfig)
    (hpath : f.toFlowPath = g.toFlowPath) (hcubic : f.toFlowCubic = g.toFlowCubic) : f = g := by
  cases f
  cases g
  simp_all

/-- The second part of `skyline_cong_control` is one ACK for the model, and a write of the
rest. -/
lemma congControlRun_modelRun (K : Kernel) (sk : TcpSock) (flow : FlowState) (input : AckInput) :
    (congControlRun K sk flow input).2.1 =
      [ModelEvent.ack sk input.sample input.modelNs,
        .rest (congControlRun K sk flow input).2.1.toFlowCubic
          (modelled sk flow input).lastLossDelivered].foldl (modelStep flow.config) flow := by
  have hframe := setWindow_frame K (skylineApplyPacing sk (modelled sk flow input) flow.config).1
    (modelled sk flow input) input
  have hrecord := recordLoss_frame sk
    (skylineUpdateModel sk flow flow.config input.sample input.modelNs).1 input.sample
  refine flowState_ext ?_ ?_ rfl
  · rw [congControlRun_flow, hframe.config]
    exact hrecord.config
  · rw [congControlRun_flow, hframe.path]
    -- the loss bookkeeping writes one field of the path model
    rw [modelled, recordLoss]
    simp only [List.foldl_cons, List.foldl_nil, modelStep]
    split <;> rfl

/-- **`skyline_cong_control` is a run of the model** on the configuration it ends with. -/
theorem congControl_modelRun (K : Kernel) (s : SockState) (allocated : Bool) (input : AckInput) :
    ∃ (flow : FlowState) (es : List ModelEvent), flow.toFlowPath = s.flow.toFlowPath ∧
      (skylineCongControl K s allocated input).1.flow = es.foldl (modelStep flow.config) flow := by
  have heffect := congControlEffect K s allocated input
  generalize (skylineCongControl K s allocated input).1 = s' at heffect ⊢
  cases heffect with
  | unallocated _ => exact ⟨s.flow, [], rfl, rfl⟩
  | refused _ _ => exact ⟨s.flow, [], rfl, rfl⟩
  | ran flow reports _ hadopt =>
      have hrun := congControlRun_modelRun K s.sk flow input
      -- an adoption is a reset of a flow whose configuration has been exchanged
      have hpath : (skylineAdoptConfig s.flow input.read).1.toFlowPath = s.flow.toFlowPath := by
        cases hread : (skylineAdoptConfig s.flow input.read).2 with
        | false => rw [adoptConfig_false hread]
        | true =>
            obtain ⟨seq, copy, -, -, hflow⟩ := adoptConfig_true hread
            rw [hflow]
      cases hadopt with
      | kept _ _ => exact ⟨s.flow, _, rfl, hrun⟩
      | first _ _ =>
          exact ⟨(skylineAdoptConfig s.flow input.read).1, [.reset s.sk input.resetNs,
            .ack s.sk input.sample input.modelNs, .rest _ _], hpath, hrun⟩
      | switched _ _ _ _ _ =>
          exact ⟨(skylineAdoptConfig s.flow input.read).1, [.reset s.sk input.resetNs,
            .ack s.sk input.sample input.modelNs, .rest _ _], hpath, hrun⟩

/-! ### The bandwidth filter -/

/-- The fields of the bandwidth filter. -/
structure BwPart where
  bw : UInt64
  round : UInt64
  samples : Fin 10 → UInt64

/-- The bandwidth filter of a flow. -/
def FlowState.bwPart (flow : FlowState) : BwPart :=
  ⟨flow.bwBps, flow.roundRateBps, flow.bwSamples⟩

namespace BwPart

/-- The filter at a round end: a round that measured something is shifted in. -/
def endRound (config : KernelConfig) (p : BwPart) : BwPart :=
  if p.round ≠ 0 then
    ⟨bwWindowMaximum (minT config.bwWindowRtts 10) (Fin.cons p.round (Fin.init p.samples)), 0,
      Fin.cons p.round (Fin.init p.samples)⟩
  else p

/-- Whether the filter takes the sample of an ACK. -/
def accepts (p : BwPart) (tp : TcpSock) (sample : RateSample) : Prop :=
  skylineRateSampleBps tp sample ≠ 0 ∧ sample.isAppLimited = false ∧
    skylineSampleMeasuresPath tp sample = true ∧ (p.bw ≠ 0 ∨ sample.isRetrans = false)

instance (p : BwPart) (tp : TcpSock) (sample : RateSample) : Decidable (p.accepts tp sample) :=
  inferInstanceAs (Decidable (_ ∧ _))

/-- The filter after the sample of an ACK. -/
def accept (p : BwPart) (tp : TcpSock) (sample : RateSample) : BwPart :=
  if p.accepts tp sample then
    let rate := skylineRateSampleBps tp sample
    { p with
      bw := if rate > p.bw then rate else p.bw
      round := if rate > p.round then rate else p.round }
  else p

end BwPart

lemma newRound_snd (tp : TcpSock) (flow : FlowState) (sample : RateSample) :
    (skylineNewRound tp flow sample).2 = skylineRoundReached sample flow.nextRoundDelivered := by
  rw [skylineNewRound]
  cases skylineRoundReached sample flow.nextRoundDelivered <;> rfl

/-- The window update is the round end of the filter. -/
lemma updateBwWindow_bw (config : KernelConfig) (newRound : Bool) (flow : FlowState) :
    (updateBwWindow config newRound flow).1.bwPart =
      if newRound then flow.bwPart.endRound config else flow.bwPart := by
  have hround : flow.bwPart.round = flow.roundRateBps := rfl
  rw [updateBwWindow, BwPart.endRound, hround]
  cases newRound with
  | false => simp
  | true =>
      by_cases hzero : flow.roundRateBps = 0
      · simp [hzero]
      · simp only [hzero, ne_eq, not_false_eq_true, and_self, if_true]
        rfl

lemma updateBwWindow_measured (config : KernelConfig) (newRound : Bool) (flow : FlowState) :
    (updateBwWindow config newRound flow).2 = (newRound && flow.roundRateBps != 0) := by
  rw [updateBwWindow]
  cases newRound with
  | false => simp
  | true => by_cases hzero : flow.roundRateBps = 0 <;> simp [hzero]

lemma acceptSample_bw (tp : TcpSock) (sample : RateSample) (flow : FlowState) :
    (acceptSample tp sample (skylineRateSampleBps tp sample) flow).bwPart =
      flow.bwPart.accept tp sample := by
  rw [acceptSample, BwPart.accept]
  by_cases h : flow.bwPart.accepts tp sample
  · rw [if_pos h, if_pos]
    · rfl
    · obtain ⟨hrate, happ, hpath, hseed⟩ := h
      exact ⟨hrate, by rw [happ]; rfl, hpath, hseed.imp_right fun h => by rw [h]; rfl⟩
  · rw [if_neg h, if_neg]
    rintro ⟨hrate, happ, hpath, hseed⟩
    refine h ⟨hrate, by simpa using happ, hpath, hseed.imp_right fun h => by simpa using h⟩

/-- The guardrail at a round end: the queue is too long, or marks have come in. -/
def roundClamp (tp : TcpSock) (config : KernelConfig) (flow : FlowState) : Bool :=
  (skylineMaxQueueDelayUs flow config != 0 &&
    decide (skylineQueueDelayUs tp flow > skylineMaxQueueDelayUs flow config)) ||
    tp.deliveredCe != flow.lastDeliveredCe

/-- What the guardrail stage leaves at a round end with M2 on. -/
def closeRound (tp : TcpSock) (config : KernelConfig) (measuredRound : Bool) (flow : FlowState) :
    FlowState :=
  let started := (updateStartup config measuredRound
    { flow with queueClamped := roundClamp tp config flow }).1
  { started with priorRoundBwBps := started.bwBps, lastDeliveredCe := tp.deliveredCe }

lemma updateGuardrail_fst (tp : TcpSock) (config : KernelConfig) (newRound measuredRound : Bool)
    (flow : FlowState) :
    (updateGuardrail tp config newRound measuredRound flow).1 =
      if newRound ∧ config.has featureAdaptiveCwnd then closeRound tp config measuredRound flow
      else flow := by
  rw [updateGuardrail]
  split <;> rfl

/-- **The bandwidth filter over one ACK**: the round that ended is shifted in, then the
sample of the ACK is taken. -/
theorem updateModel_bw (tp : TcpSock) (flow : FlowState) (config : KernelConfig)
    (sample : RateSample) (nowNs : UInt64) :
    (skylineUpdateModel tp flow config sample nowNs).1.bwPart =
      (if skylineRoundReached sample flow.nextRoundDelivered then flow.bwPart.endRound config
        else flow.bwPart).accept tp sample := by
  rw [updateModel_eq]
  dsimp only
  -- only two stages write fields of the filter
  rw [updateGuardrail_view FlowState.bwPart (fun _ _ _ => rfl) (fun _ _ _ _ => rfl),
    updateLossRate_view FlowState.bwPart (fun _ _ _ _ => rfl), acceptSample_bw, updateBwWindow_bw,
    updateMinSrtt_view FlowState.bwPart (fun _ _ _ => rfl),
    updateMinRtt_view FlowState.bwPart (fun _ _ _ => rfl),
    newRound_view FlowState.bwPart (fun _ _ => rfl), newRound_snd]

/-! ### The two minima -/

/-- One minimum and its stamp, offered a value. -/
def minTake (window nowUs value : UInt64) (p : UInt64 × UInt64) : UInt64 × UInt64 :=
  if p.1 = 0 ∨ value < p.1 ∨ nowUs - p.2 > window then (value, nowUs) else p

/-- The minimum of the RTT samples and its stamp. -/
def FlowState.rttPart (flow : FlowState) : UInt64 × UInt64 := (flow.minRttUs, flow.minRttStampUs)

/-- The minimum of the smoothed RTT and its stamp. -/
def FlowState.srttPart (flow : FlowState) : UInt64 × UInt64 :=
  (flow.minSrttUs, flow.minSrttStampUs)

lemma updateMinRtt_rtt (config : KernelConfig) (sample : RateSample) (nowUs : UInt64)
    (flow : FlowState) :
    (updateMinRtt config sample nowUs flow).rttPart =
      if sample.rttUs > 0 then
        minTake config.minRttWindowUs.toUInt64 nowUs sample.rttUs.toUInt64 flow.rttPart
      else flow.rttPart := by
  have hmin : flow.rttPart.1 = flow.minRttUs := rfl
  have hstamp : flow.rttPart.2 = flow.minRttStampUs := rfl
  rw [updateMinRtt, minTake, hmin, hstamp]
  by_cases hpos : sample.rttUs > 0
  · simp only [hpos, true_and, if_true]
    split <;> rfl
  · simp only [hpos, false_and, if_false]

lemma updateMinSrtt_srtt (config : KernelConfig) (tp : TcpSock) (nowUs : UInt64)
    (flow : FlowState) :
    (updateMinSrtt config tp nowUs flow).srttPart =
      if tp.srttUs > 0 then
        minTake config.minRttWindowUs.toUInt64 nowUs (tp.srttUs >>> 3).toUInt64 flow.srttPart
      else flow.srttPart := by
  have hmin : flow.srttPart.1 = flow.minSrttUs := rfl
  have hstamp : flow.srttPart.2 = flow.minSrttStampUs := rfl
  rw [updateMinSrtt, minTake, hmin, hstamp]
  by_cases hpos : tp.srttUs > 0
  · simp only [hpos, true_and, if_true]
    split <;> rfl
  · simp only [hpos, false_and, if_false]

/-- **The two minima over one ACK**: each is offered its own value. -/
theorem updateModel_minima (tp : TcpSock) (flow : FlowState) (config : KernelConfig)
    (sample : RateSample) (nowNs : UInt64) :
    (skylineUpdateModel tp flow config sample nowNs).1.rttPart =
      (if sample.rttUs > 0 then minTake config.minRttWindowUs.toUInt64 (nowNs / 1000)
        sample.rttUs.toUInt64 flow.rttPart else flow.rttPart) ∧
    (skylineUpdateModel tp flow config sample nowNs).1.srttPart =
      (if tp.srttUs > 0 then minTake config.minRttWindowUs.toUInt64 (nowNs / 1000)
        (tp.srttUs >>> 3).toUInt64 flow.srttPart else flow.srttPart) := by
  rw [updateModel_eq]
  dsimp only
  constructor
  · rw [updateGuardrail_view FlowState.rttPart (fun _ _ _ => rfl) (fun _ _ _ _ => rfl),
      updateLossRate_view FlowState.rttPart (fun _ _ _ _ => rfl),
      acceptSample_view FlowState.rttPart (fun _ _ _ => rfl),
      updateBwWindow_view FlowState.rttPart (fun _ _ _ _ => rfl),
      updateMinSrtt_view FlowState.rttPart (fun _ _ _ => rfl), updateMinRtt_rtt,
      newRound_view FlowState.rttPart (fun _ _ => rfl)]
  · rw [updateGuardrail_view FlowState.srttPart (fun _ _ _ => rfl) (fun _ _ _ _ => rfl),
      updateLossRate_view FlowState.srttPart (fun _ _ _ _ => rfl),
      acceptSample_view FlowState.srttPart (fun _ _ _ => rfl),
      updateBwWindow_view FlowState.srttPart (fun _ _ _ _ => rfl), updateMinSrtt_srtt,
      updateMinRtt_view FlowState.srttPart (fun _ _ _ => rfl),
      newRound_view FlowState.srttPart (fun _ _ => rfl)]

/-! ### `STARTUP` -/

/-- The mode, the plateau count and the estimate it compares with. -/
structure StartPart where
  mode : Mode
  plateau : UInt32
  prior : UInt64

/-- The `STARTUP` fields of a flow. -/
def FlowState.startPart (flow : FlowState) : StartPart :=
  ⟨flow.mode, flow.plateauRounds, flow.priorRoundBwBps⟩

/-- The state the guardrail stage works on. -/
def beforeGuardrail (tp : TcpSock) (flow : FlowState) (config : KernelConfig)
    (sample : RateSample) (nowNs : UInt64) : FlowState :=
  let round := skylineNewRound tp flow sample
  let window := updateBwWindow config round.2
    (updateMinSrtt config tp (nowNs / 1000) (updateMinRtt config sample (nowNs / 1000) round.1))
  updateLossRate tp round.2 (acceptSample tp sample (skylineRateSampleBps tp sample) window.1)

/-- The stages before the guardrail leave the `STARTUP` fields alone. -/
lemma beforeGuardrail_start (tp : TcpSock) (flow : FlowState) (config : KernelConfig)
    (sample : RateSample) (nowNs : UInt64) :
    (beforeGuardrail tp flow config sample nowNs).startPart = flow.startPart := by
  rw [beforeGuardrail, updateLossRate_view FlowState.startPart (fun _ _ _ _ => rfl),
    acceptSample_view FlowState.startPart (fun _ _ _ => rfl),
    updateBwWindow_view FlowState.startPart (fun _ _ _ _ => rfl),
    updateMinSrtt_view FlowState.startPart (fun _ _ _ => rfl),
    updateMinRtt_view FlowState.startPart (fun _ _ _ => rfl),
    newRound_view FlowState.startPart (fun _ _ => rfl)]

/-- `skyline_update_model` ends with the guardrail stage. -/
lemma updateModel_guardrail (tp : TcpSock) (flow : FlowState) (config : KernelConfig)
    (sample : RateSample) (nowNs : UInt64) :
    skylineUpdateModel tp flow config sample nowNs =
      updateGuardrail tp config (skylineRoundReached sample flow.nextRoundDelivered)
        (skylineRoundReached sample flow.nextRoundDelivered && flow.roundRateBps != 0)
        (beforeGuardrail tp flow config sample nowNs) := by
  have hmeasured : (updateBwWindow config (skylineNewRound tp flow sample).2
      (updateMinSrtt config tp (nowNs / 1000) (updateMinRtt config sample (nowNs / 1000)
        (skylineNewRound tp flow sample).1))).2 =
      (skylineRoundReached sample flow.nextRoundDelivered && flow.roundRateBps != 0) := by
    have hbw : (updateMinSrtt config tp (nowNs / 1000) (updateMinRtt config sample (nowNs / 1000)
        (skylineNewRound tp flow sample).1)).bwPart = flow.bwPart := by
      rw [updateMinSrtt_view FlowState.bwPart (fun _ _ _ => rfl),
        updateMinRtt_view FlowState.bwPart (fun _ _ _ => rfl),
        newRound_view FlowState.bwPart (fun _ _ => rfl)]
    rw [updateBwWindow_measured, newRound_snd]
    exact congrArg (fun p : BwPart =>
      skylineRoundReached sample flow.nextRoundDelivered && p.round != 0) hbw
  rw [updateModel_eq, ← hmeasured, ← newRound_snd tp flow sample]
  rfl

/-- Between round ends, and without M2, the `STARTUP` fields stay. -/
lemma updateModel_start_off {tp : TcpSock} {flow : FlowState} {config : KernelConfig}
    {sample : RateSample} {nowNs : UInt64}
    (hoff : ¬ (skylineRoundReached sample flow.nextRoundDelivered = true ∧
      config.has featureAdaptiveCwnd = true)) :
    (skylineUpdateModel tp flow config sample nowNs).1.startPart = flow.startPart := by
  rw [updateModel_guardrail, updateGuardrail_fst, if_neg hoff]
  exact beforeGuardrail_start tp flow config sample nowNs

/-- The plateau count of a round end, given the estimate after it. -/
def plateauAfter (config : KernelConfig) (measured : Bool) (bw : UInt64) (p : StartPart) : UInt32 :=
  if measured then
    if p.prior ≠ 0 ∧ bw * 1000 < p.prior * (1000 + config.startupGrowthPermille).toUInt64 then
      p.plateau + 1
    else 0
  else p.plateau

/-- The check for the end of `STARTUP`, in `STARTUP`. -/
lemma updateStartup_startup (config : KernelConfig) (measuredRound : Bool) {flow : FlowState}
    (hmode : flow.mode = .startup) :
    let flow' := (updateStartup config measuredRound flow).1
    flow'.plateauRounds = plateauAfter config measuredRound flow.bwBps flow.startPart ∧
    flow'.queueClamped = flow.queueClamped ∧
    flow'.mode = if flow'.plateauRounds ≥ config.startupPlateauRtts ∨ flow'.queueClamped then
      .cruise else .startup := by
  have hcount : (countPlateau config measuredRound flow).plateauRounds =
      plateauAfter config measuredRound flow.bwBps flow.startPart := by
    rw [countPlateau, plateauAfter]
    split <;> rfl
  have hclamp : (countPlateau config measuredRound flow).queueClamped = flow.queueClamped := by
    rw [countPlateau]
    split <;> rfl
  have hcmode : (countPlateau config measuredRound flow).mode = .startup := by
    rw [← hmode, countPlateau]
    split <;> rfl
  rw [updateStartup_eq, if_pos hmode, ← hcount, ← hclamp]
  generalize countPlateau config measuredRound flow = g at hcmode
  by_cases hend : g.plateauRounds ≥ config.startupPlateauRtts ∨ g.queueClamped = true
  · rw [if_pos hend, skylineTransition, hcmode, if_neg (by decide)]
    exact ⟨rfl, rfl, (if_pos hend).symm⟩
  · rw [if_neg hend]
    exact ⟨rfl, rfl, by rw [if_neg hend, hcmode]⟩

/-- **A round end with M2 on**: in `STARTUP` the plateau count moves if the round measured
something, and `STARTUP` is over if the count is reached or the guardrail has tripped; the
estimate is what the next round end compares with. -/
theorem updateModel_start_on (tp : TcpSock) {flow : FlowState} {config : KernelConfig}
    {sample : RateSample} (nowNs : UInt64)
    (hround : skylineRoundReached sample flow.nextRoundDelivered = true)
    (hm2 : config.has featureAdaptiveCwnd = true) :
    let flow' := (skylineUpdateModel tp flow config sample nowNs).1
    flow'.priorRoundBwBps = flow'.bwBps ∧
    (flow.mode = .cruise → flow'.mode = .cruise ∧ flow'.plateauRounds = flow.plateauRounds) ∧
    (flow.mode = .startup →
      flow'.plateauRounds =
        plateauAfter config (flow.roundRateBps != 0) flow'.bwBps flow.startPart ∧
      flow'.mode = if flow'.plateauRounds ≥ config.startupPlateauRtts ∨ flow'.queueClamped then
        .cruise else .startup) := by
  have hstart := beforeGuardrail_start tp flow config sample nowNs
  intro flow'
  have hflow' : flow' = closeRound tp config (flow.roundRateBps != 0)
      (beforeGuardrail tp flow config sample nowNs) := by
    show (skylineUpdateModel tp flow config sample nowNs).1 = _
    rw [updateModel_guardrail, updateGuardrail_fst, hround, if_pos ⟨rfl, hm2⟩, Bool.true_and]
  generalize beforeGuardrail tp flow config sample nowNs = f at hstart hflow'
  have hmode : f.mode = flow.mode := congrArg StartPart.mode hstart
  set g : FlowState := { f with queueClamped := roundClamp tp config f }
  have hbw : flow'.bwBps = g.bwBps := by
    rw [hflow']
    exact updateStartup_view (fun f => f.bwBps) (fun _ _ _ => rfl) config _ g
  refine ⟨by rw [hflow']; rfl, fun hcruise => ?_, fun hstartup => ?_⟩
  · have hkeep : updateStartup config (flow.roundRateBps != 0) g = (g, []) := by
      rw [updateStartup_eq, if_neg]
      rw [show g.mode = flow.mode from hmode, hcruise]
      decide
    have hmode' := congrArg (fun r : FlowState × List Report => r.1.mode) hkeep
    have hplateau' := congrArg (fun r : FlowState × List Report => r.1.plateauRounds) hkeep
    rw [hflow']
    exact ⟨hmode'.trans (hmode.trans hcruise),
      hplateau'.trans (congrArg StartPart.plateau hstart)⟩
  · obtain ⟨hcount, -, hnext⟩ := updateStartup_startup config
      (flow.roundRateBps != 0) (show g.mode = .startup from hmode.trans hstartup)
    rw [hbw, ← hstart, hflow']
    exact ⟨hcount, hnext⟩

end SkylineSpeeder
