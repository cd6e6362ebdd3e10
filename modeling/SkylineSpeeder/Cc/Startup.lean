import SkylineSpeeder.Cc.BwFilter

/-!
The end of `STARTUP`: the streak of measured rounds without growth that
`plateau_rounds` stands for.

* `StartupLog`: the streak, the estimate at the end of the last measured round, and
  whether `STARTUP` is over, kept from the events alone;
* `GrowthSeen`: what a step has to meet.  The estimate a round is compared with is
  written at every round end, also of a round that measured nothing, where the sample of
  the ACK that ends it may have raised the estimate already: that growth is then
  compared with by no round;
* `Plateau`, `plateau_step`, `startup_ends_on_plateau`: where no such ACK comes, the
  count is the streak.
-/

namespace SkylineSpeeder

open Machine Windowed

/-! ### The streak -/

/-- The filter that takes the sample of an ACK: a round that ended has been shifted in. -/
def ackPart (config : KernelConfig) (flow : FlowState) (sample : RateSample) : BwPart :=
  if skylineRoundReached sample flow.nextRoundDelivered then flow.bwPart.endRound config
  else flow.bwPart

/-- Whether `skyline_update_model` takes the sample of this ACK into the filter. -/
def ackAccepts (config : KernelConfig) (flow : FlowState) (tp : TcpSock) (sample : RateSample) :
    Prop :=
  (ackPart config flow sample).accepts tp sample

instance (config : KernelConfig) (flow : FlowState) (tp : TcpSock) (sample : RateSample) :
    Decidable (ackAccepts config flow tp sample) :=
  inferInstanceAs (Decidable (BwPart.accepts _ _ _))

/-- The record of `STARTUP` since the last reset: the estimate at the end of the last
measured round (0 before there is one), the streak of measured rounds that grew too
little, whether this round has measured something, and whether `STARTUP` is over. -/
structure StartupLog where
  base : ℕ
  streak : ℕ
  measured : Bool
  finished : Bool

namespace StartupLog

/-- After a reset. -/
def fresh : StartupLog := ⟨0, 0, false, false⟩

/-- The streak at a round end with the estimate `bw`: a round that measured nothing neither
counts nor resets it. -/
def streakAfter (log : StartupLog) (config : KernelConfig) (bw : ℕ) : ℕ :=
  if log.measured then
    if log.base ≠ 0 ∧ 1000 * bw < (1000 + config.startupGrowthPermille.toNat) * log.base then
      log.streak + 1
    else 0
  else log.streak

/-- A round end with the estimate `bw`. -/
def endRound (log : StartupLog) (config : KernelConfig) (bw : ℕ) (tripped : Bool) : StartupLog :=
  if log.finished then log
  else
    { log with
      base := if log.measured then bw else log.base
      streak := log.streakAfter config bw
      finished := decide (config.startupPlateauRtts.toNat ≤ log.streakAfter config bw) || tripped }

/-- The record after an event. -/
def step (config : KernelConfig) (flow : FlowState) (log : StartupLog) : ModelEvent → StartupLog
  | .reset _ _ => fresh
  | .ack tp sample nowNs =>
      let flow' := modelStep config flow (.ack tp sample nowNs)
      let ended := skylineRoundReached sample flow.nextRoundDelivered
      { (if ended then log.endRound config flow'.bwBps.toNat flow'.queueClamped else log) with
        measured := (!ended && log.measured) || decide (ackAccepts config flow tp sample) }
  | .rest _ _ => log

end StartupLog

/-- A flow with its record. -/
def startupStep (config : KernelConfig) (s : FlowState × StartupLog) (e : ModelEvent) :
    FlowState × StartupLog :=
  (modelStep config s.1 e, s.2.step config s.1 e)

/-! ### What a step has to meet -/

/-- The comparison of two estimates fits 64 bits, and an ACK that ends a round in which
nothing was measured does not raise the estimate in `STARTUP`. -/
def GrowthSeen (config : KernelConfig) (flow : FlowState) : ModelEvent → Prop
  | .ack tp sample _ =>
      (skylineRateSampleBps tp sample).toNat * (1000 + config.startupGrowthPermille.toNat) <
        2 ^ 64 ∧
      (flow.mode = .startup → skylineRoundReached sample flow.nextRoundDelivered = true →
        flow.roundRateBps = 0 → ackAccepts config flow tp sample →
        skylineRateSampleBps tp sample ≤ flow.bwBps)
  | _ => True

instance (config : KernelConfig) (flow : FlowState) (e : ModelEvent) :
    Decidable (GrowthSeen config flow e) :=
  match e with
  | .ack _ _ _ => inferInstanceAs (Decidable (_ ∧ _))
  | .reset _ _ => inferInstanceAs (Decidable True)
  | .rest _ _ => inferInstanceAs (Decidable True)

/-- Every rate in the filter is at most `b`. -/
structure BwPart.Below (b : ℕ) (p : BwPart) : Prop where
  bw : p.bw.toNat ≤ b
  round : p.round.toNat ≤ b
  samples : ∀ i, (p.samples i).toNat ≤ b

lemma BwPart.Below.endRound {b : ℕ} {p : BwPart} (h : p.Below b) (config : KernelConfig) :
    (p.endRound config).Below b := by
  rw [BwPart.endRound]
  split
  · have hcells : ∀ i, ((Fin.cons p.round (Fin.init p.samples) : Fin 10 → UInt64) i).toNat ≤ b := by
      intro i
      refine Fin.cases ?_ (fun j => ?_) i
      · exact h.round
      · exact h.samples j.castSucc
    refine ⟨?_, Nat.zero_le b, hcells⟩
    have hmin : (Word.minT config.bwWindowRtts 10).toNat ≤ 10 := by
      rw [Word.U32.toNat_minT]
      exact min_le_right _ _
    rw [bwWindowMaximum_toNat, (holds_ofFn _).scan_eq hmin, peak_le_iff]
    intro x hx
    obtain ⟨i, rfl⟩ := List.mem_ofFn.mp (List.mem_of_mem_take hx)
    exact hcells i
  · exact h

lemma BwPart.Below.accept {b : ℕ} {p : BwPart} (h : p.Below b) (tp : TcpSock)
    (sample : RateSample) (hrate : (skylineRateSampleBps tp sample).toNat ≤ b) :
    (p.accept tp sample).Below b := by
  rw [BwPart.accept]
  split
  · refine ⟨?_, ?_, h.samples⟩
    · exact (Word.U64.toNat_maxT _ _).le.trans (max_le hrate h.bw)
    · exact (Word.U64.toNat_maxT _ _).le.trans (max_le hrate h.round)
  · exact h

/-! ### The invariant -/

/-- The count of the flow is the streak, and outside `STARTUP` nothing moves.  In
`STARTUP` the estimate compared with is that of the last measured round, and the estimate
has not moved from it unless this round has measured something. -/
structure Plateau (config : KernelConfig) (b : ℕ) (flow : FlowState) (log : StartupLog) :
    Prop where
  measured : log.measured = (flow.roundRateBps != 0)
  mode : flow.mode = if log.finished then .cruise else .startup
  streak : flow.plateauRounds.toNat = log.streak
  base : log.finished = false → flow.priorRoundBwBps.toNat = log.base
  still : log.finished = false → log.measured = false → flow.bwBps = flow.priorRoundBwBps
  room : log.finished = false → log.streak < config.startupPlateauRtts.toNat ∨ log.streak = 0
  rates : flow.bwPart.Below b
  prior : flow.priorRoundBwBps.toNat ≤ b

lemma plateau_reset (config : KernelConfig) (b : ℕ) (flow : FlowState) (tp : TcpSock)
    (nowNs : UInt64) : Plateau config b (skylineResetGeneration flow tp nowNs) .fresh where
  measured := rfl
  mode := rfl
  streak := rfl
  base := fun _ => rfl
  still := fun _ _ => rfl
  room := fun _ => .inr rfl
  rates := ⟨Nat.zero_le b, Nat.zero_le b, fun _ => Nat.zero_le b⟩
  prior := Nat.zero_le b

section Ack

variable {config : KernelConfig} {b : ℕ} {flow : FlowState} {log : StartupLog} {tp : TcpSock}
  {sample : RateSample} {nowNs : UInt64}

/-- The running maximum of the new round is zero, of a round that goes on what it was. -/
lemma ackPart_round (config : KernelConfig) (flow : FlowState) (sample : RateSample) :
    ((ackPart config flow sample).round != 0) =
      (!skylineRoundReached sample flow.nextRoundDelivered && flow.roundRateBps != 0) := by
  rw [ackPart]
  cases skylineRoundReached sample flow.nextRoundDelivered with
  | false => rfl
  | true =>
      rw [if_pos rfl, BwPart.endRound]
      by_cases hzero : flow.bwPart.round = 0
      · simp [hzero]
      · simp [hzero]

lemma accept_round (p : BwPart) (tp : TcpSock) (sample : RateSample) :
    ((p.accept tp sample).round != 0) = (p.round != 0 || decide (p.accepts tp sample)) := by
  rw [BwPart.accept]
  by_cases h : p.accepts tp sample
  · rw [if_pos h, decide_eq_true h, Bool.or_true, bne_iff_ne]
    intro hzero
    have hmax := Word.U64.toNat_maxT (skylineRateSampleBps tp sample) p.round
    have hpos : (skylineRateSampleBps tp sample).toNat ≠ 0 :=
      fun h0 => h.1 (UInt64.toNat_inj.mp h0)
    rw [show Word.maxT (skylineRateSampleBps tp sample) p.round = 0 from hzero] at hmax
    simp only [UInt64.toNat_zero] at hmax
    omega
  · rw [if_neg h, decide_eq_false h, Bool.or_false]

/-- Whether a round has measured something, after an ACK. -/
lemma ack_measured (tp : TcpSock) (flow : FlowState) (config : KernelConfig) (sample : RateSample)
    (nowNs : UInt64) :
    ((skylineUpdateModel tp flow config sample nowNs).1.roundRateBps != 0) =
      ((!skylineRoundReached sample flow.nextRoundDelivered && flow.roundRateBps != 0) ||
        decide (ackAccepts config flow tp sample)) := by
  have hbw : (skylineUpdateModel tp flow config sample nowNs).1.roundRateBps =
      ((ackPart config flow sample).accept tp sample).round :=
    congrArg BwPart.round (updateModel_bw tp flow config sample nowNs)
  rw [hbw, accept_round, ackPart_round]
  rfl

/-- An ACK whose sample is not accepted, or is not above the estimate, and that shifts no
round in leaves the estimate. -/
lemma ack_bw_same (hshift : ackPart config flow sample = flow.bwPart)
    (hlow : ackAccepts config flow tp sample → skylineRateSampleBps tp sample ≤ flow.bwBps) :
    (skylineUpdateModel tp flow config sample nowNs).1.bwBps = flow.bwBps := by
  have hbw : (skylineUpdateModel tp flow config sample nowNs).1.bwBps =
      ((ackPart config flow sample).accept tp sample).bw :=
    congrArg BwPart.bw (updateModel_bw tp flow config sample nowNs)
  rw [hbw, BwPart.accept]
  by_cases h : (ackPart config flow sample).accepts tp sample
  · rw [if_pos h, hshift]
    exact if_neg (UInt64.not_lt.mpr (hlow h))
  · rw [if_neg h, hshift]
    rfl

/-- The ACK that ends a round in which nothing was measured shifts nothing in. -/
lemma ack_bw_unmeasured (h : Plateau config b flow log)
    (hround : skylineRoundReached sample flow.nextRoundDelivered = true)
    (hlow : flow.roundRateBps = 0 → ackAccepts config flow tp sample →
      skylineRateSampleBps tp sample ≤ flow.bwBps) (hnone : log.measured = false) :
    (skylineUpdateModel tp flow config sample nowNs).1.bwBps = flow.bwBps := by
  have hzero : flow.roundRateBps = 0 := by simpa [h.measured] using hnone
  have hpart : ¬ flow.bwPart.round ≠ 0 := not_not.mpr hzero
  refine ack_bw_same ?_ (hlow hzero)
  rw [ackPart, if_pos hround, BwPart.endRound, if_neg hpart]

/-- The rates stay bounded. -/
lemma ack_rates (h : flow.bwPart.Below b) (hrate : (skylineRateSampleBps tp sample).toNat ≤ b) :
    (skylineUpdateModel tp flow config sample nowNs).1.bwPart.Below b := by
  rw [updateModel_bw]
  refine BwPart.Below.accept ?_ tp sample hrate
  split
  · exact h.endRound config
  · exact h

/-- The 64-bit comparison of two bounded estimates. -/
lemma grew_iff (hgrowth : 1000 + config.startupGrowthPermille.toNat < 2 ^ 32)
    {bw prior : UInt64} (hbw : bw.toNat * (1000 + config.startupGrowthPermille.toNat) < 2 ^ 64)
    (hprior : prior.toNat * (1000 + config.startupGrowthPermille.toNat) < 2 ^ 64) :
    bw * 1000 < prior * (1000 + config.startupGrowthPermille).toUInt64 ↔
      1000 * bw.toNat < (1000 + config.startupGrowthPermille.toNat) * prior.toNat := by
  have hfactor : (1000 + config.startupGrowthPermille).toUInt64.toNat =
      1000 + config.startupGrowthPermille.toNat := by
    rw [UInt32.toNat_toUInt64, UInt32.toNat_add]
    exact Nat.mod_eq_of_lt hgrowth
  have hthousand : (1000 : UInt64).toNat = 1000 := rfl
  have hmul : bw.toNat * 1000 ≤ bw.toNat * (1000 + config.startupGrowthPermille.toNat) :=
    Nat.mul_le_mul_left _ (Nat.le_add_right _ _)
  rw [UInt64.lt_iff_toNat_lt, Word.U64.toNat_mul_of_lt (by rw [hthousand]; omega),
    Word.U64.toNat_mul_of_lt (by rw [hfactor]; exact hprior), hfactor, hthousand,
    Nat.mul_comm 1000, Nat.mul_comm _ prior.toNat]

/-- The largest rate whose comparison fits 64 bits. -/
def comparable (config : KernelConfig) : ℕ :=
  (2 ^ 64 - 1) / (1000 + config.startupGrowthPermille.toNat)

lemma le_comparable_iff {rate : ℕ} :
    rate ≤ comparable config ↔ rate * (1000 + config.startupGrowthPermille.toNat) < 2 ^ 64 := by
  rw [comparable, Nat.le_div_iff_mul_le (by omega)]
  omega

/-- An ACK within a round moves neither the mode nor the count. -/
lemma plateau_ack_inside (h : Plateau config (comparable config) flow log)
    (hround : skylineRoundReached sample flow.nextRoundDelivered = false)
    (hseen : GrowthSeen config flow (.ack tp sample nowNs)) :
    Plateau config (comparable config) (modelStep config flow (.ack tp sample nowNs))
      (log.step config flow (.ack tp sample nowNs)) := by
  have hstart : (skylineUpdateModel tp flow config sample nowNs).1.startPart = flow.startPart :=
    updateModel_start_off (by simp [hround])
  have hmeasured := ack_measured tp flow config sample nowNs
  have hlog : log.step config flow (.ack tp sample nowNs) =
      { log with measured := log.measured || decide (ackAccepts config flow tp sample) } := by
    rw [StartupLog.step]
    simp only [hround, Bool.false_eq_true, if_false, Bool.not_false, Bool.true_and]
  rw [hround, Bool.not_false, Bool.true_and, ← h.measured] at hmeasured
  rw [hlog]
  refine ⟨hmeasured.symm, ?_, ?_, fun hrun => ?_, fun hrun hquiet => ?_, h.room,
    ack_rates h.rates (le_comparable_iff.mpr hseen.1), ?_⟩
  · exact (congrArg StartPart.mode hstart).trans h.mode
  · exact (congrArg (fun p : StartPart => p.plateau.toNat) hstart).trans h.streak
  · exact (congrArg (fun p : StartPart => p.prior.toNat) hstart).trans (h.base hrun)
  · -- nothing measured yet: the sample of this ACK was not accepted either
    rw [Bool.or_eq_false_iff, decide_eq_false_iff_not] at hquiet
    have hshift : ackPart config flow sample = flow.bwPart := by
      rw [ackPart, hround]
      rfl
    calc (skylineUpdateModel tp flow config sample nowNs).1.bwBps
        = flow.bwBps := ack_bw_same hshift fun h => absurd h hquiet.2
      _ = flow.priorRoundBwBps := h.still hrun hquiet.1
      _ = (skylineUpdateModel tp flow config sample nowNs).1.priorRoundBwBps :=
          (congrArg StartPart.prior hstart).symm
  · exact (congrArg (fun p : StartPart => p.prior.toNat) hstart).le.trans h.prior

/-- The count at a round end in `STARTUP` is the streak. -/
lemma plateauAfter_toNat (hgrowth : 1000 + config.startupGrowthPermille.toNat < 2 ^ 32)
    (h : Plateau config (comparable config) flow log) (hrun : log.finished = false) {bw : UInt64}
    (hbw : bw.toNat ≤ comparable config) :
    (plateauAfter config (flow.roundRateBps != 0) bw flow.startPart).toNat =
      log.streakAfter config bw.toNat := by
  have hlt := config.startupPlateauRtts.toNat_lt
  have hzero : flow.priorRoundBwBps ≠ 0 ↔ log.base ≠ 0 := by
    rw [← h.base hrun]
    exact not_congr UInt64.toNat_inj.symm
  have hgrew := grew_iff hgrowth (le_comparable_iff.mp hbw) (le_comparable_iff.mp h.prior)
  rw [h.base hrun] at hgrew
  rw [plateauAfter, StartupLog.streakAfter, h.measured]
  cases flow.roundRateBps != 0 with
  | false => exact h.streak
  | true =>
      simp only [if_true]
      show (if flow.priorRoundBwBps ≠ 0 ∧ bw * 1000 < flow.priorRoundBwBps *
        (1000 + config.startupGrowthPermille).toUInt64 then flow.plateauRounds + 1 else 0).toNat = _
      by_cases hcount : log.base ≠ 0 ∧
          1000 * bw.toNat < (1000 + config.startupGrowthPermille.toNat) * log.base
      · rw [if_pos hcount, if_pos ⟨hzero.mpr hcount.1, hgrew.mpr hcount.2⟩, UInt32.toNat_add,
          h.streak, UInt32.toNat_one]
        have hroom := h.room hrun
        exact Nat.mod_eq_of_lt (by omega)
      · rw [if_neg hcount, if_neg fun hc => hcount ⟨hzero.mp hc.1, hgrew.mp hc.2⟩]
        rfl

/-- A round end after `STARTUP`. -/
lemma plateau_ack_cruise (hm2 : config.has featureAdaptiveCwnd = true)
    (h : Plateau config (comparable config) flow log)
    (hround : skylineRoundReached sample flow.nextRoundDelivered = true)
    (hfinished : log.finished = true)
    (hseen : GrowthSeen config flow (.ack tp sample nowNs)) :
    Plateau config (comparable config) (modelStep config flow (.ack tp sample nowNs))
      (log.step config flow (.ack tp sample nowNs)) := by
  have hmode : flow.mode = .cruise := by rw [h.mode, hfinished, if_pos rfl]
  have hrates : (skylineUpdateModel tp flow config sample nowNs).1.bwPart.Below
      (comparable config) := ack_rates h.rates (le_comparable_iff.mpr hseen.1)
  obtain ⟨hprior, hcruise, -⟩ := updateModel_start_on tp nowNs hround hm2
  have hmeasured := ack_measured tp flow config sample nowNs
  have hlog : log.step config flow (.ack tp sample nowNs) =
      { log with measured := decide (ackAccepts config flow tp sample) } := by
    rw [StartupLog.step]
    simp only [hround, if_true, StartupLog.endRound, hfinished, Bool.not_true, Bool.false_and,
      Bool.false_or]
  rw [hround, Bool.not_true, Bool.false_and, Bool.false_or] at hmeasured
  have hno : ∀ {P : Prop}, log.finished = false → P := fun hrun =>
    absurd (hfinished.symm.trans hrun) (by decide)
  rw [hlog]
  refine ⟨hmeasured.symm, ?_, ?_, hno, hno, hno, hrates, ?_⟩
  · rw [hfinished, if_pos rfl]
    exact (hcruise hmode).1
  · exact (congrArg UInt32.toNat (hcruise hmode).2).trans h.streak
  · exact (congrArg UInt64.toNat hprior).le.trans hrates.bw

/-- A round end in `STARTUP`. -/
lemma plateau_ack_startup (hm2 : config.has featureAdaptiveCwnd = true)
    (hgrowth : 1000 + config.startupGrowthPermille.toNat < 2 ^ 32)
    (h : Plateau config (comparable config) flow log)
    (hround : skylineRoundReached sample flow.nextRoundDelivered = true)
    (hrun : log.finished = false)
    (hseen : GrowthSeen config flow (.ack tp sample nowNs)) :
    Plateau config (comparable config) (modelStep config flow (.ack tp sample nowNs))
      (log.step config flow (.ack tp sample nowNs)) := by
  have hmode : flow.mode = .startup := by
    rw [h.mode, hrun]
    rfl
  have hrates : (skylineUpdateModel tp flow config sample nowNs).1.bwPart.Below
      (comparable config) := ack_rates h.rates (le_comparable_iff.mpr hseen.1)
  obtain ⟨hprior, -, hstartup⟩ := updateModel_start_on tp nowNs hround hm2
  obtain ⟨hcount, hnext⟩ := hstartup hmode
  have hmeasured := ack_measured tp flow config sample nowNs
  rw [hround, Bool.not_true, Bool.false_and, Bool.false_or] at hmeasured
  have hlog : log.step config flow (.ack tp sample nowNs) =
      { log.endRound config (modelStep config flow (.ack tp sample nowNs)).bwBps.toNat
          (modelStep config flow (.ack tp sample nowNs)).queueClamped with
        measured := decide (ackAccepts config flow tp sample) } := by
    rw [StartupLog.step]
    simp only [hround, if_true, Bool.not_true, Bool.false_and, Bool.false_or]
  rw [hlog, StartupLog.endRound, hrun]
  simp only [Bool.false_eq_true, if_false]
  have hflow' : modelStep config flow (.ack tp sample nowNs) =
    (skylineUpdateModel tp flow config sample nowNs).1 := rfl
  have hquiet : log.measured = false →
      (skylineUpdateModel tp flow config sample nowNs).1.bwBps = flow.bwBps :=
    ack_bw_unmeasured h hround fun hzero => hseen.2 hmode hround hzero
  rw [hflow']
  generalize (skylineUpdateModel tp flow config sample nowNs).1 = flow' at *
  have hstreak : flow'.plateauRounds.toNat = log.streakAfter config flow'.bwBps.toNat := by
    rw [hcount]
    exact plateauAfter_toNat hgrowth h hrun hrates.bw
  refine ⟨hmeasured.symm, ?_, hstreak, fun _ => ?_, fun _ _ => hprior.symm, fun hnot => ?_, hrates,
    ?_⟩
  · rw [hnext]
    simp only [ge_iff_le, UInt32.le_iff_toNat_le, hstreak, Bool.or_eq_true, decide_eq_true_eq]
  · -- an unmeasured round left the estimate, which was that of the last measured one
    rw [hprior]
    cases hold : log.measured with
    | true => rfl
    | false =>
        rw [hquiet hold, h.still hrun hold]
        exact h.base hrun
  · rw [Bool.or_eq_false_iff, decide_eq_false_iff_not] at hnot
    exact .inl (not_le.mp hnot.1)
  · exact (congrArg UInt64.toNat hprior).le.trans hrates.bw

end Ack

/-! ### Runs -/

/-- One event that meets the condition keeps the invariant. -/
lemma plateau_step {config : KernelConfig} (hm2 : config.has featureAdaptiveCwnd = true)
    (hgrowth : 1000 + config.startupGrowthPermille.toNat < 2 ^ 32) (s : FlowState × StartupLog)
    (e : ModelEvent) (hs : Plateau config (comparable config) s.1 s.2)
    (hseen : GrowthSeen config s.1 e) :
    Plateau config (comparable config) (startupStep config s e).1 (startupStep config s e).2 := by
  obtain ⟨flow, log⟩ := s
  cases e with
  | reset tp nowNs => exact plateau_reset config _ flow tp nowNs
  | rest cubic lastLossDelivered =>
      exact ⟨hs.measured, hs.mode, hs.streak, hs.base, hs.still, hs.room, hs.rates, hs.prior⟩
  | ack tp sample nowNs =>
      cases hround : skylineRoundReached sample flow.nextRoundDelivered with
      | false => exact plateau_ack_inside hs hround hseen
      | true =>
          cases hfinished : log.finished with
          | false => exact plateau_ack_startup hm2 hgrowth hs hround hfinished hseen
          | true => exact plateau_ack_cruise hm2 hs hround hfinished hseen

/-- Nothing but a reset leaves `CRUISE`. -/
lemma cruise_stays {config : KernelConfig} {flow : FlowState} (hmode : flow.mode = .cruise)
    {e : ModelEvent} (hkeep : ∀ tp nowNs, e ≠ .reset tp nowNs) :
    (modelStep config flow e).mode = .cruise := by
  cases e with
  | reset tp nowNs => exact absurd rfl (hkeep tp nowNs)
  | rest cubic lastLossDelivered => exact hmode
  | ack tp sample nowNs =>
      by_cases hend : skylineRoundReached sample flow.nextRoundDelivered = true ∧
          config.has featureAdaptiveCwnd = true
      · exact ((updateModel_start_on tp nowNs hend.1 hend.2).2.1 hmode).1
      · exact (congrArg StartPart.mode (updateModel_start_off hend)).trans hmode

/-- **`STARTUP` ends exactly on a plateau of measured rounds**, in every run from a reset
with M2 on whose ACKs meet `GrowthSeen`: the count is the streak, `CRUISE` is entered at the
first round end at which the streak is long enough or the guardrail has tripped, and it is
left by a reset only. -/
theorem startup_ends_on_plateau (config : KernelConfig)
    (hm2 : config.has featureAdaptiveCwnd = true)
    (hgrowth : 1000 + config.startupGrowthPermille.toNat < 2 ^ 32) (flow₀ : FlowState)
    (tp₀ : TcpSock) (now₀ : UInt64) (es : List ModelEvent)
    (hrun : Along (startupStep config) (fun s e => GrowthSeen config s.1 e)
      (skylineResetGeneration flow₀ tp₀ now₀, .fresh) es) :
    let s := es.foldl (startupStep config) (skylineResetGeneration flow₀ tp₀ now₀, .fresh)
    s.1.plateauRounds.toNat = s.2.streak ∧
    s.1.mode = (if s.2.finished then .cruise else .startup) ∧
    (s.1.mode = .cruise → ∀ e, (∀ tp nowNs, e ≠ .reset tp nowNs) →
      (modelStep config s.1 e).mode = .cruise) := by
  intro s
  have hs : Plateau config (comparable config) s.1 s.2 :=
    along_invariant (I := fun s : FlowState × StartupLog =>
        Plateau config (comparable config) s.1 s.2)
      (fun s e => plateau_step hm2 hgrowth s e) es _ (plateau_reset config _ flow₀ tp₀ now₀) hrun
  exact ⟨hs.streak, hs.mode, fun hcruise e hkeep => cruise_stays hcruise hkeep⟩

/-- The shipped configuration with a plateau of one round. -/
def oneRoundPlateau : KernelConfig := { KernelConfig.speeder with startupPlateauRtts := 1 }

/-- An ACK at `delivered` segments, with ten in flight, for a packet sent at
`priorDelivered`, whose sample spans 40 ms. -/
def startupAck (delivered priorDelivered : UInt32) (segments : Int32) (appLimited : Bool) :
    ModelEvent :=
  .ack { TcpSock.established with delivered := delivered, packetsOut := 10 }
    { RateSample.tenSegments with
      priorDelivered := priorDelivered, delivered := segments, isAppLimited := appLimited } 2000000

/-- Three rounds at one rate: the third is a plateau of one round, and `CRUISE` begins. -/
theorem startup_ends_after_flat_round :
    let s := [startupAck 11 1 10 true, startupAck 16 6 10 false, startupAck 31 21 10 false,
        startupAck 51 41 10 true].foldl (startupStep oneRoundPlateau)
      (skylineResetGeneration .zero .established 1000000, .fresh)
    s.1.plateauRounds.toNat = 1 ∧ s.1.mode = .cruise := by
  have h := startup_ends_on_plateau oneRoundPlateau (by decide) (by decide) .zero .established
    1000000 [startupAck 11 1 10 true, startupAck 16 6 10 false, startupAck 31 21 10 false,
      startupAck 51 41 10 true] (by decide +kernel)
  exact ⟨h.1.trans (by decide +kernel), h.2.1.trans (by decide +kernel)⟩

/-- **The growth that a round end hides.**  The fourth ACK ends a round in which nothing was
measured and doubles the estimate.  The round after it is compared with the doubled estimate,
not with that of the last measured round, and `STARTUP` ends although the path has shown
twice the rate. -/
theorem startup_ends_on_growth :
    let s := [startupAck 11 1 10 true, startupAck 16 6 10 false, startupAck 31 21 10 true,
        startupAck 61 41 20 false, startupAck 81 71 10 true].foldl (startupStep oneRoundPlateau)
      (skylineResetGeneration .zero .established 1000000, .fresh)
    s.1.plateauRounds.toNat = 1 ∧ s.2.streak = 0 ∧ s.1.mode = .cruise ∧ s.2.finished = false := by
  decide +kernel

end SkylineSpeeder
