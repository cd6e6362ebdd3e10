import SkylineSpeeder.Machine.Run
import SkylineSpeeder.Cc.Frame

/-!
The neutral baseline: with M2 and M4 off, nothing else in the configuration
beyond the two other path bits, the cap and the initial window reaches the
socket.

The path model runs on every ACK whatever the configuration, and fills the
state of the connection from knobs that may differ.  What the window and the
rate of such a connection are computed from is the CUBIC group of its state,
which the model never writes.

* `Neutral`: two configurations that both have M2 and M4 off and agree on what is
  left;
* `FlowAlike`, `SockAlike`: two connections with the same CUBIC group and round
  mark;
* one lemma for each function of the program that reads the configuration: alike
  connections get the same socket and stay alike;
* `neutral_noninterference`: the kernel sees the same socket and the same results
  after every callback.
-/

namespace SkylineSpeeder

open Machine

/-! ### Alike configurations and connections -/

/-- Two configurations with M2 and M4 off that agree on PRR, auto pacing, the cap and
the initial window. -/
structure Neutral (a b : KernelConfig) : Prop where
  abi : a.abiVersion = b.abiVersion
  adaptive_left : a.has featureAdaptiveCwnd = false
  adaptive_right : b.has featureAdaptiveCwnd = false
  pacing_left : a.has featurePacing = false
  pacing_right : b.has featurePacing = false
  prr : a.has featurePrr = b.has featurePrr
  autoPacing : a.has featureAutoPacing = b.has featureAutoPacing
  maxCwnd : a.maxCwndPackets = b.maxCwndPackets
  initialCwnd : a.initialCwndPackets = b.initialCwndPackets

lemma neutral_zero : Neutral KernelConfig.zero KernelConfig.zero := by
  constructor <;> decide

/-- Neither M2 nor M4: the test that guards `skyline_mark_app_limited`. -/
lemma has_or_eq_false {config : KernelConfig} {bit bit' : UInt32} (h : config.has bit = false)
    (h' : config.has bit' = false) : config.has (bit ||| bit') = false := by
  simp only [KernelConfig.has, bne_eq_false_iff_eq] at h h' ⊢
  rw [← UInt32.toBitVec_inj] at h h' ⊢
  simp only [UInt32.toBitVec_and, UInt32.toBitVec_or] at h h' ⊢
  rw [BitVec.and_or_distrib_left, h, h']
  rfl

/-- The states of two connections that the socket cannot tell apart. -/
structure FlowAlike (f g : FlowState) : Prop where
  config : Neutral f.config g.config
  seq : f.configSeq = g.configSeq
  round : f.nextRoundDelivered = g.nextRoundDelivered
  cubic : f.toFlowCubic = g.toFlowCubic

lemma flowAlike_zero : FlowAlike FlowState.zero FlowState.zero :=
  ⟨neutral_zero, rfl, rfl, rfl⟩

/-- The same socket, with alike storage. -/
structure SockAlike (s t : SockState) : Prop where
  sk : s.sk = t.sk
  storage : Option.Rel FlowAlike s.storage t.storage

/-- Two reads of shared memory that find the one published configuration of their
run under the same number, or that are both refused. -/
inductive ReadAlike (a b : KernelConfig) : ConfigRead → ConfigRead → Prop
  | published (seq : UInt32) : ReadAlike a b (.of a seq) (.of b seq)
  | refused (r r' : ConfigRead) (h : (skylineAdoptConfig FlowState.zero r).2 = false)
      (h' : (skylineAdoptConfig FlowState.zero r').2 = false) : ReadAlike a b r r'

/-- The same callback with the same kernel inputs. -/
inductive CallbackAlike (a b : KernelConfig) : Callback → Callback → Prop
  | init (allocated : Bool) (nowNs : UInt64) {r r' : ConfigRead} (h : ReadAlike a b r r') :
      CallbackAlike a b (.init allocated r nowNs) (.init allocated r' nowNs)
  | congControl (allocated : Bool) (input : AckInput) {r r' : ConfigRead}
      (h : ReadAlike a b r r') :
      CallbackAlike a b (.congControl allocated { input with read := r })
        (.congControl allocated { input with read := r' })
  | quiet (callback : Callback) (h : callback.Quiet) : CallbackAlike a b callback callback

/-! ### Taking the configuration -/

section Adopt

variable {a b : KernelConfig} {f g : FlowState} {r r' : ConfigRead}

lemma FlowAlike.hasConfig (h : FlowAlike f g) : skylineHasConfig f = skylineHasConfig g := by
  rw [skylineHasConfig, skylineHasConfig, h.config.abi]

lemma FlowAlike.counted (h : FlowAlike f g) (c d : Bool) :
    FlowAlike { f with counted := c } { g with counted := d } :=
  ⟨h.config, h.seq, h.round, h.cubic⟩

lemma FlowAlike.adopt (h : FlowAlike f g) (hab : Neutral a b) (hr : ReadAlike a b r r') :
    (skylineAdoptConfig f r).2 = (skylineAdoptConfig g r').2 ∧
      FlowAlike (skylineAdoptConfig f r).1 (skylineAdoptConfig g r').1 := by
  cases hr with
  | published seq =>
      rw [skylineAdoptConfig, skylineAdoptConfig, ConfigRead.of, ConfigRead.of]
      dsimp only
      by_cases habi : a.abiVersion = abiVersion
      · have hok : ∀ config : KernelConfig, config.abiVersion = abiVersion →
            ¬ (seq ≠ seq ∨ config.abiVersion ≠ abiVersion) := by simp
        rw [if_neg (hok a habi), if_neg (hok b (hab.abi ▸ habi))]
        exact ⟨rfl, hab, rfl, h.round, h.cubic⟩
      · rw [if_pos (.inr habi), if_pos (.inr (hab.abi ▸ habi))]
        exact ⟨rfl, h⟩
  | refused _ _ hf hg =>
      rw [adoptConfig_snd _ f] at hf
      rw [adoptConfig_snd _ g] at hg
      rw [adoptConfig_false hf, adoptConfig_false hg]
      exact ⟨hf.trans hg.symm, h⟩

lemma FlowAlike.reset (h : FlowAlike f g) (sk : TcpSock) (nowNs : UInt64) :
    FlowAlike (skylineResetGeneration f sk nowNs) (skylineResetGeneration g sk nowNs) :=
  ⟨h.config, h.seq, rfl, rfl⟩

lemma flowGet_alike {x y : Option FlowState} (h : Option.Rel FlowAlike x y) (allocated : Bool) :
    (skylineFlowGet x allocated = none ∧ skylineFlowGet y allocated = none) ∨
      ∃ f g, skylineFlowGet x allocated = some f ∧ skylineFlowGet y allocated = some g ∧
        FlowAlike f g := by
  cases h with
  | some h => exact .inr ⟨_, _, rfl, rfl, h⟩
  | none =>
      cases allocated with
      | false => exact .inl ⟨rfl, rfl⟩
      | true => exact .inr ⟨_, _, rfl, rfl, flowAlike_zero⟩

end Adopt

/-! ### One ACK -/

section Ack

variable {f g : FlowState}

lemma FlowAlike.modelled (h : FlowAlike f g) (sk : TcpSock) (input : AckInput) :
    FlowAlike (modelled sk f input) (modelled sk g input) := by
  have hf := modelled_config sk f input
  have hg := modelled_config sk g input
  refine ⟨?_, ?_, ?_, ?_⟩
  · rw [congrArg FlowConfig.config hf, congrArg FlowConfig.config hg]
    exact h.config
  · rw [congrArg FlowConfig.configSeq hf, congrArg FlowConfig.configSeq hg]
    exact h.seq
  · rw [modelled_round, modelled_round, skylineNewRound, skylineNewRound, h.round]
    split_ifs
    · rfl
    · exact h.round
  · rw [modelled_cubic, modelled_cubic]
    exact h.cubic

/-- The rate is the kernel's own, or none. -/
lemma applyPacing_neutral {a b : KernelConfig} (hab : Neutral a b) (sk : TcpSock) :
    (skylineApplyPacing sk f a).1 = (skylineApplyPacing sk g b).1 := by
  simp only [skylineApplyPacing, hab.pacing_left, hab.pacing_right, hab.autoPacing,
    Bool.not_false, if_true]

/-- The reduction reads the CUBIC group only. -/
lemma applyPrr_alike (h : f.toFlowCubic = g.toFlowCubic) (sk : TcpSock) (sample : RateSample)
    (flag : UInt32) :
    (skylineApplyPrr sk f sample flag).1 = (skylineApplyPrr sk g sample flag).1 ∧
      (skylineApplyPrr sk f sample flag).2.1.toFlowCubic =
        (skylineApplyPrr sk g sample flag).2.1.toFlowCubic := by
  obtain ⟨fc, fp, cubic⟩ := f
  obtain ⟨gc, gp, cubic'⟩ := g
  obtain rfl : cubic = cubic' := h
  rw [skylineApplyPrr, skylineApplyPrr]
  split
  · exact ⟨rfl, rfl⟩
  · exact ⟨rfl, rfl⟩

/-- So does the start of a growth epoch. -/
lemma startEpoch_alike (h : f.toFlowCubic = g.toFlowCubic) (cwnd : UInt32) (nowNs : UInt64) :
    (startEpoch f cwnd nowNs).toFlowCubic = (startEpoch g cwnd nowNs).toFlowCubic := by
  obtain ⟨fc, fp, cubic⟩ := f
  obtain ⟨gc, gp, cubic'⟩ := g
  obtain rfl : cubic = cubic' := h
  rw [startEpoch, startEpoch]
  split
  · rfl
  · rfl

lemma cubicTarget_alike (h : f.toFlowCubic = g.toFlowCubic) (cwnd : UInt32) (nowNs : UInt64) :
    (skylineCubicTarget f cwnd nowNs).2 = (skylineCubicTarget g cwnd nowNs).2 ∧
      (skylineCubicTarget f cwnd nowNs).1.toFlowCubic =
        (skylineCubicTarget g cwnd nowNs).1.toFlowCubic := by
  have hepoch := startEpoch_alike h cwnd nowNs
  refine ⟨?_, hepoch⟩
  simp only [skylineCubicTarget]
  rw [show (startEpoch f cwnd nowNs).epochStartNs = (startEpoch g cwnd nowNs).epochStartNs from
      congrArg FlowCubic.epochStartNs hepoch,
    show (startEpoch f cwnd nowNs).epochKMs = (startEpoch g cwnd nowNs).epochKMs from
      congrArg FlowCubic.epochKMs hepoch,
    show (startEpoch f cwnd nowNs).wMax = (startEpoch g cwnd nowNs).wMax from
      congrArg FlowCubic.wMax hepoch]

lemma updateFriendly_alike (h : f.toFlowCubic = g.toFlowCubic) (sk : TcpSock) (fresh : Bool)
    (acked : UInt32) :
    (updateFriendly sk f fresh acked).toFlowCubic =
      (updateFriendly sk g fresh acked).toFlowCubic := by
  obtain ⟨fc, fp, cubic⟩ := f
  obtain ⟨gc, gp, cubic'⟩ := g
  obtain rfl : cubic = cubic' := h
  rw [updateFriendly, updateFriendly]
  cases fresh with
  | false =>
      simp only [Bool.false_eq_true, if_false]
      split
      · rfl
      · rfl
  | true =>
      simp only [if_true]
      split
      · rfl
      · rfl

lemma growAvoid_alike (h : f.toFlowCubic = g.toFlowCubic) {a b : KernelConfig}
    (hab : a.maxCwndPackets = b.maxCwndPackets) (K : Kernel) (sk : TcpSock) (acked : UInt32)
    (nowNs : UInt64) :
    (growAvoid K sk f a acked nowNs).1 = (growAvoid K sk g b acked nowNs).1 ∧
      (growAvoid K sk f a acked nowNs).2.toFlowCubic =
        (growAvoid K sk g b acked nowNs).2.toFlowCubic := by
  obtain ⟨htarget, hcubic⟩ := cubicTarget_alike h sk.sndCwnd nowNs
  have hfresh : f.epochStartNs = g.epochStartNs := congrArg FlowCubic.epochStartNs h
  have hfriendly := updateFriendly_alike hcubic sk (g.epochStartNs == 0) acked
  simp only [growAvoid, hfresh, htarget, hab]
  refine ⟨?_, hfriendly⟩
  rw [growWeight, growWeight]
  rw [show (updateFriendly sk (skylineCubicTarget f sk.sndCwnd nowNs).1 (g.epochStartNs == 0)
      acked).tcpCwnd = (updateFriendly sk (skylineCubicTarget g sk.sndCwnd nowNs).1
      (g.epochStartNs == 0) acked).tcpCwnd from congrArg FlowCubic.tcpCwnd hfriendly]

/-- So does the growth, with the cap. -/
lemma growCwnd_alike (h : f.toFlowCubic = g.toFlowCubic) {a b : KernelConfig}
    (hab : a.maxCwndPackets = b.maxCwndPackets) (K : Kernel) (sk : TcpSock) (acked : UInt32)
    (nowNs : UInt64) :
    (skylineGrowCwnd K sk f a acked nowNs).1 = (skylineGrowCwnd K sk g b acked nowNs).1 ∧
      (skylineGrowCwnd K sk f a acked nowNs).2.toFlowCubic =
        (skylineGrowCwnd K sk g b acked nowNs).2.toFlowCubic := by
  have havoid := fun sk acked => growAvoid_alike h hab K sk acked nowNs
  rw [skylineGrowCwnd, skylineGrowCwnd, hab]
  by_cases hacked : acked = 0
  · rw [if_pos hacked, if_pos hacked]
    exact ⟨rfl, h⟩
  rw [if_neg hacked, if_neg hacked]
  cases hlimited : skylineCwndLimited sk with
  | false => exact ⟨rfl, h⟩
  | true =>
      simp only [Bool.not_true, Bool.false_eq_true, if_false]
      by_cases hslow : sk.sndCwnd < sk.sndSsthresh
      · rw [if_pos hslow, if_pos hslow]
        split
        · exact ⟨rfl, h⟩
        · exact havoid _ _
      · rw [if_neg hslow, if_neg hslow]
        exact havoid _ _

/-- Without M2 the window is the same. -/
lemma FlowAlike.setWindow (h : FlowAlike f g) (K : Kernel) (sk : TcpSock) (input : AckInput) :
    (setWindow K sk f input).1 = (setWindow K sk g input).1 ∧
      FlowAlike (setWindow K sk f input).2.1 (setWindow K sk g input).2.1 := by
  have hf := setWindow_frame K sk f input
  have hg := setWindow_frame K sk g input
  have hsame : (SkylineSpeeder.setWindow K sk f input).1 =
        (SkylineSpeeder.setWindow K sk g input).1 ∧
      (SkylineSpeeder.setWindow K sk f input).2.1.toFlowCubic =
        (SkylineSpeeder.setWindow K sk g input).2.1.toFlowCubic := by
    simp only [SkylineSpeeder.setWindow, h.config.adaptive_left, h.config.adaptive_right,
      h.config.prr, Bool.false_eq_true, if_false]
    by_cases hca : sk.icskCaState = .cwr ∨ sk.icskCaState = .recovery
    · rw [if_pos hca, if_pos hca]
      split
      · exact applyPrr_alike h.cubic sk input.sample input.flag
      · exact ⟨rfl, h.cubic⟩
    · rw [if_neg hca, if_neg hca]
      exact growCwnd_alike h.cubic h.config.maxCwnd K sk input.sample.ackedSacked input.growNs
  refine ⟨hsame.1, ?_, ?_, ?_, hsame.2⟩
  · rw [congrArg FlowConfig.config hf.config, congrArg FlowConfig.config hg.config]
    exact h.config
  · rw [congrArg FlowConfig.configSeq hf.config, congrArg FlowConfig.configSeq hg.config]
    exact h.seq
  · rw [congrArg FlowPath.nextRoundDelivered hf.path, congrArg FlowPath.nextRoundDelivered hg.path]
    exact h.round

/-- The second part of `skyline_cong_control` on alike connections. -/
lemma FlowAlike.congControlRun (h : FlowAlike f g) (K : Kernel) (sk : TcpSock)
    (input : AckInput) :
    (congControlRun K sk f input).1 = (congControlRun K sk g input).1 ∧
      FlowAlike (congControlRun K sk f input).2.1 (congControlRun K sk g input).2.1 := by
  have hmodel := h.modelled sk input
  have hpacing : (skylineApplyPacing sk (SkylineSpeeder.modelled sk f input) f.config).1 =
      (skylineApplyPacing sk (SkylineSpeeder.modelled sk g input) g.config).1 :=
    applyPacing_neutral h.config sk
  obtain ⟨hwindow, hflow⟩ := hmodel.setWindow K
    (skylineApplyPacing sk (SkylineSpeeder.modelled sk g input) g.config).1 input
  have hlimited : ∀ config : KernelConfig, config.has featureAdaptiveCwnd = false →
      config.has featurePacing = false →
      config.has (featureAdaptiveCwnd ||| featurePacing) = false :=
    fun _ => has_or_eq_false
  rw [congControlRun_sock, congControlRun_sock, congControlRun_flow, congControlRun_flow, hpacing,
    hlimited _ h.config.adaptive_left h.config.pacing_left,
    hlimited _ h.config.adaptive_right h.config.pacing_right]
  exact ⟨hwindow, hflow⟩

end Ack

/-! ### Every callback -/

section Callbacks

variable {s t : SockState} {a b : KernelConfig}

/-- The same socket with alike storage. -/
lemma sockAlike_some {sk sk' : TcpSock} {f g : FlowState} (hsk : sk = sk') (h : FlowAlike f g) :
    SockAlike ⟨sk, some f⟩ ⟨sk', some g⟩ :=
  ⟨hsk, .some h⟩

lemma SockAlike.init (h : SockAlike s t) (hab : Neutral a b) (allocated : Bool)
    {r r' : ConfigRead} (hr : ReadAlike a b r r') (nowNs : UInt64) :
    SockAlike (skylineInit s allocated r nowNs).1 (skylineInit t allocated r' nowNs).1 := by
  obtain ⟨sk, x⟩ := s
  obtain ⟨sk', y⟩ := t
  obtain rfl : sk = sk' := h.sk
  rw [skylineInit, skylineInit]
  obtain ⟨hx, hy⟩ | ⟨f, g, hx, hy, hflow⟩ := flowGet_alike h.storage allocated
  · rw [hx, hy]
    exact h
  · obtain ⟨hok, htaken⟩ := (hflow.counted true true).adopt hab hr
    rw [hx, hy]
    dsimp only
    rw [hok]
    cases (skylineAdoptConfig { g with counted := true } r').2 with
    | false => exact sockAlike_some rfl htaken
    | true =>
        simp only [Bool.not_true, Bool.false_eq_true, if_false, htaken.config.initialCwnd]
        exact sockAlike_some rfl (htaken.reset _ nowNs)

lemma FlowAlike.congControlAdopt {f g : FlowState} (h : FlowAlike f g) (hab : Neutral a b)
    (sk : TcpSock) (input : AckInput) {r r' : ConfigRead} (hr : ReadAlike a b r r') :
    (congControlAdopt sk f { input with read := r } = none ∧
        congControlAdopt sk g { input with read := r' } = none) ∨
      ∃ f' g' reports reports',
        congControlAdopt sk f { input with read := r } = some (f', reports) ∧
        congControlAdopt sk g { input with read := r' } = some (g', reports') ∧
        FlowAlike f' g' := by
  obtain ⟨hok, htaken⟩ := h.adopt hab hr
  rw [SkylineSpeeder.congControlAdopt, SkylineSpeeder.congControlAdopt, h.hasConfig, h.round, h.seq]
  dsimp only
  rw [hok]
  cases skylineHasConfig g with
  | false =>
      simp only [Bool.not_false, if_true]
      cases (skylineAdoptConfig g r').2 with
      | false => exact .inl ⟨rfl, rfl⟩
      | true => exact .inr ⟨_, _, _, _, rfl, rfl, htaken.reset sk input.resetNs⟩
  | true =>
      simp only [Bool.not_true, Bool.false_eq_true, if_false]
      split_ifs
      · exact .inr ⟨_, _, _, _, rfl, rfl, htaken.reset sk input.resetNs⟩
      · exact .inr ⟨_, _, _, _, rfl, rfl, h⟩
      · exact .inr ⟨_, _, _, _, rfl, rfl, h⟩
      · exact .inr ⟨_, _, _, _, rfl, rfl, h⟩

lemma SockAlike.congControl (h : SockAlike s t) (hab : Neutral a b) (K : Kernel)
    (allocated : Bool) (input : AckInput) {r r' : ConfigRead} (hr : ReadAlike a b r r') :
    SockAlike (skylineCongControl K s allocated { input with read := r }).1
      (skylineCongControl K t allocated { input with read := r' }).1 := by
  obtain ⟨sk, x⟩ := s
  obtain ⟨sk', y⟩ := t
  obtain rfl : sk = sk' := h.sk
  rw [skylineCongControl, skylineCongControl]
  obtain ⟨hx, hy⟩ | ⟨f, g, hx, hy, hflow⟩ := flowGet_alike h.storage allocated
  · rw [hx, hy]
    exact h
  · rw [hx, hy]
    dsimp only
    obtain ⟨hf, hg⟩ | ⟨f', g', _, _, hf, hg, hadopt⟩ := hflow.congControlAdopt hab sk input hr
    · rw [hf, hg]
      exact sockAlike_some rfl hflow
    · rw [hf, hg]
      obtain ⟨hsk, hrun⟩ := hadopt.congControlRun K sk { input with read := r' }
      exact sockAlike_some hsk hrun

lemma SockAlike.ssthresh (h : SockAlike s t) (allocated : Bool) :
    SockAlike (skylineSsthresh s allocated).1 (skylineSsthresh t allocated).1 ∧
      (skylineSsthresh s allocated).2 = (skylineSsthresh t allocated).2 := by
  obtain ⟨sk, x⟩ := s
  obtain ⟨sk', y⟩ := t
  obtain rfl : sk = sk' := h.sk
  rw [skylineSsthresh, skylineSsthresh]
  obtain ⟨hx, hy⟩ | ⟨f, g, hx, hy, hflow⟩ := flowGet_alike h.storage allocated
  · rw [hx, hy]
    exact ⟨h, rfl⟩
  · rw [hx, hy]
    dsimp only
    rw [hflow.hasConfig, hflow.config.adaptive_left, hflow.config.adaptive_right]
    obtain ⟨hconfig, hseq, hround, hcubic⟩ := hflow
    cases skylineHasConfig g with
    | false => exact ⟨sockAlike_some rfl ⟨hconfig, hseq, hround, hcubic⟩, rfl⟩
    | true =>
        refine ⟨sockAlike_some rfl ⟨hconfig, hseq, hround, ?_⟩, rfl⟩
        show ({ f.toFlowCubic with
            priorCwnd := sk.sndCwnd, wMax := sk.sndCwnd, epochStartNs := 0 } : FlowCubic) = _
        rw [hcubic]

lemma SockAlike.undoCwnd (h : SockAlike s t) (K : Kernel) (allocated : Bool) :
    SockAlike (skylineUndoCwnd K s allocated).1 (skylineUndoCwnd K t allocated).1 ∧
      (skylineUndoCwnd K s allocated).2.1 = (skylineUndoCwnd K t allocated).2.1 := by
  obtain ⟨sk, x⟩ := s
  obtain ⟨sk', y⟩ := t
  obtain rfl : sk = sk' := h.sk
  rw [skylineUndoCwnd, skylineUndoCwnd]
  obtain ⟨hx, hy⟩ | ⟨f, g, hx, hy, hflow⟩ := flowGet_alike h.storage allocated
  · rw [hx, hy]
    exact ⟨h, rfl⟩
  · rw [hx, hy]
    dsimp only
    rw [show f.priorCwnd = g.priorCwnd from congrArg FlowCubic.priorCwnd hflow.cubic]
    exact ⟨sockAlike_some rfl hflow, rfl⟩

/-- The CUBIC group moved in the same way. -/
lemma FlowAlike.mapCubic {f g : FlowState} (h : FlowAlike f g) (m : FlowCubic → FlowCubic) :
    FlowAlike { f with toFlowCubic := m f.toFlowCubic } { g with toFlowCubic := m g.toFlowCubic } :=
  ⟨h.config, h.seq, h.round, congrArg m h.cubic⟩

/-- The end of a reduction, which both connections see or neither. -/
lemma FlowAlike.endReduction {f g : FlowState} (h : FlowAlike f g) (sk : TcpSock)
    (x y : Option FlowState) : SockAlike (endReduction ⟨sk, x⟩ f) (endReduction ⟨sk, y⟩ g) := by
  have hactive : f.recoveryActive = g.recoveryActive :=
    congrArg FlowCubic.recoveryActive h.cubic
  have hover := h.mapCubic fun c => { c with recoveryActive := false }
  simp only [SkylineSpeeder.endReduction, hactive, h.config.adaptive_left, h.config.adaptive_right]
  cases g.recoveryActive with
  | false => exact sockAlike_some rfl h
  | true =>
      simp only [Bool.not_true, Bool.false_eq_true, if_false, hover.hasConfig]
      split
      · exact sockAlike_some rfl hover
      · exact sockAlike_some rfl hover

lemma SockAlike.setState (h : SockAlike s t) (allocated : Bool) (newState : CaState) :
    SockAlike (skylineSetState s allocated newState) (skylineSetState t allocated newState) := by
  obtain ⟨sk, x⟩ := s
  obtain ⟨sk', y⟩ := t
  obtain rfl : sk = sk' := h.sk
  rw [skylineSetState, skylineSetState]
  obtain ⟨hx, hy⟩ | ⟨f, g, hx, hy, hflow⟩ := flowGet_alike h.storage allocated
  · rw [hx, hy]
    exact h
  · rw [hx, hy]
    cases newState with
    | loss => exact sockAlike_some rfl (hflow.mapCubic fun c => { c with recoveryActive := true })
    | recovery =>
        exact sockAlike_some rfl
          (hflow.mapCubic fun c => { c with prrDelivered := 0, recoveryActive := true })
    | cwr =>
        exact sockAlike_some rfl
          (hflow.mapCubic fun c => { c with prrDelivered := 0, recoveryActive := true })
    | opened => exact hflow.endReduction sk x y
    | disorder => exact hflow.endReduction sk x y

lemma SockAlike.txStart (h : SockAlike s t) (allocated : Bool) (nowNs : UInt64) :
    SockAlike (skylineTxStart s allocated nowNs) (skylineTxStart t allocated nowNs) := by
  obtain ⟨sk, x⟩ := s
  obtain ⟨sk', y⟩ := t
  obtain rfl : sk = sk' := h.sk
  rw [skylineTxStart, skylineTxStart]
  obtain ⟨hx, hy⟩ | ⟨f, g, hx, hy, hflow⟩ := flowGet_alike h.storage allocated
  · rw [hx, hy]
    exact h
  · rw [hx, hy]
    exact sockAlike_some rfl (hflow.mapCubic fun c => { c with epochStartNs := nowNs })

lemma SockAlike.release (h : SockAlike s t) :
    SockAlike (skylineRelease s).1 (skylineRelease t).1 := by
  obtain ⟨sk, x⟩ := s
  obtain ⟨sk', y⟩ := t
  obtain rfl : sk = sk' := h.sk
  obtain ⟨-, hstorage⟩ := h
  cases hstorage with
  | none => exact ⟨rfl, .none⟩
  | @some f g hflow =>
      simp only [skylineRelease]
      cases f.counted <;> cases g.counted
      all_goals exact sockAlike_some rfl (hflow.counted _ _)

/-- Whatever the callback, alike connections stay alike and the kernel gets the
same result. -/
lemma SockAlike.exec (h : SockAlike s t) (hab : Neutral a b) (K : Kernel) {c c' : Callback}
    (hc : CallbackAlike a b c c') :
    SockAlike (c.exec K s).state (c'.exec K t).state ∧
      (c.exec K s).result = (c'.exec K t).result := by
  have hclear : SockAlike { s with sk := { s.sk with cwndStored := false } }
      { t with sk := { t.sk with cwndStored := false } } := ⟨by rw [h.sk], h.storage⟩
  cases hc with
  | init allocated nowNs hr => exact ⟨hclear.init hab allocated hr nowNs, rfl⟩
  | congControl allocated input hr => exact ⟨hclear.congControl hab K allocated input hr, rfl⟩
  | quiet _ hq =>
      cases c with
      | init => exact hq.elim
      | congControl => exact hq.elim
      | ssthresh allocated =>
          obtain ⟨hs, hres⟩ := hclear.ssthresh allocated
          exact ⟨hs, congrArg some hres⟩
      | undoCwnd allocated =>
          obtain ⟨hs, hres⟩ := hclear.undoCwnd K allocated
          exact ⟨hs, congrArg some hres⟩
      | setState allocated newState => exact ⟨hclear.setState allocated newState, rfl⟩
      | cwndEvent txStart allocated nowNs =>
          cases txStart with
          | false => exact ⟨hclear, rfl⟩
          | true => exact ⟨hclear.txStart allocated nowNs, rfl⟩
      | cwndEventTxStart allocated nowNs => exact ⟨hclear.txStart allocated nowNs, rfl⟩
      | release => exact ⟨hclear.release, rfl⟩

end Callbacks

/-! ### Whole runs -/

/-- One step of the two runs: how the kernel moves the socket on, given the result
of the last callback, and the next callback as each run gets it. -/
structure NeutralEvent where
  kernel : Option UInt32 → TcpSock → TcpSock
  left : Callback
  right : Callback

/-- A callback of one of the runs, on the socket the kernel hands over. -/
def neutralStep (K : Kernel) (side : NeutralEvent → Callback) (o : Outcome) (e : NeutralEvent) :
    Outcome :=
  (side e).exec K { o.state with sk := e.kernel o.result o.state.sk }

/-- What the kernel sees of a callback: the socket and the result. -/
def Outcome.visible (o : Outcome) : TcpSock × Option UInt32 := (o.state.sk, o.result)

/-- **Neutral-baseline noninterference.**  Two configurations with M2 and M4 off that
agree on PRR, auto pacing, the cap and the initial window, each the only one its
run ever sees published: from the same fresh socket, under the same kernel and
the same callbacks, the socket and the results are the same after every
callback. -/
theorem neutral_noninterference (K : Kernel) (a b : KernelConfig) (hab : Neutral a b)
    (sk : TcpSock) (es : List NeutralEvent)
    (hes : ∀ e ∈ es, CallbackAlike a b e.left e.right) :
    trace (neutralStep K NeutralEvent.left) Outcome.visible ⟨⟨sk, none⟩, none, []⟩ es =
      trace (neutralStep K NeutralEvent.right) Outcome.visible ⟨⟨sk, none⟩, none, []⟩ es := by
  refine trace_eq_of_sim
    (R := fun o o' => SockAlike o.state o'.state ∧ o.result = o'.result)
    (P := fun e => CallbackAlike a b e.left e.right) (fun o o' e ho he => ?_)
    (fun o o' ho => ?_) es _ _ ⟨⟨rfl, .none⟩, rfl⟩ hes
  · obtain ⟨hs, hres⟩ := ho
    have hkernel : SockAlike { o.state with sk := e.kernel o.result o.state.sk }
        { o'.state with sk := e.kernel o'.result o'.state.sk } :=
      ⟨by rw [hres, hs.sk], hs.storage⟩
    exact hkernel.exec hab K he
  · rw [Outcome.visible, Outcome.visible, ho.1.sk, ho.2]

/-- The shipped configuration with M2 and M4 off. -/
def neutralShipped : KernelConfig := { KernelConfig.speeder with featureMask := 53 }

/-- Another one with the same cap and initial window, M1 and M3 off as well and
different knobs throughout. -/
def neutralPlain : KernelConfig :=
  { neutralShipped with
    featureMask := 48, maxPacingBps := 0, maxQueueDelayUs := 0, bwWindowRtts := 1
    minRttWindowUs := 1000000, startupGainPermille := 1000, minCwndPackets := 4 }

/-- A connection through a reduction: slow start, a recovery episode with PRR and its
end. -/
def neutralRun : List NeutralEvent :=
  let same (kernel : Option UInt32 → TcpSock → TcpSock) (c : Callback) : NeutralEvent :=
    ⟨kernel, c, c⟩
  let ack (ca : CaState) : NeutralEvent :=
    ⟨fun _ sk => { sk with icskCaState := ca, srttUs := 320000, packetsOut := 90 },
      .congControl true (.of .tenSegments neutralShipped),
      .congControl true (.of .tenSegments neutralPlain)⟩
  [⟨fun _ => id, .init true (.of neutralShipped 1) 1000000,
      .init true (.of neutralPlain 1) 1000000⟩,
    ack .opened, same (fun _ => id) (.ssthresh true),
    same (fun result sk => { sk with sndSsthresh := result.getD 0 }) (.setState true .recovery),
    ack .recovery, same (fun _ => id) (.setState true .opened), ack .opened]

/-- The run is the same under both configurations, and its window does move. -/
theorem neutral_noninterference_reduction :
    trace (neutralStep Kernel.linux NeutralEvent.left) Outcome.visible
        ⟨⟨TcpSock.established, none⟩, none, []⟩ neutralRun =
      trace (neutralStep Kernel.linux NeutralEvent.right) Outcome.visible
        ⟨⟨TcpSock.established, none⟩, none, []⟩ neutralRun ∧
    (trace (neutralStep Kernel.linux NeutralEvent.left) (fun o => o.state.sk.sndCwnd)
        ⟨⟨TcpSock.established, none⟩, none, []⟩ neutralRun) = [100, 110, 110, 110, 97, 77, 77] := by
  refine ⟨neutral_noninterference Kernel.linux neutralShipped neutralPlain ?_ TcpSock.established
    neutralRun ?_, by decide +kernel⟩
  · constructor <;> decide
  · intro e he
    simp only [neutralRun, List.mem_cons, List.not_mem_nil, or_false] at he
    obtain rfl | rfl | rfl | rfl | rfl | rfl | rfl := he
    · exact .init true _ (.published 1)
    · exact .congControl true (.of .tenSegments neutralShipped) (.published 1)
    · exact .quiet _ trivial
    · exact .quiet _ trivial
    · exact .congControl true (.of .tenSegments neutralShipped) (.published 1)
    · exact .quiet _ trivial
    · exact .congControl true (.of .tenSegments neutralShipped) (.published 1)

end SkylineSpeeder
