import SkylineSpeeder.Cc.LossHistory
import SkylineSpeeder.Cc.Reduction

/-!
The loss estimate of a connection, `loss_rate_permille`, over every run.

* `LossPart`: the estimate and the two counters it was last moved at; `updateModel_loss`
  and `exec_loss` say what a callback does to them: start over, take the sample of a round
  that ended, or nothing;
* `LossConn`, `LossRoundEvent`, `lossConnStep`: a connection beside the number of segments
  lost and delivered since it opened, which the socket keeps modulo `2^32`;
* `lossRate_bounded_convergent`: as long as no round loses and delivers `2^32` segments the
  estimate is at most 1000, and a thousand rounds of one sample bring it to rest at most 3
  below that sample;
* `AtRound`, `AtRound.rounds`: a connection that loses a tenth in every round.
-/

namespace SkylineSpeeder

open Machine
open Word (smooth smoothGap)

/-! ### The estimate and its marks -/

/-- The fields of the loss estimate. -/
structure LossPart where
  rate : UInt32
  lastLost : UInt32
  lastDelivered : UInt32

/-- The fields of the loss estimate in a flow's path model. -/
def FlowPath.lossPart (p : FlowPath) : LossPart :=
  ⟨p.lossRatePermille, p.lastLost, p.lastLossRateDelivered⟩

namespace LossPart

/-- The estimate of a model started over. -/
def restart (tp : TcpSock) : LossPart := ⟨0, tp.lost, tp.delivered⟩

/-- The sample of the round that ends now, in permille. -/
def sample (p : LossPart) (tp : TcpSock) : UInt32 :=
  lossSample (tp.lost - p.lastLost) (tp.delivered - p.lastDelivered)

/-- The estimate at a round end. -/
def close (p : LossPart) (tp : TcpSock) : LossPart :=
  ⟨(p.rate * 3 + p.sample tp) / 4, tp.lost, tp.delivered⟩

end LossPart

section Stages

variable (tp : TcpSock) (flow : FlowState) (config : KernelConfig)

lemma updateLossRate_loss (newRound : Bool) :
    (updateLossRate tp newRound flow).lossPart =
      if newRound then flow.lossPart.close tp else flow.lossPart := by
  rw [updateLossRate]
  split_ifs <;> rfl

/-- **What `skyline_update_model` does to the loss estimate**: at a round end it takes the
sample of the round. -/
lemma updateModel_loss (sample : RateSample) (nowNs : UInt64) :
    (skylineUpdateModel tp flow config sample nowNs).1.lossPart =
      if (skylineNewRound tp flow sample).2 then flow.lossPart.close tp else flow.lossPart := by
  rw [updateModel_eq]
  dsimp only
  -- only one stage writes the fields of the estimate
  rw [updateGuardrail_view (fun f => f.lossPart) (fun _ _ _ => rfl) (fun _ _ _ _ => rfl),
    updateLossRate_loss, acceptSample_view (fun f => f.lossPart) (fun _ _ _ => rfl),
    updateBwWindow_view (fun f => f.lossPart) (fun _ _ _ _ => rfl),
    updateMinSrtt_view (fun f => f.lossPart) (fun _ _ _ => rfl),
    updateMinRtt_view (fun f => f.lossPart) (fun _ _ _ => rfl),
    newRound_view (fun f => f.lossPart) (fun _ _ => rfl)]

end Stages

/-- The second part of `skyline_cong_control` moves the estimate with the model. -/
lemma congControlRun_loss (K : Kernel) (sk : TcpSock) (flow : FlowState) (input : AckInput) :
    (congControlRun K sk flow input).2.1.lossPart =
      if skylineRoundReached input.sample flow.nextRoundDelivered then flow.lossPart.close sk
      else flow.lossPart := by
  have hround : (skylineNewRound sk flow input.sample).2 =
      skylineRoundReached input.sample flow.nextRoundDelivered := by
    rw [skylineNewRound]
    split_ifs with h
    · exact h.symm
    · exact (Bool.eq_false_iff.mpr h).symm
  have hrecord : (modelled sk flow input).lossPart =
      (skylineUpdateModel sk flow flow.config input.sample input.modelNs).1.lossPart := by
    rw [modelled, recordLoss]
    split_ifs <;> rfl
  rw [congControlRun_flow, (setWindow_frame K _ _ input).path, hrecord, updateModel_loss, hround]

/-! ### One callback -/

/-- Whether a callback starts the model over. -/
def Callback.startsOver (s : SockState) : Callback → Bool
  | .init allocated read _ =>
      (skylineFlowGet s.storage allocated).isSome && (skylineAdoptConfig s.flow read).2
  | .congControl allocated input =>
      (skylineFlowGet s.storage allocated).isSome && adoptsNow s.flow input
  | _ => false

/-- The marks and the estimate a callback starts from. -/
def Callback.lossBase (s : SockState) (callback : Callback) : LossPart :=
  if callback.startsOver s then .restart s.sk else s.flow.lossPart

/-- Whether a callback takes the sample of a round that ended. -/
def Callback.closesRound (s : SockState) : Callback → Bool
  | .congControl allocated input =>
      (skylineFlowGet s.storage allocated).isSome &&
        (skylineHasConfig (taken s.sk s.flow input) &&
          skylineRoundReached input.sample (taken s.sk s.flow input).nextRoundDelivered)
  | _ => false

/-- The sample a callback takes, if it does. -/
def Callback.roundSample (s : SockState) (callback : Callback) : Option UInt32 :=
  if callback.closesRound s then some ((callback.lossBase s).sample s.sk) else none

/-- The estimate and its marks after a callback. -/
def Callback.lossAfter (s : SockState) (callback : Callback) : LossPart :=
  if callback.closesRound s then (callback.lossBase s).close s.sk else callback.lossBase s

lemma init_loss (s : SockState) (allocated : Bool) (read : ConfigRead) (nowNs : UInt64) :
    (skylineInit s allocated read nowNs).1.flow.lossPart =
      (Callback.init allocated read nowNs).lossAfter s := by
  have hsnd : (skylineAdoptConfig { s.flow with counted := true } read).2 =
      (skylineAdoptConfig s.flow read).2 := adoptConfig_snd _ _ read
  have hafter : (Callback.init allocated read nowNs).lossAfter s =
      if (skylineFlowGet s.storage allocated).isSome && (skylineAdoptConfig s.flow read).2 then
        .restart s.sk else s.flow.lossPart := rfl
  rw [hafter, skylineInit]
  obtain ⟨hget, -⟩ | hget := flowGet_cases s allocated
  · rw [hget]
    rfl
  · rw [hget, ← hsnd]
    dsimp only
    cases hread : (skylineAdoptConfig { s.flow with counted := true } read).2 with
    | false =>
        rw [adoptConfig_false hread]
        rfl
    | true =>
        simp only [Bool.not_true, Bool.false_eq_true, if_false, Option.isSome_some, Bool.and_self,
          if_true]
        split_ifs <;> rfl

lemma congControl_loss (K : Kernel) (s : SockState) (allocated : Bool) (input : AckInput) :
    (skylineCongControl K s allocated input).1.flow.lossPart =
      (Callback.congControl allocated input).lossAfter s := by
  obtain ⟨hget, -⟩ | hget := flowGet_cases s allocated
  · have hafter : (Callback.congControl allocated input).lossAfter s = s.flow.lossPart := by
      simp [Callback.lossAfter, Callback.lossBase, Callback.closesRound, Callback.startsOver, hget]
    rw [hafter, skylineCongControl, hget]
  -- the fields the second part starts from are those of the state it works on
  have hbase : (Callback.congControl allocated input).lossBase s =
      (taken s.sk s.flow input).lossPart := by
    rw [Callback.lossBase, Callback.startsOver, hget, taken]
    cases adoptsNow s.flow input <;> rfl
  rw [Callback.lossAfter, Callback.closesRound, hget, hbase, Option.isSome_some, Bool.true_and]
  obtain ⟨hno, hstorage, hnow⟩ | ⟨hhas, hstorage⟩ := congControl_storage K s allocated input hget
  · rw [hno, Bool.false_and, if_neg Bool.false_ne_true, flow_of_storage hstorage, taken, hnow,
      if_neg Bool.false_ne_true]
  · rw [hhas, Bool.true_and, flow_of_storage hstorage]
    exact congControlRun_loss K s.sk (taken s.sk s.flow input) input

/-- **One callback**: the loss estimate starts over, takes the sample of a round that ended,
or stays. -/
lemma exec_loss (K : Kernel) (callback : Callback) (s : SockState) :
    (callback.exec K s).state.flow.lossPart = callback.lossAfter s := by
  have hquiet : callback.Quiet → (callback.exec K s).state.flow.lossPart = s.flow.lossPart :=
    fun hq => congrArg FlowPath.lossPart (quietEffect K hq s).path
  cases callback with
  | init allocated read nowNs =>
      exact init_loss { s with sk := { s.sk with cwndStored := false } } allocated read nowNs
  | congControl allocated input =>
      exact congControl_loss K { s with sk := { s.sk with cwndStored := false } } allocated input
  | _ => exact hquiet trivial

/-! ### Runs -/

/-- A connection, the number of segments lost and delivered since it opened, and those
numbers at the last round end or reset. -/
structure LossConn where
  sock : SockState
  lost : ℕ
  delivered : ℕ
  lostMark : ℕ
  deliveredMark : ℕ

/-- A callback, and what the kernel did since the last one: segments lost and delivered, and
any other change of the socket. -/
structure LossRoundEvent where
  loses : ℕ
  delivers : ℕ
  kernel : TcpSock → TcpSock
  callback : Callback

/-- A socket no callback has seen: its storage will read as zero. -/
def LossConn.fresh (sk : TcpSock) (lost delivered : ℕ) : LossConn :=
  ⟨⟨sk, none⟩, lost, delivered, 0, 0⟩

namespace LossConn

/-- The socket as the callback finds it: the counters wrap. -/
def before (c : LossConn) (e : LossRoundEvent) : SockState :=
  { c.sock with
    sk := { e.kernel c.sock.sk with
      lost := UInt32.ofNat (c.lost + e.loses)
      delivered := UInt32.ofNat (c.delivered + e.delivers) } }

/-- The segments lost since the last round end or reset. -/
def roundLost (c : LossConn) (e : LossRoundEvent) : ℕ :=
  if e.callback.startsOver (c.before e) then 0 else c.lost + e.loses - c.lostMark

/-- The segments delivered since. -/
def roundDelivered (c : LossConn) (e : LossRoundEvent) : ℕ :=
  if e.callback.startsOver (c.before e) then 0 else c.delivered + e.delivers - c.deliveredMark

/-- Whether the callback sets the marks. -/
def marks (c : LossConn) (e : LossRoundEvent) : Bool :=
  e.callback.startsOver (c.before e) || e.callback.closesRound (c.before e)

end LossConn

/-- One callback. -/
def lossConnStep (K : Kernel) (c : LossConn) (e : LossRoundEvent) : LossConn where
  sock := (e.callback.exec K (c.before e)).state
  lost := c.lost + e.loses
  delivered := c.delivered + e.delivers
  lostMark := if c.marks e then c.lost + e.loses else c.lostMark
  deliveredMark := if c.marks e then c.delivered + e.delivers else c.deliveredMark

/-- A round that ends has lost and delivered less than `2^32` segments. -/
def RoundFits (c : LossConn) (e : LossRoundEvent) : Prop :=
  e.callback.closesRound (c.before e) = true → c.roundLost e + c.roundDelivered e < 2 ^ 32

instance (c : LossConn) (e : LossRoundEvent) : Decidable (RoundFits c e) := by
  unfold RoundFits
  infer_instance

/-! ### The bound -/

/-- The estimate is a share, and the flow's marks stand for the connection's. -/
structure Marked (c : LossConn) : Prop where
  rate : c.sock.flow.lossRatePermille.toNat ≤ 1000
  lost : c.sock.flow.lastLost = UInt32.ofNat c.lostMark
  delivered : c.sock.flow.lastLossRateDelivered = UInt32.ofNat c.deliveredMark
  lost_le : c.lostMark ≤ c.lost
  delivered_le : c.deliveredMark ≤ c.delivered

lemma marked_fresh (sk : TcpSock) (lost delivered : ℕ) : Marked (.fresh sk lost delivered) :=
  ⟨Nat.zero_le _, rfl, rfl, Nat.zero_le _, Nat.zero_le _⟩

/-- The difference of two wrapped counters that are less than `2^32` apart. -/
lemma toNat_ofNat_sub {m n : ℕ} (hle : m ≤ n) (hlt : n - m < 2 ^ 32) :
    (UInt32.ofNat n - UInt32.ofNat m).toNat = n - m := by
  rw [UInt32.toNat_sub, UInt32.toNat_ofNat', UInt32.toNat_ofNat']
  omega

/-- The estimate a callback starts from is a share. -/
lemma Marked.base {c : LossConn} (h : Marked c) (e : LossRoundEvent) :
    (e.callback.lossBase (c.before e)).rate.toNat ≤ 1000 := by
  rw [Callback.lossBase]
  split_ifs
  · exact Nat.zero_le _
  · exact h.rate

/-- So is the sample of a round that ends. -/
lemma Marked.sample {c : LossConn} (h : Marked c) {e : LossRoundEvent} (hfits : RoundFits c e)
    (hcloses : e.callback.closesRound (c.before e) = true) :
    ((e.callback.lossBase (c.before e)).sample (c.before e).sk).toNat ≤ 1000 := by
  have hbound := hfits hcloses
  refine lossSample_le_thousand ?_
  rw [LossConn.roundLost, LossConn.roundDelivered] at hbound
  rw [Callback.lossBase]
  split_ifs at hbound ⊢
  · simp [LossPart.restart]
  · have hlost : ((c.before e).sk.lost - c.sock.flow.lastLost).toNat =
        c.lost + e.loses - c.lostMark := by
      rw [h.lost]
      exact toNat_ofNat_sub (by have := h.lost_le; omega) (by omega)
    have hdelivered : ((c.before e).sk.delivered - c.sock.flow.lastLossRateDelivered).toNat =
        c.delivered + e.delivers - c.deliveredMark := by
      rw [h.delivered]
      exact toNat_ofNat_sub (by have := h.delivered_le; omega) (by omega)
    exact (congrArg₂ (· + ·) hlost hdelivered).trans_lt hbound

/-- The fields of the estimate after a callback. -/
lemma step_lossPart (K : Kernel) (c : LossConn) (e : LossRoundEvent) :
    (lossConnStep K c e).sock.flow.lossPart = e.callback.lossAfter (c.before e) :=
  exec_loss K e.callback (c.before e)

/-- The marks after a callback. -/
lemma lossAfter_marks (s : SockState) (callback : Callback) :
    (callback.lossAfter s).lastLost =
        (if callback.startsOver s || callback.closesRound s then s.sk.lost else s.flow.lastLost) ∧
      (callback.lossAfter s).lastDelivered =
        (if callback.startsOver s || callback.closesRound s then s.sk.delivered
          else s.flow.lastLossRateDelivered) := by
  rw [Callback.lossAfter, Callback.lossBase]
  cases callback.startsOver s <;> cases callback.closesRound s <;> exact ⟨rfl, rfl⟩

/-- The estimate after a callback, in permille. -/
lemma Marked.rate_step (K : Kernel) {c : LossConn} {e : LossRoundEvent} (h : Marked c)
    (hfits : RoundFits c e) :
    (lossConnStep K c e).sock.flow.lossRatePermille.toNat =
      if e.callback.closesRound (c.before e) then
        smooth 3 ((e.callback.lossBase (c.before e)).sample (c.before e).sk).toNat
          (e.callback.lossBase (c.before e)).rate.toNat
      else (e.callback.lossBase (c.before e)).rate.toNat := by
  have hrate : (lossConnStep K c e).sock.flow.lossRatePermille =
      (e.callback.lossAfter (c.before e)).rate := congrArg LossPart.rate (step_lossPart K c e)
  rw [hrate, Callback.lossAfter]
  split_ifs with hcloses
  · rw [LossPart.close, average_toNat (h.base e) (h.sample hfits hcloses), smooth, mul_comm]
  · rfl

/-- **The bound, one step**: a round that fits keeps the estimate a share. -/
lemma Marked.step (K : Kernel) {c : LossConn} {e : LossRoundEvent} (h : Marked c)
    (hfits : RoundFits c e) : Marked (lossConnStep K c e) := by
  have hpart := step_lossPart K c e
  obtain ⟨hlost, hdelivered⟩ := lossAfter_marks (c.before e) e.callback
  rw [← hpart] at hlost hdelivered
  have hlostLe := h.lost_le
  have hdeliveredLe := h.delivered_le
  refine ⟨?_, ?_, ?_, ?_, ?_⟩
  · rw [h.rate_step K hfits]
    split_ifs with hcloses
    · exact Word.smooth_le (h.sample hfits hcloses) (h.base e)
    · exact h.base e
  · refine hlost.trans ?_
    rw [lossConnStep, LossConn.marks, apply_ite UInt32.ofNat]
    exact congrArg _ h.lost
  · refine hdelivered.trans ?_
    rw [lossConnStep, LossConn.marks, apply_ite UInt32.ofNat]
    exact congrArg _ h.delivered
  · show (if c.marks e then c.lost + e.loses else c.lostMark) ≤ c.lost + e.loses
    split_ifs <;> omega
  · show (if c.marks e then c.delivered + e.delivers else c.deliveredMark) ≤
      c.delivered + e.delivers
    split_ifs <;> omega

/-! ### The limit -/

/-- The callback does not start the model over, and the sample it takes, if any, is `s`. -/
def Steady (s : UInt32) (c : LossConn) (e : LossRoundEvent) : Prop :=
  e.callback.startsOver (c.before e) = false ∧
    (e.callback.roundSample (c.before e) = none ∨ e.callback.roundSample (c.before e) = some s)

instance (s : UInt32) (c : LossConn) (e : LossRoundEvent) : Decidable (Steady s c e) := by
  unfold Steady
  infer_instance

/-- The number of rounds that end in a run. -/
def roundsIn (K : Kernel) : LossConn → List LossRoundEvent → ℕ
  | _, [] => 0
  | c, e :: es =>
      (if e.callback.closesRound (c.before e) then 1 else 0) + roundsIn K (lossConnStep K c e) es

/-- How far the estimate of a connection is from standing still at samples of `s`. -/
def lossGap (s : UInt32) (c : LossConn) : ℕ :=
  smoothGap 3 s.toNat c.sock.flow.lossRatePermille.toNat

section Limit

variable (K : Kernel) {s : UInt32}

/-- A round of the steady sample moves the estimate once; nothing else moves it. -/
lemma Marked.steady_step {c : LossConn} {e : LossRoundEvent} (h : Marked c)
    (hfits : RoundFits c e) (hsteady : Steady s c e) :
    (e.callback.closesRound (c.before e) = true → s.toNat ≤ 1000) ∧
    (lossConnStep K c e).sock.flow.lossRatePermille.toNat =
      if e.callback.closesRound (c.before e) then
        smooth 3 s.toNat c.sock.flow.lossRatePermille.toNat
      else c.sock.flow.lossRatePermille.toNat := by
  have hbase : e.callback.lossBase (c.before e) = c.sock.flow.lossPart := by
    rw [Callback.lossBase, hsteady.1]
    rfl
  have hsample : e.callback.closesRound (c.before e) = true →
      (e.callback.lossBase (c.before e)).sample (c.before e).sk = s := by
    intro hcloses
    have hor := hsteady.2
    rw [Callback.roundSample, if_pos hcloses] at hor
    simpa using hor
  refine ⟨fun hcloses => hsample hcloses ▸ h.sample hfits hcloses, ?_⟩
  rw [h.rate_step K hfits]
  split_ifs with hcloses
  · rw [hsample hcloses, hbase]
    rfl
  · rw [hbase]
    rfl

/-- Each such round closes the gap by at least one. -/
lemma Marked.gap_step {c : LossConn} {e : LossRoundEvent} (h : Marked c) (hfits : RoundFits c e)
    (hsteady : Steady s c e) :
    lossGap s (lossConnStep K c e) ≤
      lossGap s c - (if e.callback.closesRound (c.before e) then 1 else 0) := by
  rw [lossGap, (h.steady_step K hfits hsteady).2]
  split_ifs with hcloses
  · exact Word.smoothGap_smooth 3 s.toNat _
  · exact le_rfl

/-- And where there is none the estimate stands. -/
lemma Marked.rest_step {c : LossConn} {e : LossRoundEvent} (h : Marked c) (hfits : RoundFits c e)
    (hsteady : Steady s c e) (hrest : lossGap s c = 0) :
    (lossConnStep K c e).sock.flow.lossRatePermille.toNat =
      c.sock.flow.lossRatePermille.toNat := by
  rw [(h.steady_step K hfits hsteady).2]
  split_ifs with hcloses
  · exact Word.smooth_eq_self hrest
  · rfl

/-- Over a run the gap closes by the number of rounds. -/
lemma Marked.gap_run : ∀ (es : List LossRoundEvent) (c : LossConn), Marked c →
    Along (lossConnStep K) RoundFits c es → Along (lossConnStep K) (Steady s) c es →
    lossGap s (es.foldl (lossConnStep K) c) ≤ lossGap s c - roundsIn K c es := by
  intro es
  induction es with
  | nil => exact fun c _ _ _ => le_rfl
  | cons e es ih =>
      rintro c h ⟨hfits, hfits'⟩ ⟨hsteady, hsteady'⟩
      have hone := h.gap_step K hfits hsteady
      have hrest := ih _ (h.step K hfits) hfits' hsteady'
      rw [List.foldl_cons, roundsIn]
      omega

/-- Over a run from a gap of zero the estimate stands. -/
lemma Marked.rest_run : ∀ (es : List LossRoundEvent) (c : LossConn), Marked c →
    lossGap s c = 0 → Along (lossConnStep K) RoundFits c es →
    Along (lossConnStep K) (Steady s) c es →
    (es.foldl (lossConnStep K) c).sock.flow.lossRatePermille.toNat =
      c.sock.flow.lossRatePermille.toNat := by
  intro es
  induction es with
  | nil => exact fun c _ _ _ _ => rfl
  | cons e es ih =>
      rintro c h hgap ⟨hfits, hfits'⟩ ⟨hsteady, hsteady'⟩
      have hone := h.gap_step K hfits hsteady
      rw [List.foldl_cons, ih _ (h.step K hfits) (by omega) hfits' hsteady']
      exact h.rest_step K hfits hsteady hgap

/-- The steady sample of a run in which a round ends is a share. -/
lemma Marked.sample_le : ∀ (es : List LossRoundEvent) (c : LossConn), Marked c →
    Along (lossConnStep K) RoundFits c es → Along (lossConnStep K) (Steady s) c es →
    0 < roundsIn K c es → s.toNat ≤ 1000 := by
  intro es
  induction es with
  | nil => exact fun c _ _ _ hpos => absurd hpos (lt_irrefl 0)
  | cons e es ih =>
      rintro c h ⟨hfits, hfits'⟩ ⟨hsteady, hsteady'⟩ hpos
      by_cases hcloses : e.callback.closesRound (c.before e) = true
      · exact (h.steady_step K hfits hsteady).1 hcloses
      · rw [roundsIn, if_neg hcloses, Nat.zero_add] at hpos
        exact ih _ (h.step K hfits) hfits' hsteady' hpos

end Limit

/-- The divisor of `skyline_loss_inflation_permille`. -/
lemma inflation_divisor_ne_zero (rate : UInt32) (config : KernelConfig) :
    (1000 : UInt32) - compensated rate config ≠ 0 := by
  have hle := compensated_toNat rate config
  intro hzero
  have hnat := congrArg UInt32.toNat hzero
  rw [UInt32.toNat_sub_of_le] at hnat
  · rw [show (1000 : UInt32).toNat = 1000 from rfl, UInt32.toNat_zero] at hnat
    omega
  · rw [UInt32.le_iff_toNat_le, hle]
    show _ ≤ 1000
    omega

/-- **The loss estimate is bounded, safe and convergent** in every run, from a socket no
callback has seen, in which no round loses and delivers `2^32` segments.  The estimate is at
most 1000; the inflation divides by no zero and lies between 1000 and 2000, whatever the
configuration; and once a thousand rounds have brought the same sample `s`, the estimate
stays where it is, in `[s - 3, s]`, for as long as the samples do. -/
theorem lossRate_bounded_convergent (K : Kernel) (sk : TcpSock) (lost delivered : ℕ)
    (es : List LossRoundEvent)
    (hfits : Along (lossConnStep K) RoundFits (.fresh sk lost delivered) es) :
    (es.foldl (lossConnStep K) (.fresh sk lost delivered)).sock.flow.lossRatePermille.toNat ≤
        1000 ∧
    (∀ config : KernelConfig,
      let flow := (es.foldl (lossConnStep K) (.fresh sk lost delivered)).sock.flow
      (1000 : UInt32) - compensated flow.lossRatePermille config ≠ 0 ∧
        1000 ≤ (skylineLossInflationPermille flow config).toNat ∧
        (skylineLossInflationPermille flow config).toNat ≤ 2000) ∧
    ∀ (s : UInt32) (es₁ es₂ es₃ : List LossRoundEvent), es = es₁ ++ es₂ ++ es₃ →
      let c₁ := es₁.foldl (lossConnStep K) (.fresh sk lost delivered)
      let c₂ := es₂.foldl (lossConnStep K) c₁
      let c₃ := es₃.foldl (lossConnStep K) c₂
      Along (lossConnStep K) (Steady s) c₁ (es₂ ++ es₃) → 1000 ≤ roundsIn K c₁ es₂ →
        c₃.sock.flow.lossRatePermille.toNat = c₂.sock.flow.lossRatePermille.toNat ∧
          s.toNat - 3 ≤ c₃.sock.flow.lossRatePermille.toNat ∧
          c₃.sock.flow.lossRatePermille.toNat ≤ s.toNat := by
  have hrun : ∀ es c, Marked c → Along (lossConnStep K) RoundFits c es →
      Marked (es.foldl (lossConnStep K) c) :=
    along_invariant fun c e h hfits => h.step K hfits
  have hfresh := marked_fresh sk lost delivered
  refine ⟨(hrun es _ hfresh hfits).rate, fun config => ?_, ?_⟩
  · exact ⟨inflation_divisor_ne_zero _ config, one_le_inflation _ config,
      inflation_le_two _ config⟩
  intro s es₁ es₂ es₃ hes
  rw [hes, along_append, along_append] at hfits
  obtain ⟨⟨hfits₁, hfits₂⟩, hfits₃⟩ := hfits
  rw [List.foldl_append] at hfits₃
  intro c₁ c₂ c₃ hsteady hrounds
  obtain ⟨hsteady₂, hsteady₃⟩ := (along_append es₂ es₃ c₁).mp hsteady
  have h₁ : Marked c₁ := hrun es₁ _ hfresh hfits₁
  have h₂ : Marked c₂ := hrun es₂ _ h₁ hfits₂
  -- the gap is at most a thousand when the steady rounds begin
  have hs : s.toNat ≤ 1000 := Marked.sample_le K es₂ c₁ h₁ hfits₂ hsteady₂ (by omega)
  have hwide : lossGap s c₁ ≤ 1000 := by
    have hrate := h₁.rate
    rw [lossGap, smoothGap]
    omega
  have hclosed : lossGap s c₂ = 0 := by
    have hgap : lossGap s c₂ ≤ lossGap s c₁ - roundsIn K c₁ es₂ :=
      Marked.gap_run K es₂ c₁ h₁ hfits₂ hsteady₂
    omega
  have hstands : c₃.sock.flow.lossRatePermille.toNat = c₂.sock.flow.lossRatePermille.toNat :=
    Marked.rest_run K es₃ c₂ h₂ hclosed hfits₃ hsteady₃
  rw [lossGap, smoothGap] at hclosed
  exact ⟨hstands, by omega, by omega⟩

/-! ### A connection that loses a tenth -/

/-- The ACK that ends round `k`, of a packet that was sent when it began. -/
def tenthInput (k : ℕ) : AckInput :=
  .of { RateSample.tenSegments with priorDelivered := UInt32.ofNat (9 * k) } .speeder

/-- That ACK: of ten segments one was lost, and nothing is in flight. -/
def tenthLost (k : ℕ) : LossRoundEvent :=
  ⟨1, 9, fun sk => { sk with packetsOut := 0 }, .congControl true (tenthInput k)⟩

/-- A connection before the ACK that ends round `k`. -/
structure AtRound (k : ℕ) (c : LossConn) : Prop where
  marked : Marked c
  config : skylineHasConfig c.sock.flow = true
  seq : c.sock.flow.configSeq = 1
  next : c.sock.flow.nextRoundDelivered = (UInt32.ofNat (9 * k)).toUInt64
  lost : c.lost = k ∧ c.lostMark = k
  delivered : c.delivered = 9 * k ∧ c.deliveredMark = 9 * k

section TenthLost

variable {k : ℕ} {c : LossConn}

lemma AtRound.kept (h : AtRound k c) :
    adoptsNow c.sock.flow (tenthInput k) = false ∧
      taken (c.before (tenthLost k)).sk c.sock.flow (tenthInput k) = c.sock.flow := by
  have hadopts : adoptsNow c.sock.flow (tenthInput k) = false := by
    simp [adoptsNow, tenthInput, AckInput.of, h.config, h.seq]
  exact ⟨hadopts, by rw [taken, hadopts, if_neg Bool.false_ne_true]⟩

lemma AtRound.get (h : AtRound k c) : skylineFlowGet c.sock.storage true = some c.sock.flow := by
  obtain ⟨-, hnone⟩ | hget := flowGet_cases c.sock true
  · exact absurd (storage_of_hasConfig h.config) (by rw [hnone]; decide)
  · exact hget

lemma AtRound.reached (h : AtRound k c) :
    skylineRoundReached (tenthInput k).sample c.sock.flow.nextRoundDelivered = true := by
  have hprior : (tenthInput k).sample.priorDelivered = UInt32.ofNat (9 * k) := rfl
  have hstamp : (tenthInput k).sample.priorMstamp = 1000 := rfl
  rw [skylineRoundReached, h.next, UInt32.toUInt32_toUInt64, hprior, hstamp, UInt32.sub_self]
  decide

lemma AtRound.starts (h : AtRound k c) :
    (tenthLost k).callback.startsOver (c.before (tenthLost k)) = false := by
  have hdef : (tenthLost k).callback.startsOver (c.before (tenthLost k)) =
      ((skylineFlowGet c.sock.storage true).isSome && adoptsNow c.sock.flow (tenthInput k)) := rfl
  rw [hdef, h.kept.1, Bool.and_false]

lemma AtRound.closes (h : AtRound k c) :
    (tenthLost k).callback.closesRound (c.before (tenthLost k)) = true := by
  have hdef : (tenthLost k).callback.closesRound (c.before (tenthLost k)) =
      ((skylineFlowGet c.sock.storage true).isSome &&
        (skylineHasConfig (taken (c.before (tenthLost k)).sk c.sock.flow (tenthInput k)) &&
          skylineRoundReached (tenthInput k).sample
            (taken (c.before (tenthLost k)).sk c.sock.flow
              (tenthInput k)).nextRoundDelivered)) := rfl
  rw [hdef, h.kept.2, h.get, h.config, h.reached]
  rfl

lemma AtRound.fits (h : AtRound k c) : RoundFits c (tenthLost k) := by
  intro _
  have hlost : c.roundLost (tenthLost k) = 1 := by
    rw [LossConn.roundLost, h.starts, if_neg Bool.false_ne_true, h.lost.1, h.lost.2]
    exact Nat.add_sub_cancel_left ..
  have hdelivered : c.roundDelivered (tenthLost k) = 9 := by
    rw [LossConn.roundDelivered, h.starts, if_neg Bool.false_ne_true, h.delivered.1,
      h.delivered.2]
    exact Nat.add_sub_cancel_left ..
  rw [hlost, hdelivered]
  decide

/-- One segment of the ten of the round was lost. -/
lemma AtRound.steady (h : AtRound k c) : Steady 100 c (tenthLost k) := by
  refine ⟨h.starts, .inr ?_⟩
  have hlost : ((c.before (tenthLost k)).sk.lost - c.sock.flow.lastLost) = 1 := by
    rw [h.marked.lost, h.lost.2]
    refine UInt32.toNat_inj.mp ((toNat_ofNat_sub ?_ ?_).trans ?_)
    all_goals rw [h.lost.1]
    all_goals simp [tenthLost]
  have hdelivered :
      ((c.before (tenthLost k)).sk.delivered - c.sock.flow.lastLossRateDelivered) = 9 := by
    rw [h.marked.delivered, h.delivered.2]
    refine UInt32.toNat_inj.mp ((toNat_ofNat_sub ?_ ?_).trans ?_)
    all_goals rw [h.delivered.1]
    all_goals simp [tenthLost]
  have hpart : (c.before (tenthLost k)).flow.lossPart =
      ⟨c.sock.flow.lossRatePermille, c.sock.flow.lastLost,
        c.sock.flow.lastLossRateDelivered⟩ := rfl
  rw [Callback.roundSample, if_pos h.closes, Callback.lossBase, h.starts,
    if_neg Bool.false_ne_true, LossPart.sample, hpart]
  dsimp only
  rw [hlost, hdelivered]
  decide

/-- The next round begins. -/
lemma AtRound.step (K : Kernel) (h : AtRound k c) :
    AtRound (k + 1) (lossConnStep K c (tenthLost k)) := by
  have hmarks : c.marks (tenthLost k) = true := by
    rw [LossConn.marks, h.closes, Bool.or_true]
  -- the callback runs on a socket that no store has marked yet
  let s : SockState := { c.sock with
    sk := { (c.before (tenthLost k)).sk with cwndStored := false } }
  have hflow : (lossConnStep K c (tenthLost k)).sock.flow =
      (congControlRun K s.sk c.sock.flow (tenthInput k)).2.1 := by
    have htaken : taken s.sk s.flow (tenthInput k) = c.sock.flow := by
      rw [taken, show adoptsNow s.flow (tenthInput k) = false from h.kept.1,
        if_neg Bool.false_ne_true]
      rfl
    obtain ⟨hno, -⟩ | ⟨-, hstorage⟩ := congControl_storage K s true (tenthInput k) h.get
    · rw [htaken, h.config] at hno
      exact absurd hno (by decide)
    · rw [htaken] at hstorage
      exact flow_of_storage hstorage
  have hconfig := congControlRun_config K s.sk c.sock.flow (tenthInput k)
  have hround := congControlRun_round K s.sk c.sock.flow (tenthInput k)
  rw [← hflow] at hconfig hround
  refine ⟨h.marked.step K h.fits, ?_, ?_, ?_, ?_, ?_⟩
  · rw [skylineHasConfig, congrArg FlowConfig.config hconfig]
    exact h.config
  · rw [congrArg FlowConfig.configSeq hconfig]
    exact h.seq
  · rw [hround, skylineNewRound, if_pos h.reached]
    have hnow : s.sk.delivered = UInt32.ofNat (9 * (k + 1)) := congrArg UInt32.ofNat (by
      rw [h.delivered.1]
      rfl)
    have hout : s.sk.packetsOut = 0 := rfl
    dsimp only
    rw [hnow, hout, UInt32.add_zero]
  · rw [lossConnStep, hmarks, if_pos rfl, h.lost.1]
    exact ⟨rfl, rfl⟩
  · rw [lossConnStep, hmarks, if_pos rfl, h.delivered.1]
    exact ⟨rfl, rfl⟩

/-- `n` rounds from round `k` on. -/
def tenthRounds (k n : ℕ) : List LossRoundEvent := (List.range' k n).map tenthLost

lemma AtRound.rounds (K : Kernel) : ∀ (n : ℕ) {k : ℕ} {c : LossConn}, AtRound k c →
    Along (lossConnStep K) RoundFits c (tenthRounds k n) ∧
      Along (lossConnStep K) (Steady 100) c (tenthRounds k n) ∧
      roundsIn K c (tenthRounds k n) = n ∧
      AtRound (k + n) ((tenthRounds k n).foldl (lossConnStep K) c) := by
  intro n
  induction n with
  | zero => exact fun h => ⟨trivial, trivial, rfl, h⟩
  | succ n ih =>
      intro k c h
      obtain ⟨hfits, hsteady, hrounds, hend⟩ := ih (h.step K)
      have hcons : tenthRounds k (n + 1) = tenthLost k :: tenthRounds (k + 1) n := by
        rw [tenthRounds, List.range'_succ]
        rfl
      rw [hcons]
      refine ⟨⟨h.fits, hfits⟩, ⟨h.steady, hsteady⟩, ?_, ?_⟩
      · rw [roundsIn, if_pos h.closes, hrounds, Nat.add_comm]
      · rw [List.foldl_cons]
        exact (Nat.add_right_comm k n 1 ▸ hend : _)

end TenthLost

/-- The connection is opened. -/
def opened : LossRoundEvent := ⟨0, 0, id, .init true (.of .speeder 1) 1000⟩

lemma atRound_opened (K : Kernel) :
    RoundFits (.fresh .established 0 0) opened ∧
      AtRound 0 ([opened].foldl (lossConnStep K) (.fresh .established 0 0)) := by
  have hfits : RoundFits (.fresh .established 0 0) opened := fun h => absurd h (by decide)
  exact ⟨hfits, (marked_fresh _ 0 0).step K hfits, rfl, rfl, rfl, ⟨rfl, rfl⟩, rfl, rfl⟩

/-- A connection that opens and then loses a tenth in every round: after a thousand rounds the
estimate stands, between 97 and 100. -/
theorem lossRate_bounded_tenth :
    let c := (tenthRounds 0 1000).foldl (lossConnStep Kernel.linux)
      ([opened].foldl (lossConnStep Kernel.linux) (.fresh .established 0 0))
    let c' := (tenthRounds 1000 10).foldl (lossConnStep Kernel.linux) c
    c'.sock.flow.lossRatePermille.toNat = c.sock.flow.lossRatePermille.toNat ∧
      97 ≤ c'.sock.flow.lossRatePermille.toNat ∧
      c'.sock.flow.lossRatePermille.toNat ≤ 100 := by
  obtain ⟨hopen, hfirst⟩ := atRound_opened Kernel.linux
  obtain ⟨hfits, hsteady, hrounds, hmiddle⟩ := hfirst.rounds Kernel.linux 1000
  obtain ⟨hfits', hsteady', -, -⟩ := AtRound.rounds Kernel.linux 10 (k := 1000) hmiddle
  have hall : Along (lossConnStep Kernel.linux) RoundFits (.fresh .established 0 0)
      ([opened] ++ tenthRounds 0 1000 ++ tenthRounds 1000 10) := by
    rw [along_append, along_append, List.foldl_append]
    exact ⟨⟨⟨hopen, trivial⟩, hfits⟩, hfits'⟩
  have hlimit := (lossRate_bounded_convergent Kernel.linux .established 0 0 _ hall).2.2 100
    [opened] (tenthRounds 0 1000) (tenthRounds 1000 10) rfl
  exact hlimit ((along_append _ _ _).mpr ⟨hsteady, hsteady'⟩) hrounds.ge

end SkylineSpeeder
