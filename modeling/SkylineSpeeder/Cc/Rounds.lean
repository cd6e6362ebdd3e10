import SkylineSpeeder.Machine.Run
import SkylineSpeeder.Cc.Frame

/-!
Round counting: `skyline_round_reached` and `skyline_new_round`, which compare
32-bit counters that wrap, against the rule over counters that never do.

* `refRoundReached`: the reference rule, a timed ACK with `prior ≥ next`;
* `Conn`, `RoundEvent`, `roundStep`: a connection with its true packet count, in
  lockstep with the reference's round mark;
* `RoundBounds`: the distances the rule of half the range needs, at one ACK;
* `RoundInv`, `roundStep_inv`: the wrapped mark is the reference's, and neither
  side runs away from the other;
* `roundReached_eq_reference`: both end a round at the same ACKs, for ever.
-/

namespace SkylineSpeeder

open Machine

/-! ### The reference -/

/-- The reference rule: the ACK timed a packet that was sent when `prior` packets
had been delivered, and the round is to end at `next`. -/
def refRoundReached (sample : RateSample) (prior next : ℕ) : Bool :=
  sample.priorMstamp != 0 && decide (next ≤ prior)

/-- A connection beside the reference.  `delivered` is the number of packets
delivered so far, which `tp->delivered` holds modulo `2^32`; `next` is where the
reference ends the round; `mark` is `delivered` at the last timed ACK or reset. -/
structure Conn where
  sock : SockState
  delivered : ℕ
  next : ℕ
  mark : ℕ

/-- A callback, and what the kernel did since the last one: packets delivered,
any other change of the socket, and, for an ACK, how many had been delivered
when the packet it timed was sent. -/
structure RoundEvent where
  delivers : ℕ
  kernel : TcpSock → TcpSock
  prior : ℕ
  callback : Callback

/-- Packets delivered when the callback runs. -/
def Conn.total (c : Conn) (e : RoundEvent) : ℕ := c.delivered + e.delivers

/-- The socket as the callback finds it. -/
def Conn.before (c : Conn) (e : RoundEvent) : SockState :=
  { c.sock with
    sk := { e.kernel c.sock.sk with
      delivered := UInt32.ofNat (c.total e), cwndStored := false } }

/-- Whether the callback resets the model, `ended` being whether its ACK ends a
round. -/
def Callback.resets (s : SockState) (ended : Bool) : Callback → Bool
  | .init allocated read _ =>
      (skylineFlowGet s.storage allocated).any fun flow => (skylineAdoptConfig flow read).2
  | .congControl allocated input =>
      (skylineFlowGet s.storage allocated).any fun flow =>
        (skylineAdoptConfig flow input.read).2 && (!skylineHasConfig flow ||
          ended && decide (input.seqNow.isSome ∧ input.seqNow ≠ some flow.configSeq))
  | _ => false

/-- Whether the reference ends a round at this callback, its round being over at
`next`. -/
def RoundEvent.refEnds (e : RoundEvent) (next : ℕ) : Bool :=
  match e.callback with
  | .congControl _ input => refRoundReached input.sample e.prior next
  | _ => false

/-- The callback is an ACK that timed a packet. -/
def RoundEvent.timed (e : RoundEvent) : Bool :=
  match e.callback with
  | .congControl _ input => input.sample.priorMstamp != 0
  | _ => false

/-- Whether the reference sees a reset at this callback. -/
def Conn.refResets (c : Conn) (e : RoundEvent) : Bool :=
  e.callback.resets (c.before e) (e.refEnds c.next)

/-- The reference's mark once the reset, if there is one, has set it. -/
def Conn.nextAtTest (c : Conn) (e : RoundEvent) : ℕ :=
  if c.refResets e then c.total e else c.next

/-- One callback, of the program and of the reference. -/
def roundStep (K : Kernel) (c : Conn) (e : RoundEvent) : Conn where
  sock := (e.callback.exec K (c.before e)).state
  delivered := c.total e
  next := if e.refEnds (c.nextAtTest e) then c.total e + (c.before e).sk.packetsOut.toNat
    else c.nextAtTest e
  mark := if e.timed || c.refResets e then c.total e else c.mark

/-- The distances at a timed ACK: its sample carries `prior` modulo `2^32`, and both
what is outstanding and what was delivered since the mark stay below `2^30`. -/
def RoundBounds (c : Conn) (e : RoundEvent) : Prop :=
  match e.callback with
  | .congControl _ input =>
      input.sample.priorMstamp ≠ 0 →
        input.sample.priorDelivered = UInt32.ofNat e.prior ∧ e.prior ≤ c.total e ∧
          (c.total e - e.prior) + (c.before e).sk.packetsOut.toNat < 2 ^ 30 ∧
          c.total e - c.mark < 2 ^ 30
  | _ => True

instance (c : Conn) (e : RoundEvent) : Decidable (RoundBounds c e) :=
  match h : e.callback with
  | .congControl _ _ => decidable_of_iff _ (by rw [RoundBounds, h])
  | .init .. | .ssthresh .. | .undoCwnd .. | .setState .. | .cwndEvent ..
  | .cwndEventTxStart .. | .release => isTrue (by rw [RoundBounds, h]; trivial)

lemma RoundBounds.of_timed {c : Conn} {e : RoundEvent} {allocated : Bool} {input : AckInput}
    (hb : RoundBounds c e) (he : e.callback = .congControl allocated input)
    (htimed : input.sample.priorMstamp ≠ 0) :
    input.sample.priorDelivered = UInt32.ofNat e.prior ∧ e.prior ≤ c.total e ∧
      (c.total e - e.prior) + (c.before e).sk.packetsOut.toNat < 2 ^ 30 ∧
      c.total e - c.mark < 2 ^ 30 := by
  rw [RoundBounds, he] at hb
  exact hb htimed

/-! ### The invariant -/

/-- A mark of the program stands for a mark of the reference: equal modulo `2^32`. -/
def Stands (next : UInt64) (ref : ℕ) : Prop := next.toUInt32 = UInt32.ofNat ref

lemma stands_toUInt64 {x : UInt32} {n : ℕ} (h : x = UInt32.ofNat n) : Stands x.toUInt64 n := by
  rw [Stands, UInt32.toUInt32_toUInt64]
  exact h

/-- The program's mark stands for the reference's, which is near the last timed ACK
on both sides. -/
structure NearMark (next : UInt64) (ref mark delivered : ℕ) : Prop where
  stands : Stands next ref
  le_mark : ref ≤ mark + 2 ^ 30
  mark_lt : mark < ref + 2 ^ 30
  mark_le : mark ≤ delivered

/-- What holds between callbacks, once the connection has a configuration. -/
def RoundInv (c : Conn) : Prop :=
  skylineHasConfig c.sock.flow = true →
    NearMark c.sock.flow.nextRoundDelivered c.next c.mark c.delivered

/-- Less than half the range apart, the two rules agree. -/
lemma roundReached_eq {sample : RateSample} {next : UInt64} {prior ref : ℕ}
    (hnext : Stands next ref)
    (hnear : sample.priorMstamp ≠ 0 → sample.priorDelivered = UInt32.ofNat prior ∧
      prior < ref + 2 ^ 31 ∧ ref ≤ prior + 2 ^ 31) :
    skylineRoundReached sample next = refRoundReached sample prior ref := by
  by_cases htimed : sample.priorMstamp = 0
  · simp [skylineRoundReached, refRoundReached, htimed]
  · obtain ⟨hprior, hlt, hle⟩ := hnear htimed
    rw [skylineRoundReached, refRoundReached, hprior, hnext]
    congr 1
    exact decide_eq_decide.mpr (Word.U32.serial_le_iff hlt hle)

/-- A reset puts both marks at the packets delivered now. -/
lemma nearMark_reset (flow : FlowState) (sk : TcpSock) (nowNs : UInt64) {total : ℕ}
    (hsk : sk.delivered = UInt32.ofNat total) :
    NearMark (skylineResetGeneration flow sk nowNs).nextRoundDelivered total total total :=
  ⟨stands_toUInt64 hsk, by omega, by omega, le_rfl⟩

/-- Time passing keeps the marks near. -/
lemma NearMark.later {next : UInt64} {ref mark delivered delivered' : ℕ}
    (h : NearMark next ref mark delivered) (hle : delivered ≤ delivered') :
    NearMark next ref mark delivered' :=
  ⟨h.stands, h.le_mark, h.mark_lt, h.mark_le.trans hle⟩

/-- The test of a flow whose mark is near, at an ACK within bounds. -/
lemma NearMark.reached {c : Conn} {e : RoundEvent} {next : UInt64} {ref : ℕ} {allocated : Bool}
    {input : AckInput} (h : NearMark next ref c.mark (c.total e)) (hb : RoundBounds c e)
    (he : e.callback = .congControl allocated input) :
    skylineRoundReached input.sample next = refRoundReached input.sample e.prior ref := by
  refine roundReached_eq h.stands fun htimed => ?_
  obtain ⟨hprior, hle, hout, hadv⟩ := hb.of_timed he htimed
  have := h.le_mark
  have := h.mark_lt
  have := h.mark_le
  exact ⟨hprior, by omega, by omega⟩

/-- The test right after a reset, at an ACK within bounds. -/
lemma reached_after_reset {c : Conn} {e : RoundEvent} {next : UInt64} {allocated : Bool}
    {input : AckInput} (h : Stands next (c.total e)) (hb : RoundBounds c e)
    (he : e.callback = .congControl allocated input) :
    skylineRoundReached input.sample next = refRoundReached input.sample e.prior (c.total e) := by
  refine roundReached_eq h fun htimed => ?_
  obtain ⟨hprior, hle, hout, -⟩ := hb.of_timed he htimed
  exact ⟨hprior, by omega, by omega⟩

/-- What `skyline_cong_control` finds when its model update tests for a round end:
both marks, after the reset if there was one. -/
lemma adopted_mark {c : Conn} {e : RoundEvent} {allocated : Bool} {input : AckInput}
    (hc : RoundInv c) (hb : RoundBounds c e) (he : e.callback = .congControl allocated input)
    {flow : FlowState} {reports : List Report}
    (hadopt : Adopts (c.before e).sk (c.before e).flow input (some (flow, reports)))
    (hget : skylineFlowGet (c.before e).storage allocated = some (c.before e).flow) :
    skylineRoundReached input.sample flow.nextRoundDelivered
        = refRoundReached input.sample e.prior (c.nextAtTest e) ∧
      Stands flow.nextRoundDelivered (c.nextAtTest e) ∧
      (c.refResets e = false →
        NearMark flow.nextRoundDelivered (c.nextAtTest e) c.mark (c.total e)) := by
  -- when the reference starts over
  have hresets : c.refResets e = ((skylineAdoptConfig (c.before e).flow input.read).2 &&
      (!skylineHasConfig (c.before e).flow || refRoundReached input.sample e.prior c.next &&
        decide (input.seqNow.isSome ∧ input.seqNow ≠ some (c.before e).flow.configSeq))) := by
    rw [Conn.refResets, RoundEvent.refEnds, he, Callback.resets, hget]
    rfl
  have hstands : ∀ taken : FlowState, Stands
      (skylineResetGeneration taken (c.before e).sk input.resetNs).nextRoundDelivered
      (c.total e) := fun _ => stands_toUInt64 rfl
  cases hadopt with
  | first hno hread =>
      have hyes : c.refResets e = true := by rw [hresets, hread, hno]; rfl
      rw [Conn.nextAtTest, hyes, if_pos rfl]
      exact ⟨reached_after_reset (hstands _) hb he, hstands _, by simp⟩
  | kept hhas hwhy =>
      have hnear := (hc hhas).later (Nat.le_add_right c.delivered e.delivers)
      have hround := hnear.reached hb he
      have hnot : c.refResets e = false := by
        rw [hresets, hhas, ← hround]
        obtain h | h | h := hwhy
        · rw [show (c.before e).flow.nextRoundDelivered = c.sock.flow.nextRoundDelivered from rfl]
            at h
          simp [h]
        · simp only [decide_eq_false h, Bool.and_false, Bool.or_false, Bool.not_true]
        · simp [h]
      rw [Conn.nextAtTest, hnot, if_neg (by simp)]
      exact ⟨hround, hnear.stands, fun _ => hnear⟩
  | switched _ hhas hround hseq hread =>
      have hnear := (hc hhas).later (Nat.le_add_right c.delivered e.delivers)
      have hyes : c.refResets e = true := by
        rw [hresets, hread, ← hnear.reached hb he]
        rw [show c.sock.flow.nextRoundDelivered = (c.before e).flow.nextRoundDelivered from rfl,
          hround, decide_eq_true hseq]
        simp
      rw [Conn.nextAtTest, hyes, if_pos rfl]
      exact ⟨reached_after_reset (hstands _) hb he, hstands _, by simp⟩

/-- A round end, or its absence, leaves the marks near each other. -/
lemma nearMark_newRound {c : Conn} {e : RoundEvent} {allocated : Bool} {input : AckInput}
    (hc : RoundInv c) (hb : RoundBounds c e) (he : e.callback = .congControl allocated input)
    {flow : FlowState} {reports : List Report}
    (hadopt : Adopts (c.before e).sk (c.before e).flow input (some (flow, reports)))
    (hget : skylineFlowGet (c.before e).storage allocated = some (c.before e).flow) (K : Kernel) :
    NearMark (skylineNewRound (c.before e).sk flow input.sample).1.nextRoundDelivered
      (roundStep K c e).next (roundStep K c e).mark (roundStep K c e).delivered := by
  obtain ⟨htest, hstands, hkept⟩ := adopted_mark hc hb he hadopt hget
  have hends : e.refEnds (c.nextAtTest e) =
      refRoundReached input.sample e.prior (c.nextAtTest e) := by rw [RoundEvent.refEnds, he]
  have htimed : e.timed = (input.sample.priorMstamp != 0) := by rw [RoundEvent.timed, he]
  simp only [roundStep, skylineNewRound, htest, hends, htimed]
  by_cases hm : input.sample.priorMstamp = 0
  · -- an ACK that timed nothing ends no round; at most a reset has moved the marks
    have hno : refRoundReached input.sample e.prior (c.nextAtTest e) = false := by
      simp [refRoundReached, hm]
    simp only [hno, hm, bne_self_eq_false, Bool.false_or, Bool.false_eq_true, if_false]
    cases hr : c.refResets e with
    | false =>
        rw [if_neg (by simp)]
        exact hkept hr
    | true =>
        rw [if_pos rfl]
        have hat : c.nextAtTest e = c.total e := by rw [Conn.nextAtTest, hr, if_pos rfl]
        rw [hat] at hstands ⊢
        exact ⟨hstands, by omega, by omega, le_rfl⟩
  · obtain ⟨-, hle, hout, hadv⟩ := hb.of_timed he hm
    rw [if_pos (show (input.sample.priorMstamp != 0 || c.refResets e) = true by simp [hm])]
    cases hend : refRoundReached input.sample e.prior (c.nextAtTest e) with
    | true =>
        simp only [if_true]
        refine ⟨stands_toUInt64 ?_, by omega, by omega, le_rfl⟩
        rw [UInt32.ofNat_add, UInt32.ofNat_toNat]
        rfl
    | false =>
        simp only [Bool.false_eq_true, if_false]
        -- the packet timed was sent before the mark, and it is not long ago
        have hlt : e.prior < c.nextAtTest e := by
          simpa [refRoundReached, hm] using hend
        refine ⟨hstands, ?_, by omega, le_rfl⟩
        cases hr : c.refResets e with
        | false =>
            have hnear := hkept hr
            exact hnear.le_mark.trans (Nat.add_le_add_right hnear.mark_le _)
        | true =>
            rw [Conn.nextAtTest, hr, if_pos rfl]
            omega

/-- A callback that is not an ACK ends no round and, unless it resets, moves no
mark. -/
lemma roundStep_of_not_ack {c : Conn} {e : RoundEvent} (K : Kernel)
    (he : ∀ allocated input, e.callback ≠ .congControl allocated input)
    (hr : c.refResets e = false) :
    (roundStep K c e).next = c.next ∧ (roundStep K c e).mark = c.mark := by
  have hends : ∀ next, e.refEnds next = false := by
    intro next
    rw [RoundEvent.refEnds]
    split
    · exact absurd ‹_› (he _ _)
    · rfl
  have htimed : e.timed = false := by
    rw [RoundEvent.timed]
    split
    · exact absurd ‹_› (he _ _)
    · rfl
  simp [roundStep, Conn.nextAtTest, hr, hends, htimed]

/-- The step lemma for the callbacks that leave the path model alone. -/
lemma roundStep_inv_quiet (K : Kernel) {c : Conn} {e : RoundEvent} (hc : RoundInv c)
    (hq : e.callback.Quiet) : RoundInv (roundStep K c e) := by
  intro hhas
  have heff := quietEffect K hq (c.before e)
  have hold : skylineHasConfig c.sock.flow = true := by
    rw [skylineHasConfig] at hhas ⊢
    rw [show (roundStep K c e).sock.flow.config = c.sock.flow.config from heff.config] at hhas
    exact hhas
  have hack : ∀ allocated input, e.callback ≠ .congControl allocated input := by
    intro allocated input h
    rw [h] at hq
    exact hq
  have hresets : c.refResets e = false := by
    rw [Conn.refResets]
    cases hcb : e.callback with
    | init =>
        rw [hcb] at hq
        exact hq.elim
    | congControl allocated input => exact absurd hcb (hack allocated input)
    | _ => rfl
  obtain ⟨hnext, hmark⟩ := roundStep_of_not_ack K hack hresets
  rw [hnext, hmark, show (roundStep K c e).sock.flow.nextRoundDelivered =
    c.sock.flow.nextRoundDelivered from congrArg FlowPath.nextRoundDelivered heff.path]
  exact (hc hold).later (Nat.le_add_right c.delivered e.delivers)

/-- The step lemma for `skyline_init`: it resets both marks, or neither. -/
lemma roundStep_inv_init (K : Kernel) {c : Conn} {e : RoundEvent} {allocated : Bool}
    {read : ConfigRead} {nowNs : UInt64} (hc : RoundInv c)
    (he : e.callback = .init allocated read nowNs) : RoundInv (roundStep K c e) := by
  intro hhas
  have hack : ∀ allocated input, e.callback ≠ .congControl allocated input := by simp [he]
  have hsock : (roundStep K c e).sock = (skylineInit (c.before e) allocated read nowNs).1 := by
    rw [roundStep, he]
    rfl
  have hresets : ∀ flow, skylineFlowGet (c.before e).storage allocated = some flow →
      c.refResets e = (skylineAdoptConfig flow read).2 := by
    intro flow hget
    rw [Conn.refResets, he, Callback.resets, hget]
    rfl
  have heff := initEffect (c.before e) allocated read nowNs
  rw [← hsock] at heff
  generalize (roundStep K c e).sock = s' at heff hhas ⊢
  cases heff with
  | unallocated hs =>
      exfalso
      rw [SockState.flow, hs] at hhas
      exact absurd hhas (by decide)
  | refused hget hread =>
      rw [adoptConfig_snd _ (c.before e).flow] at hread
      obtain ⟨hnext, hmark⟩ := roundStep_of_not_ack K hack ((hresets _ hget).trans hread)
      rw [hnext, hmark]
      exact (hc hhas).later (Nat.le_add_right c.delivered e.delivers)
  | adopted flow sk hget hread _ hsk =>
      rw [adoptConfig_snd _ (c.before e).flow] at hread
      have hyes : c.refResets e = true := (hresets _ hget).trans hread
      have hdel : sk.delivered = UInt32.ofNat (c.total e) := by
        rw [hsk]
        split_ifs <;> rfl
      have hnear := nearMark_reset flow sk nowNs hdel
      simpa [roundStep, hyes, Conn.nextAtTest, RoundEvent.refEnds, he] using hnear

/-- The step lemma for `skyline_cong_control`. -/
lemma roundStep_inv_ack (K : Kernel) {c : Conn} {e : RoundEvent} {allocated : Bool}
    {input : AckInput} (hc : RoundInv c) (hb : RoundBounds c e)
    (he : e.callback = .congControl allocated input) : RoundInv (roundStep K c e) := by
  intro hhas
  have hsock : (roundStep K c e).sock =
      (skylineCongControl K (c.before e) allocated input).1 := by
    rw [roundStep, he]
    rfl
  have heff := congControlEffect K (c.before e) allocated input
  rw [← hsock] at heff
  generalize (roundStep K c e).sock = s' at heff hhas ⊢
  cases heff with
  | unallocated hs =>
      exfalso
      rw [SockState.flow, hs] at hhas
      exact absurd hhas (by decide)
  | refused hno _ =>
      exfalso
      exact absurd (hno.symm.trans hhas) (by simp)
  | ran flow reports hget hadopt =>
      show NearMark (congControlRun K (c.before e).sk flow input).2.1.nextRoundDelivered _ _ _
      rw [congControlRun_round]
      exact nearMark_newRound hc hb he hadopt hget K

/-- Every callback keeps the marks near each other. -/
lemma roundStep_inv (K : Kernel) {c : Conn} {e : RoundEvent} (hc : RoundInv c)
    (hb : RoundBounds c e) : RoundInv (roundStep K c e) := by
  cases he : e.callback with
  | init => exact roundStep_inv_init K hc he
  | congControl => exact roundStep_inv_ack K hc hb he
  | _ => exact roundStep_inv_quiet K hc (by rw [he]; trivial)

/-! ### The same rounds -/

/-- Program and reference agree at one callback.  An ACK that finds a
configuration tests for a round end to see whether it may take a newer one, and
every ACK that runs the model tests again in `skyline_new_round`, after a reset if
there was one; both tests agree with the reference, and an ACK that timed
nothing ends no round. -/
def EndsAlike (c : Conn) (e : RoundEvent) : Prop :=
  ∀ allocated input, e.callback = .congControl allocated input →
    (skylineHasConfig (c.before e).flow = true →
      skylineRoundReached input.sample (c.before e).flow.nextRoundDelivered
        = e.refEnds c.next) ∧
    (∀ flow reports, skylineFlowGet (c.before e).storage allocated = some (c.before e).flow →
      congControlAdopt (c.before e).sk (c.before e).flow input = some (flow, reports) →
      (skylineNewRound (c.before e).sk flow input.sample).2 = e.refEnds (c.nextAtTest e)) ∧
    (input.sample.priorMstamp = 0 → ∀ next, skylineRoundReached input.sample next = false)

lemma endsAlike_of_inv {c : Conn} {e : RoundEvent} (hc : RoundInv c) (hb : RoundBounds c e) :
    EndsAlike c e := by
  intro allocated input he
  have hends : ∀ next, e.refEnds next = refRoundReached input.sample e.prior next := by
    intro next
    rw [RoundEvent.refEnds, he]
  refine ⟨fun hhas => ?_, fun flow reports hget hrun => ?_, fun hm next => ?_⟩
  · rw [hends]
    exact ((hc hhas).later (Nat.le_add_right c.delivered e.delivers)).reached hb he
  · have hadopt := adopts_of_congControl (c.before e).sk (c.before e).flow input
    rw [hrun] at hadopt
    obtain ⟨htest, -, -⟩ := adopted_mark hc hb he hadopt hget
    rw [hends, ← htest, skylineNewRound]
    split
    · exact (‹skylineRoundReached _ _ = true›).symm
    · exact (Bool.eq_false_iff.mpr ‹_›).symm
  · simp [skylineRoundReached, hm]

/-- **Round counting survives the 32-bit wrap.**  Take a connection that has no
configuration yet, and any run of callbacks with any kernel in between, of any
length and across any number of wraps of `tp->delivered`.  As long as every timed
ACK is within `RoundBounds`, the program ends a round at exactly the ACKs at which
the reference over unbounded counters does. -/
theorem roundReached_eq_reference (K : Kernel) (c₀ : Conn)
    (h₀ : skylineHasConfig c₀.sock.flow = false) (es : List RoundEvent)
    (hb : Along (roundStep K) RoundBounds c₀ es) : Along (roundStep K) EndsAlike c₀ es := by
  refine along_mono (I := RoundInv) (fun c e hc hce => roundStep_inv K hc hce)
    (fun c e hc hce => endsAlike_of_inv hc hce) es c₀ ?_ hb
  intro hhas
  exact absurd (h₀.symm.trans hhas) (by simp)

/-- A connection whose count wraps in its first round: `skyline_init`, an ACK short of
the wrap and one past it. -/
def wrappingRun : List RoundEvent :=
  let ack (delivers prior : ℕ) : RoundEvent :=
    ⟨delivers, fun sk => { sk with packetsOut := 10, srttUs := 320000 }, prior,
      .congControl true
        (.of { RateSample.tenSegments with priorDelivered := UInt32.ofNat prior } .speeder)⟩
  [⟨0, id, 0, .init true (.of .speeder 1) 1000000⟩,
    ack 10 (2 ^ 32 - 15), ack 10 (2 ^ 32 - 5), ack 10 (2 ^ 32 + 5)]

/-- The run stays in bounds, so its rounds are the reference's; its last two ACKs
lie on the two sides of the wrap. -/
theorem roundReached_eq_reference_wrapping :
    Along (roundStep Kernel.linux) EndsAlike
        ⟨⟨TcpSock.established, none⟩, 2 ^ 32 - 15, 0, 0⟩ wrappingRun ∧
      (wrappingRun.foldl (roundStep Kernel.linux)
        ⟨⟨TcpSock.established, none⟩, 2 ^ 32 - 15, 0, 0⟩).next = 2 ^ 32 + 25 :=
  ⟨roundReached_eq_reference Kernel.linux _ (by decide) wrappingRun (by decide +kernel),
    by decide +kernel⟩

end SkylineSpeeder
