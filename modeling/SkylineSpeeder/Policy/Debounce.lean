import SkylineSpeeder.Policy.Rto
import SkylineSpeeder.Machine.Run

/-!
A connection under `bpf/skyline_policy.bpf.c`: what its `rto_flows` storage records of the
two bounds, over every run of RTT callbacks, updates of the tuning slot and answers of the
kernel.

* `Matches`: the record says what the socket has; `updateRtoMin_matches` and
  `updateRtoMax_matches` are the two halves, each with any answers of the kernel;
* `RtoConn`, `RtoEvent`, `rtoStep`: the connection, from its establishment on;
* `Targeted`: which values a callback asks for;
* `rto_debounce`: while the connection is subscribed the record matches the socket and no
  target that is recorded is set again; the first callback that finds the slot disabled or of
  another layout ends the subscription, and with it every change of the socket.
-/

namespace SkylineSpeeder

open Machine

/-! ### The record and the socket -/

/-- What a flow has recorded; storage nobody has created reads as zero. -/
def RtoSock.recorded (sk : RtoSock) : RtoFlow := sk.flow.getD .zero

/-- The record says what the socket has: `initial` is the minimum it was opened with,
`changed` whether that was ever changed. -/
structure Matches (initial : UInt32) (changed : Bool) (sk : RtoSock) (flow : RtoFlow) : Prop where
  min : flow.appliedUs ≠ 0 → sk.rtoMinUs = flow.appliedUs
  min_untouched : flow.appliedUs = 0 → changed = false ∧ sk.rtoMinUs = initial
  max : flow.appliedRtoMaxMs ≠ 0 → sk.rtoMaxMs = flow.appliedRtoMaxMs
  max_default : flow.appliedRtoMaxMs = 0 → sk.rtoMaxMs = rtoMaxKernelDefaultMs

/-- The kernel accepted a new minimum. -/
def minAccepted (reports : List RtoReport) : Bool :=
  reports.any fun report => match report with
    | .sockopt .rtoMin _ accepted => accepted
    | _ => false

lemma minAccepted_append (xs ys : List RtoReport) :
    minAccepted (xs ++ ys) = (minAccepted xs || minAccepted ys) := List.any_append

section Halves

variable {sk : RtoSock} {flow : RtoFlow} {initial : UInt32} {changed : Bool}

/-- What `skyline_update_rto_min` leaves: the record and the socket as they were, or both at
its target. -/
lemma updateRtoMin_cases (answers : RtoAnswers) (tuning : KernelRtoTuning) (base : UInt32)
    (sk : RtoSock) (flow : RtoFlow) :
    ((skylineUpdateRtoMin answers tuning base sk flow).1 = sk ∧
      (skylineUpdateRtoMin answers tuning base sk flow).2.1 = flow ∧
      minAccepted (skylineUpdateRtoMin answers tuning base sk flow).2.2 = false) ∨
    (answers.accepts .rtoMin (rtoMinTarget tuning base) = true ∧
      (skylineUpdateRtoMin answers tuning base sk flow).1 =
        { sk with rtoMinUs := rtoMinTarget tuning base } ∧
      (skylineUpdateRtoMin answers tuning base sk flow).2.1 =
        { flow with appliedUs := rtoMinTarget tuning base } ∧
      minAccepted (skylineUpdateRtoMin answers tuning base sk flow).2.2 = true) := by
  rw [skylineUpdateRtoMin]
  dsimp only
  split_ifs with hcontradictory hsame haccepts
  · exact .inl ⟨rfl, rfl, rfl⟩
  · exact .inl ⟨rfl, rfl, rfl⟩
  · refine .inr ⟨haccepts, ?_, rfl, rfl⟩
    rw [bpfSetsockopt, if_pos haccepts]
  · exact .inl ⟨rfl, rfl, rfl⟩

/-- What `skyline_update_rto_max` leaves: the same, or both at a new maximum, which is not
zero, or the record cleared and the kernel's default back. -/
lemma updateRtoMax_cases (answers : RtoAnswers) (tuning : KernelRtoTuning)
    (deliveredCe srttUs minRttUs base : UInt32) (sk : RtoSock) (flow : RtoFlow) :
    ∃ sk' flow' reports,
      skylineUpdateRtoMax answers tuning deliveredCe srttUs minRttUs base sk flow =
        (sk', flow', reports) ∧ minAccepted reports = false ∧
      ((sk' = sk ∧ flow' = { flow with lastDeliveredCe := deliveredCe }) ∨
        (∃ target, target ≠ 0 ∧ sk' = { sk with rtoMaxMs := target } ∧
          flow' = { flow with lastDeliveredCe := deliveredCe, appliedRtoMaxMs := target }) ∨
        (sk' = { sk with rtoMaxMs := rtoMaxKernelDefaultMs } ∧
          flow' = { flow with lastDeliveredCe := deliveredCe, appliedRtoMaxMs := 0 })) := by
  rw [skylineUpdateRtoMax]
  dsimp only
  generalize hcounted : (if rtoCongested tuning flow deliveredCe srttUs minRttUs = true then
    [RtoReport.stat .rtoMaxCongested] else []) = seen
  have hseen : minAccepted seen = false := by
    rw [← hcounted]
    split_ifs <;> rfl
  split_ifs with hoff hsame haccepts
  · rw [restoreRtoMax]
    split_ifs with hzero haccepts
    · exact ⟨_, _, _, rfl, rfl, .inl ⟨rfl, rfl⟩⟩
    · refine ⟨_, _, _, rfl, rfl, .inr (.inr ⟨?_, rfl⟩)⟩
      rw [bpfSetsockopt, if_pos haccepts]
    · exact ⟨_, _, _, rfl, rfl, .inl ⟨rfl, rfl⟩⟩
  · refine ⟨_, _, _, rfl, ?_, .inl ⟨rfl, rfl⟩⟩
    rw [minAccepted_append, hseen]
    rfl
  · refine ⟨_, _, _, rfl, ?_, .inr (.inl ⟨_, ?_, ?_, rfl⟩)⟩
    · rw [minAccepted_append, hseen]
      rfl
    · -- the target is at least a second
      intro hzero
      have hnat := congrArg UInt32.toNat hzero
      rw [rtoMaxTarget_toNat, natClamp, UInt32.toNat_zero] at hnat
      omega
    · rw [bpfSetsockopt, if_pos haccepts]
  · refine ⟨_, _, _, rfl, ?_, .inl ⟨rfl, rfl⟩⟩
    rw [minAccepted_append, hseen]
    rfl

lemma updateRtoMin_matches {answers : RtoAnswers} (tuning : KernelRtoTuning)
    (h : Matches initial changed sk flow) (hzero : answers.accepts .rtoMin 0 = false)
    (base : UInt32) :
    Matches initial
      (changed || minAccepted (skylineUpdateRtoMin answers tuning base sk flow).2.2)
      (skylineUpdateRtoMin answers tuning base sk flow).1
      (skylineUpdateRtoMin answers tuning base sk flow).2.1 := by
  obtain ⟨hsk, hflow, hkept⟩ | ⟨haccepts, hsk, hflow, -⟩ :=
    updateRtoMin_cases answers tuning base sk flow
  · rw [hsk, hflow, hkept, Bool.or_false]
    exact h
  · rw [hsk, hflow]
    refine ⟨fun _ => rfl, fun htarget => ?_, h.max, h.max_default⟩
    -- the kernel accepts no minimum of zero
    rw [show rtoMinTarget tuning base = 0 from htarget, hzero] at haccepts
    exact absurd haccepts (by decide)

lemma updateRtoMax_matches (answers : RtoAnswers) (tuning : KernelRtoTuning)
    (h : Matches initial changed sk flow) (deliveredCe srttUs minRttUs base : UInt32) :
    Matches initial
      (changed || minAccepted
        (skylineUpdateRtoMax answers tuning deliveredCe srttUs minRttUs base sk flow).2.2)
      (skylineUpdateRtoMax answers tuning deliveredCe srttUs minRttUs base sk flow).1
      (skylineUpdateRtoMax answers tuning deliveredCe srttUs minRttUs base sk flow).2.1 := by
  obtain ⟨sk', flow', reports, heq, hkept, hcases⟩ :=
    updateRtoMax_cases answers tuning deliveredCe srttUs minRttUs base sk flow
  rw [heq, hkept, Bool.or_false]
  obtain ⟨rfl, rfl⟩ | ⟨target, hne, rfl, rfl⟩ | ⟨rfl, rfl⟩ := hcases
  · exact ⟨h.min, h.min_untouched, h.max, h.max_default⟩
  · exact ⟨h.min, h.min_untouched, fun _ => rfl, fun hz => absurd hz hne⟩
  · exact ⟨h.min, h.min_untouched, fun hz => absurd rfl hz, fun _ => rfl⟩

end Halves

/-! ### Which values a callback asks for -/

/-- A call for a target is for another value than the one recorded; the kernel's default
maximum is also asked for while that half is off. -/
def Targeted (tuning : KernelRtoTuning) (flow : RtoFlow) : RtoReport → Prop
  | .sockopt .rtoMin value _ => value ≠ flow.appliedUs
  | .sockopt .rtoMax value _ => value ≠ flow.appliedRtoMaxMs ∨
      (tuning.rtoMaxNormalPermille = 0 ∧ value = rtoMaxKernelDefaultMs)
  | _ => True

lemma updateRtoMin_targeted (answers : RtoAnswers) (tuning : KernelRtoTuning) (base : UInt32)
    (sk : RtoSock) (flow : RtoFlow) :
    ∀ report ∈ (skylineUpdateRtoMin answers tuning base sk flow).2.2,
      Targeted tuning flow report := by
  rw [skylineUpdateRtoMin]
  dsimp only
  split_ifs with hcontradictory hsame haccepts
  · simp
  · simp [Targeted]
  · simp [Targeted, Ne.symm hsame]
  · simp [Targeted, Ne.symm hsame]

/-- The record of the maximum is all the second half goes by. -/
lemma updateRtoMax_targeted (answers : RtoAnswers) (tuning : KernelRtoTuning)
    (deliveredCe srttUs minRttUs base : UInt32) (sk : RtoSock) {flow flow₀ : RtoFlow}
    (hrecord : flow.appliedRtoMaxMs = flow₀.appliedRtoMaxMs) :
    ∀ report ∈ (skylineUpdateRtoMax answers tuning deliveredCe srttUs minRttUs base sk flow).2.2,
      Targeted tuning flow₀ report := by
  rw [skylineUpdateRtoMax]
  dsimp only
  generalize hcounted : (if rtoCongested tuning flow deliveredCe srttUs minRttUs = true then
    [RtoReport.stat .rtoMaxCongested] else []) = seen
  have hseen : ∀ report ∈ seen, Targeted tuning flow₀ report := by
    rw [← hcounted]
    split_ifs <;> simp [Targeted]
  rw [hrecord]
  split_ifs with hoff hsame haccepts
  · rw [restoreRtoMax]
    split_ifs <;> simp [Targeted, hoff]
  · simpa [Targeted, or_imp, forall_and] using hseen
  · simpa [Targeted, or_imp, forall_and, Ne.symm hsame] using hseen
  · simpa [Targeted, or_imp, forall_and, Ne.symm hsame] using hseen

/-! ### The connection -/

/-- A connection: its socket and address family, the tuning slot, and whether its minimum
was ever changed. -/
structure RtoConn where
  sock : RtoSock
  family : UInt32
  slot : Option KernelRtoTuning
  minChanged : Bool

/-- What happens to it: an RTT sample, which the kernel reports to a subscribed connection
alone, and a write of the tuning slot. -/
inductive RtoEvent where
  | rtt (answers : RtoAnswers) (enabled : Bool) (ops : RtoOps)
  | slot (new : Option KernelRtoTuning)

/-- The callback of an RTT sample. -/
def RtoConn.callback (c : RtoConn) (answers : RtoAnswers) (enabled : Bool) (ops : RtoOps) :
    RtoSock × List RtoReport :=
  skylineSelectCongestionControl answers enabled c.slot .rtt { ops with family := c.family } c.sock

/-- One event. -/
def rtoStep (c : RtoConn) : RtoEvent → RtoConn
  | .slot new => { c with slot := new }
  | .rtt answers enabled ops =>
      if c.sock.rttCb then
        { c with
          sock := (c.callback answers enabled ops).1
          minChanged := c.minChanged || minAccepted (c.callback answers enabled ops).2 }
      else c

/-- A connection after its establishment, opened with the minimum `initial` and the kernel's
default maximum. -/
def RtoConn.opened (initial family : UInt32) (answers : RtoAnswers) (enabled : Bool)
    (slot : Option KernelRtoTuning) (ops : RtoOps) : RtoConn where
  sock := (skylineSelectCongestionControl answers enabled slot .established
    { ops with family := family } ⟨false, initial, rtoMaxKernelDefaultMs, none⟩).1
  family := family
  slot := slot
  minChanged := false

/-- The kernel refuses a minimum of zero: it is below `TCP_TIMEOUT_MIN`. -/
def RtoEvent.RefusesZero : RtoEvent → Prop
  | .rtt answers _ _ => answers.accepts .rtoMin 0 = false
  | .slot _ => True

/-- The slot is disabled, or not of this object's layout. -/
def SlotOff (slot : Option KernelRtoTuning) : Prop :=
  ∀ tuning, skylineRtoConfig slot = some tuning → tuning.enabled = 0

/-- What holds between callbacks: a subscribed connection is of a family the program knows,
and its record matches its socket. -/
def RtoInv (initial : UInt32) (c : RtoConn) : Prop :=
  c.sock.rttCb = true → skylineIsSupportedFamily c.family = true ∧
    Matches initial c.minChanged c.sock c.sock.recorded

/-! ### One callback -/

section Callback

variable {answers : RtoAnswers} {tuning : KernelRtoTuning} {ops : RtoOps} {sk : RtoSock}
  {flow : RtoFlow} {initial : UInt32} {changed : Bool}

/-- A flow that is tuned: the record keeps matching, the subscription stays. -/
lemma tuneRtoFlow_matches (h : Matches initial changed sk flow)
    (hzero : answers.accepts .rtoMin 0 = false) (deliveredCe : UInt32) :
    Matches initial (changed || minAccepted (tuneRtoFlow answers tuning ops deliveredCe sk flow).2)
      (tuneRtoFlow answers tuning ops deliveredCe sk flow).1
      (tuneRtoFlow answers tuning ops deliveredCe sk flow).1.recorded := by
  rw [tuneRtoFlow]
  by_cases hwarm : flow.samples < tuning.warmupSamples
  · rw [if_pos hwarm]
    have hkept : (changed || minAccepted [.stat .skippedWarmup]) = changed := Bool.or_false changed
    rw [hkept]
    exact ⟨h.min, h.min_untouched, h.max, h.max_default⟩
  · rw [if_neg hwarm]
    have hlower := updateRtoMin_matches tuning h hzero ops.base
    have hboth := updateRtoMax_matches answers tuning hlower deliveredCe ops.srttUs ops.minRttUs
      ops.base
    rw [Bool.or_assoc, ← minAccepted_append] at hboth
    exact ⟨hboth.min, hboth.min_untouched, hboth.max, hboth.max_default⟩

lemma tuneRtoFlow_targeted (deliveredCe : UInt32) :
    ∀ report ∈ (tuneRtoFlow answers tuning ops deliveredCe sk flow).2,
      Targeted tuning flow report := by
  rw [tuneRtoFlow]
  by_cases hwarm : flow.samples < tuning.warmupSamples
  · rw [if_pos hwarm]
    simp [Targeted]
  · rw [if_neg hwarm]
    have hrecord : (skylineUpdateRtoMin answers tuning ops.base sk flow).2.1.appliedRtoMaxMs =
        flow.appliedRtoMaxMs := by
      obtain ⟨-, hflow, -⟩ | ⟨-, -, hflow, -⟩ := updateRtoMin_cases answers tuning ops.base sk flow
      · rw [hflow]
      · rw [hflow]
    intro report hmem
    obtain hlower | hupper := List.mem_append.mp hmem
    · exact updateRtoMin_targeted answers tuning ops.base sk flow report hlower
    · exact updateRtoMax_targeted answers tuning deliveredCe ops.srttUs ops.minRttUs ops.base _
        hrecord report hupper

/-- A callback that finds the feature on leaves the flow alone, or tunes it. -/
lemma updateRtoTuning_on (answers : RtoAnswers) {tuning : KernelRtoTuning}
    (hon : tuning.enabled ≠ 0) (ops : RtoOps) (sk : RtoSock) :
    skylineUpdateRtoTuning answers (some tuning) ops sk = (sk, [.stat .rttCallbacks]) ∨
    ∃ deliveredCe, skylineUpdateRtoTuning answers (some tuning) ops sk =
      ((tuneRtoFlow answers tuning ops deliveredCe sk sk.recorded).1,
        .stat .rttCallbacks :: (tuneRtoFlow answers tuning ops deliveredCe sk sk.recorded).2) := by
  rw [skylineUpdateRtoTuning]
  dsimp only
  rw [if_neg hon]
  split_ifs with hbase hsk
  · exact .inl rfl
  · exact .inl rfl
  cases hce : ops.deliveredCe with
  | none => exact .inl rfl
  | some deliveredCe =>
      cases hget : rtoFlowGet sk.flow ops.allocated with
      | none => exact .inl rfl
      | some flow =>
          have hrecorded : flow = sk.recorded := by
            rw [RtoSock.recorded]
            cases hflow : sk.flow with
            | some stored =>
                rw [hflow] at hget
                exact (Option.some.inj hget).symm
            | none =>
                rw [hflow, rtoFlowGet] at hget
                split_ifs at hget
                exact (Option.some.inj hget).symm
          exact .inr ⟨deliveredCe, by rw [hrecorded]⟩

/-- `bpf_setsockopt` leaves the subscription alone. -/
lemma bpfSetsockopt_rttCb (answers : RtoAnswers) (option : RtoOption) (value : UInt32)
    (sk : RtoSock) : (bpfSetsockopt answers option value sk).rttCb = sk.rttCb := by
  rw [bpfSetsockopt.eq_def]
  split_ifs
  · cases option <;> rfl
  · rfl

/-- The end of a subscription: both defaults are asked for. -/
lemma unsubscribe_spec (answers : RtoAnswers) (sk : RtoSock) :
    (skylineRtoUnsubscribe answers sk).1.rttCb = false ∧
      (∃ accepted, .sockopt .rtoMin rtoMinKernelDefaultUs accepted ∈
        (skylineRtoUnsubscribe answers sk).2) ∧
      ∃ accepted, .sockopt .rtoMax rtoMaxKernelDefaultMs accepted ∈
        (skylineRtoUnsubscribe answers sk).2 := by
  refine ⟨?_, ⟨_, List.mem_cons_self⟩, ⟨_, List.mem_cons_of_mem _ List.mem_cons_self⟩⟩
  rw [skylineRtoUnsubscribe]
  dsimp only
  rw [bpfSetsockopt_rttCb, bpfSetsockopt_rttCb]

end Callback

/-! ### Every run -/

section Runs

variable {initial : UInt32} {c : RtoConn}

/-- The callback of a connection of a family the program knows. -/
lemma RtoConn.callback_eq (hfamily : skylineIsSupportedFamily c.family = true)
    (answers : RtoAnswers) (enabled : Bool) (ops : RtoOps) :
    c.callback answers enabled ops = skylineUpdateRtoTuning answers (skylineRtoConfig c.slot)
      { ops with family := c.family } c.sock := by
  rw [RtoConn.callback, skylineSelectCongestionControl]
  dsimp only
  rw [hfamily]
  rfl

/-- A callback that finds the slot off ends the subscription. -/
lemma callback_off (hfamily : skylineIsSupportedFamily c.family = true) (hoff : SlotOff c.slot)
    (answers : RtoAnswers) (enabled : Bool) (ops : RtoOps) :
    c.callback answers enabled ops = skylineRtoUnsubscribe answers c.sock := by
  rw [c.callback_eq hfamily]
  cases hslot : skylineRtoConfig c.slot with
  | none => rfl
  | some tuning =>
      rw [skylineUpdateRtoTuning]
      exact if_pos (hoff tuning hslot)

/-- **One event**: the record of a subscribed connection keeps matching its socket. -/
lemma rtoInv_step (h : RtoInv initial c) {e : RtoEvent} (hzero : e.RefusesZero) :
    RtoInv initial (rtoStep c e) := by
  cases e with
  | slot new => exact h
  | rtt answers enabled ops =>
      rw [rtoStep]
      by_cases hsub : c.sock.rttCb = true
      · rw [if_pos hsub]
        obtain ⟨hfamily, hmatches⟩ := h hsub
        intro hafter
        refine ⟨hfamily, ?_⟩
        by_cases hoff : SlotOff c.slot
        · -- the subscription ended
          rw [callback_off hfamily hoff, (unsubscribe_spec answers c.sock).1] at hafter
          exact absurd hafter (by decide)
        · rw [SlotOff] at hoff
          push Not at hoff
          obtain ⟨tuning, hslot, hon⟩ := hoff
          rw [c.callback_eq hfamily, hslot]
          obtain heq | ⟨deliveredCe, heq⟩ := updateRtoTuning_on answers hon
            { ops with family := c.family } c.sock
          · rw [heq]
            have hkept : (c.minChanged || minAccepted [.stat .rttCallbacks]) = c.minChanged :=
              Bool.or_false _
            rw [hkept]
            exact hmatches
          · rw [heq]
            exact tuneRtoFlow_matches hmatches hzero deliveredCe
      · rw [if_neg hsub]
        exact h

/-- The establishment of a connection subscribes it at most. -/
lemma established_cases (answers : RtoAnswers) (enabled : Bool) (slot : Option KernelRtoTuning)
    (ops : RtoOps) (sk : RtoSock) :
    (skylineSelectCongestionControl answers enabled slot .established ops sk).1 = sk ∨
    (skylineIsSupportedFamily ops.family = true ∧
      (skylineSelectCongestionControl answers enabled slot .established ops sk).1 =
        { sk with rttCb := true }) := by
  rw [skylineSelectCongestionControl]
  cases hfamily : skylineIsSupportedFamily ops.family with
  | false => exact .inl rfl
  | true =>
      cases skylineRtoConfig slot with
      | none => exact .inl rfl
      | some tuning =>
          by_cases hon : tuning.enabled = 0
          · simp [hon]
          · cases hflags : answers.setsFlags with
            | true => simp [hon]
            | false => simp [hon]

/-- The connection after its establishment. -/
lemma rtoInv_opened (initial family : UInt32) (answers : RtoAnswers) (enabled : Bool)
    (slot : Option KernelRtoTuning) (ops : RtoOps) :
    RtoInv initial (.opened initial family answers enabled slot ops) := by
  obtain hsame | ⟨hfamily, hsub⟩ := established_cases answers enabled slot
    { ops with family := family } ⟨false, initial, rtoMaxKernelDefaultMs, none⟩
  · intro hsub
    rw [RtoConn.opened, hsame] at hsub
    exact absurd hsub Bool.false_ne_true
  · intro _
    refine ⟨hfamily, ?_⟩
    rw [RtoConn.opened, hsub]
    exact ⟨fun h => absurd rfl h, fun _ => ⟨rfl, rfl⟩, fun h => absurd rfl h, fun _ => rfl⟩

/-- A connection that is not subscribed is left alone. -/
lemma unsubscribed_run (es : List RtoEvent) :
    ∀ c : RtoConn, c.sock.rttCb = false → (es.foldl rtoStep c).sock = c.sock := by
  induction es with
  | nil => exact fun _ _ => rfl
  | cons e es ih =>
      intro c hsub
      have hstep : (rtoStep c e).sock = c.sock := by
        cases e with
        | slot new => rfl
        | rtt answers enabled ops =>
            rw [rtoStep, hsub]
            rfl
      rw [List.foldl_cons, ih _ (by rw [hstep, hsub]), hstep]

end Runs

/-- **RTO debouncing never drifts from the socket.**  After every run of RTT samples, slot
writes and answers of the kernel, from the establishment of the connection on: while the
connection is subscribed, its record matches its socket; the next callback asks for no
target that is recorded; the next callback that finds the slot disabled or of another layout
ends the subscription and asks for both of the kernel's defaults; and nothing changes the
socket of a connection that is not subscribed. -/
theorem rto_debounce (initial family : UInt32) (answers₀ : RtoAnswers) (enabled₀ : Bool)
    (slot₀ : Option KernelRtoTuning) (ops₀ : RtoOps) (es : List RtoEvent)
    (hzero : ∀ e ∈ es, e.RefusesZero) :
    let c := es.foldl rtoStep (.opened initial family answers₀ enabled₀ slot₀ ops₀)
    (c.sock.rttCb = true → Matches initial c.minChanged c.sock c.sock.recorded) ∧
    (c.sock.rttCb = true → ∀ (answers : RtoAnswers) (enabled : Bool) (ops : RtoOps),
      (∀ tuning, skylineRtoConfig c.slot = some tuning → tuning.enabled ≠ 0 →
        ∀ report ∈ (c.callback answers enabled ops).2,
          Targeted tuning c.sock.recorded report) ∧
      (SlotOff c.slot →
        (c.callback answers enabled ops).1.rttCb = false ∧
        (∃ accepted, .sockopt .rtoMin rtoMinKernelDefaultUs accepted ∈
          (c.callback answers enabled ops).2) ∧
        ∃ accepted, .sockopt .rtoMax rtoMaxKernelDefaultMs accepted ∈
          (c.callback answers enabled ops).2)) ∧
    (c.sock.rttCb = false → ∀ es' : List RtoEvent, (es'.foldl rtoStep c).sock = c.sock) := by
  intro c
  have hopened := rtoInv_opened initial family answers₀ enabled₀ slot₀ ops₀
  have hrun : Along rtoStep (fun _ e => e.RefusesZero)
      (.opened initial family answers₀ enabled₀ slot₀ ops₀) es := along_of_forall es _ hzero
  have hinv : RtoInv initial c :=
    along_invariant (I := RtoInv initial) (fun _ _ h hP => rtoInv_step h hP) es _ hopened hrun
  refine ⟨fun hsub => (hinv hsub).2, fun hsub answers enabled ops => ⟨?_, fun hoff => ?_⟩,
    fun hsub es' => unsubscribed_run es' c hsub⟩
  · intro tuning hslot hon report hmem
    rw [c.callback_eq (hinv hsub).1, hslot] at hmem
    obtain heq | ⟨deliveredCe, heq⟩ := updateRtoTuning_on answers hon
      { ops with family := c.family } c.sock
    · rw [heq, List.mem_singleton] at hmem
      rw [hmem]
      trivial
    · rw [heq] at hmem
      obtain rfl | htuned := List.mem_cons.mp hmem
      · trivial
      · exact tuneRtoFlow_targeted deliveredCe report htuned
  · rw [callback_off (hinv hsub).1 hoff]
    exact unsubscribe_spec answers c.sock

/-! ### Concrete runs -/

/-- A kernel that accepts every value but zero. -/
def willingKernel : RtoAnswers := ⟨fun _ value => value != 0, true⟩

/-- An RTT sample of a minute on an IPv4 connection. -/
def minuteSample : RtoOps := ⟨2, 480000000, 60000000, true, true, some 0, true⟩

/-- The slot of the shipped configuration, without the warm-up. -/
def promptSlot : KernelRtoTuning :=
  { SkylineConfig.speeder.rackRto.kernelConfig 1 with warmupSamples := 0 }

/-- A connection subscribed under `promptSlot`. -/
def promptConn : RtoConn := .opened 200000 2 willingKernel true (some promptSlot) minuteSample

/-- After its first sample the connection records the two bounds its socket has. -/
theorem rto_debounce_after_sample :
    let c := [RtoEvent.rtt willingKernel true minuteSample].foldl rtoStep promptConn
    c.sock.rttCb = true ∧ Matches 200000 c.minChanged c.sock c.sock.recorded := by
  intro c
  have hsub : c.sock.rttCb = true := by decide +kernel
  refine ⟨hsub, (rto_debounce 200000 2 willingKernel true (some promptSlot) minuteSample
    [.rtt willingKernel true minuteSample] ?_).1 hsub⟩
  intro e he
  rw [List.mem_singleton.mp he]
  rfl

/-- The maximum of that sample is the kernel's default.  When the slot then switches the
ceiling off, the next callback sets it again, to the value last applied and in force. -/
theorem rto_default_set_again :
    let c := [RtoEvent.rtt willingKernel true minuteSample,
      .slot (some { promptSlot with rtoMaxNormalPermille := 0 })].foldl rtoStep promptConn
    c.sock.rttCb = true ∧ c.sock.recorded.appliedRtoMaxMs = 120000 ∧ c.sock.rtoMaxMs = 120000 ∧
      RtoReport.sockopt .rtoMax 120000 true ∈ (c.callback willingKernel true minuteSample).2 := by
  decide +kernel

end SkylineSpeeder
