import SkylineSpeeder.Policy.Debounce

/-!
The documented bounds of the retransmission timeout, and when
`bpf/skyline_policy.bpf.c` wants them.

* `RtoOps.documentedBase`, `documentedRatio`, `documentedCongested`: the RTT and the congestion
  of a sample, over the natural numbers;
* `DocumentedBounds`: a callback wants what the documentation gives for these;
* `RtoTrace`: a connection with the `delivered_ce` of the callback before, which the
  documentation compares a sample's to;
* `RtoConn.wants`: the value a callback wants for an option;
* `BoundsFit`: the scaled RTT fits in the 32 bits it is cut to, or the clamp hides what was
  cut, and the program's congestion is the documented one, or the clamp hides that too;
* `rto_bounds_documented_iff`: a sample past the warm-up wants the documented bounds exactly
  there, in every run;
* `rto_warmup_counts_old_mark`: a mark from the warm-up counts as new afterwards.
-/

namespace SkylineSpeeder

open Machine

/-! ### What is documented -/

/-- A clamp does not tell two numbers apart exactly if they are equal or on one side. -/
lemma natClamp_eq_iff {lo hi x y : ℕ} (hlt : lo < hi) :
    natClamp lo hi x = natClamp lo hi y ↔
      x = y ∨ (x ≤ lo ∧ y ≤ lo) ∨ (hi ≤ x ∧ hi ≤ y) := by
  rw [natClamp, natClamp]
  omega

/-- The RTT of a sample: the larger of the smoothed one and the minimum. -/
def RtoOps.documentedBase (ops : RtoOps) : ℕ := max ops.srttUs.toNat ops.minRttUs.toNat

/-- The ratio that shows queueing, 2 by default. -/
def documentedRatio (config : RackRtoConfig) : ℕ :=
  if config.rtoMaxCongestionRatioPermille = 0 then 2000
  else config.rtoMaxCongestionRatioPermille.toNat

/-- A sample that shows congestion: a mark that the callback before, with `lastCe`, had not
seen, or a smoothed RTT above the minimum by the ratio. -/
def documentedCongested (config : RackRtoConfig) (lastCe deliveredCe : UInt32) (ops : RtoOps) :
    Bool :=
  deliveredCe != lastCe ||
    decide (ops.minRttUs.toNat * documentedRatio config < ops.srttUs.toNat * 1000)

/-- The coefficient of a sample. -/
def RackRtoConfig.coefficient (config : RackRtoConfig) (congested : Bool) : UInt32 :=
  if congested then config.rtoMaxCongestedPermille else config.rtoMaxNormalPermille

lemma RtoOps.base_toNat (ops : RtoOps) : ops.base.toNat = ops.documentedBase := by
  rw [RtoOps.base, RtoOps.documentedBase]
  split_ifs with h
  · rw [gt_iff_lt, UInt32.lt_iff_toNat_lt] at h
    exact (max_eq_left h.le).symm
  · rw [gt_iff_lt, UInt32.lt_iff_toNat_lt, not_lt] at h
    exact (max_eq_right h).symm

lemma documentedRatio_eq (config : RackRtoConfig) (generation : UInt32) :
    (rtoMaxRatio (config.kernelConfig generation)).toNat = documentedRatio config := by
  rw [rtoMaxRatio, documentedRatio]
  show (if config.rtoMaxCongestionRatioPermille ≠ 0 then config.rtoMaxCongestionRatioPermille
    else rtoMaxDefaultCongestionRatioPermille).toNat = _
  by_cases h : config.rtoMaxCongestionRatioPermille = 0
  · rw [if_neg (not_not_intro h), if_pos h]
    rfl
  · rw [if_pos h, if_neg h]

/-- Congestion as the program finds it: against the mark the flow has recorded, and against
the minimum if there is one. -/
def foundCongested (config : RackRtoConfig) (flow : RtoFlow) (deliveredCe : UInt32)
    (ops : RtoOps) : Bool :=
  deliveredCe != flow.lastDeliveredCe ||
    (ops.minRttUs != 0 &&
      decide (ops.minRttUs.toNat * documentedRatio config < ops.srttUs.toNat * 1000))

lemma rtoCongested_eq (config : RackRtoConfig) (generation : UInt32) (flow : RtoFlow)
    (deliveredCe : UInt32) (ops : RtoOps) :
    rtoCongested (config.kernelConfig generation) flow deliveredCe ops.srttUs ops.minRttUs =
      foundCongested config flow deliveredCe ops := by
  rw [Bool.eq_iff_iff, rtoCongested_iff, documentedRatio_eq, foundCongested, Bool.or_eq_true,
    Bool.and_eq_true, bne_iff_ne, bne_iff_ne, decide_eq_true_eq]

/-! ### What a callback wants -/

/-- The value of the first call for an option. -/
def askedFor (option : RtoOption) : List RtoReport → Option UInt32
  | [] => none
  | .sockopt option' value _ :: reports =>
      if option' = option then some value else askedFor option reports
  | .congestion :: reports => askedFor option reports
  | .stat _ :: reports => askedFor option reports

lemma askedFor_append (option : RtoOption) (xs ys : List RtoReport) :
    askedFor option (xs ++ ys) = (askedFor option xs).or (askedFor option ys) := by
  induction xs with
  | nil => rfl
  | cons report xs ih =>
      cases report with
      | sockopt option' value accepted =>
          rw [List.cons_append, askedFor, askedFor]
          split_ifs
          · rfl
          · exact ih
      | congestion => exact ih
      | stat counter => exact ih

/-- What the flow has recorded for an option. -/
def RtoFlow.applied (flow : RtoFlow) : RtoOption → UInt32
  | .rtoMin => flow.appliedUs
  | .rtoMax => flow.appliedRtoMaxMs

/-- The value a callback wants for an option: it asks for it, unless it is recorded. -/
def RtoConn.wants (c : RtoConn) (answers : RtoAnswers) (enabled : Bool) (ops : RtoOps)
    (option : RtoOption) : UInt32 :=
  (askedFor option (c.callback answers enabled ops).2).getD (c.sock.recorded.applied option)

section Halves

variable (answers : RtoAnswers) {tuning : KernelRtoTuning} (sk : RtoSock) (flow : RtoFlow)

/-- The first half wants its target, unless its limits contradict each other. -/
lemma askedFor_updateRtoMin (hlimits : ¬ tuning.floorUs > rtoMinCeiling tuning) (base : UInt32) :
    (askedFor .rtoMin (skylineUpdateRtoMin answers tuning base sk flow).2.2).getD flow.appliedUs =
        rtoMinTarget tuning base ∧
      askedFor .rtoMax (skylineUpdateRtoMin answers tuning base sk flow).2.2 = none := by
  rw [skylineUpdateRtoMin, if_neg hlimits]
  dsimp only
  split_ifs with hsame haccepts
  · exact ⟨hsame, rfl⟩
  · exact ⟨rfl, rfl⟩
  · exact ⟨rfl, rfl⟩

/-- The second half asks for no minimum. -/
lemma askedFor_min_updateRtoMax (deliveredCe srttUs minRttUs base : UInt32) :
    askedFor .rtoMin
      (skylineUpdateRtoMax answers tuning deliveredCe srttUs minRttUs base sk flow).2.2 = none := by
  rw [skylineUpdateRtoMax]
  dsimp only
  split_ifs
  all_goals first
    | rfl
    | (rw [restoreRtoMax]; split_ifs <;> rfl)

/-- The second half wants its target, while it is on. -/
lemma askedFor_max_updateRtoMax (hon : tuning.rtoMaxNormalPermille ≠ 0)
    (deliveredCe srttUs minRttUs base : UInt32) :
    (askedFor .rtoMax
        (skylineUpdateRtoMax answers tuning deliveredCe srttUs minRttUs base sk flow).2.2).getD
          flow.appliedRtoMaxMs =
      rtoMaxTarget base
        (rtoMaxCoefficient tuning (rtoCongested tuning flow deliveredCe srttUs minRttUs)) := by
  rw [skylineUpdateRtoMax]
  dsimp only
  rw [if_neg hon]
  -- what is counted first asks for nothing
  split_ifs with hsame hcongested haccepts hcongested hcongested
  all_goals first
    | exact hsame
    | rfl

end Halves

/-! ### Samples -/

/-- An RTT sample past the warm-up, on a subscribed connection under the slot of
`config`. -/
structure RtoConn.Sampled (c : RtoConn) (config : RackRtoConfig) (ops : RtoOps)
    (deliveredCe : UInt32) : Prop where
  subscribed : c.sock.rttCb = true
  slot : ∃ generation, c.slot = some (config.kernelConfig generation)
  positive : 0 < ops.documentedBase
  full : ops.isFullsock = true ∧ ops.hasSk = true
  ce : ops.deliveredCe = some deliveredCe
  storage : c.sock.flow.isSome = true ∨ ops.allocated = true
  warm : config.warmupSamples ≤ c.sock.recorded.samples

/-- A subscribed connection is of a family the program knows. -/
def RtoConn.Known (c : RtoConn) : Prop :=
  c.sock.rttCb = true → skylineIsSupportedFamily c.family = true

lemma known_opened (initial family : UInt32) (answers : RtoAnswers) (enabled : Bool)
    (slot : Option KernelRtoTuning) (ops : RtoOps) :
    (RtoConn.opened initial family answers enabled slot ops).Known := fun hsub =>
  (rtoInv_opened initial family answers enabled slot ops hsub).1

lemma RtoConn.Known.step {c : RtoConn} (h : c.Known) (e : RtoEvent) : (rtoStep c e).Known := by
  cases e with
  | slot new => exact h
  | rtt answers enabled ops =>
      rw [rtoStep]
      split_ifs with hsub
      · exact fun _ => h hsub
      · exact h

/-- The storage a sample finds is what is recorded. -/
lemma rtoFlowGet_recorded {sk : RtoSock} {allocated : Bool}
    (h : sk.flow.isSome = true ∨ allocated = true) :
    rtoFlowGet sk.flow allocated = some sk.recorded := by
  rw [RtoSock.recorded]
  cases hflow : sk.flow with
  | some flow => rfl
  | none =>
      rw [hflow] at h
      rw [rtoFlowGet, if_pos (h.resolve_left Bool.false_ne_true)]
      rfl

/-- What a callback asks for at a sample past the warm-up: first one half, then the other. -/
lemma RtoConn.Sampled.callback {c : RtoConn} {config : RackRtoConfig} {ops : RtoOps}
    {deliveredCe : UInt32} (h : c.Sampled config ops deliveredCe) (hknown : c.Known)
    (henabled : config.enabled = true) (answers : RtoAnswers) (enabled : Bool) :
    ∃ generation sk flow, flow.appliedRtoMaxMs = c.sock.recorded.appliedRtoMaxMs ∧
      flow.lastDeliveredCe = c.sock.recorded.lastDeliveredCe ∧
      (c.callback answers enabled ops).2 = .stat .rttCallbacks ::
        ((skylineUpdateRtoMin answers (config.kernelConfig generation) ops.base c.sock
            c.sock.recorded).2.2 ++
          (skylineUpdateRtoMax answers (config.kernelConfig generation) deliveredCe ops.srttUs
            ops.minRttUs ops.base sk flow).2.2) := by
  obtain ⟨generation, hslot⟩ := h.slot
  have hon : (config.kernelConfig generation).enabled ≠ 0 := by
    show u32OfBool config.enabled ≠ 0
    rw [henabled]
    decide
  have hbase : ops.base ≠ 0 := by
    intro hzero
    have hpositive := h.positive
    rw [← ops.base_toNat, hzero] at hpositive
    exact absurd hpositive (by decide)
  have hwarm : ¬ c.sock.recorded.samples < (config.kernelConfig generation).warmupSamples :=
    UInt32.not_lt.mpr h.warm
  obtain ⟨hfull, hsk⟩ := h.full
  -- the first half leaves what the second one goes by
  set lower := skylineUpdateRtoMin answers (config.kernelConfig generation) ops.base c.sock
    c.sock.recorded with hlower
  have hrecord : lower.2.1.appliedRtoMaxMs = c.sock.recorded.appliedRtoMaxMs ∧
      lower.2.1.lastDeliveredCe = c.sock.recorded.lastDeliveredCe := by
    obtain ⟨-, hflow, -⟩ | ⟨-, -, hflow, -⟩ := updateRtoMin_cases answers
      (config.kernelConfig generation) ops.base c.sock c.sock.recorded
    · rw [hlower, hflow]
      exact ⟨rfl, rfl⟩
    · rw [hlower, hflow]
      exact ⟨rfl, rfl⟩
  refine ⟨generation, lower.1, lower.2.1, hrecord.1, hrecord.2, ?_⟩
  rw [c.callback_eq (hknown h.subscribed), hslot]
  show (skylineUpdateRtoTuning answers (some (config.kernelConfig generation))
    { ops with family := c.family } c.sock).2 = _
  rw [skylineUpdateRtoTuning]
  dsimp only
  rw [if_neg hon, show RtoOps.base { ops with family := c.family } = ops.base from rfl,
    if_neg hbase, hfull, hsk, h.ce, rtoFlowGet_recorded h.storage]
  dsimp only
  rw [if_neg (by decide), tuneRtoFlow, if_neg hwarm]
  rfl

/-- The bounds a sample past the warm-up wants. -/
lemma RtoConn.Sampled.wants {c : RtoConn} {config : RackRtoConfig} {ops : RtoOps}
    {deliveredCe : UInt32} (h : c.Sampled config ops deliveredCe) (hknown : c.Known)
    (henabled : config.enabled = true) (hvalid : config.validate = .ok ())
    (answers : RtoAnswers) (enabled : Bool) :
    ∃ generation,
      c.wants answers enabled ops .rtoMin =
        rtoMinTarget (config.kernelConfig generation) ops.base ∧
      (config.rtoMaxNormalPermille ≠ 0 →
        c.wants answers enabled ops .rtoMax =
          rtoMaxTarget ops.base
            (config.coefficient (foundCongested config c.sock.recorded deliveredCe ops))) := by
  obtain ⟨generation, sk, flow, hmax, hce, hreports⟩ :=
    h.callback hknown henabled answers enabled
  have hlimits := rtoMin_limits henabled hvalid generation
  obtain ⟨hlower, hnone⟩ := askedFor_updateRtoMin answers c.sock c.sock.recorded hlimits ops.base
  refine ⟨generation, ?_, fun hon => ?_⟩
  · rw [RtoConn.wants, hreports, askedFor, askedFor_append, askedFor_min_updateRtoMax,
      Option.or_none]
    exact hlower
  · have hupper := askedFor_max_updateRtoMax answers sk flow
      (show (config.kernelConfig generation).rtoMaxNormalPermille ≠ 0 from hon) deliveredCe
      ops.srttUs ops.minRttUs ops.base
    rw [rtoCongested_eq, hmax] at hupper
    rw [RtoConn.wants, hreports, askedFor, askedFor_append, hnone, Option.none_or]
    refine hupper.trans ?_
    rw [foundCongested, hce]
    rfl

/-! ### Runs -/

/-- A connection, and the `delivered_ce` of the RTT callback before, which was 0 when the
connection was opened. -/
structure RtoTrace where
  conn : RtoConn
  lastCe : UInt32

/-- One event. -/
def RtoTrace.step (t : RtoTrace) (e : RtoEvent) : RtoTrace where
  conn := rtoStep t.conn e
  lastCe :=
    match e with
    | .rtt _ _ ops => if t.conn.sock.rttCb then ops.deliveredCe.getD t.lastCe else t.lastCe
    | .slot _ => t.lastCe

/-- A run of callbacks, slot writes and answers of the kernel leads there from the
establishment of a connection. -/
def RtoTrace.Reachable (t : RtoTrace) : Prop :=
  ∃ initial family answers enabled slot ops, ∃ es : List RtoEvent,
    t = es.foldl RtoTrace.step ⟨.opened initial family answers enabled slot ops, 0⟩

lemma RtoTrace.Reachable.known {t : RtoTrace} (h : t.Reachable) : t.conn.Known := by
  obtain ⟨initial, family, answers, enabled, slot, ops, es, rfl⟩ := h
  exact along_invariant (I := fun t : RtoTrace => t.conn.Known)
    (P := fun _ _ => True) (fun t e ht _ => ht.step e) es _
    (known_opened initial family answers enabled slot ops) (along_of_forall es _ fun _ _ => trivial)

/-- The bounds a sample wants are the documented ones. -/
structure DocumentedBounds (config : RackRtoConfig) (t : RtoTrace) (answers : RtoAnswers)
    (enabled : Bool) (ops : RtoOps) (deliveredCe : UInt32) : Prop where
  min : (t.conn.wants answers enabled ops .rtoMin).toNat =
    documentedRtoMin config ops.documentedBase
  max : config.rtoMaxNormalPermille ≠ 0 →
    (t.conn.wants answers enabled ops .rtoMax).toNat =
      documentedRtoMax ops.documentedBase
        (config.coefficient (documentedCongested config t.lastCe deliveredCe ops)).toNat

/-- Two values that the clamp to 1 s and 120 s does not tell apart. -/
def ClampsAlike (x y : ℕ) : Prop := x = y ∨ (x ≤ 1000 ∧ y ≤ 1000) ∨ (120000 ≤ x ∧ 120000 ≤ y)

/-- The RTT scaled by `srtt_permille` fits in 32 bits, or what is cut of it stays above the
ceiling, or there is one minimum only.  The RTT scaled by the coefficient of the congestion
found fits too, or what is cut of it stays above 120 s; where another congestion is
documented, the clamp does not tell the two scaled RTTs apart. -/
structure BoundsFit (config : RackRtoConfig) (t : RtoTrace) (ops : RtoOps)
    (deliveredCe : UInt32) : Prop where
  min :
    let scaled := ops.documentedBase * config.srttPermille.toNat / 1000
    scaled < 2 ^ 32 ∨ config.ceilingUs.toNat ≤ scaled % 2 ^ 32 ∨ config.floorUs = config.ceilingUs
  max : config.rtoMaxNormalPermille ≠ 0 →
    let found := foundCongested config t.conn.sock.recorded deliveredCe ops
    let documented := documentedCongested config t.lastCe deliveredCe ops
    let scaled := fun congested =>
      ops.documentedBase * (config.coefficient congested).toNat / 10 ^ 6
    (found = documented ∧ (scaled found < 2 ^ 32 ∨ 120000 ≤ scaled found % 2 ^ 32)) ∨
      (found ≠ documented ∧ ClampsAlike (scaled found % 2 ^ 32) (scaled documented))

/-- A maximum of one coefficient is the documented one of another exactly if the clamp does
not tell the two scaled RTTs apart. -/
lemma rtoMaxTarget_eq_documented_iff (base k k' : UInt32) :
    (rtoMaxTarget base k).toNat = documentedRtoMax base.toNat k'.toNat ↔
      ClampsAlike (base.toNat * k.toNat / 10 ^ 6 % 2 ^ 32) (base.toNat * k'.toNat / 10 ^ 6) := by
  rw [rtoMaxTarget_toNat, documentedRtoMax, natClamp_eq_iff (by norm_num), ClampsAlike]

section Clamped

variable {config : RackRtoConfig} {base : ℕ} {found documented : Bool}

/-- Of one coefficient the clamp hides a cut exactly if 120 s are left. -/
lemma fits_of_clampsAlike
    (h : ClampsAlike (base * (config.coefficient found).toNat / 10 ^ 6 % 2 ^ 32)
      (base * (config.coefficient documented).toNat / 10 ^ 6)) :
    (found = documented ∧ (base * (config.coefficient found).toNat / 10 ^ 6 < 2 ^ 32 ∨
        120000 ≤ base * (config.coefficient found).toNat / 10 ^ 6 % 2 ^ 32)) ∨
      (found ≠ documented ∧
        ClampsAlike (base * (config.coefficient found).toNat / 10 ^ 6 % 2 ^ 32)
          (base * (config.coefficient documented).toNat / 10 ^ 6)) := by
  by_cases heq : found = documented
  · refine .inl ⟨heq, ?_⟩
    rw [ClampsAlike, ← heq] at h
    omega
  · exact .inr ⟨heq, h⟩

lemma clampsAlike_of_fits
    (h : (found = documented ∧ (base * (config.coefficient found).toNat / 10 ^ 6 < 2 ^ 32 ∨
        120000 ≤ base * (config.coefficient found).toNat / 10 ^ 6 % 2 ^ 32)) ∨
      (found ≠ documented ∧
        ClampsAlike (base * (config.coefficient found).toNat / 10 ^ 6 % 2 ^ 32)
          (base * (config.coefficient documented).toNat / 10 ^ 6))) :
    ClampsAlike (base * (config.coefficient found).toNat / 10 ^ 6 % 2 ^ 32)
      (base * (config.coefficient documented).toNat / 10 ^ 6) := by
  obtain ⟨heq, hcut⟩ | ⟨-, halike⟩ := h
  · rw [ClampsAlike, ← heq]
    omega
  · exact halike

/-- The congested coefficient is the larger one. -/
lemma coefficient_mono
    (hle : config.rtoMaxNormalPermille.toNat ≤ config.rtoMaxCongestedPermille.toNat)
    (h : found = true → documented = true) :
    (config.coefficient found).toNat ≤ (config.coefficient documented).toNat := by
  cases found with
  | true => rw [h rfl]
  | false =>
      cases documented with
      | true => exact hle
      | false => exact le_rfl

end Clamped

/-- **When the dynamic bounds are the documented ones**, for every valid and enabled
`[rack_rto]`.  In every run a sample past the warm-up wants the documented bounds exactly if
they fit: nothing of a scaled RTT is lost in its cut to 32 bits, and congestion found is
congestion documented, or the clamp hides the difference.  Between two such samples, of any
connections, the wanted minimum is monotone in the RTT, and so is the maximum, which is
never lower for congestion. -/
theorem rto_bounds_documented_iff (config : RackRtoConfig) (henabled : config.enabled = true)
    (hvalid : config.validate = .ok ()) :
    (∀ t : RtoTrace, t.Reachable → ∀ (answers : RtoAnswers) (enabled : Bool) (ops : RtoOps)
        (deliveredCe : UInt32), t.conn.Sampled config ops deliveredCe →
      (DocumentedBounds config t answers enabled ops deliveredCe ↔
        BoundsFit config t ops deliveredCe)) ∧
    ∀ t t' : RtoTrace, t.Reachable → t'.Reachable →
      ∀ (answers answers' : RtoAnswers) (enabled enabled' : Bool) (ops ops' : RtoOps)
        (deliveredCe deliveredCe' : UInt32),
      t.conn.Sampled config ops deliveredCe → t'.conn.Sampled config ops' deliveredCe' →
      BoundsFit config t ops deliveredCe → BoundsFit config t' ops' deliveredCe' →
      ops.documentedBase ≤ ops'.documentedBase →
        t.conn.wants answers enabled ops .rtoMin ≤ t'.conn.wants answers' enabled' ops' .rtoMin ∧
        (config.rtoMaxNormalPermille ≠ 0 →
          (documentedCongested config t.lastCe deliveredCe ops = true →
            documentedCongested config t'.lastCe deliveredCe' ops' = true) →
          t.conn.wants answers enabled ops .rtoMax ≤
            t'.conn.wants answers' enabled' ops' .rtoMax) := by
  have hiff : ∀ t : RtoTrace, t.Reachable → ∀ (answers : RtoAnswers) (enabled : Bool)
      (ops : RtoOps) (deliveredCe : UInt32), t.conn.Sampled config ops deliveredCe →
      (DocumentedBounds config t answers enabled ops deliveredCe ↔
        BoundsFit config t ops deliveredCe) := by
    intro t ht answers enabled ops deliveredCe hsample
    obtain ⟨generation, hmin, hmax⟩ := hsample.wants ht.known henabled hvalid answers enabled
    -- the minimum: where the scaled RTT was not cut, or the clamp hides it
    have hfloor := rtoMinTarget_documented_iff henabled hvalid generation ops.base
    rw [← hmin, ops.base_toNat] at hfloor
    -- the maximum: the same, of the coefficients found and documented
    have hupper : config.rtoMaxNormalPermille ≠ 0 → _ := fun hon =>
      rtoMaxTarget_eq_documented_iff ops.base
        (config.coefficient (foundCongested config t.conn.sock.recorded deliveredCe ops))
        (config.coefficient (documentedCongested config t.lastCe deliveredCe ops))
    constructor
    · intro hdocumented
      refine ⟨hfloor.mp hdocumented.min, fun hon => ?_⟩
      have halike := hdocumented.max hon
      rw [hmax hon, ← ops.base_toNat, hupper hon, ops.base_toNat] at halike
      exact fits_of_clampsAlike halike
    · intro hfits
      refine ⟨hfloor.mpr hfits.min, fun hon => ?_⟩
      rw [hmax hon, ← ops.base_toNat, hupper hon, ops.base_toNat]
      exact clampsAlike_of_fits (hfits.max hon)
  refine ⟨hiff, ?_⟩
  intro t t' ht ht' answers answers' enabled enabled' ops ops' deliveredCe deliveredCe' hsample
    hsample' hfits hfits' hbase
  -- the documented bounds are monotone
  have hdoc := (hiff t ht answers enabled ops deliveredCe hsample).mpr hfits
  have hdoc' := (hiff t' ht' answers' enabled' ops' deliveredCe' hsample').mpr hfits'
  refine ⟨?_, fun hon hcongested => ?_⟩
  · rw [UInt32.le_iff_toNat_le, hdoc.min, hdoc'.min]
    exact natClamp_mono (Nat.div_le_div_right (Nat.mul_le_mul_right _ hbase))
  · rw [UInt32.le_iff_toNat_le, hdoc.max hon, hdoc'.max hon]
    refine natClamp_mono (Nat.div_le_div_right (Nat.mul_le_mul hbase ?_))
    exact coefficient_mono (rackRto_limits henabled hvalid).2.2 hcongested

/-! ### A mark from the warm-up -/

/-- An RTT sample of a second on a connection with five marks. -/
def markedSample : RtoOps := ⟨2, 8000000, 1000000, true, true, some 5, true⟩

/-- A connection opened under `config`, after `n` such samples. -/
def markedTrace (config : RackRtoConfig) (n : ℕ) : RtoTrace :=
  (List.replicate n (.rtt willingKernel true markedSample)).foldl RtoTrace.step
    ⟨.opened 200000 2 willingKernel true (some (config.kernelConfig 1)) markedSample, 0⟩

lemma markedTrace_reachable (config : RackRtoConfig) (n : ℕ) : (markedTrace config n).Reachable :=
  ⟨200000, 2, willingKernel, true, _, markedSample, _, rfl⟩

/-- Under the shipped `[rack_rto]` the sixth sample is held against the fifth, and wants the
documented bounds. -/
theorem rto_bounds_documented_marked :
    DocumentedBounds SkylineConfig.speeder.rackRto (markedTrace SkylineConfig.speeder.rackRto 5)
      willingKernel true markedSample 5 := by
  refine ((rto_bounds_documented_iff SkylineConfig.speeder.rackRto rfl (by decide +kernel)).1 _
    (markedTrace_reachable _ 5) willingKernel true markedSample 5 ?_).mpr ?_
  · exact
      { subscribed := by decide +kernel
        slot := ⟨1, by decide +kernel⟩
        positive := by decide +kernel
        full := ⟨rfl, rfl⟩
        ce := rfl
        storage := .inr rfl
        warm := by decide +kernel }
  · exact
      { min := .inl (by decide +kernel)
        max := fun _ => .inl ⟨by decide +kernel, .inl (by decide +kernel)⟩ }

/-- Its fifth sample, the first past the warm-up, is not: the four before it are not recorded,
their marks count as new, and the maximum is that of congestion.  And a minimum whose scaled
RTT is cut to nothing is the floor where the ceiling is documented. -/
theorem rto_warmup_counts_old_mark :
    (let config := SkylineConfig.speeder.rackRto
    let t := markedTrace config 4
    config.enabled = true ∧ config.validate = .ok () ∧
      t.conn.Sampled config markedSample 5 ∧ t.lastCe = 5 ∧
      t.conn.wants willingKernel true markedSample .rtoMax = 6000 ∧
      ¬ DocumentedBounds config t willingKernel true markedSample 5) ∧
    (let config := { SkylineConfig.speeder.rackRto with srttPermille := 2147483648 }
    let t := markedTrace config 5
    let ops : RtoOps := { markedSample with srttArg := 16000, rttMin := 2000 }
    config.enabled = true ∧ config.validate = .ok () ∧ t.conn.Sampled config ops 5 ∧
      t.conn.wants willingKernel true ops .rtoMin = config.floorUs ∧
      documentedRtoMin config ops.documentedBase = config.ceilingUs.toNat ∧
      ¬ DocumentedBounds config t willingKernel true ops 5) := by
  refine ⟨⟨rfl, by decide +kernel, ?_, by decide +kernel, by decide +kernel, ?_⟩,
    ⟨rfl, by decide +kernel, ?_, by decide +kernel, by decide +kernel, ?_⟩⟩
  · exact ⟨by decide +kernel, ⟨1, by decide +kernel⟩, by decide +kernel, ⟨rfl, rfl⟩, rfl, .inr rfl,
      by decide +kernel⟩
  · exact fun h => absurd (h.max (by decide)) (by decide +kernel)
  · exact ⟨by decide +kernel, ⟨1, by decide +kernel⟩, by decide +kernel, ⟨rfl, rfl⟩, rfl, .inr rfl,
      by decide +kernel⟩
  · exact fun h => absurd h.min (by decide +kernel)

end SkylineSpeeder
