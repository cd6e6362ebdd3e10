import SkylineSpeeder.Cc.ModelRun
import SkylineSpeeder.Machine.Windowed

/-!
The bandwidth filter against the history it stands for.

* `BwHistory`: the samples accepted since the last reset, by round, with rounds that
  accepted none left out; `BwHistory.Accepts` says which samples those are, over the
  integers and from the history alone;
* `Filters`: the invariant: the running maximum, the shift register and the cached
  maximum each hold the peak of their part of the history;
* `filters_step`, `bwFilter_exact`: it holds over every run.
-/

namespace SkylineSpeeder

open Windowed
open Word (minT)

/-! ### The history -/

/-- A sample that was accepted. -/
structure Measured where
  rate : UInt64
  retrans : Bool
  deriving DecidableEq

/-- The accepted samples since the last reset, the newest first: those of this round, and
by round those of the measured rounds before it. -/
structure BwHistory where
  current : List Measured
  earlier : List (List Measured)

/-- The rates of a list of samples. -/
def rates (ms : List Measured) : List ℕ := ms.map fun m => m.rate.toNat

namespace BwHistory

/-- After a reset. -/
def empty : BwHistory := ⟨[], []⟩

/-- All samples since the last reset. -/
def log (h : BwHistory) : List Measured := h.current ++ h.earlier.flatten

/-- The samples of this round and of the last `w` measured rounds before it. -/
def window (w : ℕ) (h : BwHistory) : List Measured := h.current ++ (h.earlier.take w).flatten

/-- A round end; a round that accepted nothing leaves no trace. -/
def endRound (h : BwHistory) : BwHistory :=
  if h.current = [] then h else ⟨[], h.current :: h.earlier⟩

/-- A sample is accepted if its rate is not zero, it is not app-limited, it spans at most
two smoothed RTTs (if there is one), and it is no retransmission unless a sample has been
accepted before. -/
def Accepts (h : BwHistory) (tp : TcpSock) (sample : RateSample) : Prop :=
  skylineRateSampleBps tp sample ≠ 0 ∧ sample.isAppLimited = false ∧
    (tp.srttUs.toNat / 8 = 0 ∨ sample.intervalUs.toInt ≤ 2 * (tp.srttUs.toNat / 8 : ℕ)) ∧
    (h.log ≠ [] ∨ sample.isRetrans = false)

instance (h : BwHistory) (tp : TcpSock) (sample : RateSample) : Decidable (h.Accepts tp sample) :=
  inferInstanceAs (Decidable (_ ∧ _))

/-- The history after the sample of an ACK. -/
def accept (h : BwHistory) (tp : TcpSock) (sample : RateSample) : BwHistory :=
  if h.Accepts tp sample then
    { h with current := ⟨skylineRateSampleBps tp sample, sample.isRetrans⟩ :: h.current }
  else h

/-- The history after an event.  The ACK that ends a round belongs to the next one. -/
def step (h : BwHistory) (flow : FlowState) : ModelEvent → BwHistory
  | .reset _ _ => empty
  | .ack tp sample _ =>
      (if skylineRoundReached sample flow.nextRoundDelivered then h.endRound else h).accept tp
        sample
  | .rest _ _ => h

end BwHistory

/-- A flow with its history. -/
def bwStep (config : KernelConfig) (s : FlowState × BwHistory) (e : ModelEvent) :
    FlowState × BwHistory :=
  (modelStep config s.1 e, s.2.step s.1 e)

/-! ### The invariant -/

/-- The filter holds the peaks of the history. -/
structure Filters (w : ℕ) (p : BwPart) (h : BwHistory) : Prop where
  round : p.round.toNat = peak (rates h.current)
  cells : Holds (fun i => (p.samples i).toNat) (h.earlier.map fun r => peak (rates r))
  bw : p.bw.toNat = peak (rates (h.window w))
  pos : ∀ m ∈ h.log, 0 < m.rate.toNat
  measured : ∀ r ∈ h.earlier, r ≠ []
  first : ∀ m ∈ h.log.getLast?, m.retrans = false

lemma filters_empty (w : ℕ) : Filters w ⟨0, 0, fun _ => 0⟩ .empty where
  round := rfl
  cells := holds_nil
  bw := by simp [BwHistory.window, BwHistory.empty, rates]
  pos := by simp [BwHistory.log, BwHistory.empty]
  measured := by simp [BwHistory.empty]
  first := by simp [BwHistory.log, BwHistory.empty]

section Step

variable {w : ℕ} {p : BwPart} {h : BwHistory}

/-- Positive rates have a positive peak. -/
lemma peak_rates_eq_zero_iff {ms : List Measured} (hpos : ∀ m ∈ ms, 0 < m.rate.toNat) :
    peak (rates ms) = 0 ↔ ms = [] := by
  constructor
  · intro hzero
    rw [List.eq_nil_iff_forall_not_mem]
    intro m hm
    have hle : m.rate.toNat ≤ peak (rates ms) := le_peak_of_mem (List.mem_map_of_mem hm)
    have := hpos m hm
    omega
  · rintro rfl
    rfl

/-- The running maximum of a round is zero exactly if nothing was accepted in it. -/
lemma Filters.round_eq_zero_iff (hp : Filters w p h) : p.round = 0 ↔ h.current = [] := by
  rw [← UInt64.toNat_inj, hp.round]
  exact peak_rates_eq_zero_iff fun m hm => hp.pos m (List.mem_append_left _ hm)

/-- The window is part of the log. -/
lemma mem_log_of_mem_window {m : Measured} (hm : m ∈ h.window w) : m ∈ h.log := by
  rw [BwHistory.window, List.mem_append] at hm
  rw [BwHistory.log, List.mem_append]
  refine hm.imp_right fun hm => ?_
  obtain ⟨r, hr, hmr⟩ := List.mem_flatten.mp hm
  exact List.mem_flatten.mpr ⟨r, List.mem_of_mem_take hr, hmr⟩

/-- There is an estimate exactly if a sample was accepted: the newest measured round is
always in the window. -/
lemma Filters.bw_eq_zero_iff (hw : 1 ≤ w) (hp : Filters w p h) : p.bw = 0 ↔ h.log = [] := by
  rw [← UInt64.toNat_inj, hp.bw]
  refine (peak_rates_eq_zero_iff fun m hm => hp.pos m (mem_log_of_mem_window hm)).trans ?_
  rw [BwHistory.window, BwHistory.log, List.append_eq_nil_iff, List.append_eq_nil_iff]
  refine and_congr_right fun _ => ?_
  cases hearlier : h.earlier with
  | nil => simp
  | cons r rs =>
      have hr : r ≠ [] := hp.measured r (by rw [hearlier]; exact List.mem_cons_self)
      obtain ⟨n, rfl⟩ := Nat.exists_eq_add_of_le hw
      simp [Nat.add_comm 1 n, hr]

/-- The scan of the samples, in the natural numbers. -/
lemma bwWindowMaximum_toNat (window : UInt32) (samples : Fin 10 → UInt64) :
    (bwWindowMaximum window samples).toNat =
      scan window.toNat fun i => (samples i).toNat := by
  rw [bwWindowMaximum, scan]
  refine (List.foldl_hom UInt64.toNat fun best i => ?_).symm
  simp only [gt_iff_lt, UInt64.lt_iff_toNat_lt]
  rw [apply_ite UInt64.toNat]

/-- A round end keeps the invariant. -/
lemma Filters.endRound {config : KernelConfig} (hw : config.bwWindowRtts.toNat = w)
    (hw10 : w ≤ 10) (hp : Filters w p h) : Filters w (p.endRound config) h.endRound := by
  rw [BwPart.endRound, BwHistory.endRound]
  by_cases hnone : h.current = []
  · rw [if_pos hnone, if_neg (not_not.mpr (hp.round_eq_zero_iff.mpr hnone))]
    exact hp
  rw [if_neg hnone, if_pos (mt hp.round_eq_zero_iff.mp hnone)]
  -- the round that ended is shifted into the register and leads the measured rounds
  have hcells : Holds (fun i => ((Fin.cons p.round (Fin.init p.samples) : Fin 10 → UInt64) i).toNat)
      ((h.current :: h.earlier).map fun r => peak (rates r)) := by
    have hshift := hp.cells.shift p.round.toNat
    rw [hp.round] at hshift
    intro i
    refine Eq.trans ?_ (hshift i)
    refine Fin.cases ?_ (fun j => ?_) i
    · exact hp.round
    · rfl
  have hlog : BwHistory.log ⟨[], h.current :: h.earlier⟩ = h.log := by
    simp [BwHistory.log]
  refine ⟨rfl, hcells, ?_, ?_, ?_, ?_⟩
  · have hmin : (minT config.bwWindowRtts 10).toNat = w := by
      rw [Word.U32.toNat_minT, hw]
      exact min_eq_left hw10
    rw [bwWindowMaximum_toNat, hmin, hcells.scan_eq hw10, BwHistory.window, List.nil_append, rates,
      List.map_flatten, peak_flatten, List.map_map, ← List.map_take]
    rfl
  · rw [hlog]
    exact hp.pos
  · intro r hr
    rcases List.mem_cons.mp hr with rfl | hr
    · exact hnone
    · exact hp.measured r hr
  · rw [hlog]
    exact hp.first

/-- A sample with a rate has a positive interval. -/
lemma interval_pos {tp : TcpSock} {sample : RateSample} (h : skylineRateSampleBps tp sample ≠ 0) :
    0 < sample.intervalUs.toInt := by
  rw [skylineRateSampleBps] at h
  by_contra hle
  apply h
  rw [if_pos]
  right
  rw [Int64.le_iff_toInt_le]
  exact not_lt.mp hle

/-- `skyline_sample_measures_path` over the integers. -/
lemma measuresPath_iff {tp : TcpSock} {sample : RateSample} (h : 0 < sample.intervalUs.toInt) :
    skylineSampleMeasuresPath tp sample = true ↔
      tp.srttUs.toNat / 8 = 0 ∨ sample.intervalUs.toInt ≤ 2 * (tp.srttUs.toNat / 8 : ℕ) := by
  have hsrtt := srtt_toNat tp
  have hlt := tp.srttUs.toNat_lt
  have hdouble : ((2 : UInt64) * (tp.srttUs >>> 3).toUInt64).toNat = 2 * (tp.srttUs.toNat / 8) := by
    rw [UInt64.toNat_mul, hsrtt]
    simp only [UInt64.reduceToNat]
    omega
  have hinterval : (sample.intervalUs.toUInt64.toNat : ℤ) = sample.intervalUs.toInt := by
    rw [Int64.toNat_toUInt64_of_le (Int64.le_iff_toInt_le.mpr h.le)]
    exact Int.toNat_of_nonneg h.le
  rw [skylineSampleMeasuresPath]
  simp only [Bool.or_eq_true, beq_iff_eq, decide_eq_true_eq]
  rw [← UInt64.toNat_inj, hsrtt, UInt64.le_iff_toNat_le, hdouble]
  refine or_congr Iff.rfl ?_
  omega

/-- The filter takes exactly the samples the history accepts. -/
lemma Filters.accepts_iff (hw : 1 ≤ w) (hp : Filters w p h) (tp : TcpSock) (sample : RateSample) :
    p.accepts tp sample ↔ h.Accepts tp sample := by
  rw [BwPart.accepts, BwHistory.Accepts]
  refine and_congr_right fun hrate => and_congr_right fun _ => ?_
  rw [measuresPath_iff (interval_pos hrate)]
  exact and_congr_right fun _ => or_congr_left (not_congr (hp.bw_eq_zero_iff hw))

/-- The sample of an ACK keeps the invariant. -/
lemma Filters.accept (hw : 1 ≤ w) (hp : Filters w p h) (tp : TcpSock) (sample : RateSample) :
    Filters w (p.accept tp sample) (h.accept tp sample) := by
  rw [BwPart.accept, BwHistory.accept]
  by_cases haccepts : h.Accepts tp sample
  · rw [if_pos haccepts, if_pos ((hp.accepts_iff hw tp sample).mpr haccepts)]
    obtain ⟨hrate, -, -, hseed⟩ := haccepts
    refine ⟨?_, hp.cells, ?_, ?_, hp.measured, ?_⟩
    · exact (Word.U64.toNat_maxT _ _).trans (congrArg (max _) hp.round)
    · exact (Word.U64.toNat_maxT _ _).trans (congrArg (max _) hp.bw)
    · intro m hm
      rcases List.mem_cons.mp hm with rfl | hm
      · exact Nat.pos_of_ne_zero fun hzero => hrate (UInt64.toNat_inj.mp hzero)
      · exact hp.pos m hm
    · -- the first sample of the log changes only if the log was empty
      intro m hm
      have hlog : BwHistory.log { h with
          current := ⟨skylineRateSampleBps tp sample, sample.isRetrans⟩ :: h.current } =
          ⟨skylineRateSampleBps tp sample, sample.isRetrans⟩ :: h.log := rfl
      rw [hlog] at hm
      cases hold : h.log with
      | nil =>
          rw [hold, List.getLast?_singleton, Option.mem_some_iff] at hm
          rw [← hm]
          exact hseed.resolve_left fun hne => hne hold
      | cons m' ms =>
          rw [hold, List.getLast?_cons_cons, ← hold] at hm
          exact hp.first m hm
  · rw [if_neg haccepts, if_neg (mt (hp.accepts_iff hw tp sample).mp haccepts)]
    exact hp

end Step

/-! ### Runs -/

/-- One event keeps the invariant. -/
lemma filters_step {config : KernelConfig} {w : ℕ} (hconfig : config.bwWindowRtts.toNat = w)
    (hw : 1 ≤ w) (hw10 : w ≤ 10) (s : FlowState × BwHistory) (e : ModelEvent)
    (hs : Filters w s.1.bwPart s.2) :
    Filters w (bwStep config s e).1.bwPart (bwStep config s e).2 := by
  obtain ⟨flow, h⟩ := s
  cases e with
  | reset tp nowNs => exact filters_empty w
  | rest cubic lastLossDelivered => exact hs
  | ack tp sample nowNs =>
      rw [bwStep, modelStep, updateModel_bw, BwHistory.step]
      refine Filters.accept hw ?_ tp sample
      split
      · exact hs.endRound hconfig hw10
      · exact hs

/-- **The bandwidth filter is an exact windowed maximum.**  On one configuration, with a
window of 1 to 10 rounds, after any run from a reset: the estimate is the larger of the
running maximum of the round and the first cells of the register; it is the largest of the
samples accepted in this round and in the last measured rounds before it; it is zero exactly
if none was accepted; and the first one accepted is no retransmission. -/
theorem bwFilter_exact (config : KernelConfig) (hlo : 1 ≤ config.bwWindowRtts)
    (hhi : config.bwWindowRtts ≤ 10) (flow₀ : FlowState) (tp₀ : TcpSock) (now₀ : UInt64)
    (es : List ModelEvent) :
    let s := es.foldl (bwStep config) (skylineResetGeneration flow₀ tp₀ now₀, BwHistory.empty)
    let w := config.bwWindowRtts.toNat
    s.1.bwBps.toNat =
      max s.1.roundRateBps.toNat
        (peak ((List.ofFn fun i => (s.1.bwSamples i).toNat).take w)) ∧
    s.1.bwBps.toNat = peak (rates (s.2.window w)) ∧
    (s.1.bwBps = 0 ↔ s.2.log = []) ∧
    (∀ m ∈ s.2.log.getLast?, m.retrans = false) := by
  intro s w
  have hw : 1 ≤ w := UInt32.le_iff_toNat_le.mp hlo
  have hw10 : w ≤ 10 := UInt32.le_iff_toNat_le.mp hhi
  have hs : Filters w s.1.bwPart s.2 :=
    Machine.along_invariant (P := fun _ _ => True)
      (I := fun s : FlowState × BwHistory => Filters w s.1.bwPart s.2)
      (fun s e hs _ => filters_step rfl hw hw10 s e hs) es _ (filters_empty w)
      (Machine.along_of_forall es _ fun _ _ => trivial)
  refine ⟨?_, hs.bw, hs.bw_eq_zero_iff hw, hs.first⟩
  have hcells := hs.cells.scan_eq hw10
  rw [(holds_ofFn _).scan_eq hw10] at hcells
  calc s.1.bwBps.toNat
      = peak (rates (s.2.window w)) := hs.bw
    _ = max (peak (rates s.2.current))
          (peak ((s.2.earlier.map fun r => peak (rates r)).take w)) := by
        rw [BwHistory.window, rates, List.map_append, peak_append, List.map_flatten, peak_flatten,
          List.map_map, ← List.map_take]
        rfl
    _ = _ := by
        rw [← hs.round, ← hcells]
        rfl

/-- Two ACKs on the shipped configuration, the first of which ends a round: the estimate is
the rate of the faster one. -/
theorem bwFilter_exact_two_acks :
    let s := [ModelEvent.ack .established .tenSegments 2000000, .ack .established
      { RateSample.tenSegments with delivered := 5, priorMstamp := 0 } 3000000].foldl
        (bwStep .speeder) (skylineResetGeneration .zero .established 1000000, BwHistory.empty)
    s.2.log.length = 2 ∧ s.1.bwBps.toNat = 2896000 ∧ s.1.bwBps ≠ 0 := by
  have h := bwFilter_exact .speeder (by decide) (by decide) .zero .established 1000000
    [.ack .established .tenSegments 2000000, .ack .established
      { RateSample.tenSegments with delivered := 5, priorMstamp := 0 } 3000000]
  exact ⟨by decide +kernel, h.2.1.trans (by decide +kernel),
    mt h.2.2.1.mp (by decide +kernel)⟩

end SkylineSpeeder
