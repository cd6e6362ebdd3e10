import SkylineSpeeder.Cc.ModelRun
import SkylineSpeeder.Machine.Windowed

/-!
The two minima behind the base RTT, against the windows they stand for.

* `RttLog`: the RTT samples and the smoothed RTTs since the last reset, with their times;
* `MinTracks`: a minimum and its stamp against such a history; `MinTracks.take` is one offer
  and `MinTracks.later` the time going by;
* `YoungerKept`: what an ACK has to meet.  Only the time of the minimum is known, not those
  of what came after it: once the minimum is older than the window the next value replaces
  it, and what was lower in between is forgotten;
* `baseRtt_windowed`: where nothing is forgotten, both minima are those of their windows,
  and the base RTT and the queueing delay are bounded by them.
-/

namespace SkylineSpeeder

open Machine Windowed

/-! ### The history -/

/-- The time of the last ACK, the positive RTT samples and the positive smoothed RTTs since
the last reset with the times they were taken, the newest first; all in microseconds. -/
structure RttLog where
  clock : ℕ
  rtt : List (ℕ × ℕ)
  srtt : List (ℕ × ℕ)

namespace RttLog

/-- Before the first ACK. -/
def empty : RttLog := ⟨0, [], []⟩

/-- A history with one more value, if it is positive. -/
def push (now value : ℕ) (seen : List (ℕ × ℕ)) : List (ℕ × ℕ) :=
  if value = 0 then seen else (now, value) :: seen

/-- The history after an event. -/
def step (log : RttLog) : ModelEvent → RttLog
  | .reset _ _ => { log with rtt := [], srtt := [] }
  | .ack tp sample nowNs =>
      let now := nowNs.toNat / 1000
      ⟨now, push now sample.rttUs.toInt.toNat log.rtt, push now (tp.srttUs.toNat / 8) log.srtt⟩
  | .rest _ _ => log

end RttLog

/-- A flow with its history. -/
def rttStep (config : KernelConfig) (s : FlowState × RttLog) (e : ModelEvent) :
    FlowState × RttLog :=
  (modelStep config s.1 e, s.2.step e)

/-! ### One minimum -/

/-- The minimum and its stamp hold the least of the window of `seen`, or nothing if nothing
was seen. -/
structure MinTracks (span clock : ℕ) (p : UInt64 × UInt64) (seen : List (ℕ × ℕ)) : Prop where
  lower : Lower span clock seen p.1.toNat
  none : p.1 = 0 ↔ seen = []
  mem : p.1 ≠ 0 → ∃ q ∈ seen, q.2 = p.1.toNat
  stamp : p.2.toNat ≤ clock

lemma minTracks_nil (span clock : ℕ) : MinTracks span clock (0, 0) [] where
  lower := by simp [Lower]
  none := by simp
  mem := fun h => absurd rfl h
  stamp := Nat.zero_le clock

/-- Without an offer the window moves on. -/
lemma MinTracks.later {span clock now : ℕ} {p : UInt64 × UInt64} {seen : List (ℕ × ℕ)}
    (h : MinTracks span clock p seen) (hle : clock ≤ now) : MinTracks span now p seen :=
  ⟨h.lower.later hle, h.none, h.mem, h.stamp.trans hle⟩

/-- The minimum with its stamp, if there is one. -/
def stamped (p : UInt64 × UInt64) : Option (Stamped ℕ) :=
  if p.1 = 0 then Option.none else some ⟨p.1.toNat, p.2.toNat⟩

lemma stamped_eq_some_iff {p : UInt64 × UInt64} {o : Stamped ℕ} :
    stamped p = some o ↔ p.1 ≠ 0 ∧ o = ⟨p.1.toNat, p.2.toNat⟩ := by
  rw [stamped]
  by_cases hzero : p.1 = 0
  · simp [hzero]
  · simp only [hzero, if_false, Option.some.injEq, ne_eq, not_false_eq_true, true_and]
    exact eq_comm

/-- An offer is taken as the library says, if the clock has not gone back. -/
lemma minTake_eq_take (window value : UInt64) {nowUs : UInt64} {p : UInt64 × UInt64}
    (hstamp : p.2.toNat ≤ nowUs.toNat) :
    ((minTake window nowUs value p).1.toNat, (minTake window nowUs value p).2.toNat) =
      ((Stamped.take window.toNat nowUs.toNat value.toNat (stamped p)).value,
        (Stamped.take window.toNat nowUs.toNat value.toNat (stamped p)).stamp) := by
  have hage : (nowUs - p.2).toNat = nowUs.toNat - p.2.toNat :=
    UInt64.toNat_sub_of_le _ _ (UInt64.le_iff_toNat_le.mpr hstamp)
  rw [minTake, stamped]
  by_cases hzero : p.1 = 0
  · simp [hzero, Stamped.take]
  · have htaken : (p.1 = 0 ∨ value < p.1 ∨ nowUs - p.2 > window) ↔
        (value.toNat < p.1.toNat ∨ window.toNat < nowUs.toNat - p.2.toNat) := by
      rw [← hage]
      simp only [hzero, false_or, gt_iff_lt, UInt64.lt_iff_toNat_lt]
    rw [if_neg hzero, Stamped.take]
    by_cases h : p.1 = 0 ∨ value < p.1 ∨ nowUs - p.2 > window
    · rw [if_pos h, if_pos (htaken.mp h)]
    · rw [if_neg h, if_neg (mt htaken.mpr h)]

/-- **One offer.**  The minimum stays that of the window, provided that a value which
replaces a minimum out of the window is at most what the window holds. -/
lemma MinTracks.take {clock : ℕ} {window nowUs value : UInt64} {p : UInt64 × UInt64}
    {seen : List (ℕ × ℕ)} (h : MinTracks window.toNat clock p seen) (hle : clock ≤ nowUs.toNat)
    (hvalue : value ≠ 0)
    (hexpired : window.toNat < nowUs.toNat - p.2.toNat →
      Lower window.toNat nowUs.toNat seen value.toNat) :
    MinTracks window.toNat nowUs.toNat (minTake window nowUs value p)
      ((nowUs.toNat, value.toNat) :: seen) := by
  have hlater := h.later hle
  obtain ⟨hmin, -⟩ := Prod.mk.inj (minTake_eq_take window value hlater.stamp)
  set taken := Stamped.take window.toNat nowUs.toNat value.toNat (stamped p)
  have hlower :
      Lower window.toNat nowUs.toNat ((nowUs.toNat, value.toNat) :: seen) taken.value := by
    refine Lower.take (fun hnone => h.none.mp ?_) (fun o ho => ?_) fun o ho hspan => hexpired ?_
    · by_contra hne
      simp [stamped, hne] at hnone
    · rw [(stamped_eq_some_iff.mp ho).2]
      exact hlater.lower
    · rwa [(stamped_eq_some_iff.mp ho).2] at hspan
  have hmem : ∃ q ∈ (nowUs.toNat, value.toNat) :: seen, q.2 = taken.value := by
    refine Stamped.take_mem fun o ho => ?_
    obtain ⟨hne, rfl⟩ := stamped_eq_some_iff.mp ho
    exact h.mem hne
  have hpos : (minTake window nowUs value p).1 ≠ 0 := by
    rw [minTake]
    split_ifs with hold
    · exact hvalue
    · exact fun hzero => hold (.inl hzero)
  refine ⟨by rwa [hmin], ?_, fun _ => by rwa [hmin], ?_⟩
  · exact ⟨fun hzero => absurd hzero hpos, fun hnil => absurd hnil (List.cons_ne_nil _ _)⟩
  · rw [minTake]
    split_ifs
    · exact le_rfl
    · exact hlater.stamp

/-! ### Runs -/

/-- The clock has not gone back since the last ACK. -/
def Timely (log : RttLog) : ModelEvent → Prop
  | .ack _ _ nowNs => log.clock ≤ nowNs.toNat / 1000
  | _ => True

/-- Nothing younger is forgotten: a value that comes when the minimum is older than the
window is at most everything the window holds.  The smoothed RTT, kept in eighths of a
microsecond, is zero or at least one. -/
def YoungerKept (config : KernelConfig) (flow : FlowState) (log : RttLog) : ModelEvent → Prop
  | .ack tp sample nowNs =>
      let now := nowNs.toNat / 1000
      let span := config.minRttWindowUs.toNat
      (tp.srttUs.toNat = 0 ∨ 8 ≤ tp.srttUs.toNat) ∧
      (span < now - flow.minRttStampUs.toNat → 0 < sample.rttUs.toInt →
        Lower span now log.rtt sample.rttUs.toInt.toNat) ∧
      (span < now - flow.minSrttStampUs.toNat → 0 < tp.srttUs.toNat →
        Lower span now log.srtt (tp.srttUs.toNat / 8))
  | _ => True

instance (config : KernelConfig) (s : FlowState × RttLog) (e : ModelEvent) :
    Decidable (Timely s.2 e ∧ YoungerKept config s.1 s.2 e) := by
  cases e with
  | ack tp sample nowNs => exact inferInstanceAs (Decidable ((_ ≤ _) ∧ (_ ∨ _) ∧ _ ∧ _))
  | reset tp nowNs => exact inferInstanceAs (Decidable (True ∧ True))
  | rest cubic lastLossDelivered => exact inferInstanceAs (Decidable (True ∧ True))

/-- Both minima are those of their windows. -/
structure Windows (config : KernelConfig) (flow : FlowState) (log : RttLog) : Prop where
  rtt : MinTracks config.minRttWindowUs.toNat log.clock flow.rttPart log.rtt
  srtt : MinTracks config.minRttWindowUs.toNat log.clock flow.srttPart log.srtt

/-- One minimum over an ACK, which offers it the value `v` if that is positive. -/
lemma MinTracks.offer {config : KernelConfig} {clock v : ℕ} {nowNs value : UInt64}
    {p : UInt64 × UInt64} {seen : List (ℕ × ℕ)} {offered : Prop} [Decidable offered]
    (h : MinTracks config.minRttWindowUs.toNat clock p seen) (hclock : clock ≤ nowNs.toNat / 1000)
    (hoffered : offered ↔ v ≠ 0) (hvalue : offered → value.toNat = v)
    (hkept : config.minRttWindowUs.toNat < nowNs.toNat / 1000 - p.2.toNat → v ≠ 0 →
      Lower config.minRttWindowUs.toNat (nowNs.toNat / 1000) seen v) :
    MinTracks config.minRttWindowUs.toNat (nowNs.toNat / 1000)
      (if offered then minTake config.minRttWindowUs.toUInt64 (nowNs / 1000) value p else p)
      (RttLog.push (nowNs.toNat / 1000) v seen) := by
  have hspan : config.minRttWindowUs.toUInt64.toNat = config.minRttWindowUs.toNat :=
    UInt32.toNat_toUInt64 _
  have hnow : (nowNs / 1000).toNat = nowNs.toNat / 1000 := UInt64.toNat_div _ _
  rw [RttLog.push]
  by_cases hoff : offered
  · have hv : v ≠ 0 := hoffered.mp hoff
    rw [if_pos hoff, if_neg hv]
    rw [← hspan, ← hnow, ← hvalue hoff] at hkept ⊢
    rw [← hspan] at h
    refine h.take (by rwa [hnow]) (fun hzero => ?_) fun hexp => hkept hexp ?_
    · exact hv ((hvalue hoff).symm.trans (congrArg UInt64.toNat hzero))
    · rwa [hvalue hoff]
  · rw [if_neg hoff, if_pos (not_not.mp (mt hoffered.mpr hoff))]
    exact h.later hclock

/-- An ACK that meets the conditions keeps both. -/
lemma windows_ack {config : KernelConfig} {flow : FlowState} {log : RttLog} {tp : TcpSock}
    {sample : RateSample} {nowNs : UInt64} (h : Windows config flow log)
    (htime : Timely log (.ack tp sample nowNs))
    (hkept : YoungerKept config flow log (.ack tp sample nowNs)) :
    Windows config (modelStep config flow (.ack tp sample nowNs))
      (log.step (.ack tp sample nowNs)) := by
  obtain ⟨hwhole, hrtt, hsrtt⟩ := hkept
  obtain ⟨hrttPart, hsrttPart⟩ := updateModel_minima tp flow config sample nowNs
  constructor
  · show MinTracks _ _ (skylineUpdateModel tp flow config sample nowNs).1.rttPart _
    rw [hrttPart]
    -- a positive `long` keeps its value in 64 bits without a sign
    refine h.rtt.offer htime ?_ (fun hpos => ?_) fun hexp hv => hrtt hexp (by omega)
    · rw [gt_iff_lt, Int64.lt_iff_toInt_lt, Int64.toInt_zero]
      omega
    · exact Int64.toNat_toUInt64_of_le (Int64.le_of_lt hpos)
  · show MinTracks _ _ (skylineUpdateModel tp flow config sample nowNs).1.srttPart _
    rw [hsrttPart]
    refine h.srtt.offer htime ?_ (fun _ => srtt_toNat tp) fun hexp hv => hsrtt hexp (by omega)
    rw [gt_iff_lt, UInt32.lt_iff_toNat_lt, UInt32.toNat_zero]
    omega

/-- One event that meets the conditions keeps both. -/
lemma windows_step {config : KernelConfig} (s : FlowState × RttLog) (e : ModelEvent)
    (hs : Windows config s.1 s.2) (he : Timely s.2 e ∧ YoungerKept config s.1 s.2 e) :
    Windows config (rttStep config s e).1 (rttStep config s e).2 := by
  cases e with
  | reset tp nowNs => exact ⟨minTracks_nil _ _, minTracks_nil _ _⟩
  | rest cubic lastLossDelivered => exact ⟨hs.rtt, hs.srtt⟩
  | ack tp sample nowNs => exact windows_ack hs he.1 he.2

/-- What a value of each window says about the base RTT and the queueing delay. -/
lemma Windows.baseRtt_le {config : KernelConfig} {flow : FlowState} {log : RttLog}
    (h : Windows config flow log) {x y : ℕ × ℕ} (hx : x ∈ log.rtt)
    (hxw : log.clock ≤ x.1 + config.minRttWindowUs.toNat) (hy : y ∈ log.srtt)
    (hyw : log.clock ≤ y.1 + config.minRttWindowUs.toNat) :
    (skylineBaseRttUs flow).toNat ≤ max x.2 y.2 := by
  rw [baseRtt_toNat]
  exact max_le_max (h.rtt.lower x hx hxw) (h.srtt.lower y hy hyw)

/-- The queueing delay is the smoothed RTT above the base RTT. -/
lemma queueDelay_toNat (tp : TcpSock) (flow : FlowState) :
    (skylineQueueDelayUs tp flow).toNat =
      tp.srttUs.toNat / 8 - (skylineBaseRttUs flow).toNat := by
  rw [skylineQueueDelayUs, ← srtt_toNat]
  by_cases hgt : (tp.srttUs >>> 3).toUInt64 > skylineBaseRttUs flow
  · rw [if_pos hgt, UInt64.toNat_sub_of_le _ _ (UInt64.le_of_lt hgt)]
  · have hle := UInt64.le_iff_toNat_le.mp (UInt64.not_lt.mp hgt)
    rw [if_neg hgt, Nat.sub_eq_zero_of_le hle]
    rfl

/-- **The base RTT is a true windowed minimum**, in every run from a reset, at times that do
not go back, whose ACKs meet `YoungerKept`: each minimum is at most every value of its window,
is one of the values since the reset, and is missing only if there are none; so the base RTT
is at most the larger of any two values of the windows, and the queueing delay at least what
the smoothed RTT exceeds that by. -/
theorem baseRtt_windowed (config : KernelConfig) (flow₀ : FlowState) (tp₀ : TcpSock)
    (now₀ : UInt64) (es : List ModelEvent)
    (hrun : Along (rttStep config) (fun s e => Timely s.2 e ∧ YoungerKept config s.1 s.2 e)
      (skylineResetGeneration flow₀ tp₀ now₀, .empty) es) :
    let s := es.foldl (rttStep config) (skylineResetGeneration flow₀ tp₀ now₀, .empty)
    let span := config.minRttWindowUs.toNat
    (Lower span s.2.clock s.2.rtt s.1.minRttUs.toNat ∧ (s.1.minRttUs = 0 ↔ s.2.rtt = []) ∧
      (s.1.minRttUs ≠ 0 → ∃ x ∈ s.2.rtt, x.2 = s.1.minRttUs.toNat)) ∧
    (Lower span s.2.clock s.2.srtt s.1.minSrttUs.toNat ∧ (s.1.minSrttUs = 0 ↔ s.2.srtt = []) ∧
      (s.1.minSrttUs ≠ 0 → ∃ y ∈ s.2.srtt, y.2 = s.1.minSrttUs.toNat)) ∧
    ∀ x ∈ s.2.rtt, s.2.clock ≤ x.1 + span → ∀ y ∈ s.2.srtt, s.2.clock ≤ y.1 + span →
      (skylineBaseRttUs s.1).toNat ≤ max x.2 y.2 ∧
      ∀ tp, tp.srttUs.toNat / 8 - max x.2 y.2 ≤ (skylineQueueDelayUs tp s.1).toNat := by
  intro s span
  have hs : Windows config s.1 s.2 :=
    along_invariant (I := fun s : FlowState × RttLog => Windows config s.1 s.2)
      windows_step es _ ⟨minTracks_nil _ _, minTracks_nil _ _⟩ hrun
  refine ⟨⟨hs.rtt.lower, hs.rtt.none, hs.rtt.mem⟩, ⟨hs.srtt.lower, hs.srtt.none, hs.srtt.mem⟩,
    fun x hx hxw y hy hyw => ?_⟩
  have hbase := hs.baseRtt_le hx hxw hy hyw
  refine ⟨hbase, fun tp => ?_⟩
  rw [queueDelay_toNat]
  exact Nat.sub_le_sub_left hbase _

/-- An ACK `seconds` after boot with an RTT sample of `ms` milliseconds, which the smoothed
RTT follows. -/
def rttAck (seconds : UInt64) (ms : UInt32) : ModelEvent :=
  .ack { TcpSock.established with srttUs := 8000 * ms }
    { RateSample.tenSegments with rttUs := 1000 * ms.toUInt64.toInt64 } (seconds * 1000000000)

/-- On the shipped configuration, with a window of 30 s: the minimum of 50 ms is replaced
when it is 31 s old, by a value that is the least of the window. -/
theorem baseRtt_windowed_after_expiry :
    let s := [rttAck 1 50, rttAck 21 60, rttAck 32 55].foldl (rttStep .speeder)
      (skylineResetGeneration .zero .established 1000000, .empty)
    Lower 30000000 s.2.clock s.2.rtt s.1.minRttUs.toNat ∧ s.1.minRttUs = 55000 := by
  have h := baseRtt_windowed .speeder .zero .established 1000000
    [rttAck 1 50, rttAck 21 60, rttAck 32 55] (by decide +kernel)
  exact ⟨h.1.1, by decide +kernel⟩

/-- **The lower value that expiry forgets.**  The sample of 60 ms is 11 s old when the
minimum of 50 ms leaves the window and 100 ms replace it: the base RTT is 40 ms above what
the window holds, and a smoothed RTT of 100 ms shows no queue. -/
theorem baseRtt_forgets_younger :
    let s := [rttAck 1 50, rttAck 21 60, rttAck 32 100].foldl (rttStep .speeder)
      (skylineResetGeneration .zero .established 1000000, .empty)
    ¬ Lower 30000000 s.2.clock s.2.rtt s.1.minRttUs.toNat ∧
    ¬ Lower 30000000 s.2.clock s.2.srtt s.1.minSrttUs.toNat ∧
    (skylineBaseRttUs s.1).toNat = 100000 ∧
    (skylineQueueDelayUs { TcpSock.established with srttUs := 800000 } s.1).toNat = 0 := by
  decide +kernel

end SkylineSpeeder
