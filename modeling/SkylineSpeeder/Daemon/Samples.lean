import Mathlib.Tactic

/-!
The readings behind `RuntimeStatus::metrics_recent`: `MetricsSamples` of the daemon.

* `push`, `window`: the operations, over a deque that keeps the newest `keep` readings;
* `foldl_push_eq`: what the deque holds after any number of readings;
* `Spaced`: readings at least `METRICS_SAMPLE_EVERY` apart, with counters that only grow;
  `Spaced.head_le` says how old the oldest of them is then;
* `window_covers_last_minute`: the main result: the deque answers as if nothing had ever
  been dropped.
-/

namespace SkylineSpeeder.Samples

/-! ### The readings -/

/-- `METRIC_COUNTERS`. -/
def metricCounters : ℕ := 10

/-- `SkylineMetrics`, as the array that `counters` casts it to. -/
abbrev Metrics := Fin metricCounters → UInt64

/-- `u64::saturating_sub`. -/
def saturatingSub (a b : UInt64) : UInt64 := if b ≤ a then a - b else 0

/-- `SkylineMetrics::since`. -/
def Metrics.since (current earlier : Metrics) : Metrics :=
  fun i => saturatingSub (current i) (earlier i)

/-- A reading: an `Instant`, in nanoseconds, and the counters. -/
abbrev Reading := ℕ × Metrics

/-- A second. -/
def second : ℕ := 1000000000

/-- `METRICS_SAMPLE_EVERY`. -/
def sampleEvery : ℕ := 5 * second

/-- `METRICS_RECENT_WINDOW`. -/
def recentWindow : ℕ := 60 * second

/-- The `keep` of `MetricsSamples::push`. -/
def keep : ℕ := recentWindow / second / (sampleEvery / second) + 2

/-- The `while` of `MetricsSamples::push`. -/
def popExcess : List Reading → List Reading
  | [] => []
  | r :: rs => if rs.length + 1 > keep then popExcess rs else r :: rs

/-- `MetricsSamples::push`. -/
def push (readings : List Reading) (r : Reading) : List Reading := popExcess (readings ++ [r])

/-- `MetricsWindow`. -/
structure MetricsWindow where
  seconds : ℕ
  metrics : Metrics

/-- `current` against a reading. -/
def MetricsWindow.against (now : ℕ) (current : Metrics) (r : Reading) : MetricsWindow :=
  ⟨(now - r.1) / second, current.since r.2⟩

/-- `MetricsSamples::window`; `Instant::saturating_duration_since` is the subtraction of
numbers. -/
def window (readings : List Reading) (now : ℕ) (current : Metrics) : Option MetricsWindow :=
  ((readings.reverse.find? fun r => recentWindow ≤ now - r.1).or readings.head?).map
    (MetricsWindow.against now current)

/-! ### What the deque holds -/

lemma popExcess_eq (rs : List Reading) : popExcess rs = rs.drop (rs.length - keep) := by
  induction rs with
  | nil => rfl
  | cons r rs ih =>
      rw [popExcess]
      by_cases hlong : rs.length + 1 > keep
      · have hdrop : (r :: rs).length - keep = (rs.length - keep) + 1 := by
          rw [List.length_cons]
          omega
        rw [if_pos hlong, ih, hdrop, List.drop_succ_cons]
      · have hdrop : (r :: rs).length - keep = 0 := by
          rw [List.length_cons]
          omega
        rw [if_neg hlong, hdrop, List.drop_zero]

/-- **The deque holds the newest `keep` readings.** -/
lemma foldl_push_eq (history : List Reading) :
    history.foldl push [] = history.drop (history.length - keep) := by
  induction history using List.reverseRecOn with
  | nil => rfl
  | append_singleton history r ih =>
      have hkeep : keep = 14 := rfl
      rw [List.foldl_append, ih, List.foldl_cons, List.foldl_nil, push, popExcess_eq,
        ← List.drop_append_of_le_length (by omega), List.drop_drop]
      congr 1
      rw [List.length_drop, List.length_append, List.length_singleton]
      omega

/-! ### Readings that are spaced -/

/-- Each reading is taken at least `METRICS_SAMPLE_EVERY` after the one before it, and no
counter has gone down. -/
def Spaced (history : List Reading) : Prop :=
  history.IsChain fun r r' => r.1 + sampleEvery ≤ r'.1 ∧ ∀ i, r.2 i ≤ r'.2 i

/-- The query comes after the last reading. -/
def After (history : List Reading) (now : ℕ) (current : Metrics) : Prop :=
  ∀ last ∈ history.getLast?, last.1 ≤ now ∧ ∀ i, last.2 i ≤ current i

/-- The first of some readings is as old as there are readings behind it, and none of its
counters is above the current one. -/
lemma Spaced.head_le {r : Reading} {rs : List Reading} {now : ℕ} {current : Metrics}
    (h : Spaced (r :: rs)) (hafter : After (r :: rs) now current) :
    r.1 + rs.length * sampleEvery ≤ now ∧ ∀ i, r.2 i ≤ current i := by
  induction rs generalizing r with
  | nil =>
      obtain ⟨hle, hcounters⟩ := hafter r rfl
      exact ⟨by simpa using hle, hcounters⟩
  | cons r' rs ih =>
      obtain ⟨⟨hgap, hgrow⟩, hrest⟩ := List.isChain_cons_cons.mp h
      obtain ⟨hle, hcounters⟩ := ih hrest fun last hlast => hafter last hlast
      refine ⟨?_, fun i => UInt64.le_trans (hgrow i) (hcounters i)⟩
      rw [List.length_cons, Nat.succ_mul]
      omega

/-- So is every later one. -/
lemma Spaced.mem_le {history : List Reading} {now : ℕ} {current : Metrics} (h : Spaced history)
    (hafter : After history now current) {before after : List Reading} {r : Reading}
    (hr : history = before ++ r :: after) :
    r.1 + after.length * sampleEvery ≤ now ∧ ∀ i, r.2 i ≤ current i := by
  have hsuffix : r :: after <:+ history := ⟨before, hr.symm⟩
  refine Spaced.head_le (List.IsChain.suffix h hsuffix) fun last hlast => hafter last ?_
  rw [hr, List.getLast?_append]
  rw [Option.mem_def] at hlast ⊢
  rw [hlast]
  rfl

/-- No reading is older than the first. -/
lemma Spaced.first_le {r : Reading} {rs : List Reading} (h : Spaced (r :: rs)) :
    ∀ r' ∈ r :: rs, r.1 ≤ r'.1 := by
  induction rs generalizing r with
  | nil => simp
  | cons s rs ih =>
      obtain ⟨⟨hgap, -⟩, hrest⟩ := List.isChain_cons_cons.mp h
      intro r' hr'
      rcases List.mem_cons.mp hr' with rfl | hmem
      · exact le_rfl
      · have := ih hrest r' hmem
        omega

/-! ### The main result -/

/-- A difference that does not underflow. -/
lemma saturatingSub_of_le {a b : UInt64} (h : b ≤ a) : saturatingSub a b = a - b := if_pos h

/-- The newest reading of `history` that is at least a window old. -/
structure Newest (history : List Reading) (now : ℕ) (r : Reading) : Prop where
  old : recentWindow ≤ now - r.1
  newest : ∃ before after, history = before ++ r :: after ∧
    ∀ r' ∈ after, ¬ recentWindow ≤ now - r'.1

/-- What the search from the back finds. -/
lemma find?_reverse_eq_some {history : List Reading} {now : ℕ} {r : Reading} :
    history.reverse.find? (fun r => recentWindow ≤ now - r.1) = some r ↔
      Newest history now r := by
  rw [List.find?_eq_some_iff_append]
  constructor
  · rintro ⟨hold, after, before, hsplit, hafter⟩
    refine ⟨by simpa using hold, before.reverse, after.reverse, ?_, fun r' hr' => ?_⟩
    · rw [← List.reverse_reverse history, hsplit]
      simp
    · simpa using hafter r' (List.mem_reverse.mp hr')
  · rintro ⟨hold, before, after, rfl, hafter⟩
    refine ⟨by simpa using hold, after.reverse, before.reverse, by simp, fun r' hr' => ?_⟩
    simpa using hafter r' (List.mem_reverse.mp hr')

/-- A suffix knows the newest old reading of the whole history, if it has one. -/
lemma Newest.of_drop {history : List Reading} {now n : ℕ} {r : Reading}
    (h : Newest (history.drop n) now r) : Newest history now r := by
  obtain ⟨before, after, hsplit, hafter⟩ := h.newest
  refine ⟨h.old, history.take n ++ before, after, ?_, hafter⟩
  rw [List.append_assoc, ← hsplit, List.take_append_drop]

section Window

variable {history : List Reading} {now : ℕ} {current : Metrics}

/-- A difference to a reading of the history does not underflow. -/
lemma against_eq (hspaced : Spaced history) (hafter : After history now current)
    {before after : List Reading} {r : Reading} (hr : history = before ++ r :: after) :
    MetricsWindow.against now current r =
        ⟨(now - r.1) / second, fun i => current i - r.2 i⟩ ∧
      ∀ i, r.2 i ≤ current i := by
  have hle := (hspaced.mem_le hafter hr).2
  refine ⟨?_, hle⟩
  rw [MetricsWindow.against]
  congr 1
  funext i
  exact saturatingSub_of_le (hle i)

/-- **The capacity suffices**: where readings have been dropped, the oldest that is left is
older than a window. -/
lemma exists_old (hspaced : Spaced history) (hafter : After history now current)
    {first : Reading} {rest : List Reading} (hfirst : history = first :: rest)
    (hold : recentWindow ≤ now - first.1) :
    ∃ r ∈ history.drop (history.length - keep), recentWindow ≤ now - r.1 := by
  have hkeep : keep = 14 := rfl
  by_cases hshort : history.length ≤ keep
  · rw [Nat.sub_eq_zero_of_le hshort, List.drop_zero]
    exact ⟨first, by simp [hfirst], hold⟩
  · have hlength : (history.drop (history.length - keep)).length = keep := by
      rw [List.length_drop]
      omega
    match hkept : history.drop (history.length - keep) with
    | [] =>
        rw [hkept, hkeep] at hlength
        cases hlength
    | r :: rs =>
        have hrs : rs.length = 13 := by
          rw [hkept, hkeep] at hlength
          exact Nat.succ.inj hlength
        have hsplit : history = history.take (history.length - keep) ++ r :: rs := by
          rw [← hkept, List.take_append_drop]
        have hage := (hspaced.mem_le hafter hsplit).1
        refine ⟨r, by simp, ?_⟩
        rw [hrs] at hage
        have hwindow : recentWindow ≤ 13 * sampleEvery := by decide
        omega

/-- With a first reading that is younger than a window nothing has been dropped yet. -/
lemma length_le_of_young (hspaced : Spaced history) (hafter : After history now current)
    {first : Reading} {rest : List Reading} (hfirst : history = first :: rest)
    (hyoung : now - first.1 < recentWindow) : history.length ≤ keep := by
  have hsplit : history = [] ++ first :: rest := hfirst
  have hage := (hspaced.mem_le hafter hsplit).1
  have hkeep : keep = 14 := rfl
  rw [show recentWindow = 60000000000 from rfl] at hyoung
  rw [show sampleEvery = 5000000000 from rfl] at hage
  rw [hfirst, List.length_cons]
  omega

end Window

/-- **The last-minute counters cover the last minute.**

After readings at least `METRICS_SAMPLE_EVERY` apart, with counters that only grow, and at
any later time: `window` is `None` if and only if nothing was ever read.  If the first
reading ever is a window old, it is the difference to the newest reading ever that is; if
not, to the first.  No difference underflows. -/
theorem window_covers_last_minute (history : List Reading) (now : ℕ) (current : Metrics)
    (hspaced : Spaced history) (hafter : After history now current) :
    (window (history.foldl push []) now current = none ↔ history = []) ∧
    ∀ first rest, history = first :: rest →
      (recentWindow ≤ now - first.1 → ∃ r, Newest history now r ∧
        window (history.foldl push []) now current =
          some ⟨(now - r.1) / second, fun i => current i - r.2 i⟩ ∧
        ∀ i, r.2 i ≤ current i) ∧
      (now - first.1 < recentWindow →
        window (history.foldl push []) now current =
          some ⟨(now - first.1) / second, fun i => current i - first.2 i⟩ ∧
        ∀ i, first.2 i ≤ current i) := by
  rw [foldl_push_eq]
  refine ⟨?_, fun first rest hfirst => ⟨fun hold => ?_, fun hyoung => ?_⟩⟩
  · have hkeep : keep = 14 := rfl
    rw [window, Option.map_eq_none_iff, Option.or_eq_none_iff, List.head?_eq_none_iff,
      List.drop_eq_nil_iff]
    constructor
    · rintro ⟨-, hlength⟩
      exact List.length_eq_zero_iff.mp (by omega)
    · rintro rfl
      simp
  · obtain ⟨old, hmem, hage⟩ := exists_old hspaced hafter hfirst hold
    have hfound : ((history.drop (history.length - keep)).reverse.find?
        fun r => recentWindow ≤ now - r.1).isSome := by
      rw [List.find?_isSome]
      exact ⟨old, List.mem_reverse.mpr hmem, by simpa using hage⟩
    -- the reading that is found is the newest that is old enough
    obtain ⟨r, hr⟩ := Option.isSome_iff_exists.mp hfound
    have hnewest := (find?_reverse_eq_some.mp hr).of_drop
    obtain ⟨before, after, hsplit, -⟩ := hnewest.newest
    obtain ⟨hagainst, hle⟩ := against_eq hspaced hafter hsplit
    refine ⟨r, hnewest, ?_, hle⟩
    rw [window, hr, Option.some_or, Option.map_some, hagainst]
  · -- nothing has been dropped yet, and nothing is old enough
    have hshort := length_le_of_young hspaced hafter hfirst hyoung
    have hsplit : history = [] ++ first :: rest := hfirst
    obtain ⟨hagainst, hle⟩ := against_eq hspaced hafter hsplit
    have hnone : history.reverse.find? (fun r => recentWindow ≤ now - r.1) = none := by
      rw [List.find?_eq_none]
      intro r hr
      have hfirst_le := Spaced.first_le (hfirst ▸ hspaced) r (hfirst ▸ List.mem_reverse.mp hr)
      rw [decide_eq_true_iff]
      omega
    refine ⟨?_, hle⟩
    rw [Nat.sub_eq_zero_of_le hshort, List.drop_zero, window, hnone, Option.none_or, hfirst,
      List.head?_cons, Option.map_some, hagainst]

/-- A reading every five seconds, between two of which each counter grows by ten. -/
def everyFive (n : ℕ) : List Reading :=
  (List.range n).map fun k => (k * sampleEvery, fun _ => UInt64.ofNat (10 * k))

lemma spaced_everyFive (n : ℕ) (h : 10 * n < 2 ^ 64) : Spaced (everyFive n) := by
  rw [Spaced, everyFive, List.isChain_map]
  refine (List.isChain_range _ n).mpr fun k hk => ⟨?_, fun _ => ?_⟩
  · exact (Nat.succ_mul k sampleEvery).ge
  · rw [UInt64.le_iff_toNat_le, UInt64.toNat_ofNat', UInt64.toNat_ofNat', Nat.mod_eq_of_lt,
      Nat.mod_eq_of_lt]
    all_goals omega

/-- Twenty readings, of which fourteen are kept, and a query two seconds after the last: the
newest reading that is a minute old is the one at 35 seconds. -/
theorem window_covers_last_minute_twenty :
    window ((everyFive 20).foldl push []) (97 * second) (fun _ => 200) =
      some ⟨62, fun _ => 130⟩ := by
  have hafter : After (everyFive 20) (97 * second) fun _ => 200 := by
    intro last hlast
    obtain rfl := Option.some.inj hlast
    refine ⟨by decide, fun i => ?_⟩
    show (190 : UInt64) ≤ 200
    decide
  obtain ⟨-, hwindow⟩ := window_covers_last_minute _ (97 * second) (fun _ => 200)
    (spaced_everyFive 20 (by decide)) hafter
  obtain ⟨r, hnewest, hvalue, -⟩ := (hwindow _ _ rfl).1 (by decide)
  have hfound : (everyFive 20).reverse.find? (fun r => recentWindow ≤ 97 * second - r.1) =
      some (35 * second, fun _ => 70) := by decide +kernel
  obtain rfl := Option.some.inj ((find?_reverse_eq_some.mpr hnewest).symm.trans hfound)
  have hseconds : (97 * second - 35 * second) / second = 62 := by decide
  have hcounter : (200 : UInt64) - 70 = 130 := by decide
  rw [hvalue, hseconds]
  exact congrArg (fun counter => some (MetricsWindow.mk 62 fun _ => counter)) hcounter

end SkylineSpeeder.Samples
