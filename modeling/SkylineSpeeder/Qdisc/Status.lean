import SkylineSpeeder.Qdisc.Guard

/-!
The device rows of `ssctl status`: what `view.rs` of `ssctl` makes of the summary of a root
qdisc, against the verdict of the guard on that root.

* `deviceMark`: the mark of a row;
* `deviceMark_good_iff`, `summary_starts_iff`: what the row goes by, in terms of the root;
* `status_agrees_iff`: the two agree on a root exactly if the first of the distinct kinds
  under an `mq` does not merely start like fq.
-/

namespace SkylineSpeeder

open Text

/-! ### The row -/

/-- `Mark`. -/
inductive Mark where
  | good
  | bad
  | warn
  | off
  | info
  deriving DecidableEq, Repr

/-- The mark of a device row; `qdisc` is the summary of its root, if it could be read. -/
def deviceMark (armed : Bool) (qdisc : Option (List Char)) : Mark :=
  let qdisc := qdisc.getD "(unreadable)".toList
  let good := qdisc = "fq".toList || "mq/fq".toList.isPrefixOf qdisc
  if !armed then .off else if good then .good else .warn

/-- While the guard is armed, the row of a root is marked good exactly if the guard finds it
fq. -/
def StatusAgrees (root : RootQdisc) : Prop :=
  deviceMark true (some root.summary) = .good ↔ root.verdict = .fq

/-! ### What the row goes by -/

/-- While the guard is armed, a row is good exactly if its word is `fq` or starts with
`mq/fq`. -/
lemma deviceMark_good_iff (qdisc : List Char) :
    deviceMark true (some qdisc) = .good ↔ qdisc = "fq".toList ∨ "mq/fq".toList <+: qdisc := by
  rw [deviceMark, Option.getD_some, if_neg (by decide), ← List.isPrefixOf_iff_prefix]
  split_ifs with hgood
  · exact iff_of_true rfl (by simpa using hgood)
  · exact iff_of_false (by decide) (by simpa using hgood)

/-- The word of an `mq` with children starts with `mq/fq` exactly if one of their kinds starts
with fq and none comes before it. -/
lemma summary_starts_iff {root : RootQdisc} (hmq : root.kind = "mq".toList)
    (hchildren : root.children ≠ []) :
    "mq/fq".toList <+: root.summary ↔
      (∃ child ∈ root.children, "fq".toList <+: child.kind) ∧
        ∀ child ∈ root.children, "fq".toList ≤ child.kind := by
  have hne : Distinct.sortDedup (root.children.map MqChild.kind) ≠ [] := by
    obtain ⟨child, hchild⟩ := List.exists_mem_of_ne_nil _ hchildren
    exact List.ne_nil_of_mem (Distinct.mem_sortDedup.mpr (List.mem_map_of_mem hchild))
  obtain ⟨least, rest, hsort⟩ := List.exists_cons_of_ne_nil hne
  obtain ⟨hmem, hleast⟩ := Distinct.sortDedup_least hsort
  rw [List.forall_mem_map] at hleast
  obtain ⟨first, hfirst, rfl⟩ := List.mem_map.mp hmem
  have hstart : "mq/fq".toList <+: root.summary ↔ "fq".toList <+: first.kind := by
    rw [RootQdisc.summary, if_neg (by rw [not_or, not_not]; exact ⟨hmq, hchildren⟩), hsort]
    change "mq/".toList ++ "fq".toList <+: _ ↔ _
    rw [List.prefix_append_right_inj, prefix_intercalate_iff (by decide)]
  rw [hstart]
  constructor
  · intro h
    exact ⟨⟨first, hfirst, h⟩, fun child hchild => (le_of_starts h).trans (hleast child hchild)⟩
  · rintro ⟨⟨child, hchild, tail, htail⟩, hlow⟩
    exact prefix_of_between (hlow first hfirst) (htail ▸ hleast child hchild)

/-! ### Agreement -/

/-- **`ssctl status` agrees with the guard** on a root exactly if, under an `mq` that has a
child of a kind that starts with fq and none of a kind before it, every child is fq, and no
other root is named as if it were such an `mq`. -/
theorem status_agrees_iff (root : RootQdisc) :
    StatusAgrees root ↔
      (root.kind = "mq".toList → (∃ child ∈ root.children, "fq".toList <+: child.kind) →
        (∀ child ∈ root.children, "fq".toList ≤ child.kind) →
          ∀ child ∈ root.children, child.kind = "fq".toList) ∧
      (root.kind ≠ "mq".toList → ¬ "mq/fq".toList <+: root.kind) := by
  rw [StatusAgrees, deviceMark_good_iff, verdict_fq_iff]
  by_cases hmq : root.kind = "mq".toList
  · have hfq : root.kind ≠ "fq".toList := by rw [hmq]; decide
    by_cases hchildren : root.children = []
    · have hword : root.summary = "mq".toList := by
        rw [RootQdisc.summary, if_pos (.inr hchildren), hmq]
      rw [hword, hchildren]
      refine iff_of_true (iff_of_false (by decide) ?_) ⟨?_, fun h => absurd hmq h⟩
      · exact fun h => h.elim hfq fun h => h.2.1 rfl
      · exact fun _ _ _ child hchild => absurd hchild List.not_mem_nil
    · have hword : root.summary ≠ "fq".toList := by
        rw [RootQdisc.summary, if_neg (by rw [not_or, not_not]; exact ⟨hmq, hchildren⟩)]
        exact fun h => absurd (List.cons.inj h).1 (by decide)
      -- the summary begins with the least of the kinds
      rw [summary_starts_iff hmq hchildren]
      constructor
      · intro hiff
        refine ⟨fun _ hstart hlow => ?_, fun h => absurd hmq h⟩
        exact ((hiff.mp (.inr ⟨hstart, hlow⟩)).resolve_left hfq).2.2
      · rintro ⟨hcond, -⟩
        refine ⟨fun h => .inr ⟨hmq, hchildren, ?_⟩, fun h => .inr ?_⟩
        · have hstart := h.resolve_left hword
          exact hcond hmq hstart.1 hstart.2
        · have hall := (h.resolve_left hfq).2.2
          obtain ⟨child, hchild⟩ := List.exists_mem_of_ne_nil _ hchildren
          exact ⟨⟨child, hchild, hall child hchild ▸ List.prefix_refl _⟩,
            fun child hchild => (hall child hchild).ge⟩
  · have hword : root.summary = root.kind := by rw [RootQdisc.summary, if_pos (.inl hmq)]
    rw [hword]
    constructor
    · refine fun hiff => ⟨fun h => absurd h hmq, fun _ hstart => ?_⟩
      have hfq := (hiff.mp (.inr hstart)).resolve_right fun h => hmq h.1
      rw [hfq] at hstart
      exact absurd hstart (by decide)
    · rintro ⟨-, hname⟩
      refine ⟨fun h => .inl (h.resolve_right (hname hmq)), fun h => .inl ?_⟩
      exact h.resolve_right fun h => hmq h.1

/-- The `mq` of two queues that the kernel makes with fq_codel as the default. -/
def mqFqCodel : RootQdisc where
  kind := "mq".toList
  major := 0
  shaping := none
  children :=
    [⟨"fq_codel".toList, ":2".toList, none⟩, ⟨"fq_codel".toList, ":1".toList, none⟩]
  majors := {0}

/-- It is marked good, and the guard is to replace it. -/
theorem status_good_on_fq_codel : ¬ StatusAgrees mqFqCodel := by
  intro hiff
  have hgood : deviceMark true (some mqFqCodel.summary) = .good := by decide +kernel
  have hverdict : mqFqCodel.verdict = .replace := by decide
  rw [hiff.mp hgood] at hverdict
  exact absurd hverdict (by decide)

end SkylineSpeeder
