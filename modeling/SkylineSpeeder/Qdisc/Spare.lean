import SkylineSpeeder.Qdisc.Guard

/-!
Which qdiscs of a device a replace of its root destroys, and which of them the guard has
looked at.

* `QdiscLine.onPurpose`: a qdisc that somebody built on purpose: of a deliberate kind, of a
  kind the guard does not know, or a shaped cake;
* `egressTree`, `seenTree`: the egress tree, and what of it the guard keeps;
* `looksAt`, `overlooked`: the qdiscs the verdict goes by, the root or the children of an
  `mq`, and all others of the tree;
* `verdict_replace_iff`: the verdict in terms of what it goes by;
* `guard_spares_iff`: a replace destroys nothing built on purpose exactly when nothing of
  that kind hangs below what the guard looks at.
-/

namespace SkylineSpeeder

/-! ### The qdiscs of a tree -/

/-- A `clsact` or `ingress`, which is not part of the egress tree. -/
def QdiscLine.ingress (line : QdiscLine) : Bool :=
  line.kind = "clsact".toList || line.kind = "ingress".toList

/-- The egress tree of an output of `tc qdisc show`, a line at a time: all but `clsact` and
`ingress`, whatever the handles. -/
def egressTree (output : List Char) : List QdiscLine :=
  ((rustLines output).filterMap parseLine).filter fun line => !line.ingress

/-- What the guard keeps of an output: it also drops what has `ffff:` as handle or parent. -/
def seenTree (output : List Char) : List QdiscLine :=
  ((rustLines output).filterMap parseLine).filter QdiscLine.egress

/-- The root line of a tree. -/
def rootLine (tree : List QdiscLine) : Option QdiscLine :=
  tree.find? fun line => line.parent.isNone

/-- A qdisc somebody built on purpose: a deliberate kind, a kind in neither list that is not
fq, or a cake with a bandwidth other than `unlimited` or with `autorate-ingress`. -/
def QdiscLine.onPurpose (line : QdiscLine) : Prop :=
  line.kind ∈ deliberateKinds ∨
    (line.kind ≠ "fq".toList ∧ line.kind ∉ replaceableKinds ∧ line.kind ∉ deliberateKinds) ∨
    (cakeShaping line.kind line.options).isSome = true

/-- The verdict on one line. -/
def QdiscLine.verdict (line : QdiscLine) : Verdict :=
  kindVerdict line.kind (cakeShaping line.kind line.options).isSome

/-- The lines the verdict of a tree goes by: the root or, under an `mq`, its children. -/
def looksAt (tree : List QdiscLine) (root : QdiscLine) : List QdiscLine :=
  if root.kind = "mq".toList then tree.filter fun line => (line.mqChild root.major).isSome
  else [root]

/-- The `mq` at the root, which only hands each queue its child. -/
def QdiscLine.isMqRoot (line : QdiscLine) : Prop :=
  line.parent = none ∧ line.kind = "mq".toList

instance (line : QdiscLine) : Decidable line.isMqRoot := inferInstanceAs (Decidable (_ ∧ _))

/-- The other lines of the egress tree, the `mq` at the root apart. -/
def overlooked (output : List Char) (root : QdiscLine) : List QdiscLine :=
  (egressTree output).filter fun line => ¬ line.isMqRoot ∧ line ∉ looksAt (seenTree output) root

/-- If the verdict on an output is `Replace`, nothing of the tree was built on purpose. -/
def Spares (output : List Char) : Prop :=
  ∀ root, RootQdisc.parse output = some root → root.verdict = .replace →
    ∀ line ∈ egressTree output, ¬ line.isMqRoot → ¬ line.onPurpose

/-! ### The verdict -/

lemma fq_not_deliberate : "fq".toList ∉ deliberateKinds := by decide

/-- A qdisc is built on purpose exactly if the guard does not keep or replace it. -/
lemma onPurpose_iff (line : QdiscLine) : line.onPurpose ↔ ¬ line.verdict.kept := by
  rw [QdiscLine.verdict, kindVerdict_kept_iff, QdiscLine.onPurpose, plainKind]
  constructor
  · rintro (hdel | ⟨hfq, hrep, -⟩ | hshape) ⟨hplain, hnone⟩
    · rcases hplain with hfq | hrep
      · exact fq_not_deliberate (hfq ▸ hdel)
      · exact replaceable_not_deliberate hrep hdel
    · exact hplain.elim hfq hrep
    · rw [hnone] at hshape
      exact absurd hshape (by decide)
  · intro h
    by_cases hshape : (cakeShaping line.kind line.options).isSome = true
    · exact .inr (.inr hshape)
    · have hplain : ¬ (line.kind = "fq".toList ∨ line.kind ∈ replaceableKinds) :=
        fun hp => h ⟨hp, Bool.eq_false_iff.mpr hshape⟩
      by_cases hdel : line.kind ∈ deliberateKinds
      · exact .inl hdel
      · exact .inr (.inl ⟨fun hfq => hplain (.inl hfq), fun hrep => hplain (.inr hrep), hdel⟩)

lemma verdict_eq_fq_iff (line : QdiscLine) :
    line.verdict = .fq ↔ line.kind = "fq".toList := kindVerdict_fq_iff _ _

/-- The children of an `mq`, as the guard keeps them. -/
lemma map_mqChild_verdict (tree : List QdiscLine) (major : ℕ) :
    (tree.filterMap (QdiscLine.mqChild major)).map
        (fun child => kindVerdict child.kind child.shaping.isSome) =
      (tree.filter fun line => (line.mqChild major).isSome).map QdiscLine.verdict := by
  induction tree with
  | nil => rfl
  | cons line tree ih =>
      cases hchild : line.mqChild major with
      | none =>
          rw [List.filterMap_cons_none hchild, List.filter_cons_of_neg (by simp [hchild]), ih]
      | some child =>
          have hverdict : kindVerdict child.kind child.shaping.isSome = line.verdict := by
            rw [QdiscLine.mqChild, Option.bind_eq_some_iff] at hchild
            obtain ⟨parent, -, hsome⟩ := hchild
            split_ifs at hsome
            rw [← Option.some.inj hsome]
            rfl
          rw [List.filterMap_cons_some hchild, List.filter_cons_of_pos (by simp [hchild]),
            List.map_cons, List.map_cons, hverdict, ih]

/-- The verdict on a root other than `mq` is that on its line. -/
lemma verdict_of_root {output : List Char} {root : RootQdisc} {line : QdiscLine}
    (hparse : RootQdisc.parse output = some root)
    (hline : rootLine (seenTree output) = some line) (hmq : line.kind ≠ "mq".toList) :
    root.verdict = line.verdict := by
  have hroot : some root = (rootLine (seenTree output)).map _ := hparse.symm
  rw [hline, Option.map_some, Option.some.injEq] at hroot
  rw [hroot]
  exact if_pos hmq

/-- The verdict on an `mq` is the worst of those on its children; without any, it is unknown. -/
lemma verdict_of_mq {output : List Char} {root : RootQdisc} {line : QdiscLine}
    (hparse : RootQdisc.parse output = some root)
    (hline : rootLine (seenTree output) = some line) (hmq : line.kind = "mq".toList) :
    root.verdict =
      if looksAt (seenTree output) line = [] then .unknown
      else RootQdisc.worst ((looksAt (seenTree output) line).map QdiscLine.verdict) := by
  have hroot : some root = (rootLine (seenTree output)).map _ := hparse.symm
  rw [hline, Option.map_some, Option.some.injEq] at hroot
  have hkind : root.kind = "mq".toList := by rw [hroot]; exact hmq
  have hchildren :
      root.children = (seenTree output).filterMap (QdiscLine.mqChild line.major) := by
    rw [hroot]
    exact if_pos hmq
  have hmap := map_mqChild_verdict (seenTree output) line.major
  have hempty :
      root.children = [] ↔
        ((seenTree output).filter fun l => (l.mqChild line.major).isSome) = [] := by
    rw [← List.map_eq_nil_iff (f := QdiscLine.verdict), ← hmap, ← hchildren, List.map_eq_nil_iff]
  rw [RootQdisc.verdict, if_neg (not_not_intro hkind), looksAt, if_pos hmq, ← hmap, ← hchildren]
  exact if_congr hempty rfl rfl

/-- The verdict on a root is `Replace` exactly if all the guard looks at is plain, and not
all of it fq. -/
lemma verdict_replace_iff {output : List Char} {root : RootQdisc} {line : QdiscLine}
    (hparse : RootQdisc.parse output = some root)
    (hline : rootLine (seenTree output) = some line) :
    root.verdict = .replace ↔
      (∀ l ∈ looksAt (seenTree output) line, ¬ l.onPurpose) ∧
        ∃ l ∈ looksAt (seenTree output) line, l.kind ≠ "fq".toList := by
  have hnot : ∀ l : QdiscLine, ¬ l.onPurpose ↔ l.verdict.kept := fun l => by
    rw [onPurpose_iff, not_not]
  have hworst := worst_eq_replace_iff ((looksAt (seenTree output) line).map QdiscLine.verdict)
  simp only [List.mem_map, forall_exists_index, and_imp, forall_apply_eq_imp_iff₂,
    exists_exists_and_eq_and] at hworst
  simp only [hnot, ne_eq, ← verdict_eq_fq_iff]
  rw [← hworst]
  by_cases hmq : line.kind = "mq".toList
  · rw [verdict_of_mq hparse hline hmq]
    split_ifs with hempty
    · rw [hempty]
      decide
    · exact Iff.rfl
  · rw [verdict_of_root hparse hline hmq, looksAt, if_neg hmq, List.map_singleton]
    cases line.verdict <;> decide

/-- The lines of the tree that are not looked at are the others. -/
lemma mem_overlooked_iff {output : List Char} {root line : QdiscLine}
    (hline : line ∈ egressTree output) (hmq : ¬ line.isMqRoot) :
    line ∈ overlooked output root ↔ line ∉ looksAt (seenTree output) root := by
  rw [overlooked, List.mem_filter, decide_eq_true_iff]
  exact ⟨fun h => h.2.2, fun h => ⟨hline, hmq, h⟩⟩

/-- **What a replace destroys.** The guard replaces nothing that was built on purpose exactly
if it looks at something built on purpose, or only at fq, or nothing else of the egress tree,
what it drops for the handle `ffff:` included, was built on purpose. -/
theorem guard_spares_iff (output : List Char) :
    Spares output ↔
      ∀ root, rootLine (seenTree output) = some root →
        (∃ line ∈ looksAt (seenTree output) root, line.onPurpose) ∨
          (∀ line ∈ looksAt (seenTree output) root, line.kind = "fq".toList) ∨
          ∀ line ∈ overlooked output root, ¬ line.onPurpose := by
  constructor
  · intro hspares line hline
    by_contra hexposed
    push Not at hexposed
    obtain ⟨hplain, hodd, l, hover, hpurpose⟩ := hexposed
    obtain ⟨root, hparse⟩ : ∃ root, RootQdisc.parse output = some root :=
      ⟨_, Option.map_eq_some_iff.mpr ⟨line, hline, rfl⟩⟩
    have hverdict := (verdict_replace_iff hparse hline).mpr ⟨hplain, hodd⟩
    rw [overlooked, List.mem_filter, decide_eq_true_iff] at hover
    exact hspares root hparse hverdict l hover.1 hover.2.1 hpurpose
  · intro hcond root hparse hverdict l hl hmq
    obtain ⟨line, hline, -⟩ := Option.map_eq_some_iff.mp hparse
    obtain ⟨hplain, odd, hodd, hne⟩ := (verdict_replace_iff hparse hline).mp hverdict
    rcases hcond line hline with ⟨l', hl', hpurpose⟩ | hfq | hover
    · exact absurd hpurpose (hplain l' hl')
    · exact absurd (hfq odd hodd) hne
    · by_cases hlook : l ∈ looksAt (seenTree output) line
      · exact hplain l hlook
      · exact hover l ((mem_overlooked_iff hl hmq).mpr hlook)

/-- A red at the root, with a tbf somebody hung below it. -/
def redOverTbf : List Char :=
  ("qdisc red 1: root refcnt 2 limit 60Kb min 15Kb max 25Kb ewma 1\n" ++
    "qdisc tbf 10: parent 1:1 rate 1Mbit burst 32Kb lat 50ms").toList

/-- A rate limiter below a red goes with it. -/
theorem guard_destroys_limiter : ¬ Spares redOverTbf := by
  intro hspares
  have hverdict : (RootQdisc.parse redOverTbf).map RootQdisc.verdict = some .replace := by
    decide +kernel
  obtain ⟨root, hparse, hreplace⟩ := Option.map_eq_some_iff.mp hverdict
  exact hspares root hparse hreplace
    ⟨"tbf".toList, 16, some "1:1".toList,
      ["rate", "1Mbit", "burst", "32Kb", "lat", "50ms"].map String.toList⟩
    (by decide +kernel) (by decide) (.inl (by decide))

end SkylineSpeeder
