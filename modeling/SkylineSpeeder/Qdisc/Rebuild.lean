import SkylineSpeeder.Qdisc.Replace

/-!
`replace_root` on a host whose `tc` behaves as that of the tests' `FakeHost`, while something
else rewrites `default_qdisc` between any two of its steps.

The device is the list of qdiscs that `tc qdisc show` prints.  `root mq` over an `mq` that
`tc` created changes nothing, a fresh `mq` takes a child per queue from the default of that
moment, and `parent X fq` replaces the child at `X`.

* `Fake.replace`, `fakeHost`: the host;
* `ofLines_freshMq`, `ofLines_toFq`: what a fresh `mq` and a replaced child are read back as;
* `run_childByChild`: fixing child by child ends all fq;
* `RoundEnds`: how one round ends, for each plan; `replaceRounds_spec`: both rounds;
* `replace_root_ends_fq`: the two rounds end all fq, or nothing was issued.
-/

namespace SkylineSpeeder

open Text

/-! ### The host -/

/-- The device, and what was done to it. -/
structure Fake where
  lines : List QdiscLine
  txQueues : ℕ
  nextHandle : ℕ
  /-- How many steps were taken. -/
  clock : ℕ
  /-- The replaces that were issued, each with what the device showed before it. -/
  issued : List (List QdiscLine × Command)
  /-- How often the default was read, which starts a round. -/
  rounds : ℕ

/-- The class of a queue under an `mq`. -/
def classId (handle queue : ℕ) : List Char := hexText handle ++ ':' :: hexText queue

/-- `Fake::fresh_mq`. -/
def freshMq (handle : ℕ) (kind : List Char) (txQueues : ℕ) : List QdiscLine :=
  ⟨"mq".toList, handle, none, []⟩ ::
    (List.range txQueues).reverse.map fun queue =>
      ⟨kind, 0, some (classId handle (queue + 1)), []⟩

/-- A qdisc at one of some parents, replaced with fq. -/
def toFq (parents : List (List Char)) (line : QdiscLine) : QdiscLine :=
  match line.parent with
  | some parent => if parent ∈ parents then ⟨"fq".toList, 0, some parent, []⟩ else line
  | none => line

namespace Fake

/-- A replace, in `FakeHost::tc`; `default` is the default of that moment. -/
def change (s : Fake) (default : List Char) : Command → Fake
  | .rootMq =>
      if (RootQdisc.ofLines s.lines).any fun root => root.tcMq then s
      else
        { s with lines := freshMq s.nextHandle default s.txQueues, nextHandle := s.nextHandle + 1 }
  | .rootHandleMq major => { s with lines := freshMq major default s.txQueues }
  | .rootFq =>
      { s with
        lines := [⟨"fq".toList, s.nextHandle, none, ["refcnt".toList, "2".toList]⟩]
        nextHandle := s.nextHandle + 1 }
  | .parentFq parent => { s with lines := s.lines.map (toFq [parent]) }

/-- A replace touches what the device shows and the next handle, nothing else. -/
lemma change_eq (s : Fake) (default : List Char) (command : Command) :
    ∃ lines nextHandle,
      s.change default command = { s with lines := lines, nextHandle := nextHandle } := by
  cases command with
  | rootMq =>
      rw [change]
      split_ifs
      · exact ⟨s.lines, s.nextHandle, rfl⟩
      · exact ⟨_, _, rfl⟩
  | rootHandleMq major => exact ⟨_, s.nextHandle, rfl⟩
  | rootFq => exact ⟨_, _, rfl⟩
  | parentFq parent => exact ⟨_, s.nextHandle, rfl⟩

@[simp] lemma change_txQueues (s : Fake) (default : List Char) (command : Command) :
    (s.change default command).txQueues = s.txQueues := by
  obtain ⟨lines, nextHandle, heq⟩ := s.change_eq default command
  rw [heq]

@[simp] lemma change_rounds (s : Fake) (default : List Char) (command : Command) :
    (s.change default command).rounds = s.rounds := by
  obtain ⟨lines, nextHandle, heq⟩ := s.change_eq default command
  rw [heq]

/-- A replace, with a record of it. -/
def replace (s : Fake) (default : List Char) (command : Command) : Fake :=
  { s.change default command with
    clock := s.clock + 1
    issued := s.issued ++ [(s.lines, command)] }

end Fake

/-- The host, with what `default_qdisc` is at each step. -/
def fakeHost (defaults : ℕ → List Char) : QdiscHost Fake where
  txQueues s := s.txQueues
  defaultQdisc s :=
    (.ok (defaults s.clock), { s with clock := s.clock + 1, rounds := s.rounds + 1 })
  replace command s := (.ok (), s.replace (defaults s.clock) command)
  readRoot s := (.ok (RootQdisc.ofLines s.lines), { s with clock := s.clock + 1 })

/-! ### What is read back -/

lemma majorOf_classId {handle : ℕ} (h : handle < 2 ^ 32) (queue : ℕ) :
    majorOf (classId handle queue) = some handle := by
  rw [majorOf, classId, takeWhile_colon (colon_notMem_hexText handle)]
  simp only [hexText_ne_nil, if_false]
  exact fromStrRadix16_hexText h

lemma cakeShaping_nil (kind : List Char) : cakeShaping kind [] = none := by
  by_cases hcake : kind = "cake".toList
  · rw [hcake]
    decide
  · exact if_pos hcake

/-- No plain kind is left out of the egress tree. -/
lemma plainKind_egress {kind : List Char} (h : plainKind kind) :
    kind ≠ "clsact".toList ∧ kind ≠ "ingress".toList := by
  have hkinds : ∀ k ∈ "fq".toList :: replaceableKinds,
      k ≠ "clsact".toList ∧ k ≠ "ingress".toList := by decide
  exact hkinds kind (List.mem_cons.mpr h)

/-- A fresh `mq` is read back as one with a child of the default's kind for each queue. -/
lemma ofLines_freshMq {handle : ℕ} (hhandle : handle < 0xffff) {kind : List Char}
    (hkind : plainKind kind) (txQueues : ℕ) :
    ∃ root, RootQdisc.ofLines (freshMq handle kind txQueues) = some root ∧
      root.kind = "mq".toList ∧ root.major = handle ∧
      root.children = (List.range txQueues).reverse.map fun queue =>
        ⟨kind, classId handle (queue + 1), none⟩ := by
  have hmajor : ∀ queue, majorOf (classId handle queue) = some handle :=
    majorOf_classId (by omega)
  have hclass : ∀ queue,
      (⟨kind, 0, some (classId handle queue), []⟩ : QdiscLine).egress = true := by
    intro queue
    obtain ⟨hclsact, hingress⟩ := plainKind_egress hkind
    simp only [QdiscLine.egress, hclsact, hingress, Option.bind_some, hmajor]
    simp
    omega
  have hroot : (⟨"mq".toList, handle, none, []⟩ : QdiscLine).egress = true := by
    simp [QdiscLine.egress]
    omega
  have htree : (freshMq handle kind txQueues).filter QdiscLine.egress =
      freshMq handle kind txQueues := by
    rw [List.filter_eq_self]
    intro line hline
    rcases List.mem_cons.mp hline with rfl | hline
    · exact hroot
    · obtain ⟨queue, -, rfl⟩ := List.mem_map.mp hline
      exact hclass (queue + 1)
  have hchildren : (freshMq handle kind txQueues).filterMap (QdiscLine.mqChild handle) =
      (List.range txQueues).reverse.map fun queue => ⟨kind, classId handle (queue + 1), none⟩ := by
    rw [freshMq, List.filterMap_cons_none rfl, List.filterMap_map]
    rw [← List.filterMap_eq_map]
    refine List.filterMap_congr fun queue _ => ?_
    simp [QdiscLine.mqChild, hmajor, cakeShaping_nil]
  rw [RootQdisc.ofLines, htree]
  refine ⟨_, rfl, rfl, rfl, ?_⟩
  dsimp only
  rw [if_pos rfl]
  exact hchildren

/-- The verdict on a fresh `mq`. -/
lemma verdict_freshMq {root : RootQdisc} {handle txQueues : ℕ} {kind : List Char}
    (hmq : root.kind = "mq".toList) (hqueues : 1 ≤ txQueues) (hkind : plainKind kind)
    (hchildren : root.children = (List.range txQueues).reverse.map fun queue =>
      ⟨kind, classId handle (queue + 1), none⟩) :
    root.verdict = if kind = "fq".toList then .fq else .replace := by
  have hne : root.children ≠ [] := by
    rw [hchildren, Ne, List.map_eq_nil_iff, List.reverse_eq_nil_iff, List.range_eq_nil]
    omega
  have hall : ∀ child ∈ root.children, child.kind = kind ∧ child.shaping = none := by
    intro child hchild
    rw [hchildren] at hchild
    obtain ⟨queue, -, rfl⟩ := List.mem_map.mp hchild
    exact ⟨rfl, rfl⟩
  split_ifs with hfq
  · exact (verdict_fq_iff root).mpr
      (.inr ⟨hmq, hne, fun child hchild => (hall child hchild).1.trans hfq⟩)
  · have hkept : (kindVerdict kind false).kept := by
      have h := (kindVerdict_kept_iff kind []).mpr ⟨hkind, by rw [cakeShaping_nil]; rfl⟩
      rwa [cakeShaping_nil] at h
    rw [RootQdisc.verdict, if_neg (not_not_intro hmq), if_neg hne, worst_eq_replace_iff]
    refine ⟨fun v hv => ?_, ?_⟩
    · obtain ⟨child, hchild, rfl⟩ := List.mem_map.mp hv
      rw [(hall child hchild).1, (hall child hchild).2]
      exact hkept
    · obtain ⟨child, hchild⟩ := List.exists_mem_of_ne_nil _ hne
      refine ⟨_, List.mem_map_of_mem hchild, ?_⟩
      rw [Ne, kindVerdict_fq_iff, (hall child hchild).1]
      exact hfq

/-! ### Children replaced one by one -/

lemma toFq_parent (parents : List (List Char)) (line : QdiscLine) :
    (toFq parents line).parent = line.parent := by
  rw [toFq]
  split
  · split_ifs
    · rename_i h _
      exact h.symm
    · rfl
  · rfl

lemma toFq_of_notMem {parents : List (List Char)} {line : QdiscLine}
    (h : ∀ parent ∈ parents, line.parent ≠ some parent) : toFq parents line = line := by
  rw [toFq]
  split
  · rename_i parent hparent
    rw [if_neg fun hin => h parent hin hparent]
  · rfl

lemma toFq_of_mem {parents : List (List Char)} {line : QdiscLine} {parent : List Char}
    (hparent : line.parent = some parent) (h : parent ∈ parents) :
    toFq parents line = ⟨"fq".toList, 0, some parent, []⟩ := by
  rw [toFq, hparent]
  exact if_pos h

/-- One after the other is the same as all at once. -/
lemma toFq_toFq (parent : List Char) (parents : List (List Char)) (line : QdiscLine) :
    toFq parents (toFq [parent] line) = toFq (parent :: parents) line := by
  cases hparent : line.parent with
  | none =>
      have hnone : ∀ ps : List (List Char), ∀ p ∈ ps, line.parent ≠ some p := fun _ p _ => by
        rw [hparent]
        exact (Option.some_ne_none p).symm
      rw [toFq_of_notMem (hnone [parent]), toFq_of_notMem (hnone _), toFq_of_notMem (hnone _)]
  | some p =>
      by_cases hp : p = parent
      · subst hp
        rw [toFq_of_mem hparent List.mem_cons_self, toFq_of_mem hparent List.mem_cons_self]
        by_cases hin : p ∈ parents
        · rw [toFq_of_mem rfl hin]
        · exact toFq_of_notMem fun q hq heq => hin (Option.some.inj heq ▸ hq)
      · have hskip : toFq [parent] line = line := toFq_of_notMem fun q hq heq => by
          rw [List.mem_singleton] at hq
          rw [hparent, hq, Option.some.injEq] at heq
          exact hp heq
        rw [hskip]
        by_cases hin : p ∈ parents
        · rw [toFq_of_mem hparent hin, toFq_of_mem hparent (List.mem_cons_of_mem parent hin)]
        · rw [toFq_of_notMem fun q hq heq => ?_, toFq_of_notMem fun q hq heq => ?_]
          · rw [hparent, Option.some.injEq] at heq
            subst heq
            exact (List.mem_cons.mp hq).elim hp hin
          · rw [hparent, Option.some.injEq] at heq
            exact hin (heq ▸ hq)

/-- The root stays where it is. -/
lemma find?_toFq (parents : List (List Char)) (lines : List QdiscLine) :
    (((lines.map (toFq parents)).filter QdiscLine.egress).find? fun line => line.parent.isNone) =
      ((lines.filter QdiscLine.egress).find? fun line => line.parent.isNone) := by
  rw [List.find?_filter, List.find?_filter]
  induction lines with
  | nil => rfl
  | cons line lines ih =>
      rw [List.map_cons, List.find?_cons, List.find?_cons, ih, toFq_parent]
      cases hparent : line.parent with
      | none =>
          rw [toFq_of_notMem fun p _ => by rw [hparent]; exact (Option.some_ne_none p).symm]
      | some p => simp

lemma mqChild_eq_some {line : QdiscLine} {major : ℕ} {child : MqChild} :
    line.mqChild major = some child ↔
      ∃ parent, line.parent = some parent ∧ majorOf parent = some major ∧
        child = ⟨line.kind, parent, cakeShaping line.kind line.options⟩ := by
  rw [QdiscLine.mqChild, Option.bind_eq_some_iff]
  refine exists_congr fun parent => and_congr_right fun _ => ?_
  split_ifs with hmajor
  · simp [hmajor, eq_comm]
  · simp [hmajor]

/-- What the children of an `mq` are read from. -/
lemma mem_children_iff {lines : List QdiscLine} {major : ℕ} {child : MqChild} :
    child ∈ (lines.filter QdiscLine.egress).filterMap (QdiscLine.mqChild major) ↔
      ∃ line ∈ lines, line.egress = true ∧ line.parent = some child.parent ∧
        majorOf child.parent = some major ∧
        child = ⟨line.kind, child.parent, cakeShaping line.kind line.options⟩ := by
  simp only [List.mem_filterMap, List.mem_filter, mqChild_eq_some]
  constructor
  · rintro ⟨line, ⟨hline, hegress⟩, parent, hparent, hmajor, rfl⟩
    exact ⟨line, hline, hegress, hparent, hmajor, rfl⟩
  · rintro ⟨line, hline, hegress, hparent, hmajor, hchild⟩
    exact ⟨line, ⟨hline, hegress⟩, child.parent, hparent, hmajor, hchild⟩

/-- A child of the `mq` was replaced, or is as before. -/
lemma mem_children_toFq {parents : List (List Char)} {lines : List QdiscLine} {major : ℕ}
    {child : MqChild}
    (h : child ∈ ((lines.map (toFq parents)).filter QdiscLine.egress).filterMap
      (QdiscLine.mqChild major)) :
    child.kind = "fq".toList ∨
      (child.parent ∉ parents ∧
        child ∈ (lines.filter QdiscLine.egress).filterMap (QdiscLine.mqChild major)) := by
  obtain ⟨line', hline', hegress, hparent, hmajor, hchild⟩ := mem_children_iff.mp h
  obtain ⟨line, hline, rfl⟩ := List.mem_map.mp hline'
  rw [toFq_parent] at hparent
  by_cases hin : child.parent ∈ parents
  · rw [toFq_of_mem hparent hin] at hchild
    exact .inl (by rw [hchild])
  · have hsame : toFq parents line = line := toFq_of_notMem fun p hp heq => by
      rw [hparent, Option.some.injEq] at heq
      exact hin (heq ▸ hp)
    rw [hsame] at hegress hchild
    exact .inr ⟨hin, mem_children_iff.mpr ⟨line, hline, hegress, hparent, hmajor, hchild⟩⟩

/-- No child is lost. -/
lemma exists_children_toFq {parents : List (List Char)} {lines : List QdiscLine} {major : ℕ}
    {child : MqChild} (hmajor : major ≠ 0xffff)
    (h : child ∈ (lines.filter QdiscLine.egress).filterMap (QdiscLine.mqChild major)) :
    ∃ child', child' ∈ ((lines.map (toFq parents)).filter QdiscLine.egress).filterMap
      (QdiscLine.mqChild major) := by
  obtain ⟨line, hline, hegress, hparent, hclass, hchild⟩ := mem_children_iff.mp h
  have hegress' : (toFq parents line).egress = true := by
    by_cases hin : child.parent ∈ parents
    · rw [toFq_of_mem hparent hin]
      simp [QdiscLine.egress, hclass, hmajor]
    · rwa [toFq_of_notMem fun p hp heq => by
        rw [hparent, Option.some.injEq] at heq
        exact hin (heq ▸ hp)]
  exact ⟨⟨(toFq parents line).kind, child.parent, _⟩, mem_children_iff.mpr
    ⟨_, List.mem_map_of_mem hline, hegress', (toFq_parent _ _).trans hparent, hclass, rfl⟩⟩

/-- What the parts of a root are read from. -/
lemma ofLines_eq_some {lines : List QdiscLine} {root : RootQdisc} :
    RootQdisc.ofLines lines = some root ↔
      ∃ line, ((lines.filter QdiscLine.egress).find? fun line => line.parent.isNone) = some line ∧
        root = { kind := line.kind
                 major := line.major
                 shaping := cakeShaping line.kind line.options
                 children :=
                   if line.kind = "mq".toList then
                     (lines.filter QdiscLine.egress).filterMap (QdiscLine.mqChild line.major)
                   else []
                 majors := (lines.flatMap fun line =>
                   line.major :: (line.parent.bind majorOf).toList).toFinset } := by
  rw [RootQdisc.ofLines, Option.map_eq_some_iff]
  simp only [eq_comm]

/-- **Children that were replaced** are read back as fq, and the others as before. -/
lemma ofLines_toFq {lines : List QdiscLine} {root : RootQdisc}
    (h : RootQdisc.ofLines lines = some root) (hmq : root.kind = "mq".toList)
    (parents : List (List Char)) :
    ∃ root', RootQdisc.ofLines (lines.map (toFq parents)) = some root' ∧
      root'.kind = "mq".toList ∧ (root.children ≠ [] → root'.children ≠ []) ∧
      ∀ child ∈ root'.children, child.kind = "fq".toList ∨
        (child.parent ∉ parents ∧ child ∈ root.children) := by
  obtain ⟨line, hline, rfl⟩ := ofLines_eq_some.mp h
  have hmajor : line.major ≠ 0xffff := by
    have hegress := (List.mem_filter.mp (List.mem_of_find?_eq_some hline)).2
    simp only [QdiscLine.egress, Bool.and_eq_true, bne_iff_ne] at hegress
    exact hegress.1.2
  refine ⟨_, ofLines_eq_some.mpr ⟨line, (find?_toFq parents lines).trans hline, rfl⟩, hmq, ?_, ?_⟩
  · dsimp only at hmq ⊢
    rw [if_pos hmq, if_pos hmq]
    intro hne
    obtain ⟨child, hchild⟩ := List.exists_mem_of_ne_nil _ hne
    obtain ⟨child', hchild'⟩ := exists_children_toFq hmajor hchild
    exact List.ne_nil_of_mem hchild'
  · dsimp only at hmq ⊢
    rw [if_pos hmq, if_pos hmq]
    exact fun child hchild => mem_children_toFq hchild

/-! ### What a replace may name -/

/-- A replace that names no fq child, and rebuilds an `mq` under a handle only if that has no
fq child and nothing uses the handle. -/
def Careful (lines : List QdiscLine) : Command → Prop
  | .parentFq parent =>
      ∀ root, RootQdisc.ofLines lines = some root →
        ∀ child ∈ root.children, child.parent = parent → child.kind ≠ "fq".toList
  | .rootHandleMq major =>
      (∀ root, RootQdisc.ofLines lines = some root →
        ∀ child ∈ root.children, child.kind ≠ "fq".toList) ∧
      ∀ line ∈ lines, line.major ≠ major ∧ line.parent.bind majorOf ≠ some major
  | .rootMq => True
  | .rootFq => True

/-- Every class holds one qdisc. -/
def OnePerClass (lines : List QdiscLine) : Prop := (lines.filterMap QdiscLine.parent).Nodup

lemma OnePerClass.eq {lines : List QdiscLine} (h : OnePerClass lines) {line line' : QdiscLine}
    (hline : line ∈ lines) (hline' : line' ∈ lines) {parent : List Char}
    (hparent : line.parent = some parent) (hparent' : line'.parent = some parent) :
    line = line' := by
  rw [OnePerClass] at h
  induction lines with
  | nil => exact absurd hline List.not_mem_nil
  | cons first lines ih =>
      have hcons : ∀ l, l ∈ lines → l.parent = some parent → first.parent ≠ some parent := by
        intro l hl hlparent hfirst
        rw [List.filterMap_cons_some hfirst, List.nodup_cons] at h
        exact h.1 (List.mem_filterMap.mpr ⟨l, hl, hlparent⟩)
      rcases List.mem_cons.mp hline with rfl | hmem
      · rcases List.mem_cons.mp hline' with rfl | hmem'
        · rfl
        · exact absurd hparent (hcons line' hmem' hparent')
      · rcases List.mem_cons.mp hline' with rfl | hmem'
        · exact absurd hparent' (hcons line hmem hparent)
        · refine ih ?_ hmem hmem'
          cases hfirst : first.parent with
          | none => rwa [List.filterMap_cons_none hfirst] at h
          | some p =>
              rw [List.filterMap_cons_some hfirst, List.nodup_cons] at h
              exact h.2

lemma children_parents_sublist (lines : List QdiscLine) (major : ℕ) :
    (((lines.filter QdiscLine.egress).filterMap (QdiscLine.mqChild major)).map
      MqChild.parent).Sublist (lines.filterMap QdiscLine.parent) := by
  induction lines with
  | nil => exact List.Sublist.refl _
  | cons line lines ih =>
      have hdrop : (lines.filterMap QdiscLine.parent).Sublist
          ((line :: lines).filterMap QdiscLine.parent) :=
        (List.sublist_cons_self line lines).filterMap _
      by_cases hegress : line.egress = true
      · rw [List.filter_cons_of_pos hegress]
        cases hchild : line.mqChild major with
        | none =>
            rw [List.filterMap_cons_none hchild]
            exact ih.trans hdrop
        | some child =>
            obtain ⟨parent, hparent, -, rfl⟩ := mqChild_eq_some.mp hchild
            rw [List.filterMap_cons_some hchild, List.filterMap_cons_some hparent, List.map_cons]
            exact ih.cons_cons parent
      · rw [List.filter_cons_of_neg hegress]
        exact ih.trans hdrop

/-- The children that are fixed one by one, and what is there. -/
lemma odd_parents {lines : List QdiscLine} {root : RootQdisc}
    (h : RootQdisc.ofLines lines = some root) (hmq : root.kind = "mq".toList)
    (hclasses : OnePerClass lines) :
    (root.odd.map MqChild.parent).Nodup ∧
      ∀ parent ∈ root.odd.map MqChild.parent, ∀ line ∈ lines, line.parent = some parent →
        line.kind ≠ "fq".toList := by
  obtain ⟨rootLine, -, rfl⟩ := ofLines_eq_some.mp h
  rw [RootQdisc.odd]
  dsimp only at hmq ⊢
  rw [if_pos hmq]
  constructor
  · exact ((List.filter_sublist.map _).trans (children_parents_sublist lines _)).nodup hclasses
  · intro parent hodd line hline hparent
    obtain ⟨child, hchild, rfl⟩ := List.mem_map.mp hodd
    obtain ⟨hchild, hkind⟩ := List.mem_filter.mp hchild
    obtain ⟨line', hline', -, hparent', -, hread⟩ := mem_children_iff.mp hchild
    have hsame : line = line' := hclasses.eq hline hline' hparent hparent'
    rw [hread] at hkind
    rw [hsame]
    simpa using hkind

/-! ### Commands -/

/-- The commands of a round, on the host. -/
def Fake.runs (defaults : ℕ → List Char) (s : Fake) (commands : List Command) : Fake :=
  commands.foldl (fun s command => s.replace (defaults s.clock) command) s

lemma runCommands_fake (defaults : ℕ → List Char) (label : List Char) (round : Round)
    (summary : List Char) (commands : List Command) (s : Fake) :
    runCommands (fakeHost defaults) label round summary commands s =
      (.ok (), s.runs defaults commands) := by
  induction commands generalizing s with
  | nil => rfl
  | cons command commands ih => exact ih (s.replace (defaults s.clock) command)

/-- Fixing children one by one: each command names a child that is not fq. -/
lemma runs_parents (defaults : ℕ → List Char) :
    ∀ (parents : List (List Char)) (s : Fake), parents.Nodup →
      (∀ parent ∈ parents, ∀ line ∈ s.lines, line.parent = some parent →
        line.kind ≠ "fq".toList) →
      (s.runs defaults (parents.map Command.parentFq)).lines = s.lines.map (toFq parents) ∧
      (s.runs defaults (parents.map Command.parentFq)).txQueues = s.txQueues ∧
      (s.runs defaults (parents.map Command.parentFq)).rounds = s.rounds ∧
      ∃ new, (s.runs defaults (parents.map Command.parentFq)).issued = s.issued ++ new ∧
        ∀ entry ∈ new, Careful entry.1 entry.2 := by
  intro parents
  induction parents with
  | nil =>
      intro s _ _
      have hsame : s.lines.map (toFq []) = s.lines :=
        (List.map_congr_left fun line _ => toFq_of_notMem (by simp)).trans (List.map_id _)
      exact ⟨hsame.symm, rfl, rfl, [], (List.append_nil _).symm, by simp⟩
  | cons parent parents ih =>
      intro s hnodup hkinds
      obtain ⟨hnot, hnodup⟩ := List.nodup_cons.mp hnodup
      -- the first command leaves the other children as they are
      have hrest : ∀ p ∈ parents, ∀ line ∈ s.lines.map (toFq [parent]), line.parent = some p →
          line.kind ≠ "fq".toList := by
        intro p hp line hline hparent
        obtain ⟨old, hold, rfl⟩ := List.mem_map.mp hline
        rw [toFq_parent] at hparent
        rw [toFq_of_notMem fun q hq heq => ?_]
        · exact hkinds p (List.mem_cons_of_mem parent hp) old hold hparent
        · rw [List.mem_singleton] at hq
          rw [hparent, hq, Option.some.injEq] at heq
          exact hnot (heq ▸ hp)
      obtain ⟨hlines, hqueues, hrounds, new, hissued, hnew⟩ :=
        ih (s.replace (defaults s.clock) (.parentFq parent)) hnodup hrest
      refine ⟨?_, hqueues, hrounds, (s.lines, .parentFq parent) :: new, ?_, ?_⟩
      · refine hlines.trans ?_
        change (s.lines.map (toFq [parent])).map (toFq parents) = _
        rw [List.map_map]
        exact List.map_congr_left fun line _ => toFq_toFq parent parents line
      · refine hissued.trans ?_
        change s.issued ++ [(s.lines, Command.parentFq parent)] ++ new = _
        rw [List.append_assoc, List.singleton_append]
      · intro entry hentry
        rcases List.mem_cons.mp hentry with rfl | hentry
        · intro root hroot child hchild hparent
          obtain ⟨rootLine, -, rfl⟩ := ofLines_eq_some.mp hroot
          dsimp only at hchild
          split_ifs at hchild with hmq
          · obtain ⟨line, hline, -, hline', -, hread⟩ := mem_children_iff.mp hchild
            rw [hread]
            exact hkinds parent List.mem_cons_self line hline (hline'.trans (by rw [hparent]))
          · exact absurd hchild List.not_mem_nil
        · exact hnew entry hentry

/-- **Child by child**: an `mq` that `tc` created ends with all children fq. -/
lemma run_childByChild (defaults : ℕ → List Char) {s : Fake} {root : RootQdisc}
    (h : RootQdisc.ofLines s.lines = some root) (hmq : root.kind = "mq".toList)
    (hchildren : root.children ≠ []) (hclasses : OnePerClass s.lines) :
    let t := s.runs defaults (root.odd.map fun child => .parentFq child.parent)
    (∃ next, RootQdisc.ofLines t.lines = some next ∧ next.verdict = .fq) ∧
      t.txQueues = s.txQueues ∧ t.rounds = s.rounds ∧
      ∃ new, t.issued = s.issued ++ new ∧ ∀ entry ∈ new, Careful entry.1 entry.2 := by
  obtain ⟨hnodup, hkinds⟩ := odd_parents h hmq hclasses
  have hmap : (root.odd.map fun child => Command.parentFq child.parent) =
      (root.odd.map MqChild.parent).map Command.parentFq := by
    rw [List.map_map]
    rfl
  obtain ⟨hlines, hrest⟩ := runs_parents defaults (root.odd.map MqChild.parent) s hnodup hkinds
  rw [hmap]
  refine ⟨?_, hrest⟩
  obtain ⟨next, hnext, hkind, hne, hall⟩ := ofLines_toFq h hmq (root.odd.map MqChild.parent)
  refine ⟨next, by rw [hlines]; exact hnext, (verdict_fq_iff next).mpr ?_⟩
  refine .inr ⟨hkind, hne hchildren, fun child hchild => ?_⟩
  rcases hall child hchild with hfq | ⟨hnot, hold⟩
  · exact hfq
  · by_contra hodd
    exact hnot (List.mem_map_of_mem (List.mem_filter.mpr ⟨hold, by simpa using hodd⟩))

/-- A fresh `mq` is one that `tc` created, and is fq or to be replaced. -/
lemma freshMq_spec {handle : ℕ} (hhandle : 0 < handle ∧ handle < 0xffff) {kind : List Char}
    (hkind : plainKind kind) {txQueues : ℕ} (hqueues : 1 ≤ txQueues) :
    ∃ next, RootQdisc.ofLines (freshMq handle kind txQueues) = some next ∧ next.tcMq ∧
      (next.verdict = .fq ∨ next.verdict = .replace) ∧
      OnePerClass (freshMq handle kind txQueues) := by
  obtain ⟨next, hnext, hmq, hmajor, hchildren⟩ := ofLines_freshMq hhandle.2 hkind txQueues
  refine ⟨next, hnext, ⟨hmq, by omega⟩, ?_, ?_⟩
  · rw [verdict_freshMq hmq hqueues hkind hchildren]
    split_ifs
    · exact .inl rfl
    · exact .inr rfl
  · have hparents : (freshMq handle kind txQueues).filterMap QdiscLine.parent =
        (List.range txQueues).reverse.map fun queue => classId handle (queue + 1) := by
      rw [freshMq, List.filterMap_cons_none rfl, List.filterMap_map, ← List.filterMap_eq_map]
      rfl
    rw [OnePerClass, hparents]
    refine (List.nodup_reverse.mpr List.nodup_range).map fun a b hab => ?_
    have hqueue : hexText (a + 1) = hexText (b + 1) :=
      (List.cons.inj (List.append_cancel_left hab)).2
    have := hexText_injective hqueue
    omega

/-- The handle that nothing uses. -/
lemma unusedMajor_spec {root : RootQdisc} {major : ℕ} (h : root.unusedMajor = some major) :
    (0 < major ∧ major < 0xffff) ∧ major ∉ root.majors := by
  have hrange := List.mem_range'_1.mp (List.mem_of_find?_eq_some h)
  have hunused := List.find?_some h
  exact ⟨by omega, by simpa using hunused⟩

lemma majors_unused {lines : List QdiscLine} {root : RootQdisc} {major : ℕ}
    (h : RootQdisc.ofLines lines = some root) (hunused : major ∉ root.majors) :
    ∀ line ∈ lines, line.major ≠ major ∧ line.parent.bind majorOf ≠ some major := by
  obtain ⟨rootLine, -, rfl⟩ := ofLines_eq_some.mp h
  intro line hline
  have hmem : ∀ m ∈ line.major :: (line.parent.bind majorOf).toList, m ≠ major := by
    rintro m hm rfl
    exact hunused (List.mem_toFinset.mpr (List.mem_flatMap.mpr ⟨line, hline, hm⟩))
  refine ⟨hmem _ List.mem_cons_self, fun hparent => ?_⟩
  exact hmem major (List.mem_cons_of_mem _ (by rw [hparent]; exact List.mem_cons_self)) rfl

/-! ### One round -/

/-- The default was read. -/
def Fake.begun (s : Fake) : Fake := { s with clock := s.clock + 1, rounds := s.rounds + 1 }

/-- A round that runs its plan and reads a root back. -/
lemma replaceRound_run {defaults : ℕ → List Char} {name label : List Char} {round : Round}
    {current next : RootQdisc} {s : Fake} {commands : List Command}
    (hplan : current.replacePlan s.txQueues (decide (defaults s.clock = "fq".toList)) round =
      .run commands)
    (hnext : RootQdisc.ofLines (s.begun.runs defaults commands).lines = some next) :
    replaceRound (fakeHost defaults) name label s.txQueues round current s =
      (.ok next, { s.begun.runs defaults commands with
        clock := (s.begun.runs defaults commands).clock + 1 }) := by
  simp only [replaceRound, fakeHost, hplan]
  rw [← fakeHost, runCommands_fake]
  dsimp only [fakeHost]
  rw [Fake.begun] at hnext ⊢
  rw [hnext]

/-- What one round does: it stops before the first replace, or it ends all fq, or it ends with
a fresh `mq` that is left to the second round. -/
inductive RoundEnds (defaults : ℕ → List Char) (s : Fake) (round : Round) (current : RootQdisc) :
    Except (List Char) RootQdisc × Fake → Prop
  | leftAlone {error : List Char} {t : Fake} (hissued : t.issued = s.issued)
      (hrounds : t.rounds = s.rounds + 1) (hqueues : 1 < s.txQueues) (hmq : ¬ current.tcMq)
      (hdefault : defaults s.clock ≠ "fq".toList) :
      RoundEnds defaults s round current (.error error, t)
  | replaced {next : RootQdisc} {t : Fake} {new : List (List QdiscLine × Command)}
      (hnext : RootQdisc.ofLines t.lines = some next) (hissued : t.issued = s.issued ++ new)
      (hcareful : ∀ entry ∈ new, Careful entry.1 entry.2) (hrounds : t.rounds = s.rounds + 1)
      (hqueues : t.txQueues = s.txQueues)
      (hverdict : next.verdict = .fq ∨ (round = .first ∧ next.verdict = .replace ∧ next.tcMq ∧
        OnePerClass t.lines)) : RoundEnds defaults s round current (.ok next, t)

/-- One command that rebuilds or replaces the root. -/
lemma roundEnds_single {defaults : ℕ → List Char} {name label : List Char} {round : Round}
    {current next : RootQdisc} {s : Fake} (command : Command)
    (hplan : current.replacePlan s.txQueues (decide (defaults s.clock = "fq".toList)) round =
      .run [command])
    (hnext : RootQdisc.ofLines (s.begun.change (defaults (s.clock + 1)) command).lines = some next)
    (hcareful : Careful s.lines command)
    (hverdict : next.verdict = .fq ∨ (round = .first ∧ next.verdict = .replace ∧ next.tcMq ∧
      OnePerClass (s.begun.change (defaults (s.clock + 1)) command).lines)) :
    RoundEnds defaults s round current
      (replaceRound (fakeHost defaults) name label s.txQueues round current s) := by
  rw [replaceRound_run hplan hnext]
  refine .replaced hnext rfl ?_ (Fake.change_rounds _ _ _) (Fake.change_txQueues _ _ _) hverdict
  intro entry hentry
  rw [List.mem_singleton.mp hentry]
  exact hcareful

/-- Child by child. -/
lemma roundEnds_childByChild {defaults : ℕ → List Char} {name label : List Char} {round : Round}
    {current : RootQdisc} {s : Fake} (hroot : RootQdisc.ofLines s.lines = some current)
    (hmq : current.tcMq) (hchildren : current.children ≠ []) (hclasses : OnePerClass s.lines)
    (hplan : current.replacePlan s.txQueues (decide (defaults s.clock = "fq".toList)) round =
      .run (current.odd.map fun child => .parentFq child.parent)) :
    RoundEnds defaults s round current
      (replaceRound (fakeHost defaults) name label s.txQueues round current s) := by
  obtain ⟨⟨next, hnext, hfq⟩, hqueues, hrounds, new, hissued, hcareful⟩ :=
    run_childByChild (s := s.begun) defaults hroot hmq.1 hchildren hclasses
  rw [replaceRound_run hplan hnext]
  exact .replaced hnext hissued hcareful hrounds hqueues (.inl hfq)

/-- The round on an `mq` that `tc` created. -/
lemma roundEnds_tcMq {defaults : ℕ → List Char} {name label : List Char} {round : Round}
    {current : RootQdisc} {s : Fake} (hdefaults : ∀ i, plainKind (defaults i))
    (hroot : RootQdisc.ofLines s.lines = some current) (hverdict : current.verdict = .replace)
    (hqueues : 1 ≤ s.txQueues) (hclasses : OnePerClass s.lines) (hmq : current.tcMq) :
    RoundEnds defaults s round current
      (replaceRound (fakeHost defaults) name label s.txQueues round current s) := by
  have hchildren : current.children ≠ [] := by
    intro hnone
    rw [RootQdisc.verdict, if_neg (not_not_intro hmq.1), if_pos hnone] at hverdict
    exact absurd hverdict (by decide)
  by_cases hfresh : 1 < current.odd.length ∧ current.odd.length = current.children.length ∧
      decide (defaults s.clock = "fq".toList) = true ∧ round = .first
  · cases hunused : current.unusedMajor with
    | none =>
        refine roundEnds_childByChild hroot hmq hchildren hclasses ?_
        rw [RootQdisc.replacePlan, if_pos hmq, if_pos hfresh, hunused]
    | some major =>
        obtain ⟨hmajor, hnot⟩ := unusedMajor_spec hunused
        obtain ⟨next, hnext, htc, hkept, hfreshClasses⟩ :=
          freshMq_spec hmajor (hdefaults (s.clock + 1)) hqueues
        have hodd : ∀ child ∈ current.children, child.kind ≠ "fq".toList := by
          have hall := List.length_filter_eq_length_iff.mp hfresh.2.1
          exact fun child hchild => by simpa using hall child hchild
        refine roundEnds_single (.rootHandleMq major) ?_ hnext ⟨fun root h => ?_, ?_⟩ ?_
        · rw [RootQdisc.replacePlan, if_pos hmq, if_pos hfresh, hunused]
        · rw [hroot, Option.some.injEq] at h
          exact h ▸ hodd
        · exact majors_unused hroot hnot
        · exact hkept.imp_right fun h => ⟨hfresh.2.2.2, h, htc, hfreshClasses⟩
  · refine roundEnds_childByChild hroot hmq hchildren hclasses ?_
    rw [RootQdisc.replacePlan, if_pos hmq, if_neg hfresh]

/-- The first round on any other root. -/
lemma roundEnds_other {defaults : ℕ → List Char} {name label : List Char}
    {current : RootQdisc} {s : Fake} (hdefaults : ∀ i, plainKind (defaults i))
    (hroot : RootQdisc.ofLines s.lines = some current) (hqueues : 1 ≤ s.txQueues)
    (hhandle : 0 < s.nextHandle ∧ s.nextHandle < 0xffff) (hmq : ¬ current.tcMq) :
    RoundEnds defaults s .first current
      (replaceRound (fakeHost defaults) name label s.txQueues .first current s) := by
  by_cases hmany : 1 < s.txQueues
  · -- a fresh mq is asked for only while the default is fq
    by_cases hfq : defaults s.clock = "fq".toList
    · obtain ⟨next, hnext, htc, hkept, hclasses⟩ :=
        freshMq_spec hhandle (hdefaults (s.clock + 1)) hqueues
      have hchange : (s.begun.change (defaults (s.clock + 1)) .rootMq).lines =
          freshMq s.nextHandle (defaults (s.clock + 1)) s.txQueues := by
        rw [Fake.change, if_neg]
        · rfl
        · rw [show s.begun.lines = s.lines from rfl, hroot]
          simpa using hmq
      refine roundEnds_single .rootMq ?_ (by rw [hchange]; exact hnext) trivial ?_
      · rw [RootQdisc.replacePlan, if_neg hmq, if_pos hmany, if_neg (by simpa using hfq)]
      · rw [hchange]
        exact hkept.imp_right fun h => ⟨rfl, h, htc, hclasses⟩
    · have hplan : current.replacePlan s.txQueues (decide (defaults s.clock = "fq".toList)) .first =
          .freshMqNeedsFqDefault := by
        rw [RootQdisc.replacePlan, if_neg hmq, if_pos hmany, if_pos (by simpa using hfq)]
      rw [replaceRound]
      dsimp only [fakeHost]
      rw [hplan]
      exact .leftAlone rfl rfl hmany hmq hfq
  · have hegress : (⟨"fq".toList, s.nextHandle, none, ["refcnt".toList, "2".toList]⟩ :
        QdiscLine).egress = true := by
      simp [QdiscLine.egress]
      omega
    obtain ⟨next, hnext, hkind⟩ : ∃ next, RootQdisc.ofLines
        (s.begun.change (defaults (s.clock + 1)) .rootFq).lines = some next ∧
          next.kind = "fq".toList := by
      refine ⟨_, ofLines_eq_some.mpr
        ⟨⟨"fq".toList, s.nextHandle, none, ["refcnt".toList, "2".toList]⟩, ?_, rfl⟩, rfl⟩
      exact (congrArg _ (List.filter_cons_of_pos hegress)).trans rfl
    refine roundEnds_single .rootFq ?_ hnext trivial (.inl ?_)
    · rw [RootQdisc.replacePlan, if_neg hmq, if_neg hmany]
    · exact (verdict_fq_iff next).mpr (.inl hkind)

/-! ### Both rounds -/

/-- What a device must be like: it has a queue, every class holds one qdisc, and the kernel
gives out handles other than `0:` and `ffff:`. -/
structure Fake.Sound (s : Fake) : Prop where
  queues : 1 ≤ s.txQueues
  classes : OnePerClass s.lines
  handle : 0 < s.nextHandle ∧ s.nextHandle < 0xffff

/-- fq, or an `mq` with children that are all fq. -/
def AllFq (root : RootQdisc) : Prop :=
  root.kind = "fq".toList ∨ (root.kind = "mq".toList ∧ root.children ≠ [] ∧
    ∀ child ∈ root.children, child.kind = "fq".toList)

/-- The second round, if there is one. -/
lemma replaceRounds_fallback {defaults : ℕ → List Char} (name label : List Char)
    {current : RootQdisc} {s : Fake} (hdefaults : ∀ i, plainKind (defaults i))
    (hroot : RootQdisc.ofLines s.lines = some current) (hqueues : 1 ≤ s.txQueues)
    (hverdict : current.verdict = .fq ∨ (current.verdict = .replace ∧ current.tcMq ∧
      OnePerClass s.lines)) :
    ∃ last t new, replaceRounds (fakeHost defaults) name label s.txQueues [.fallback] current s =
        (.ok last, t) ∧ RootQdisc.ofLines t.lines = some last ∧ last.verdict = .fq ∧
      t.issued = s.issued ++ new ∧ (∀ entry ∈ new, Careful entry.1 entry.2) ∧
      t.rounds ≤ s.rounds + 1 := by
  rw [replaceRounds]
  rcases hverdict with hfq | ⟨hreplace, hmq, hclasses⟩
  · rw [if_pos (by rw [hfq]; decide)]
    exact ⟨current, s, [], rfl, hroot, hfq, (List.append_nil _).symm, by simp, by omega⟩
  · rw [if_neg (not_not_intro hreplace)]
    have hspec : RoundEnds defaults s .fallback current
        (replaceRound (fakeHost defaults) name label s.txQueues .fallback current s) :=
      roundEnds_tcMq hdefaults hroot hreplace hqueues hclasses hmq
    generalize replaceRound (fakeHost defaults) name label s.txQueues .fallback current s = out
      at hspec ⊢
    cases hspec with
    | leftAlone _ _ _ hnot => exact absurd hmq hnot
    | @replaced next t new hnext hissued hcareful hrounds _ hlast =>
        have hfq : next.verdict = .fq := hlast.resolve_right fun h => absurd h.1 (by decide)
        exact ⟨next, t, new, rfl, hnext, hfq, hissued, hcareful, hrounds.le⟩

/-- A device before `replace_root`. -/
def Fake.start (lines : List QdiscLine) (txQueues nextHandle : ℕ) : Fake :=
  ⟨lines, txQueues, nextHandle, 0, [], 0⟩

/-- Both rounds. -/
lemma replaceRounds_spec {defaults : ℕ → List Char} (name label : List Char) {before : RootQdisc}
    {s : Fake} (hdefaults : ∀ i, plainKind (defaults i)) (hsound : s.Sound)
    (hroot : RootQdisc.ofLines s.lines = some before) (hverdict : before.verdict = .replace) :
    ∃ out t new, replaceRounds (fakeHost defaults) name label s.txQueues [.first, .fallback]
        before s = (out, t) ∧
      t.issued = s.issued ++ new ∧ (∀ entry ∈ new, Careful entry.1 entry.2) ∧
      t.rounds ≤ s.rounds + 2 ∧
      ((∃ last, out = .ok last ∧ RootQdisc.ofLines t.lines = some last ∧ last.verdict = .fq) ∨
        (∃ error, out = .error error ∧ new = [] ∧ 1 < s.txQueues ∧ ¬ before.tcMq ∧
          defaults s.clock ≠ "fq".toList)) := by
  have hspec : RoundEnds defaults s .first before
      (replaceRound (fakeHost defaults) name label s.txQueues .first before s) := by
    by_cases hmq : before.tcMq
    · exact roundEnds_tcMq hdefaults hroot hverdict hsound.queues hsound.classes hmq
    · exact roundEnds_other hdefaults hroot hsound.queues hsound.handle hmq
  rw [replaceRounds, if_neg (not_not_intro hverdict)]
  generalize replaceRound (fakeHost defaults) name label s.txQueues .first before s = out
    at hspec ⊢
  cases hspec with
  | @leftAlone error t hissued hrounds hqueues hmq hdefault =>
      exact ⟨_, t, [], rfl, by rw [hissued, List.append_nil], by simp, by omega,
        .inr ⟨error, rfl, rfl, hqueues, hmq, hdefault⟩⟩
  | @replaced next t new hnext hissued hcareful hrounds hqueues hkept =>
      obtain ⟨last, u, more, hrun, hlast, hfq, hissued', hcareful', hrounds'⟩ :=
        replaceRounds_fallback name label hdefaults hnext (hqueues.symm ▸ hsound.queues)
          (hkept.imp_right And.right)
      rw [hqueues] at hrun
      refine ⟨_, u, new ++ more, hrun, ?_, ?_, by omega, .inl ⟨last, rfl, hlast, hfq⟩⟩
      · rw [hissued', hissued, List.append_assoc]
      · exact fun entry hentry =>
          (List.mem_append.mp hentry).elim (hcareful entry) (hcareful' entry)

/-- **Replacing a root ends all fq, or touches nothing.**  Whatever fq or replaceable kind the
default is rewritten to between any two steps, `replace_root` ends with all fq, or with an
error before the first replace; that only happens with more than one queue, a root that is no
`mq` created by `tc`, and another default than fq.  Every replace is careful, and there are at
most two rounds. -/
theorem replace_root_ends_fq (defaults : ℕ → List Char) (hdefaults : ∀ i, plainKind (defaults i))
    (name label : List Char) (before : RootQdisc) (lines : List QdiscLine)
    (txQueues nextHandle : ℕ) (hsound : (Fake.start lines txQueues nextHandle).Sound)
    (hroot : RootQdisc.ofLines lines = some before) (hverdict : before.verdict = .replace) :
    let out := replaceRoot (fakeHost defaults) name label before
      (Fake.start lines txQueues nextHandle)
    ((∃ summary root, out.1 = .ok summary ∧ RootQdisc.ofLines out.2.lines = some root ∧
        AllFq root ∧ summary = root.summary) ∨
      (∃ error, out.1 = .error error ∧ out.2.issued = [] ∧ 1 < txQueues ∧ ¬ before.tcMq ∧
        defaults 0 ≠ "fq".toList)) ∧
    (∀ entry ∈ out.2.issued, Careful entry.1 entry.2) ∧ out.2.rounds ≤ 2 := by
  obtain ⟨out, t, new, hrun, hissued, hcareful, hrounds, hend⟩ :=
    replaceRounds_spec name label hdefaults hsound hroot hverdict
  have hlog : t.issued = new := hissued
  have hhost : (fakeHost defaults).txQueues (Fake.start lines txQueues nextHandle) =
      (Fake.start lines txQueues nextHandle).txQueues := rfl
  intro result
  rcases hend with ⟨last, rfl, hlast, hfq⟩ | ⟨error, rfl, hnone, hqueues, hmq, hdefault⟩
  · have hresult : result = (.ok last.summary, t) := by
      simp only [result, replaceRoot]
      rw [hhost, hrun]
      exact if_neg (not_not_intro hfq)
    rw [hresult]
    refine ⟨.inl ⟨last.summary, last, rfl, hlast, (verdict_fq_iff last).mp hfq, rfl⟩, ?_, hrounds⟩
    rw [hlog]
    exact hcareful
  · have hresult : result = (.error error, t) := by
      simp only [result, replaceRoot]
      rw [hhost, hrun]
    rw [hresult]
    refine ⟨.inr ⟨error, rfl, hlog.trans hnone, hqueues, hmq, hdefault⟩, ?_, hrounds⟩
    rw [hlog]
    exact hcareful

/-- The `mq` of two queues that the kernel makes with cake as the default. -/
def kernelMqCake : List QdiscLine :=
  [⟨"mq".toList, 0, none, []⟩, ⟨"cake".toList, 0, some ":2".toList, []⟩,
    ⟨"cake".toList, 0, some ":1".toList, []⟩]

/-- The default is read as fq and rewritten to cake at once. -/
def fqThenCake (i : ℕ) : List Char := if i = 0 then "fq".toList else "cake".toList

/-- The fresh `mq` gets cakes, and ends all fq after all. -/
theorem replace_root_of_mq_cake :
    ∃ before, RootQdisc.ofLines kernelMqCake = some before ∧ before.verdict = .replace ∧
      ∃ summary root,
        (replaceRoot (fakeHost fqThenCake) "eth0".toList "eth0".toList before
          (Fake.start kernelMqCake 2 0x8010)).1 = .ok summary ∧
        RootQdisc.ofLines (replaceRoot (fakeHost fqThenCake) "eth0".toList "eth0".toList before
          (Fake.start kernelMqCake 2 0x8010)).2.lines = some root ∧
        AllFq root := by
  have hverdict : (RootQdisc.ofLines kernelMqCake).map RootQdisc.verdict = some .replace := by
    decide +kernel
  obtain ⟨before, hroot, hreplace⟩ := Option.map_eq_some_iff.mp hverdict
  have hplain : ∀ i, plainKind (fqThenCake i) := by
    intro i
    rw [fqThenCake]
    split_ifs <;> decide
  have hsound : (Fake.start kernelMqCake 2 0x8010).Sound := by
    refine ⟨by decide, ?_, by decide, by decide⟩
    change (kernelMqCake.filterMap QdiscLine.parent).Nodup
    decide
  obtain ⟨hend, -⟩ := replace_root_ends_fq fqThenCake hplain "eth0".toList "eth0".toList before
    kernelMqCake 2 0x8010 hsound hroot hreplace
  refine ⟨before, hroot, hreplace, ?_⟩
  rcases hend with ⟨summary, root, hok, hlines, hall, -⟩ | ⟨_, _, _, _, _, hdefault⟩
  · exact ⟨summary, root, hok, hlines, hall⟩
  · exact absurd rfl hdefault

end SkylineSpeeder
