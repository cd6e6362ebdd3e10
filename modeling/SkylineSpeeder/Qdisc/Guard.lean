import SkylineSpeeder.Machine.Distinct
import SkylineSpeeder.Machine.Text

/-!
What the guard of `skyline-speederd` makes of the output of `tc qdisc show`: the root
qdisc of `guard.rs`, its summary and its verdict.

* `parseLine`, `RootQdisc.parse`: the output, read;
* `RootQdisc.summary`, `RootQdisc.verdict`: the one word and the verdict;
* `kindVerdict_kept_iff`: which kinds, shaped or not, are left to be fq or replaced;
* `worst_eq_replace_iff`, `verdict_fq_iff`: which roots are replaced and which are fq.
-/

namespace SkylineSpeeder

open Text

/-! ### Kinds -/

/-- `REPLACEABLE_KINDS`. -/
def replaceableKinds : List (List Char) :=
  ["pfifo_fast", "pfifo", "bfifo", "pfifo_head_drop", "fq_codel", "codel", "cake", "fq_pie",
    "pie", "sfq", "red", "sfb", "choke", "hhf"].map String.toList

/-- `DELIBERATE_KINDS`. -/
def deliberateKinds : List (List Char) :=
  ["noqueue", "htb", "hfsc", "cbq", "drr", "qfq", "ets", "prio", "multiq", "mqprio", "taprio",
    "tbf", "netem"].map String.toList

/-- What the guard thinks of a qdisc. -/
inductive Verdict where
  | fq
  | replace
  | deliberate
  | unknown
  deriving DecidableEq, Repr

/-- `kind_verdict`. -/
def kindVerdict (kind : List Char) (shaping : Bool) : Verdict :=
  if kind = "fq".toList then .fq
  else if shaping = true ∨ kind ∈ deliberateKinds then .deliberate
  else if kind ∈ replaceableKinds then .replace
  else .unknown

/-- The first `bandwidth` that has a value, and that value. -/
def bandwidthOf : List (List Char) → Option (List Char)
  | option :: value :: rest =>
      if option = "bandwidth".toList then some value else bandwidthOf (value :: rest)
  | _ => none

/-- `cake_shaping`. -/
def cakeShaping (kind : List Char) (options : List (List Char)) : Option (List Char) :=
  if kind ≠ "cake".toList then none
  else
    match (bandwidthOf options).filter (· ≠ "unlimited".toList) with
    | some rate => some ("bandwidth ".toList ++ rate)
    | none =>
        if "autorate-ingress".toList ∈ options then some "autorate-ingress".toList else none

/-! ### Lines -/

/-- `major_of`: the number before the first colon, 0 if there is none. -/
def majorOf (id : List Char) : Option ℕ :=
  let major := id.takeWhile (· ≠ ':')
  if major = [] then some 0 else fromStrRadix16 major

/-- `char::is_whitespace`, the property `White_Space` of Unicode. -/
def isWhitespace (c : Char) : Bool :=
  (9 ≤ c.toNat && c.toNat ≤ 13) || (0x2000 ≤ c.toNat && c.toNat ≤ 0x200a) ||
    [0x20, 0x85, 0xa0, 0x1680, 0x2028, 0x2029, 0x202f, 0x205f, 0x3000].contains c.toNat

/-- A line that names a qdisc. -/
structure QdiscLine where
  kind : List Char
  major : ℕ
  parent : Option (List Char)
  options : List (List Char)
  deriving DecidableEq

/-- The search for `root` or `parent` among the next words, at most `n` of them. -/
def parsePlace (kind : List Char) (major : ℕ) : ℕ → List (List Char) → Option QdiscLine
  | 0, _ => none
  | _ + 1, [] => none
  | n + 1, word :: rest =>
      if word = "root".toList then some ⟨kind, major, none, rest⟩
      else if word = "parent".toList then
        match rest with
        | [] => none
        | id :: options => some ⟨kind, major, some id, options⟩
      else parsePlace kind major n rest

/-- The words of a line, as `parse_line` takes them. -/
def parseWords : List (List Char) → Option QdiscLine
  | first :: kind :: handle :: rest =>
      if first = "qdisc".toList then
        (majorOf handle).bind fun major => parsePlace kind major 3 rest
      else none
  | _ => none

/-- `parse_line`. -/
def parseLine (line : List Char) : Option QdiscLine := parseWords (words isWhitespace line)

/-- `str::lines`: a carriage return before the newline is no part of the line. -/
def rustLines (text : List Char) : List (List Char) :=
  (lines text).map fun line =>
    if line.getLast? = some '\r' then line.dropLast else line

/-! ### The root -/

/-- `MqChild`: one queue of an `mq`. -/
structure MqChild where
  kind : List Char
  parent : List Char
  shaping : Option (List Char)
  deriving DecidableEq

/-- `RootQdisc`. -/
structure RootQdisc where
  kind : List Char
  major : ℕ
  shaping : Option (List Char)
  children : List MqChild
  majors : Finset ℕ

/-- `clsact` and `ingress`, and what hangs off `ffff:`, are not part of the egress tree. -/
def QdiscLine.egress (line : QdiscLine) : Bool :=
  !(line.kind = "clsact".toList || line.kind = "ingress".toList) && line.major != 0xffff &&
    line.parent.bind majorOf != some 0xffff

/-- A line directly under the `mq` with handle `major`. -/
def QdiscLine.mqChild (major : ℕ) (line : QdiscLine) : Option MqChild :=
  line.parent.bind fun parent =>
    if majorOf parent = some major then
      some ⟨line.kind, parent, cakeShaping line.kind line.options⟩
    else none

namespace RootQdisc

/-- The root of the lines that name a qdisc. -/
def ofLines (all : List QdiscLine) : Option RootQdisc :=
  let tree := all.filter QdiscLine.egress
  (tree.find? fun line => line.parent.isNone).map fun root =>
    { kind := root.kind
      major := root.major
      shaping := cakeShaping root.kind root.options
      children :=
        if root.kind = "mq".toList then tree.filterMap (QdiscLine.mqChild root.major) else []
      majors := (all.flatMap fun line =>
        line.major :: (line.parent.bind majorOf).toList).toFinset }

/-- `RootQdisc::parse`. -/
def parse (output : List Char) : Option RootQdisc :=
  ofLines ((rustLines output).filterMap parseLine)

/-- `RootQdisc::summary`. -/
def summary (root : RootQdisc) : List Char :=
  if root.kind ≠ "mq".toList ∨ root.children = [] then root.kind
  else
    "mq/".toList ++
      [','].intercalate (Distinct.sortDedup (root.children.map MqChild.kind))

/-- The verdict of a set of children: what was built on purpose counts more than what is
unknown, and that more than what is replaced. -/
def worst (verdicts : List Verdict) : Verdict :=
  match [Verdict.deliberate, .unknown, .replace].find? (· ∈ verdicts) with
  | some verdict => verdict
  | none => .fq

/-- `RootQdisc::verdict`. -/
def verdict (root : RootQdisc) : Verdict :=
  if root.kind ≠ "mq".toList then kindVerdict root.kind root.shaping.isSome
  else if root.children = [] then .unknown
  else worst (root.children.map fun child => kindVerdict child.kind child.shaping.isSome)

end RootQdisc

/-! ### What is left to be fq or replaced -/

/-- The verdicts on which the guard makes or keeps the root fq. -/
def Verdict.kept (verdict : Verdict) : Prop := verdict = .fq ∨ verdict = .replace

instance (verdict : Verdict) : Decidable verdict.kept := inferInstanceAs (Decidable (_ ∨ _))

/-- fq and the replaceable kinds. -/
def plainKind (kind : List Char) : Prop := kind = "fq".toList ∨ kind ∈ replaceableKinds

instance (kind : List Char) : Decidable (plainKind kind) := inferInstanceAs (Decidable (_ ∨ _))

/-- No kind is in both lists. -/
lemma replaceable_not_deliberate {kind : List Char} (h : kind ∈ replaceableKinds) :
    kind ∉ deliberateKinds :=
  (by decide : ∀ k ∈ replaceableKinds, k ∉ deliberateKinds) kind h

/-- Only a cake is shaped. -/
lemma cakeShaping_kind {kind : List Char} {options : List (List Char)}
    (h : (cakeShaping kind options).isSome = true) : kind = "cake".toList := by
  by_contra hne
  rw [cakeShaping, if_pos hne] at h
  exact absurd h (by decide)

/-- A qdisc is kept or replaced exactly if its kind is plain and it is not shaped. -/
lemma kindVerdict_kept_iff (kind : List Char) (options : List (List Char)) :
    (kindVerdict kind (cakeShaping kind options).isSome).kept ↔
      plainKind kind ∧ (cakeShaping kind options).isSome = false := by
  rw [kindVerdict, plainKind, Verdict.kept]
  by_cases hfq : kind = "fq".toList
  · have hshape : (cakeShaping kind options).isSome = false := by
      rw [Bool.eq_false_iff]
      intro h
      rw [cakeShaping_kind h] at hfq
      exact absurd hfq (by decide)
    rw [if_pos hfq, hshape]
    exact ⟨fun _ => ⟨.inl hfq, rfl⟩, fun _ => .inl rfl⟩
  · rw [if_neg hfq]
    have hnever : ¬ (Verdict.deliberate = .fq ∨ Verdict.deliberate = .replace) := by decide
    cases hshape : (cakeShaping kind options).isSome with
    | true =>
        rw [if_pos (.inl rfl)]
        exact ⟨fun h => absurd h hnever, fun h => absurd h.2 (by decide)⟩
    | false =>
        by_cases hrep : kind ∈ replaceableKinds
        · have hplain : ¬ (false = true ∨ kind ∈ deliberateKinds) :=
            fun h => h.elim (by decide) (replaceable_not_deliberate hrep)
          rw [if_neg hplain, if_pos hrep]
          exact ⟨fun _ => ⟨.inr hrep, rfl⟩, fun _ => .inr rfl⟩
        · have hother : ¬ (kind = "fq".toList ∨ kind ∈ replaceableKinds) :=
            fun h => h.elim hfq hrep
          rw [if_neg hrep]
          refine ⟨fun h => absurd h ?_, fun h => absurd h.1 hother⟩
          by_cases hdel : false = true ∨ kind ∈ deliberateKinds
          · rw [if_pos hdel]
            exact hnever
          · rw [if_neg hdel]
            decide

/-- The worst of some verdicts is kept exactly if each is. -/
lemma worst_kept_iff (verdicts : List Verdict) :
    (RootQdisc.worst verdicts).kept ↔ ∀ v ∈ verdicts, v.kept := by
  have hkept : (∀ v ∈ verdicts, v.kept) ↔ Verdict.deliberate ∉ verdicts ∧ .unknown ∉ verdicts := by
    constructor
    · exact fun h => ⟨fun hd => absurd (h _ hd) (by decide), fun hu => absurd (h _ hu) (by decide)⟩
    · rintro ⟨hd, hu⟩ v hv
      cases v with
      | fq => exact .inl rfl
      | replace => exact .inr rfl
      | deliberate => exact absurd hv hd
      | unknown => exact absurd hv hu
  rw [hkept, RootQdisc.worst]
  by_cases hd : Verdict.deliberate ∈ verdicts
  · simp [hd, Verdict.kept]
  · by_cases hu : Verdict.unknown ∈ verdicts
    · simp [hd, hu, Verdict.kept]
    · by_cases hr : Verdict.replace ∈ verdicts
      · simp [hd, hu, hr, Verdict.kept]
      · simp [hd, hu, hr, Verdict.kept]

/-- The worst of some verdicts is `Replace` exactly if all are kept or replaced, and one is
replaced. -/
lemma worst_eq_replace_iff (verdicts : List Verdict) :
    RootQdisc.worst verdicts = .replace ↔ (∀ v ∈ verdicts, v.kept) ∧ ∃ v ∈ verdicts, v ≠ .fq := by
  constructor
  · intro h
    have hkept : ∀ v ∈ verdicts, v.kept := (worst_kept_iff verdicts).mp (.inr h)
    refine ⟨hkept, .replace, ?_, by decide⟩
    rw [RootQdisc.worst] at h
    by_contra hr
    have hd : Verdict.deliberate ∉ verdicts := fun hd => absurd (hkept _ hd) (by decide)
    have hu : Verdict.unknown ∉ verdicts := fun hu => absurd (hkept _ hu) (by decide)
    simp [hd, hu, hr] at h
  · rintro ⟨hkept, v, hv, hne⟩
    have hr : v = .replace := (hkept v hv).resolve_left hne
    have hd : Verdict.deliberate ∉ verdicts := fun hd => absurd (hkept _ hd) (by decide)
    have hu : Verdict.unknown ∉ verdicts := fun hu => absurd (hkept _ hu) (by decide)
    rw [RootQdisc.worst]
    simp [hd, hu, hr ▸ hv]

/-! ### What is fq -/

lemma kindVerdict_fq_iff (kind : List Char) (shaping : Bool) :
    kindVerdict kind shaping = .fq ↔ kind = "fq".toList := by
  rw [kindVerdict]
  by_cases hfq : kind = "fq".toList
  · rw [if_pos hfq]
    exact iff_of_true rfl hfq
  · rw [if_neg hfq]
    refine iff_of_false ?_ hfq
    split_ifs <;> decide

lemma worst_fq_iff (verdicts : List Verdict) :
    RootQdisc.worst verdicts = .fq ↔ ∀ v ∈ verdicts, v = .fq := by
  constructor
  · intro h v hv
    have hkept : v.kept := (worst_kept_iff verdicts).mp (.inl h) v hv
    rcases hkept with hfq | rfl
    · exact hfq
    · rw [RootQdisc.worst] at h
      by_cases hd : Verdict.deliberate ∈ verdicts
      · simp [hd] at h
      · by_cases hu : Verdict.unknown ∈ verdicts
        · simp [hd, hu] at h
        · simp [hd, hu, hv] at h
  · intro h
    have hnot : ∀ v ≠ Verdict.fq, v ∉ verdicts := fun v hne hv => hne (h v hv)
    rw [RootQdisc.worst]
    simp [hnot .deliberate (by decide), hnot .unknown (by decide), hnot .replace (by decide)]

/-- The guard finds a root fq exactly if it is fq, or an `mq` with children that are all
fq. -/
lemma verdict_fq_iff (root : RootQdisc) :
    root.verdict = .fq ↔
      root.kind = "fq".toList ∨
        (root.kind = "mq".toList ∧ root.children ≠ [] ∧
          ∀ child ∈ root.children, child.kind = "fq".toList) := by
  rw [RootQdisc.verdict]
  by_cases hmq : root.kind = "mq".toList
  · have hfq : root.kind ≠ "fq".toList := by rw [hmq]; decide
    rw [if_neg (not_not_intro hmq)]
    split_ifs with hempty
    · exact iff_of_false (by decide) fun h => h.elim hfq fun h => h.2.1 hempty
    · rw [worst_fq_iff, List.forall_mem_map]
      simp only [kindVerdict_fq_iff]
      exact ⟨fun h => .inr ⟨hmq, hempty, h⟩, fun h => h.elim (absurd · hfq) fun h => h.2.2⟩
  · rw [if_pos hmq, kindVerdict_fq_iff]
    simp only [hmq, false_and, or_false]

end SkylineSpeeder
