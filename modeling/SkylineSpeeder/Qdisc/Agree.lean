import SkylineSpeeder.Qdisc.Installer

/-!
The guard and the installer on the same output of `tc qdisc show`.

* `TcQdisc`, `TcChild`, `TcTree`: what `tc` prints, one root and any number of other
  qdiscs; `TcTree.Prints` says that a text is such an output;
* `guard_parse`: the root the guard reads off it;
* `installer_summary`, `installer_shaping`: what the two awk programs print;
* `TcTree.NothingHidden`: the guard leaves out whatever has the handle `ffff:`, which `tc`
  lets a queue of an `mq` have, and the installer does not;
* `qdisc_agree_iff`: they agree exactly where that makes no difference.
-/

namespace SkylineSpeeder

open Text

/-! ### What `tc` prints -/

/-- The name of a kind. -/
def KindName (kind : List Char) : Prop := kind ≠ [] ∧ ∀ c ∈ kind, nameChar c = true

instance (kind : List Char) : Decidable (KindName kind) :=
  have := List.decidableBAll (fun c => nameChar c = true) kind
  inferInstanceAs (Decidable (_ ∧ _))

/-- A qdisc: its kind, the major number of its handle and its options. -/
structure TcQdisc where
  kind : List Char
  handle : ℕ
  options : List (List Char)
  kind_name : KindName kind
  handle_lt : handle < 2 ^ 16
  bandwidth_once : kind = "cake".toList → options.count "bandwidth".toList ≤ 1

/-- A qdisc with a parent: the major number of the parent and what follows the colon. -/
structure TcChild extends TcQdisc where
  major : ℕ
  minor : List Char
  major_lt : major < 2 ^ 16

/-- The qdiscs of a device: one root, which does not have the handle `ffff:`, and the others
before and after it. -/
structure TcTree where
  before : List TcChild
  root : TcQdisc
  after : List TcChild
  outside : root.handle ≠ 0xffff

/-- A handle. -/
def TcQdisc.handleText (q : TcQdisc) : List Char := hexText q.handle ++ [':']

/-- The parent; the major number 0 is left out. -/
def TcChild.parentText (c : TcChild) : List Char :=
  (if c.major = 0 then [] else hexText c.major) ++ ':' :: c.minor

/-- The words of a root's line. -/
def TcQdisc.rootWords (q : TcQdisc) : List (List Char) :=
  "qdisc".toList :: q.kind :: q.handleText :: "root".toList :: q.options

/-- The words of any other line. -/
def TcChild.words (c : TcChild) : List (List Char) :=
  "qdisc".toList :: c.kind :: c.handleText :: "parent".toList :: c.parentText :: c.options

/-- Everything but the root. -/
def TcTree.children (t : TcTree) : List TcChild := t.before ++ t.after

/-- The words of all lines. -/
def TcTree.words (t : TcTree) : List (List (List Char)) :=
  t.before.map TcChild.words ++ t.root.rootWords :: t.after.map TcChild.words

/-- A text of printable ASCII and newlines shows the tree: its lines that begin with
`qdisc` have these words, apart by any number of spaces. -/
def TcTree.Prints (t : TcTree) (output : List Char) : Prop :=
  (∀ c ∈ output, c = '\n' ∨ 32 ≤ c.toNat ∧ c.toNat ≤ 126) ∧
    ((lines output).map (Text.words (· = ' '))).filter
      (fun record => field record 1 = "qdisc".toList) = t.words

instance (t : TcTree) (output : List Char) : Decidable (t.Prints output) :=
  have := List.decidableBAll (fun c => c = '\n' ∨ 32 ≤ c.toNat ∧ c.toNat ≤ 126) output
  inferInstanceAs (Decidable (_ ∧ _))

/-! ### Numbers -/

lemma handleText_major (q : TcQdisc) : majorOf q.handleText = some q.handle := by
  rw [majorOf, TcQdisc.handleText, takeWhile_colon (colon_notMem_hexText _)]
  have hlt := q.handle_lt
  simp only [hexText_ne_nil, if_false]
  exact fromStrRadix16_hexText (by omega)

lemma colon_notMem_major (c : TcChild) : ':' ∉ (if c.major = 0 then [] else hexText c.major) := by
  split_ifs
  · exact List.not_mem_nil
  · exact colon_notMem_hexText _

lemma parentText_major (c : TcChild) : majorOf c.parentText = some c.major := by
  rw [majorOf, TcChild.parentText, takeWhile_colon (colon_notMem_major c)]
  have hlt := c.major_lt
  by_cases hzero : c.major = 0
  · rw [if_pos hzero, if_pos rfl, hzero]
  · rw [if_neg hzero, if_neg (hexText_ne_nil _)]
    exact fromStrRadix16_hexText (by omega)

/-- The prefix test of the installer compares the major numbers. -/
lemma underRoot_iff (q : TcQdisc) (c : TcChild) :
    underRoot q.handleText c.parentText = true ↔ c.major = q.handle := by
  have hq := q.handle_lt
  have hc := c.major_lt
  have hhandle : q.handleText = "0:".toList ↔ q.handle = 0 := by
    have hzero : "0:".toList = hexText 0 ++ [':'] := by decide
    rw [hzero, TcQdisc.handleText, List.append_left_inj]
    exact ⟨fun h => hexText_injective h, fun h => by rw [h]⟩
  -- the front of a child's parent is what stands before the colon
  have hfront : (if q.handleText = "0:".toList then ":".toList else q.handleText) =
      (if q.handle = 0 then [] else hexText q.handle) ++ [':'] := by
    by_cases hzero : q.handle = 0
    · rw [if_pos (hhandle.mpr hzero), if_pos hzero]
      rfl
    · rw [if_neg (mt hhandle.mp hzero), if_neg hzero]
      rfl
  have hcolon : ':' ∉ (if q.handle = 0 then [] else hexText q.handle) := by
    split_ifs
    · exact List.not_mem_nil
    · exact colon_notMem_hexText _
  rw [underRoot]
  simp only [hfront]
  rw [Bool.and_eq_true, decide_eq_true_iff, List.isPrefixOf_iff_prefix, TcChild.parentText,
    prefix_colon_iff hcolon (colon_notMem_major c)]
  have hne : (if q.handle = 0 then [] else hexText q.handle) ++ [':'] ≠ [] := by simp
  refine (and_iff_right hne).trans ?_
  by_cases hqz : q.handle = 0
  · by_cases hcz : c.major = 0
    · simp [hqz, hcz]
    · rw [if_pos hqz, if_neg hcz]
      exact ⟨fun h => absurd h.symm (hexText_ne_nil _), fun h => absurd (h.trans hqz) hcz⟩
  · by_cases hcz : c.major = 0
    · rw [if_neg hqz, if_pos hcz]
      exact ⟨fun h => absurd h (hexText_ne_nil _), fun h => absurd (h.symm.trans hcz) hqz⟩
    · rw [if_neg hqz, if_neg hcz]
      exact ⟨fun h => (hexText_injective h).symm, fun h => by rw [h]⟩

/-! ### Reading the lines -/

section Lines

variable {t : TcTree} {output : List Char}

/-- What stands in a line of the output. -/
lemma printable (h : t.Prints output) {line : List Char} (hline : line ∈ lines output) {c : Char}
    (hc : c ∈ line) : 32 ≤ c.toNat ∧ c.toNat ≤ 126 := by
  obtain ⟨hmem, hne⟩ := mem_of_mem_lines hline hc
  exact (h.1 c hmem).resolve_left hne

/-- Both programs see the words of the tree, beside lines that are not about a qdisc. -/
lemma records_eq (h : t.Prints output) :
    (records output).filter (fun record => field record 1 = "qdisc".toList) = t.words := by
  have hwords : records output = (lines output).map (Text.words (· = ' ')) := by
    refine List.map_congr_left fun line hline => words_congr fun c hc => ?_
    have hprint := printable h hline hc
    have htab : c ≠ '\t' := by
      rintro rfl
      exact absurd hprint.1 (by decide)
    have hnewline : c ≠ '\n' := (mem_of_mem_lines hline hc).2
    simp [awkBlank, htab, hnewline]
  rw [hwords]
  exact h.2

/-- Of the printable characters only the space is white. -/
lemma isWhitespace_printable {c : Char} (h : 32 ≤ c.toNat ∧ c.toNat ≤ 126) :
    isWhitespace c = decide (c = ' ') := by
  have hspace : c = ' ' ↔ c.toNat = 32 := Char.toNat_inj.symm
  rw [Bool.eq_iff_iff, decide_eq_true_iff, hspace, isWhitespace]
  simp only [Bool.or_eq_true, Bool.and_eq_true, decide_eq_true_eq, List.contains_eq_mem,
    List.mem_cons, List.not_mem_nil, or_false]
  constructor
  · intro hwhite
    omega
  · intro hblank
    exact .inr (.inl hblank)

/-- A line as the guard reads it. -/
def TcQdisc.rootLine (q : TcQdisc) : QdiscLine := ⟨q.kind, q.handle, none, q.options⟩

/-- A line with a parent as the guard reads it. -/
def TcChild.line (c : TcChild) : QdiscLine := ⟨c.kind, c.handle, some c.parentText, c.options⟩

lemma parseWords_root (q : TcQdisc) : parseWords q.rootWords = some q.rootLine := by
  rw [TcQdisc.rootWords, parseWords, if_pos rfl, handleText_major, Option.bind_some]
  exact if_pos rfl

lemma parseWords_child (c : TcChild) : parseWords c.words = some c.line := by
  rw [TcChild.words, parseWords, if_pos rfl, handleText_major, Option.bind_some]
  exact (if_neg (by decide)).trans (if_pos rfl)

/-- A line that is not about a qdisc is no line for the guard. -/
lemma parseWords_other {record : List (List Char)} (h : field record 1 ≠ "qdisc".toList) :
    parseWords record = none := by
  match record with
  | [] => rfl
  | [_] => rfl
  | [_, _] => rfl
  | first :: _ :: _ :: _ => exact if_neg h

/-- The lines the guard works on. -/
lemma guard_lines (h : t.Prints output) :
    (rustLines output).filterMap parseLine =
      t.before.map TcChild.line ++ t.root.rootLine :: t.after.map TcChild.line := by
  have hlines : rustLines output = lines output := by
    refine (List.map_congr_left fun line hline => ?_).trans (List.map_id _)
    refine if_neg fun hlast => ?_
    have hprint := printable h hline (List.mem_of_getLast? hlast)
    exact absurd hprint.1 (by decide)
  have hparse : (lines output).filterMap parseLine =
      ((lines output).map (Text.words (· = ' '))).filterMap parseWords := by
    rw [List.filterMap_map]
    refine List.filterMap_congr fun line hline => ?_
    refine congrArg parseWords (words_congr fun c hc => ?_)
    exact isWhitespace_printable (printable h hline hc)
  have hskip : ((lines output).map (Text.words (· = ' '))).filterMap parseWords =
      t.words.filterMap parseWords := by
    rw [← h.2, List.filterMap_filter]
    refine List.filterMap_congr fun record _ => ?_
    split_ifs with hq
    · rfl
    · exact parseWords_other fun heq => hq (decide_eq_true heq)
  rw [hlines, hparse, hskip, TcTree.words, List.filterMap_append, List.filterMap_cons,
    parseWords_root, List.filterMap_map, List.filterMap_map]
  have hchildren : parseWords ∘ TcChild.words = some ∘ TcChild.line := funext parseWords_child
  rw [hchildren, List.filterMap_eq_map]

/-! ### The guard -/

/-- What the guard leaves out of the tree, whatever it hangs under. -/
def TcChild.hidden (c : TcChild) : Bool :=
  c.kind = "clsact".toList || c.kind = "ingress".toList || c.handle = 0xffff

/-- The qdiscs directly under the root. -/
def TcTree.under (t : TcTree) : List TcChild :=
  t.children.filter fun c => c.major = t.root.handle

/-- Those the guard sees. -/
def TcTree.shown (t : TcTree) : List TcChild := t.under.filter fun c => !c.hidden

/-- A root the guard does not take for one. -/
def TcTree.rootHidden (t : TcTree) : Prop :=
  t.root.kind = "clsact".toList ∨ t.root.kind = "ingress".toList

/-- A queue of an `mq` as the guard keeps it. -/
def TcChild.mqChild (c : TcChild) : MqChild :=
  ⟨c.kind, c.parentText, cakeShaping c.kind c.options⟩

lemma root_egress (t : TcTree) : t.root.rootLine.egress = true ↔ ¬ t.rootHidden := by
  have hmajor : (t.root.handle != 0xffff) = true := by simpa using t.outside
  have hparent : ((none : Option (List Char)).bind majorOf != some 0xffff) = true := rfl
  rw [QdiscLine.egress, TcTree.rootHidden]
  simp only [TcQdisc.rootLine, hmajor, hparent, Bool.and_true, Bool.not_eq_true',
    Bool.or_eq_false_iff, not_or]
  exact and_congr decide_eq_false_iff_not decide_eq_false_iff_not

/-- Directly under the root, only the kind and the handle hide a qdisc. -/
lemma child_egress {t : TcTree} {c : TcChild} (hunder : c.major = t.root.handle) :
    c.line.egress = !c.hidden := by
  have hparent : ((some c.parentText).bind majorOf != some 0xffff) = true := by
    rw [Option.bind_some, parentText_major, hunder, bne_iff_ne, Ne, Option.some.injEq]
    exact t.outside
  have hmajor : (c.handle != 0xffff) = !decide (c.handle = 0xffff) := by
    by_cases heq : c.handle = 0xffff <;> simp [heq]
  rw [QdiscLine.egress, TcChild.hidden]
  simp only [TcChild.line, hparent, hmajor, Bool.and_true, Bool.not_or]
  rfl

lemma child_mqChild (t : TcTree) (c : TcChild) :
    c.line.mqChild t.root.handle =
      if c.major = t.root.handle then some c.mqChild else none := by
  have hmajor : majorOf c.parentText = some t.root.handle ↔ c.major = t.root.handle := by
    rw [parentText_major, Option.some.injEq]
  rw [QdiscLine.mqChild, TcChild.line, Option.bind_some]
  by_cases hunder : c.major = t.root.handle
  · rw [if_pos (hmajor.mpr hunder), if_pos hunder]
    rfl
  · rw [if_neg (mt hmajor.mp hunder), if_neg hunder]

/-- The queues of an `mq` root among some of the lines. -/
lemma mqChildren_eq (t : TcTree) (cs : List TcChild) :
    ((cs.map TcChild.line).filter QdiscLine.egress).filterMap (QdiscLine.mqChild t.root.handle) =
      ((cs.filter fun c => c.major = t.root.handle).filter fun c => !c.hidden).map
        TcChild.mqChild := by
  induction cs with
  | nil => rfl
  | cons c cs ih =>
      rw [List.map_cons, List.filter_cons, List.filter_cons]
      by_cases hunder : c.major = t.root.handle
      · rw [child_egress hunder, decide_eq_true hunder, if_pos rfl, List.filter_cons]
        by_cases hhidden : c.hidden = true
        · rw [hhidden]
          exact ih
        · rw [Bool.not_eq_true] at hhidden
          rw [hhidden, Bool.not_false, if_pos rfl, if_pos rfl, List.filterMap_cons, child_mqChild,
            if_pos hunder, List.map_cons, ← ih]
      · rw [decide_eq_false hunder, if_neg Bool.false_ne_true, ← ih]
        split_ifs
        · rw [List.filterMap_cons, child_mqChild, if_neg hunder]
        · rfl

/-- **The root the guard reads.** -/
lemma guard_parse (h : t.Prints output) :
    (t.rootHidden → RootQdisc.parse output = none) ∧
    (¬ t.rootHidden → ∃ q, RootQdisc.parse output = some q ∧ q.kind = t.root.kind ∧
      q.shaping = cakeShaping t.root.kind t.root.options ∧
      q.children = if t.root.kind = "mq".toList then t.shown.map TcChild.mqChild else []) := by
  have hnone : ∀ cs : List TcChild,
      ((cs.map TcChild.line).filter QdiscLine.egress).find? (fun l => l.parent.isNone) = none := by
    intro cs
    rw [List.find?_eq_none]
    intro line hline
    obtain ⟨c, -, rfl⟩ := List.mem_map.mp (List.mem_filter.mp hline).1
    simp [TcChild.line]
  rw [RootQdisc.parse, guard_lines h, RootQdisc.ofLines]
  simp only [List.filter_append, List.filter_cons, List.find?_append, hnone, Option.none_or]
  constructor
  · intro hhidden
    rw [if_neg (mt (root_egress t).mp (not_not.mpr hhidden)), hnone]
    rfl
  · intro hshown
    rw [if_pos ((root_egress t).mpr hshown), List.find?_cons_of_pos (by rfl)]
    refine ⟨_, rfl, rfl, rfl, ?_⟩
    have hmajor : t.root.rootLine.major = t.root.handle := rfl
    have hroot : t.root.rootLine.mqChild t.root.handle = none := rfl
    show (if t.root.kind = "mq".toList then _ else _) = _
    congr 1
    rw [hmajor, List.filterMap_append, List.filterMap_cons_none hroot, mqChildren_eq,
      mqChildren_eq, TcTree.shown, TcTree.under, TcTree.children, List.filter_append,
      List.filter_append, List.map_append]

/-! ### The installer -/

/-- A program that skips what is not about a qdisc sees the tree alone. -/
lemma foldl_records (h : t.Prints output) {σ : Type} (step : σ → List (List Char) → σ)
    (hskip : ∀ s record, field record 1 ≠ "qdisc".toList → step s record = s) (s : σ) :
    (records output).foldl step s = t.words.foldl step s := by
  rw [← records_eq h, List.foldl_filter]
  congr 1
  funext s record
  by_cases hq : field record 1 = "qdisc".toList
  · rw [decide_eq_true hq, if_pos rfl]
  · rw [decide_eq_false hq, if_neg Bool.false_ne_true, hskip s record hq]

/-- The fourth field tells the root from the rest. -/
lemma child_not_root (c : TcChild) : field c.words 4 ≠ "root".toList :=
  show "parent".toList ≠ "root".toList by decide

lemma summaryStep_child (s : SummaryScan) (c : TcChild) :
    summaryStep s c.words = { s with children := s.children ++ [(c.kind, c.parentText)] } :=
  (if_neg (not_not.mpr rfl)).trans ((if_neg (child_not_root c)).trans (if_pos rfl))

lemma summaryStep_root (s : SummaryScan) (q : TcQdisc) :
    summaryStep s q.rootWords = { s with root := q.kind, handle := q.handleText } :=
  (if_neg (not_not.mpr rfl)).trans (if_pos rfl)

lemma summary_children (s : SummaryScan) (cs : List TcChild) :
    (cs.map TcChild.words).foldl summaryStep s =
      { s with children := s.children ++ cs.map fun c => (c.kind, c.parentText) } := by
  induction cs generalizing s with
  | nil => simp
  | cons c cs ih =>
      rw [List.map_cons, List.foldl_cons, summaryStep_child, ih, List.append_assoc, List.map_cons,
        List.singleton_append]

/-- What the first program has seen at its end. -/
lemma summary_scan (h : t.Prints output) :
    (records output).foldl summaryStep ⟨[], [], []⟩ =
      ⟨t.root.kind, t.root.handleText, t.children.map fun c => (c.kind, c.parentText)⟩ := by
  rw [foldl_records h summaryStep fun s record hq => if_pos hq, TcTree.words, List.foldl_append,
    summary_children, List.foldl_cons, summaryStep_root, summary_children, TcTree.children,
    List.map_append, List.nil_append]

/-- The kinds it finds under the root. -/
lemma summary_under (t : TcTree) :
    ((t.children.map fun c => (c.kind, c.parentText)).filter fun child =>
      underRoot t.root.handleText child.2).map Prod.fst = t.under.map fun c => c.kind := by
  rw [List.filter_map, List.map_map, TcTree.under]
  have hunder : (fun child : List Char × List Char => underRoot t.root.handleText child.2) ∘
      (fun c : TcChild => (c.kind, c.parentText)) = fun c => decide (c.major = t.root.handle) := by
    funext c
    rw [Bool.eq_iff_iff, decide_eq_true_iff]
    exact underRoot_iff t.root c
  rw [hunder]
  rfl

/-- The separators are left as well. -/
lemma filter_joinKinds {kinds : List (List Char)} (h : ∀ kind ∈ kinds, KindName kind) :
    (joinKinds kinds).filter (fun c => nameChar c || c = '/' || c = ',') = joinKinds kinds := by
  rw [List.filter_eq_self]
  cases kinds with
  | nil => exact fun c hc => absurd hc List.not_mem_nil
  | cons kind kinds =>
      intro c hc
      rw [joinKinds, List.mem_append, List.mem_cons] at hc
      rcases hc with (rfl | hc) | hc
      · rfl
      · rw [(h kind List.mem_cons_self).2 c hc]
        rfl
      · obtain ⟨k, hk, hck⟩ := List.mem_flatMap.mp hc
        rcases List.mem_cons.mp hck with rfl | hck
        · rfl
        · rw [(h k (List.mem_cons_of_mem kind hk)).2 c hck]
          rfl

/-- **What the installer prints.** -/
lemma installer_summary (h : t.Prints output) :
    rootQdiscSummary output =
      if t.root.kind = "mq".toList then
        "mq".toList ++
          joinKinds (Distinct.sortDown (Distinct.collect (t.under.map fun c => c.kind)))
      else t.root.kind := by
  have hname := t.root.kind_name
  rw [rootQdiscSummary, summary_scan h, summaryEnd, if_neg hname.1]
  by_cases hmq : t.root.kind = "mq".toList
  · rw [if_neg (not_not.mpr hmq), if_pos hmq]
    simp only [summary_under]
    rw [List.filter_append, List.filter_append, filter_joinKinds,
      List.filter_cons_of_neg (by decide), List.filter_nil, List.append_nil]
    · rfl
    · intro kind hkind
      obtain ⟨c, -, rfl⟩ := List.mem_map.mp (Distinct.mem_sortDown_collect.mp hkind)
      exact c.kind_name
  · rw [if_pos hmq, if_neg hmq, List.filter_append, List.filter_cons_of_neg (by decide),
      List.filter_nil, List.append_nil, List.filter_eq_self]
    intro c hc
    rw [hname.2 c hc]
    rfl

/-- A qdisc that shapes. -/
def TcQdisc.shaped (q : TcQdisc) : Bool := (cakeShaping q.kind q.options).isSome

/-- The option the second program finds. -/
lemma shaped_iff (q : TcQdisc) :
    q.shaped = true ↔ q.kind = "cake".toList ∧ shapingOption [] q.options ≠ [] := by
  rw [TcQdisc.shaped]
  constructor
  · intro h
    have hkind := cakeShaping_kind h
    rw [hkind] at h
    refine ⟨hkind, fun hnil => ?_⟩
    rw [(shapingOption_eq_nil_iff (q.bandwidth_once hkind)).mp hnil] at h
    exact Bool.noConfusion h
  · rintro ⟨hkind, hne⟩
    rw [← Bool.not_eq_false]
    intro hnone
    rw [hkind] at hnone
    exact hne ((shapingOption_eq_nil_iff (q.bandwidth_once hkind)).mpr hnone)

/-- A parent has a colon. -/
lemma colon_mem_parentText (c : TcChild) : ':' ∈ c.parentText := by
  rw [TcChild.parentText]
  exact List.mem_append_right _ List.mem_cons_self

/-- The loop starts one field early in a line with a parent, which is no option. -/
lemma shapingOption_parent (c : TcChild) :
    shapingOption [] (c.parentText :: c.options) = shapingOption [] c.options := by
  have hcolon := colon_mem_parentText c
  have hbandwidth : c.parentText ≠ "bandwidth".toList := by
    intro heq
    rw [heq] at hcolon
    exact absurd hcolon (by decide)
  have hautorate : c.parentText ≠ "autorate-ingress".toList := by
    intro heq
    rw [heq] at hcolon
    exact absurd hcolon (by decide)
  have hrate : shapingRate [] c.parentText c.options = [] := by
    cases c.options with
    | nil => rfl
    | cons value rest => exact if_neg fun h => hbandwidth h.1
  rw [shapingOption, shapingWord, if_neg fun h => hautorate h.1, hrate]

/-- The entry of a shaped cake. -/
def TcChild.entry (c : TcChild) : Option (List Char × List Char) :=
  if c.shaped then some (c.parentText, shapingOption [] c.options) else none

/-- A record counts exactly if its qdisc is shaped. -/
lemma ite_shaped {β : Type} (q : TcQdisc) (found skipped : β) :
    (if q.kind = "cake".toList then
        if shapingOption [] q.options ≠ [] then found else skipped
      else skipped) = if q.shaped then found else skipped := by
  by_cases hshaped : q.shaped = true
  · obtain ⟨hkind, hne⟩ := (shaped_iff q).mp hshaped
    rw [if_pos hshaped, if_pos hkind, if_pos hne]
  · rw [if_neg hshaped]
    by_cases hkind : q.kind = "cake".toList
    · have hnil : ¬ shapingOption [] q.options ≠ [] :=
        fun hne => hshaped ((shaped_iff q).mpr ⟨hkind, hne⟩)
      rw [if_pos hkind, if_neg hnil]
    · exact if_neg hkind

lemma shapingStep_child (s : ShapingScan) (c : TcChild) :
    shapingStep s c.words = { s with shaped := s.shaped ++ c.entry.toList } := by
  have hoption : shapingOption [] (c.words.drop 4) = shapingOption [] c.options :=
    shapingOption_parent c
  have hqdisc : ¬ field c.words 1 ≠ "qdisc".toList := not_not.mpr rfl
  have hfield : field c.words 2 = c.kind := rfl
  rw [shapingStep, if_neg hqdisc]
  simp only [hoption, hfield, if_neg (child_not_root c)]
  rw [ite_shaped c.toTcQdisc, TcChild.entry]
  split
  · rfl
  · rw [Option.toList_none, List.append_nil]

lemma shapingStep_root (s : ShapingScan) (q : TcQdisc) :
    shapingStep s q.rootWords =
      ⟨q.kind, q.handleText,
        s.shaped ++ if q.shaped then [("root".toList, shapingOption [] q.options)] else []⟩ := by
  have hroot : field q.rootWords 4 = "root".toList := rfl
  have hoption : q.rootWords.drop 4 = q.options := rfl
  have hqdisc : ¬ field q.rootWords 1 ≠ "qdisc".toList := not_not.mpr rfl
  have hfield : field q.rootWords 2 = q.kind := rfl
  rw [shapingStep, if_neg hqdisc]
  simp only [hoption, hfield, if_pos hroot]
  rw [ite_shaped q]
  split
  · rfl
  · rw [List.append_nil]
    rfl

lemma shaping_children (s : ShapingScan) (cs : List TcChild) :
    (cs.map TcChild.words).foldl shapingStep s =
      { s with shaped := s.shaped ++ cs.filterMap TcChild.entry } := by
  induction cs generalizing s with
  | nil => simp
  | cons c cs ih =>
      rw [List.map_cons, List.foldl_cons, shapingStep_child, ih, List.filterMap_cons]
      cases c.entry with
      | none => simp
      | some entry => simp

/-- What the second program has seen at its end. -/
lemma shaping_scan (h : t.Prints output) :
    (records output).foldl shapingStep ⟨[], [], []⟩ =
      ⟨t.root.kind, t.root.handleText,
        t.before.filterMap TcChild.entry ++
          (if t.root.shaped then [("root".toList, shapingOption [] t.root.options)] else []) ++
          t.after.filterMap TcChild.entry⟩ := by
  rw [foldl_records h shapingStep fun s record hq => if_pos hq, TcTree.words, List.foldl_append,
    shaping_children, List.foldl_cons, shapingStep_root, shaping_children, List.nil_append]

/-- An option, where there is one, starts with a letter. -/
lemma shapingOption_head {options : List (List Char)} {s : List Char}
    (hs : s ≠ [] → s.head?.any nameChar = true) :
    shapingOption s options ≠ [] → (shapingOption s options).head?.any nameChar = true := by
  induction options generalizing s with
  | nil => exact hs
  | cons word rest ih =>
      refine ih fun hne => ?_
      have hrate : shapingRate s word rest ≠ [] →
          (shapingRate s word rest).head?.any nameChar = true := by
        cases rest with
        | nil => exact hs
        | cons value rest =>
            rw [shapingRate]
            split_ifs
            · exact fun _ => rfl
            · exact hs
      rw [shapingWord] at hne ⊢
      split_ifs at hne ⊢
      · rfl
      · exact hrate hne

/-- Printing an option leaves something. -/
lemma filter_option_ne_nil {option : List Char} (h : option.head?.any nameChar = true) :
    (option ++ ['\n']).filter (fun c => nameChar c || c = ',' || c = ' ') ≠ [] := by
  cases option with
  | nil => exact absurd h (by decide)
  | cons c rest =>
      have hc : nameChar c = true := h
      rw [List.cons_append, List.filter_cons_of_pos (by rw [hc]; rfl)]
      exact List.cons_ne_nil _ _

/-- The cakes the second program has seen. -/
def TcTree.cakes (t : TcTree) : List (List Char × List Char) :=
  t.before.filterMap TcChild.entry ++
    (if t.root.shaped then [("root".toList, shapingOption [] t.root.options)] else []) ++
    t.after.filterMap TcChild.entry

lemma mem_cakes_iff (t : TcTree) (cake : List Char × List Char) :
    cake ∈ t.cakes ↔ (∃ c ∈ t.children, c.shaped = true ∧
        cake = (c.parentText, shapingOption [] c.options)) ∨
      (t.root.shaped = true ∧ cake = ("root".toList, shapingOption [] t.root.options)) := by
  have hentry : ∀ c : TcChild, c.entry = some cake ↔
      c.shaped = true ∧ cake = (c.parentText, shapingOption [] c.options) := by
    intro c
    rw [TcChild.entry]
    split_ifs with hshaped
    · rw [Option.some.injEq]
      exact ⟨fun h => ⟨hshaped, h.symm⟩, fun h => h.2.symm⟩
    · exact ⟨fun h => h.elim, fun h => absurd h.1 hshaped⟩
  have hroot : cake ∈ (if t.root.shaped then [("root".toList, shapingOption [] t.root.options)]
      else []) ↔
        t.root.shaped = true ∧ cake = ("root".toList, shapingOption [] t.root.options) := by
    split_ifs with hshaped
    · rw [List.mem_singleton]
      exact (and_iff_right hshaped).symm
    · exact ⟨fun h => absurd h List.not_mem_nil, fun h => absurd h.1 hshaped⟩
  rw [TcTree.cakes, TcTree.children, List.mem_append, List.mem_append, List.mem_filterMap,
    List.mem_filterMap, hroot]
  simp only [hentry, List.mem_append, or_and_right, exists_or]
  rw [or_right_comm]

/-- Every cake in the list has an option to print. -/
lemma cakes_option {cake : List Char × List Char} (h : cake ∈ t.cakes) :
    cake.2.head?.any nameChar = true := by
  have hhead : ∀ q : TcQdisc, q.shaped = true →
      (shapingOption [] q.options).head?.any nameChar = true := fun q hq =>
    shapingOption_head (fun hne => absurd rfl hne) ((shaped_iff q).mp hq).2
  rcases (mem_cakes_iff t cake).mp h with ⟨c, -, hshaped, rfl⟩ | ⟨hshaped, rfl⟩
  · exact hhead c.toTcQdisc hshaped
  · exact hhead t.root hshaped

/-- **When the installer finds no shaped cake**: neither at the root nor directly under an
`mq` root. -/
lemma installer_shaping (h : t.Prints output) :
    rootQdiscShaping output = [] ↔
      t.root.shaped = false ∧
        (t.root.kind = "mq".toList → ∀ c ∈ t.under, c.shaped = false) := by
  have hscan : rootQdiscShaping output =
      (shapingEnd ⟨t.root.kind, t.root.handleText, t.cakes⟩).filter
        fun c => nameChar c || c = ',' || c = ' ' := by
    rw [rootQdiscShaping, shaping_scan h]
    rfl
  rw [hscan, shapingEnd]
  -- the script prints the option of the first shaped cake that is the root's
  cases hfind : t.cakes.find? fun cake : List Char × List Char => cake.1 = "root".toList ||
      (t.root.kind = "mq".toList && underRoot t.root.handleText cake.1) with
  | none =>
      rw [List.find?_eq_none] at hfind
      refine ⟨fun _ => ⟨?_, fun hmq c hc => ?_⟩, fun _ => rfl⟩
      · rw [Bool.eq_false_iff]
        intro hshaped
        refine hfind _ ((mem_cakes_iff t _).mpr (.inr ⟨hshaped, rfl⟩)) ?_
        exact Bool.or_eq_true_iff.mpr (.inl (decide_eq_true rfl))
      · rw [Bool.eq_false_iff]
        intro hshaped
        obtain ⟨hchild, hmajor⟩ := List.mem_filter.mp hc
        refine hfind _ ((mem_cakes_iff t _).mpr (.inl ⟨c, hchild, hshaped, rfl⟩)) ?_
        rw [decide_eq_true hmq, (underRoot_iff t.root c).mpr (by simpa using hmajor), Bool.true_and,
          Bool.or_true]
  | some cake =>
      have hcake := List.mem_of_find?_eq_some hfind
      have hplace := List.find?_some hfind
      refine ⟨fun hnil => absurd hnil (filter_option_ne_nil (cakes_option hcake)), ?_⟩
      rintro ⟨hroot, hunder⟩
      rcases (mem_cakes_iff t cake).mp hcake with ⟨c, hchild, hshaped, rfl⟩ | ⟨hshaped, -⟩
      · -- a cake on a child counts only under an mq root
        have hcolon : c.parentText ≠ "root".toList := by
          intro heq
          have hmem := colon_mem_parentText c
          rw [heq] at hmem
          exact absurd hmem (by decide)
        rw [decide_eq_false hcolon, Bool.false_or, Bool.and_eq_true, decide_eq_true_iff,
          underRoot_iff] at hplace
        have hmem : c ∈ t.under := List.mem_filter.mpr ⟨hchild, by simpa using hplace.2⟩
        rw [hunder hplace.1 c hmem] at hshaped
        exact Bool.noConfusion hshaped
      · rw [hroot] at hshaped
        exact Bool.noConfusion hshaped

end Lines

/-! ### One word for the children -/

/-- The separators, as `join` puts them. -/
lemma joinKinds_eq {kinds : List (List Char)} (h : kinds ≠ []) :
    joinKinds kinds = '/' :: [','].intercalate kinds := by
  obtain ⟨kind, kinds, rfl⟩ := List.exists_cons_of_ne_nil h
  rw [joinKinds]
  refine congrArg (List.cons '/') ?_
  clear h
  induction kinds generalizing kind with
  | nil => simp
  | cons k kinds ih =>
      rw [List.intercalate_cons_cons, ← ih k, List.flatMap_cons, List.append_assoc]
      rfl

/-- A name has neither separator. -/
lemma KindName.separators {kind : List Char} (h : KindName kind) : ',' ∉ kind ∧ '/' ∉ kind :=
  ⟨fun hmem => absurd (h.2 _ hmem) (by decide), fun hmem => absurd (h.2 _ hmem) (by decide)⟩

lemma joinKinds_injective {xs ys : List (List Char)} (hx : ∀ kind ∈ xs, KindName kind)
    (hy : ∀ kind ∈ ys, KindName kind) (h : joinKinds xs = joinKinds ys) : xs = ys := by
  by_cases hxs : xs = []
  · by_cases hys : ys = []
    · rw [hxs, hys]
    · rw [joinKinds_eq hys, hxs] at h
      exact absurd h.symm (List.cons_ne_nil _ _)
  · by_cases hys : ys = []
    · rw [joinKinds_eq hxs, hys] at h
      exact absurd h (List.cons_ne_nil _ _)
    · rw [joinKinds_eq hxs, joinKinds_eq hys, List.cons.injEq] at h
      rw [← List.splitOn_intercalate ',' (fun kind hk => (hx kind hk).separators.1) hxs, h.2,
        List.splitOn_intercalate ',' (fun kind hk => (hy kind hk).separators.1) hys]

/-- Reading the word back. -/
lemma qdiscReplaceable_mq {kinds : List (List Char)} (h : ∀ kind ∈ kinds, KindName kind) :
    qdiscReplaceable ("mq".toList ++ joinKinds kinds) = true ↔
      kinds ≠ [] ∧ ∀ kind ∈ kinds, plainKind kind := by
  by_cases hnil : kinds = []
  · subst hnil
    exact ⟨fun hfalse => absurd hfalse (by decide), fun hne => absurd rfl hne.1⟩
  · have hsplit : ([','].intercalate kinds).splitOn ',' = kinds :=
      List.splitOn_intercalate ',' (fun kind hk => (h kind hk).separators.1) hnil
    have hread : readKinds ([','].intercalate kinds) = kinds := by
      rw [readKinds]
      simp only [hsplit]
      refine if_neg fun hlast => ?_
      exact (h [] (List.mem_of_getLast? hlast)).1 rfl
    have hfront : "mq/".toList.isPrefixOf ("mq".toList ++ joinKinds kinds) = true := by
      rw [joinKinds_eq hnil, List.isPrefixOf_iff_prefix]
      exact ⟨[','].intercalate kinds, rfl⟩
    have hdrop : ("mq".toList ++ joinKinds kinds).drop 3 = [','].intercalate kinds := by
      rw [joinKinds_eq hnil]
      rfl
    rw [qdiscReplaceable, if_pos hfront, hdrop, hread, List.all_eq_true]
    simp only [decide_eq_true_eq, mem_installerKinds_iff]
    exact (and_iff_right hnil).symm

/-- A single kind. -/
lemma qdiscReplaceable_single {kind : List Char} (h : KindName kind) (hmq : kind ≠ "mq".toList) :
    qdiscReplaceable kind = true ↔ plainKind kind := by
  have hfront : ¬ "mq/".toList.isPrefixOf kind = true := by
    rw [List.isPrefixOf_iff_prefix]
    exact fun hstarts => h.separators.2 (hstarts.subset (by decide))
  rw [qdiscReplaceable, if_neg hfront, if_neg fun hor => hor.elim hmq h.1, decide_eq_true_iff,
    mem_installerKinds_iff]

/-! ### Agreement -/

/-- The two agree on an output: the same word, and the same answer whether the root is fq or
is to be replaced. -/
def QdiscAgree (output : List Char) : Prop :=
  (RootQdisc.parse output).map RootQdisc.summary = some (rootQdiscSummary output) ∧
    ((qdiscReplaceable (rootQdiscSummary output) = true ∧ rootQdiscShaping output = []) ↔
      ∃ q, RootQdisc.parse output = some q ∧ q.verdict.kept)

/-- What the guard hides makes no difference: the root is no `clsact` and no `ingress`, every
queue of an `mq` root that is hidden has the kind of one that is not, and if a hidden one is
shaped, one that is not hidden is shaped as well or neither fq nor replaceable. -/
def TcTree.NothingHidden (t : TcTree) : Prop :=
  ¬ t.rootHidden ∧
    (t.root.kind = "mq".toList →
      (∀ c ∈ t.under, c.hidden = true → ∃ d ∈ t.shown, d.kind = c.kind) ∧
      ((∃ c ∈ t.under, c.hidden = true ∧ c.shaped = true) →
        ∃ d ∈ t.shown, d.shaped = true ∨ ¬ plainKind d.kind))

instance (t : TcTree) : Decidable t.rootHidden := inferInstanceAs (Decidable (_ ∨ _))

instance (t : TcTree) : Decidable t.NothingHidden := inferInstanceAs (Decidable (_ ∧ (_ → _ ∧ _)))

section Agree

variable {t : TcTree} {output : List Char}

lemma shown_subset (t : TcTree) : ∀ d ∈ t.shown, d ∈ t.under := fun _ hd =>
  (List.mem_filter.mp hd).1

/-- The kinds are the same exactly if every hidden one is shown too. -/
lemma kinds_eq_iff (t : TcTree) :
    (∀ kind, kind ∈ t.under.map (fun c => c.kind) ↔ kind ∈ t.shown.map (fun c => c.kind)) ↔
      ∀ c ∈ t.under, c.hidden = true → ∃ d ∈ t.shown, d.kind = c.kind := by
  constructor
  · intro h c hc _
    obtain ⟨d, hd, heq⟩ := List.mem_map.mp ((h c.kind).mp (List.mem_map_of_mem hc))
    exact ⟨d, hd, heq⟩
  · intro h kind
    constructor
    · intro hkind
      obtain ⟨c, hc, rfl⟩ := List.mem_map.mp hkind
      by_cases hhidden : c.hidden = true
      · obtain ⟨d, hd, heq⟩ := h c hc hhidden
        exact heq ▸ List.mem_map_of_mem hd
      · exact List.mem_map_of_mem (List.mem_filter.mpr ⟨hc, by simpa using hhidden⟩)
    · intro hkind
      obtain ⟨d, hd, rfl⟩ := List.mem_map.mp hkind
      exact List.mem_map_of_mem (shown_subset t d hd)

/-- A root that is no `mq`: both go by its kind and its shaping. -/
lemma agree_single (h : t.Prints output) (hroot : ¬ t.rootHidden)
    (hmq : t.root.kind ≠ "mq".toList) : QdiscAgree output := by
  obtain ⟨q, hparse, hkind, hshaping, -⟩ := (guard_parse h).2 hroot
  have hsummary := installer_summary h
  rw [if_neg hmq] at hsummary
  refine ⟨?_, ?_⟩
  · rw [hparse, Option.map_some, RootQdisc.summary, hkind, if_pos (.inl hmq), hsummary]
  · have hverdict : q.verdict.kept ↔ plainKind t.root.kind ∧ t.root.shaped = false := by
      rw [RootQdisc.verdict, hkind, if_pos hmq, hshaping]
      exact kindVerdict_kept_iff t.root.kind t.root.options
    rw [hsummary, qdiscReplaceable_single t.root.kind_name hmq, installer_shaping h, hparse]
    simp only [Option.some.injEq, exists_eq_left', hverdict, hmq, false_imp_iff, and_true]

/-- The verdict on an `mq` root. -/
lemma verdict_mq {q : RootQdisc} (hkind : q.kind = "mq".toList)
    (hchildren : q.children = t.shown.map TcChild.mqChild) :
    q.verdict.kept ↔ t.shown ≠ [] ∧ ∀ d ∈ t.shown, plainKind d.kind ∧ d.shaped = false := by
  rw [RootQdisc.verdict, if_neg (not_not.mpr hkind), hchildren]
  by_cases hnil : t.shown = []
  · rw [hnil, List.map_nil, if_pos rfl]
    exact ⟨fun hkept => absurd hkept (by decide), fun hne => absurd rfl hne.1⟩
  · rw [if_neg (mt List.map_eq_nil_iff.mp hnil), worst_kept_iff, List.map_map]
    refine Iff.trans ?_ (and_iff_right hnil).symm
    rw [List.forall_mem_map]
    exact forall₂_congr fun d _ => kindVerdict_kept_iff d.kind d.options

/-- The word of an `mq` root. -/
lemma summary_mq {q : RootQdisc} (hkind : q.kind = "mq".toList)
    (hchildren : q.children = t.shown.map TcChild.mqChild) :
    q.summary = "mq".toList ++ joinKinds (Distinct.sortDedup (t.shown.map fun c => c.kind)) := by
  rw [RootQdisc.summary, hchildren, hkind]
  by_cases hnil : t.shown = []
  · rw [if_pos (.inr (List.map_eq_nil_iff.mpr hnil)), hnil]
    rfl
  · have hsorted : Distinct.sortDedup (t.shown.map fun c => c.kind) ≠ [] := by
      obtain ⟨d, rest, hshown⟩ := List.exists_cons_of_ne_nil hnil
      have hmem : d.kind ∈ Distinct.sortDedup (t.shown.map fun c => c.kind) := by
        rw [Distinct.mem_sortDedup, hshown]
        exact List.mem_map_of_mem List.mem_cons_self
      exact List.ne_nil_of_mem hmem
    rw [if_neg (by rintro (hmq | hempty)
                   · exact hmq rfl
                   · exact hnil (List.map_eq_nil_iff.mp hempty)),
      List.map_map, joinKinds_eq hsorted]
    rfl

/-- The word and the shaping of an `mq` root, as the installer answers. -/
lemma installer_mq (h : t.Prints output) (hmq : t.root.kind = "mq".toList) :
    (qdiscReplaceable (rootQdiscSummary output) = true ∧ rootQdiscShaping output = []) ↔
      t.under ≠ [] ∧ ∀ c ∈ t.under, plainKind c.kind ∧ c.shaped = false := by
  have hroot : t.root.shaped = false := by
    rw [Bool.eq_false_iff]
    intro hshaped
    exact absurd (((shaped_iff t.root).mp hshaped).1.symm.trans hmq) (by decide)
  have hnames : ∀ kind ∈ Distinct.sortDown (Distinct.collect (t.under.map fun c => c.kind)),
      KindName kind := by
    intro kind hkind
    obtain ⟨c, -, rfl⟩ := List.mem_map.mp (Distinct.mem_sortDown_collect.mp hkind)
    exact c.kind_name
  have hnil : Distinct.sortDown (Distinct.collect (t.under.map fun c => c.kind)) = [] ↔
      t.under = [] := by
    rw [List.eq_nil_iff_forall_not_mem, List.eq_nil_iff_forall_not_mem]
    simp only [Distinct.mem_sortDown_collect]
    exact ⟨fun hnone c hc => hnone _ (List.mem_map_of_mem hc), fun hnone kind hkind => by
      obtain ⟨c, hc, -⟩ := List.mem_map.mp hkind
      exact hnone c hc⟩
  rw [installer_summary h, if_pos hmq, qdiscReplaceable_mq hnames, installer_shaping h, ne_eq, hnil]
  simp only [Distinct.mem_sortDown_collect, List.forall_mem_map, hroot, hmq, true_and, true_imp_iff]
  exact ⟨fun hall => ⟨hall.1.1, fun c hc => ⟨hall.1.2 c hc, hall.2 c hc⟩⟩,
    fun hall => ⟨⟨hall.1, fun c hc => (hall.2 c hc).1⟩, fun c hc => (hall.2 c hc).2⟩⟩

/-- An `mq` root. -/
lemma agree_mq (h : t.Prints output) (hroot : ¬ t.rootHidden) (hmq : t.root.kind = "mq".toList) :
    QdiscAgree output ↔
      (∀ c ∈ t.under, c.hidden = true → ∃ d ∈ t.shown, d.kind = c.kind) ∧
      ((∃ c ∈ t.under, c.hidden = true ∧ c.shaped = true) →
        ∃ d ∈ t.shown, d.shaped = true ∨ ¬ plainKind d.kind) := by
  obtain ⟨q, hparse, hkind, -, hchildren⟩ := (guard_parse h).2 hroot
  rw [if_pos hmq] at hchildren
  have hword : (RootQdisc.parse output).map RootQdisc.summary = some (rootQdiscSummary output) ↔
      ∀ c ∈ t.under, c.hidden = true → ∃ d ∈ t.shown, d.kind = c.kind := by
    rw [hparse, Option.map_some, Option.some.injEq, summary_mq (hkind.trans hmq) hchildren,
      installer_summary h, if_pos hmq, List.append_right_inj, ← kinds_eq_iff,
      ← Distinct.sortDown_collect_eq_iff]
    refine ⟨fun hjoin => (joinKinds_injective ?_ ?_ hjoin).symm, fun heq => by rw [heq]⟩
    · intro kind hkind
      obtain ⟨c, -, rfl⟩ := List.mem_map.mp (Distinct.mem_sortDedup.mp hkind)
      exact c.kind_name
    · intro kind hkind
      obtain ⟨c, -, rfl⟩ := List.mem_map.mp (Distinct.mem_sortDown_collect.mp hkind)
      exact c.kind_name
  have hverdict : (∃ q, RootQdisc.parse output = some q ∧ q.verdict.kept) ↔
      t.shown ≠ [] ∧ ∀ d ∈ t.shown, plainKind d.kind ∧ d.shaped = false := by
    rw [hparse, ← verdict_mq (hkind.trans hmq) hchildren]
    exact ⟨fun ⟨_, hq, hkept⟩ => Option.some.inj hq ▸ hkept, fun hkept => ⟨q, rfl, hkept⟩⟩
  rw [QdiscAgree, hword, installer_mq h hmq, hverdict]
  refine and_congr_right fun hkinds => ?_
  -- a queue that is not hidden is shown, so something is under the root iff something is shown
  have hsome : t.under ≠ [] → t.shown ≠ [] := by
    intro hne
    obtain ⟨c, hc⟩ := List.exists_mem_of_ne_nil _ hne
    by_cases hhidden : c.hidden = true
    · obtain ⟨d, hd, -⟩ := hkinds c hc hhidden
      exact List.ne_nil_of_mem hd
    · exact List.ne_nil_of_mem (List.mem_filter.mpr ⟨hc, by simpa using hhidden⟩)
  constructor
  · rintro hiff ⟨c, hc, hhidden, hshaped⟩
    by_contra hnone
    have hkept : t.shown ≠ [] ∧ ∀ d ∈ t.shown, plainKind d.kind ∧ d.shaped = false := by
      refine ⟨hsome (List.ne_nil_of_mem hc), fun d hd => ⟨?_, ?_⟩⟩
      · by_contra hplain
        exact hnone ⟨d, hd, .inr hplain⟩
      · rw [Bool.eq_false_iff]
        exact fun hd' => hnone ⟨d, hd, .inl hd'⟩
    rw [((hiff.mpr hkept).2 c hc).2] at hshaped
    exact Bool.noConfusion hshaped
  · intro hshape
    refine ⟨fun hunder => ⟨hsome hunder.1, fun d hd => hunder.2 d (shown_subset t d hd)⟩, ?_⟩
    rintro ⟨hne, hall⟩
    obtain ⟨d, hd⟩ := List.exists_mem_of_ne_nil _ hne
    refine ⟨List.ne_nil_of_mem (shown_subset t d hd), fun c hc => ?_⟩
    by_cases hhidden : c.hidden = true
    · obtain ⟨d, hd, heq⟩ := hkinds c hc hhidden
      refine ⟨heq ▸ (hall d hd).1, ?_⟩
      rw [Bool.eq_false_iff]
      intro hshaped
      obtain ⟨d, hd, hd' | hd'⟩ := hshape ⟨c, hc, hhidden, hshaped⟩
      · rw [(hall d hd).2] at hd'
        exact Bool.noConfusion hd'
      · exact hd' (hall d hd).1
    · exact hall c (List.mem_filter.mpr ⟨hc, by simpa using hhidden⟩)

/-- **The guard and the installer agree exactly where what the guard hides makes no
difference**, on every output that shows one root and any number of other qdiscs. -/
theorem qdisc_agree_iff (t : TcTree) (output : List Char) (h : t.Prints output) :
    QdiscAgree output ↔ t.NothingHidden := by
  by_cases hroot : t.rootHidden
  · refine ⟨fun hagree => ?_, fun hnothing => absurd hroot hnothing.1⟩
    have hword := hagree.1
    rw [(guard_parse h).1 hroot] at hword
    exact absurd hword.symm (Option.some_ne_none _)
  · rw [TcTree.NothingHidden, and_iff_right hroot]
    by_cases hmq : t.root.kind = "mq".toList
    · rw [agree_mq h hroot hmq]
      exact ⟨fun hsame _ => hsame, fun hsame => hsame hmq⟩
    · exact ⟨fun _ hmq' => absurd hmq' hmq, fun _ => agree_single h hroot hmq⟩

end Agree

/-- A qdisc without options. -/
def TcQdisc.plain (kind : List Char) (handle : ℕ) (hname : KindName kind)
    (hlt : handle < 2 ^ 16) : TcQdisc where
  kind := kind
  handle := handle
  options := []
  kind_name := hname
  handle_lt := hlt
  bandwidth_once := fun _ => Nat.zero_le 1

/-- An `mq` with handle `8001:` and one queue, an fq with the handle `handle`. -/
def TcTree.oneQueue (handle : ℕ) (hlt : handle < 2 ^ 16) : TcTree where
  before := []
  root := .plain "mq".toList 0x8001 (by decide) (by decide)
  after := [{ TcQdisc.plain "fq".toList handle (by decide) hlt with
    major := 0x8001, minor := "1".toList, major_lt := by decide }]
  outside := by decide

/-- On an `mq` whose queue has a handle of its own the two agree. -/
theorem qdisc_agree_on_mq_fq :
    QdiscAgree "qdisc mq 8001: root\nqdisc fq 8002: parent 8001:1\n".toList :=
  (qdisc_agree_iff (.oneQueue 0x8002 (by decide)) _ (by decide +kernel)).mpr (by decide +kernel)

/-- **The queue that the guard does not see.**  With the handle `ffff:` the fq under `mq` is
no part of the tree for the guard, which is left with an `mq` it does not know; the installer
prints `mq/fq` and takes it for one that the guard keeps. -/
theorem qdisc_disagree_on_ffff :
    let output := "qdisc mq 8001: root\nqdisc fq ffff: parent 8001:1\n".toList
    (TcTree.oneQueue 0xffff (by decide)).Prints output ∧ ¬ QdiscAgree output ∧
      (RootQdisc.parse output).map (fun q => (q.summary, q.verdict)) =
        some ("mq".toList, .unknown) ∧
      rootQdiscSummary output = "mq/fq".toList ∧ qdiscReplaceable "mq/fq".toList = true := by
  refine ⟨by decide +kernel, fun hagree => ?_, by decide +kernel, by decide +kernel,
    by decide +kernel⟩
  exact absurd hagree.1 (by decide +kernel)

end SkylineSpeeder
