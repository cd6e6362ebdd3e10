import SkylineSpeeder.Qdisc.Guard

/-!
What `install.sh` makes of the same output of `tc qdisc show`: the awk programs of
`root_qdisc_summary` and `root_qdisc_shaping`, and `qdisc_replaceable`.

* `summaryStep`, `summaryEnd`, `rootQdiscSummary`: the one word;
* `shapingOption`, `shapingStep`, `rootQdiscShaping`: the option of a shaped cake;
* `qdiscReplaceable`: whether the guard replaces what the word says.

The functions take what `tc` prints; that the interface exists and `tc` is installed is
checked before.
-/

namespace SkylineSpeeder

open Text

/-! ### awk -/

/-- What separates the fields of a record. -/
def awkBlank (c : Char) : Bool := c = ' ' || c = '\t' || c = '\n'

/-- The records of a text, as fields. -/
def records (output : List Char) : List (List (List Char)) := (lines output).map (words awkBlank)

/-- Field `n` of a record, counted from 1, and empty if there is none. -/
def field (record : List (List Char)) (n : ℕ) : List Char := record.getD (n - 1) []

/-- `index(at, prefix) == 1`, with the prefix of the children of a root: the handle, or a
colon alone if the handle is 0. -/
def underRoot (handle place : List Char) : Bool :=
  let front := if handle = "0:".toList then ":".toList else handle
  decide (front ≠ []) && front.isPrefixOf place

/-! ### `root_qdisc_summary` -/

/-- What the records have shown: the last root with its handle, and the kind and the parent
of everything that has one. -/
structure SummaryScan where
  root : List Char
  handle : List Char
  children : List (List Char × List Char)

/-- One record. -/
def summaryStep (s : SummaryScan) (record : List (List Char)) : SummaryScan :=
  if field record 1 ≠ "qdisc".toList then s
  else if field record 4 = "root".toList then
    { s with root := field record 2, handle := field record 3 }
  else if field record 4 = "parent".toList then
    { s with children := s.children ++ [(field record 2, field record 5)] }
  else s

/-- The sorted kinds, each after its separator. -/
def joinKinds : List (List Char) → List Char
  | [] => []
  | kind :: kinds => '/' :: kind ++ kinds.flatMap fun k => ',' :: k

/-- The end of the program. -/
def summaryEnd (s : SummaryScan) : List Char :=
  if s.root = [] then []
  else if s.root ≠ "mq".toList then s.root ++ ['\n']
  else
    let under := s.children.filter fun child => underRoot s.handle child.2
    "mq".toList ++ joinKinds (Distinct.sortDown (Distinct.collect (under.map Prod.fst))) ++ ['\n']

/-- The characters of a kind that `tr -cd` leaves. -/
def nameChar (c : Char) : Bool :=
  c.isAlphanum || c == '_' || c == '.' || c == '-'

/-- `root_qdisc_summary`. -/
def rootQdiscSummary (output : List Char) : List Char :=
  (summaryEnd ((records output).foldl summaryStep ⟨[], [], []⟩)).filter fun c =>
    nameChar c || c = '/' || c = ','

/-! ### `root_qdisc_shaping` -/

/-- A `bandwidth` with a rate, among the options; `s` is what has been found so far. -/
def shapingRate (s word : List Char) : List (List Char) → List Char
  | value :: _ =>
      if word = "bandwidth".toList ∧ value ≠ "unlimited".toList then
        "bandwidth ".toList ++ value
      else s
  | [] => s

/-- One word of the options and those after it. -/
def shapingWord (s word : List Char) (rest : List (List Char)) : List Char :=
  if word = "autorate-ingress".toList ∧ shapingRate s word rest = [] then
    "autorate-ingress".toList
  else shapingRate s word rest

/-- The option that shapes a cake, from the fields after the fourth. -/
def shapingOption : List Char → List (List Char) → List Char
  | s, [] => s
  | s, word :: rest => shapingOption (shapingWord s word rest) rest

/-- What the records have shown: the last root with its handle, and the place and the option
of every shaped cake. -/
structure ShapingScan where
  root : List Char
  handle : List Char
  shaped : List (List Char × List Char)

/-- One record. -/
def shapingStep (s : ShapingScan) (record : List (List Char)) : ShapingScan :=
  if field record 1 ≠ "qdisc".toList then s
  else
    let s := if field record 4 = "root".toList then
        { s with root := field record 2, handle := field record 3 }
      else s
    if field record 2 = "cake".toList then
      let option := shapingOption [] (record.drop 4)
      if option ≠ [] then
        { s with
          shaped := s.shaped ++
            [(if field record 4 = "root".toList then "root".toList else field record 5, option)] }
      else s
    else s

/-- The end of the program. -/
def shapingEnd (s : ShapingScan) : List Char :=
  match s.shaped.find? fun cake =>
      cake.1 = "root".toList || (s.root = "mq".toList && underRoot s.handle cake.1) with
  | some cake => cake.2 ++ ['\n']
  | none => []

/-- `root_qdisc_shaping`. -/
def rootQdiscShaping (output : List Char) : List Char :=
  (shapingEnd ((records output).foldl shapingStep ⟨[], [], []⟩)).filter fun c =>
    nameChar c || c = ',' || c = ' '

/-! ### `qdisc_replaceable` -/

/-- `IFS=, read -ra`: the fields between commas; an empty last one is none. -/
def readKinds (text : List Char) : List (List Char) :=
  let fields := text.splitOn ','
  if fields.getLast? = some [] then fields.dropLast else fields

/-- The kinds of the list in `qdisc_replaceable`. -/
def installerKinds : List (List Char) :=
  ["fq", "pfifo_fast", "pfifo", "bfifo", "pfifo_head_drop", "fq_codel", "codel", "cake", "fq_pie",
    "pie", "sfq", "red", "sfb", "choke", "hhf"].map String.toList

/-- `qdisc_replaceable`. -/
def qdiscReplaceable (summary : List Char) : Bool :=
  if "mq/".toList.isPrefixOf summary then
    (readKinds (summary.drop 3)).all fun kind => kind ∈ installerKinds
  else if summary = "mq".toList ∨ summary = [] then false
  else summary ∈ installerKinds

/-- The two lists are in step. -/
lemma mem_installerKinds_iff (kind : List Char) : kind ∈ installerKinds ↔ plainKind kind := by
  rw [plainKind, show installerKinds = "fq".toList :: replaceableKinds from rfl, List.mem_cons]

/-! ### Shaped cakes -/

/-- Some `bandwidth` is followed by a rate. -/
def rated : List (List Char) → Bool
  | option :: value :: rest =>
      (option = "bandwidth".toList && value ≠ "unlimited".toList) || rated (value :: rest)
  | _ => false

/-- Whether `rate` is a rate, if there is one. -/
def isRate (rate : Option (List Char)) : Bool := rate.any (· ≠ "unlimited".toList)

lemma rated_cons (word : List Char) (rest : List (List Char)) :
    rated (word :: rest) =
      ((decide (word = "bandwidth".toList) && isRate rest.head?) || rated rest) := by
  cases rest with
  | nil =>
      rw [List.head?_nil, isRate, Option.any_none, Bool.and_false]
      rfl
  | cons value rest => rfl

lemma shapingWord_eq_nil_iff (s word : List Char) (rest : List (List Char)) :
    shapingWord s word rest = [] ↔
      s = [] ∧ (decide (word = "bandwidth".toList) && isRate rest.head?) = false ∧
        "autorate-ingress".toList ≠ word := by
  -- the rate first, then the autorate on what is found so far
  have hlast : ∀ t : List Char,
      (if word = "autorate-ingress".toList ∧ t = [] then "autorate-ingress".toList else t) = [] ↔
        t = [] ∧ "autorate-ingress".toList ≠ word := by
    intro t
    by_cases hword : word = "autorate-ingress".toList
    · by_cases ht : t = []
      · rw [if_pos ⟨hword, ht⟩]
        exact ⟨fun h => absurd h (by decide), fun h => absurd hword.symm h.2⟩
      · rw [if_neg fun h => ht h.2]
        exact ⟨fun h => absurd h ht, fun h => h.1⟩
    · rw [if_neg fun h => hword h.1]
      exact ⟨fun h => ⟨h, Ne.symm hword⟩, fun h => h.1⟩
  rw [shapingWord, hlast, ← and_assoc]
  refine and_congr_left fun _ => ?_
  cases rest with
  | nil =>
      rw [List.head?_nil, isRate, Option.any_none, Bool.and_false, shapingRate]
      exact ⟨fun h => ⟨h, rfl⟩, fun h => h.1⟩
  | cons value rest =>
      have hrate : (decide (word = "bandwidth".toList) && isRate (value :: rest).head?) = true ↔
          word = "bandwidth".toList ∧ value ≠ "unlimited".toList := by
        rw [Bool.and_eq_true, decide_eq_true_iff, List.head?_cons, isRate, Option.any_some,
          decide_eq_true_iff]
      by_cases h : word = "bandwidth".toList ∧ value ≠ "unlimited".toList
      · rw [hrate.mpr h, shapingRate, if_pos h]
        exact ⟨fun hnil => absurd hnil (List.cons_ne_nil _ _), fun hf => absurd hf.2 (by decide)⟩
      · rw [Bool.eq_false_iff.mpr (mt hrate.mp h), shapingRate, if_neg h]
        exact ⟨fun hnil => ⟨hnil, rfl⟩, fun hf => hf.1⟩

/-- The loop finds nothing exactly if there is neither a rate nor an autorate. -/
lemma shapingOption_eq_nil (s : List Char) (options : List (List Char)) :
    shapingOption s options = [] ↔
      s = [] ∧ rated options = false ∧ "autorate-ingress".toList ∉ options := by
  induction options generalizing s with
  | nil =>
      exact ⟨fun h => ⟨h, rfl, List.not_mem_nil⟩, fun h => h.1⟩
  | cons word rest ih =>
      rw [shapingOption, ih, shapingWord_eq_nil_iff, rated_cons, Bool.or_eq_false_iff,
        List.mem_cons, not_or]
      tauto

/-- Without a `bandwidth` there is no rate. -/
lemma rated_eq_false {options : List (List Char)} (h : "bandwidth".toList ∉ options) :
    rated options = false := by
  induction options with
  | nil => rfl
  | cons word rest ih =>
      rw [List.mem_cons, not_or] at h
      rw [rated_cons, ih h.2, decide_eq_false (Ne.symm h.1)]
      rfl

/-- If there is one `bandwidth` at most, the first is all there is. -/
lemma bandwidthOf_rated {options : List (List Char)}
    (honce : options.count "bandwidth".toList ≤ 1) :
    ((bandwidthOf options).filter (· ≠ "unlimited".toList)).isSome = rated options := by
  induction options with
  | nil => rfl
  | cons word rest ih =>
      rw [rated_cons]
      cases rest with
      | nil =>
          rw [List.head?_nil, isRate, Option.any_none, Bool.and_false]
          rfl
      | cons value rest =>
          rw [bandwidthOf]
          by_cases hword : word = "bandwidth".toList
          · rw [hword, List.count_cons_self] at honce
            have hnone : "bandwidth".toList ∉ value :: rest :=
              List.count_eq_zero.mp (by omega)
            rw [if_pos hword, decide_eq_true hword, rated_eq_false hnone, Bool.true_and,
              Bool.or_false, List.head?_cons, isRate, Option.any_some, Option.filter_some]
            by_cases hvalue : value ≠ "unlimited".toList
            · rw [decide_eq_true hvalue, if_pos rfl, Option.isSome_some]
            · rw [decide_eq_false hvalue, if_neg Bool.false_ne_true, Option.isSome_none]
          · rw [List.count_cons_of_ne hword] at honce
            rw [if_neg hword, decide_eq_false hword, Bool.false_and, Bool.false_or]
            exact ih honce

/-- What the loop finds in the options of a cake that names its bandwidth at most once is
what the guard finds, or nothing. -/
lemma shapingOption_eq_nil_iff {options : List (List Char)}
    (honce : options.count "bandwidth".toList ≤ 1) :
    shapingOption [] options = [] ↔ (cakeShaping "cake".toList options).isSome = false := by
  rw [shapingOption_eq_nil, cakeShaping, if_neg (not_not.mpr rfl), ← bandwidthOf_rated honce]
  cases (bandwidthOf options).filter (· ≠ "unlimited".toList) with
  | some rate =>
      exact ⟨fun h => Bool.noConfusion h.2.1, fun h => Bool.noConfusion h⟩
  | none =>
      dsimp only
      by_cases h : "autorate-ingress".toList ∈ options
      · rw [if_pos h]
        exact ⟨fun hnone => absurd h hnone.2.2, fun hsome => absurd hsome (by decide)⟩
      · rw [if_neg h]
        exact ⟨fun _ => rfl, fun _ => ⟨rfl, rfl, h⟩⟩

end SkylineSpeeder
