import SkylineSpeeder.Machine.Redact

/-!
A `str` as its bytes, and `splice`, which every pass of the scrubber ends with.

* `Str`, `slice`: a text, and a part of it, if both ends are character boundaries;
* `find`, `matchIndices`, `positions`, `replace`: the searches of `str`;
* `Range`, `splice`: the text with a marker in the place of each range;
* `rangesFrom`: the ranges of pieces;
* `Yields`, `yields_rangesFrom`: they are sorted, disjoint and in bounds, and `splice` makes
  the pieces' text of them.
-/

namespace SkylineSpeeder.Scrub

open Redact

/-! ### Bytes -/

/-- The bytes of a `str`. -/
abbrev Str := List UInt8

/-- `b'c'`. -/
def byte (c : Char) : UInt8 := c.toNat.toUInt8

/-- `b"text"`. -/
def ascii (text : String) : Str := text.toList.map byte

def isAsciiWhitespace (b : UInt8) : Bool := b = 0x20 || b = 0x09 || b = 0x0A || b = 0x0C || b = 0x0D

def isAsciiDigit (b : UInt8) : Bool := byte '0' ≤ b && b ≤ byte '9'

def isAsciiAlphabetic (b : UInt8) : Bool :=
  (byte 'A' ≤ b && b ≤ byte 'Z') || (byte 'a' ≤ b && b ≤ byte 'z')

def isAsciiAlphanumeric (b : UInt8) : Bool := isAsciiAlphabetic b || isAsciiDigit b

def isAsciiHexdigit (b : UInt8) : Bool :=
  isAsciiDigit b || (byte 'A' ≤ b && b ≤ byte 'F') || (byte 'a' ≤ b && b ≤ byte 'f')

def toAsciiLowercase (b : UInt8) : UInt8 := if byte 'A' ≤ b && b ≤ byte 'Z' then b + 0x20 else b

/-- `is_word`. -/
def isWord (b : UInt8) : Bool := isAsciiAlphanumeric b || b = byte '_'

/-- A byte inside a character. -/
def isContinuation (b : UInt8) : Bool := 0x80 ≤ b && b < 0xC0

/-! ### Slices -/

/-- `str::is_char_boundary`. -/
def isCharBoundary (text : Str) (i : ℕ) : Bool :=
  i = 0 || (text[i]?).elim (i = text.length) fun b => !isContinuation b

/-- `&text[start..stop]`; `none` is a panic. -/
def slice (text : Str) (start stop : ℕ) : Option Str :=
  if start ≤ stop ∧ isCharBoundary text start ∧ isCharBoundary text stop then
    some ((text.drop start).take (stop - start))
  else none

/-- `&text[start..]`. -/
def sliceFrom (text : Str) (start : ℕ) : Option Str := slice text start text.length

/-- `&bytes[start..]`; `none` is a panic. -/
def bytesFrom (text : Str) (start : ℕ) : Option Str :=
  if start ≤ text.length then some (text.drop start) else none

/-! ### Searches -/

/-- `str::find`, of a text that is not empty. -/
def find (pat : Str) : Str → Option ℕ
  | [] => none
  | b :: text => if pat <+: b :: text then some 0 else (find pat text).map (· + 1)

/-- `str::match_indices`, of a text that is not empty, from position `i` on once `skip` bytes
of the last match are passed. -/
def matchIndices (pat : Str) (skip i : ℕ) : Str → List ℕ
  | [] => []
  | b :: text =>
      if 0 < skip then matchIndices pat (skip - 1) (i + 1) text
      else if pat <+: b :: text then i :: matchIndices pat (pat.length - 1) (i + 1) text
      else matchIndices pat 0 (i + 1) text

/-- `str::match_indices`, of a kind of characters. -/
def positions (p : UInt8 → Bool) (i : ℕ) : Str → List ℕ
  | [] => []
  | b :: text => if p b then i :: positions p (i + 1) text else positions p (i + 1) text

/-- `str::replace`, of a text that is not empty, once `skip` bytes of the last match are
passed. -/
def replace (pat by_ : Str) (skip : ℕ) : Str → Str
  | [] => []
  | b :: text =>
      if 0 < skip then replace pat by_ (skip - 1) text
      else if pat <+: b :: text then by_ ++ replace pat by_ (pat.length - 1) text
      else b :: replace pat by_ 0 text

/-! ### Ranges -/

/-- `(start, end, marker)`. -/
structure Range where
  start : ℕ
  stop : ℕ
  marker : Str
  deriving DecidableEq

/-- The loop of `splice`, from `pos` on (`at` in the source). -/
def spliceFrom (text : Str) (pos : ℕ) : List Range → Option Str
  | [] => sliceFrom text pos
  | r :: ranges => do
      let kept ← slice text pos r.start
      let rest ← spliceFrom text r.stop ranges
      some (kept ++ r.marker ++ rest)

/-- `splice`. -/
def splice (text : Str) (ranges : List Range) : Option Str := spliceFrom text 0 ranges

/-- The ranges are sorted, disjoint and in bounds. -/
def InOrder (length pos : ℕ) : List Range → Prop
  | [] => pos ≤ length
  | r :: ranges => pos ≤ r.start ∧ r.start ≤ r.stop ∧ InOrder length r.stop ranges

/-- The ranges that are cut out, for pieces that begin at `pos`. -/
def rangesFrom (pos : ℕ) : List (Piece UInt8) → List Range
  | [] => []
  | .keep _ :: ps => rangesFrom (pos + 1) ps
  | .cut segment marker :: ps =>
      ⟨pos, pos + segment.length, marker⟩ :: rangesFrom (pos + segment.length) ps

lemma inOrder_rangesFrom {length pos : ℕ} (ps : List (Piece UInt8)) {from_ : ℕ}
    (hfrom : from_ ≤ pos)
    (h : pos + (source ps).length ≤ length) : InOrder length from_ (rangesFrom pos ps) := by
  induction ps generalizing pos from_ with
  | nil =>
      rw [source_nil, List.length_nil] at h
      exact hfrom.trans h
  | cons p ps ih =>
      cases p with
      | keep a =>
          rw [source_keep, List.length_cons] at h
          exact ih (by omega) (by omega)
      | cut segment marker =>
          rw [source_cut, List.length_append] at h
          exact ⟨hfrom, by simp, ih le_rfl (by simpa using by omega)⟩

/-! ### Boundaries -/

/-- No byte is inside a character. -/
def Solid (text : Str) : Prop := ∀ b ∈ text, isContinuation b = false

/-- What follows does not begin inside a character. -/
def Begins (text : Str) : Prop := ∀ b, text.head? = some b → isContinuation b = false

lemma isCharBoundary_append {a b : Str} (h : Begins b) :
    isCharBoundary (a ++ b) a.length = true := by
  rw [isCharBoundary, Bool.or_eq_true]
  right
  cases b with
  | nil => simp
  | cons c b => simpa using h c rfl

lemma isCharBoundary_zero (text : Str) : isCharBoundary text 0 = true := by
  simp [isCharBoundary]

lemma isCharBoundary_length (text : Str) : isCharBoundary text text.length = true := by
  have h := isCharBoundary_append (a := text) (b := []) (by simp [Begins])
  rwa [List.append_nil] at h

/-- In a text without such bytes every position is a boundary. -/
lemma Solid.isCharBoundary {text : Str} (h : Solid text) {i : ℕ} (hi : i ≤ text.length) :
    isCharBoundary text i = true := by
  have hsplit := isCharBoundary_append (a := text.take i) (b := text.drop i) fun b hb =>
    h b (List.mem_of_mem_drop (List.mem_of_mem_head? hb))
  rwa [List.take_append_drop, List.length_take, min_eq_left hi] at hsplit

lemma slice_eq_some {text : Str} {start stop : ℕ} (hle : start ≤ stop)
    (hstart : isCharBoundary text start = true) (hstop : isCharBoundary text stop = true) :
    slice text start stop = some ((text.drop start).take (stop - start)) :=
  if_pos ⟨hle, hstart, hstop⟩

lemma slice_append {a b c : Str} (hb : Begins (b ++ c)) (hc : Begins c) :
    slice (a ++ (b ++ c)) a.length (a.length + b.length) = some b := by
  have hstop : isCharBoundary (a ++ (b ++ c)) (a.length + b.length) = true := by
    have h := isCharBoundary_append (a := a ++ b) hc
    rwa [List.append_assoc, List.length_append] at h
  rw [slice_eq_some (by omega) (isCharBoundary_append hb) hstop]
  simp

lemma sliceFrom_append {a b : Str} (hb : Begins b) : sliceFrom (a ++ b) a.length = some b := by
  rw [sliceFrom, slice_eq_some (by simp) (isCharBoundary_append hb) (isCharBoundary_length _)]
  simp

lemma bytesFrom_append (a b : Str) : bytesFrom (a ++ b) a.length = some b := by
  rw [bytesFrom, if_pos (by simp), List.drop_left]

/-- **What `splice` makes** of the ranges of pieces, if their ends are boundaries. -/
lemma spliceFrom_rangesFrom (ps : List (Piece UInt8)) {a b : Str}
    (hb : isCharBoundary (a ++ (b ++ source ps)) a.length = true)
    (hranges : ∀ r ∈ rangesFrom (a ++ b).length ps,
      isCharBoundary (a ++ (b ++ source ps)) r.start = true ∧
        isCharBoundary (a ++ (b ++ source ps)) r.stop = true) :
    spliceFrom (a ++ (b ++ source ps)) a.length (rangesFrom (a ++ b).length ps) =
      some (b ++ render ps) := by
  induction ps generalizing a b with
  | nil =>
      rw [rangesFrom, spliceFrom, sliceFrom, slice_eq_some (by simp) hb (isCharBoundary_length _)]
      simp
  | cons p ps ih =>
      cases p with
      | keep c =>
          have h := @ih a (b ++ [c])
          simp only [List.append_assoc, List.singleton_append, List.length_append,
            List.length_singleton] at h hranges hb ⊢
          exact h hb (by simpa [rangesFrom, Nat.add_assoc] using hranges)
      | cut segment marker =>
          have hends := hranges _ (List.mem_cons_self ..)
          have h := @ih (a ++ b ++ segment) []
          simp only [source_cut, rangesFrom, spliceFrom, render_cut] at hb hends hranges ⊢
          rw [slice_eq_some (by simp) hb hends.1]
          simp only [List.append_nil, List.nil_append, List.append_assoc, List.length_append] at h
          rw [List.length_append, Nat.add_assoc, h]
          · simp
          · simpa [Nat.add_assoc] using hends.2
          · intro r hr
            exact hranges r (List.mem_cons_of_mem _ (by simpa [Nat.add_assoc] using hr))

/-- The pieces of a text, in a pass that ends with `splice`. -/
lemma splice_rangesFrom {ps : List (Piece UInt8)} {text : Str} (hsource : source ps = text)
    (hranges : ∀ r ∈ rangesFrom 0 ps,
      isCharBoundary text r.start = true ∧ isCharBoundary text r.stop = true) :
    splice text (rangesFrom 0 ps) = some (render ps) := by
  subst hsource
  exact spliceFrom_rangesFrom (a := []) (b := []) ps (isCharBoundary_zero _) hranges

/-- The ranges are sorted, disjoint and in bounds, and `splice` makes a text of them. -/
def Yields (text : Str) (ranges : List Range) (out : Str) : Prop :=
  InOrder text.length 0 ranges ∧ splice text ranges = some out

/-- What the ranges of pieces yield is the pieces' text. -/
lemma yields_rangesFrom {ps : List (Piece UInt8)} {text : Str} (hsource : source ps = text)
    (hranges : ∀ r ∈ rangesFrom 0 ps,
      isCharBoundary text r.start = true ∧ isCharBoundary text r.stop = true) :
    Yields text (rangesFrom 0 ps) (render ps) :=
  ⟨inOrder_rangesFrom ps le_rfl (by rw [hsource, Nat.zero_add]),
    splice_rangesFrom hsource hranges⟩

lemma mem_rangesFrom_le {ps : List (Piece UInt8)} {pos : ℕ} {r : Range}
    (h : r ∈ rangesFrom pos ps) :
    r.start ≤ pos + (source ps).length ∧ r.stop ≤ pos + (source ps).length := by
  induction ps generalizing pos with
  | nil => cases h
  | cons p ps ih =>
      cases p with
      | keep a =>
          have := ih h
          rw [source_keep, List.length_cons]
          omega
      | cut segment marker =>
          rw [source_cut, List.length_append]
          rcases List.mem_cons.mp h with rfl | h
          · dsimp only
            omega
          · have := ih h
            omega

/-- In a text without bytes inside a character every range can be cut out. -/
lemma Solid.yields {ps : List (Piece UInt8)} {text : Str} (h : Solid text)
    (hsource : source ps = text) : Yields text (rangesFrom 0 ps) (render ps) := by
  refine yields_rangesFrom hsource fun r hr => ?_
  have hle := mem_rangesFrom_le hr
  rw [hsource, Nat.zero_add] at hle
  exact ⟨h.isCharBoundary hle.1, h.isCharBoundary hle.2⟩

/-! ### What the searches find -/

lemma rangesFrom_append (pos : ℕ) (ps qs : List (Piece UInt8)) :
    rangesFrom pos (ps ++ qs) = rangesFrom pos ps ++ rangesFrom (pos + (source ps).length) qs := by
  induction ps generalizing pos with
  | nil => rfl
  | cons p ps ih =>
      cases p with
      | keep a => simp [rangesFrom, ih, Nat.add_assoc, Nat.add_comm 1]
      | cut segment marker => simp [rangesFrom, ih, Nat.add_assoc]

@[simp] lemma rangesFrom_keeps (pos : ℕ) (text : Str) : rangesFrom pos (keeps text) = [] := by
  induction text generalizing pos with
  | nil => rfl
  | cons b text ih => exact ih (pos + 1)

/-- The byte before a position. -/
lemma any_getElem_pred (a b : Str) :
    (a.length = 0 ∨ ((a ++ b)[a.length - 1]?).any isWord = false) ↔
      a.getLast?.any isWord = false := by
  induction a using List.reverseRecOn with
  | nil => simp
  | append_singleton a c ih => simp

/-- The byte at a position. -/
lemma any_getElem_length (a b : Str) :
    (a.length = (a ++ b).length ∨ ((a ++ b)[a.length]?).any isWord = false) ↔
      b.head?.any isWord = false := by
  cases b with
  | nil => simp
  | cons c b => simp

/-- `position`, or else the end of the text. -/
lemma elim_findIdx (p : UInt8 → Bool) (start : ℕ) (tail : Str) {length : ℕ}
    (h : length = start + tail.length) :
    (tail.findIdx? p).elim length (start + ·) = start + (tail.takeWhile (!p ·)).length := by
  induction tail generalizing start with
  | nil => simpa using h
  | cons b tail ih =>
      rw [List.findIdx?_cons, List.takeWhile_cons]
      cases hb : p b with
      | true => simp
      | false =>
          have hrest := ih (start + 1) (by simpa [Nat.add_assoc, Nat.add_comm 1] using h)
          simp only [Bool.not_false, if_true, List.length_cons, if_false, Bool.false_eq_true,
            ← Nat.add_assoc]
          rw [Nat.add_right_comm, ← hrest]
          cases tail.findIdx? p with
          | none => rfl
          | some i => simp [Nat.add_assoc, Nat.add_comm 1]

end SkylineSpeeder.Scrub
