import SkylineSpeeder.Scrub.Secrets

/-!
The last pass: the names of home directories.

* `scrubHomes`: the code, over the matches of `/home/`;
* `homePieces`: the same text byte by byte, with what is cut out;
* `homeRanges_eq`: without a byte inside a character the loop finds the ranges of the pieces.
-/

namespace SkylineSpeeder.Scrub

open Redact

/-! ### The code -/

/-- What ends the name of a home directory. -/
def isHomeStop (b : UInt8) : Bool := b = byte '/' || isAsciiWhitespace b

/-- The loop of `scrub_homes`, with the end of `ranges.last()`. -/
def homeRanges (text : Str) (last : Option ℕ) : List ℕ → Option (List Range)
  | [] => some []
  | i :: is => do
      -- `found.len()`
      let start := i + 6
      let tail ← bytesFrom text start
      let stop := (tail.findIdx? isHomeStop).elim text.length (start + ·)
      if start < stop ∧ last.all (· ≤ start) then do
        let more ← homeRanges text (some stop) is
        some (⟨start, stop, ascii "<user>"⟩ :: more)
      else homeRanges text last is

/-- `scrub_homes`. -/
def scrubHomes (text : Str) : Option Str := do
  let ranges ← homeRanges text none (matchIndices (ascii "/home/") 0 0 text)
  splice text ranges

/-! ### Its pieces -/

/-- The name that begins here. -/
def homeOf (text : Str) : Str := text.takeWhile (!isHomeStop ·)

/-- What is after the name. -/
def afterHome (text : Str) : Str := text.dropWhile (!isHomeStop ·)

lemma homeOf_append_afterHome (text : Str) : homeOf text ++ afterHome text = text :=
  List.takeWhile_append_dropWhile

lemma length_afterHome_le (text : Str) : (afterHome text).length ≤ text.length :=
  (List.dropWhile_sublist _).length_le

/-- What becomes of the name after `/home/`. -/
def namePieces (text : Str) : List (Piece UInt8) :=
  if homeOf text ≠ [] then [.cut (homeOf text) (ascii "<user>")] else []

/-- The pieces of a text. -/
def homePieces : Str → List (Piece UInt8)
  | [] => []
  | b :: text =>
      if ascii "/home/" <+: b :: text then
        keeps (ascii "/home/") ++ namePieces (text.drop 5) ++ homePieces (afterHome (text.drop 5))
      else .keep b :: homePieces text
termination_by text => text.length
decreasing_by
  · have := length_afterHome_le (text.drop 5)
    rw [List.length_drop] at this
    rw [List.length_cons]
    omega
  · simp

/-- What `scrub_homes` gives. -/
def homes (text : Str) : Str := render (homePieces text)

@[simp] lemma homePieces_nil : homePieces [] = [] := by
  rw [homePieces]

lemma homePieces_home (text : Str) :
    homePieces (ascii "/home/" ++ text) =
      keeps (ascii "/home/") ++ namePieces text ++ homePieces (afterHome text) := by
  have hprefix : ascii "/home/" <+: ascii "/home/" ++ text := List.prefix_append _ _
  have hcons : ascii "/home/" ++ text = byte '/' :: (ascii "home/" ++ text) := rfl
  rw [hcons] at hprefix ⊢
  rw [homePieces, if_pos hprefix]
  rfl

lemma homePieces_cons {b : UInt8} {text : Str} (h : ¬ ascii "/home/" <+: b :: text) :
    homePieces (b :: text) = .keep b :: homePieces text := by
  rw [homePieces, if_neg h]

@[simp] lemma source_namePieces (text : Str) : source (namePieces text) = homeOf text := by
  rw [namePieces]
  split_ifs with h
  · simp
  · simpa using (not_not.mp h).symm

lemma length_home : (ascii "/home/").length = 6 := rfl

/-- A byte, or a home directory: how the pieces of a text are made. -/
lemma homes_induction {P : Str → Prop} (hnil : P [])
    (hcons : ∀ b text, ¬ ascii "/home/" <+: b :: text → P text → P (b :: text))
    (hhome : ∀ text, P (afterHome text) → P (ascii "/home/" ++ text)) : ∀ text, P text := by
  intro text
  induction hlength : text.length using Nat.strong_induction_on generalizing text with
  | _ n ih =>
      cases text with
      | nil => exact hnil
      | cons b text =>
          by_cases h : ascii "/home/" <+: b :: text
          · obtain ⟨rest, hrest⟩ := h
            rw [← hrest]
            refine hhome rest (ih _ ?_ _ rfl)
            have hle := length_afterHome_le rest
            rw [← hlength, ← hrest, List.length_append, length_home]
            omega
          · exact hcons b text h (ih _ (by simp [← hlength]) _ rfl)

@[simp] lemma source_homePieces (text : Str) : source (homePieces text) = text := by
  induction text using homes_induction with
  | hnil => simp
  | hcons b text h ih => simp [homePieces_cons h, ih]
  | hhome text ih => simp [homePieces_home, ih, homeOf_append_afterHome]

/-! ### The loop -/

/-- The rest of a match is passed over. -/
lemma matchIndices_append (pat : Str) (i : ℕ) (a b : Str) :
    matchIndices pat a.length i (a ++ b) = matchIndices pat 0 (i + a.length) b := by
  induction a generalizing i with
  | nil => rfl
  | cons c a ih =>
      rw [List.cons_append, matchIndices, if_pos (by simp), List.length_cons,
        Nat.add_sub_cancel, ih, Nat.add_assoc, Nat.add_comm 1]

/-- A match is found, and what follows it is searched. -/
lemma matchIndices_pat {pat : Str} (h : pat ≠ []) (i : ℕ) (text : Str) :
    matchIndices pat 0 i (pat ++ text) = i :: matchIndices pat 0 (i + pat.length) text := by
  obtain ⟨c, pat', rfl⟩ := List.exists_cons_of_ne_nil h
  have hpre : c :: pat' <+: c :: (pat' ++ text) := List.prefix_append (c :: pat') text
  rw [List.cons_append, matchIndices, if_neg (lt_irrefl 0), if_pos hpre]
  rw [List.length_cons, Nat.add_sub_cancel, matchIndices_append, Nat.add_assoc, Nat.add_comm 1]

/-- Nothing is found where the first byte does not occur. -/
lemma matchIndices_of_not_mem {c : UInt8} {pat a : Str} (h : c ∉ a) (i : ℕ) (b : Str) :
    matchIndices (c :: pat) 0 i (a ++ b) = matchIndices (c :: pat) 0 (i + a.length) b := by
  induction a generalizing i with
  | nil => rfl
  | cons d a ih =>
      rw [List.mem_cons, not_or] at h
      have hnot : ¬ c :: pat <+: d :: (a ++ b) := fun hpre =>
        h.1 (List.cons_prefix_cons.mp hpre).1
      rw [List.cons_append, matchIndices, if_neg (lt_irrefl 0), if_neg hnot, ih h.2,
        List.length_cons, Nat.add_assoc, Nat.add_comm 1]

lemma slash_not_mem_homeOf (text : Str) : byte '/' ∉ homeOf text := by
  intro hmem
  have h := List.mem_takeWhile_imp hmem
  revert h
  decide

/-- One turn of the loop. -/
lemma homeRanges_cons {a text : Str} (last : Option ℕ) (is : List ℕ) :
    homeRanges (a ++ (ascii "/home/" ++ text)) last (a.length :: is) =
      if homeOf text ≠ [] ∧ last.all (· ≤ a.length + 6) = true then
        (homeRanges (a ++ (ascii "/home/" ++ text))
          (some (a.length + 6 + (homeOf text).length)) is).map
            (⟨a.length + 6, a.length + 6 + (homeOf text).length, ascii "<user>"⟩ :: ·)
      else homeRanges (a ++ (ascii "/home/" ++ text)) last is := by
  have hbytes : bytesFrom (a ++ (ascii "/home/" ++ text)) (a.length + 6) = some text := by
    rw [← length_home, ← List.append_assoc, ← List.length_append]
    exact bytesFrom_append _ _
  have hstop := @elim_findIdx isHomeStop (a.length + 6) text
    (a ++ (ascii "/home/" ++ text)).length
    (by rw [List.length_append, List.length_append, length_home, Nat.add_assoc])
  rw [← homeOf] at hstop
  have hlt : a.length + 6 < a.length + 6 + (homeOf text).length ↔ homeOf text ≠ [] := by
    rw [← List.length_pos_iff]
    omega
  rw [homeRanges]
  simp only [Option.bind_eq_bind, Option.bind_some, hbytes, hstop, hlt]
  split_ifs
  · cases homeRanges (a ++ (ascii "/home/" ++ text))
      (some (a.length + 6 + (homeOf text).length)) is with
    | none => rfl
    | some more => rfl
  · rfl

/-- **The loop** finds the ranges of the pieces. -/
lemma homeRanges_eq {a b : Str} {last : Option ℕ} (hlast : ∀ stop ∈ last, stop ≤ a.length) :
    homeRanges (a ++ b) last (matchIndices (ascii "/home/") 0 a.length b) =
      some (rangesFrom a.length (homePieces b)) := by
  induction b using homes_induction generalizing a last with
  | hnil => simp [matchIndices, homeRanges, rangesFrom]
  | hcons b text hnot ih =>
      have hrest := @ih (a ++ [b]) last fun stop hstop => (hlast stop hstop).trans (by simp)
      simp only [List.append_assoc, List.singleton_append, List.length_append,
        List.length_singleton] at hrest
      rw [homePieces_cons hnot, matchIndices, if_neg (lt_irrefl 0), if_neg hnot, hrest]
      rfl
  | hhome text ih =>
      have hall : last.all (· ≤ a.length + 6) = true := by
        cases last with
        | none => rfl
        | some stop =>
            have := hlast stop rfl
            simp only [Option.all_some, decide_eq_true_eq]
            omega
      have hsplit : a ++ (ascii "/home/" ++ text) =
          (a ++ (ascii "/home/" ++ homeOf text)) ++ afterHome text := by
        rw [List.append_assoc, List.append_assoc, homeOf_append_afterHome]
      have hlength : (a ++ (ascii "/home/" ++ homeOf text)).length =
          a.length + 6 + (homeOf text).length := by
        rw [List.length_append, List.length_append, length_home, Nat.add_assoc]
      -- a name holds no slash, so the next match comes after it
      have hmatches : matchIndices (ascii "/home/") 0 a.length (ascii "/home/" ++ text) =
          a.length :: matchIndices (ascii "/home/") 0 (a.length + 6 + (homeOf text).length)
            (afterHome text) := by
        rw [matchIndices_pat (by decide), length_home]
        nth_rewrite 1 [← homeOf_append_afterHome text]
        exact congrArg _ (matchIndices_of_not_mem (slash_not_mem_homeOf text) _ _)
      have hrest : ∀ stop, (∀ s ∈ stop, s ≤ a.length + 6 + (homeOf text).length) →
          homeRanges (a ++ (ascii "/home/" ++ text)) stop
              (matchIndices (ascii "/home/") 0 (a.length + 6 + (homeOf text).length)
                (afterHome text)) =
            some (rangesFrom (a.length + 6 + (homeOf text).length)
              (homePieces (afterHome text))) := by
        intro stop hstop
        have h := @ih (a ++ (ascii "/home/" ++ homeOf text)) stop (by rwa [hlength])
        rwa [← hsplit, hlength] at h
      rw [hmatches, homeRanges_cons, homePieces_home, namePieces]
      by_cases hne : homeOf text ≠ []
      · rw [if_pos ⟨hne, hall⟩, if_pos hne, hrest _ (by simp)]
        simp [rangesFrom_append, rangesFrom, length_home]
      · rw [if_neg fun hboth => hne hboth.1, if_neg hne,
          hrest _ fun s hs => (hlast s hs).trans (by omega)]
        simp [rangesFrom_append, length_home, not_not.mp hne]

/-- **The pass**, without a byte inside a character. -/
lemma homeRanges_yields {text : Str} (h : Solid text) :
    homeRanges text none (matchIndices (ascii "/home/") 0 0 text) =
        some (rangesFrom 0 (homePieces text)) ∧
      Yields text (rangesFrom 0 (homePieces text)) (homes text) :=
  ⟨@homeRanges_eq [] text none (by simp), h.yields (source_homePieces text)⟩

/-- What is cut out, and for which marker. -/
lemma cut_homePieces {text segment marker : Str} (h : .cut segment marker ∈ homePieces text) :
    byte '/' ∉ segment ∧ marker = ascii "<user>" := by
  induction text using homes_induction with
  | hnil => simp at h
  | hcons b text hnot ih =>
      rw [homePieces_cons hnot, List.mem_cons] at h
      exact ih (h.resolve_left (by simp))
  | hhome text ih =>
      rw [homePieces_home, List.mem_append, List.mem_append, namePieces] at h
      rcases h with (h | h) | h
      · simp [keeps] at h
      · split_ifs at h
        · obtain ⟨rfl, rfl⟩ := Piece.cut.inj (List.mem_singleton.mp h)
          exact ⟨slash_not_mem_homeOf text, rfl⟩
        · cases h
      · exact ih h

end SkylineSpeeder.Scrub
