import Mathlib.Tactic

/-!
Extended regular expressions with numbered groups, as a shell matches them against a whole
text.

* `Ere`, `Ere.Matches`: expressions, and the texts they match with what their groups hold;
* `matches_cat`, `matches_group`, `matches_opt`: one lemma for each construct;
* `matches_times_cls`, `matches_plus_cls`: runs of characters of one kind.
-/

/-- An expression: a bracket expression, a fixed text, a sequence, `?`, `*`, `{n}`, and a
group with its number. -/
inductive Ere where
  | cls (p : Char → Bool)
  | lit (text : List Char)
  | cat (a b : Ere)
  | opt (a : Ere)
  | star (a : Ere)
  | times (n : ℕ) (a : Ere)
  | group (n : ℕ) (a : Ere)

namespace Ere

/-- `a+`. -/
def plus (a : Ere) : Ere := .cat a (.star a)

/-- What the groups hold, in the order in which they opened. -/
abbrev Captures := List (ℕ × List Char)

/-- The expression matches the whole text. -/
inductive Matches : Ere → List Char → Captures → Prop
  | cls {p : Char → Bool} {c : Char} (h : p c = true) : Matches (.cls p) [c] []
  | lit {text : List Char} : Matches (.lit text) text []
  | cat {a b : Ere} {s t : List Char} {caps caps' : Captures} (ha : Matches a s caps)
      (hb : Matches b t caps') : Matches (.cat a b) (s ++ t) (caps ++ caps')
  | optNone {a : Ere} : Matches (.opt a) [] []
  | optSome {a : Ere} {s : List Char} {caps : Captures} (h : Matches a s caps) :
      Matches (.opt a) s caps
  | starNil {a : Ere} : Matches (.star a) [] []
  | starCons {a : Ere} {s t : List Char} {caps caps' : Captures} (h : Matches a s caps)
      (hrest : Matches (.star a) t caps') : Matches (.star a) (s ++ t) (caps ++ caps')
  | timesZero {a : Ere} : Matches (.times 0 a) [] []
  | timesSucc {a : Ere} {n : ℕ} {s t : List Char} {caps caps' : Captures} (h : Matches a s caps)
      (hrest : Matches (.times n a) t caps') : Matches (.times (n + 1) a) (s ++ t) (caps ++ caps')
  | group {a : Ere} {n : ℕ} {s : List Char} {caps : Captures} (h : Matches a s caps) :
      Matches (.group n a) s ((n, s) :: caps)

/-- What a group holds; a group that took no part holds nothing. -/
def capture (caps : Captures) (n : ℕ) : List Char := (List.lookup n caps.reverse).getD []

/-- A group holds what it matched last. -/
lemma capture_append_cons (caps : Captures) {caps' : Captures} {n : ℕ} {text : List Char}
    (h : ∀ e ∈ caps', e.1 ≠ n) : capture (caps ++ (n, text) :: caps') n = text := by
  have hnone : List.lookup n caps'.reverse = none := by
    rw [List.lookup_eq_none_iff]
    intro e he
    rw [bne_iff_ne]
    exact (h e (List.mem_reverse.mp he)).symm
  rw [capture, List.reverse_append, List.reverse_cons, List.append_assoc, List.lookup_append, hnone,
    Option.none_or, List.singleton_append, List.lookup_cons_self, Option.getD_some]

variable {a b : Ere} {s : List Char} {caps : Captures}

lemma matches_lit {text : List Char} : Matches (.lit text) s caps ↔ s = text ∧ caps = [] := by
  constructor
  · rintro ⟨⟩
    exact ⟨rfl, rfl⟩
  · rintro ⟨rfl, rfl⟩
    exact .lit

lemma matches_cat : Matches (.cat a b) s caps ↔ ∃ s₁ s₂ caps₁ caps₂,
    s = s₁ ++ s₂ ∧ caps = caps₁ ++ caps₂ ∧ Matches a s₁ caps₁ ∧ Matches b s₂ caps₂ := by
  constructor
  · rintro ⟨⟩
    exact ⟨_, _, _, _, rfl, rfl, ‹_›, ‹_›⟩
  · rintro ⟨s₁, s₂, caps₁, caps₂, rfl, rfl, ha, hb⟩
    exact .cat ha hb

lemma matches_opt : Matches (.opt a) s caps ↔ (s = [] ∧ caps = []) ∨ Matches a s caps := by
  constructor
  · rintro (_ | _ | _ | _ | h)
    · exact .inl ⟨rfl, rfl⟩
    · exact .inr ‹_›
  · rintro (⟨rfl, rfl⟩ | h)
    · exact .optNone
    · exact .optSome h

lemma matches_group {n : ℕ} :
    Matches (.group n a) s caps ↔ ∃ caps', caps = (n, s) :: caps' ∧ Matches a s caps' := by
  constructor
  · rintro ⟨⟩
    exact ⟨_, rfl, ‹_›⟩
  · rintro ⟨caps', rfl, h⟩
    exact .group h

/-- `[..]*`: the characters are of one kind. -/
lemma matches_star_cls {p : Char → Bool} :
    Matches (.star (.cls p)) s caps ↔ (∀ c ∈ s, p c = true) ∧ caps = [] := by
  constructor
  · intro h
    generalize hre : Ere.star (.cls p) = re at h
    induction h with
    | starNil => simp
    | starCons h _ _ ih =>
        cases hre
        cases h with
        | cls hc =>
            obtain ⟨hall, rfl⟩ := ih rfl
            refine ⟨fun c hmem => ?_, rfl⟩
            rcases List.mem_cons.mp hmem with rfl | hmem
            · exact hc
            · exact hall c hmem
    | cls | lit | cat | optNone | optSome | timesZero | timesSucc | group => cases hre
  · rintro ⟨hall, rfl⟩
    induction s with
    | nil => exact .starNil
    | cons c s ih =>
        have hfirst : Matches (.cls p) [c] [] := .cls (hall c (by simp))
        exact hfirst.starCons (ih fun d hd => hall d (List.mem_cons_of_mem c hd))

/-- `[..]+`. -/
lemma matches_plus_cls {p : Char → Bool} :
    Matches (plus (.cls p)) s caps ↔ s ≠ [] ∧ (∀ c ∈ s, p c = true) ∧ caps = [] := by
  rw [plus, matches_cat]
  constructor
  · rintro ⟨s₁, s₂, caps₁, caps₂, rfl, rfl, h₁, h₂⟩
    obtain ⟨hall, rfl⟩ := matches_star_cls.mp h₂
    cases h₁ with
    | @cls _ c hc =>
        refine ⟨by simp, fun d hd => ?_, rfl⟩
        rcases List.mem_cons.mp hd with rfl | hd
        · exact hc
        · exact hall d hd
  · rintro ⟨hne, hall, rfl⟩
    cases s with
    | nil => exact absurd rfl hne
    | cons c s =>
        refine ⟨[c], s, [], [], rfl, rfl, .cls (hall c (by simp)), ?_⟩
        exact matches_star_cls.mpr ⟨fun d hd => hall d (List.mem_cons_of_mem c hd), rfl⟩

/-- `[..]{n}`. -/
lemma matches_times_cls {p : Char → Bool} {n : ℕ} :
    Matches (.times n (.cls p)) s caps ↔ s.length = n ∧ (∀ c ∈ s, p c = true) ∧ caps = [] := by
  induction n generalizing s caps with
  | zero =>
      constructor
      · rintro ⟨⟩
        simp
      · rintro ⟨hlength, -, rfl⟩
        obtain rfl := List.length_eq_zero_iff.mp hlength
        exact .timesZero
  | succ n ih =>
      constructor
      · intro h
        cases h with
        | timesSucc h hrest =>
            obtain ⟨rfl, hall, rfl⟩ := ih.mp hrest
            cases h with
            | cls hc =>
                refine ⟨by simp, fun d hd => ?_, rfl⟩
                rcases List.mem_cons.mp hd with rfl | hd
                · exact hc
                · exact hall d hd
      · rintro ⟨hlength, hall, rfl⟩
        cases s with
        | nil => cases hlength
        | cons c s =>
            have hfirst : Matches (.cls p) [c] [] := .cls (hall c (by simp))
            exact hfirst.timesSucc (ih.mpr ⟨Nat.succ.inj hlength,
              fun d hd => hall d (List.mem_cons_of_mem c hd), rfl⟩)

end Ere
