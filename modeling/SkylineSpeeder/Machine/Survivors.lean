import SkylineSpeeder.Machine.Redact

/-!
Words that are left of a text when segments of it are replaced by markers in brackets.

* `Framed`: every marker stands between two symbols, its brackets;
* `keeps_of_render`, `word_of_render`: a word without the brackets that is no part of a marker
  was kept, symbol by symbol;
* `last_of_render`: so was a symbol at the end that is no bracket;
* `kept_not_cut`: a word that is kept and a segment that is cut out do not overlap.
-/

namespace Redact

variable {α : Type*} {c d : α} {ps qs rs : List (Piece α)} {before word after : List α}

/-- Every marker begins with `c` and ends with `d`. -/
def Framed (c d : α) (ps : List (Piece α)) : Prop :=
  ∀ segment marker, .cut segment marker ∈ ps → ∃ inner, marker = c :: (inner ++ [d])

lemma Framed.tail {p : Piece α} (h : Framed c d (p :: ps)) : Framed c d ps :=
  fun segment marker hcut => h segment marker (List.mem_cons_of_mem p hcut)

lemma Framed.left (h : Framed c d (qs ++ rs)) : Framed c d qs :=
  fun segment marker hcut => h segment marker (List.mem_append_left rs hcut)

lemma Framed.right (h : Framed c d (qs ++ rs)) : Framed c d rs :=
  fun segment marker hcut => h segment marker (List.mem_append_right qs hcut)

/-- **A word at the front** was kept. -/
lemma keeps_of_render (h : Framed c d ps) (hrender : render ps = word ++ after) (hc : c ∉ word) :
    ∃ rs, ps = keeps word ++ rs ∧ render rs = after := by
  induction word generalizing ps with
  | nil => exact ⟨ps, rfl, hrender⟩
  | cons b word ih =>
      rw [List.mem_cons, not_or] at hc
      cases ps with
      | nil => cases hrender
      | cons p ps =>
          cases p with
          | keep a =>
              obtain ⟨rfl, htail⟩ := List.cons.inj hrender
              obtain ⟨rs, rfl, hrs⟩ := ih h.tail htail hc.2
              exact ⟨rs, rfl, hrs⟩
          | cut segment marker =>
              obtain ⟨inner, rfl⟩ := h segment marker List.mem_cons_self
              exact absurd (List.cons.inj hrender).1 hc.1

/-- **A word** that has no bracket and is no part of a marker was kept. -/
lemma word_of_render (h : Framed c d ps) (hrender : render ps = before ++ (word ++ after))
    (hne : word ≠ []) (hc : c ∉ word) (hd : d ∉ word)
    (hin : ∀ segment marker, .cut segment marker ∈ ps → ¬ word <:+: marker) :
    ∃ qs rs, ps = qs ++ (keeps word ++ rs) ∧ render qs = before ∧ render rs = after := by
  induction ps generalizing before with
  | nil =>
      have hnil := (List.append_eq_nil_iff.mp hrender.symm).2
      exact absurd (List.append_eq_nil_iff.mp hnil).1 hne
  | cons p ps ih =>
      have hin' : ∀ segment marker, .cut segment marker ∈ ps → ¬ word <:+: marker :=
        fun segment marker hcut => hin segment marker (List.mem_cons_of_mem p hcut)
      cases p with
      | keep a =>
          cases before with
          | nil =>
              rw [List.nil_append] at hrender
              obtain ⟨rs, hrs, hafter⟩ := keeps_of_render h hrender hc
              exact ⟨[], rs, hrs, rfl, hafter⟩
          | cons b before =>
              obtain ⟨rfl, htail⟩ := List.cons.inj hrender
              obtain ⟨qs, rs, rfl, rfl, hrs⟩ := ih h.tail htail hin'
              exact ⟨.keep a :: qs, rs, rfl, rfl, hrs⟩
      | cut segment marker =>
          rw [render_cut] at hrender
          rcases List.append_eq_append_iff.mp hrender with ⟨u, rfl, hu⟩ | ⟨u, hu, htail⟩
          · obtain ⟨qs, rs, rfl, rfl, hrs⟩ := ih h.tail hu hin'
            exact ⟨.cut segment marker :: qs, rs, rfl, rfl, hrs⟩
          · cases u using List.reverseRecOn with
            | nil =>
                obtain ⟨qs, rs, rfl, hqs, hrs⟩ := @ih [] h.tail htail.symm hin'
                refine ⟨.cut segment marker :: qs, rs, rfl, ?_, hrs⟩
                rw [render_cut, hqs, hu]
                simp
            | append_singleton u e =>
                -- the word begins in the marker: it ends there, or goes over its bracket
                rcases List.append_eq_append_iff.mp htail with ⟨v, hv, -⟩ | ⟨v, rfl, -⟩
                · exact absurd ⟨before, v, by rw [List.append_assoc, ← hv, ← hu]⟩
                    (hin segment marker List.mem_cons_self)
                · obtain ⟨inner, rfl⟩ := h segment marker List.mem_cons_self
                  have hlast := congrArg List.getLast? hu
                  rw [← List.append_assoc, List.getLast?_concat, ← List.cons_append,
                    List.getLast?_concat] at hlast
                  obtain rfl := Option.some.inj hlast
                  exact absurd (by simp) hd

/-- **The last symbol**, if it is no bracket, was kept. -/
lemma last_of_render {b : α} {text : List α} (h : Framed c d ps) (hrender : render ps = text ++ [b])
    (hb : b ≠ d) : ∃ qs, ps = qs ++ [.keep b] ∧ render qs = text := by
  cases ps using List.reverseRecOn with
  | nil => exact absurd hrender.symm (by simp)
  | append_singleton ps p =>
      rw [render_append] at hrender
      cases p with
      | keep a =>
          obtain ⟨htext, hlast⟩ := List.append_inj' hrender rfl
          obtain rfl := List.singleton_inj.mp hlast
          exact ⟨ps, rfl, htext⟩
      | cut segment marker =>
          obtain ⟨inner, rfl⟩ := h segment marker (by simp)
          have hlast := congrArg List.getLast? hrender
          rw [render_cut, render_nil, List.append_nil, ← List.cons_append, ← List.append_assoc,
            List.getLast?_concat, List.getLast?_concat] at hlast
          exact absurd (Option.some.inj hlast).symm hb

/-- **What is kept** is not cut out. -/
lemma kept_not_cut {segment marker : List α} {qs' rs' : List (Piece α)}
    (h : qs ++ (keeps word ++ rs) = qs' ++ .cut segment marker :: rs') :
    (source qs).length + word.length ≤ (source qs').length ∨
      (source qs').length + segment.length ≤ (source qs).length := by
  rcases List.append_eq_append_iff.mp h with ⟨t, rfl, ht⟩ | ⟨t, rfl, ht⟩
  · left
    rcases List.append_eq_append_iff.mp ht with ⟨u, rfl, -⟩ | ⟨u, hu, hcut⟩
    · simp only [source_append, source_keeps, List.length_append]
      omega
    · cases u with
      | nil =>
          have hsource := congrArg source hu
          rw [source_keeps, List.append_nil] at hsource
          rw [source_append, List.length_append, hsource]
      | cons p u =>
          obtain ⟨rfl, -⟩ := List.cons.inj hcut
          have hmem : Piece.cut segment marker ∈ keeps word := hu ▸ by simp
          simp [keeps] at hmem
  · cases t with
    | nil =>
        cases word with
        | nil =>
            left
            simp
        | cons a word => cases (List.cons.inj ht).1
    | cons p t =>
        obtain ⟨rfl, -⟩ := List.cons.inj ht
        right
        simp only [source_append, source_cut, List.length_append]
        omega

end Redact
