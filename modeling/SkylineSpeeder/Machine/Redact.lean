import Mathlib.Tactic

/-!
Texts some of whose segments are replaced by markers.

* `Piece`: a symbol that is kept, or a segment that is cut out for a marker;
* `source`, `render`: the text that pieces are made of, and the text they give;
* `keeps`: pieces that are all kept.
-/

namespace Redact

variable {α : Type*}

/-- A symbol that is kept, or a segment and the marker in its place. -/
inductive Piece (α : Type*) where
  | keep (a : α)
  | cut (segment marker : List α)

/-- The text that the pieces are made of. -/
def source : List (Piece α) → List α
  | [] => []
  | .keep a :: ps => a :: source ps
  | .cut segment _ :: ps => segment ++ source ps

/-- The text with the markers in it. -/
def render : List (Piece α) → List α
  | [] => []
  | .keep a :: ps => a :: render ps
  | .cut _ marker :: ps => marker ++ render ps

/-- Nothing is cut out. -/
def keeps (text : List α) : List (Piece α) := text.map .keep

section Lemmas

variable (a : α) (segment marker text : List α) (ps qs : List (Piece α))

@[simp] lemma source_nil : source ([] : List (Piece α)) = [] := rfl

@[simp] lemma render_nil : render ([] : List (Piece α)) = [] := rfl

@[simp] lemma source_keep : source (.keep a :: ps) = a :: source ps := rfl

@[simp] lemma render_keep : render (.keep a :: ps) = a :: render ps := rfl

@[simp] lemma source_cut : source (.cut segment marker :: ps) = segment ++ source ps := rfl

@[simp] lemma render_cut : render (.cut segment marker :: ps) = marker ++ render ps := rfl

@[simp] lemma source_append : source (ps ++ qs) = source ps ++ source qs := by
  induction ps with
  | nil => rfl
  | cons p ps ih =>
      cases p with
      | keep a => simp [ih]
      | cut segment marker => simp [ih]

@[simp] lemma render_append : render (ps ++ qs) = render ps ++ render qs := by
  induction ps with
  | nil => rfl
  | cons p ps ih =>
      cases p with
      | keep a => simp [ih]
      | cut segment marker => simp [ih]

@[simp] lemma keeps_nil : keeps ([] : List α) = [] := rfl

@[simp] lemma keeps_cons : keeps (a :: text) = .keep a :: keeps text := rfl

@[simp] lemma source_keeps : source (keeps text) = text := by
  induction text with
  | nil => rfl
  | cons a text ih => simp [ih]

@[simp] lemma render_keeps : render (keeps text) = text := by
  induction text with
  | nil => rfl
  | cons a text ih => simp [ih]

/-- A symbol of the text is kept, or stands in a segment. -/
lemma mem_source {a : α} {ps : List (Piece α)} :
    a ∈ source ps ↔
      .keep a ∈ ps ∨ ∃ segment marker, .cut segment marker ∈ ps ∧ a ∈ segment := by
  induction ps with
  | nil => simp
  | cons p ps ih =>
      cases p with
      | keep b => simp [ih, or_assoc]
      | cut segment marker =>
          simp only [source_cut, List.mem_append, ih, List.mem_cons, reduceCtorEq, false_or,
            Piece.cut.injEq]
          constructor
          · rintro (h | h | ⟨s, m, hmem, h⟩)
            · exact .inr ⟨segment, marker, .inl ⟨rfl, rfl⟩, h⟩
            · exact .inl h
            · exact .inr ⟨s, m, .inr hmem, h⟩
          · rintro (h | ⟨s, m, ⟨rfl, rfl⟩ | hmem, h⟩)
            · exact .inr (.inl h)
            · exact .inl h
            · exact .inr (.inr ⟨s, m, hmem, h⟩)

/-- A symbol of the result is kept, or stands in a marker. -/
lemma mem_render {a : α} {ps : List (Piece α)} :
    a ∈ render ps ↔
      .keep a ∈ ps ∨ ∃ segment marker, .cut segment marker ∈ ps ∧ a ∈ marker := by
  induction ps with
  | nil => simp
  | cons p ps ih =>
      cases p with
      | keep b => simp [ih, or_assoc]
      | cut segment marker =>
          simp only [render_cut, List.mem_append, ih, List.mem_cons, reduceCtorEq, false_or,
            Piece.cut.injEq]
          constructor
          · rintro (h | h | ⟨s, m, hmem, h⟩)
            · exact .inr ⟨segment, marker, .inl ⟨rfl, rfl⟩, h⟩
            · exact .inl h
            · exact .inr ⟨s, m, .inr hmem, h⟩
          · rintro (h | ⟨s, m, ⟨rfl, rfl⟩ | hmem, h⟩)
            · exact .inr (.inl h)
            · exact .inl h
            · exact .inr (.inr ⟨s, m, hmem, h⟩)

/-- A segment is part of the text. -/
lemma segment_subset {segment marker : List α} {ps : List (Piece α)}
    (h : .cut segment marker ∈ ps) : segment ⊆ source ps :=
  fun _ ha => mem_source.mpr (.inr ⟨segment, marker, h, ha⟩)

/-- Something is left of something. -/
lemma render_ne_nil {ps : List (Piece α)} (h : source ps ≠ [])
    (hmarker : ∀ segment marker, .cut segment marker ∈ ps → marker ≠ []) : render ps ≠ [] := by
  cases ps with
  | nil => exact absurd rfl h
  | cons p ps =>
      cases p with
      | keep a => exact List.cons_ne_nil _ _
      | cut segment marker =>
          intro hnil
          exact hmarker segment marker List.mem_cons_self (List.append_eq_nil_iff.mp hnil).1

/-- What is in no segment and in no marker stays as often as it was. -/
lemma count_render [BEq α] {c : α} {ps : List (Piece α)}
    (h : ∀ segment marker, .cut segment marker ∈ ps →
      segment.count c = 0 ∧ marker.count c = 0) :
    (render ps).count c = (source ps).count c := by
  induction ps with
  | nil => rfl
  | cons p ps ih =>
      have hrest := ih fun segment marker hcut => h segment marker (List.mem_cons_of_mem p hcut)
      cases p with
      | keep a => rw [render_keep, source_keep, List.count_cons, List.count_cons, hrest]
      | cut segment marker =>
          obtain ⟨hsegment, hmarker⟩ := h segment marker List.mem_cons_self
          rw [render_cut, source_cut, List.count_append, List.count_append, hrest, hsegment,
            hmarker]

/-- What is in no marker and in the result was kept. -/
lemma render_eq_append_cons {c : α} {a b : List α} {ps : List (Piece α)}
    (hrender : render ps = a ++ c :: b)
    (hmarker : ∀ segment marker, .cut segment marker ∈ ps → c ∉ marker) :
    ∃ qs rs, ps = qs ++ .keep c :: rs ∧ render qs = a ∧ render rs = b := by
  induction ps generalizing a with
  | nil => simp at hrender
  | cons p ps ih =>
      have hrest : ∀ segment marker, .cut segment marker ∈ ps → c ∉ marker :=
        fun segment marker hcut => hmarker segment marker (List.mem_cons_of_mem p hcut)
      cases p with
      | keep d =>
          cases a with
          | nil =>
              obtain ⟨rfl, rfl⟩ := List.cons.inj hrender
              exact ⟨[], ps, rfl, rfl, rfl⟩
          | cons e a =>
              obtain ⟨rfl, htail⟩ := List.cons.inj hrender
              obtain ⟨qs, rs, rfl, rfl, rfl⟩ := ih htail hrest
              exact ⟨.keep d :: qs, rs, rfl, rfl, rfl⟩
      | cut segment marker =>
          have hnot := hmarker segment marker List.mem_cons_self
          rw [render_cut] at hrender
          rcases List.append_eq_append_iff.mp hrender with ⟨u, rfl, hu⟩ | ⟨u, hu, htail⟩
          · obtain ⟨qs, rs, rfl, rfl, rfl⟩ := ih hu hrest
            exact ⟨.cut segment marker :: qs, rs, rfl, rfl, rfl⟩
          · cases u with
            | nil =>
                rw [List.append_nil] at hu
                obtain ⟨qs, rs, rfl, hqs, rfl⟩ := @ih [] htail.symm hrest
                refine ⟨.cut segment marker :: qs, rs, rfl, ?_, rfl⟩
                rw [render_cut, hqs, List.append_nil, hu]
            | cons e u =>
                obtain ⟨rfl, -⟩ := List.cons.inj htail
                exact absurd (hu ▸ List.mem_append_right a List.mem_cons_self) hnot

/-- Markers that begin with another symbol make no run of some kind at the front longer. -/
lemma length_takeWhile_render_le {p : α → Bool} {ps : List (Piece α)}
    (h : ∀ segment marker, .cut segment marker ∈ ps → ∃ c rest, marker = c :: rest ∧ p c = false) :
    ((render ps).takeWhile p).length ≤ ((source ps).takeWhile p).length := by
  induction ps with
  | nil => exact le_rfl
  | cons piece ps ih =>
      cases piece with
      | keep a =>
          rw [render_keep, source_keep, List.takeWhile_cons, List.takeWhile_cons]
          split_ifs
          · have hrest := ih fun segment marker hcut =>
              h segment marker (List.mem_cons_of_mem _ hcut)
            rw [List.length_cons, List.length_cons]
            omega
          · exact le_rfl
      | cut segment marker =>
          obtain ⟨c, rest, rfl, hc⟩ := h segment marker List.mem_cons_self
          rw [render_cut, List.cons_append, List.takeWhile_cons_of_neg (by simp [hc])]
          exact Nat.zero_le _

/-- Pieces with something in each are split where their texts are. -/
lemma append_inj_of_source {qs rs qs' rs' : List (Piece α)} (h : qs ++ rs = qs' ++ rs')
    (hsource : source qs = source qs')
    (hne : ∀ segment marker, .cut segment marker ∈ qs ++ rs → segment ≠ []) :
    qs = qs' ∧ rs = rs' := by
  have hnil : ∀ ts : List (Piece α), (∀ segment marker, .cut segment marker ∈ ts → segment ≠ []) →
      source ts = [] → ts = [] := by
    intro ts hts hempty
    cases ts with
    | nil => rfl
    | cons p ts =>
        cases p with
        | keep a => cases hempty
        | cut segment marker =>
            exact absurd (List.append_eq_nil_iff.mp hempty).1
              (hts segment marker List.mem_cons_self)
  rcases List.append_eq_append_iff.mp h with ⟨ts, rfl, rfl⟩ | ⟨ts, rfl, rfl⟩
  · rw [source_append, List.self_eq_append_right] at hsource
    obtain rfl := hnil ts (fun segment marker hcut => hne segment marker (by simp [hcut])) hsource
    simp
  · rw [source_append, List.append_right_eq_self] at hsource
    obtain rfl := hnil ts (fun segment marker hcut => hne segment marker (by simp [hcut])) hsource
    simp

end Lemmas

end Redact
