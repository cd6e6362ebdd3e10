import Mathlib.Tactic

/-!
A depth-first search that is cut off at a depth and enters nothing twice.

What is met first at the last depth is not followed, also if it is met again nearer, so what
the search finds depends on the order of its paths.

* `search`: what was met, in order, each with the number of links that could still be
  followed below it;
* `Steps`: reachable over a number of links; `steps_of_mem_search` is soundness, and
  `search_nodup` says that nothing is met twice;
* `paths`, `pathsFrom`: the simple paths, in the order of the search;
* `Unshadowed`: nothing that can be followed has its first path at the last depth and
  another one that is shorter;
* `search_complete`: then everything within the depth is met;
* `unshadowed_iff`: it holds exactly if nothing was cut off that has a shorter path.
-/

namespace Search

variable {α : Type*}

/-! ### The search -/

/-- What was met. -/
def names (met : List (α × ℕ)) : List α := met.map Prod.fst

@[simp] lemma mem_names {met : List (α × ℕ)} {x : α} : x ∈ names met ↔ ∃ r, (x, r) ∈ met := by
  simp [names]

lemma names_append (met met' : List (α × ℕ)) : names (met ++ met') = names met ++ names met' :=
  List.map_append

variable [DecidableEq α]

/-- What is met below `x` over at most `left` links, after what was met before. -/
def search (next : α → List α) : ℕ → α → List (α × ℕ) → List (α × ℕ)
  | 0, _, met => met
  | left + 1, x, met =>
      (next x).foldl (fun met y =>
        if y ∈ names met then met else search next left y (met ++ [(y, left)])) met

variable {next : α → List α}

/-- One successor. -/
def visit (next : α → List α) (left : ℕ) (met : List (α × ℕ)) (y : α) : List (α × ℕ) :=
  if y ∈ names met then met else search next left y (met ++ [(y, left)])

lemma search_succ (left : ℕ) (x : α) (met : List (α × ℕ)) :
    search next (left + 1) x met = (next x).foldl (visit next left) met := rfl

/-- What a step of the search keeps, the search keeps. -/
lemma search_induction {I : List (α × ℕ) → Prop} {P : ℕ → α → Prop}
    (henter : ∀ left x y met, P (left + 1) x → y ∈ next x → y ∉ names met → I met →
      P left y ∧ I (met ++ [(y, left)])) :
    ∀ left x met, P left x → I met → I (search next left x met) := by
  intro left
  induction left with
  | zero => exact fun _ _ _ h => h
  | succ left ih =>
      intro x met hx hmet
      rw [search_succ]
      refine List.foldlRecOn (next x) (visit next left) hmet fun met hmet y hy => ?_
      rw [visit]
      split_ifs with hin
      · exact hmet
      · obtain ⟨hP, hI⟩ := henter left x y met hx hy hin hmet
        exact ih y _ hP hI

/-- Nothing is met twice. -/
lemma search_nodup (left : ℕ) (x : α) {met : List (α × ℕ)} (h : (names met).Nodup) :
    (names (search next left x met)).Nodup := by
  refine search_induction (I := fun met => (names met).Nodup) (P := fun _ _ => True) ?_
    left x met trivial h
  intro left x y met _ _ hy hmet
  refine ⟨trivial, ?_⟩
  rw [names_append]
  exact hmet.append (List.nodup_singleton y) (by simpa [names] using hy)

/-- What was met stays. -/
lemma search_extends (left : ℕ) (x : α) (met : List (α × ℕ)) : met <+: search next left x met := by
  refine search_induction (I := fun met' => met <+: met') (P := fun _ _ => True) ?_
    left x met trivial (List.prefix_refl met)
  exact fun left x y met' _ _ _ hmet => ⟨trivial, hmet.trans (List.prefix_append _ _)⟩

/-! ### Soundness -/

/-- `y` is reached from `x` over `k` links. -/
inductive Steps (next : α → List α) (x : α) : ℕ → α → Prop
  | refl : Steps next x 0 x
  | step {k : ℕ} {y z : α} (h : Steps next x k y) (hz : z ∈ next y) : Steps next x (k + 1) z

/-- What is met is reached over as many links as its depth says. -/
lemma steps_of_mem_search (n : ℕ) (x : α) :
    ∀ y r, (y, r) ∈ search next n x [(x, n)] → ∃ k, k + r = n ∧ Steps next x k y := by
  refine search_induction
    (I := fun met => ∀ y r, (y, r) ∈ met → ∃ k, k + r = n ∧ Steps next x k y)
    (P := fun left y => ∃ k, k + left = n ∧ Steps next x k y) ?_ n x _ ⟨0, by omega, .refl⟩ ?_
  · rintro left y z met ⟨k, hk, hsteps⟩ hz - hmet
    have hnext : ∃ k, k + left = n ∧ Steps next x k z := ⟨k + 1, by omega, hsteps.step hz⟩
    refine ⟨hnext, fun w r hw => ?_⟩
    rcases List.mem_append.mp hw with hw | hw
    · exact hmet w r hw
    · obtain ⟨rfl, rfl⟩ := Prod.mk.inj (List.mem_singleton.mp hw)
      exact hnext
  · intro y r hy
    obtain ⟨rfl, rfl⟩ := Prod.mk.inj (List.mem_singleton.mp hy)
    exact ⟨0, by omega, .refl⟩

/-! ### Simple paths -/

/-- A path from `x` through nothing twice, its last node first. -/
inductive IsPath (next : α → List α) (x : α) : List α → Prop
  | single : IsPath next x [x]
  | cons {y z : α} {rest : List α} (h : IsPath next x (y :: rest)) (hz : z ∈ next y)
      (hnew : z ∉ y :: rest) : IsPath next x (z :: y :: rest)

/-- What goes on from a path over one more link and then over at most `left`. -/
def branch (paths : List α → List (List α)) (path : List α) (y : α) : List (List α) :=
  if y ∈ path then [] else (y :: path) :: paths (y :: path)

/-- The paths that go on from a path over at most `left` links, in the order of the search. -/
def paths (next : α → List α) : ℕ → List α → List (List α)
  | _, [] => []
  | 0, _ :: _ => []
  | left + 1, x :: above => (next x).flatMap (branch (paths next left) (x :: above))

/-- The paths from `x` over at most `n` links. -/
def pathsFrom (next : α → List α) (n : ℕ) (x : α) : List (List α) := [x] :: paths next n [x]

lemma paths_succ (left : ℕ) (x : α) (above : List α) :
    paths next (left + 1) (x :: above) =
      (next x).flatMap (branch (paths next left) (x :: above)) := rfl

/-- What is listed is a path that is not too long. -/
lemma isPath_of_mem_paths {x : α} :
    ∀ (left : ℕ) (path : List α), IsPath next x path →
      ∀ p ∈ paths next left path, IsPath next x p ∧ p.length ≤ path.length + left := by
  intro left
  induction left with
  | zero =>
      intro path hpath p hp
      cases hpath <;> exact absurd hp List.not_mem_nil
  | succ left ih =>
      rintro (_ | ⟨y, above⟩) hpath p hp
      · exact absurd hp List.not_mem_nil
      · rw [paths_succ, List.mem_flatMap] at hp
        obtain ⟨z, hz, hp⟩ := hp
        rw [branch] at hp
        split_ifs at hp with hnew
        · exact absurd hp List.not_mem_nil
        · have hlonger := hpath.cons hz hnew
          rcases List.mem_cons.mp hp with rfl | hp
          · exact ⟨hlonger, by simp only [List.length_cons]; omega⟩
          · obtain ⟨hp, hlength⟩ := ih _ hlonger p hp
            exact ⟨hp, by simp only [List.length_cons] at hlength ⊢; omega⟩

/-- A path that is listed goes on to one that is listed. -/
lemma mem_paths_of_cons {z y : α} {rest : List α} (hz : z ∈ next y) (hnew : z ∉ y :: rest) :
    ∀ (left : ℕ) (path : List α), y :: rest ∈ path :: paths next left path →
      (y :: rest).length < path.length + left → z :: y :: rest ∈ paths next left path := by
  intro left
  induction left with
  | zero =>
      rintro (_ | ⟨x, above⟩) hmem hlength
      · exact absurd hmem (by simp [paths])
      · rw [paths, List.mem_singleton] at hmem
        rw [hmem] at hlength
        exact absurd hlength (by omega)
  | succ left ih =>
      rintro (_ | ⟨x, above⟩) hmem hlength
      · exact absurd hmem (by simp [paths])
      · rw [paths_succ, List.mem_flatMap]
        rcases List.mem_cons.mp hmem with heq | hmem
        · obtain ⟨rfl, rfl⟩ := List.cons.inj heq
          refine ⟨z, hz, ?_⟩
          rw [branch, if_neg hnew]
          exact List.mem_cons_self
        · rw [paths_succ, List.mem_flatMap] at hmem
          obtain ⟨w, hw, hmem⟩ := hmem
          refine ⟨w, hw, ?_⟩
          rw [branch] at hmem ⊢
          split_ifs at hmem ⊢ with hin
          · exact absurd hmem List.not_mem_nil
          · refine List.mem_cons_of_mem _ (ih _ hmem ?_)
            simp only [List.length_cons] at hlength ⊢
            omega

/-- The paths over at most `n` links are listed. -/
lemma mem_pathsFrom_iff {n : ℕ} {x : α} {p : List α} :
    p ∈ pathsFrom next n x ↔ IsPath next x p ∧ p.length ≤ n + 1 := by
  constructor
  · intro h
    rcases List.mem_cons.mp h with rfl | h
    · exact ⟨.single, by simp⟩
    · obtain ⟨hp, hlength⟩ := isPath_of_mem_paths n [x] .single p h
      exact ⟨hp, by simp only [List.length_singleton] at hlength; omega⟩
  · rintro ⟨hp, hlength⟩
    induction hp with
    | single => exact List.mem_cons_self
    | @cons y z rest _ hz hnew ih =>
        simp only [List.length_cons] at hlength ih
        refine List.mem_cons_of_mem _ (mem_paths_of_cons hz hnew n [x] (ih (by omega)) ?_)
        simp only [List.length_cons, List.length_nil]
        omega

omit [DecidableEq α] in
/-- Part of a path is a path. -/
lemma IsPath.suffix {x y : α} {p : List α} (h : IsPath next x p) (hy : y ∈ p) :
    ∃ rest, IsPath next x (y :: rest) ∧ (y :: rest).length ≤ p.length := by
  induction h with
  | single =>
      rw [List.mem_singleton] at hy
      exact ⟨[], hy ▸ .single, le_rfl⟩
  | @cons w z rest hpath hz hnew ih =>
      rcases List.mem_cons.mp hy with rfl | hy
      · exact ⟨_, hpath.cons hz hnew, le_rfl⟩
      · obtain ⟨rest', hrest, hlength⟩ := ih hy
        exact ⟨rest', hrest, hlength.trans (by simp)⟩

/-- What is reached is reached through nothing twice. -/
lemma Steps.isPath {x y : α} {k : ℕ} (h : Steps next x k y) :
    ∃ rest, IsPath next x (y :: rest) ∧ rest.length ≤ k := by
  induction h with
  | refl => exact ⟨[], .single, le_rfl⟩
  | @step k y z _ hz ih =>
      obtain ⟨rest, hpath, hlength⟩ := ih
      by_cases hin : z ∈ y :: rest
      · obtain ⟨rest', hpath', hlength'⟩ := hpath.suffix hin
        simp only [List.length_cons] at hlength'
        exact ⟨rest', hpath', by omega⟩
      · exact ⟨y :: rest, hpath.cons hz hin, by simp only [List.length_cons]; omega⟩

/-! ### Completeness -/

/-- The first path to `z`. -/
def firstPath (z : α) (ps : List (List α)) : Option (List α) := ps.find? fun p => p.head? = some z

lemma firstPath_append {z : α} {ps : List (List α)} {p : List α} (h : firstPath z ps = some p)
    (ps' : List (List α)) : firstPath z (ps ++ ps') = some p := by
  rw [firstPath, List.find?_append, ← firstPath, h]
  rfl

/-- Nothing that can be followed has a first path over `n` links and another over fewer. -/
def Unshadowed (next : α → List α) (n : ℕ) (x : α) : Prop :=
  ∀ z first rest, next z ≠ [] → firstPath z (pathsFrom next n x) = some (z :: first) →
    z :: rest ∈ pathsFrom next n x → first.length = n → rest.length = n

/-- Nothing that was met by its first path, at the last depth, and that can be followed has a
shorter path. -/
def CutsOnlyFar (next : α → List α) (n : ℕ) (x : α) (met : List (α × ℕ)) : Prop :=
  ∀ z, (z, 0) ∈ met → next z ≠ [] →
    (∃ first, firstPath z (pathsFrom next n x) = some (z :: first) ∧ first.length = n) →
      ∀ rest, z :: rest ∈ pathsFrom next n x → rest.length = n

lemma Unshadowed.cutsOnlyFar {n : ℕ} {x : α} (h : Unshadowed next n x) (met : List (α × ℕ)) :
    CutsOnlyFar next n x met :=
  fun z _ hz ⟨first, hfirst, hlength⟩ rest hrest => h z first rest hz hfirst hrest hlength

lemma CutsOnlyFar.mono {n : ℕ} {x : α} {met met' : List (α × ℕ)} (h : CutsOnlyFar next n x met')
    (hsub : met ⊆ met') : CutsOnlyFar next n x met :=
  fun z hz => h z (hsub hz)

/-- Where the search is: the paths before the current one end in what was met, what was left
behind before the last depth has its successors met, and each node was met by its first
path. -/
structure Reached (next : α → List α) (n : ℕ) (before : List (List α)) (path : List α)
    (met : List (α × ℕ)) : Prop where
  ends : ∀ y rest, y :: rest ∈ before → y ∈ names met
  closed : ∀ y r, (y, r) ∈ met → y ∉ path → r ≠ 0 → ∀ z ∈ next y, z ∈ names met
  first : ∀ y r, (y, r) ∈ met →
    ∃ rest, firstPath y before = some (y :: rest) ∧ rest.length + r = n
  onPath : ∀ y ∈ path, y ∈ names met

namespace Reached

variable {n left : ℕ} {x y : α} {before after : List (List α)} {path : List α}
  {met : List (α × ℕ)}

/-- Below what was met, everything within the depth was met. -/
lemma paths_met (h : Reached next n before path met) (hcut : CutsOnlyFar next n x met)
    (hall : pathsFrom next n x = before ++ after) :
    ∀ (left : ℕ) (y : α) (above : List α), path ⊆ above → IsPath next x (y :: above) →
      above.length + left ≤ n → y ∉ above → y ∈ names met →
      ∀ z rest, z :: rest ∈ paths next left (y :: above) → z ∈ names met := by
  intro left
  induction left with
  | zero => exact fun y above _ _ _ _ _ z rest hz => absurd hz List.not_mem_nil
  | succ left ih =>
      intro y above hsub hpath hlength hnot hy z rest hz
      rw [paths_succ, List.mem_flatMap] at hz
      obtain ⟨w, hw, hz⟩ := hz
      rw [branch] at hz
      split_ifs at hz with hnew
      · exact absurd hz List.not_mem_nil
      · have hmet : w ∈ names met := by
          obtain ⟨r, hr⟩ := mem_names.mp hy
          by_cases hzero : r = 0
          · -- `y` would have been cut off although this path to it is shorter
            subst hzero
            obtain ⟨first, hfirst, hn⟩ := h.first y 0 hr
            have hfar := hcut y hr (List.ne_nil_of_mem hw)
              ⟨first, by rw [hall]; exact firstPath_append hfirst after, hn⟩ above
              (mem_pathsFrom_iff.mpr ⟨hpath, by simp only [List.length_cons]; omega⟩)
            omega
          · exact h.closed y r hr (fun hin => hnot (hsub hin)) hzero w hw
        rcases List.mem_cons.mp hz with heq | hz
        · exact (List.cons.inj heq).1 ▸ hmet
        · refine ih w (y :: above) (fun v hv => List.mem_cons_of_mem y (hsub hv))
            (hpath.cons hw hnew) ?_ hnew hmet z rest hz
          simp only [List.length_cons]
          omega

/-- More paths that end in what was met. -/
lemma append (h : Reached next n before path met) {more : List (List α)}
    (hmore : ∀ z rest, z :: rest ∈ more → z ∈ names met) :
    Reached next n (before ++ more) path met where
  ends z rest hz := (List.mem_append.mp hz).elim (h.ends z rest) (hmore z rest)
  closed := h.closed
  first z r hz := by
    obtain ⟨rest, hfirst, hlength⟩ := h.first z r hz
    exact ⟨rest, firstPath_append hfirst more, hlength⟩
  onPath := h.onPath

/-- A successor that was met before is passed over. -/
lemma skip {above : List α} (h : Reached next n before (x :: above) met) {x₀ : α}
    (hcut : CutsOnlyFar next n x₀ met) (hall : pathsFrom next n x₀ = before ++ after)
    (hpath : IsPath next x₀ (x :: above)) (hlength : above.length + (left + 1) = n)
    (hy : y ∈ next x) (hmet : y ∈ names met) :
    Reached next n (before ++ branch (paths next left) (x :: above) y) (x :: above) met := by
  refine h.append fun z rest hz => ?_
  rw [branch] at hz
  split_ifs at hz with hin
  · exact absurd hz List.not_mem_nil
  · rcases List.mem_cons.mp hz with heq | hz
    · exact (List.cons.inj heq).1 ▸ hmet
    · refine h.paths_met hcut hall left y (x :: above) (List.Subset.refl _)
        (hpath.cons hy hin) ?_ hin hmet z rest hz
      simp only [List.length_cons]
      omega

/-- A successor that is new is entered. -/
lemma enter {above : List α} (h : Reached next n before (x :: above) met)
    (hlength : above.length + (left + 1) = n) (hmet : y ∉ names met) :
    Reached next n (before ++ [y :: x :: above]) (y :: x :: above) (met ++ [(y, left)]) := by
  have hold : ∀ z ∈ names met, z ∈ names (met ++ [(y, left)]) := fun z hz => by
    rw [names_append]
    exact List.mem_append_left _ hz
  have hnew : y ∈ names (met ++ [(y, left)]) := by
    rw [names_append]
    exact List.mem_append_right _ List.mem_cons_self
  refine ⟨fun z rest hz => ?_, fun z r hz hout hr w hw => ?_, fun z r hz => ?_, fun z hz => ?_⟩
  · rcases List.mem_append.mp hz with hz | hz
    · exact hold z (h.ends z rest hz)
    · exact (List.cons.inj (List.mem_singleton.mp hz)).1 ▸ hnew
  · rw [List.mem_cons, not_or] at hout
    rcases List.mem_append.mp hz with hz | hz
    · exact hold w (h.closed z r hz hout.2 hr w hw)
    · exact absurd (Prod.mk.inj (List.mem_singleton.mp hz)).1 hout.1
  · rcases List.mem_append.mp hz with hz | hz
    · obtain ⟨rest, hfirst, hn⟩ := h.first z r hz
      exact ⟨rest, firstPath_append hfirst _, hn⟩
    · obtain ⟨rfl, rfl⟩ := Prod.mk.inj (List.mem_singleton.mp hz)
      refine ⟨x :: above, ?_, by simp only [List.length_cons]; omega⟩
      -- no path before this one ends in it
      have hnone : firstPath z before = none := by
        rw [firstPath, List.find?_eq_none]
        rintro (_ | ⟨w, rest⟩) hw hhead
        · exact absurd hhead (by simp)
        · have hwz : w = z := by simpa using hhead
          exact hmet (hwz ▸ h.ends w rest hw)
      rw [firstPath, List.find?_append, ← firstPath, hnone]
      simp
  · rcases List.mem_cons.mp hz with rfl | hz
    · exact hnew
    · exact hold z (h.onPath z hz)

/-- Back from a successor. -/
lemma leave {above : List α} (h : Reached next n before (y :: x :: above) met)
    (hentry : ∀ r, (y, r) ∈ met → r = left) (hnext : left ≠ 0 → ∀ z ∈ next y, z ∈ names met) :
    Reached next n before (x :: above) met where
  ends := h.ends
  closed z r hz hout hr := by
    by_cases hzy : z = y
    · subst hzy
      exact hnext (hentry r hz ▸ hr)
    · exact h.closed z r hz (by simp [hzy, hout]) hr
  first := h.first
  onPath z hz := h.onPath z (List.mem_cons_of_mem y hz)

end Reached

lemma subset_visit (left : ℕ) (met : List (α × ℕ)) (y : α) : met ⊆ visit next left met y := by
  rw [visit]
  split_ifs
  · exact List.Subset.refl _
  · exact fun e he => (search_extends left y _).subset (List.mem_append_left _ he)

lemma subset_foldl_visit (left : ℕ) (ys : List α) (met : List (α × ℕ)) :
    met ⊆ ys.foldl (visit next left) met := by
  induction ys generalizing met with
  | nil => exact List.Subset.refl _
  | cons y ys ih => exact fun e he => ih _ (subset_visit left met y he)

/-- The search over `left` links passes all paths that go on from its own, and meets all
successors. -/
def Passes (next : α → List α) (n : ℕ) (x₀ : α) (left : ℕ) : Prop :=
  ∀ (x : α) (above : List α) (met : List (α × ℕ)) (before after : List (List α)),
    pathsFrom next n x₀ = before ++ (paths next left (x :: above) ++ after) →
    IsPath next x₀ (x :: above) → above.length + left = n →
    CutsOnlyFar next n x₀ (search next left x met) →
    Reached next n before (x :: above) met →
      Reached next n (before ++ paths next left (x :: above)) (x :: above)
        (search next left x met) ∧
      (left ≠ 0 → ∀ y ∈ next x, y ∈ names (search next left x met))

section Passing

variable {n left : ℕ} {x₀ x : α} {above : List α}

/-- One successor. -/
lemma Passes.visit (h : Passes next n x₀ left) (hpath : IsPath next x₀ (x :: above))
    (hlength : above.length + (left + 1) = n) {y : α} (hy : y ∈ next x) {met : List (α × ℕ)}
    {before after : List (List α)}
    (hall : pathsFrom next n x₀ = before ++ (branch (paths next left) (x :: above) y ++ after))
    (hcut : CutsOnlyFar next n x₀ (visit next left met y))
    (hmet : Reached next n before (x :: above) met) :
    Reached next n (before ++ branch (paths next left) (x :: above) y) (x :: above)
        (visit next left met y) ∧
      y ∈ names (visit next left met y) := by
  rw [Search.visit] at hcut ⊢
  split_ifs at hcut ⊢ with hin
  · exact ⟨hmet.skip hcut hall hpath hlength hy hin, hin⟩
  · have hnew : y ∉ x :: above := fun hon => hin (hmet.onPath y hon)
    rw [branch, if_neg hnew] at hall ⊢
    have henter := hmet.enter hlength hin
    obtain ⟨hreached, hnext⟩ := h y (x :: above) (met ++ [(y, left)])
      (before ++ [y :: x :: above]) after (by rw [hall]; simp) (hpath.cons hy hnew)
      (by simp only [List.length_cons]; omega) hcut henter
    -- its first path is the one it was entered by, so there is no other entry
    have hentry : ∀ r, (y, r) ∈ search next left y (met ++ [(y, left)]) → r = left := by
      intro r hr
      obtain ⟨rest, hfirst, hrest⟩ := hreached.first y r hr
      obtain ⟨rest', hfirst', hrest'⟩ := henter.first y left (by simp)
      rw [firstPath_append hfirst' _, Option.some.injEq, List.cons.injEq] at hfirst
      rw [← hfirst.2] at hrest
      omega
    refine ⟨?_, hreached.onPath y List.mem_cons_self⟩
    have hleave := hreached.leave hentry hnext
    rwa [List.append_assoc, List.singleton_append] at hleave

/-- Some of the successors. -/
lemma Passes.foldl (h : Passes next n x₀ left) (hpath : IsPath next x₀ (x :: above))
    (hlength : above.length + (left + 1) = n) :
    ∀ (ys : List α), ys ⊆ next x → ∀ (met : List (α × ℕ)) (before after : List (List α)),
      pathsFrom next n x₀ =
        before ++ (ys.flatMap (branch (paths next left) (x :: above)) ++ after) →
      CutsOnlyFar next n x₀ (ys.foldl (Search.visit next left) met) →
      Reached next n before (x :: above) met →
        Reached next n (before ++ ys.flatMap (branch (paths next left) (x :: above)))
          (x :: above) (ys.foldl (Search.visit next left) met) ∧
        ∀ y ∈ ys, y ∈ names (ys.foldl (Search.visit next left) met) := by
  intro ys
  induction ys with
  | nil =>
      intro _ met before after _ _ hmet
      rw [List.flatMap_nil, List.append_nil]
      exact ⟨hmet, fun y hy => absurd hy List.not_mem_nil⟩
  | cons y ys ih =>
      intro hsub met before after hall hcut hmet
      rw [List.flatMap_cons, List.append_assoc] at hall
      rw [List.foldl_cons] at hcut ⊢
      have hrest : Search.visit next left met y ⊆
          ys.foldl (Search.visit next left) (Search.visit next left met y) :=
        subset_foldl_visit left ys _
      obtain ⟨hone, hy⟩ := h.visit hpath hlength (hsub List.mem_cons_self) hall
        (hcut.mono hrest) hmet
      obtain ⟨hys, hall'⟩ := ih (fun z hz => hsub (List.mem_cons_of_mem y hz)) _ _ after
        (by rw [hall, List.append_assoc]) hcut hone
      rw [List.append_assoc] at hys
      refine ⟨hys, fun z hz => ?_⟩
      rcases List.mem_cons.mp hz with rfl | hz
      · obtain ⟨r, hr⟩ := mem_names.mp hy
        exact mem_names.mpr ⟨r, hrest hr⟩
      · exact hall' z hz

end Passing

theorem search_passes (n : ℕ) (x₀ : α) (left : ℕ) : Passes next n x₀ left := by
  induction left with
  | zero =>
      intro x above met before after _ _ _ _ hmet
      rw [paths, List.append_nil]
      exact ⟨hmet, fun hzero => absurd rfl hzero⟩
  | succ left ih =>
      intro x above met before after hall hpath hlength hcut hmet
      obtain ⟨hreached, hnext⟩ := ih.foldl hpath hlength (next x) (List.Subset.refl _) met before
        after hall hcut hmet
      exact ⟨hreached, fun _ => hnext⟩

/-- The whole search. -/
lemma reached_search {n : ℕ} {x : α} (hcut : CutsOnlyFar next n x (search next n x [(x, n)])) :
    Reached next n (pathsFrom next n x) [x] (search next n x [(x, n)]) := by
  have hstart : Reached next n [[x]] [x] [(x, n)] := by
    refine ⟨fun y rest hy => ?_, fun y r hy hout => ?_, fun y r hy => ?_, fun y hy => ?_⟩
    · rw [List.mem_singleton, List.cons.injEq] at hy
      exact mem_names.mpr ⟨n, by simp [hy.1]⟩
    · obtain ⟨rfl, -⟩ := Prod.mk.inj (List.mem_singleton.mp hy)
      exact absurd List.mem_cons_self hout
    · obtain ⟨rfl, rfl⟩ := Prod.mk.inj (List.mem_singleton.mp hy)
      exact ⟨[], by simp [firstPath], by simp⟩
    · rw [List.mem_singleton] at hy
      exact mem_names.mpr ⟨n, by simp [hy]⟩
  have hpasses : Passes next n x n := search_passes n x n
  exact (hpasses x [] [(x, n)] [[x]] [] (by simp [pathsFrom]) .single (by simp) hcut hstart).1

/-- **Completeness**: where nothing is shadowed, everything within the depth is met. -/
theorem search_complete {n k : ℕ} {x y : α} (h : Unshadowed next n x) (hk : k ≤ n)
    (hy : Steps next x k y) : y ∈ names (search next n x [(x, n)]) := by
  obtain ⟨rest, hpath, hlength⟩ := hy.isPath
  refine (reached_search (h.cutsOnlyFar _)).ends y rest (mem_pathsFrom_iff.mpr ⟨hpath, ?_⟩)
  simp only [List.length_cons]
  omega

/-- **Nothing is shadowed** exactly if nothing was cut off that can be followed and has a
shorter path. -/
theorem unshadowed_iff (n : ℕ) (x : α) :
    Unshadowed next n x ↔
      ∀ z, (z, 0) ∈ search next n x [(x, n)] → next z ≠ [] →
        ∀ rest, z :: rest ∈ pathsFrom next n x → rest.length = n := by
  constructor
  · intro h z hz hnext rest hrest
    obtain ⟨first, hfirst, hlength⟩ := (reached_search (h.cutsOnlyFar _)).first z 0 hz
    exact h z first rest hnext hfirst hrest hlength
  · intro hcut z first rest hnext hfirst hrest hlength
    have hreached : Reached next n (pathsFrom next n x) [x] (search next n x [(x, n)]) :=
      reached_search fun z hz hnext _ => hcut z hz hnext
    obtain ⟨r, hr⟩ := mem_names.mp (hreached.ends z rest hrest)
    obtain ⟨first', hfirst', hr'⟩ := hreached.first z r hr
    rw [hfirst, Option.some.injEq, List.cons.injEq] at hfirst'
    have hzero : r = 0 := by
      rw [← hfirst'.2] at hr'
      omega
    exact hcut z (hzero ▸ hr) hnext rest hrest

end Search
