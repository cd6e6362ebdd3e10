import Mathlib.Tactic

/-!
The file behind `runtime.events_path`: `EventLog` of the daemon, with the two files it keeps.

* `Log`: the handle of the daemon, the file behind it, and the rotated file; `Log.append`
  and `Log.rotate` are the operations, `Event` adds what another process may do;
* `Written`: what an append can do, and `append_written` that it does nothing else;
* `Keeps`: the invariant, a history of lines that the two files hold in whole pieces;
* `event_log_whole_lines`: the main result, over every run.

The lengths are numbers: the `u64` of the source holds the length of every file, and
`Keeps.len_le` bounds the cached one by what was configured or appended.
-/

namespace SkylineSpeeder.EventLog

/-! ### The log -/

/-- `struct EventLog`, and the files it works on.  `file` is what is behind the handle;
`linked` says that `path` still names it. -/
structure Log where
  maxBytes : ℕ
  len : ℕ
  file : List UInt8
  linked : Bool
  rotated : Option (List UInt8)

/-- What the file system answers to a rename of a file that is there. -/
inductive Rename where
  | done
  | failed
  deriving DecidableEq

/-- `EventLog::open` on a file that holds `content`. -/
def Log.open (maxBytes : ℕ) (content : List UInt8) : Log :=
  { maxBytes := maxBytes, len := content.length, file := content, linked := true, rotated := none }

/-- What a reader of `path` sees. -/
def Log.live (s : Log) : List UInt8 := if s.linked then s.file else []

/-- `EventLog::rotate`; `false` is an error.  A file that is not there any more cannot be
renamed, and is replaced all the same. -/
def Log.rotate (s : Log) (rename : Rename) : Bool × Log :=
  if s.linked then
    match rename with
    | .done => (true, { s with rotated := some s.file, file := [], len := 0 })
    | .failed => (false, s)
  else (true, { s with file := [], linked := true, len := 0 })

/-- `self.file.write_all(line)?; self.len += line_len`. -/
def Log.write (s : Log) (line : List UInt8) : Log :=
  { s with file := s.file ++ line, len := s.len + line.length }

/-- `EventLog::append`; `false` is an error. -/
def Log.append (s : Log) (line : List UInt8) (rename : Rename) : Bool × Log :=
  if s.len + line.length > s.maxBytes then
    let s := { s with len := s.file.length }
    if s.len > 0 ∧ s.len + line.length > s.maxBytes then
      match s.rotate rename with
      | (false, s) => (false, s)
      | (true, s) => (true, s.write line)
    else (true, s.write line)
  else (true, s.write line)

/-- A line of the daemon, or another process that empties or deletes the live file. -/
inductive Event where
  | append (line : List UInt8) (rename : Rename)
  | truncate
  | delete

/-- An event, and the line it has added, if any. -/
def step (s : Log) : Event → Log × List (List UInt8)
  | .append line rename =>
      match s.append line rename with
      | (true, s) => (s, [line])
      | (false, s) => (s, [])
  | .truncate => (if s.linked then { s with file := [] } else s, [])
  | .delete => ({ s with linked := false }, [])

/-- A run, and the lines it has added. -/
def run (s : Log) : List Event → Log × List (List UInt8)
  | [] => (s, [])
  | e :: es =>
      let (s, line) := step s e
      let (s, lines) := run s es
      (s, line ++ lines)

/-! ### What an append does -/

/-- The ways of an append: it writes the line to the file as it is, to a new file, or, with
a rename that failed, not at all. -/
inductive Written (s : Log) (line : List UInt8) (rename : Rename) : Bool × Log → Prop
  | fits (h : s.len + line.length ≤ s.maxBytes) : Written s line rename (true, s.write line)
  | reread (h : s.file = [] ∨ s.file.length + line.length ≤ s.maxBytes) :
      Written s line rename (true, { s with len := s.file.length }.write line)
  | rotated (hlinked : s.linked = true) :
      Written s line rename
        (true, { s with rotated := some s.file, file := [], len := 0 }.write line)
  | replaced (hlinked : s.linked = false) :
      Written s line rename (true, { s with file := [], linked := true, len := 0 }.write line)
  | refused (hlinked : s.linked = true) (hrename : rename = .failed) :
      Written s line rename (false, { s with len := s.file.length })

lemma append_written (s : Log) (line : List UInt8) (rename : Rename) :
    Written s line rename (s.append line rename) := by
  rw [Log.append]
  by_cases hover : s.len + line.length > s.maxBytes
  swap
  · rw [if_neg hover]
    exact .fits (by omega)
  rw [if_pos hover]
  dsimp only
  by_cases hfull : s.file.length > 0 ∧ s.file.length + line.length > s.maxBytes
  swap
  · rw [if_neg hfull]
    refine .reread ?_
    rw [← List.length_eq_zero_iff]
    omega
  rw [if_pos hfull]
  simp only [Log.rotate]
  by_cases hlinked : s.linked = true
  · rw [if_pos hlinked]
    cases rename with
    | done => exact .rotated hlinked
    | failed => exact .refused hlinked rfl
  · rw [if_neg hlinked]
    exact .replaced (by simpa using hlinked)

/-- A line that is accepted stands at the end of the live file: behind what the file held, or
alone after that was rotated away. -/
lemma Written.live {s : Log} {line : List UInt8} {rename : Rename} {out : Bool × Log}
    (h : Written s line rename out) (hlinked : s.linked = true) (hout : out.1 = true) :
    (out.2.live = s.live ++ line ∧ out.2.rotated = s.rotated) ∨
      (out.2.live = line ∧ out.2.rotated = some s.live) := by
  have hlive : s.live = s.file := if_pos hlinked
  cases h with
  | fits | reread =>
      refine .inl ⟨?_, rfl⟩
      rw [hlive]
      exact if_pos hlinked
  | rotated =>
      refine .inr ⟨?_, by rw [hlive]; rfl⟩
      exact if_pos hlinked
  | replaced hnot =>
      -- the handle's file was deleted
      rw [hlinked] at hnot
      cases hnot
  | refused => cases hout

/-! ### The invariant -/

/-- The longest of some lines. -/
def longest (lines : List (List UInt8)) : ℕ := (lines.map List.length).foldr max 0

lemma longest_append (lines lines' : List (List UInt8)) :
    longest (lines ++ lines') = max (longest lines) (longest lines') := by
  induction lines with
  | nil => simp [longest]
  | cons line lines ih => simp_all [longest, max_assoc]

/-- What the size of a file is bounded by: the cap, or a piece that was written at once. -/
def cap (maxBytes : ℕ) (pieces : List (List UInt8)) : ℕ := max maxBytes (longest pieces)

lemma cap_append (maxBytes : ℕ) (pieces : List (List UInt8)) (line : List UInt8) :
    cap maxBytes (pieces ++ [line]) = max (cap maxBytes pieces) line.length := by
  have hline : longest [line] = line.length := by simp [longest]
  rw [cap, cap, longest_append, hline, max_assoc]

/-- `rotated` and `file` hold pieces of the history, in its order, and `R` says how the pieces
lie in it. -/
structure Keeps (R : List (List UInt8) → List (List UInt8) → Prop) (maxBytes : ℕ)
    (pieces : List (List UInt8)) (s : Log) (old new : List (List UInt8)) : Prop where
  maxBytes_eq : s.maxBytes = maxBytes
  len_ge : s.file.length ≤ s.len
  len_le : s.len ≤ cap maxBytes pieces
  rotated_le : (s.rotated.getD []).length ≤ cap maxBytes pieces
  rotated_eq : s.rotated.getD [] = old.flatten
  file_eq : s.file = new.flatten
  lies : R (old ++ new) pieces

section Step

variable {R : List (List UInt8) → List (List UInt8) → Prop} {maxBytes : ℕ}
  {pieces old new : List (List UInt8)} {s : Log} {line : List UInt8} {rename : Rename}
  {out : Bool × Log}

/-- A line that was written to a file that holds `new'`. -/
lemma Keeps.write {new' : List (List UInt8)} {t : Log} (hmax : t.maxBytes = maxBytes)
    (hge : t.file.length ≤ t.len)
    (hle : t.len + line.length ≤ max (cap maxBytes pieces) line.length)
    (hrotated : (t.rotated.getD []).length ≤ cap maxBytes pieces)
    (hold : t.rotated.getD [] = old.flatten) (hnew : t.file = new'.flatten)
    (hlies : R (old ++ (new' ++ [line])) (pieces ++ [line])) :
    Keeps R maxBytes (pieces ++ [line]) (t.write line) old (new' ++ [line]) := by
  refine ⟨hmax, ?_, ?_, ?_, hold, ?_, hlies⟩
  · rw [Log.write, List.length_append]
    exact Nat.add_le_add_right hge _
  · rw [cap_append]
    exact hle
  · rw [cap_append]
    exact hrotated.trans (le_max_left _ _)
  · rw [Log.write, List.flatten_append, hnew, List.flatten_singleton]

/-- **An append that writes** keeps the invariant, if the relation allows one piece more at
the end and the older pieces to go. -/
lemma Keeps.append (h : Keeps R maxBytes pieces s old new) (hwritten : Written s line rename out)
    (hout : out.1 = true)
    (hsnoc : ∀ {ps : List (List UInt8)}, R ps pieces → R (ps ++ [line]) (pieces ++ [line]))
    (hdrop : R new pieces) (hlost : s.linked = false → R old pieces) :
    ∃ old' new', Keeps R maxBytes (pieces ++ [line]) out.2 old' new' := by
  have hmax := h.maxBytes_eq
  have hge := h.len_ge
  have hle := h.len_le
  have hcap : maxBytes ≤ cap maxBytes pieces := le_max_left _ _
  have hlies : R (old ++ (new ++ [line])) (pieces ++ [line]) := by
    rw [← List.append_assoc]
    exact hsnoc h.lies
  cases hwritten with
  | fits hfits =>
      exact ⟨old, new ++ [line],
        .write hmax hge (by omega) h.rotated_le h.rotated_eq h.file_eq hlies⟩
  | reread hreread =>
      have hroom : s.file.length + line.length ≤ max (cap maxBytes pieces) line.length := by
        rcases hreread with hempty | hroom
        · rw [hempty, List.length_nil]
          omega
        · omega
      exact ⟨old, new ++ [line], .write hmax le_rfl hroom h.rotated_le h.rotated_eq h.file_eq hlies⟩
  | rotated hlinked =>
      refine ⟨new, [] ++ [line], .write hmax le_rfl ?_ ?_ h.file_eq rfl (hsnoc hdrop)⟩
      · simp
      · exact hge.trans hle
  | replaced hlinked =>
      refine ⟨old, [] ++ [line], .write hmax le_rfl ?_ h.rotated_le h.rotated_eq rfl ?_⟩
      · simp
      · exact hsnoc (hlost hlinked)
  | refused hlinked hrename => cases hout

/-- An append that does not write. -/
lemma Keeps.refused (h : Keeps R maxBytes pieces s old new) (hwritten : Written s line rename out)
    (hout : out.1 = false) :
    Keeps R maxBytes pieces out.2 old new ∧ rename = .failed ∧ out.2.file = s.file ∧
      out.2.live = s.live ∧ out.2.rotated = s.rotated := by
  cases hwritten with
  | refused hlinked hrename =>
      refine ⟨⟨h.maxBytes_eq, le_rfl, h.len_ge.trans h.len_le, h.rotated_le, h.rotated_eq,
        h.file_eq, h.lies⟩, hrename, rfl, rfl, rfl⟩
  | fits | reread | rotated | replaced => cases hout

end Step

/-! ### Runs -/

section Runs

variable {maxBytes : ℕ} {pieces old new : List (List UInt8)} {s : Log}

lemma step_append (s : Log) (line : List UInt8) (rename : Rename) :
    step s (.append line rename) =
      ((s.append line rename).2, if (s.append line rename).1 then [line] else []) := by
  rw [step]
  rcases s.append line rename with ⟨_ | _, t⟩
  · rfl
  · rfl

/-- Every event keeps whole pieces of the history, in their order. -/
lemma step_keeps (h : Keeps List.Sublist maxBytes pieces s old new) (e : Event) :
    ∃ old' new', Keeps List.Sublist maxBytes (pieces ++ (step s e).2) (step s e).1 old' new' := by
  have hold : List.Sublist old pieces := (List.sublist_append_left old new).trans h.lies
  have hnew : List.Sublist new pieces := (List.sublist_append_right old new).trans h.lies
  cases e with
  | append line rename =>
      have hwritten := append_written s line rename
      rw [step_append]
      cases hout : (s.append line rename).1 with
      | true =>
          exact h.append hwritten hout (fun hps => hps.append (List.Sublist.refl [line])) hnew
            fun _ => hold
      | false =>
          rw [if_neg (by simp), List.append_nil]
          exact ⟨old, new, (h.refused hwritten hout).1⟩
  | truncate =>
      rw [step, List.append_nil]
      by_cases hlinked : s.linked = true
      · rw [if_pos hlinked]
        refine ⟨old, [], h.maxBytes_eq, Nat.zero_le _, h.len_le, h.rotated_le, h.rotated_eq, rfl,
          ?_⟩
        rwa [List.append_nil]
      · rw [if_neg hlinked]
        exact ⟨old, new, h⟩
  | delete =>
      rw [step, List.append_nil]
      exact ⟨old, new, h.maxBytes_eq, h.len_ge, h.len_le, h.rotated_le, h.rotated_eq, h.file_eq,
        h.lies⟩

lemma run_cons (s : Log) (e : Event) (es : List Event) :
    run s (e :: es) = ((run (step s e).1 es).1, (step s e).2 ++ (run (step s e).1 es).2) := rfl

lemma run_keeps (es : List Event) (h : Keeps List.Sublist maxBytes pieces s old new) :
    ∃ old' new', Keeps List.Sublist maxBytes (pieces ++ (run s es).2) (run s es).1 old' new' := by
  induction es generalizing pieces s old new with
  | nil => exact ⟨old, new, by rwa [run, List.append_nil]⟩
  | cons e es ih =>
      obtain ⟨old₁, new₁, h₁⟩ := step_keeps h e
      rw [run_cons, ← List.append_assoc]
      exact ih h₁

/-- The event is an append whose rename, if there is one, succeeds. -/
def Event.Quiet (e : Event) : Prop := ∃ line, e = .append line .done

/-- The line of an append. -/
def Event.line? : Event → Option (List UInt8)
  | .append line _ => some line
  | .truncate => none
  | .delete => none

/-- Without truncation and failed renames only the oldest pieces go, and every line is
written. -/
lemma step_quiet (line : List UInt8) (h : Keeps List.IsSuffix maxBytes pieces s old new)
    (hlinked : s.linked = true) :
    (step s (.append line .done)).1.linked = true ∧ (step s (.append line .done)).2 = [line] ∧
      ∃ old' new', Keeps List.IsSuffix maxBytes (pieces ++ [line])
        (step s (.append line .done)).1 old' new' := by
  have hwritten := append_written s line .done
  have hnew : new <:+ pieces := (List.suffix_append old new).trans h.lies
  have hout : (s.append line .done).1 = true := by
    by_contra hfalse
    cases (h.refused hwritten (by simpa using hfalse)).2.1
  have hstill : (s.append line .done).2.linked = true := by
    generalize s.append line .done = out at hwritten hout
    cases hwritten with
    | fits | reread | rotated => exact hlinked
    | replaced hnot => rfl
    | refused => cases hout
  rw [step_append, hout]
  refine ⟨hstill, rfl, h.append hwritten hout ?_ hnew fun hnot => ?_⟩
  · rintro ps ⟨front, rfl⟩
    exact ⟨front, (List.append_assoc front ps [line]).symm⟩
  · rw [hlinked] at hnot
    cases hnot

lemma run_quiet (es : List Event) (hquiet : ∀ e ∈ es, e.Quiet)
    (h : Keeps List.IsSuffix maxBytes pieces s old new) (hlinked : s.linked = true) :
    (run s es).1.linked = true ∧ (run s es).2 = es.filterMap Event.line? ∧
      ∃ old' new',
        Keeps List.IsSuffix maxBytes (pieces ++ (run s es).2) (run s es).1 old' new' := by
  induction es generalizing pieces s old new with
  | nil => exact ⟨hlinked, rfl, old, new, by rwa [run, List.append_nil]⟩
  | cons e es ih =>
      obtain ⟨line, rfl⟩ := hquiet e (by simp)
      obtain ⟨hlinked₁, hline, old₁, new₁, h₁⟩ := step_quiet line h hlinked
      obtain ⟨hlinked₂, hlines, hkeeps⟩ :=
        ih (fun e he => hquiet e (List.mem_cons_of_mem _ he)) h₁ hlinked₁
      rw [run_cons, hline]
      refine ⟨hlinked₂, ?_, ?_⟩
      · rw [hlines]
        rfl
      · rw [← List.append_assoc]
        exact hkeeps

end Runs

/-- The log as it was opened. -/
lemma open_keeps {R : List (List UInt8) → List (List UInt8) → Prop} (hR : ∀ ps, R ps ps)
    (maxBytes : ℕ) (initial : List UInt8) :
    Keeps R maxBytes [initial] (Log.open maxBytes initial) [] [initial] := by
  refine ⟨rfl, le_rfl, ?_, ?_, rfl, ?_, hR _⟩
  · simp [Log.open, cap, longest]
  · simp [Log.open]
  · simp [Log.open]

/-- **The event log keeps whole lines within its cap.**

In every run from any content, with any truncations, deletions and failed renames: `len` is
at least the size of the live file; neither file is larger than `max_bytes`, the longest line
appended or the size at open; the rotated file and then the live file hold whole pieces of
the history in its order, none twice; an append fails only after a failed rename, and writes
nothing then.  One that succeeds puts its line at the end of the live file, unless that was
deleted, and loses at most the file that was rotated before.  Where every event is an append
and no rename fails, every line is appended and the two files hold the end of the history. -/
theorem event_log_whole_lines (maxBytes : ℕ) (initial : List UInt8) (events : List Event) :
    let s := (run (Log.open maxBytes initial) events).1
    let lines := (run (Log.open maxBytes initial) events).2
    s.live.length ≤ s.len ∧
    s.live.length ≤ max maxBytes (max (longest lines) initial.length) ∧
    (s.rotated.getD []).length ≤ max maxBytes (max (longest lines) initial.length) ∧
    (∃ old new, s.rotated.getD [] = old.flatten ∧ s.live = new.flatten ∧
      List.Sublist (old ++ new) (initial :: lines)) ∧
    (∀ line rename, (s.append line rename).1 = false →
      rename = .failed ∧ (s.append line rename).2.live = s.live ∧
        (s.append line rename).2.rotated = s.rotated) ∧
    (s.linked = true → ∀ line rename, (s.append line rename).1 = true →
      let t := (s.append line rename).2
      (t.live = s.live ++ line ∧ t.rotated = s.rotated) ∨
        (t.live = line ∧ t.rotated = some s.live)) ∧
    ((∀ e ∈ events, e.Quiet) → lines = events.filterMap Event.line? ∧
      ∃ old new, s.rotated.getD [] = old.flatten ∧ s.live = new.flatten ∧
        old ++ new <:+ initial :: lines) := by
  intro s lines
  have hcap : cap maxBytes (initial :: lines) =
      max maxBytes (max (longest lines) initial.length) := by
    rw [cap, max_comm (longest lines)]
    rfl
  obtain ⟨old, new, h⟩ := run_keeps events (open_keeps List.Sublist.refl maxBytes initial)
  have hlive : s.live.length ≤ s.file.length := by
    rw [Log.live]
    split_ifs
    · exact le_rfl
    · exact Nat.zero_le _
  have hlen : s.live.length ≤ s.len := hlive.trans h.len_ge
  refine ⟨hlen, hcap ▸ hlen.trans h.len_le, hcap ▸ h.rotated_le, ?_, ?_,
    fun hlinked line rename => (append_written s line rename).live hlinked, ?_⟩
  · cases hlinked : s.linked with
    | true =>
        refine ⟨old, new, h.rotated_eq, ?_, h.lies⟩
        rw [Log.live, if_pos hlinked]
        exact h.file_eq
    | false =>
        refine ⟨old, [], h.rotated_eq, ?_, ?_⟩
        · rw [Log.live, if_neg (by simp [hlinked])]
          rfl
        · rw [List.append_nil]
          exact (List.sublist_append_left old new).trans h.lies
  · intro line rename hfalse
    obtain ⟨-, hrename, -, hlive', hrotated⟩ := h.refused (append_written s line rename) hfalse
    exact ⟨hrename, hlive', hrotated⟩
  · intro hquiet
    obtain ⟨hlinked, hlines, old', new', h'⟩ :=
      run_quiet events hquiet (open_keeps (fun ps => List.suffix_refl ps) maxBytes initial) rfl
    refine ⟨hlines, old', new', h'.rotated_eq, ?_, h'.lies⟩
    rw [Log.live, if_pos hlinked]
    exact h'.file_eq

/-- Five lines of two bytes under a cap of five: a file takes two of them. -/
example :
    let s := (run (Log.open 5 []) ((List.range 5).map fun n => .append [UInt8.ofNat n, 10] .done)).1
    (s.rotated, s.live) = (some [2, 10, 3, 10], [4, 10]) := by
  decide

end SkylineSpeeder.EventLog
