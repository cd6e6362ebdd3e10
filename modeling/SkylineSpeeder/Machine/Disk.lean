import Mathlib.Data.List.AList
import Mathlib.Tactic

/-!
A directory on a disk, and files that are put in place by a rename.

A name stands for an inode, an inode has bytes.  A power loss brings back some directory
since the power came on, and leaves any bytes in a file that was not synced since it was
last written.

* `Disk`: the directory, its earlier states, and the bytes of each inode;
* `openTruncate`, `writeAt`, `sync`, `rename`, `unlink`, `powerLoss`: what can happen to it;
* `Published`: every published name has stood for whole and synced bytes that nobody
  writes, in every state of the directory a power loss can bring back; each operation
  keeps that, if a file is only renamed to a published name when it is whole and synced.
-/

namespace Machine

/-- The names of a directory, each with the inode it stands for. -/
abbrev Directory (ν : Type*) := AList fun _ : ν => ℕ

/-- `names` is the directory, `history` what it was before, back to when the power came on;
inodes from `next` on have never been used. -/
structure Disk (ν : Type*) where
  names : Directory ν
  history : List (Directory ν)
  data : ℕ → List UInt8
  synced : ℕ → Bool
  next : ℕ

namespace Disk

variable {ν : Type*}

/-- The directories that a power loss can bring back. -/
def states (disk : Disk ν) : List (Directory ν) := disk.names :: disk.history

/-- An empty directory. -/
def empty : Disk ν := ⟨∅, [], fun _ => [], fun _ => true, 0⟩

/-- Another directory. -/
def change (disk : Disk ν) (names : Directory ν) : Disk ν :=
  { disk with names := names, history := disk.states }

/-- Other bytes in a file, which the disk does not have yet. -/
def put (disk : Disk ν) (i : ℕ) (bytes : List UInt8) : Disk ν :=
  { disk with
    data := Function.update disk.data i bytes
    synced := Function.update disk.synced i false }

/-- Bytes written over a file's own from position `pos` on, with zeros where it has none. -/
def overwrite (old : List UInt8) (pos : ℕ) (bytes : List UInt8) : List UInt8 :=
  old.take pos ++ List.replicate (pos - old.length) 0 ++ bytes ++ old.drop (pos + bytes.length)

/-- `write`, at the position the writer is at. -/
def writeAt (disk : Disk ν) (i pos : ℕ) (bytes : List UInt8) : Disk ν :=
  disk.put i (overwrite (disk.data i) pos bytes)

/-- `fsync`. -/
def sync (disk : Disk ν) (i : ℕ) : Disk ν :=
  { disk with synced := Function.update disk.synced i true }

/-- The power goes and comes back: `kept` says which directory is found, `left` what is in
the files that were not synced. -/
def powerLoss (disk : Disk ν) (kept : ℕ) (left : ℕ → List UInt8) : Disk ν where
  names := disk.states.getD kept disk.names
  history := []
  data i := if disk.synced i then disk.data i else left i
  synced _ := true
  next := disk.next

lemma writeAt_data (disk : Disk ν) (i pos : ℕ) (bytes : List UInt8) :
    (disk.writeAt i pos bytes).data =
      Function.update disk.data i (overwrite (disk.data i) pos bytes) := rfl

lemma writeAt_synced (disk : Disk ν) (i pos : ℕ) (bytes : List UInt8) :
    (disk.writeAt i pos bytes).synced = Function.update disk.synced i false := rfl

lemma sync_synced (disk : Disk ν) (i : ℕ) :
    (disk.sync i).synced = Function.update disk.synced i true := rfl

/-- What is written at the end is appended. -/
lemma overwrite_end (old bytes : List UInt8) : overwrite old old.length bytes = old ++ bytes := by
  simp [overwrite]

lemma powerLoss_names_mem (disk : Disk ν) (kept : ℕ) (left : ℕ → List UInt8) :
    (disk.powerLoss kept left).names ∈ disk.states := by
  rw [powerLoss, List.getD_eq_getElem?_getD]
  cases hget : disk.states[kept]? with
  | none => simp [states]
  | some d => exact List.mem_of_getElem? hget

variable [DecidableEq ν]

/-- `open` with `O_CREAT | O_TRUNC`, and the file that it gives. -/
def openTruncate (disk : Disk ν) (name : ν) : Disk ν × ℕ :=
  match disk.names.lookup name with
  | some i => (disk.put i [], i)
  | none =>
      ({ (disk.change (disk.names.insert name disk.next)).put disk.next [] with
          next := disk.next + 1 }, disk.next)

/-- `rename`; `none` if there is no file of the first name. -/
def rename (disk : Disk ν) (source target : ν) : Option (Disk ν) :=
  (disk.names.lookup source).map fun i =>
    disk.change ((disk.names.erase source).insert target i)

/-- `unlink`. -/
def unlink (disk : Disk ν) (name : ν) : Disk ν := disk.change (disk.names.erase name)

/-- The bytes of the file of a name. -/
def read (disk : Disk ν) (name : ν) : Option (List UInt8) :=
  (disk.names.lookup name).map disk.data

/-- The file that is opened is empty. -/
lemma openTruncate_data (disk : Disk ν) (name : ν) :
    (disk.openTruncate name).1.data =
      Function.update disk.data (disk.openTruncate name).2 [] := by
  rw [openTruncate]
  split <;> rfl

lemma openTruncate_synced (disk : Disk ν) (name : ν) :
    (disk.openTruncate name).1.synced =
      Function.update disk.synced (disk.openTruncate name).2 false := by
  rw [openTruncate]
  split <;> rfl

/-- It is the file of the name, or a new one. -/
lemma openTruncate_file (disk : Disk ν) (name : ν) :
    disk.names.lookup name = some (disk.openTruncate name).2 ∨
      (disk.openTruncate name).2 = disk.next := by
  rw [openTruncate]
  split
  · rename_i hi
    exact .inl hi
  · exact .inr rfl

lemma openTruncate_lookup (disk : Disk ν) (name : ν) :
    (disk.openTruncate name).1.names.lookup name = some (disk.openTruncate name).2 := by
  rw [openTruncate]
  split
  · rename_i hi
    exact hi
  · exact AList.lookup_insert _

lemma openTruncate_lookup_ne (disk : Disk ν) {name name' : ν} (h : name' ≠ name) :
    (disk.openTruncate name).1.names.lookup name' = disk.names.lookup name' := by
  rw [openTruncate]
  split
  · rfl
  · exact AList.lookup_insert_ne h

lemma rename_eq_some {disk disk' : Disk ν} {source target : ν}
    (h : disk.rename source target = some disk') : ∃ i, disk.names.lookup source = some i ∧
      disk' = disk.change ((disk.names.erase source).insert target i) := by
  obtain ⟨i, hi, heq⟩ := Option.map_eq_some_iff.mp h
  exact ⟨i, hi, heq.symm⟩

lemma rename_lookup_source {disk disk' : Disk ν} {source target : ν}
    (h : disk.rename source target = some disk') (hne : source ≠ target) :
    disk'.names.lookup source = none := by
  obtain ⟨i, -, rfl⟩ := rename_eq_some h
  exact (AList.lookup_insert_ne hne).trans (AList.lookup_erase _ _)

/-- A rename leaves other names alone. -/
lemma rename_lookup_ne {disk disk' : Disk ν} {source target name : ν}
    (h : disk.rename source target = some disk') (hsource : name ≠ source)
    (htarget : name ≠ target) : disk'.names.lookup name = disk.names.lookup name := by
  obtain ⟨i, -, rfl⟩ := rename_eq_some h
  exact (AList.lookup_insert_ne htarget).trans (AList.lookup_erase_ne hsource)

/-! ### Published names -/

/-- The names in `pub` have only ever stood for bytes that are `whole`, are on the disk, and
that none of the `writing` files has; a name outside `pub` stands for no file that one of
them ever stood for. -/
structure Published (pub : ν → Prop) (whole : ν → List UInt8 → Prop) (writing : ℕ → Prop)
    (disk : Disk ν) : Prop where
  sound : ∀ d ∈ disk.states, ∀ name i, pub name → d.lookup name = some i →
    whole name (disk.data i) ∧ disk.synced i = true ∧ ¬ writing i
  used : ∀ d ∈ disk.states, ∀ name i, d.lookup name = some i → i < disk.next
  single : ∀ d ∈ disk.states, ∀ name name' i,
    d.lookup name = some i → d.lookup name' = some i → name = name'
  apart : ∀ d ∈ disk.states, ∀ name name' i, ¬ pub name → pub name' →
    disk.names.lookup name = some i → d.lookup name' ≠ some i
  open_used : ∀ i, writing i → i < disk.next

variable {pub : ν → Prop} {whole : ν → List UInt8 → Prop} {writing writing' : ℕ → Prop}
  {disk : Disk ν}

namespace Published

lemma empty (h : ∀ i, ¬ writing i) : Published pub whole writing (Disk.empty : Disk ν) := by
  constructor
  case open_used => exact fun i hi => absurd hi (h i)
  all_goals
    intro d hd
    obtain rfl : d = ∅ := by simpa [states, Disk.empty] using hd
    simp

/-- Fewer files may be open, and what is whole may be said more weakly. -/
lemma mono {whole' : ν → List UInt8 → Prop} (h : Published pub whole writing disk)
    (hwriting : ∀ i, writing' i → writing i)
    (hwhole : ∀ name bytes, whole name bytes → whole' name bytes) :
    Published pub whole' writing' disk where
  sound d hd name i hpub hi := by
    obtain ⟨hbytes, hsynced, hopen⟩ := h.sound d hd name i hpub hi
    exact ⟨hwhole name _ hbytes, hsynced, fun hw => hopen (hwriting i hw)⟩
  used := h.used
  single := h.single
  apart := h.apart
  open_used i hi := h.open_used i (hwriting i hi)

/-- A published name's bytes are whole. -/
lemma whole_of_read (h : Published pub whole writing disk) {name : ν} {bytes : List UInt8}
    (hpub : pub name) (hread : disk.read name = some bytes) : whole name bytes := by
  obtain ⟨i, hi, rfl⟩ := Option.map_eq_some_iff.mp hread
  exact (h.sound _ (by simp [states]) name i hpub hi).1

/-- Other bytes in a file that no published name has stood for. -/
lemma put {i : ℕ} (h : Published pub whole writing disk) (bytes : List UInt8)
    (hi : ∀ d ∈ disk.states, ∀ name, pub name → d.lookup name ≠ some i) :
    Published pub whole writing (disk.put i bytes) where
  sound d hd name j hpub hj := by
    have hne : j ≠ i := by
      rintro rfl
      exact hi d hd name hpub hj
    simp only [Disk.put, Function.update_of_ne hne]
    exact h.sound d hd name j hpub hj
  used := h.used
  single := h.single
  apart := h.apart
  open_used := h.open_used

/-- A write to a file that is open. -/
lemma writeAt {i : ℕ} (h : Published pub whole writing disk) (hi : writing i) (pos : ℕ)
    (bytes : List UInt8) : Published pub whole writing (disk.writeAt i pos bytes) :=
  h.put _ fun d hd name hpub hj => (h.sound d hd name i hpub hj).2.2 hi

lemma sync (h : Published pub whole writing disk) (i : ℕ) :
    Published pub whole writing (disk.sync i) where
  sound d hd name j hpub hj := by
    obtain ⟨hbytes, hsynced, hopen⟩ := h.sound d hd name j hpub hj
    refine ⟨hbytes, ?_, hopen⟩
    by_cases hij : j = i
    · simp [Disk.sync, hij]
    · simp [Disk.sync, hij, hsynced]
  used := h.used
  single := h.single
  apart := h.apart
  open_used := h.open_used

/-- A directory without a name. -/
lemma unlink (h : Published pub whole writing disk) (name : ν) :
    Published pub whole writing (disk.unlink name) := by
  have hlookup : ∀ {name' i}, (disk.names.erase name).lookup name' = some i →
      disk.names.lookup name' = some i := by
    intro name' i hi
    by_cases heq : name' = name
    · subst heq
      simp at hi
    · rwa [AList.lookup_erase_ne heq] at hi
  have hstates : ∀ d ∈ (disk.unlink name).states, ∃ d' ∈ disk.states,
      ∀ name' i, d.lookup name' = some i → d'.lookup name' = some i := by
    intro d hd
    rcases List.mem_cons.mp hd with rfl | hd
    · exact ⟨disk.names, by simp [states], fun name' i hi => hlookup hi⟩
    · exact ⟨d, hd, fun _ _ hi => hi⟩
  constructor
  · intro d hd name' i hpub hi
    obtain ⟨d', hd', hsub⟩ := hstates d hd
    exact h.sound d' hd' name' i hpub (hsub name' i hi)
  · intro d hd name' i hi
    obtain ⟨d', hd', hsub⟩ := hstates d hd
    exact h.used d' hd' name' i (hsub name' i hi)
  · intro d hd name₁ name₂ i h₁ h₂
    obtain ⟨d', hd', hsub⟩ := hstates d hd
    exact h.single d' hd' name₁ name₂ i (hsub name₁ i h₁) (hsub name₂ i h₂)
  · intro d hd name₁ name₂ i hnot hpub h₁ h₂
    obtain ⟨d', hd', hsub⟩ := hstates d hd
    exact h.apart d' hd' name₁ name₂ i hnot hpub (hlookup h₁) (hsub name₂ i h₂)
  · exact h.open_used

/-- A file is opened under a name that is not published. -/
lemma openTruncate {name : ν} (h : Published pub whole writing disk) (hname : ¬ pub name)
    (hopen : ∀ i, writing' i → writing i ∨ i = (disk.openTruncate name).2) :
    Published pub whole writing' (disk.openTruncate name).1 := by
  rw [Disk.openTruncate] at hopen ⊢
  split at hopen
  · rename_i i hi
    have hfree : ∀ d ∈ disk.states, ∀ name', pub name' → d.lookup name' ≠ some i :=
      fun d hd name' hpub => h.apart d hd name name' i hname hpub hi
    have hput := h.put [] hfree
    refine ⟨fun d hd name' j hpub hj => ?_, hput.used, hput.single, hput.apart, fun j hj => ?_⟩
    · obtain ⟨hbytes, hsynced, hnot⟩ := hput.sound d hd name' j hpub hj
      refine ⟨hbytes, hsynced, fun hw => ?_⟩
      rcases hopen j hw with hw | rfl
      · exact hnot hw
      · exact hfree d hd name' hpub hj
    · rcases hopen j hj with hj | rfl
      · exact hput.open_used j hj
      · exact h.used disk.names (by simp [states]) name _ hi
  · rename_i hnone
    -- the new name is the only one of the new inode
    have hnew : ∀ {name' i}, (disk.names.insert name disk.next).lookup name' = some i →
        (name' = name ∧ i = disk.next) ∨ disk.names.lookup name' = some i := by
      intro name' i hi
      by_cases heq : name' = name
      · subst heq
        rw [AList.lookup_insert, Option.some.injEq] at hi
        exact .inl ⟨rfl, hi.symm⟩
      · rw [AList.lookup_insert_ne heq] at hi
        exact .inr hi
    have hold : ∀ d ∈ disk.states, ∀ name', d.lookup name' ≠ some disk.next :=
      fun d hd name' hi => absurd (h.used d hd name' _ hi) (lt_irrefl _)
    have hnames : disk.names ∈ disk.states := by simp [states]
    have hstates : ∀ d ∈ disk.names.insert name disk.next :: disk.states, ∀ name' i,
        d.lookup name' = some i →
        (name' = name ∧ i = disk.next) ∨ ∃ d' ∈ disk.states, d'.lookup name' = some i := by
      intro d hd name' i hi
      rcases List.mem_cons.mp hd with rfl | hd
      · exact (hnew hi).imp_right fun hi => ⟨disk.names, hnames, hi⟩
      · exact .inr ⟨d, hd, hi⟩
    constructor
    · intro d hd name' i hpub hi
      obtain ⟨rfl, -⟩ | ⟨d', hd', hi⟩ := hstates d hd name' i hi
      · exact absurd hpub hname
      have hne : i ≠ disk.next := (h.used d' hd' name' i hi).ne
      obtain ⟨hbytes, hsynced, hnot⟩ := h.sound d' hd' name' i hpub hi
      simp only [Disk.put, Disk.change, Function.update_of_ne hne]
      exact ⟨hbytes, hsynced, fun hw => (hopen i hw).elim hnot hne⟩
    · intro d hd name' i hi
      obtain ⟨-, rfl⟩ | ⟨d', hd', hi⟩ := hstates d hd name' i hi
      · exact Nat.lt_succ_self _
      · exact Nat.lt_succ_of_lt (h.used d' hd' name' i hi)
    · intro d hd name₁ name₂ i h₁ h₂
      rcases List.mem_cons.mp hd with rfl | hd
      · rcases hnew h₁ with ⟨rfl, rfl⟩ | hi₁
        · rcases hnew h₂ with ⟨rfl, -⟩ | hi₂
          · rfl
          · exact absurd hi₂ (hold _ hnames _)
        · rcases hnew h₂ with ⟨rfl, rfl⟩ | hi₂
          · exact absurd hi₁ (hold _ hnames _)
          · exact h.single _ hnames name₁ name₂ i hi₁ hi₂
      · exact h.single d hd name₁ name₂ i h₁ h₂
    · intro d hd name₁ name₂ i hnot hpub h₁ h₂
      obtain ⟨rfl, -⟩ | ⟨d', hd', h₂⟩ := hstates d hd name₂ i h₂
      · exact hname hpub
      rcases hnew h₁ with ⟨-, rfl⟩ | h₁
      · exact hold d' hd' name₂ h₂
      · exact h.apart d' hd' name₁ name₂ i hnot hpub h₁ h₂
    · intro i hi
      rcases hopen i hi with hi | rfl
      · exact Nat.lt_succ_of_lt (h.open_used i hi)
      · exact Nat.lt_succ_self _

/-- A file is renamed; if to a published name, it is whole and synced and nobody goes on
writing it. -/
lemma rename {source target : ν} {i : ℕ} {disk' : Disk ν} (h : Published pub whole writing disk)
    (hsource : ¬ pub source) (hi : disk.names.lookup source = some i)
    (htarget : pub target → whole target (disk.data i) ∧ disk.synced i = true ∧ ¬ writing' i)
    (hclosed : ∀ j, writing' j → writing j)
    (hrename : disk.rename source target = some disk') :
    Published pub whole writing' disk' := by
  rw [Disk.rename, hi, Option.map_some, Option.some.injEq] at hrename
  subst hrename
  have hnames : disk.names ∈ disk.states := by simp [states]
  -- what a name stands for in the new directory
  have hnew : ∀ {name j}, ((disk.names.erase source).insert target i).lookup name = some j →
      (name = target ∧ j = i) ∨
        (name ≠ target ∧ name ≠ source ∧ disk.names.lookup name = some j) := by
    intro name j hj
    by_cases heq : name = target
    · subst heq
      rw [AList.lookup_insert, Option.some.injEq] at hj
      exact .inl ⟨rfl, hj.symm⟩
    · rw [AList.lookup_insert_ne heq] at hj
      by_cases hsrc : name = source
      · subst hsrc
        simp at hj
      · rw [AList.lookup_erase_ne hsrc] at hj
        exact .inr ⟨heq, hsrc, hj⟩
  constructor
  · intro d hd name j hpub hj
    rcases List.mem_cons.mp hd with rfl | hd
    · rcases hnew hj with ⟨rfl, rfl⟩ | ⟨-, -, hj⟩
      · exact htarget hpub
      · obtain ⟨hbytes, hs, hnot⟩ := h.sound _ hnames name j hpub hj
        exact ⟨hbytes, hs, fun hw => hnot (hclosed _ hw)⟩
    · obtain ⟨hbytes, hs, hnot⟩ := h.sound d hd name j hpub hj
      exact ⟨hbytes, hs, fun hw => hnot (hclosed _ hw)⟩
  · intro d hd name j hj
    rcases List.mem_cons.mp hd with rfl | hd
    · rcases hnew hj with ⟨rfl, rfl⟩ | ⟨-, -, hj⟩
      · exact h.used _ hnames source _ hi
      · exact h.used _ hnames name j hj
    · exact h.used d hd name j hj
  · intro d hd name₁ name₂ j h₁ h₂
    rcases List.mem_cons.mp hd with rfl | hd
    · rcases hnew h₁ with ⟨rfl, rfl⟩ | ⟨-, hne₁, hj₁⟩
      · rcases hnew h₂ with ⟨rfl, -⟩ | ⟨-, hne₂, hj₂⟩
        · rfl
        · exact absurd (h.single _ hnames name₂ source _ hj₂ hi) hne₂
      · rcases hnew h₂ with ⟨rfl, rfl⟩ | ⟨-, -, hj₂⟩
        · exact absurd (h.single _ hnames name₁ source _ hj₁ hi) hne₁
        · exact h.single _ hnames name₁ name₂ j hj₁ hj₂
    · exact h.single d hd name₁ name₂ j h₁ h₂
  · intro d hd name₁ name₂ j hnot hpub h₁ h₂
    rcases hnew h₁ with ⟨rfl, rfl⟩ | ⟨-, hne₁, hj₁⟩
    · rcases List.mem_cons.mp hd with rfl | hd
      · rcases hnew h₂ with ⟨rfl, -⟩ | ⟨-, -, hj₂⟩
        · exact hnot hpub
        · exact h.apart _ hnames source name₂ _ hsource hpub hi hj₂
      · exact h.apart d hd source name₂ _ hsource hpub hi h₂
    · rcases List.mem_cons.mp hd with rfl | hd
      · rcases hnew h₂ with ⟨-, rfl⟩ | ⟨-, -, hj₂⟩
        · exact hne₁ (h.single _ hnames name₁ source _ hj₁ hi)
        · exact h.apart _ hnames name₁ name₂ j hnot hpub hj₁ hj₂
      · exact h.apart d hd name₁ name₂ j hnot hpub hj₁ h₂
  · exact fun j hj => h.open_used j (hclosed j hj)

/-- What a power loss brings back is whole, and nothing is open any more. -/
lemma powerLoss (h : Published pub whole writing disk) (kept : ℕ) (left : ℕ → List UInt8)
    (hnone : ∀ i, ¬ writing' i) : Published pub whole writing' (disk.powerLoss kept left) := by
  have hkept := disk.powerLoss_names_mem kept left
  have hstates : ∀ d ∈ (disk.powerLoss kept left).states,
      d = disk.states.getD kept disk.names ∧ d ∈ disk.states := by
    intro d hd
    obtain rfl : d = disk.states.getD kept disk.names := by
      simpa [Disk.powerLoss, states] using hd
    exact ⟨rfl, hkept⟩
  constructor
  · intro d hd name i hpub hi
    obtain ⟨hbytes, hsynced, -⟩ := h.sound d (hstates d hd).2 name i hpub hi
    exact ⟨by simpa [Disk.powerLoss, hsynced] using hbytes, rfl, hnone i⟩
  · exact fun d hd => h.used d (hstates d hd).2
  · exact fun d hd => h.single d (hstates d hd).2
  · intro d hd name name' i hnot hpub h₁ h₂
    obtain ⟨rfl, hmem⟩ := hstates d hd
    exact hnot (h.single _ hmem name' name i h₂ h₁ ▸ hpub)
  · exact fun i hi => absurd hi (hnone i)

end Published

end Disk

end Machine
