import SkylineSpeeder.Reports.Record

/-!
A whole file or none: the report of a failure is one cell that changes all at once.

* `Cell`, `Cell.step`: what the report of one failure is for: it is put in place, removed,
  and found again as it was once;
* `Sums`, `Cell.Honest`: what stands in it sums up calls that were made;
* `ops`: what a run of `record_in` does to the cell of a failure;
* `report_refines`: as long as no two threads record the same failure at once, the file is
  at every moment what the cell holds, whatever else is recorded, fails, crashes or is lost.
-/

namespace SkylineSpeeder.Reports

open Scrub Machine

/-! ### The report of a failure -/

/-- A report that sums up calls, newest first: the oldest gives the text, the newest the
time it was seen last. -/
structure Sums (calls : List Call) (r : DaemonReport) : Prop where
  oldest : ∃ first, calls.getLast? = some first ∧ r.version = first.version ∧
    r.kind = first.kind ∧ r.message = first.message ∧ r.firstSeen = first.now
  newest : calls.head?.map Call.now = some r.lastSeen
  count : r.count.toNat = min calls.length (2 ^ 64 - 1)

lemma Sums.single (call : Call) : Sums [call] (call.report none) :=
  ⟨⟨call, rfl, rfl, rfl, rfl, rfl⟩, rfl, rfl⟩

lemma saturatingSucc_toNat (n : UInt64) :
    (saturatingSucc n).toNat = min (n.toNat + 1) (2 ^ 64 - 1) := by
  have hn := n.toNat_lt
  rw [saturatingSucc]
  split_ifs with h
  · rw [UInt64.toNat_add]
    have hone : (1 : UInt64).toNat = 1 := by decide
    omega
  · omega

lemma Sums.cons {calls : List Call} {r : DaemonReport} (h : Sums calls r) (call : Call) :
    Sums (call :: calls) (call.report (some r)) := by
  refine ⟨?_, rfl, ?_⟩
  · obtain ⟨first, hlast, hfields⟩ := h.oldest
    exact ⟨first, by rw [List.getLast?_cons, hlast]; rfl, hfields⟩
  · have hcount := h.count
    rw [Call.report, saturatingSucc_toNat, hcount, List.length_cons]
    omega

/-- The report of one failure: what it is, what it was before, and the calls that put a
report in place, newest first, each with that report. -/
structure Cell where
  now : Option DaemonReport
  past : List (Option DaemonReport)
  log : List (Call × DaemonReport)
  deriving DecidableEq

/-- What happens to it: a call that has seen `seen` puts its report in place, somebody
removes it, it is found as it was before. -/
inductive CellOp where
  | place (call : Call) (seen : Option DaemonReport)
  | remove
  | revert (found : Option DaemonReport)

namespace Cell

def empty : Cell := ⟨none, [], []⟩

/-- What a call can have seen: a report that is still there, unless it was removed since. -/
def MaySee (cell : Cell) (seen : DaemonReport) : Prop :=
  (cell.now = some seen ∨ cell.now = none) ∧ seen ∈ cell.log.map Prod.snd

instance (cell : Cell) (seen : DaemonReport) : Decidable (cell.MaySee seen) :=
  inferInstanceAs (Decidable (_ ∧ _))

/-- One step; each is all or nothing. -/
def step (cell : Cell) : CellOp → Option Cell
  | .place call seen =>
      if ∀ r ∈ seen, cell.MaySee r then
        some ⟨some (call.report seen), cell.now :: cell.past, (call, call.report seen) :: cell.log⟩
      else none
  | .remove => some { cell with now := none, past := cell.now :: cell.past }
  | .revert found =>
      if found ∈ cell.now :: cell.past then some { cell with now := found, past := [] } else none

/-- What stands or stood in the cell was put there, and what was ever put there sums up its
call and some before it. -/
structure Honest (cell : Cell) : Prop where
  placed : ∀ found ∈ cell.now :: cell.past, ∀ r, found = some r → r ∈ cell.log.map Prod.snd
  sums : ∀ r ∈ cell.log.map Prod.snd,
    ∃ calls, Sums calls r ∧ calls.Sublist (cell.log.map Prod.fst)

lemma empty_honest : empty.Honest :=
  ⟨by simp [empty], by simp [empty]⟩

lemma step_honest {cell cell' : Cell} {op : CellOp} (h : cell.Honest)
    (hstep : cell.step op = some cell') : cell'.Honest := by
  cases op with
  | place call seen =>
      rw [step] at hstep
      split_ifs at hstep with hsee
      obtain rfl := Option.some.inj hstep
      constructor
      · intro found hfound r hr
        rcases List.mem_cons.mp hfound with rfl | hfound
        · rw [← Option.some.inj hr]
          exact List.mem_cons_self
        · exact List.mem_cons_of_mem _ (h.placed found hfound r hr)
      · intro r hr
        rcases List.mem_cons.mp hr with rfl | hr
        · cases seen with
          | none => exact ⟨[call], .single call, List.singleton_sublist.mpr List.mem_cons_self⟩
          | some old =>
              obtain ⟨calls, hsums, hsub⟩ := h.sums old (hsee old rfl).2
              exact ⟨call :: calls, hsums.cons call, hsub.cons_cons call⟩
        · obtain ⟨calls, hsums, hsub⟩ := h.sums r hr
          exact ⟨calls, hsums, hsub.cons call⟩
  | remove =>
      obtain rfl := Option.some.inj hstep
      refine ⟨fun found hfound r hr => ?_, h.sums⟩
      rcases List.mem_cons.mp hfound with rfl | hfound
      · cases hr
      · exact h.placed found hfound r hr
  | revert old =>
      rw [step] at hstep
      split_ifs at hstep with hold
      obtain rfl := Option.some.inj hstep
      refine ⟨fun found hfound r hr => ?_, h.sums⟩
      obtain rfl := List.mem_singleton.mp hfound
      exact h.placed _ hold r hr

end Cell

/-! ### The directory and the cell -/

variable {ι : Type}

/-- The report a directory has of a failure. -/
def reportIn (serde : Serde) (data : ℕ → List UInt8) (stem : UInt64)
    (names : Directory FileName) : Option DaemonReport :=
  ((names.lookup ⟨stem, .json⟩).map data).bind serde.fromSlice

/-- What a thread that records the failure has done so far. -/
def Progress (serde : Serde) (disk : Disk FileName) (cell : Cell) : Recorder → Prop
  | .looking _ | .counting _ => True
  | .opening job => ∀ r ∈ job.seen, cell.MaySee r
  | .writing job file pos => (∀ r ∈ job.seen, cell.MaySee r) ∧
      disk.names.lookup job.staged = some file ∧ pos ≤ (serde.toVec job.report).length ∧
      disk.data file = (serde.toVec job.report).take pos
  | .syncing job file => (∀ r ∈ job.seen, cell.MaySee r) ∧
      disk.names.lookup job.staged = some file ∧ disk.data file = serde.toVec job.report
  | .placing job file => (∀ r ∈ job.seen, cell.MaySee r) ∧
      disk.names.lookup job.staged = some file ∧ disk.data file = serde.toVec job.report ∧
      disk.synced file = true

/-- Some thread has the file open. -/
def Writing (s : Sys ι) (file : ℕ) : Prop :=
  ∃ w recorder, s.threads w = some recorder ∧ recorder.file = some file

/-- At most one thread records the failure. -/
def Single (stem : UInt64) (threads : ι → Option Recorder) : Prop :=
  ∀ v w recorder recorder', threads v = some recorder → threads w = some recorder' →
    recorder.call.stem = stem → recorder'.call.stem = stem → v = w

/-- The directory, the threads and the cell of a failure. -/
structure Refines (serde : Serde) (stem : UInt64) (s : Sys ι) (cell : Cell) : Prop where
  honest : cell.Honest
  published : s.disk.Published (· = ⟨stem, .json⟩) (fun _ bytes => ∃ r, bytes = serde.toVec r)
    (Writing s)
  now : reportIn serde s.disk.data stem s.disk.names = cell.now
  past : ∀ names ∈ s.disk.history,
    reportIn serde s.disk.data stem names ∈ cell.now :: cell.past
  single : Single stem s.threads
  progress : ∀ w recorder, s.threads w = some recorder → recorder.call.stem = stem →
    Progress serde s.disk cell recorder
  others : ∀ w recorder file, s.threads w = some recorder → recorder.call.stem ≠ stem →
    recorder.file = some file → s.disk.names.lookup ⟨stem, .tmp⟩ ≠ some file

/-- Bytes in another file. -/
lemma reportIn_update {serde : Serde} {data : ℕ → List UInt8} {stem : UInt64}
    {names : Directory FileName} {file : ℕ} (bytes : List UInt8)
    (h : names.lookup ⟨stem, .json⟩ ≠ some file) :
    reportIn serde (Function.update data file bytes) stem names =
      reportIn serde data stem names := by
  unfold reportIn
  cases hi : names.lookup ⟨stem, .json⟩ with
  | none => rfl
  | some i =>
      have hne : i ≠ file := fun heq => h (heq ▸ hi)
      rw [Option.map_some, Option.map_some, Function.update_of_ne hne]

/-- What has been done of a report stays done while its `.tmp` is left alone. -/
lemma Progress.frame {serde : Serde} {disk disk' : Disk FileName} {cell cell' : Cell}
    {recorder : Recorder} (h : Progress serde disk cell recorder)
    (hlookup : disk'.names.lookup ⟨recorder.call.stem, .tmp⟩ =
      disk.names.lookup ⟨recorder.call.stem, .tmp⟩)
    (hfile : ∀ file, disk.names.lookup ⟨recorder.call.stem, .tmp⟩ = some file →
      disk'.data file = disk.data file ∧ (disk.synced file = true → disk'.synced file = true))
    (hsee : ∀ r, cell.MaySee r → cell'.MaySee r) : Progress serde disk' cell' recorder := by
  cases recorder with
  | looking => trivial
  | counting => trivial
  | opening job => exact fun r hr => hsee r (h r hr)
  | writing job file pos =>
      obtain ⟨hseen, hname, hpos, hdata⟩ := h
      exact ⟨fun r hr => hsee r (hseen r hr), hlookup.trans hname, hpos,
        (hfile file hname).1.trans hdata⟩
  | syncing job file =>
      obtain ⟨hseen, hname, hdata⟩ := h
      exact ⟨fun r hr => hsee r (hseen r hr), hlookup.trans hname,
        (hfile file hname).1.trans hdata⟩
  | placing job file =>
      obtain ⟨hseen, hname, hdata, hsynced⟩ := h
      exact ⟨fun r hr => hsee r (hseen r hr), hlookup.trans hname,
        (hfile file hname).1.trans hdata, (hfile file hname).2 hsynced⟩

variable {serde : Serde} {stem : UInt64} {s t : Sys ι} {cell : Cell} {w : ι}

lemma init_refines (serde : Serde) (stem : UInt64) :
    Refines serde stem (Sys.init : Sys ι) Cell.empty where
  honest := Cell.empty_honest
  published := .empty fun i hi => by
    obtain ⟨w, recorder, hw, -⟩ := hi
    cases hw
  now := rfl
  past _ hn := absurd hn List.not_mem_nil
  single v _ recorder _ hv := by cases hv
  progress v recorder hv := by cases hv
  others v recorder i hv := by cases hv

namespace Refines

/-- Every directory that can come back has a report the cell knows. -/
lemma known (h : Refines serde stem s cell) :
    ∀ names ∈ s.disk.states, reportIn serde s.disk.data stem names ∈ cell.now :: cell.past := by
  intro names hnames
  rcases List.mem_cons.mp hnames with rfl | hnames
  · rw [h.now]
    exact List.mem_cons_self
  · exact h.past names hnames

/-- Threads leave. -/
lemma fewer (h : Refines serde stem s cell) {threads : ι → Option Recorder}
    (hfew : ∀ v recorder, threads v = some recorder → s.threads v = some recorder) :
    Refines serde stem { s with threads := threads } cell where
  honest := h.honest
  published := by
    refine h.published.mono ?_ fun _ _ hwhole => hwhole
    rintro file ⟨v, recorder, hv, hopen⟩
    exact ⟨v, recorder, hfew v recorder hv, hopen⟩
  now := h.now
  past := h.past
  single v v' recorder recorder' hv hv' :=
    h.single v v' recorder recorder' (hfew _ _ hv) (hfew _ _ hv')
  progress v recorder hv := h.progress v recorder (hfew _ _ hv)
  others v recorder file hv := h.others v recorder file (hfew _ _ hv)

/-- No directory has a report in a file that is opened. -/
lemma unpublished (h : Refines serde stem s cell) (job : Job) :
    ∀ d ∈ s.disk.states, d.lookup ⟨stem, .json⟩ ≠ some (s.disk.openTruncate job.staged).2 := by
  intro d hd hi
  rcases s.disk.openTruncate_file job.staged with hfile | hfile
  · exact h.published.apart d hd job.staged ⟨stem, .json⟩ _ (by simp [Job.staged]) rfl hfile hi
  · rw [hfile] at hi
    exact absurd (h.published.used d hd _ _ hi) (lt_irrefl _)

/-- A report is removed. -/
lemma removed {gone : UInt64} (h : Refines serde stem s cell) :
    ∃ cell', run? Cell.step cell (if gone = stem then [.remove] else []) = some cell' ∧
      Refines serde stem { s with disk := s.disk.unlink ⟨gone, .json⟩ } cell' := by
  have htmp : (s.disk.unlink ⟨gone, .json⟩).names.lookup ⟨stem, .tmp⟩ =
      s.disk.names.lookup ⟨stem, .tmp⟩ := AList.lookup_erase_ne (by simp)
  have hpast : ∀ names ∈ (s.disk.unlink ⟨gone, .json⟩).history,
      reportIn serde s.disk.data stem names ∈ cell.now :: cell.past := h.known
  by_cases hgone : gone = stem
  · subst hgone
    rw [if_pos rfl]
    refine ⟨_, rfl, ?_⟩
    constructor
    · exact Cell.step_honest h.honest (show cell.step .remove = some _ from rfl)
    · exact h.published.unlink _
    · change reportIn serde s.disk.data gone (s.disk.names.erase ⟨gone, .json⟩) = none
      rw [reportIn, AList.lookup_erase]
      rfl
    · exact fun names hn => List.mem_cons_of_mem _ (hpast names hn)
    · exact h.single
    · intro v recorder hv hv'
      refine (h.progress v recorder hv hv').frame (hv' ▸ htmp) (fun _ _ => ⟨rfl, id⟩) ?_
      exact fun r hsee => ⟨.inr rfl, hsee.2⟩
    · intro v recorder i hv hv' hi
      exact htmp.trans_ne (h.others v recorder i hv hv' hi)
  · rw [if_neg hgone]
    refine ⟨cell, rfl, ?_⟩
    constructor
    · exact h.honest
    · exact h.published.unlink _
    · have hne : (⟨stem, .json⟩ : FileName) ≠ ⟨gone, .json⟩ := by simp [Ne.symm hgone]
      change reportIn serde s.disk.data stem (s.disk.names.erase ⟨gone, .json⟩) = cell.now
      rw [reportIn, AList.lookup_erase_ne hne]
      exact h.now
    · exact hpast
    · exact h.single
    · intro v recorder hv hv'
      exact (h.progress v recorder hv hv').frame (hv' ▸ htmp) (fun _ _ => ⟨rfl, id⟩)
        fun _ hsee => hsee
    · intro v recorder i hv hv' hi
      exact htmp.trans_ne (h.others v recorder i hv hv' hi)

/-- The power goes. -/
lemma lost (h : Refines serde stem s cell) (kept : ℕ) (left : ℕ → List UInt8) :
    ∃ cell', cell.step (.revert (Sys.lookup serde (s.disk.powerLoss kept left) stem)) =
        some cell' ∧
      Refines serde stem (⟨s.disk.powerLoss kept left, fun _ => none⟩ : Sys ι) cell' := by
  have hmem := s.disk.powerLoss_names_mem kept left
  -- what was published was synced
  have hsame : reportIn serde (s.disk.powerLoss kept left).data stem
      (s.disk.powerLoss kept left).names =
        reportIn serde s.disk.data stem (s.disk.powerLoss kept left).names := by
    rw [reportIn, reportIn]
    cases hi : (s.disk.powerLoss kept left).names.lookup ⟨stem, .json⟩ with
    | none => rfl
    | some i =>
        have hsynced := (h.published.sound _ hmem _ i rfl hi).2.1
        have hdata : (s.disk.powerLoss kept left).data i = s.disk.data i := if_pos hsynced
        rw [Option.map_some, Option.map_some, hdata]
  have hfound : Sys.lookup serde (s.disk.powerLoss kept left) stem ∈ cell.now :: cell.past := by
    have hknown := h.known _ hmem
    rw [← hsame] at hknown
    exact hknown
  refine ⟨_, if_pos hfound, ?_⟩
  constructor
  · exact Cell.step_honest h.honest (show cell.step (.revert _) = some _ from if_pos hfound)
  · exact h.published.powerLoss kept left fun i hi => by
      obtain ⟨v, recorder, hv, -⟩ := hi
      cases hv
  · rfl
  · exact fun names hn => absurd hn List.not_mem_nil
  · exact fun v _ recorder _ hv => by cases hv
  · exact fun v recorder hv => by cases hv
  · exact fun v recorder i hv => by cases hv

end Refines

/-! ### What a run does to it -/

variable [DecidableEq ι]

/-- What a step does to the report of a failure. -/
def opsOf (serde : Serde) (stem : UInt64) (s : Sys ι) : Event ι → List CellOp
  | .rename w =>
      match s.threads w with
      | some (.placing job _) =>
          if job.call.stem = stem ∧ (s.disk.rename job.staged job.target).isSome then
            [.place job.call job.seen]
          else []
      | _ => []
  | .remove removed => if removed = stem then [.remove] else []
  | .powerLoss kept left => [.revert (Sys.lookup serde (s.disk.powerLoss kept left) stem)]
  | _ => []

/-- What a run does. -/
def ops (serde : Serde) (stem : UInt64) : Sys ι → List (Event ι) → List CellOp
  | _, [] => []
  | s, event :: events =>
      opsOf serde stem s event ++
        match step serde s event with
        | none => []
        | some t => ops serde stem t events

/-- No thread begins to record the failure while one does. -/
def OneAtATime (stem : UInt64) (s : Sys ι) : Event ι → Prop
  | .enter _ call => call.stem = stem →
      ∀ w recorder, s.threads w = some recorder → recorder.call.stem ≠ stem
  | _ => True

/-! ### One step -/

/-- What holds of every thread, when one of them has gone on. -/
lemma forall_update {P : ι → Recorder → Prop} {threads : ι → Option Recorder}
    {next : Option Recorder} (hnext : ∀ recorder, next = some recorder → P w recorder)
    (hrest : ∀ v recorder, v ≠ w → threads v = some recorder → P v recorder) (v : ι)
    (recorder : Recorder) (h : Function.update threads w next v = some recorder) :
    P v recorder := by
  by_cases heq : v = w
  · subst heq
    exact hnext recorder (by rwa [Function.update_self] at h)
  · exact hrest v recorder heq (by rwa [Function.update_of_ne heq] at h)

lemma Single.update {threads : ι → Option Recorder} {next : Option Recorder}
    (h : Single stem threads)
    (hnext : ∀ recorder, next = some recorder → recorder.call.stem = stem →
      ∀ v other, threads v = some other → other.call.stem = stem → v = w) :
    Single stem (Function.update threads w next) := by
  intro v v' recorder recorder' hv hv' hstem hstem'
  by_cases heq : v = w
  · subst heq
    by_cases heq' : v' = v
    · exact heq'.symm
    · rw [Function.update_self] at hv
      rw [Function.update_of_ne heq'] at hv'
      exact (hnext recorder hv hstem v' recorder' hv' hstem').symm
  · rw [Function.update_of_ne heq] at hv
    by_cases heq' : v' = w
    · subst heq'
      rw [Function.update_self] at hv'
      exact hnext recorder' hv' hstem' v recorder hv hstem
    · rw [Function.update_of_ne heq'] at hv'
      exact h v v' recorder recorder' hv hv' hstem hstem'

/-- A thread that goes on with the same call. -/
lemma Single.goto {threads : ι → Option Recorder} {recorder next : Recorder}
    (h : Single stem threads) (hw : threads w = some recorder)
    (hcall : next.call = recorder.call) :
    Single stem (Function.update threads w (some next)) := by
  refine h.update fun new hnew hstem v other hv hother => ?_
  obtain rfl := Option.some.inj hnew
  exact h v w other recorder hv hw hother (hcall ▸ hstem)

namespace Refines

/-- A thread that has no file open goes on. -/
lemma goto (h : Refines serde stem s cell) {recorder : Recorder} (hfile : recorder.file = none)
    (hone : recorder.call.stem = stem → ∀ v other, s.threads v = some other →
      other.call.stem = stem → v = w)
    (hprogress : recorder.call.stem = stem → Progress serde s.disk cell recorder) :
    Refines serde stem (s.goto w recorder) cell where
  honest := h.honest
  published := by
    refine h.published.mono ?_ fun _ _ hwhole => hwhole
    rintro file ⟨v, other, hv, hother⟩
    refine forall_update (P := fun _ other => other.file = some file → Writing s file) ?_ ?_
      v other hv hother
    · intro new hnew hopen
      rw [← Option.some.inj hnew, hfile] at hopen
      cases hopen
    · exact fun v' other' _ hv' hopen => ⟨v', other', hv', hopen⟩
  now := h.now
  past := h.past
  single := h.single.update fun new hnew hstem => by
    obtain rfl := Option.some.inj hnew
    exact hone hstem
  progress := by
    refine forall_update ?_ fun v other _ hv => h.progress v other hv
    intro new hnew hstem
    obtain rfl := Option.some.inj hnew
    exact hprogress hstem
  others v other file hv := by
    refine forall_update (P := fun _ other => other.call.stem ≠ stem → other.file = some file →
      s.disk.names.lookup ⟨stem, .tmp⟩ ≠ some file) ?_ ?_ v other hv
    · intro new hnew _ hopen
      rw [← Option.some.inj hnew, hfile] at hopen
      cases hopen
    · exact fun v' other' _ hv' => h.others v' other' file hv'

lemma leave (h : Refines serde stem s cell) (w : ι) : Refines serde stem (s.leave w) cell :=
  h.fewer fun v recorder hv => forall_update (P := fun v recorder => s.threads v = some recorder)
    (fun _ hnone => by cases hnone) (fun _ _ _ hv => hv) v recorder hv

/-- A `.tmp` is created or emptied. -/
lemma opened {job : Job} (h : Refines serde stem s cell)
    (hw : s.threads w = some (.opening job)) :
    Refines serde stem ({ s with disk := (s.disk.openTruncate job.staged).1 }.goto w
      (.writing job (s.disk.openTruncate job.staged).2 0)) cell := by
  have hmoves : Moves serde s (.openStaged w) _ := .opened hw
  have hstates := hmoves.history
  obtain ⟨file, hfile⟩ : ∃ file, file = (s.disk.openTruncate job.staged).2 := ⟨_, rfl⟩
  have hdata := s.disk.openTruncate_data job.staged
  have hlookup := s.disk.openTruncate_lookup job.staged
  have hold := s.disk.openTruncate_file job.staged
  have hfree := h.unpublished job
  rw [← hfile] at hdata hlookup hold hfree hstates ⊢
  have hnames : s.disk.names ∈ s.disk.states := by simp [Disk.states]
  have hpublished : (s.disk.openTruncate job.staged).1.Published (· = ⟨stem, .json⟩)
      (fun _ bytes => ∃ r, bytes = serde.toVec r) (fun i => Writing s i ∨ i = file) :=
    h.published.openTruncate (by simp [Job.staged]) (by simp [hfile])
  -- another file that is known by name is not this one
  have hother : ∀ {name i}, name ≠ job.staged → s.disk.names.lookup name = some i → i ≠ file := by
    rintro name i hne hi rfl
    rcases hold with hold | rfl
    · exact hne (h.published.single _ hnames _ _ _ hi hold)
    · exact absurd (h.published.used _ hnames _ _ hi) (lt_irrefl _)
  constructor
  · exact h.honest
  · refine hpublished.mono ?_ fun _ _ hwhole => hwhole
    rintro i ⟨v, recorder, hv, hi⟩
    refine forall_update (P := fun _ recorder => recorder.file = some i → Writing s i ∨ i = file)
      ?_ ?_ v recorder hv hi
    · intro new hnew hi
      obtain rfl := Option.some.inj hnew
      exact .inr (Option.some.inj hi).symm
    · exact fun v' recorder' _ hv' hi => .inl ⟨v', recorder', hv', hi⟩
  · have hjson : (⟨stem, .json⟩ : FileName) ≠ job.staged := by simp [Job.staged]
    change reportIn serde (s.disk.openTruncate job.staged).1.data stem
      (s.disk.openTruncate job.staged).1.names = cell.now
    rw [reportIn, s.disk.openTruncate_lookup_ne hjson, hdata]
    exact (reportIn_update [] (hfree _ hnames)).trans h.now
  · intro names hn
    have hmem := hstates names hn
    change reportIn serde (s.disk.openTruncate job.staged).1.data stem names ∈ _
    rw [hdata, reportIn_update [] (hfree names hmem)]
    exact h.known names hmem
  · exact h.single.goto hw rfl
  · refine forall_update (P := fun _ recorder => recorder.call.stem = stem →
      Progress serde (s.disk.openTruncate job.staged).1 cell recorder) ?_ ?_
    · intro new hnew hstem
      obtain rfl := Option.some.inj hnew
      refine ⟨h.progress w _ hw hstem, hlookup, Nat.zero_le _, ?_⟩
      rw [hdata, Function.update_self, List.take_zero]
    · intro v recorder hne hv hstem
      -- `v` records the failure, so the thread that has opened a file does not
      have hstaged : (⟨recorder.call.stem, .tmp⟩ : FileName) ≠ job.staged := by
        intro heq
        exact hne (h.single v w _ _ hv hw hstem ((congrArg FileName.stem heq).symm.trans hstem))
      refine (h.progress v recorder hv hstem).frame (s.disk.openTruncate_lookup_ne hstaged) ?_
        fun _ hsee => hsee
      intro i hi
      have hne' := hother hstaged hi
      exact ⟨by rw [hdata, Function.update_of_ne hne'], fun hsynced => by
        rwa [s.disk.openTruncate_synced, ← hfile, Function.update_of_ne hne']⟩
  · intro v recorder i hv
    refine forall_update (P := fun _ recorder => recorder.call.stem ≠ stem →
      recorder.file = some i →
        (s.disk.openTruncate job.staged).1.names.lookup ⟨stem, .tmp⟩ ≠ some i) ?_ ?_ v recorder hv
    · intro new hnew hstem hi hname
      obtain rfl := Option.some.inj hnew
      obtain rfl := Option.some.inj hi
      have heq := hpublished.single _ (by simp [Disk.states]) _ _ _ hname hlookup
      exact hstem (congrArg FileName.stem heq).symm
    · intro v' recorder' hne hv' hstem hi hname
      by_cases hjob : (⟨stem, .tmp⟩ : FileName) = job.staged
      · rw [hjob, hlookup, Option.some.injEq] at hname
        subst hname
        rcases hold with hold | hnext
        · exact h.others v' recorder' _ hv' hstem hi (hjob ▸ hold)
        · rw [hnext] at hi
          exact absurd (h.published.open_used _ ⟨v', recorder', hv', hi⟩) (lt_irrefl _)
      · rw [s.disk.openTruncate_lookup_ne hjob] at hname
        exact h.others v' recorder' i hv' hstem hi hname

/-- Bytes are written to a `.tmp`. -/
lemma wrote {job : Job} {file pos bytes : ℕ} {taken : List UInt8} {recorder : Recorder}
    (h : Refines serde stem s cell) (hw : s.threads w = some (.writing job file pos))
    (htaken : taken = ((serde.toVec job.report).drop pos).take bytes)
    (hrecorder : (recorder = .syncing job file ∧
        (serde.toVec job.report).length ≤ pos + taken.length) ∨
      recorder = .writing job file (pos + taken.length)) :
    Refines serde stem ({ s with disk := s.disk.writeAt file pos taken }.goto w recorder)
      cell := by
  have hwriting : Writing s file := ⟨w, _, hw, rfl⟩
  have hcall : recorder.call = job.call := by
    rcases hrecorder with ⟨rfl, -⟩ | rfl <;> rfl
  have hfile : recorder.file = some file := by
    rcases hrecorder with ⟨rfl, -⟩ | rfl <;> rfl
  -- no directory that a power loss may bring back names the open file
  have hfree : ∀ d ∈ s.disk.states, d.lookup ⟨stem, .json⟩ ≠ some file :=
    fun d hd hi => (h.published.sound d hd _ file rfl hi).2.2 hwriting
  constructor
  · exact h.honest
  · refine (h.published.writeAt hwriting pos taken).mono ?_ fun _ _ hwhole => hwhole
    rintro i ⟨v, other, hv, hi⟩
    refine forall_update (P := fun _ other => other.file = some i → Writing s i) ?_ ?_ v other hv hi
    · intro new hnew hi
      obtain rfl := Option.some.inj hnew
      rw [hfile, Option.some.injEq] at hi
      exact hi ▸ hwriting
    · exact fun v' other' _ hv' hi => ⟨v', other', hv', hi⟩
  · exact (reportIn_update _ (hfree s.disk.names (by simp [Disk.states]))).trans h.now
  · intro names hn
    have hmem : names ∈ s.disk.states := List.mem_cons_of_mem _ hn
    have hsame := @reportIn_update serde s.disk.data stem names file
      (Disk.overwrite (s.disk.data file) pos taken) (hfree names hmem)
    exact hsame ▸ h.known names hmem
  · exact h.single.goto hw hcall
  · refine forall_update (P := fun _ other => other.call.stem = stem →
      Progress serde (s.disk.writeAt file pos taken) cell other) ?_ ?_
    · intro new hnew hstem
      obtain rfl := Option.some.inj hnew
      rw [hcall] at hstem
      obtain ⟨hseen, hname, hpos, hdata⟩ := h.progress w _ hw hstem
      -- the file held `pos` bytes of the report, and the next ones come behind them
      have hnow : (s.disk.writeAt file pos taken).data file =
          (serde.toVec job.report).take (pos + taken.length) := by
        have hlength : (s.disk.data file).length = pos := by rw [hdata, List.length_take_of_le hpos]
        have hself : taken = ((serde.toVec job.report).drop pos).take taken.length := by
          conv_lhs => rw [htaken]
          rw [htaken, List.length_take, ← List.take_eq_take_min]
        rw [Disk.writeAt_data, Function.update_self, ← hlength, Disk.overwrite_end, hlength,
          List.take_add, ← hself, hdata]
      rcases hrecorder with ⟨rfl, hall⟩ | rfl
      · exact ⟨hseen, hname, by rw [hnow, List.take_of_length_le hall]⟩
      · refine ⟨hseen, hname, ?_, hnow⟩
        have hle := List.length_take_le bytes ((serde.toVec job.report).drop pos)
        rw [htaken, List.length_take, List.length_drop]
        omega
    · intro v other hne hv hstem
      -- a thread with another report has another file
      have hjob : job.call.stem ≠ stem :=
        fun heq => hne (h.single v w _ _ hv hw hstem heq)
      refine (h.progress v other hv hstem).frame rfl ?_ fun _ hsee => hsee
      intro i hi
      have hne' : i ≠ file := by
        rintro rfl
        exact h.others w _ _ hw hjob rfl (hstem ▸ hi)
      exact ⟨Function.update_of_ne hne' _ _, fun hsynced => by
        rwa [Disk.writeAt_synced, Function.update_of_ne hne']⟩
  · intro v other i hv
    refine forall_update (P := fun _ other => other.call.stem ≠ stem → other.file = some i →
      s.disk.names.lookup ⟨stem, .tmp⟩ ≠ some i) ?_ ?_ v other hv
    · intro new hnew hstem hi
      obtain rfl := Option.some.inj hnew
      rw [hfile, Option.some.injEq] at hi
      rw [hcall] at hstem
      exact h.others w _ i hw hstem (congrArg some hi)
    · exact fun v' other' _ hv' => h.others v' other' i hv'

/-- A `.tmp` reaches the disk. -/
lemma synced {job : Job} {file : ℕ} (h : Refines serde stem s cell)
    (hw : s.threads w = some (.syncing job file)) :
    Refines serde stem ({ s with disk := s.disk.sync file }.goto w (.placing job file)) cell := by
  constructor
  · exact h.honest
  · refine (h.published.sync file).mono ?_ fun _ _ hwhole => hwhole
    rintro i ⟨v, other, hv, hi⟩
    refine forall_update (P := fun _ other => other.file = some i → Writing s i) ?_ ?_ v other hv hi
    · intro new hnew hi
      obtain rfl := Option.some.inj hnew
      exact ⟨w, _, hw, hi⟩
    · exact fun v' other' _ hv' hi => ⟨v', other', hv', hi⟩
  · exact h.now
  · exact h.past
  · exact h.single.goto hw rfl
  · refine forall_update (P := fun _ other => other.call.stem = stem →
      Progress serde (s.disk.sync file) cell other) ?_ ?_
    · intro new hnew hstem
      obtain rfl := Option.some.inj hnew
      obtain ⟨hseen, hname, hdata⟩ := h.progress w _ hw hstem
      exact ⟨hseen, hname, hdata, Function.update_self _ _ _⟩
    · intro v other _ hv hstem
      refine (h.progress v other hv hstem).frame rfl (fun i _ => ⟨rfl, fun hsynced => ?_⟩)
        fun _ hsee => hsee
      by_cases heq : i = file
      · exact heq ▸ Function.update_self _ _ _
      · rwa [Disk.sync_synced, Function.update_of_ne heq]
  · intro v other i hv
    refine forall_update (P := fun _ other => other.call.stem ≠ stem → other.file = some i →
      s.disk.names.lookup ⟨stem, .tmp⟩ ≠ some i) ?_ ?_ v other hv
    · intro new hnew hstem hi
      obtain rfl := Option.some.inj hnew
      exact h.others w _ i hw hstem hi
    · exact fun v' other' _ hv' => h.others v' other' i hv'

/-- The report of the failure is put in place. -/
lemma placed {job : Job} {file : ℕ} {disk : Disk FileName} (h : Refines serde stem s cell)
    (hw : s.threads w = some (.placing job file)) (hstem : job.call.stem = stem)
    (hrename : s.disk.rename job.staged job.target = some disk) :
    ∃ cell', cell.step (.place job.call job.seen) = some cell' ∧
      Refines serde stem ({ s with disk := disk }.leave w) cell' := by
  have hmoves : Moves serde s (.rename w) _ := .placed hw hrename
  have hstates := hmoves.history
  obtain ⟨hseen, hname, hdata, hsynced⟩ := h.progress w _ hw hstem
  have hstep : cell.step (.place job.call job.seen) = some
      ⟨some job.report, cell.now :: cell.past, (job.call, job.report) :: cell.log⟩ := if_pos hseen
  refine ⟨_, hstep, ?_⟩
  -- the others have other files open
  have halone : ∀ v recorder, v ≠ w → s.threads v = some recorder →
      recorder.call.stem ≠ stem ∧ recorder.file ≠ some file := by
    intro v recorder hne hv
    have hother : recorder.call.stem ≠ stem := fun heq => hne (h.single v w _ _ hv hw heq hstem)
    exact ⟨hother, fun hi => h.others v recorder file hv hother hi (hstem ▸ hname)⟩
  have hrest : ∀ v recorder, Function.update s.threads w none v = some recorder →
      v ≠ w ∧ s.threads v = some recorder :=
    forall_update (fun _ hnone => by cases hnone) fun v recorder hne hv => ⟨hne, hv⟩
  have hsame : disk.data = s.disk.data := by
    obtain ⟨i, -, rfl⟩ := Disk.rename_eq_some hrename
    rfl
  have htarget : disk.names.lookup ⟨stem, .json⟩ = some file := by
    obtain ⟨i, hi, rfl⟩ := Disk.rename_eq_some hrename
    obtain rfl := Option.some.inj (hi.symm.trans hname)
    rw [← hstem]
    exact AList.lookup_insert _
  have hpublished : disk.Published (· = ⟨stem, .json⟩) (fun _ bytes => ∃ r, bytes = serde.toVec r)
      (Writing ({ s with disk := disk }.leave w)) := by
    refine h.published.rename (by simp [Job.staged]) hname ?_ ?_ hrename
    · refine fun _ => ⟨⟨_, hdata⟩, hsynced, ?_⟩
      rintro ⟨v, recorder, hv, hi⟩
      obtain ⟨hne, hv⟩ := hrest v recorder hv
      exact (halone v recorder hne hv).2 hi
    · rintro i ⟨v, recorder, hv, hi⟩
      exact ⟨v, recorder, (hrest v recorder hv).2, hi⟩
  constructor
  · exact Cell.step_honest h.honest hstep
  · exact hpublished
  · change reportIn serde disk.data stem disk.names = some job.report
    rw [reportIn, htarget, Option.map_some, Option.bind_some, hsame, hdata, serde.fromSlice_toVec]
  · intro names hn
    change reportIn serde disk.data stem names ∈ _
    rw [hsame]
    exact List.mem_cons_of_mem _ (h.known names (hstates names hn))
  · exact h.single.update fun _ hnone => by cases hnone
  · intro v recorder hv hv'
    obtain ⟨hne, hv⟩ := hrest v recorder hv
    exact absurd hv' (halone v recorder hne hv).1
  · intro v recorder i hv _ hi hi'
    rw [← hstem] at hi'
    exact absurd (hi'.symm.trans (Disk.rename_lookup_source hrename (by simp [Job.target])))
      (by simp)

/-- Another report is put in place. -/
lemma placedOther {job : Job} {file : ℕ} {disk : Disk FileName} (h : Refines serde stem s cell)
    (hw : s.threads w = some (.placing job file)) (hstem : job.call.stem ≠ stem)
    (hrename : s.disk.rename job.staged job.target = some disk) :
    Refines serde stem ({ s with disk := disk }.leave w) cell := by
  have hmoves : Moves serde s (.rename w) _ := .placed hw hrename
  have hstates := hmoves.history
  have hrest : ∀ v recorder, Function.update s.threads w none v = some recorder →
      s.threads v = some recorder :=
    forall_update (fun _ hnone => by cases hnone) fun v recorder _ hv => hv
  have hsame : disk.data = s.disk.data ∧ disk.synced = s.disk.synced := by
    obtain ⟨i, -, rfl⟩ := Disk.rename_eq_some hrename
    exact ⟨rfl, rfl⟩
  obtain ⟨i, hi, -⟩ := Disk.rename_eq_some hrename
  -- the rename touches neither name of this report
  have hlookup : ∀ extension, disk.names.lookup ⟨stem, extension⟩ =
      s.disk.names.lookup ⟨stem, extension⟩ := by
    refine fun extension => Disk.rename_lookup_ne hrename ?_ ?_
    · exact fun heq => hstem (congrArg FileName.stem heq).symm
    · exact fun heq => hstem (congrArg FileName.stem heq).symm
  constructor
  · exact h.honest
  · refine h.published.rename (by simp [Job.staged]) hi ?_ ?_ hrename
    · exact fun heq => absurd (congrArg FileName.stem heq) hstem
    · rintro j ⟨v, recorder, hv, hj⟩
      exact ⟨v, recorder, hrest v recorder hv, hj⟩
  · change reportIn serde disk.data stem disk.names = cell.now
    rw [reportIn, hlookup, hsame.1]
    exact h.now
  · intro names hn
    change reportIn serde disk.data stem names ∈ _
    rw [hsame.1]
    exact h.known names (hstates names hn)
  · exact h.single.update fun _ hnone => by cases hnone
  · intro v recorder hv hv'
    refine (h.progress v recorder (hrest v recorder hv) hv').frame ?_ (fun j _ => ?_)
      fun _ hsee => hsee
    · rw [hv']
      exact hlookup .tmp
    · exact ⟨congrFun hsame.1 j, fun hj => (congrFun hsame.2 j).trans hj⟩
  · intro v recorder j hv hv' hj
    change disk.names.lookup ⟨stem, .tmp⟩ ≠ some j
    rw [hlookup]
    exact h.others v recorder j (hrest v recorder hv) hv' hj

/-- Each step is what the cell does. -/
lemma step {event : Event ι} (h : Refines serde stem s cell) (hone : OneAtATime stem s event)
    (hmoves : Moves serde s event t) :
    ∃ cell', run? Cell.step cell (opsOf serde stem s event) = some cell' ∧
      Refines serde stem t cell' := by
  have hsame : ∀ {v : ι} {recorder : Recorder}, s.threads v = some recorder →
      recorder.call.stem = stem → ∀ v' other, s.threads v' = some other →
        other.call.stem = stem → v' = v :=
    fun hv hstem v' other hv' hother => h.single v' _ other _ hv' hv hother hstem
  cases hmoves with
  | @entered v call hv =>
      exact ⟨cell, rfl, h.goto rfl (fun hstem v' other hv' hother =>
        absurd hother (hone hstem v' other hv')) fun _ => trivial⟩
  | @found v call seen hv hseen =>
      refine ⟨cell, rfl, h.goto rfl (fun hstem => hsame hv hstem) ?_⟩
      rintro hstem r hr
      obtain rfl := Option.some.inj hr
      have hnow : cell.now = some seen := by
        rw [← h.now, ← hstem]
        exact hseen
      exact ⟨.inl hnow, h.honest.placed _ List.mem_cons_self _ hnow⟩
  | @missed v call readable hv =>
      exact ⟨cell, rfl, h.goto rfl (fun hstem => hsame hv hstem) fun _ => trivial⟩
  | @full v call missed hv => exact ⟨cell, rfl, h.leave v⟩
  | @room v call missed hv =>
      exact ⟨cell, rfl, h.goto rfl (fun hstem => hsame hv hstem) fun _ r hr => by cases hr⟩
  | @opened v job hv => exact ⟨cell, rfl, h.opened hv⟩
  | @wrote v job file pos bytes taken recorder hv htaken hrecorder =>
      exact ⟨cell, rfl, h.wrote hv htaken hrecorder⟩
  | @synced v job file hv => exact ⟨cell, rfl, h.synced hv⟩
  | @placed v job file disk hv hrename =>
      rw [opsOf, hv]
      by_cases hstem : job.call.stem = stem
      · obtain ⟨cell', hstep, hnext⟩ := h.placed hv hstem hrename
        exact ⟨cell', by simp [hstem, hrename, run?, hstep], hnext⟩
      · exact ⟨cell, by simp [hstem], h.placedOther hv hstem hrename⟩
  | @gone v job file hv hrename =>
      rw [opsOf, hv]
      exact ⟨cell, by simp [hrename], h.leave v⟩
  | @failed v recorder hv => exact ⟨cell, rfl, h.leave v⟩
  | killed => exact ⟨cell, rfl, h.fewer fun v recorder hv => by cases hv⟩
  | removed => exact h.removed
  | @lost kept left =>
      obtain ⟨cell', hstep, hnext⟩ := h.lost kept left
      exact ⟨cell', by simp [opsOf, run?, hstep], hnext⟩

end Refines

/-! ### Runs -/

lemma run_refines (events : List (Event ι)) :
    ∀ {s t : Sys ι} {cell : Cell}, Refines serde stem s cell →
      Along? (step serde) (OneAtATime stem) s events → run? (step serde) s events = some t →
      ∃ cell', run? Cell.step cell (ops serde stem s events) = some cell' ∧
        Refines serde stem t cell' := by
  induction events with
  | nil =>
      intro s t cell h _ hrun
      obtain rfl := Option.some.inj hrun
      exact ⟨cell, rfl, h⟩
  | cons event events ih =>
      rintro s t cell h ⟨hone, hrest⟩ hrun
      obtain ⟨u, hu, hrun⟩ := run?_cons_eq_some.mp hrun
      rw [hu] at hrest
      obtain ⟨cell₁, h₁, hnext⟩ := h.step hone (moves_of_step hu)
      obtain ⟨cell', h₂, hends⟩ := ih hnext hrest hrun
      refine ⟨cell', ?_, hends⟩
      rw [ops, hu, run?_append, h₁]
      exact h₂

/-- **A whole file or none**: in every run in which no two threads record the failure at
once, whatever else is recorded, removed, fails, crashes or is lost with the power, the
report of the failure changes only by what its cell does, each time at once: the file can be
read and is what the cell holds, and that sums up calls that put a report in place, in their
order. -/
theorem report_refines (events : List (Event ι))
    (hrun : run? (step serde) Sys.init events = some s)
    (hone : Along? (step serde) (OneAtATime stem) Sys.init events) :
    ∃ cell, run? Cell.step .empty (ops serde stem Sys.init events) = some cell ∧
      s.disk.read ⟨stem, .json⟩ = cell.now.map serde.toVec ∧
      ∀ r, cell.now = some r → ∃ calls, Sums calls r ∧ calls.Sublist (cell.log.map Prod.fst) := by
  obtain ⟨cell, hcell, h⟩ := run_refines events (init_refines serde stem) hone hrun
  refine ⟨cell, hcell, ?_, fun r hr => h.honest.sums r
    (h.honest.placed _ List.mem_cons_self r hr)⟩
  rw [← h.now, reportIn, ← Disk.read]
  cases hread : s.disk.read ⟨stem, .json⟩ with
  | none => rfl
  | some bytes =>
      obtain ⟨r, rfl⟩ := h.published.whole_of_read rfl hread
      rw [Option.bind_some, serde.fromSlice_toVec, Option.map_some]

/-- What a thread records of an error, and another of a panic. -/
def exitedCall : Call := ⟨"0.1.0".toList, "exited".toList, "bind: pid 41 holds it".toList, 10⟩

def panickedCall : Call := ⟨"0.1.0".toList, "panicked".toList, "guard: poisoned".toList, 11⟩

/-- The daemon is killed when one report is in place and the other half written. -/
def killedRecord : List (Event Bool) :=
  [.enter true exitedCall, .enter false panickedCall, .look false true, .look true true,
    .count true 0, .count false 0, .openStaged false, .openStaged true, .write true 40,
    .write false 40, .write true 4096, .sync true, .rename true, .kill]

instance [Fintype ι] (stem : UInt64) (s : Sys ι) (event : Event ι) :
    Decidable (OneAtATime stem s event) :=
  match event with
  | .enter _ call => inferInstanceAs
      (Decidable (call.stem = stem → ∀ w, ∀ recorder ∈ s.threads w, recorder.call.stem ≠ stem))
  | .look _ _ | .count _ _ | .openStaged _ | .write _ _ | .sync _ | .rename _ | .fail _ | .kill
  | .remove _ | .powerLoss _ _ => isTrue trivial

theorem report_refines_killed :
    ∃ s cell, run? (step serdeJson) Sys.init killedRecord = some s ∧
      s.disk.read ⟨exitedCall.stem, .json⟩ = Option.map serdeJson.toVec (Cell.now cell) := by
  have hends : (run? (step serdeJson) Sys.init killedRecord).isSome = true := by decide +kernel
  obtain ⟨s, hs⟩ := Option.isSome_iff_exists.mp hends
  have hone : Along? (step serdeJson) (OneAtATime exitedCall.stem) Sys.init killedRecord := by
    decide +kernel
  obtain ⟨cell, -, hread, -⟩ := report_refines killedRecord hs hone
  exact ⟨s, cell, hs, hread⟩

/-- Two threads that record the same failure at once can leave an empty file. -/
example : ((run? (step serdeJson) Sys.init
    [.enter true exitedCall, .enter false exitedCall, .look true true, .look false true,
      .count true 0, .count false 0, .openStaged true, .write true 4096, .sync true,
      .openStaged false, .rename true]).bind fun s => s.disk.read ⟨exitedCall.stem, .json⟩) =
    some [] := by decide +kernel

end SkylineSpeeder.Reports
