import SkylineSpeeder.Machine.Disk
import SkylineSpeeder.Machine.Run
import SkylineSpeeder.Reports.Report

/-!
`record_in` of skyline-speederd, one system call at a time.

Any number of threads record, each at its own place in the function, while ssctl removes
what it has asked about; a call may fail, the daemon may be killed and the power may go at
any moment.

* `Recorder`, `Sys`, `step`: where a thread is, the threads and the directory, and what can
  happen next;
* `Call.report`: what is written of a call;
* `Moves`, `moves_of_step`: what each step does, and when it is taken;
* `claimed`, `Capped`: the failures that have a report or are about to, and how many;
* `waiting_le`: the cap: with `k` threads whose counts miss at most `m` reports there are
  never more than `DAEMON_REPORTS_MAX - 1 + m + k` of them.
-/

namespace SkylineSpeeder.Reports

open Scrub Machine

/-! ### The files -/

inductive Extension where
  | json | tmp
  deriving DecidableEq

/-- A file in `DAEMON_REPORTS_DIR`: sixteen hexadecimal digits, and `.json` or `.tmp`. -/
structure FileName where
  stem : UInt64
  extension : Extension
  deriving DecidableEq

/-- `DAEMON_REPORTS_MAX`. -/
def daemonReportsMax : ℕ := 10

/-- The failures that have a report in a directory. -/
def stems (names : Directory FileName) : List UInt64 :=
  (names.keys.filter fun name => name.extension = .json).map FileName.stem

/-- `waiting`. -/
def waiting (names : Directory FileName) : ℕ := (stems names).length

/-! ### Calls -/

/-- A call of `record`, by a daemon of some version. -/
structure Call where
  version : List Char
  kind : List Char
  message : List Char
  now : UInt64
  deriving DecidableEq

/-- The failure that a call is about. -/
def Call.stem (call : Call) : UInt64 := fingerprint (utf8 call.kind) (utf8 call.message)

/-- `u64::saturating_add(1)`. -/
def saturatingSucc (n : UInt64) : UInt64 := if n.toNat + 1 < 2 ^ 64 then n + 1 else n

/-- What is written of a call, when this was there before. -/
def Call.report (call : Call) : Option DaemonReport → DaemonReport
  | some seen => { seen with lastSeen := call.now, count := saturatingSucc seen.count }
  | none => ⟨call.version, call.kind, call.message, call.now, call.now, 1⟩

/-- A call that has found out what was there before. -/
structure Job where
  call : Call
  seen : Option DaemonReport
  deriving DecidableEq

/-- `path`. -/
def Job.target (job : Job) : FileName := ⟨job.call.stem, .json⟩

/-- `path.with_extension("tmp")`. -/
def Job.staged (job : Job) : FileName := ⟨job.call.stem, .tmp⟩

def Job.report (job : Job) : DaemonReport := job.call.report job.seen

/-! ### Steps -/

/-- Where a thread is in `record_in`: before `fs::read`, before `fs::read_dir`, before the
`open`, with `pos` bytes written, before `sync_all`, and before `fs::rename`. -/
inductive Recorder where
  | looking (call : Call)
  | counting (call : Call)
  | opening (job : Job)
  | writing (job : Job) (file pos : ℕ)
  | syncing (job : Job) (file : ℕ)
  | placing (job : Job) (file : ℕ)
  deriving DecidableEq

def Recorder.call : Recorder → Call
  | looking call | counting call => call
  | opening job | writing job _ _ | syncing job _ | placing job _ => job.call

/-- The file that a thread has open for writing. -/
def Recorder.file : Recorder → Option ℕ
  | looking _ | counting _ | opening _ => none
  | writing _ file _ | syncing _ file | placing _ file => some file

/-- The report that a thread is about to write. -/
def Recorder.job : Recorder → Option Job
  | looking _ | counting _ => none
  | opening job | writing job _ _ | syncing job _ | placing job _ => some job

/-- The directory, and the threads that are in `record_in`. -/
structure Sys (ι : Type) where
  disk : Disk FileName
  threads : ι → Option Recorder

/-- What happens next: a thread calls `record`, or goes on where it is (`look` with an
`fs::read` that works or does not, `count` with the reports it does not see, `write` with the
bytes that one system call takes), or fails there; the daemon is killed; ssctl removes a
report; the power goes. -/
inductive Event (ι : Type) where
  | enter (w : ι) (call : Call)
  | look (w : ι) (readable : Bool)
  | count (w : ι) (missed : ℕ)
  | openStaged (w : ι)
  | write (w : ι) (bytes : ℕ)
  | sync (w : ι)
  | rename (w : ι)
  | fail (w : ι)
  | kill
  | remove (stem : UInt64)
  | powerLoss (kept : ℕ) (left : ℕ → List UInt8)

variable {ι : Type} [DecidableEq ι]

namespace Sys

def init : Sys ι := ⟨.empty, fun _ => none⟩

def goto (s : Sys ι) (w : ι) (recorder : Recorder) : Sys ι :=
  { s with threads := Function.update s.threads w (some recorder) }

/-- `record_in` returns. -/
def leave (s : Sys ι) (w : ι) : Sys ι :=
  { s with threads := Function.update s.threads w none }

/-- The report of a failure, as `serde_json` reads it. -/
def lookup (serde : Serde) (disk : Disk FileName) (stem : UInt64) : Option DaemonReport :=
  (disk.read ⟨stem, .json⟩).bind serde.fromSlice

/-- One step of a thread, from where it is. -/
def advance (serde : Serde) (s : Sys ι) (w : ι) : Recorder → Event ι → Option (Sys ι)
  | .looking call, .look _ readable =>
      match if readable then lookup serde s.disk call.stem else none with
      | some seen => some (s.goto w (.opening ⟨call, some seen⟩))
      | none => some (s.goto w (.counting call))
  | .counting call, .count _ missed =>
      -- `filter_map` drops an error of `readdir`, and the rest of the directory with it
      if daemonReportsMax ≤ waiting s.disk.names - missed then some (s.leave w)
      else some (s.goto w (.opening ⟨call, none⟩))
  | .opening job, .openStaged _ =>
      let opened := s.disk.openTruncate job.staged
      some ({ s with disk := opened.1 }.goto w (.writing job opened.2 0))
  | .writing job file pos, .write _ bytes =>
      let taken := ((serde.toVec job.report).drop pos).take bytes
      some ({ s with disk := s.disk.writeAt file pos taken }.goto w
        (if (serde.toVec job.report).length ≤ pos + taken.length then .syncing job file
          else .writing job file (pos + taken.length)))
  | .syncing job file, .sync _ =>
      some ({ s with disk := s.disk.sync file }.goto w (.placing job file))
  | .placing job _, .rename _ =>
      match s.disk.rename job.staged job.target with
      | some disk => some ({ s with disk := disk }.leave w)
      | none => some (s.leave w)
  | _, _ => none

end Sys

open Sys

/-- One step. -/
def step (serde : Serde) (s : Sys ι) (event : Event ι) : Option (Sys ι) :=
  match event with
  | .enter w call =>
      match s.threads w with
      | none => some (s.goto w (.looking call))
      | some _ => none
  | .look w _ | .count w _ | .openStaged w | .write w _ | .sync w | .rename w =>
      (s.threads w).bind fun recorder => s.advance serde w recorder event
  | .fail w => (s.threads w).map fun _ => s.leave w
  | .kill => some { s with threads := fun _ => none }
  | .remove stem => some { s with disk := s.disk.unlink ⟨stem, .json⟩ }
  | .powerLoss kept left => some ⟨s.disk.powerLoss kept left, fun _ => none⟩

/-- What each step does, and when it is taken. -/
inductive Moves (serde : Serde) (s : Sys ι) : Event ι → Sys ι → Prop where
  | entered {w : ι} {call : Call} (h : s.threads w = none) :
      Moves serde s (.enter w call) (s.goto w (.looking call))
  | found {w : ι} {call : Call} {seen : DaemonReport} (h : s.threads w = some (.looking call))
      (hseen : lookup serde s.disk call.stem = some seen) :
      Moves serde s (.look w true) (s.goto w (.opening ⟨call, some seen⟩))
  | missed {w : ι} {call : Call} {readable : Bool} (h : s.threads w = some (.looking call)) :
      Moves serde s (.look w readable) (s.goto w (.counting call))
  | full {w : ι} {call : Call} {missed : ℕ} (h : s.threads w = some (.counting call)) :
      Moves serde s (.count w missed) (s.leave w)
  | room {w : ι} {call : Call} {missed : ℕ} (h : s.threads w = some (.counting call))
      (hroom : waiting s.disk.names < daemonReportsMax + missed) :
      Moves serde s (.count w missed) (s.goto w (.opening ⟨call, none⟩))
  | opened {w : ι} {job : Job} (h : s.threads w = some (.opening job)) :
      Moves serde s (.openStaged w)
        ({ s with disk := (s.disk.openTruncate job.staged).1 }.goto w
          (.writing job (s.disk.openTruncate job.staged).2 0))
  | wrote {w : ι} {job : Job} {file pos bytes : ℕ} {taken : List UInt8} {recorder : Recorder}
      (h : s.threads w = some (.writing job file pos))
      (htaken : taken = ((serde.toVec job.report).drop pos).take bytes)
      (hrecorder : (recorder = .syncing job file ∧
          (serde.toVec job.report).length ≤ pos + taken.length) ∨
        recorder = .writing job file (pos + taken.length)) :
      Moves serde s (.write w bytes)
        ({ s with disk := s.disk.writeAt file pos taken }.goto w recorder)
  | synced {w : ι} {job : Job} {file : ℕ} (h : s.threads w = some (.syncing job file)) :
      Moves serde s (.sync w) ({ s with disk := s.disk.sync file }.goto w (.placing job file))
  | placed {w : ι} {job : Job} {file : ℕ} {disk : Disk FileName}
      (h : s.threads w = some (.placing job file))
      (hrename : s.disk.rename job.staged job.target = some disk) :
      Moves serde s (.rename w) ({ s with disk := disk }.leave w)
  | gone {w : ι} {job : Job} {file : ℕ} (h : s.threads w = some (.placing job file))
      (hrename : s.disk.rename job.staged job.target = none) :
      Moves serde s (.rename w) (s.leave w)
  | failed {w : ι} {recorder : Recorder} (h : s.threads w = some recorder) :
      Moves serde s (.fail w) (s.leave w)
  | killed : Moves serde s .kill { s with threads := fun _ => none }
  | removed {stem : UInt64} :
      Moves serde s (.remove stem) { s with disk := s.disk.unlink ⟨stem, .json⟩ }
  | lost {kept : ℕ} {left : ℕ → List UInt8} :
      Moves serde s (.powerLoss kept left) ⟨s.disk.powerLoss kept left, fun _ => none⟩

lemma moves_of_advance {serde : Serde} {s t : Sys ι} {w : ι} {recorder : Recorder}
    {event : Event ι} (hw : s.threads w = some recorder)
    (hevent : ∀ v, (event = .openStaged v ∨ event = .sync v ∨ event = .rename v ∨
      (∃ missed, event = .count v missed) ∨ (∃ readable, event = .look v readable) ∨
      ∃ bytes, event = .write v bytes) → v = w)
    (h : s.advance serde w recorder event = some t) : Moves serde s event t := by
  unfold advance at h
  split at h
  · rename_i v readable
    obtain rfl := hevent v (by simp)
    split at h
    · rename_i hseen
      obtain rfl := Option.some.inj h
      cases readable with
      | true => exact .found hw hseen
      | false => cases hseen
    · obtain rfl := Option.some.inj h
      exact .missed hw
  · rename_i v missed
    obtain rfl := hevent v (by simp)
    split_ifs at h with hfull
    · obtain rfl := Option.some.inj h
      exact .full hw
    · obtain rfl := Option.some.inj h
      have hsome : 0 < daemonReportsMax := by decide
      exact .room hw (by omega)
  · rename_i v
    obtain rfl := hevent v (by simp)
    obtain rfl := Option.some.inj h
    exact .opened hw
  · rename_i v bytes
    obtain rfl := hevent v (by simp)
    obtain rfl := Option.some.inj h
    refine .wrote hw rfl ?_
    split_ifs with hall
    · exact .inl ⟨rfl, hall⟩
    · exact .inr rfl
  · rename_i v
    obtain rfl := hevent v (by simp)
    obtain rfl := Option.some.inj h
    exact .synced hw
  · rename_i v
    obtain rfl := hevent v (by simp)
    split at h
    · rename_i hrename
      obtain rfl := Option.some.inj h
      exact .placed hw hrename
    · rename_i hrename
      obtain rfl := Option.some.inj h
      exact .gone hw hrename
  · cases h

lemma moves_of_step {serde : Serde} {s t : Sys ι} {event : Event ι}
    (h : step serde s event = some t) : Moves serde s event t := by
  cases event with
  | enter w call =>
      rw [step] at h
      split at h
      · rename_i hw
        obtain rfl := Option.some.inj h
        exact .entered hw
      · cases h
  | look | count | openStaged | write | sync | rename =>
      obtain ⟨recorder, hw, h⟩ := Option.bind_eq_some_iff.mp h
      exact moves_of_advance hw (by simp) h
  | fail w =>
      obtain ⟨recorder, hw, rfl⟩ := Option.map_eq_some_iff.mp h
      exact .failed hw
  | kill =>
      obtain rfl := Option.some.inj h
      exact .killed
  | remove stem =>
      obtain rfl := Option.some.inj h
      exact .removed
  | powerLoss kept left =>
      obtain rfl := Option.some.inj h
      exact .lost

/-! ### The cap -/

lemma mem_stems {names : Directory FileName} {stem : UInt64} :
    stem ∈ stems names ↔ (⟨stem, .json⟩ : FileName) ∈ names := by
  rw [AList.mem_keys]
  simp only [stems, List.mem_map, List.mem_filter, decide_eq_true_eq]
  constructor
  · rintro ⟨⟨_, _⟩, ⟨hmem, rfl⟩, rfl⟩
    exact hmem
  · exact fun hmem => ⟨_, ⟨hmem, rfl⟩, rfl⟩

lemma nodup_stems (names : Directory FileName) : (stems names).Nodup := by
  refine List.Nodup.map_on ?_ (names.keys_nodup.filter _)
  rintro ⟨_, _⟩ ha ⟨_, _⟩ hb rfl
  have ha := of_decide_eq_true (List.mem_filter.mp ha).2
  have hb := of_decide_eq_true (List.mem_filter.mp hb).2
  simp_all

/-- A directory with a `.tmp` more has the same reports. -/
lemma mem_stems_openTruncate {disk : Disk FileName} {job : Job} {stem : UInt64} :
    stem ∈ stems (disk.openTruncate job.staged).1.names ↔ stem ∈ stems disk.names := by
  have hne : (⟨stem, .json⟩ : FileName) ≠ job.staged := by simp [Job.staged]
  rw [Disk.openTruncate]
  split
  · exact Iff.rfl
  · simp [mem_stems, Disk.put, Disk.change, AList.mem_insert, hne]

lemma mem_stems_rename {disk disk' : Disk FileName} {job : Job} {stem : UInt64}
    (h : disk.rename job.staged job.target = some disk') (hstem : stem ∈ stems disk'.names) :
    stem = job.call.stem ∨ stem ∈ stems disk.names := by
  obtain ⟨i, -, rfl⟩ := Disk.rename_eq_some h
  rw [mem_stems] at hstem ⊢
  rcases (AList.mem_insert _).mp hstem with heq | hmem
  · exact .inl (congrArg FileName.stem heq)
  · exact .inr (AList.mem_erase.mp hmem).2

/-- What the directory was before, it was before the step too, or at the step. -/
lemma Moves.history {serde : Serde} {s t : Sys ι} {event : Event ι} (h : Moves serde s event t) :
    ∀ d ∈ t.disk.history, d ∈ s.disk.states := by
  have hkeep : ∀ d ∈ s.disk.history, d ∈ s.disk.states := fun d hd => List.mem_cons_of_mem _ hd
  cases h with
  | entered | found | missed | full | room | wrote | synced | gone | failed | killed => exact hkeep
  | opened =>
      intro d hd
      simp only [goto, Disk.openTruncate] at hd
      split at hd
      · exact hkeep d hd
      · exact hd
  | placed _ hrename =>
      obtain ⟨i, -, rfl⟩ := Disk.rename_eq_some hrename
      exact fun d hd => hd
  | removed => exact fun d hd => hd
  | lost => exact fun d hd => absurd hd List.not_mem_nil

section Cap

variable {ι : Type} [Fintype ι]

/-- The failures that a thread is about to write a report of. -/
def targets (s : Sys ι) : Finset UInt64 :=
  Finset.univ.biUnion fun w =>
    (((s.threads w).bind Recorder.job).map fun job => job.call.stem).toFinset

/-- The failures that have a report or are about to. -/
def claimed (s : Sys ι) : Finset UInt64 := (stems s.disk.names).toFinset ∪ targets s

lemma mem_targets {s : Sys ι} {stem : UInt64} : stem ∈ targets s ↔
    ∃ w recorder job, s.threads w = some recorder ∧ recorder.job = some job ∧
      job.call.stem = stem := by
  simp [targets, Option.bind_eq_some_iff]

lemma card_targets_le (s : Sys ι) : (targets s).card ≤ Fintype.card ι := by
  have hone : ∀ w ∈ (Finset.univ : Finset ι),
      (((s.threads w).bind Recorder.job).map fun job => job.call.stem).toFinset.card ≤ 1 := by
    intro w _
    cases ((s.threads w).bind Recorder.job).map fun job => job.call.stem <;> simp
  have hle := Finset.card_biUnion_le_card_mul _ _ 1 hone
  rwa [mul_one] at hle

lemma waiting_le_claimed (s : Sys ι) : waiting s.disk.names ≤ (claimed s).card := by
  rw [waiting, ← List.toFinset_card_of_nodup (nodup_stems _)]
  exact Finset.card_le_card Finset.subset_union_left

lemma claimed_le (s : Sys ι) :
    (claimed s).card ≤ waiting s.disk.names + Fintype.card ι := by
  rw [waiting, ← List.toFinset_card_of_nodup (nodup_stems _)]
  exact (Finset.card_union_le _ _).trans (Nat.add_le_add_left (card_targets_le s) _)

/-- Few enough reports are claimed, and no directory that can come back has more. -/
def Capped (m : ℕ) (s : Sys ι) : Prop :=
  (claimed s).card ≤ daemonReportsMax - 1 + m + Fintype.card ι ∧
    ∀ d ∈ s.disk.history, waiting d ≤ daemonReportsMax - 1 + m + Fintype.card ι

/-- A count misses at most `m` reports. -/
def Event.MissesAtMost {ι : Type} (m : ℕ) : Event ι → Prop
  | .count _ missed => missed ≤ m
  | _ => True

instance {ι : Type} (m : ℕ) (event : Event ι) : Decidable (event.MissesAtMost m) := by
  cases event <;> unfold Event.MissesAtMost <;> infer_instance

lemma Capped.states {m : ℕ} {s : Sys ι} (h : Capped m s) :
    ∀ d ∈ s.disk.states, waiting d ≤ daemonReportsMax - 1 + m + Fintype.card ι := by
  intro d hd
  rcases List.mem_cons.mp hd with rfl | hd
  · exact (waiting_le_claimed s).trans h.1
  · exact h.2 d hd

variable [DecidableEq ι] {serde : Serde} {s t : Sys ι} {m : ℕ}

/-- A step claims nothing new if its thread leaves, or its report is claimed already. -/
lemma claimed_subset {w : ι} {next : Option Recorder}
    (hthreads : t.threads = Function.update s.threads w next)
    (hnext : ∀ recorder job, next = some recorder → recorder.job = some job →
      job.call.stem ∈ claimed s) (hnames : ∀ stem ∈ stems t.disk.names, stem ∈ claimed s) :
    claimed t ⊆ claimed s := by
  intro stem hstem
  rcases Finset.mem_union.mp hstem with hstem | hstem
  · exact hnames stem (List.mem_toFinset.mp hstem)
  · obtain ⟨v, recorder, job, hv, hjob, rfl⟩ := mem_targets.mp hstem
    rw [hthreads] at hv
    by_cases heq : v = w
    · subst heq
      rw [Function.update_self] at hv
      exact hnext recorder job hv hjob
    · rw [Function.update_of_ne heq] at hv
      exact Finset.mem_union_right _ (mem_targets.mpr ⟨v, recorder, job, hv, hjob, rfl⟩)

/-- A step claims nothing new, except where it has just counted few enough reports, of which
it missed some; a power loss leaves a directory that there was. -/
lemma Moves.claimed {event : Event ι} (h : Moves serde s event t) (hm : event.MissesAtMost m) :
    claimed t ⊆ claimed s ∨ waiting t.disk.names < daemonReportsMax + m ∨
      (targets t = ∅ ∧ t.disk.names ∈ s.disk.states) := by
  have hkeep : ∀ stem ∈ stems s.disk.names, stem ∈ Reports.claimed s :=
    fun stem hstem => Finset.mem_union_left _ (List.mem_toFinset.mpr hstem)
  have hjob : ∀ {w recorder job}, s.threads w = some recorder → recorder.job = some job →
      job.call.stem ∈ Reports.claimed s := fun hw hjob =>
    Finset.mem_union_right _ (mem_targets.mpr ⟨_, _, _, hw, hjob, rfl⟩)
  cases h with
  | entered | missed =>
      refine .inl (claimed_subset rfl ?_ hkeep)
      rintro _ _ heq hnew
      obtain rfl := Option.some.inj heq
      cases hnew
  | full | gone | failed =>
      exact .inl (claimed_subset rfl (fun _ _ heq => by cases heq) hkeep)
  | @found w call seen _ hseen =>
      refine .inl (claimed_subset rfl ?_ hkeep)
      rintro _ _ heq hnew
      obtain rfl := Option.some.inj heq
      obtain rfl := Option.some.inj hnew
      -- what was read is there
      obtain ⟨bytes, hread, -⟩ := Option.bind_eq_some_iff.mp hseen
      obtain ⟨i, hi, -⟩ := Option.map_eq_some_iff.mp hread
      exact hkeep _ (mem_stems.mpr (AList.lookup_isSome.mp (by rw [hi]; rfl)))
  | room _ hroom => exact .inr (.inl (hroom.trans_le (Nat.add_le_add_left hm _)))
  | @opened w job hw =>
      refine .inl (claimed_subset rfl ?_ fun stem hstem =>
        hkeep _ (mem_stems_openTruncate.mp hstem))
      rintro _ _ heq hnew
      obtain rfl := Option.some.inj heq
      obtain rfl := Option.some.inj hnew
      exact hjob hw rfl
  | @wrote w job file pos bytes taken recorder hw _ hrecorder =>
      refine .inl (claimed_subset rfl ?_ hkeep)
      rintro _ _ heq hnew
      obtain rfl := Option.some.inj heq
      have hsame : recorder.job = some job := by
        rcases hrecorder with ⟨rfl, -⟩ | rfl <;> rfl
      obtain rfl := Option.some.inj (hsame.symm.trans hnew)
      exact hjob hw rfl
  | @synced w job file hw =>
      refine .inl (claimed_subset rfl ?_ hkeep)
      rintro _ _ heq hnew
      obtain rfl := Option.some.inj heq
      obtain rfl := Option.some.inj hnew
      exact hjob hw rfl
  | @placed w job file disk hw hrename =>
      refine .inl (claimed_subset rfl (fun _ _ heq => by cases heq) fun stem hstem => ?_)
      rcases mem_stems_rename hrename hstem with rfl | hstem
      · exact hjob hw rfl
      · exact hkeep stem hstem
  | killed =>
      refine .inl (Finset.union_subset_union_right fun stem hstem => ?_)
      obtain ⟨w, recorder, job, hw, -⟩ := mem_targets.mp hstem
      cases hw
  | @removed stem =>
      refine .inl (Finset.union_subset_union_left fun stem' hstem => ?_)
      rw [List.mem_toFinset, mem_stems] at hstem ⊢
      exact (AList.mem_erase.mp hstem).2
  | @lost kept left =>
      refine .inr (.inr ⟨?_, ?_⟩)
      · refine Finset.eq_empty_of_forall_notMem fun stem hstem => ?_
        obtain ⟨w, recorder, job, hw, -⟩ := mem_targets.mp hstem
        cases hw
      · exact Disk.powerLoss_names_mem s.disk kept left

lemma Capped.step {event : Event ι} (h : Capped m s) (hm : event.MissesAtMost m)
    (hstep : step serde s event = some t) : Capped m t := by
  have hmoves := moves_of_step hstep
  refine ⟨?_, fun d hd => h.states d (hmoves.history d hd)⟩
  rcases hmoves.claimed hm with hsub | hfew | ⟨hnone, hmem⟩
  · exact (Finset.card_le_card hsub).trans h.1
  · have hle := claimed_le t
    omega
  · have hle := h.states _ hmem
    rwa [Reports.claimed, hnone, Finset.union_empty,
      List.toFinset_card_of_nodup (nodup_stems _)]

/-- **The cap**: however the threads that record are interleaved, whatever of it fails and
whatever a power loss brings back, if no count misses more than `m` of the reports there are at
most `DAEMON_REPORTS_MAX` and `m` reports, and one more for each thread but the first. -/
theorem waiting_le (m : ℕ) (events : List (Event ι)) (hm : ∀ event ∈ events, event.MissesAtMost m)
    (h : run? (Reports.step serde) init events = some s) :
    waiting s.disk.names ≤ daemonReportsMax - 1 + m + Fintype.card ι := by
  have hinit : Capped m (init : Sys ι) := by
    have hnone : claimed (init : Sys ι) = ∅ := by
      refine Finset.eq_empty_of_forall_notMem fun stem hstem => ?_
      rcases Finset.mem_union.mp hstem with hstem | hstem
      · cases List.mem_toFinset.mp hstem
      · obtain ⟨w, recorder, job, hw, -⟩ := mem_targets.mp hstem
        cases hw
    exact ⟨by simp [hnone], fun d hd => absurd hd List.not_mem_nil⟩
  have hcapped := run?_invariant (I := Capped m) (P := Event.MissesAtMost m)
    (fun _ _ _ hs hm hstep => hs.step hm hstep) events _ _ hinit hm h
  exact (waiting_le_claimed s).trans hcapped.1

end Cap

/-- A failure of its own for each letter. -/
def lettered (c : Char) : Call := ⟨"0.1.0".toList, "exited".toList, [c], 10⟩

/-- A thread puts in place what it is about to write. -/
def putInPlace (w : Bool) : List (Event Bool) :=
  [.openStaged w, .write w 4096, .sync w, .rename w]

/-- One failure after another. -/
def oneByOne (letters : List Char) : List (Event Bool) :=
  letters.flatMap fun c => [.enter true (lettered c), .look true true, .count true 0] ++
    putInPlace true

/-- Two failures at once: each thread counts before the other has its report in place. -/
def bothAtOnce (c d : Char) (missed : ℕ) : List (Event Bool) :=
  [.enter true (lettered c), .enter false (lettered d), .look true true, .look false true,
    .count true missed, .count false missed] ++ putInPlace true ++ putInPlace false

/-- Two threads reach the cap, and the higher one where their counts miss two reports. -/
theorem waiting_le_bothAtOnce :
    (∃ s, run? (step serdeJson) init (oneByOne "abcdefghi".toList ++ bothAtOnce 'j' 'k' 0) =
        some s ∧ waiting s.disk.names = daemonReportsMax - 1 + 0 + Fintype.card Bool) ∧
      ∃ s, run? (step serdeJson) init
          (oneByOne "abcdefghi".toList ++ bothAtOnce 'j' 'k' 0 ++ bothAtOnce 'l' 'm' 2) =
        some s ∧ waiting s.disk.names = daemonReportsMax - 1 + 2 + Fintype.card Bool := by
  constructor
  · have hends : ((run? (step serdeJson) init
        (oneByOne "abcdefghi".toList ++ bothAtOnce 'j' 'k' 0)).map
          fun s => waiting s.disk.names) = some 11 := by decide +kernel
    obtain ⟨s, hs, hwaiting⟩ := Option.map_eq_some_iff.mp hends
    exact ⟨s, hs, le_antisymm (waiting_le 0 _ (by decide) hs) hwaiting.ge⟩
  · have hends : ((run? (step serdeJson) init
        (oneByOne "abcdefghi".toList ++ bothAtOnce 'j' 'k' 0 ++ bothAtOnce 'l' 'm' 2)).map
          fun s => waiting s.disk.names) = some 13 := by decide +kernel
    obtain ⟨s, hs, hwaiting⟩ := Option.map_eq_some_iff.mp hends
    exact ⟨s, hs, le_antisymm (waiting_le 2 _ (by decide) hs) hwaiting.ge⟩

end SkylineSpeeder.Reports
