import SkylineSpeeder.Qdisc.Backoff
import SkylineSpeeder.Qdisc.Devices

/-!
The passes of the guard over the root qdiscs, and when a replace that failed is tried again:
`enforce_interface_qdiscs`, `enforce_device`, `arm_and_enforce` and `periodic_pass` of
`guard.rs`, with the other fields of the guard's state left out.

* `enforceDevice`, `enforceInterfaceQdiscs`, `QdiscGuard.step`: the code;
* `PassRecord`, `streak`: what was done in the passes so far, and the failures in a row that
  it amounts to;
* `CountsFailures.pass`: one pass keeps the guard's own count in line with it;
* `replace_retried_on_schedule`: in every run a periodic pass tries a replace exactly if no
  failure from the same summary is waiting.
-/

namespace SkylineSpeeder

/-! ### One device -/

/-- `Stuck`: a device whose root a replace failed to turn into fq. -/
structure Stuck where
  summary : List Char
  failures : ℕ
  backoff : ℕ
  retryAt : ℕ

/-- `Trigger`. -/
inductive Trigger where
  | enable
  | periodic
  deriving DecidableEq, Repr

/-- `PassContext`. -/
structure PassContext where
  trigger : Trigger
  now : ℕ
  interval : ℕ

/-- `PassReport`: what one pass did, found, and could not do. -/
structure PassReport where
  corrections : List (List Char)
  notes : List (List Char)
  errors : List (List Char)

/-- The state of the guard that belongs to the root qdiscs: whether it is armed, how many
roots it replaced, and the devices whose replace failed. -/
structure QdiscGuard where
  armed : Bool
  replaced : ℕ
  stuck : List Char → Option Stuck

/-- A pass under way; `tried` are the devices whose root it tried to replace. -/
structure PassWork where
  guard : QdiscGuard
  report : PassReport
  tried : List (List Char)

namespace PassWork

def note (work : PassWork) (text : List Char) : PassWork :=
  { work with report := { work.report with notes := work.report.notes ++ [text] } }

def error (work : PassWork) (text : List Char) : PassWork :=
  { work with report := { work.report with errors := work.report.errors ++ [text] } }

def correction (work : PassWork) (text : List Char) : PassWork :=
  { work with report := { work.report with corrections := work.report.corrections ++ [text] } }

/-- `state.stuck.insert(name, stuck)`, or `remove(&name)` for none. -/
def setStuck (work : PassWork) (name : List Char) (stuck : Option Stuck) : PassWork :=
  { work with guard := { work.guard with stuck := Function.update work.guard.stuck name stuck } }

end PassWork

/-- `RootQdisc::shaping_detail`. -/
def RootQdisc.shapingDetail (root : RootQdisc) : List Char :=
  match root.shaping <|> root.children.findSome? MqChild.shaping with
  | some shaping => " (".toList ++ shaping ++ ")".toList
  | none => []

/-- `stuck_note`. -/
def stuckNote (label : List Char) (stuck : Stuck) (interval : ℕ) : List Char :=
  label ++ " root qdisc ".toList ++ stuck.summary ++
    if interval = 0 then
      (": the last replace failed; retried on the next ssctl enable " ++
        "([guard] interval_s = 0)").toList
    else
      ": the last replace failed; retrying in ".toList ++
        (toString (stuck.backoff / second)).toList ++ " s".toList

/-- The failure that a periodic pass still waits out. -/
def waiting (pass : PassContext) (stuck : Option Stuck) (summary : List Char) : Option Stuck :=
  if pass.trigger = .periodic then
    stuck.filter fun stuck => stuck.summary = summary ∧ pass.now < stuck.retryAt
  else none

/-- The failures in a row, with the one that just happened; a 32-bit counter. -/
def failuresAfter (stuck : Option Stuck) (summary : List Char) : ℕ :=
  match stuck with
  | some stuck => if stuck.summary = summary then min (stuck.failures + 1) (2 ^ 32 - 1) else 1
  | none => 1

/-- `enforce_device`; `replaceRoot` is what `replace_root` does on the device, the summary
after it or its error. -/
def enforceDevice (pass : PassContext)
    (replaceRoot : Target → RootQdisc → Except (List Char) (List Char)) (work : PassWork)
    (target : Target) : PassWork :=
  match target.root with
  | .ok none => work.note (target.label ++
      " shows no root qdisc (is it down?); not checked".toList)
  | .error error => work.error error
  | .ok (some before) =>
      let summary := before.summary
      let front := target.label ++ " root qdisc ".toList ++ summary
      match before.verdict with
      | .fq => work.setStuck target.name none
      | .deliberate =>
          (work.setStuck target.name none).note
            (front ++ before.shapingDetail ++ " looks deliberate; left alone".toList)
      | .unknown =>
          (work.setStuck target.name none).note
            (front ++ " is not a kind the guard knows is safe to replace; left alone".toList)
      | .replace =>
          match waiting pass (work.guard.stuck target.name) summary with
          | some stuck => work.note (stuckNote target.label stuck pass.interval)
          | none =>
              let work := { work with tried := work.tried ++ [target.name] }
              match replaceRoot target before with
              | .ok after =>
                  let replaced := min (work.guard.replaced + 1) (2 ^ 64 - 1)
                  let work := { work with guard := { work.guard with replaced := replaced } }
                  (work.setStuck target.name none).correction
                    (front ++ " -> ".toList ++ after)
              | .error error =>
                  let failures := failuresAfter (work.guard.stuck target.name) summary
                  let backoff := retryBackoff pass.interval failures
                  let stuck : Stuck := ⟨summary, failures, backoff, pass.now + backoff⟩
                  ((work.error error).note (stuckNote target.label stuck pass.interval)).setStuck
                    target.name (some stuck)

/-! ### A pass -/

/-- What a pass meets: the time, the devices and their roots, and how each replace ends. -/
structure Pass where
  now : ℕ
  interfaceExists : List Char → Bool
  host : DeviceHost
  replaceRoot : Target → RootQdisc → Except (List Char) (List Char)

/-- The part of `Settings` that a pass over the root qdiscs uses. -/
structure GuardSettings where
  intervalS : UInt32
  qdisc : Bool
  interface : Option (List Char)

/-- `state.stuck.retain(..)`: only targets keep their entry. -/
def QdiscGuard.retain (guard : QdiscGuard) (targets : List Target) : QdiscGuard :=
  { guard with
    stuck := fun name => if name ∈ targets.map Target.name then guard.stuck name else none }

/-- `enforce_interface_qdiscs`. -/
def enforceInterfaceQdiscs (interface : List Char) (context : PassContext) (pass : Pass)
    (work : PassWork) : PassWork :=
  if !pass.interfaceExists interface then
    ({ work with guard := { work.guard with stuck := fun _ => none } }).note
      ("TC interface ".toList ++ interface ++
        " does not exist; its root qdisc is not checked".toList)
  else
    let managed := managedDevices pass.host interface (pass.host.readRoot interface)
    let work :=
      if managed.nothingUnderNoqueue then
        work.note (interface ++ (" is a virtual device (noqueue is its kernel default) and no " ++
          "NIC under it is visible to the guard; no qdisc checked").toList)
      else work
    managed.targets.foldl (enforceDevice context pass.replaceRoot)
      { work with guard := work.guard.retain managed.targets }

/-- `enforce`, the part of it that is about the root qdiscs. -/
def enforce (settings : GuardSettings) (trigger : Trigger) (pass : Pass) (guard : QdiscGuard) :
    PassWork :=
  let work : PassWork := ⟨guard, ⟨[], [], []⟩, []⟩
  if settings.qdisc then
    match settings.interface with
    | some interface =>
        enforceInterfaceQdiscs interface ⟨trigger, pass.now, guardInterval settings.intervalS⟩
          pass work
    | none => work
  else work

/-! ### Runs -/

/-- A pass that was made, and the devices whose root it tried to replace. -/
structure PassRecord where
  trigger : Trigger
  pass : Pass
  tried : List (List Char)

/-- The guard and the passes it made, the latest first. -/
structure GuardRun where
  guard : QdiscGuard
  passes : List PassRecord

/-- What happens to the guard. -/
inductive GuardEvent where
  | enable (pass : Pass)
  | tick (pass : Pass)
  | drain

namespace GuardRun

/-- `GuardState::default()`. -/
def start : GuardRun := ⟨⟨false, 0, fun _ => none⟩, []⟩

/-- A pass from a state of the guard. -/
def afterPass (settings : GuardSettings) (trigger : Trigger) (pass : Pass) (guard : QdiscGuard)
    (run : GuardRun) : GuardRun :=
  let work := enforce settings trigger pass guard
  ⟨work.guard, ⟨trigger, pass, work.tried⟩ :: run.passes⟩

/-- `arm_and_enforce`, `periodic_pass` and `disarm_and`. -/
def step (settings : GuardSettings) (run : GuardRun) : GuardEvent → GuardRun
  | .enable pass =>
      run.afterPass settings .enable pass { run.guard with armed := true, stuck := fun _ => none }
  | .tick pass => if run.guard.armed then run.afterPass settings .periodic pass run.guard else run
  | .drain => { run with guard := { run.guard with armed := false } }

/-- The event makes a pass that tries to replace the root of the device. -/
def Tries (settings : GuardSettings) (run : GuardRun) (event : GuardEvent) (device : List Char) :
    Prop :=
  ∃ record, (run.step settings event).passes = record :: run.passes ∧ device ∈ record.tried

end GuardRun

/-! ### Failures in a row -/

/-- The devices a pass manages. -/
def GuardSettings.targets (settings : GuardSettings) (pass : Pass) : List Target :=
  match settings.interface with
  | some interface =>
      if settings.qdisc && pass.interfaceExists interface then
        (managedDevices pass.host interface (pass.host.readRoot interface)).targets
      else []
  | none => []

/-- The device among those a pass manages. -/
def GuardSettings.managed (settings : GuardSettings) (pass : Pass) (device : List Char) :
    Option Target :=
  (settings.targets pass).find? fun target => target.name = device

/-- The pass reads a root of the device that is to be replaced, with this summary. -/
def GuardSettings.Reads (settings : GuardSettings) (pass : Pass) (device summary : List Char) :
    Prop :=
  ∃ target root, settings.managed pass device = some target ∧ target.root = .ok (some root) ∧
    root.verdict = .replace ∧ root.summary = summary

/-- Replaces of a device that failed in a row, all from one summary, and the time of the pass
of the last one. -/
structure Streak where
  summary : List Char
  count : ℕ
  since : ℕ

/-- The failures in a row that a pass starts from: an Enable forgets them. -/
def PassRecord.startsFrom (record : PassRecord) (before : Option Streak) : Option Streak :=
  if record.trigger = .enable then none else before

/-- The failures in a row after a pass.  They end with a pass that does not manage the device,
that reads it as anything but a root to be replaced, or that replaces it; another summary
starts anew. -/
def streakAfter (settings : GuardSettings) (device : List Char) (record : PassRecord)
    (before : Option Streak) : Option Streak :=
  match settings.managed record.pass device with
  | none => none
  | some target =>
      match target.root with
      | .error _ => record.startsFrom before
      | .ok none => record.startsFrom before
      | .ok (some root) =>
          match root.verdict with
          | .replace =>
              let same := (record.startsFrom before).filter fun s => s.summary = root.summary
              if device ∈ record.tried then
                match record.pass.replaceRoot target root with
                | .ok _ => none
                | .error _ =>
                    some ⟨root.summary, same.elim 1 fun s => s.count + 1, record.pass.now⟩
              else same
          | _ => none

/-- The failures in a row up to the latest of the passes that were made. -/
def streak (settings : GuardSettings) (device : List Char) : List PassRecord → Option Streak
  | [] => none
  | record :: older => streakAfter settings device record (streak settings device older)

/-! ### What a pass does to one device -/

/-- What `enforce_device` makes of the entry of its device, and whether it tries to replace
the root. -/
def deviceOutcome (pass : PassContext)
    (replaceRoot : Target → RootQdisc → Except (List Char) (List Char)) (target : Target)
    (stuck : Option Stuck) : Option Stuck × Bool :=
  match target.root with
  | .error _ => (stuck, false)
  | .ok none => (stuck, false)
  | .ok (some root) =>
      match root.verdict with
      | .replace =>
          match waiting pass stuck root.summary with
          | some _ => (stuck, false)
          | none =>
              match replaceRoot target root with
              | .ok _ => (none, true)
              | .error _ =>
                  let failures := failuresAfter stuck root.summary
                  let backoff := retryBackoff pass.interval failures
                  (some ⟨root.summary, failures, backoff, pass.now + backoff⟩, true)
      | _ => (none, false)

section Passes

variable (pass : PassContext)
  (replaceRoot : Target → RootQdisc → Except (List Char) (List Char))

/-- `enforce_device` touches the entry of its device only. -/
lemma enforceDevice_effect (work : PassWork) (target : Target) :
    (enforceDevice pass replaceRoot work target).guard.stuck =
        Function.update work.guard.stuck target.name
          (deviceOutcome pass replaceRoot target (work.guard.stuck target.name)).1 ∧
      ∀ device, device ∈ (enforceDevice pass replaceRoot work target).tried ↔
        device ∈ work.tried ∨ (target.name = device ∧
          (deviceOutcome pass replaceRoot target (work.guard.stuck target.name)).2 = true) := by
  have hsame : ∀ w : PassWork, w.guard.stuck = work.guard.stuck →
      w.guard.stuck = Function.update work.guard.stuck target.name (work.guard.stuck target.name) :=
    fun w h => by rw [h, Function.update_eq_self]
  rw [enforceDevice, deviceOutcome]
  cases hroot : target.root with
  | error error => exact ⟨hsame _ rfl, by simp [PassWork.error]⟩
  | ok root =>
      cases root with
      | none => exact ⟨hsame _ rfl, by simp [PassWork.note]⟩
      | some before =>
          dsimp only
          cases hverdict : before.verdict with
          | fq => exact ⟨rfl, by simp [PassWork.setStuck]⟩
          | deliberate => exact ⟨rfl, by simp [PassWork.setStuck, PassWork.note]⟩
          | unknown => exact ⟨rfl, by simp [PassWork.setStuck, PassWork.note]⟩
          | replace =>
              cases hwait : waiting pass (work.guard.stuck target.name) before.summary with
              | some stuck => exact ⟨hsame _ rfl, by simp [PassWork.note]⟩
              | none =>
                  cases hout : replaceRoot target before with
                  | ok after =>
                      refine ⟨rfl, fun device => ?_⟩
                      simp [PassWork.setStuck, PassWork.correction, eq_comm]
                  | error error =>
                      refine ⟨rfl, fun device => ?_⟩
                      simp [PassWork.setStuck, PassWork.note, PassWork.error, eq_comm]

/-- A pass over targets with different names. -/
lemma foldl_enforceDevice :
    ∀ (targets : List Target) (work : PassWork), (targets.map Target.name).Nodup →
      (∀ target ∈ targets,
        (targets.foldl (enforceDevice pass replaceRoot) work).guard.stuck target.name =
          (deviceOutcome pass replaceRoot target (work.guard.stuck target.name)).1) ∧
      (∀ device ∉ targets.map Target.name,
        (targets.foldl (enforceDevice pass replaceRoot) work).guard.stuck device =
          work.guard.stuck device) ∧
      ∀ device, device ∈ (targets.foldl (enforceDevice pass replaceRoot) work).tried ↔
        device ∈ work.tried ∨ ∃ target ∈ targets, target.name = device ∧
          (deviceOutcome pass replaceRoot target (work.guard.stuck device)).2 = true := by
  intro targets
  induction targets with
  | nil => exact fun work _ => ⟨by simp, fun _ _ => rfl, by simp⟩
  | cons target targets ih =>
      intro work hnodup
      rw [List.map_cons, List.nodup_cons] at hnodup
      obtain ⟨hfirst, hrest⟩ := hnodup
      obtain ⟨hstuck, htried⟩ := enforceDevice_effect pass replaceRoot work target
      obtain ⟨hin, hout, hmem⟩ := ih (enforceDevice pass replaceRoot work target) hrest
      have hother : ∀ device ≠ target.name,
          (enforceDevice pass replaceRoot work target).guard.stuck device =
            work.guard.stuck device := fun device hne => by
        rw [hstuck, Function.update_of_ne hne]
      have hne : ∀ t ∈ targets, t.name ≠ target.name :=
        fun t ht heq => hfirst (heq ▸ List.mem_map_of_mem ht)
      rw [List.foldl_cons]
      refine ⟨fun t ht => ?_, fun device hdevice => ?_, fun device => ?_⟩
      · rcases List.mem_cons.mp ht with rfl | ht
        · rw [hout t.name hfirst, hstuck, Function.update_self]
        · rw [hin t ht, hother _ (hne t ht)]
      · rw [List.map_cons, List.mem_cons, not_or] at hdevice
        rw [hout device hdevice.2, hother device hdevice.1]
      · rw [hmem device, htried device, or_assoc]
        simp only [List.mem_cons, exists_eq_or_imp]
        refine or_congr_right (or_congr (and_congr_right fun heq => by rw [heq]) ?_)
        refine exists_congr fun t => and_congr_right fun ht => and_congr_right fun heq => ?_
        rw [hother device (heq ▸ hne t ht)]

/-- The same for one device, if the entries of devices that are no targets were dropped. -/
lemma foldl_enforceDevice_find {targets : List Target} (hnodup : (targets.map Target.name).Nodup)
    (work : PassWork) (htried : work.tried = []) (device : List Char)
    (hdrop : (targets.find? fun target => target.name = device) = none →
      work.guard.stuck device = none) :
    let out := (targets.find? fun target => target.name = device).elim (none, false)
      fun target => deviceOutcome pass replaceRoot target (work.guard.stuck device)
    (targets.foldl (enforceDevice pass replaceRoot) work).guard.stuck device = out.1 ∧
      (device ∈ (targets.foldl (enforceDevice pass replaceRoot) work).tried ↔ out.2 = true) := by
  obtain ⟨hin, hout, hmem⟩ := foldl_enforceDevice pass replaceRoot targets work hnodup
  rw [hmem device, htried]
  cases hfind : targets.find? fun target => target.name = device with
  | none =>
      have hnot : ∀ target ∈ targets, target.name ≠ device := fun target ht => by
        simpa using List.find?_eq_none.mp hfind target ht
      refine ⟨?_, ?_⟩
      · rw [hout device fun h => ?_, hdrop hfind]
        · rfl
        · obtain ⟨target, ht, heq⟩ := List.mem_map.mp h
          exact hnot target ht heq
      · simp only [List.not_mem_nil, false_or, Option.elim_none, Bool.false_eq_true, iff_false]
        rintro ⟨target, ht, heq, -⟩
        exact hnot target ht heq
  | some target =>
      have ht : target ∈ targets := List.mem_of_find?_eq_some hfind
      have hname : target.name = device := by simpa using List.find?_some hfind
      refine ⟨?_, ?_⟩
      · rw [← hname]
        exact hin target ht
      · simp only [List.not_mem_nil, false_or, Option.elim_some]
        constructor
        · rintro ⟨other, hother, heq, htrue⟩
          have hsame : other = target :=
            List.inj_on_of_nodup_map hnodup hother ht (heq.trans hname.symm)
          rwa [hsame] at htrue
        · exact fun htrue => ⟨target, ht, hname, htrue⟩

end Passes

/-- No two targets have one name. -/
lemma targets_nodup (settings : GuardSettings) (pass : Pass) :
    ((settings.targets pass).map Target.name).Nodup := by
  rw [GuardSettings.targets]
  cases settings.interface with
  | none => exact List.nodup_nil
  | some interface =>
      dsimp only
      split_ifs with hon
      · by_cases hroot : isNoqueue (pass.host.readRoot interface) = true
        · change (pass.host.managedNames interface).Nodup
          rw [managedNames_eq hroot]
          exact (Search.search_nodup _ _ (by simp [Search.names])).filter _
        · rw [managedDevices]
          dsimp only
          rw [if_neg hroot]
          exact List.nodup_singleton _
      · exact List.nodup_nil

/-- The context of a pass. -/
def GuardSettings.context (settings : GuardSettings) (trigger : Trigger) (pass : Pass) :
    PassContext :=
  ⟨trigger, pass.now, guardInterval settings.intervalS⟩

/-- What a pass makes of the entry of a device, and whether it tries to replace its root. -/
def passOutcome (settings : GuardSettings) (trigger : Trigger) (pass : Pass)
    (device : List Char) (stuck : Option Stuck) : Option Stuck × Bool :=
  (settings.managed pass device).elim (none, false) fun target =>
    deviceOutcome (settings.context trigger pass) pass.replaceRoot target stuck

/-- What happens to a device in `enforce_interface_qdiscs`, if the interface exists. -/
lemma enforceInterfaceQdiscs_effect {interface : List Char} {context : PassContext} {pass : Pass}
    {work : PassWork} (hexists : pass.interfaceExists interface = true) (htried : work.tried = [])
    {targets : List Target}
    (htargets :
      targets = (managedDevices pass.host interface (pass.host.readRoot interface)).targets)
    (hnodup : (targets.map Target.name).Nodup) (device : List Char) :
    let out := (targets.find? fun target => target.name = device).elim (none, false)
      fun target => deviceOutcome context pass.replaceRoot target (work.guard.stuck device)
    (enforceInterfaceQdiscs interface context pass work).guard.stuck device = out.1 ∧
      (device ∈ (enforceInterfaceQdiscs interface context pass work).tried ↔ out.2 = true) := by
  -- the note that there is no NIC changes neither the entries nor what was tried
  obtain ⟨noted, hguard, hnoted, hcode⟩ : ∃ noted : PassWork, noted.guard = work.guard ∧
      noted.tried = [] ∧ enforceInterfaceQdiscs interface context pass work =
        targets.foldl (enforceDevice context pass.replaceRoot)
          { noted with guard := noted.guard.retain targets } := by
    rw [enforceInterfaceQdiscs, hexists, if_neg (by decide)]
    dsimp only
    split_ifs
    · exact ⟨work.note _, rfl, htried, by rw [htargets]⟩
    · exact ⟨work, rfl, htried, by rw [htargets]⟩
  have hstuck : (noted.guard.retain targets).stuck device =
      if device ∈ targets.map Target.name then work.guard.stuck device else none := by
    rw [← hguard]
    rfl
  have hfold := foldl_enforceDevice_find context pass.replaceRoot hnodup
    { noted with guard := noted.guard.retain targets } hnoted device
  rw [hcode]
  cases hfind : targets.find? fun target => target.name = device with
  | none =>
      have hnot : device ∉ targets.map Target.name := fun h => by
        obtain ⟨target, ht, heq⟩ := List.mem_map.mp h
        exact absurd heq (by simpa using List.find?_eq_none.mp hfind target ht)
      rw [if_neg hnot] at hstuck
      rw [hfind] at hfold
      exact hfold fun _ => hstuck
  | some target =>
      have hmem : device ∈ targets.map Target.name :=
        List.mem_map.mpr ⟨target, List.mem_of_find?_eq_some hfind,
          by simpa using List.find?_some hfind⟩
      rw [if_pos hmem] at hstuck
      rw [hfind] at hfold
      dsimp only at hfold
      rw [hstuck] at hfold
      exact hfold fun h => absurd h (by simp)

/-- **What a pass does to a device.** -/
lemma enforce_effect (settings : GuardSettings) (trigger : Trigger) (pass : Pass)
    (guard : QdiscGuard) (device : List Char)
    (hoff : settings.qdisc = false ∨ settings.interface = none → guard.stuck device = none) :
    (enforce settings trigger pass guard).guard.stuck device =
        (passOutcome settings trigger pass device (guard.stuck device)).1 ∧
      (device ∈ (enforce settings trigger pass guard).tried ↔
        (passOutcome settings trigger pass device (guard.stuck device)).2 = true) := by
  have hnodup := targets_nodup settings pass
  rw [passOutcome, GuardSettings.managed]
  cases hinterface : settings.interface with
  | none =>
      have hnone : settings.targets pass = [] := by rw [GuardSettings.targets, hinterface]
      rw [hnone, enforce, hinterface, hoff (.inr hinterface)]
      simp [hoff (.inr hinterface)]
  | some interface =>
      cases hon : settings.qdisc && pass.interfaceExists interface with
      | false =>
          have hnone : settings.targets pass = [] := by
            rw [GuardSettings.targets, hinterface]
            simp [hon]
          rw [hnone, enforce, hinterface]
          cases hqdisc : settings.qdisc with
          | false => simp [hoff (.inl hqdisc)]
          | true =>
              have hexists : pass.interfaceExists interface = false := by simpa [hqdisc] using hon
              simp [enforceInterfaceQdiscs, hexists, PassWork.note]
      | true =>
          rw [Bool.and_eq_true] at hon
          have htargets : (managedDevices pass.host interface
              (pass.host.readRoot interface)).targets = settings.targets pass := by
            rw [GuardSettings.targets, hinterface]
            simp [hon.1, hon.2]
          rw [enforce, hinterface, if_pos hon.1]
          exact enforceInterfaceQdiscs_effect hon.2 rfl htargets.symm hnodup device

/-! ### The guard's own count -/

/-- The entry that stands for failures in a row. -/
def Streak.stuck (interval : ℕ) (s : Streak) : Stuck :=
  ⟨s.summary, min s.count (2 ^ 32 - 1), retryBackoff interval s.count,
    s.since + retryBackoff interval s.count⟩

/-- The entries of the guard are the failures in a row of the passes it made. -/
def CountsFailures (settings : GuardSettings) (run : GuardRun) : Prop :=
  ∀ device, run.guard.stuck device =
    (streak settings device run.passes).map (Streak.stuck (guardInterval settings.intervalS))

/-- A failure is waited out by a periodic pass that reads the same summary, until its time. -/
lemma waiting_iff (settings : GuardSettings) (trigger : Trigger) (pass : Pass)
    (before : Option Streak) (summary : List Char) :
    waiting (settings.context trigger pass)
        (before.map (Streak.stuck (guardInterval settings.intervalS))) summary = none ↔
      (trigger = .periodic → ∀ s, before = some s → s.summary = summary →
        s.since + retryBackoff (guardInterval settings.intervalS) s.count ≤ pass.now) := by
  rw [waiting]
  cases trigger with
  | enable => exact iff_of_true (if_neg (by simp [GuardSettings.context])) (by simp)
  | periodic =>
      rw [GuardSettings.context, if_pos rfl]
      cases before with
      | none => simp
      | some s => simp [Option.filter_eq_none_iff, Streak.stuck]

/-- The count after a failure. -/
lemma failuresAfter_stuck (interval : ℕ) (before : Option Streak) (summary : List Char) :
    failuresAfter (before.map (Streak.stuck interval)) summary =
      min ((before.filter fun s => s.summary = summary).elim 1 fun s => s.count + 1)
        (2 ^ 32 - 1) := by
  cases before with
  | none => rfl
  | some s =>
      rw [Option.map_some, failuresAfter, Streak.stuck]
      by_cases hsame : s.summary = summary
      · simp only [hsame, Option.filter, decide_true, if_true, Option.elim_some]
        omega
      · simp [Option.filter, hsame]

/-- One device: a pass takes the entry of a streak to that of the streak after it. -/
lemma passOutcome_streak (settings : GuardSettings) (record : PassRecord)
    (before : Option Streak) (device : List Char)
    (htried : device ∈ record.tried ↔
      (passOutcome settings record.trigger record.pass device
        ((record.startsFrom before).map
          (Streak.stuck (guardInterval settings.intervalS)))).2 = true) :
    (passOutcome settings record.trigger record.pass device
        ((record.startsFrom before).map (Streak.stuck (guardInterval settings.intervalS)))).1 =
      (streakAfter settings device record before).map
        (Streak.stuck (guardInterval settings.intervalS)) := by
  revert htried
  rw [passOutcome, streakAfter]
  cases settings.managed record.pass device with
  | none => exact fun _ => rfl
  | some target =>
      rw [Option.elim_some, deviceOutcome]
      dsimp only
      cases hroot : target.root with
      | error error => exact fun _ => rfl
      | ok root =>
          cases root with
          | none => exact fun _ => rfl
          | some root =>
              dsimp only
              cases hverdict : root.verdict with
              | fq => exact fun _ => rfl
              | deliberate => exact fun _ => rfl
              | unknown => exact fun _ => rfl
              | replace =>
                  dsimp only
                  -- to be replaced: the pass waits, or tries and fails or works
                  have hwaiting := waiting_iff settings record.trigger record.pass
                    (record.startsFrom before) root.summary
                  cases hwait : waiting (settings.context record.trigger record.pass)
                      ((record.startsFrom before).map
                        (Streak.stuck (guardInterval settings.intervalS))) root.summary with
                  | some stuck =>
                      intro htried
                      rw [if_neg (by simpa using htried)]
                      have hnot := mt hwaiting.mpr (by rw [hwait]; exact Option.some_ne_none _)
                      push Not at hnot
                      obtain ⟨-, s, hs, hsame, -⟩ := hnot
                      rw [hs]
                      simp [Option.filter, hsame]
                  | none =>
                      cases hout : record.pass.replaceRoot target root with
                      | ok after =>
                          intro htried
                          rw [if_pos (by simpa using htried)]
                          rfl
                      | error error =>
                          intro htried
                          rw [if_pos (by simpa using htried)]
                          dsimp only
                          rw [failuresAfter_stuck, Option.map_some, Streak.stuck,
                            GuardSettings.context, retryBackoff_saturated]

/-! ### Whole runs -/

lemma targets_off {settings : GuardSettings}
    (h : settings.qdisc = false ∨ settings.interface = none) (pass : Pass) :
    settings.targets pass = [] := by
  rw [GuardSettings.targets]
  rcases h with hqdisc | hnone
  · cases settings.interface <;> simp [hqdisc]
  · rw [hnone]

/-- A guard that is not to touch qdiscs has no failures. -/
lemma streak_off {settings : GuardSettings}
    (h : settings.qdisc = false ∨ settings.interface = none) (device : List Char)
    (passes : List PassRecord) : streak settings device passes = none := by
  cases passes with
  | nil => rfl
  | cons record older =>
      rw [streak, streakAfter, GuardSettings.managed, targets_off h]
      rfl

/-- A pass, from entries that are those of the streaks it starts from. -/
lemma CountsFailures.pass {settings : GuardSettings} {run : GuardRun} {trigger : Trigger}
    {pass : Pass} {guard : QdiscGuard}
    (h : ∀ device, guard.stuck device =
      (if trigger = .enable then none else streak settings device run.passes).map
        (Streak.stuck (guardInterval settings.intervalS))) :
    CountsFailures settings (run.afterPass settings trigger pass guard) := by
  intro device
  have hoff : settings.qdisc = false ∨ settings.interface = none → guard.stuck device = none := by
    intro hoff
    rw [h device, streak_off hoff, ite_self]
    rfl
  obtain ⟨hstuck, htried⟩ := enforce_effect settings trigger pass guard device hoff
  rw [h device] at hstuck htried
  have hafter := passOutcome_streak settings
    ⟨trigger, pass, (enforce settings trigger pass guard).tried⟩
    (streak settings device run.passes) device htried
  exact hstuck.trans hafter

/-- One event keeps the entries in line. -/
lemma CountsFailures.step {settings : GuardSettings} {run : GuardRun}
    (h : CountsFailures settings run) (event : GuardEvent) :
    CountsFailures settings (run.step settings event) := by
  cases event with
  | enable pass => exact CountsFailures.pass fun device => rfl
  | tick pass =>
      rw [GuardRun.step]
      split_ifs
      · exact CountsFailures.pass fun device => h device
      · exact h
  | drain => exact h

/-- In every run the entries are those of the passes that were made. -/
lemma countsFailures_run (settings : GuardSettings) (events : List GuardEvent) :
    CountsFailures settings (events.foldl (GuardRun.step settings) GuardRun.start) := by
  refine List.foldlRecOn events _ (fun device => rfl) fun run h event _ => h.step event

/-- A pass tries a replace exactly if it reads a root to be replaced and waits for no failure
from the same summary. -/
lemma passOutcome_tries (settings : GuardSettings) (trigger : Trigger) (pass : Pass)
    (device : List Char) (before : Option Streak) :
    (passOutcome settings trigger pass device
        (before.map (Streak.stuck (guardInterval settings.intervalS)))).2 = true ↔
      ∃ summary, settings.Reads pass device summary ∧
        (trigger = .periodic → ∀ s, before = some s → s.summary = summary →
          s.since + retryBackoff (guardInterval settings.intervalS) s.count ≤ pass.now) := by
  rw [passOutcome]
  simp only [GuardSettings.Reads]
  cases settings.managed pass device with
  | none => simp
  | some target =>
      rw [Option.elim_some, deviceOutcome]
      cases hroot : target.root with
      | error error => simp [hroot]
      | ok root =>
          cases root with
          | none => simp [hroot]
          | some root =>
              dsimp only
              cases hverdict : root.verdict with
              | fq => simp [hroot, hverdict]
              | deliberate => simp [hroot, hverdict]
              | unknown => simp [hroot, hverdict]
              | replace =>
                  have hreads : ∀ P : List Char → Prop,
                      (∃ summary, (∃ target' root', some target = some target' ∧
                        target'.root = .ok (some root') ∧ root'.verdict = .replace ∧
                          root'.summary = summary) ∧ P summary) ↔ P root.summary := by
                    intro P
                    simp [hroot, hverdict]
                  rw [hreads, ← waiting_iff]
                  cases hwait : waiting (settings.context trigger pass)
                      (before.map (Streak.stuck (guardInterval settings.intervalS)))
                      root.summary with
                  | some stuck => simp
                  | none => cases pass.replaceRoot target root <;> simp

/-- Whether an event that makes a pass tries a replace. -/
lemma tries_afterPass {settings : GuardSettings} {run : GuardRun} {event : GuardEvent}
    {trigger : Trigger} {pass : Pass} {guard : QdiscGuard} (device : List Char)
    (hevent : run.step settings event = run.afterPass settings trigger pass guard)
    {before : Option Streak}
    (hstuck : guard.stuck device = before.map (Streak.stuck (guardInterval settings.intervalS)))
    (hoff : settings.qdisc = false ∨ settings.interface = none → before = none) :
    run.Tries settings event device ↔
      ∃ summary, settings.Reads pass device summary ∧
        (trigger = .periodic → ∀ s, before = some s → s.summary = summary →
          s.since + retryBackoff (guardInterval settings.intervalS) s.count ≤ pass.now) := by
  have heffect := (enforce_effect settings trigger pass guard device fun h => by
    rw [hstuck, hoff h, Option.map_none]).2
  rw [hstuck, passOutcome_tries] at heffect
  rw [← heffect, GuardRun.Tries, hevent, GuardRun.afterPass]
  refine ⟨fun ⟨record, hrecord, hmem⟩ => ?_, fun hmem => ⟨_, rfl, hmem⟩⟩
  rw [List.cons.injEq] at hrecord
  rwa [← hrecord.1] at hmem

/-- **The schedule of the retries**, in every run of the guard.  A periodic pass tries to
replace the root of a device exactly if it reads a root to be replaced and, where replaces
from the same summary have failed in a row, the wait for that many failures is over; an Enable
tries at once.  The guard counts the failures in a row, and the wait grows with them within
its bounds, in whole intervals. -/
theorem replace_retried_on_schedule (settings : GuardSettings) (events : List GuardEvent) :
    let interval := guardInterval settings.intervalS
    let run := events.foldl (GuardRun.step settings) GuardRun.start
    (∀ pass device, run.Tries settings (.tick pass) device ↔
      run.guard.armed = true ∧ ∃ summary, settings.Reads pass device summary ∧
        ∀ s, streak settings device run.passes = some s → s.summary = summary →
          s.since + retryBackoff interval s.count ≤ pass.now) ∧
    (∀ pass device, run.Tries settings (.enable pass) device ↔
      ∃ summary, settings.Reads pass device summary) ∧
    (∀ device, (run.guard.stuck device).map Stuck.failures =
      (streak settings device run.passes).map fun s => min s.count (2 ^ 32 - 1)) ∧
    (∀ m n, m ≤ n → retryBackoff interval m ≤ retryBackoff interval n) ∧
    ∀ n, (interval ≠ 0 → interval ∣ retryBackoff interval n) ∧
      max interval retryBackoffMin ≤ retryBackoff interval n ∧
      retryBackoff interval n ≤ roundUp interval (max interval retryBackoffMax) := by
  intro interval run
  have hcounts : CountsFailures settings run := countsFailures_run settings events
  refine ⟨fun pass device => ?_, fun pass device => ?_, fun device => ?_,
    fun m n h => retryBackoff_mono _ h,
    fun n => ⟨fun h => dvd_retryBackoff h n, le_retryBackoff _ n, retryBackoff_le _ n⟩⟩
  · by_cases harmed : run.guard.armed = true
    · have hstep : run.step settings (.tick pass) =
          run.afterPass settings .periodic pass run.guard := if_pos harmed
      rw [tries_afterPass device hstep (hcounts device) fun h => streak_off h device _]
      simp only [true_imp_iff, harmed, true_and]
      rfl
    · refine iff_of_false ?_ fun h => harmed h.1
      rintro ⟨record, hrecord, -⟩
      rw [GuardRun.step, if_neg harmed] at hrecord
      exact List.cons_ne_self _ _ hrecord.symm
  · have hnone : (none : Option Stuck) = (none : Option Streak).map (Streak.stuck interval) := rfl
    rw [tries_afterPass device rfl hnone fun _ => rfl]
    simp
  · rw [hcounts device, Option.map_map]
    rfl

end SkylineSpeeder
