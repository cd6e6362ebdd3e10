import SkylineSpeeder.Machine.Cut
import SkylineSpeeder.Qdisc.Agree
import SkylineSpeeder.Qdisc.Devices

/-!
The installer's copy of the guard's walk: `managed_devices`, `managed_under` and
`load_managed` of `install.sh`, which is to be kept in step with `managed_devices` of
`guard.rs`.

* `NetHost`: what both programs ask of the host, with the text that `tc` prints;
* `managedUnder`, `Shell.managedDevices`, `loadManaged`: the shell functions, down to the
  lines they print and read;
* `WalkAgrees`: what the two walks have in common at every moment;
* `managedUnder_agrees`: the walk of the installer keeps it;
* `managed_devices_mirror`: the installer prints a line for each device the guard manages
  and can read, in the guard's order and with its root and its label.
-/

namespace SkylineSpeeder

/-! ### The host -/

/-- What both programs ask: the names after `lower_` in the directory of a device, in order,
its `device` link, and what `tc qdisc show dev` prints of it. -/
structure NetHost where
  lowerDevices : List Char → List (List Char)
  hasDeviceLink : List Char → Bool
  /-- A call that fails prints nothing but its error. -/
  tcShow : List Char → Except (List Char) (List Char)
  lower_ne_nil : ∀ device, ∀ lower ∈ lowerDevices device, lower ≠ []

namespace NetHost

/-- The host as the guard asks it. -/
def guard (host : NetHost) : DeviceHost where
  lowerDevices := host.lowerDevices
  hasDeviceLink := host.hasDeviceLink
  -- `read_root`
  readRoot device := (host.tcShow device).map RootQdisc.parse

/-- `root_qdisc_summary` of a device. -/
def rootSummary (host : NetHost) (device : List Char) : List Char :=
  match host.tcShow device with
  | .ok output => rootQdiscSummary output
  | .error _ => []

/-- Whatever `tc` prints is nothing at all or one tree in which the guard hides nothing that
makes a difference. -/
def Shows (host : NetHost) : Prop :=
  ∀ device output, host.tcShow device = .ok output →
    output = [] ∨ ∃ t : TcTree, t.Prints output ∧ t.NothingHidden

end NetHost

/-! ### The shell functions -/

namespace Shell

/-- A device, its root and its label, between bars. -/
def printed (device root label : List Char) : List Char :=
  device ++ '|' :: root ++ '|' :: label ++ ['\n']

/-- `md_seen` and what was printed. -/
abbrev Walk := List (List Char) × List Char

/-- The loop of `managed_under`: one device under another; `follow` is `managed_under` one
level further down. -/
def managedLower (host : NetHost) (follow : List Char → Walk → Walk) (below : List Char) :
    Walk → List Char → Walk
  | (seen, out), x =>
      if x ∈ seen then (seen, out)
      else
        let seen := seen ++ [x]
        let xr := host.rootSummary x
        if xr = "noqueue".toList then follow x (seen, out)
        else if xr ≠ [] && host.hasDeviceLink x then
          (seen, out ++ printed x xr (x ++ " (under ".toList ++ below ++ ")".toList))
        else (seen, out)

/-- `managed_under`, with `left` levels to go before the fourth. -/
def managedUnder (host : NetHost) : ℕ → List Char → List Char → Walk → Walk
  | left, dev, uppers, (seen, out) =>
      let lowers := host.lowerDevices dev
      if lowers = [] then
        if uppers ≠ [] && host.hasDeviceLink dev then
          (seen, out ++ printed dev "noqueue".toList
            (dev ++ " (under ".toList ++ uppers ++ ")".toList))
        else if host.hasDeviceLink dev then
          (seen, out ++ printed dev "noqueue".toList dev)
        else (seen, out)
      else
        match left with
        | 0 => (seen, out)
        | left + 1 =>
            let below := dev ++ if uppers = [] then [] else " under ".toList ++ uppers
            lowers.foldl
              (managedLower host (fun x => managedUnder host left x below) below) (seen, out)

/-- `managed_devices`: what it prints. -/
def managedDevices (host : NetHost) (top : List Char) : List Char :=
  if top = [] then []
  else
    let root := host.rootSummary top
    if root = [] then []
    else if root = "noqueue".toList then (managedUnder host 4 top [] ([top], [])).2
    else printed top root top

/-- What `read` leaves in its last variable: a bar at the end that is the only one is
dropped. -/
def lastField (text : List Char) : List Char :=
  match Text.splitOnce '|' text with
  | some (front, []) => front
  | _ => text

/-- `IFS='|' read -r d r l`. -/
def readThree (line : List Char) : List Char × List Char × List Char :=
  match Text.splitOnce '|' line with
  | none => (line, [], [])
  | some (d, rest) =>
      match Text.splitOnce '|' rest with
      | none => (d, rest, [])
      | some (r, l) => (d, r, lastField l)

/-- The lines `read` gets: a last one without its newline is none. -/
def readLines (text : List Char) : List (List Char) := (text.splitOn '\n').dropLast

/-- `load_managed`: `MANAGED_DEVS`, `MANAGED_ROOTS` and `MANAGED_LABELS`, side by side. -/
def loadManaged (host : NetHost) (top : List Char) :
    List (List Char × List Char × List Char) :=
  ((readLines (managedDevices host top)).map readThree).filter fun entry => entry.1 ≠ []

end Shell

/-! ### The same walk -/

namespace Target

/-- A device of the guard whose root was read, with the word for its root. -/
def entry (target : Target) : Option (List Char × List Char × List Char) :=
  match target.root with
  | .ok (some root) => some (target.name, root.summary, target.label)
  | _ => none

end Target

/-- The entries of the devices that could be read. -/
def entries (targets : List Target) : List (List Char × List Char × List Char) :=
  targets.filterMap Target.entry

/-- The lines of some entries. -/
def linesOf (es : List (List Char × List Char × List Char)) : List Char :=
  es.flatMap fun e => Shell.printed e.1 e.2.1 e.2.2

/-- The two walks have seen the same devices, and the installer has printed those that the
guard manages and could read. -/
structure WalkAgrees (walk : Shell.Walk) (found : Found) : Prop where
  seen : walk.1 = found.1
  out : walk.2 = linesOf (entries found.2)

namespace WalkAgrees

variable {seen : List (List Char)} {out : List Char} {visited : List (List Char)}
  {targets : List Target}

/-- A device is seen. -/
lemma see (h : WalkAgrees (seen, out) (visited, targets)) (device : List Char) :
    WalkAgrees (seen ++ [device], out) (visited ++ [device], targets) := by
  have hseen : seen = visited := h.seen
  exact ⟨by rw [hseen], h.out⟩

/-- A device is found whose root was read. -/
lemma push (h : WalkAgrees (seen, out) (visited, targets)) (device label : List Char)
    {root : RootRead} {q : RootQdisc} (hroot : root = .ok (some q)) :
    WalkAgrees (seen, out ++ Shell.printed device q.summary label)
      (visited, targets ++ [⟨device, label, root⟩]) := by
  refine ⟨h.seen, ?_⟩
  have hout : out = linesOf (entries targets) := h.out
  have hentry : Target.entry ⟨device, label, root⟩ = some (device, q.summary, label) := by
    rw [hroot]
    rfl
  show out ++ _ = linesOf (entries (targets ++ [_]))
  rw [hout, entries, entries, List.filterMap_append, linesOf, linesOf, List.flatMap_append,
    List.filterMap_cons, hentry, List.filterMap_nil, List.flatMap_singleton]

/-- A device is found whose root was not read. -/
lemma skip (h : WalkAgrees (seen, out) (visited, targets)) (device label : List Char)
    {root : RootRead} (hroot : ∀ q, root ≠ .ok (some q)) :
    WalkAgrees (seen, out) (visited, targets ++ [⟨device, label, root⟩]) := by
  refine ⟨h.seen, ?_⟩
  have hout : out = linesOf (entries targets) := h.out
  have hnone : Target.entry ⟨device, label, root⟩ = none := by
    rw [Target.entry]
    split
    · next q heq => exact absurd heq (hroot q)
    · rfl
  rw [hout, entries, entries, List.filterMap_append, List.filterMap_cons, hnone,
    List.filterMap_nil, List.append_nil]

end WalkAgrees

/-! ### What is read of a root -/

section Reading

variable {host : NetHost}

/-- The word for a root, and when it is `noqueue`. -/
lemma summary_noqueue {q : RootQdisc} (hkind : q.kind ≠ []) :
    q.summary ≠ [] ∧ (q.summary = "noqueue".toList ↔ q.kind = "noqueue".toList) := by
  rw [RootQdisc.summary]
  split_ifs with hplain
  · exact ⟨hkind, Iff.rfl⟩
  · rw [not_or, not_not] at hplain
    refine ⟨by simp, fun heq => ?_, fun heq => ?_⟩
    · -- the two words differ in their first character
      exact absurd (List.cons.inj heq).1 (by decide)
    · exact absurd (hplain.1.symm.trans heq) (by decide)

/-- What the installer and the guard read of a device: either nothing, or the word is that
of the root. -/
lemma rootSummary_eq (h : host.Shows) (device : List Char) :
    (host.rootSummary device = [] ∧ ∀ q, host.guard.readRoot device ≠ .ok (some q)) ∨
      ∃ q, host.guard.readRoot device = .ok (some q) ∧ host.rootSummary device = q.summary ∧
        q.kind ≠ [] := by
  have hread : host.guard.readRoot device = (host.tcShow device).map RootQdisc.parse := rfl
  rw [hread, NetHost.rootSummary]
  rcases hshow : host.tcShow device with error | output
  · exact .inl ⟨rfl, nofun⟩
  · rcases h device output hshow with rfl | ⟨t, hprints, hroot, hqueues⟩
    · exact .inl ⟨rfl, nofun⟩
    · right
      obtain ⟨q, hparse, hkind, -, -⟩ := (guard_parse hprints).2 hroot
      have hagree : QdiscAgree output := by
        by_cases hmq : t.root.kind = "mq".toList
        · exact (agree_mq hprints hroot hmq).mpr (hqueues hmq)
        · exact agree_single hprints hroot hmq
      have hword := hagree.1
      rw [hparse, Option.map_some, Option.some.injEq] at hword
      exact ⟨q, congrArg Except.ok hparse, hword.symm, hkind ▸ t.root.kind_name.1⟩

lemma ok_of_isNoqueue {root : RootRead} (h : isNoqueue root = true) : ∃ q, root = .ok (some q) := by
  match root with
  | .ok (some q) => exact ⟨q, rfl⟩
  | .ok none => exact Bool.noConfusion h
  | .error _ => exact Bool.noConfusion h

/-- The two tests for noqueue agree. -/
lemma noqueue_iff (h : host.Shows) (device : List Char) :
    host.rootSummary device = "noqueue".toList ↔
      isNoqueue (host.guard.readRoot device) = true := by
  rcases rootSummary_eq h device with ⟨hnone, hread⟩ | ⟨q, hread, hword, hkind⟩
  · rw [hnone]
    refine ⟨fun heq => absurd heq (by decide), fun hnoqueue => ?_⟩
    obtain ⟨q, hq⟩ := ok_of_isNoqueue hnoqueue
    exact absurd hq (hread q)
  · rw [hword, hread, (summary_noqueue hkind).2]
    exact decide_eq_true_iff.symm

end Reading

/-! ### The walk -/

section Walk

variable {host : NetHost}

/-- The devices above, nearest first, as the installer keeps them. -/
def upperText (uppers : List (List Char)) : List Char := " under ".toList.intercalate uppers

lemma upperText_cons (device : List Char) (uppers : List (List Char)) :
    upperText (device :: uppers) =
      device ++ if uppers = [] then [] else " under ".toList ++ upperText uppers := by
  cases uppers with
  | nil => simp [upperText]
  | cons next rest =>
      rw [if_neg (List.cons_ne_nil _ _), upperText, upperText, List.intercalate_cons_cons,
        List.append_assoc]

lemma upperText_eq_nil_iff {uppers : List (List Char)} (h : ∀ u ∈ uppers, u ≠ []) :
    upperText uppers = [] ↔ uppers = [] := by
  cases uppers with
  | nil => simp [upperText]
  | cons device rest =>
      rw [upperText_cons, List.append_eq_nil_iff]
      exact ⟨fun heq => absurd heq.1 (h device List.mem_cons_self), fun heq => nomatch heq⟩

/-- A device below another. -/
lemma WalkAgrees.lower {follow : List Char → Shell.Walk → Shell.Walk}
    {follow' : List Char → RootRead → Found → Found} {below : List (List Char)} {device : List Char}
    (hshows : host.Shows) (hbelow : below ≠ [])
    (hleaf : host.lowerDevices device = [] → host.hasDeviceLink device = false →
      ∀ walk, follow device walk = walk)
    (hfollow : isNoqueue (host.guard.readRoot device) = true → ∀ walk found,
      WalkAgrees walk found →
        WalkAgrees (follow device walk) (follow' device (host.guard.readRoot device) found))
    {walk : Shell.Walk} {found : Found} (h : WalkAgrees walk found) :
    WalkAgrees (Shell.managedLower host follow (upperText below) walk device)
      (followLower host.guard follow' below found device) := by
  obtain ⟨seen, out⟩ := walk
  obtain ⟨visited, targets⟩ := found
  obtain rfl : seen = visited := h.seen
  have hlink : host.guard.hasDeviceLink device = host.hasDeviceLink device := rfl
  have hlowers : host.guard.lowerDevices device = host.lowerDevices device := rfl
  rw [Shell.managedLower, followLower, hlink, hlowers]
  dsimp only
  by_cases hseen : device ∈ seen
  · rw [if_pos hseen, if_pos hseen]
    exact h
  have hin := h.see device
  rw [if_neg hseen, if_neg hseen]
  by_cases hskip : (!host.hasDeviceLink device && decide (host.lowerDevices device = [])) = true
  · -- the guard does not read its root, and the installer finds nothing below it
    obtain ⟨hnolink, hnone⟩ := Bool.and_eq_true_iff.mp hskip
    rw [Bool.not_eq_true'] at hnolink
    rw [if_pos hskip, hnolink, Bool.and_false, if_neg Bool.false_ne_true]
    split_ifs with hword
    · rw [hleaf (of_decide_eq_true hnone) hnolink]
      exact hin
    · exact hin
  rw [if_neg hskip]
  by_cases hnoqueue : isNoqueue (host.guard.readRoot device) = true
  · rw [if_pos ((noqueue_iff hshows device).mpr hnoqueue), if_pos hnoqueue]
    exact hfollow hnoqueue _ _ hin
  rw [if_neg (mt (noqueue_iff hshows device).mp hnoqueue), if_neg hnoqueue]
  cases hdevice : host.hasDeviceLink device with
  | false =>
      rw [Bool.and_false, if_neg Bool.false_ne_true, if_neg Bool.false_ne_true]
      exact hin
  | true =>
      rw [Bool.and_true, if_pos rfl]
      rcases rootSummary_eq hshows device with ⟨hnone, hread⟩ | ⟨q, hread, hword, hkind⟩
      · rw [hnone, if_neg (by decide)]
        exact hin.skip _ _ hread
      · rw [hword, if_pos (decide_eq_true (summary_noqueue hkind).1), hread]
        have hlabel : device ++ " (under ".toList ++ upperText below ++ ")".toList =
            label device below := (if_neg hbelow).symm
        rw [hlabel]
        exact hin.push _ _ rfl

/-- A leaf: a noqueue device with nothing under it. -/
lemma WalkAgrees.leaf {device : List Char} {uppers : List (List Char)}
    (huppers : ∀ u ∈ uppers, u ≠ []) (hnone : host.lowerDevices device = [])
    (hnoqueue : isNoqueue (host.guard.readRoot device) = true) (left : ℕ)
    {walk : Shell.Walk} {found : Found} (h : WalkAgrees walk found) :
    WalkAgrees (Shell.managedUnder host left device (upperText uppers) walk)
      (followNoqueue host.guard left uppers device (host.guard.readRoot device) found) := by
  obtain ⟨seen, out⟩ := walk
  obtain ⟨visited, targets⟩ := found
  have hcode : followNoqueue host.guard left uppers device (host.guard.readRoot device)
      (visited, targets) =
      if host.hasDeviceLink device then
        (visited, targets ++ [⟨device, label device uppers, host.guard.readRoot device⟩])
      else (visited, targets) := by
    cases left <;> exact if_pos hnone
  have hshell : Shell.managedUnder host left device (upperText uppers) (seen, out) =
      if host.hasDeviceLink device then
        (seen, out ++ Shell.printed device "noqueue".toList (label device uppers))
      else (seen, out) := by
    -- the script tells a device it reached from the one it started at by the text
    have hstart : Shell.managedUnder host left device (upperText uppers) (seen, out) =
        if upperText uppers ≠ [] && host.hasDeviceLink device then
          (seen, out ++ Shell.printed device "noqueue".toList
            (device ++ " (under ".toList ++ upperText uppers ++ ")".toList))
        else if host.hasDeviceLink device then
          (seen, out ++ Shell.printed device "noqueue".toList device)
        else (seen, out) := by
      cases left <;> exact if_pos hnone
    rw [hstart, label]
    by_cases hnil : uppers = []
    · rw [if_pos hnil, decide_eq_false (not_not.mpr ((upperText_eq_nil_iff huppers).mpr hnil)),
        Bool.false_and, if_neg Bool.false_ne_true]
    · rw [if_neg hnil, decide_eq_true (mt (upperText_eq_nil_iff huppers).mp hnil), Bool.true_and]
      split_ifs <;> rfl
  rw [hcode, hshell]
  split_ifs
  · obtain ⟨q, hread⟩ := ok_of_isNoqueue hnoqueue
    have hword : q.summary = "noqueue".toList := by
      have hkind : q.kind = "noqueue".toList := by
        rw [hread] at hnoqueue
        exact of_decide_eq_true hnoqueue
      exact (summary_noqueue (by rw [hkind]; decide)).2.mpr hkind
    rw [← hword, hread]
    exact h.push _ _ rfl
  · exact h

/-- Some devices below another. -/
lemma WalkAgrees.lowers {step : Shell.Walk → List Char → Shell.Walk}
    {step' : Found → List Char → Found} {devices : List (List Char)}
    (hstep : ∀ device ∈ devices, ∀ walk found, WalkAgrees walk found →
      WalkAgrees (step walk device) (step' found device)) {walk : Shell.Walk} {found : Found}
    (h : WalkAgrees walk found) :
    WalkAgrees (devices.foldl step walk) (devices.foldl step' found) := by
  induction devices generalizing walk found with
  | nil => exact h
  | cons device devices ih =>
      rw [List.foldl_cons, List.foldl_cons]
      exact ih (fun d hd => hstep d (List.mem_cons_of_mem device hd))
        (hstep device List.mem_cons_self _ _ h)

/-- Nothing below a device without a `device` link and without lower devices. -/
lemma managedUnder_nothing {device : List Char} (hnone : host.lowerDevices device = [])
    (hlink : host.hasDeviceLink device = false) (left : ℕ) (uppers : List Char)
    (walk : Shell.Walk) : Shell.managedUnder host left device uppers walk = walk := by
  obtain ⟨seen, out⟩ := walk
  have hstart : Shell.managedUnder host left device uppers (seen, out) =
      if uppers ≠ [] && host.hasDeviceLink device then
        (seen, out ++ Shell.printed device "noqueue".toList
          (device ++ " (under ".toList ++ uppers ++ ")".toList))
      else if host.hasDeviceLink device then
        (seen, out ++ Shell.printed device "noqueue".toList device)
      else (seen, out) := by
    cases left <;> exact if_pos hnone
  rw [hstart, hlink, Bool.and_false, if_neg Bool.false_ne_true, if_neg Bool.false_ne_true]

/-- **The two walks agree.** -/
lemma managedUnder_agrees (hshows : host.Shows) :
    ∀ (left : ℕ) (uppers : List (List Char)) (device : List Char) (walk : Shell.Walk)
      (found : Found), (∀ u ∈ uppers, u ≠ []) → device ≠ [] →
      isNoqueue (host.guard.readRoot device) = true → WalkAgrees walk found →
        WalkAgrees (Shell.managedUnder host left device (upperText uppers) walk)
          (followNoqueue host.guard left uppers device (host.guard.readRoot device) found) := by
  intro left
  induction left with
  | zero =>
      rintro uppers device ⟨seen, out⟩ ⟨visited, targets⟩ huppers - hnoqueue h
      by_cases hnone : host.lowerDevices device = []
      · exact h.leaf huppers hnone hnoqueue 0
      · rw [Shell.managedUnder, followNoqueue, if_neg hnone]
        have hguard : ¬ host.guard.lowerDevices device = [] := hnone
        rw [if_neg hguard]
        exact h
  | succ left ih =>
      rintro uppers device ⟨seen, out⟩ ⟨visited, targets⟩ huppers hdevice hnoqueue h
      by_cases hnone : host.lowerDevices device = []
      · exact h.leaf huppers hnone hnoqueue (left + 1)
      · have hguard : ¬ host.guard.lowerDevices device = [] := hnone
        have hbelow : (device ++ if upperText uppers = [] then []
            else " under ".toList ++ upperText uppers) = upperText (device :: uppers) := by
          rw [upperText_cons]
          simp only [upperText_eq_nil_iff huppers]
        have hnames : ∀ u ∈ device :: uppers, u ≠ [] := List.forall_mem_cons.mpr ⟨hdevice, huppers⟩
        rw [Shell.managedUnder, followNoqueue, if_neg hnone, if_neg hguard]
        dsimp only
        rw [hbelow]
        refine WalkAgrees.lowers (fun lower hlower walk found hwalk => ?_) h
        refine hwalk.lower hshows (List.cons_ne_nil _ _) ?_ fun hlow walk found hwalk => ?_
        · exact fun hnolower hnolink => managedUnder_nothing hnolower hnolink left _
        · exact ih _ lower walk found hnames (host.lower_ne_nil device lower hlower) hlow hwalk

end Walk

/-! ### The devices the guard finds -/

section Targets

variable {host : DeviceHost} {P : List Char → Prop} {Q : Target → Prop}

lemma followLower_targets {follow : List Char → RootRead → Found → Found}
    {below : List (List Char)} {device : List Char}
    (hpush : Q ⟨device, label device below, host.readRoot device⟩)
    (hfollow : ∀ found : Found, (∀ t ∈ found.2, Q t) →
      ∀ t ∈ (follow device (host.readRoot device) found).2, Q t)
    {found : Found} (h : ∀ t ∈ found.2, Q t) :
    ∀ t ∈ (followLower host follow below found device).2, Q t := by
  obtain ⟨visited, targets⟩ := found
  rw [followLower]
  dsimp only
  split_ifs
  · exact h
  · exact h
  · exact hfollow _ h
  · exact List.forall_mem_append.mpr ⟨h, List.forall_mem_singleton.mpr hpush⟩
  · exact h

/-- What holds of every device with the root that is read of it and the label of the devices
above, holds of all that is found. -/
lemma followNoqueue_targets (hlower : ∀ device, ∀ lower ∈ host.lowerDevices device, P lower)
    (hpush : ∀ uppers device, (∀ u ∈ uppers, P u) → P device →
      Q ⟨device, label device uppers, host.readRoot device⟩) :
    ∀ (left : ℕ) (uppers : List (List Char)) (device : List Char) (found : Found),
      (∀ u ∈ uppers, P u) → P device → (∀ t ∈ found.2, Q t) →
        ∀ t ∈ (followNoqueue host left uppers device (host.readRoot device) found).2, Q t := by
  intro left
  induction left with
  | zero =>
      rintro uppers device ⟨visited, targets⟩ huppers hdevice h
      rw [followNoqueue]
      split_ifs
      · exact List.forall_mem_append.mpr
          ⟨h, List.forall_mem_singleton.mpr (hpush uppers device huppers hdevice)⟩
      · exact h
      · exact h
  | succ left ih =>
      rintro uppers device ⟨visited, targets⟩ huppers hdevice h
      rw [followNoqueue]
      dsimp only
      split_ifs
      · exact List.forall_mem_append.mpr
          ⟨h, List.forall_mem_singleton.mpr (hpush uppers device huppers hdevice)⟩
      · exact h
      · have hnames : ∀ u ∈ device :: uppers, P u := List.forall_mem_cons.mpr ⟨hdevice, huppers⟩
        refine List.foldlRecOn (motive := fun found : Found => ∀ t ∈ found.2, Q t)
          (host.lowerDevices device) _ h fun found hfound lower hin => ?_
        have hlow := hlower device lower hin
        exact followLower_targets (hpush _ lower hnames hlow)
          (fun found => ih _ lower found hnames hlow) hfound

end Targets

/-! ### Lines and fields -/

/-- A text that fits between bars on a line. -/
def Plain (text : List Char) : Prop := '|' ∉ text ∧ '\n' ∉ text

lemma Plain.append {a b : List Char} (ha : Plain a) (hb : Plain b) : Plain (a ++ b) :=
  ⟨fun h => (List.mem_append.mp h).elim ha.1 hb.1, fun h => (List.mem_append.mp h).elim ha.2 hb.2⟩

lemma Plain.upperText {uppers : List (List Char)} (h : ∀ u ∈ uppers, Plain u) :
    Plain (upperText uppers) := by
  induction uppers with
  | nil => exact ⟨List.not_mem_nil, List.not_mem_nil⟩
  | cons device rest ih =>
      obtain ⟨hdevice, hrest⟩ := List.forall_mem_cons.mp h
      rw [upperText_cons]
      split_ifs
      · exact hdevice.append ⟨List.not_mem_nil, List.not_mem_nil⟩
      · exact hdevice.append (Plain.append ⟨by decide, by decide⟩ (ih hrest))

lemma Plain.label {device : List Char} {uppers : List (List Char)} (hdevice : Plain device)
    (h : ∀ u ∈ uppers, Plain u) : Plain (label device uppers) := by
  rw [SkylineSpeeder.label]
  split_ifs
  · exact hdevice
  · have hopen : Plain " (under ".toList := ⟨by decide, by decide⟩
    have hclose : Plain ")".toList := ⟨by decide, by decide⟩
    exact ((hdevice.append hopen).append (Plain.upperText h)).append hclose

/-- The characters of the word of a root. -/
lemma plain_rootQdiscSummary (output : List Char) : Plain (rootQdiscSummary output) := by
  have hchar : ∀ c ∈ rootQdiscSummary output, (nameChar c || c = '/' || c = ',') = true :=
    fun c hc => (List.mem_filter.mp hc).2
  exact ⟨fun hbar => absurd (hchar _ hbar) (by decide), fun hnl => absurd (hchar _ hnl) (by decide)⟩

/-- An entry that `read` takes apart as it was printed. -/
def Entered (e : List Char × List Char × List Char) : Prop :=
  e.1 ≠ [] ∧ Plain e.1 ∧ Plain e.2.1 ∧ Plain e.2.2

lemma splitOnce_bar {a b : List Char} (h : '|' ∉ a) :
    Text.splitOnce '|' (a ++ '|' :: b) = some (a, b) :=
  Text.splitOnce_eq_some_iff.mpr ⟨rfl, h⟩

/-- **One line read back.** -/
lemma readThree_printed {d r l : List Char} (h : Entered (d, r, l)) :
    Shell.readThree (d ++ '|' :: r ++ '|' :: l) = (d, r, l) := by
  obtain ⟨-, hd, hr, hl⟩ := h
  have hlast : Shell.lastField l = l := by
    rw [Shell.lastField, Text.splitOnce_eq_none_iff.mpr hl.1]
  rw [Shell.readThree, List.append_assoc, List.cons_append, splitOnce_bar hd.1]
  dsimp only
  rw [splitOnce_bar hr.1]
  dsimp only
  rw [hlast]

lemma splitOn_line {line : List Char} (h : '\n' ∉ line) (rest : List Char) :
    (line ++ '\n' :: rest).splitOn '\n' = line :: rest.splitOn '\n' := by
  rw [List.splitOn_eq_splitOnP, List.splitOn_eq_splitOnP]
  refine List.splitOnP_append_cons_of_forall_mem (fun c hc => ?_) '\n' (by decide) rest
  exact beq_eq_false_iff_ne.mpr fun heq => h (heq ▸ hc)

/-- The lines of a text that begins with one. -/
lemma readLines_cons {line : List Char} (h : '\n' ∉ line) (rest : List Char) :
    Shell.readLines (line ++ '\n' :: rest) = line :: Shell.readLines rest := by
  rw [Shell.readLines, splitOn_line h, List.dropLast_cons_of_ne_nil (List.splitOn_ne_nil _ _),
    Shell.readLines]

/-- **All lines read back.** -/
lemma read_linesOf {es : List (List Char × List Char × List Char)} (h : ∀ e ∈ es, Entered e) :
    ((Shell.readLines (linesOf es)).map Shell.readThree).filter (fun e => e.1 ≠ []) = es := by
  induction es with
  | nil => rfl
  | cons e es ih =>
      obtain ⟨he, hes⟩ := List.forall_mem_cons.mp h
      obtain ⟨d, r, l⟩ := e
      have hline : '\n' ∉ d ++ '|' :: r ++ '|' :: l := by
        simp only [List.mem_append, List.mem_cons, not_or]
        exact ⟨⟨he.2.1.2, by decide, he.2.2.1.2⟩, by decide, he.2.2.2.2⟩
      have htext : linesOf ((d, r, l) :: es) =
          (d ++ '|' :: r ++ '|' :: l) ++ '\n' :: linesOf es := by
        simp [linesOf, Shell.printed]
      rw [htext, readLines_cons hline, List.map_cons, readThree_printed he, List.filter_cons,
        if_pos (decide_eq_true he.1), ih hes]

/-! ### The mirror -/

section Mirror

variable {host : NetHost} {top : List Char}

/-- The targets of the guard. -/
def NetHost.targets (host : NetHost) (top : List Char) : List Target :=
  (managedDevices host.guard top (host.guard.readRoot top)).targets

/-- What the installer prints. -/
lemma managedDevices_printed (hshows : host.Shows) (htop : top ≠ []) :
    Shell.managedDevices host top = linesOf (entries (host.targets top)) := by
  have hstart : WalkAgrees ([top], []) ([top], []) := ⟨rfl, rfl⟩
  rw [Shell.managedDevices, if_neg htop]
  by_cases hnoqueue : isNoqueue (host.guard.readRoot top) = true
  · -- the two walks start with nothing found
    have hword := (noqueue_iff hshows top).mpr hnoqueue
    have htargets : host.targets top = (followNoqueue host.guard maxLowerDepth [] top
        (host.guard.readRoot top) ([top], [])).2 := if_pos hnoqueue
    dsimp only
    rw [hword, if_neg (by decide), if_pos rfl, htargets]
    exact (managedUnder_agrees hshows maxLowerDepth [] top _ _ (fun u hu => nomatch hu) htop
      hnoqueue hstart).out
  · have htargets : host.targets top = [⟨top, top, host.guard.readRoot top⟩] := if_neg hnoqueue
    have hword := mt (noqueue_iff hshows top).mp hnoqueue
    dsimp only
    rw [htargets]
    rcases rootSummary_eq hshows top with ⟨hnone, hread⟩ | ⟨q, hread, hsummary, hkind⟩
    · rw [if_pos hnone]
      exact (hstart.skip top top hread).out
    · rw [if_neg (hsummary ▸ (summary_noqueue hkind).1), if_neg hword, hsummary]
      exact (hstart.push top top hread).out

/-- What is found has the name and the label of devices of the host, and the root that is
read of it. -/
lemma targets_named {P : List Char → Prop} (htop : P top)
    (hlower : ∀ device, ∀ lower ∈ host.lowerDevices device, P lower) :
    ∀ t ∈ host.targets top, P t.name ∧ t.root = host.guard.readRoot t.name ∧
      ∃ uppers, (∀ u ∈ uppers, P u) ∧ t.label = label t.name uppers := by
  have hnil : ∀ u ∈ ([] : List (List Char)), P u := fun u hu => nomatch hu
  by_cases hnoqueue : isNoqueue (host.guard.readRoot top) = true
  · have htargets : host.targets top = (followNoqueue host.guard maxLowerDepth [] top
        (host.guard.readRoot top) ([top], [])).2 := if_pos hnoqueue
    rw [htargets]
    refine followNoqueue_targets hlower (fun uppers device huppers hdevice => ?_) maxLowerDepth []
      top _ hnil htop fun t ht => nomatch ht
    exact ⟨hdevice, rfl, uppers, huppers, rfl⟩
  · have htargets : host.targets top = [⟨top, top, host.guard.readRoot top⟩] := if_neg hnoqueue
    rw [htargets]
    exact List.forall_mem_singleton.mpr ⟨htop, rfl, [], hnil, rfl⟩

/-- What `load_managed` gets. -/
lemma loadManaged_eq (hshows : host.Shows) (htop : top ≠ []) (hplain : Plain top)
    (hlower : ∀ device, ∀ lower ∈ host.lowerDevices device, Plain lower) :
    Shell.loadManaged host top = entries (host.targets top) := by
  rw [Shell.loadManaged, managedDevices_printed hshows htop]
  refine read_linesOf fun e he => ?_
  obtain ⟨t, ht, hentry⟩ := List.mem_filterMap.mp he
  obtain ⟨hname, hroot, uppers, huppers, hlabel⟩ :=
    targets_named (P := fun u => u ≠ [] ∧ Plain u) ⟨htop, hplain⟩
      (fun device lower hin => ⟨host.lower_ne_nil device lower hin, hlower device lower hin⟩) t ht
  rcases rootSummary_eq hshows t.name with ⟨-, hread⟩ | ⟨q, hread, hsummary, -⟩
  · rw [Target.entry] at hentry
    split at hentry
    · next q heq => exact absurd (hroot.symm.trans heq) (hread q)
    · exact nomatch hentry
  · rw [Target.entry, hroot, hread, Option.some.injEq] at hentry
    have hword : Plain q.summary := by
      rw [← hsummary, NetHost.rootSummary]
      split
      · exact plain_rootQdiscSummary _
      · exact ⟨List.not_mem_nil, List.not_mem_nil⟩
    rw [← hentry, hlabel]
    exact ⟨hname.1, hname.2, hword, hname.2.label fun u hu => (huppers u hu).2⟩

end Mirror

/-- **The installer manages the devices of the guard.**  Whatever the links of the host and
the roots of its devices, as long as `tc` prints trees in which the guard hides nothing that
makes a difference: `managed_devices` of the installer prints a line for each device that the
guard manages and whose root it can read, in the guard's order, with the guard's word for the
root and the guard's label; and where no name has a bar or a newline, `load_managed` gets
exactly these. -/
theorem managed_devices_mirror (host : NetHost) (hshows : host.Shows) (top : List Char)
    (htop : top ≠ []) :
    let targets := (managedDevices host.guard top (host.guard.readRoot top)).targets
    Shell.managedDevices host top = linesOf (entries targets) ∧
      (Plain top → (∀ device, ∀ lower ∈ host.lowerDevices device, Plain lower) →
        Shell.loadManaged host top = entries targets) :=
  ⟨managedDevices_printed hshows htop, loadManaged_eq hshows htop⟩

/-- A VLAN on a NIC with fq, as `tc` shows the two. -/
def vlanNet : NetHost where
  lowerDevices device := if device = "eth0.77".toList then ["eth0".toList] else []
  hasDeviceLink device := device = "eth0".toList
  tcShow device :=
    if device = "eth0.77".toList then .ok "qdisc noqueue 0: root \n".toList
    else if device = "eth0".toList then .ok "qdisc fq 8001: root \n".toList
    else .error "Cannot find device".toList
  lower_ne_nil device lower h := by
    split_ifs at h
    · rw [List.mem_singleton.mp h]
      decide
    · exact absurd h List.not_mem_nil

/-- A device with a root alone. -/
def TcTree.rootOnly (root : TcQdisc) (h : root.handle ≠ 0xffff) : TcTree := ⟨[], root, [], h⟩

/-- Under a VLAN both programs find the NIC. -/
theorem managed_devices_mirror_vlan :
    Shell.loadManaged vlanNet "eth0.77".toList =
      [("eth0".toList, "fq".toList, "eth0 (under eth0.77)".toList)] := by
  have hshows : vlanNet.Shows := by
    intro device output h
    rw [vlanNet] at h
    dsimp only at h
    split_ifs at h
    · rw [← Except.ok.inj h]
      exact .inr ⟨.rootOnly (.plain "noqueue".toList 0 (by decide) (by decide)) (by decide),
        by decide +kernel, by decide +kernel⟩
    · rw [← Except.ok.inj h]
      exact .inr ⟨.rootOnly (.plain "fq".toList 0x8001 (by decide) (by decide)) (by decide),
        by decide +kernel, by decide +kernel⟩
  have hlower : ∀ device, ∀ lower ∈ vlanNet.lowerDevices device, Plain lower := by
    intro device lower h
    rw [vlanNet] at h
    dsimp only at h
    split_ifs at h
    · rw [List.mem_singleton.mp h]
      exact ⟨by decide, by decide⟩
    · exact absurd h List.not_mem_nil
  refine ((managed_devices_mirror vlanNet hshows _ (by decide)).2 ⟨by decide, by decide⟩
    hlower).trans ?_
  decide +kernel

end SkylineSpeeder
