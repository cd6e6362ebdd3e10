import SkylineSpeeder.Machine.Search
import SkylineSpeeder.Qdisc.Guard

/-!
The devices whose root qdisc the guard manages: `managed_devices` and `follow_noqueue` of
`guard.rs`.

Under a device whose root is noqueue the guard follows the `lower_*` links, over at most
`MAX_LOWER_DEPTH` of them and into no device twice.

* `followNoqueue`, `managedDevices`: the code;
* `followNoqueue_eq`: it meets what `Search.search` meets, and manages the NICs among these;
* `DeviceHost.Manages`: the NICs under a device, as links and roots say;
* `managed_devices_exact`: each device is found at most once, what is found is managed, and
  all of it is found where no device has its first path at the last depth and a shorter one.
-/

namespace SkylineSpeeder

/-! ### Devices -/

/-- What a read of a root qdisc gives: no root, a root, or the error. -/
abbrev RootRead := Except (List Char) (Option RootQdisc)

/-- What `managed_devices` asks the host: the `lower_*` links and the `device` link of a
device, and its root qdisc. -/
structure DeviceHost where
  lowerDevices : List Char → List (List Char)
  hasDeviceLink : List Char → Bool
  readRoot : List Char → RootRead

/-- `MAX_LOWER_DEPTH`. -/
def maxLowerDepth : ℕ := 4

/-- `is_noqueue`. -/
def isNoqueue : RootRead → Bool
  | .ok (some root) => root.kind = "noqueue".toList
  | _ => false

/-- `Target`. -/
structure Target where
  name : List Char
  label : List Char
  root : RootRead

/-- `label`. -/
def label (device : List Char) (uppers : List (List Char)) : List Char :=
  if uppers = [] then device
  else
    device ++ " (under ".toList ++ " under ".toList.intercalate uppers ++ ")".toList

/-- The set of visited devices and the targets. -/
abbrev Found := List (List Char) × List Target

/-- The loop of `follow_noqueue`: one device under another; `follow` is `follow_noqueue` one
link further down. -/
def followLower (host : DeviceHost) (follow : List Char → RootRead → Found → Found)
    (below : List (List Char)) : Found → List Char → Found
  | (visited, targets), lower =>
      if lower ∈ visited then (visited, targets)
      else
        let visited := visited ++ [lower]
        let deviceLink := host.hasDeviceLink lower
        -- a tap or a veth with nothing under it: its root is not read
        if !deviceLink && host.lowerDevices lower = [] then (visited, targets)
        else
          let root := host.readRoot lower
          if isNoqueue root then follow lower root (visited, targets)
          else if deviceLink then (visited, targets ++ [⟨lower, label lower below, root⟩])
          else (visited, targets)

/-- `follow_noqueue` on a device that can be followed over `left` more links. -/
def followNoqueue (host : DeviceHost) :
    ℕ → List (List Char) → List Char → RootRead → Found → Found
  | left, uppers, device, root, (visited, targets) =>
      let lowers := host.lowerDevices device
      if lowers = [] then
        if host.hasDeviceLink device then
          (visited, targets ++ [⟨device, label device uppers, root⟩])
        else (visited, targets)
      else
        match left with
        | 0 => (visited, targets)
        | left + 1 =>
            let below := device :: uppers
            lowers.foldl (followLower host (followNoqueue host left below) below)
              (visited, targets)

/-- `Managed`. -/
structure ManagedDevices where
  targets : List Target
  nothingUnderNoqueue : Bool

/-- `managed_devices`; `root` is what was read of the interface. -/
def managedDevices (host : DeviceHost) (interface : List Char) (root : RootRead) :
    ManagedDevices :=
  let noqueue := isNoqueue root
  let targets :=
    if noqueue then
      (followNoqueue host maxLowerDepth [] interface root ([interface], [])).2
    else [⟨interface, interface, root⟩]
  { targets := targets, nothingUnderNoqueue := noqueue && targets.isEmpty }

/-! ### The search behind it -/

namespace DeviceHost

variable (host : DeviceHost)

/-- The devices under a device, if its root is noqueue. -/
def below (device : List Char) : List (List Char) :=
  if isNoqueue (host.readRoot device) then host.lowerDevices device else []

/-- A NIC: a device with a `device` link whose root is not noqueue, or with nothing under
it. -/
def isNic (device : List Char) : Bool :=
  host.hasDeviceLink device &&
    (!isNoqueue (host.readRoot device) || host.lowerDevices device = [])

/-- A NIC that is reached from `interface` over at most `MAX_LOWER_DEPTH` links, each from a
device whose root is noqueue. -/
def Manages (interface device : List Char) : Prop :=
  host.isNic device = true ∧ ∃ k ≤ maxLowerDepth, Search.Steps host.below interface k device

/-- The names of the devices that are managed. -/
def managedNames (interface : List Char) : List (List Char) :=
  (managedDevices host interface (host.readRoot interface)).targets.map Target.name

end DeviceHost

open Search

/-- What was visited is what the search met, and the targets are the NICs among it. -/
structure FoundBy (host : DeviceHost) (met : List (List Char × ℕ)) (found : Found) : Prop where
  visited : found.1 = names met
  targets : found.2.map Target.name = (names met).filter host.isNic

lemma search_of_nil {next : List Char → List (List Char)} {x : List Char} (h : next x = [])
    (left : ℕ) (met : List (List Char × ℕ)) : search next left x met = met := by
  cases left with
  | zero => rfl
  | succ left => rw [search_succ, h, List.foldl_nil]

section FoundBy

/-- Where the search does not go on. -/
lemma below_eq_nil {host : DeviceHost} {device : List Char}
    (h : ¬ isNoqueue (host.readRoot device) = true ∨ host.lowerDevices device = []) :
    host.below device = [] := by
  rw [DeviceHost.below]
  rcases h with hnoqueue | hnone
  · rw [if_neg hnoqueue]
  · rw [hnone, ite_self]

variable {host : DeviceHost} {met : List (List Char × ℕ)} {visited : List (List Char)}
  {targets : List Target} {device : List Char} {left : ℕ}

/-- A device is visited that is no NIC. -/
lemma FoundBy.pass (h : FoundBy host met (visited, targets)) (hnic : host.isNic device = false) :
    FoundBy host (met ++ [(device, left)]) (visited ++ [device], targets) := by
  refine ⟨?_, ?_⟩
  · rw [names_append, ← h.visited]
    rfl
  · rw [names_append, List.filter_append, ← h.targets]
    simp [names, hnic]

/-- A NIC is visited. -/
lemma FoundBy.push (h : FoundBy host met (visited, targets)) (hnic : host.isNic device = true)
    (label : List Char) (root : RootRead) :
    FoundBy host (met ++ [(device, left)])
      (visited ++ [device], targets ++ [⟨device, label, root⟩]) := by
  refine ⟨?_, ?_⟩
  · rw [names_append, ← h.visited]
    rfl
  · rw [names_append, List.filter_append, ← h.targets]
    simp [names, hnic]

/-- A device under a noqueue device. -/
lemma FoundBy.lower {follow : List Char → RootRead → Found → Found}
    {below : List (List Char)} (h : FoundBy host met (visited, targets))
    (hfollow : isNoqueue (host.readRoot device) = true →
      FoundBy host (search host.below left device (met ++ [(device, left)]))
        (follow device (host.readRoot device) (visited ++ [device], targets))) :
    FoundBy host (visit host.below left met device)
      (followLower host follow below (visited, targets) device) := by
  rw [visit, followLower, ← h.visited]
  dsimp only
  split_ifs with hin hskip hnoqueue hlink
  · exact h
  · -- nothing under it and no NIC
    rw [Bool.and_eq_true, Bool.not_eq_true', decide_eq_true_iff] at hskip
    rw [search_of_nil (below_eq_nil (.inr hskip.2))]
    exact h.pass (by rw [DeviceHost.isNic, hskip.1, Bool.false_and])
  · exact hfollow hnoqueue
  · rw [search_of_nil (below_eq_nil (.inl hnoqueue))]
    exact h.push (by rw [DeviceHost.isNic, hlink]; simp [hnoqueue]) _ _
  · rw [search_of_nil (below_eq_nil (.inl hnoqueue))]
    exact h.pass (by rw [DeviceHost.isNic]; simp [hlink])

/-- Some devices under a noqueue device. -/
lemma FoundBy.lowers {follow : List Char → RootRead → Found → Found} {below : List (List Char)}
    (hfollow : ∀ device met visited targets, isNoqueue (host.readRoot device) = true →
      FoundBy host met (visited, targets) →
        FoundBy host (search host.below left device (met ++ [(device, left)]))
          (follow device (host.readRoot device) (visited ++ [device], targets))) :
    ∀ (lowers : List (List Char)) (met : List (List Char × ℕ)) (found : Found),
      FoundBy host met found →
        FoundBy host (lowers.foldl (visit host.below left) met)
          (lowers.foldl (followLower host follow below) found) := by
  intro lowers
  induction lowers with
  | nil => exact fun _ _ h => h
  | cons lower lowers ih =>
      rintro met ⟨visited, targets⟩ h
      rw [List.foldl_cons, List.foldl_cons]
      exact ih _ _ (h.lower fun hnoqueue => hfollow lower met visited targets hnoqueue h)

end FoundBy

/-- A noqueue device with nothing under it. -/
lemma FoundBy.leaf {host : DeviceHost} {met : List (List Char × ℕ)} {visited : List (List Char)}
    {targets : List Target} {device : List Char} (h : FoundBy host met (visited, targets))
    (hnone : host.lowerDevices device = []) (left : ℕ) (uppers : List (List Char))
    (root : RootRead) :
    FoundBy host (search host.below left device (met ++ [(device, left)]))
      (followNoqueue host left uppers device root (visited ++ [device], targets)) := by
  have hnic : host.isNic device = host.hasDeviceLink device := by
    rw [DeviceHost.isNic, hnone]
    simp
  have hcode : followNoqueue host left uppers device root (visited ++ [device], targets) =
      if host.hasDeviceLink device then
        (visited ++ [device], targets ++ [⟨device, label device uppers, root⟩])
      else (visited ++ [device], targets) := by
    cases left <;> exact if_pos hnone
  rw [search_of_nil (below_eq_nil (.inr hnone)), hcode]
  split_ifs with hlink
  · exact h.push (hnic.trans hlink) _ _
  · exact h.pass (hnic.trans (Bool.eq_false_iff.mpr hlink))

/-- **The code follows the search.** -/
lemma followNoqueue_eq (host : DeviceHost) :
    ∀ (left : ℕ) (uppers : List (List Char)) (device : List Char) (met : List (List Char × ℕ))
      (visited : List (List Char)) (targets : List Target),
      isNoqueue (host.readRoot device) = true → FoundBy host met (visited, targets) →
        FoundBy host (search host.below left device (met ++ [(device, left)]))
          (followNoqueue host left uppers device (host.readRoot device)
            (visited ++ [device], targets)) := by
  have hinner : ∀ {device : List Char}, isNoqueue (host.readRoot device) = true →
      host.lowerDevices device ≠ [] → host.isNic device = false := fun hnoqueue hsome => by
    rw [DeviceHost.isNic, hnoqueue]
    simp [hsome]
  intro left
  induction left with
  | zero =>
      intro uppers device met visited targets hnoqueue h
      by_cases hnone : host.lowerDevices device = []
      · exact h.leaf hnone 0 uppers _
      · rw [followNoqueue, if_neg hnone]
        exact h.pass (hinner hnoqueue hnone)
  | succ left ih =>
      intro uppers device met visited targets hnoqueue h
      by_cases hnone : host.lowerDevices device = []
      · exact h.leaf hnone (left + 1) uppers _
      · have hbelow : host.below device = host.lowerDevices device := if_pos hnoqueue
        rw [followNoqueue, if_neg hnone, search_succ, hbelow]
        refine FoundBy.lowers ?_ (host.lowerDevices device) _ _ (h.pass (hinner hnoqueue hnone))
        exact fun lower met visited targets => ih (device :: uppers) lower met visited targets

/-! ### What is found -/

/-- The search of `managed_devices`, from an interface whose root is noqueue. -/
lemma managedNames_eq {host : DeviceHost} {interface : List Char}
    (hroot : isNoqueue (host.readRoot interface) = true) :
    host.managedNames interface =
      (names (search host.below maxLowerDepth interface [(interface, maxLowerDepth)])).filter
        host.isNic := by
  have hstart : FoundBy host [] ([], []) := ⟨rfl, rfl⟩
  have hfound := followNoqueue_eq host maxLowerDepth [] interface [] [] [] hroot hstart
  rw [DeviceHost.managedNames, managedDevices]
  dsimp only
  rw [if_pos hroot]
  exact hfound.targets

/-- **The NICs under a device.** Under an interface whose root is noqueue, no device is found
twice, what is found is a NIC within the depth, and every such NIC is found unless a device
on the way has its first path at the last depth and a shorter one besides. -/
theorem managed_devices_exact (host : DeviceHost) (interface : List Char)
    (hroot : isNoqueue (host.readRoot interface) = true) :
    ((host.managedNames interface).Nodup ∧
      ∀ device ∈ host.managedNames interface, host.Manages interface device) ∧
    (Unshadowed host.below maxLowerDepth interface →
      ∀ device, device ∈ host.managedNames interface ↔ host.Manages interface device) := by
  have hsound : ∀ device ∈ host.managedNames interface, host.Manages interface device := by
    intro device hdevice
    rw [managedNames_eq hroot, List.mem_filter, mem_names] at hdevice
    obtain ⟨⟨r, hmet⟩, hnic⟩ := hdevice
    obtain ⟨k, hk, hsteps⟩ := steps_of_mem_search _ _ _ _ hmet
    exact ⟨hnic, k, by omega, hsteps⟩
  refine ⟨⟨?_, hsound⟩, fun hun device => ⟨hsound device, ?_⟩⟩
  · rw [managedNames_eq hroot]
    exact (search_nodup _ _ (by simp [names])).filter _
  · rintro ⟨hnic, k, hk, hsteps⟩
    rw [managedNames_eq hroot, List.mem_filter]
    exact ⟨search_complete hun hk hsteps, hnic⟩

/-- A host whose NICs, the devices without lower devices, have fq and all other devices
noqueue. -/
def stackedHost (lowers : List (List Char × List (List Char))) : DeviceHost where
  lowerDevices device := (lowers.lookup device).getD []
  hasDeviceLink device := (lowers.lookup device).isNone
  readRoot device :=
    let kind := if (lowers.lookup device).isNone then "fq".toList else "noqueue".toList
    .ok (some ⟨kind, 0, none, [], ∅⟩)

/-- A VLAN on a NIC. -/
def vlanHost : DeviceHost := stackedHost [("eth0.77".toList, ["eth0".toList])]

/-- The NIC under a VLAN is found. -/
theorem managed_devices_on_vlan :
    isNoqueue (vlanHost.readRoot "eth0.77".toList) = true ∧
      Unshadowed vlanHost.below maxLowerDepth "eth0.77".toList ∧
      ("eth0".toList ∈ vlanHost.managedNames "eth0.77".toList ↔
        vlanHost.Manages "eth0.77".toList "eth0".toList) := by
  have hpaths : pathsFrom vlanHost.below maxLowerDepth "eth0.77".toList =
      [["eth0.77".toList], ["eth0".toList, "eth0.77".toList]] := by decide +kernel
  have hshort : ∀ p ∈ pathsFrom vlanHost.below maxLowerDepth "eth0.77".toList, p.length ≤ 2 := by
    rw [hpaths]
    decide
  have hun : Unshadowed vlanHost.below maxLowerDepth "eth0.77".toList := by
    intro z first rest _ hfirst _ hlength
    have hle := hshort _ (List.mem_of_find?_eq_some hfirst)
    rw [List.length_cons, hlength] at hle
    exact absurd hle (by decide)
  exact ⟨by decide, hun, (managed_devices_exact vlanHost _ (by decide)).2 hun _⟩

/-- A bridge of a team and of a macvlan three links above the same team. -/
def macvlanHost : DeviceHost :=
  stackedHost
    [("br0".toList, ["mac3".toList, "team0".toList]), ("mac3".toList, ["mac2".toList]),
      ("mac2".toList, ["mac1".toList]), ("mac1".toList, ["team0".toList]),
      ("team0".toList, ["eth0".toList])]

/-- The NIC is two links below the bridge and is not found: its team was met at the last
depth. -/
theorem managed_devices_misses_nic :
    isNoqueue (macvlanHost.readRoot "br0".toList) = true ∧
      ¬ ∀ device, device ∈ macvlanHost.managedNames "br0".toList ↔
        macvlanHost.Manages "br0".toList device := by
  refine ⟨by decide, fun h => ?_⟩
  have hnone : "eth0".toList ∉ macvlanHost.managedNames "br0".toList := by decide +kernel
  refine hnone ((h _).mpr ⟨by decide, 2, by decide, ?_⟩)
  have hteam : Steps macvlanHost.below "br0".toList 1 "team0".toList :=
    Steps.refl.step (by decide)
  exact hteam.step (by decide)

end SkylineSpeeder
