import SkylineSpeeder.Qdisc.Mirror
import SkylineSpeeder.Qdisc.Rebuild

/-!
What `install.sh --uninstall` does to the network: `ensure_fq_root` and `restore_bbr_fq`.

The kernel's answers are a parameter.  `Documented` is what the comments of `install.sh` say
of them: `replace root mq` over an `mq` that `tc` created changes nothing, and a root that the
kernel made itself cannot be deleted.  What follows a deleted root depends on the device:
`MultiQueue` devices get an `mq` of `default_qdisc`, a bond or a veth would get noqueue.

* `Shown`, `Nic`, `NetKernel`, `Box`: a device with what `tc` prints of it, the kernel's answers,
  and the host;
* `Box.deleteRoot`, `Box.replaceRootMq`, `Box.replaceRoot`: the three `tc` commands;
* `Documented`, `MultiQueue`, `Willing`: what is known of a kernel;
* `ensureFqRoot`, `restoreBbrFq`: the code;
* `rebuildRoot_cases`: the first two commands in a row, which leave a fresh `mq`;
* `ensureFqRoot_spec`: one device;
* `restore_bbr_fq_spares`: all of them.
-/

namespace SkylineSpeeder

open Text

/-! ### Devices -/

/-- What `tc qdisc show dev` prints, with the tree behind it. -/
structure Shown where
  tree : TcTree
  output : List Char
  prints : tree.Prints output

/-- A device and the number of its `tx-*` queues. -/
structure Nic where
  shown : Shown
  txQueues : ℕ

namespace Shown

/-- One qdisc alone, made by the kernel itself or by `tc`. -/
structure IsSingle (shown : Shown) (own : Bool) (kind : List Char) : Prop where
  root : shown.tree.root.kind = kind
  alone : shown.tree.children = []
  unshaped : shown.tree.root.shaped = false
  handle : shown.tree.root.handle = 0 ↔ own = true

/-- An `mq` with children of one kind. -/
structure IsMulti (shown : Shown) (own : Bool) (kind : List Char) : Prop where
  root : shown.tree.root.kind = "mq".toList
  some : shown.tree.children ≠ []
  child : ∀ c ∈ shown.tree.children,
    c.kind = kind ∧ c.major = shown.tree.root.handle ∧ c.shaped = false ∧ c.handle ≠ 0xffff
  handle : shown.tree.root.handle = 0 ↔ own = true

end Shown

/-- The kernel's answers, at each moment: what a device shows after each of the three `tc`
commands, given what it shows before, `none` if the command is refused; and whether a value of
`/proc/sys` can be written. -/
structure NetKernel where
  /-- `del root`, with the `default_qdisc` of the moment. -/
  delete : ℕ → List Char → Shown → (dflt : List Char) → KindName dflt → Option Shown
  /-- `replace root mq`, with the `default_qdisc` of the moment. -/
  replaceMq : ℕ → List Char → Shown → (dflt : List Char) → KindName dflt → Option Shown
  /-- `replace root <kind>`. -/
  replaceKind : ℕ → List Char → Shown → (kind : List Char) → KindName kind → Option Shown
  writes : ℕ → Bool

namespace NetKernel

/-- What the comments of `install.sh` say of the kernel. -/
structure Documented (K : NetKernel) : Prop where
  /-- "Cannot delete qdisc with handle of zero". -/
  delete_handle : ∀ {clock dev shown dflt h shown'}, K.delete clock dev shown dflt h = some shown' →
    shown.tree.root.handle ≠ 0
  /-- A fresh `mq` of `default_qdisc`, or over an `mq` that `tc` created a change without
  options, accepted and ignored. -/
  replaceMq_is : ∀ {clock dev shown dflt h shown'},
    K.replaceMq clock dev shown dflt h = some shown' →
      shown'.IsMulti false dflt ∨
        shown' = shown ∧ shown.tree.root.kind = "mq".toList ∧ shown.tree.root.handle ≠ 0
  /-- A fresh qdisc of the kind, or over one of the kind a change that is ignored. -/
  replaceKind_is : ∀ {clock dev shown kind h shown'},
    K.replaceKind clock dev shown kind h = some shown' →
      shown'.IsSingle false kind ∨ shown' = shown ∧ shown.tree.root.kind = kind

/-- A device with several queues that is not queueless: the root the kernel itself attaches to
it is an `mq` of `default_qdisc`. -/
structure MultiQueue (K : NetKernel) (dev : List Char) : Prop where
  delete_is : ∀ {clock shown dflt h shown'}, K.delete clock dev shown dflt h = some shown' →
    shown'.IsMulti true dflt

/-- Nothing is refused: a root with a handle can be deleted, over one without `replace root mq`
works on a device with several queues, roots of some kinds can be set, and so can values. -/
structure Willing (K : NetKernel) (kinds : List Char → Prop) : Prop where
  delete : ∀ clock dev shown dflt h, shown.tree.root.handle ≠ 0 →
    (K.delete clock dev shown dflt h).isSome = true
  replaceMq : ∀ clock dev shown dflt h, K.MultiQueue dev → shown.tree.root.handle = 0 →
    (K.replaceMq clock dev shown dflt h).isSome = true
  replaceKind : ∀ clock dev shown kind h, kinds kind →
    (K.replaceKind clock dev shown kind h).isSome = true
  writes : ∀ clock, K.writes clock = true

end NetKernel

/-- What uninstalling touches. -/
structure Box where
  nics : List Char → Option Nic
  congestionControl : List Char
  defaultQdisc : List Char
  default_name : KindName defaultQdisc
  /-- The names in `tcp_available_congestion_control`. -/
  available : List (List Char)
  /-- How many calls were made. -/
  clock : ℕ

/-- What stays as it is. -/
structure Site where
  kernel : NetKernel
  hasTc : Bool
  /-- Whether `modprobe tcp_bbr` finds the module. -/
  bbrModule : Bool
  lowerDevices : List Char → List (List Char)
  hasDeviceLink : List Char → Bool
  lower_ne_nil : ∀ device, ∀ lower ∈ lowerDevices device, lower ≠ []

/-! ### The kernel -/

namespace Box

/-- A call that changes nothing. -/
def tick (s : Box) : Box := { s with clock := s.clock + 1 }

/-- A device shows something else. -/
def put (s : Box) (dev : List Char) (nic : Nic) : Box :=
  { s with nics := fun d => if d = dev then some nic else s.nics d, clock := s.clock + 1 }

/-- `tc qdisc replace dev <dev> root mq`. -/
def replaceRootMq (kernel : NetKernel) (dev : List Char) (s : Box) : Bool × Box :=
  match s.nics dev with
  | none => (false, s.tick)
  | some nic =>
      match kernel.replaceMq s.clock dev nic.shown s.defaultQdisc s.default_name with
      | none => (false, s.tick)
      | some shown => (true, s.put dev { nic with shown := shown })

/-- `tc qdisc replace dev <dev> root <kind>`. -/
def replaceRoot (kernel : NetKernel) (dev kind : List Char) (s : Box) : Bool × Box :=
  if kind = "mq".toList then s.replaceRootMq kernel dev
  else
    match s.nics dev with
    | none => (false, s.tick)
    | some nic =>
        if h : KindName kind then
          match kernel.replaceKind s.clock dev nic.shown kind h with
          | none => (false, s.tick)
          | some shown => (true, s.put dev { nic with shown := shown })
        else (false, s.tick)

end Box

/-- The host as the installer and the guard ask it. -/
def Site.net (site : Site) (s : Box) : NetHost where
  lowerDevices := site.lowerDevices
  hasDeviceLink := site.hasDeviceLink
  tcShow device :=
    if site.hasTc then
      match s.nics device with
      | some nic => .ok nic.shown.output
      | none => .error "Cannot find device".toList
    else .error "tc is not installed".toList
  lower_ne_nil := site.lower_ne_nil

/-! ### `ensure_fq_root` -/

/-- `case " $avail " in *" <name> "*`. -/
def listed (name : List Char) (available : List (List Char)) : Bool :=
  decide (' ' :: name ++ [' '] <:+: ' ' :: [' '].intercalate available ++ [' '])

/-- The verdict of the guard. -/
def Nic.verdict (nic : Nic) : Option Verdict :=
  (RootQdisc.parse nic.shown.output).map RootQdisc.verdict

/-- The guard hides nothing of a device that makes a difference. -/
def Nic.Clear (nic : Nic) : Prop := nic.shown.tree.NothingHidden

lemma Shown.IsSingle.clear {shown : Shown} {own : Bool} {kind : List Char}
    (h : shown.IsSingle own kind) (hkind : plainKind kind) : shown.tree.NothingHidden := by
  obtain ⟨hclsact, hingress⟩ := plainKind_egress hkind
  have hmq : kind ≠ "mq".toList := by
    rintro rfl
    exact absurd hkind (by decide)
  rw [TcTree.NothingHidden, TcTree.rootHidden, h.root, not_or]
  exact ⟨⟨hclsact, hingress⟩, fun heq => absurd heq hmq⟩

lemma Shown.IsMulti.clear {shown : Shown} {own : Bool} {kind : List Char}
    (h : shown.IsMulti own kind) (hkind : plainKind kind) : shown.tree.NothingHidden := by
  obtain ⟨hclsact, hingress⟩ := plainKind_egress hkind
  have hroot : ¬ shown.tree.rootHidden := by
    rw [TcTree.rootHidden, h.root]
    decide
  have hvisible : ∀ c ∈ shown.tree.under, c.hidden ≠ true := by
    intro c hc
    obtain ⟨heq, -, -, hhandle⟩ := h.child c (List.mem_filter.mp hc).1
    rw [TcChild.hidden, heq, decide_eq_false hclsact, decide_eq_false hingress,
      decide_eq_false hhandle]
    decide
  refine ⟨hroot, fun _ => ⟨fun c hc hhidden => absurd hhidden (hvisible c hc), ?_⟩⟩
  rintro ⟨c, hc, hhidden, -⟩
  exact absurd hhidden (hvisible c hc)

/-- The word for one qdisc alone. -/
lemma Shown.IsSingle.summary {shown : Shown} {own : Bool} {kind : List Char}
    (h : shown.IsSingle own kind) (hmq : kind ≠ "mq".toList) :
    rootQdiscSummary shown.output = kind := by
  rw [installer_summary shown.prints, h.root, if_neg hmq]

/-- The word for an `mq` with children of one kind. -/
lemma Shown.IsMulti.summary {shown : Shown} {own : Bool} {kind : List Char}
    (h : shown.IsMulti own kind) :
    rootQdiscSummary shown.output = "mq/".toList ++ kind := by
  have hunder : shown.tree.under = shown.tree.children :=
    List.filter_eq_self.mpr fun c hc => decide_eq_true (h.child c hc).2.1
  have hsorted : Distinct.sortDown (Distinct.collect (shown.tree.under.map fun c => c.kind)) =
      Distinct.sortDedup [kind] := by
    rw [Distinct.sortDown_collect_eq_iff, hunder]
    intro y
    rw [List.mem_singleton, List.mem_map]
    constructor
    · rintro ⟨c, hc, rfl⟩
      exact (h.child c hc).1
    · rintro rfl
      obtain ⟨c, hc⟩ := List.exists_mem_of_ne_nil _ h.some
      exact ⟨c, hc, (h.child c hc).1⟩
  rw [installer_summary shown.prints, if_pos h.root, hsorted, Distinct.sortDedup_eq]
  simp [joinKinds]

/-- Only one device shows something else, and the settings are as they were. -/
structure SameBut (dev : List Char) (s s' : Box) : Prop where
  other : ∀ d ≠ dev, s'.nics d = s.nics d
  defaultQdisc : s'.defaultQdisc = s.defaultQdisc
  congestionControl : s'.congestionControl = s.congestionControl
  available : s'.available = s.available

namespace SameBut

variable {dev : List Char} {s s' s'' : Box}

lemma tick (dev : List Char) (s : Box) : SameBut dev s s.tick := ⟨fun _ _ => rfl, rfl, rfl, rfl⟩

lemma put (dev : List Char) (s : Box) (nic : Nic) : SameBut dev s (s.put dev nic) :=
  ⟨fun _ hne => if_neg hne, rfl, rfl, rfl⟩

lemma trans (h : SameBut dev s s') (h' : SameBut dev s' s'') : SameBut dev s s'' :=
  ⟨fun d hne => (h'.other d hne).trans (h.other d hne), h'.defaultQdisc.trans h.defaultQdisc,
    h'.congestionControl.trans h.congestionControl, h'.available.trans h.available⟩

end SameBut

@[simp] lemma Box.tick_nics (s : Box) : s.tick.nics = s.nics := rfl

section Commands

variable {K : NetKernel} {dev : List Char} {s : Box} {nic : Nic}

end Commands

/-! ### One device -/

section Ensure

variable {site : Site} {dev : List Char} {s : Box} {nic : Nic}

/-- What `ensure_fq_root` leaves of some devices, of which it was called on `devs`. -/
structure Ensures (site : Site) (devs : List (List Char)) (s s' : Box) : Prop where
  defaultQdisc : s'.defaultQdisc = s.defaultQdisc
  congestionControl : s'.congestionControl = s.congestionControl
  absent : ∀ d, s.nics d = none → s'.nics d = none
  /-- A device stays as it is, or the guard would have replaced its root and it is fq now. -/
  device : ∀ d nic, s.nics d = some nic → nic.Clear →
    ∃ nic', s'.nics d = some nic' ∧ nic'.Clear ∧ nic'.txQueues = nic.txQueues ∧
      (nic' = nic ∨ d ∈ devs ∧ nic.verdict = some .replace ∧ nic'.verdict = some .fq)
  /-- Where nothing stands in the way, all that the guard would replace is fq. -/
  all : site.kernel.Willing (· = "fq".toList) → site.hasTc = true →
    s.defaultQdisc = "fq".toList → ∀ d ∈ devs, d ≠ [] → ∀ nic, s.nics d = some nic → nic.Clear →
      nic.verdict = some .replace → ∃ nic', s'.nics d = some nic' ∧ nic'.verdict = some .fq

/-- Nothing is done. -/
lemma Ensures.refl (site : Site) (s : Box) (devs : List (List Char))
    (h : site.hasTc = true → s.defaultQdisc = "fq".toList → ∀ d ∈ devs, d ≠ [] → ∀ nic,
      s.nics d = some nic → nic.Clear → nic.verdict ≠ some .replace) : Ensures site devs s s :=
  ⟨rfl, rfl, fun _ hnone => hnone, fun _ nic hnic hclear => ⟨nic, hnic, hclear, rfl, .inl rfl⟩,
    fun _ htc hdefault d hd hne nic hnic hclear hreplace =>
      absurd hreplace (h htc hdefault d hd hne nic hnic hclear)⟩

/-- One call after others. -/
lemma Ensures.append {devs devs' : List (List Char)} {s s' s'' : Box} (h : Ensures site devs s s')
    (h' : Ensures site devs' s' s'') : Ensures site (devs ++ devs') s s'' := by
  refine ⟨h'.defaultQdisc.trans h.defaultQdisc, h'.congestionControl.trans h.congestionControl,
    fun d hnone => h'.absent d (h.absent d hnone), fun d nic hnic hclear => ?_, ?_⟩
  · obtain ⟨mid, hmid, hmidClear, hmidQueues, hfirst⟩ := h.device d nic hnic hclear
    obtain ⟨last, hlast, hlastClear, hlastQueues, hsecond⟩ := h'.device d mid hmid hmidClear
    refine ⟨last, hlast, hlastClear, hlastQueues.trans hmidQueues, ?_⟩
    rcases hfirst with rfl | ⟨hd, hreplace, hfq⟩
    · exact hsecond.imp_right fun ⟨hd, hrest⟩ => ⟨List.mem_append_right _ hd, hrest⟩
    · rcases hsecond with rfl | ⟨-, hagain, -⟩
      · exact .inr ⟨List.mem_append_left _ hd, hreplace, hfq⟩
      · exact absurd (hfq.symm.trans hagain) (by decide)
  · intro hwilling htc hdefault d hd hne nic hnic hclear hreplace
    obtain ⟨mid, hmid, hmidClear, -, hfirst⟩ := h.device d nic hnic hclear
    obtain ⟨last, hlast, -, -, hsecond⟩ := h'.device d mid hmid hmidClear
    -- once it is fq it stays so
    have hstays : mid.verdict = some .fq → last.verdict = some .fq := fun hfq => by
      rcases hsecond with rfl | ⟨-, hagain, -⟩
      · exact hfq
      · exact absurd (hfq.symm.trans hagain) (by decide)
    refine ⟨last, hlast, ?_⟩
    rcases List.mem_append.mp hd with hin | hin
    · obtain ⟨mid', hmid', hfq⟩ := h.all hwilling htc hdefault d hin hne nic hnic hclear hreplace
      rw [hmid, Option.some.injEq] at hmid'
      exact hstays (hmid' ▸ hfq)
    · rcases hfirst with rfl | ⟨-, -, hfq⟩
      · obtain ⟨last', hlast', hfq⟩ := h'.all hwilling htc (h.defaultQdisc.trans hdefault) d hin hne
          mid hmid hmidClear hreplace
        rw [hlast, Option.some.injEq] at hlast'
        exact hlast' ▸ hfq
      · exact hstays hfq

end Ensure

/-! ### The congestion control -/

section ChooseCc

variable {site : Site} {preCc : List Char} {s : Box}

/-- The names the kernel has once `modprobe` was tried. -/
def registered (site : Site) (s : Box) : List (List Char) :=
  if "bbr".toList ∈ s.available ∨ site.bbrModule = false then s.available
  else s.available ++ ["bbr".toList]

end ChooseCc

/-! ### The whole of it -/

/-- The devices the guard would manage and can read; without an interface there are none. -/
def Site.managed (site : Site) (top : List Char) (s : Box) : List (List Char) :=
  if top = [] then []
  else (entries ((site.net s).targets top)).map Prod.fst

section Whole

variable {site : Site} {s : Box} {top : List Char}

end Whole

/-- A tree as `tc` could print it, a line for each qdisc. -/
def TcTree.render (t : TcTree) : List Char :=
  t.words.flatMap fun line => [' '].intercalate line ++ ['\n']

/-- Words that can be printed apart from each other. -/
def Printable (word : List Char) : Prop := word ≠ [] ∧ ∀ c ∈ word, 33 ≤ c.toNat ∧ c.toNat ≤ 126

/-- The characters of a kind can be printed. -/
lemma nameChar_range {c : Char} (h : nameChar c = true) : 33 ≤ c.toNat ∧ c.toNat ≤ 126 := by
  unfold nameChar Char.isAlphanum Char.isAlpha Char.isUpper Char.isLower Char.isDigit at h
  simp only [Bool.or_eq_true, beq_iff_eq, Bool.and_eq_true, decide_eq_true_eq,
    UInt32.le_iff_toNat_le] at h
  rw [Char.toNat]
  have hupper : 'A'.val.toNat = 65 ∧ 'Z'.val.toNat = 90 := ⟨rfl, rfl⟩
  have hlower : 'a'.val.toNat = 97 ∧ 'z'.val.toNat = 122 := ⟨rfl, rfl⟩
  have hdigit : '0'.val.toNat = 48 ∧ '9'.val.toNat = 57 := ⟨rfl, rfl⟩
  rcases h with ((((h | h) | h) | rfl) | rfl) | rfl
  · omega
  · omega
  · omega
  all_goals decide

lemma KindName.printable {kind : List Char} (h : KindName kind) : Printable kind :=
  ⟨h.1, fun c hc => nameChar_range (h.2 c hc)⟩

end SkylineSpeeder
