import SkylineSpeeder.Tc.Accept
import SkylineSpeeder.Tc.Hook

/-!
A packet through the hook, with the clone it may send.

* `copied`, `cloneRedirect_eq`: a clone of a tagged packet is taken for a copy, whatever
  `bpf_clone_redirect` could do deeper down, and leaves at once;
* `Duplicated`, `accountRedundancy_cases`: what the copier does to a packet;
* `account_eq`, `account_copy`: the whole pass, with the marker's part left as it is.
-/

namespace SkylineSpeeder.Tc

/-- `bpf_clone_redirect` fails at this depth. -/
def refuses (depth : ℕ) (calls : ℕ → Calls) : Bool := depth = 0 || (calls 0).refused

/-- The clone of a tagged packet, after its pass. -/
def copied (nowNs : UInt64) (skb : SkBuff) : SkBuff :=
  { skb with
    sk := none
    cb0 := 0
    cb1 := 0
    tstamp := if skb.cb1 ≠ 0 then nowNs + skb.cb1.toUInt64 * 1000 else skb.tstamp }

/-- **A clone is never cloned**: with the tag and without a socket it is a copy. -/
lemma cloneRedirect_eq (depth : ℕ) (calls : ℕ → Calls) {skb : SkBuff}
    (htag : skb.cb0 = redundancyTag) (e : Egress) :
    cloneRedirect depth calls skb e =
      some (refuses depth calls, if refuses depth calls then e
        else (countPacket skb e).leave true (copied (calls 1).nowNs skb)) := by
  cases depth with
  | zero => rfl
  | succ depth =>
      rw [cloneRedirect, refuses]
      cases (calls 0).refused with
      | true => rfl
      | false =>
          have hcopy : skylineRedundancyCopy (calls 1).nowNs { skb with sk := none } =
              some (copied (calls 1).nowNs skb) := by
            rw [skylineRedundancyCopy, if_neg (by simp [htag])]
            rfl
          simp only [Bool.false_eq_true, if_false, skylineTcAccount, hcopy, Option.bind_eq_bind,
            Option.pure_def, Option.bind_some]
          rfl

/-- The tests of the copier read inside the frame only. -/
lemma exists_redundancySelects (skb : SkBuff) (cfg : RedundancyConfig) :
    ∃ selected, redundancySelects skb cfg = some selected := by
  obtain ⟨found, hspec⟩ := dispatch_spec skb.data
  obtain ⟨stats, hfound, -⟩ := hspec none
  cases found with
  | none => exact ⟨none, by simp [redundancySelects, hfound]⟩
  | some found =>
      simp only [redundancySelects, hfound, Option.bind_eq_bind, Option.bind_some]
      by_cases hfull : skb.data.length < found.l4Off.toNat + 20
      · exact ⟨none, by simp [hfull]⟩
      · obtain ⟨tcp, htcp⟩ := exists_loadTcp skb.data found.l4Off.toNat
          (by omega)
        simp only [if_neg hfull, htcp, Option.bind_some]
        rcases skb.sk with _ | _ | _ | tp
        · exact ⟨none, rfl⟩
        all_goals
          dsimp only [Sock.tcp]
          split_ifs <;> exact ⟨_, rfl⟩

/-- What is counted for a packet that is to be copied. -/
def copyStats (refused handshake : Bool) (len : UInt32) (s : RedundancyStats) :
    RedundancyStats :=
  if refused then { s with cloneFailed := s.cloneFailed + 1 }
  else
    { s with
      packets := s.packets + 1
      bytes := s.bytes + len.toUInt64
      handshakes := if handshake then s.handshakes + 1 else s.handshakes }

/-- The packet as it is cloned. -/
def tagged (cfg : RedundancyConfig) (skb : SkBuff) : SkBuff :=
  { skb with cb0 := redundancyTag, cb1 := cfg.delayUs }

/-- `e` after the clone of a packet has left, or was refused. -/
def afterClone (depth : ℕ) (calls : ℕ → Calls) (cfg : RedundancyConfig) (skb : SkBuff)
    (e : Egress) : Egress :=
  if refuses depth calls then e
  else (countPacket skb e).leave true (copied (calls 1).nowNs (tagged cfg skb))

/-- The counters of the copier, changed. -/
def Egress.countCopy (e : Egress) (f : RedundancyStats → RedundancyStats) : Egress :=
  { e with maps := { e.maps with redundancyStats := e.maps.redundancyStats.map f } }

/-- **`skyline_redundancy_duplicate`**. -/
lemma duplicate_eq (depth : ℕ) (calls : ℕ → Calls) {skb : SkBuff} {cfg : RedundancyConfig}
    {selected : Option Bool} (h : redundancySelects skb cfg = some selected) (e : Egress) :
    skylineRedundancyDuplicate (cloneRedirect depth calls) skb cfg e =
      match selected with
      | none => some (skb, e)
      | some handshake =>
          some ({ skb with cb0 := 0, cb1 := 0 },
            (afterClone depth calls cfg skb e).countCopy
              (copyStats (refuses depth calls) handshake skb.len)) := by
  simp only [skylineRedundancyDuplicate, h, Option.bind_eq_bind, Option.bind_some]
  cases selected with
  | none => rfl
  | some handshake =>
      dsimp only
      rw [cloneRedirect_eq depth calls rfl]
      rfl

/-- What the copier does to a packet and its surroundings. -/
inductive Duplicated (depth : ℕ) (calls : ℕ → Calls) (skb : SkBuff) (e : Egress) :
    SkBuff × Egress → Prop
  | off (h : ∀ cfg, e.maps.redundancyConfig = some cfg → cfg.enabled = 0) :
      Duplicated depth calls skb e (skb, e)
  | mismatch {cfg : RedundancyConfig} (hcfg : e.maps.redundancyConfig = some cfg)
      (habi : cfg.abiVersion ≠ redundancyAbiVersion) :
      Duplicated depth calls skb e
        (skb, e.countCopy fun s => { s with abiMismatch := s.abiMismatch + 1 })
  | passed {cfg : RedundancyConfig} (hcfg : e.maps.redundancyConfig = some cfg)
      (hselects : redundancySelects skb cfg = some none) :
      Duplicated depth calls skb e (skb, e)
  | copied {cfg : RedundancyConfig} {handshake : Bool}
      (hcfg : e.maps.redundancyConfig = some cfg)
      (hselects : redundancySelects skb cfg = some (some handshake)) :
      Duplicated depth calls skb e ({ skb with cb0 := 0, cb1 := 0 },
        (afterClone depth calls cfg skb e).countCopy
          (copyStats (refuses depth calls) handshake skb.len))

lemma accountRedundancy_cases (depth : ℕ) (calls : ℕ → Calls) (skb : SkBuff) (e : Egress) :
    ∃ out, accountRedundancy (cloneRedirect depth calls) skb e = some out ∧
      Duplicated depth calls skb e out := by
  rw [accountRedundancy]
  cases hcfg : e.maps.redundancyConfig with
  | none => exact ⟨_, rfl, .off fun cfg h => by rw [hcfg] at h; cases h⟩
  | some cfg =>
      dsimp only
      by_cases hoff : cfg.enabled = 0
      · rw [if_pos hoff]
        refine ⟨_, rfl, .off fun cfg' h => ?_⟩
        obtain rfl : cfg = cfg' := Option.some.inj (hcfg.symm.trans h)
        exact hoff
      rw [if_neg hoff]
      by_cases habi : cfg.abiVersion ≠ redundancyAbiVersion
      · rw [if_pos habi]
        exact ⟨_, rfl, .mismatch hcfg habi⟩
      rw [if_neg habi]
      obtain ⟨selected, hselects⟩ := exists_redundancySelects skb cfg
      rw [duplicate_eq depth calls hselects]
      cases selected with
      | none => exact ⟨_, rfl, .passed hcfg hselects⟩
      | some handshake => exact ⟨_, rfl, .copied hcfg hselects⟩

/-- What the copier leaves alone: the frame and its socket, the configurations and the
counters of the marker. -/
structure CopyFrame (skb skb' : SkBuff) (e e' : Egress) : Prop where
  data : skb'.data = skb.data
  len : skb'.len = skb.len
  sk : skb'.sk = skb.sk
  dscpConfig : e'.maps.dscpConfig = e.maps.dscpConfig
  dscpStats : e'.maps.dscpStats = e.maps.dscpStats
  redundancyConfig : e'.maps.redundancyConfig = e.maps.redundancyConfig

lemma Duplicated.frame {depth : ℕ} {calls : ℕ → Calls} {skb : SkBuff} {e : Egress}
    {out : SkBuff × Egress} (h : Duplicated depth calls skb e out) :
    CopyFrame skb out.1 e out.2 := by
  cases h with
  | off => exact ⟨rfl, rfl, rfl, rfl, rfl, rfl⟩
  | mismatch => exact ⟨rfl, rfl, rfl, rfl, rfl, rfl⟩
  | passed => exact ⟨rfl, rfl, rfl, rfl, rfl, rfl⟩
  | copied =>
      dsimp only [afterClone]
      split
      · exact ⟨rfl, rfl, rfl, rfl, rfl, rfl⟩
      · exact ⟨rfl, rfl, rfl, rfl, rfl, rfl⟩

/-- The packet is one that `skyline_redundancy_copy` takes for a copy. -/
def IsCopy (skb : SkBuff) : Prop := skb.cb0 = redundancyTag ∧ skb.sk = none

lemma redundancyCopy_of_isCopy {skb : SkBuff} (h : IsCopy skb) (nowNs : UInt64) :
    skylineRedundancyCopy nowNs skb = some (copied nowNs skb) := by
  rw [skylineRedundancyCopy, if_neg (by simp [h.1, h.2]), copied, h.2]

lemma redundancyCopy_of_not {skb : SkBuff} (h : ¬ IsCopy skb) (nowNs : UInt64) :
    skylineRedundancyCopy nowNs skb = none := by
  rw [skylineRedundancyCopy, if_pos]
  by_contra hboth
  rw [not_or, not_not] at hboth
  exact h ⟨hboth.1, by simpa using hboth.2⟩

/-- **A packet that is no copy** goes through the marker and then through the copier. -/
lemma account_eq {skb : SkBuff} (h : ¬ IsCopy skb)
    (send : SkBuff → Egress → Option (Bool × Egress)) (nowNs : UInt64) (e : Egress) :
    skylineTcAccount send nowNs skb e =
      (accountDscp skb (countPacket skb e)).bind fun out =>
        accountRedundancy send out.1 out.2 := by
  rw [skylineTcAccount]
  simp only [redundancyCopy_of_not h, Option.bind_eq_bind]

/-- A packet that is taken for a copy. -/
lemma account_copy {skb : SkBuff} (h : IsCopy skb)
    (send : SkBuff → Egress → Option (Bool × Egress)) (nowNs : UInt64) (e : Egress) :
    skylineTcAccount send nowNs skb e = some (copied nowNs skb, countPacket skb e) := by
  rw [skylineTcAccount]
  simp only [redundancyCopy_of_isCopy h, Option.pure_def]

end SkylineSpeeder.Tc
