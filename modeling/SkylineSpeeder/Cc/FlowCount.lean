import SkylineSpeeder.Cc.Frame
import SkylineSpeeder.Machine.Run

/-!
`flow_count`, which drain waits for: how many connections hold the congestion
control.

* `CountEffect`, `countEffect`: what one callback does to the `counted` flag of its
  socket and to the counter, said once for all of them;
* `Host`, `Host.step`: any number of sockets and the counter they share.  A callback
  is cut at its atomic counter operation, so that callbacks of other sockets run
  between it and the stores that follow it;
* `Tallied`, `step_tallied`: the counter is the number of sockets that are counted
  once the callbacks under way have ended;
* `flowCount_exact`: the accounting over every run.
-/

namespace SkylineSpeeder

/-! ### What a callback does to the counter -/

/-- A report that is an operation on `flow_count`. -/
def Report.counts : Report → Bool
  | .flowCountAdd => true
  | .flowCountSub => true
  | _ => false

/-- `flow_count` after a report: `__sync_fetch_and_add` and `__sync_fetch_and_sub`. -/
def Report.applyTo (count : UInt64) : Report → UInt64
  | .flowCountAdd => count + 1
  | .flowCountSub => count - 1
  | _ => count

/-- Reports that do not count leave the counter alone. -/
lemma foldl_applyTo_of_quiet {reports : List Report} (h : ∀ r ∈ reports, r.counts = false)
    (count : UInt64) : reports.foldl Report.applyTo count = count := by
  induction reports generalizing count with
  | nil => rfl
  | cons r rs ih =>
      have hr : Report.applyTo count r = count := by
        have := h r (by simp)
        cases r <;> simp_all [Report.counts, Report.applyTo]
      rw [List.foldl_cons, hr]
      exact ih (fun r' hr' => h r' (List.mem_cons_of_mem r hr')) count

/-- The flag of a socket before and after a callback, and the callback's reports: the
two change together. -/
inductive CountEffect : Bool → Bool → List Report → Prop
  | same (counted : Bool) {reports : List Report} (h : ∀ r ∈ reports, r.counts = false) :
      CountEffect counted counted reports
  | joined : CountEffect false true [.flowCountAdd]
  | left : CountEffect true false [.flowCountSub]

lemma transition_quiet (flow : FlowState) (next : Mode) :
    ∀ r ∈ (skylineTransition flow next).2, r.counts = false := by
  rw [skylineTransition]
  split_ifs <;> simp [Report.counts]

lemma updateStartup_quiet (config : KernelConfig) (measuredRound : Bool) (flow : FlowState) :
    ∀ r ∈ (updateStartup config measuredRound flow).2, r.counts = false := by
  rw [updateStartup_eq]
  split
  · split
    · exact transition_quiet _ _
    · simp
  · simp

lemma updateModel_quiet (tp : TcpSock) (flow : FlowState) (config : KernelConfig)
    (sample : RateSample) (nowNs : UInt64) :
    ∀ r ∈ (skylineUpdateModel tp flow config sample nowNs).2, r.counts = false := by
  rw [skylineUpdateModel]
  dsimp only
  rw [updateGuardrail]
  split_ifs
  · intro r hr
    simp only [List.mem_append, List.mem_cons] at hr
    rcases hr with (rfl | hr) | hr
    · rfl
    · simp only [List.mem_ite_nil_right, List.mem_cons, List.not_mem_nil, or_false] at hr
      rcases hr with ⟨-, rfl | rfl⟩ <;> rfl
    · exact updateStartup_quiet _ _ _ r hr
  · simp

lemma recordLoss_quiet (sk : TcpSock) (flow : FlowState) (sample : RateSample) :
    ∀ r ∈ (recordLoss sk flow sample).2, r.counts = false := by
  rw [recordLoss]
  split_ifs <;> simp [Report.counts]

lemma applyPacing_quiet (tp : TcpSock) (flow : FlowState) (config : KernelConfig) :
    ∀ r ∈ (skylineApplyPacing tp flow config).2, r.counts = false := by
  rw [skylineApplyPacing]
  split_ifs <;> simp [Report.counts]

lemma setWindow_quiet (K : Kernel) (sk : TcpSock) (flow : FlowState) (input : AckInput) :
    ∀ r ∈ (setWindow K sk flow input).2.2, r.counts = false := by
  rw [setWindow]
  dsimp only
  split_ifs
  · simp
  · rw [skylineApplyPrr]
    dsimp only
    split_ifs <;> simp [Report.counts]
  · simp
  · simp

lemma congControlRun_quiet (K : Kernel) (sk : TcpSock) (flow : FlowState) (input : AckInput) :
    ∀ r ∈ (congControlRun K sk flow input).2.2, r.counts = false := by
  rw [congControlRun]
  intro r hr
  simp only [List.mem_append] at hr
  rcases hr with ((((hr | hr) | hr) | hr) | hr) | hr
  · exact updateModel_quiet _ _ _ _ _ r hr
  · exact recordLoss_quiet _ _ _ r hr
  · exact applyPacing_quiet _ _ _ r hr
  · exact setWindow_quiet _ _ _ _ r hr
  · simp only [List.mem_cons, List.not_mem_nil, or_false] at hr
    rcases hr with rfl | rfl <;> rfl
  · simp only [List.mem_ite_nil_right, List.mem_singleton] at hr
    rw [hr.2]
    rfl

lemma congControl_quiet (K : Kernel) (s : SockState) (allocated : Bool) (input : AckInput) :
    ∀ r ∈ (skylineCongControl K s allocated input).2, r.counts = false := by
  rw [skylineCongControl]
  split
  · simp
  split
  · simp
  · rename_i flow switched hadopt
    intro r hr
    simp only [List.mem_append] at hr
    rcases hr with hr | hr
    · rw [congControlAdopt] at hadopt
      dsimp only at hadopt
      split_ifs at hadopt
      all_goals obtain ⟨rfl, rfl⟩ := Prod.mk.inj (Option.some.inj hadopt)
      all_goals simp_all [Report.counts]
    · exact congControlRun_quiet _ _ _ _ r hr

/-- The flag `counted` of a socket, off where there is no storage. -/
def SockState.counted (s : SockState) : Bool := s.flow.counted

/-- Taking a configuration does not touch the flag. -/
lemma adoptConfig_counted (flow : FlowState) (read : ConfigRead) :
    (skylineAdoptConfig flow read).1.counted = flow.counted := by
  cases hread : (skylineAdoptConfig flow read).2 with
  | false => rw [adoptConfig_false hread]
  | true =>
      obtain ⟨seq, copy, -, -, hflow⟩ := adoptConfig_true hread
      rw [hflow]

lemma Adopts.counted {sk : TcpSock} {flow flow' : FlowState} {input : AckInput}
    {reports : List Report} (h : Adopts sk flow input (some (flow', reports))) :
    flow'.counted = flow.counted := by
  cases h with
  | first _ _ => exact adoptConfig_counted flow input.read
  | kept _ _ => rfl
  | switched _ _ _ _ _ => exact adoptConfig_counted flow input.read

lemma congControl_counted (K : Kernel) (s : SockState) (allocated : Bool) (input : AckInput) :
    (skylineCongControl K s allocated input).1.counted = s.counted := by
  have heffect := congControlEffect K s allocated input
  generalize (skylineCongControl K s allocated input).1 = s' at heffect ⊢
  cases heffect with
  | unallocated _ => rfl
  | refused _ _ => rfl
  | ran flow reports _ hadopt =>
      calc (congControlRun K s.sk flow input).2.1.counted
          = flow.counted := congrArg FlowConfig.counted (congControlRun_config K s.sk flow input)
        _ = s.counted := hadopt.counted

lemma init_count (s : SockState) (allocated : Bool) (read : ConfigRead) (nowNs : UInt64) :
    CountEffect s.counted (skylineInit s allocated read nowNs).1.counted
      (skylineInit s allocated read nowNs).2 := by
  rw [skylineInit]
  obtain ⟨hget, -⟩ | hget := flowGet_cases s allocated
  · rw [hget]
    exact .same _ (by simp)
  · rw [hget]
    dsimp only
    -- whether a configuration is adopted or not, the flag is on afterwards
    have hafter : ∀ (b : Bool) (s₁ s₂ : SockState) (reports : List Report), s₁.counted = true →
        s₂.counted = true → reports = (if s.flow.counted then [] else [.flowCountAdd]) →
        CountEffect s.counted (if b then (s₁, reports) else (s₂, reports)).1.counted
          (if b then (s₁, reports) else (s₂, reports)).2 := by
      rintro b s₁ s₂ reports h₁ h₂ rfl
      have hcounted : s.counted = s.flow.counted := rfl
      rw [apply_ite Prod.fst, apply_ite Prod.snd, apply_ite SockState.counted, h₁, h₂, ite_self,
        ite_self, hcounted]
      cases s.flow.counted with
      | false => exact .joined
      | true => exact .same true (by simp)
    refine hafter _ _ _ _ ?_ ?_ rfl
    · exact adoptConfig_counted _ read
    · exact adoptConfig_counted _ read

lemma release_count (s : SockState) :
    CountEffect s.counted (skylineRelease s).1.counted (skylineRelease s).2 := by
  rw [skylineRelease]
  cases hs : s.storage with
  | none => exact .same _ (by simp)
  | some flow =>
      have hcounted : s.counted = flow.counted := by rw [SockState.counted, SockState.flow, hs]; rfl
      dsimp only
      cases hflag : flow.counted with
      | false => exact .same _ (by simp)
      | true =>
          rw [hcounted, hflag]
          exact .left

/-! The other callbacks keep the flag, in storage that was there or in storage they
create. -/

/-- Storage with the flag as it was. -/
lemma counted_of_storage {s s' : SockState} {flow : FlowState} (h : s'.storage = some flow)
    (hflow : flow.counted = s.flow.counted) : s'.counted = s.counted := by
  rw [SockState.counted, SockState.flow, h]
  exact hflow

lemma ssthresh_counted (s : SockState) (allocated : Bool) :
    (skylineSsthresh s allocated).1.counted = s.counted := by
  rw [skylineSsthresh]
  obtain ⟨hget, -⟩ | hget := flowGet_cases s allocated
  · rw [hget]
  · rw [hget]
    dsimp only
    split
    all_goals exact counted_of_storage rfl rfl

lemma undoCwnd_counted (K : Kernel) (s : SockState) (allocated : Bool) :
    (skylineUndoCwnd K s allocated).1.counted = s.counted := by
  rw [skylineUndoCwnd]
  obtain ⟨hget, -⟩ | hget := flowGet_cases s allocated
  · rw [hget]
  · rw [hget]
    exact counted_of_storage rfl rfl

lemma undoCwnd_quiet_reports (K : Kernel) (s : SockState) (allocated : Bool) :
    ∀ r ∈ (skylineUndoCwnd K s allocated).2.2, r.counts = false := by
  rw [skylineUndoCwnd]
  dsimp only
  split <;> simp [Report.counts]

lemma endReduction_counted (s : SockState) : (endReduction s s.flow).counted = s.counted := by
  rw [endReduction]
  dsimp only
  split_ifs
  all_goals exact counted_of_storage rfl rfl

lemma setState_counted (s : SockState) (allocated : Bool) (newState : CaState) :
    (skylineSetState s allocated newState).counted = s.counted := by
  rw [skylineSetState]
  obtain ⟨hget, -⟩ | hget := flowGet_cases s allocated
  · rw [hget]
  · rw [hget]
    cases newState with
    | loss => exact counted_of_storage rfl rfl
    | recovery => exact counted_of_storage rfl rfl
    | cwr => exact counted_of_storage rfl rfl
    | opened => exact endReduction_counted s
    | disorder => exact endReduction_counted s

lemma txStart_counted (s : SockState) (allocated : Bool) (nowNs : UInt64) :
    (skylineTxStart s allocated nowNs).counted = s.counted := by
  rw [skylineTxStart]
  obtain ⟨hget, -⟩ | hget := flowGet_cases s allocated
  · rw [hget]
  · rw [hget]
    exact counted_of_storage rfl rfl

/-- The socket a callback starts on: `exec` clears a ghost, which no storage depends
on. -/
def SockState.cleared (s : SockState) : SockState :=
  { s with sk := { s.sk with cwndStored := false } }

/-- **One callback**: the counter moves exactly when the flag of the socket does, and
with it. -/
theorem countEffect (K : Kernel) (callback : Callback) (s : SockState) :
    CountEffect s.counted (callback.exec K s).state.counted (callback.exec K s).reports := by
  -- a callback that keeps the flag and does not count
  have hsame : ∀ (s' : SockState) (reports : List Report), s'.counted = s.cleared.counted →
      (∀ r ∈ reports, r.counts = false) → CountEffect s.counted s'.counted reports := by
    intro s' reports hs' hreports
    rw [hs']
    exact .same _ hreports
  cases callback with
  | init allocated read nowNs => exact init_count s.cleared allocated read nowNs
  | congControl allocated input =>
      exact hsame _ _ (congControl_counted K s.cleared allocated input)
        (congControl_quiet K s.cleared allocated input)
  | ssthresh allocated => exact hsame _ [] (ssthresh_counted s.cleared allocated) (by simp)
  | undoCwnd allocated =>
      exact hsame _ _ (undoCwnd_counted K s.cleared allocated)
        (undoCwnd_quiet_reports K s.cleared allocated)
  | setState allocated newState =>
      exact hsame _ [] (setState_counted s.cleared allocated newState) (by simp)
  | cwndEvent txStart allocated nowNs =>
      cases txStart with
      | false => exact hsame s.cleared [] rfl (by simp)
      | true => exact hsame _ [] (txStart_counted s.cleared allocated nowNs) (by simp)
  | cwndEventTxStart allocated nowNs =>
      exact hsame _ [] (txStart_counted s.cleared allocated nowNs) (by simp)
  | release => exact release_count s.cleared

/-! ### Any number of sockets -/

/-- Where a socket is: between callbacks, or inside one that is past its operation on
`flow_count` and has its stores before it. -/
inductive Stage where
  | idle
  | inside (callback : Callback) (after : SockState)

/-- A socket of the host.  `bound` is a ghost: whether `skyline_init` obtained storage
for it and `skyline_release` has not run since. -/
structure Slot where
  state : SockState
  stage : Stage
  bound : Bool

/-- The sockets and the counter. -/
structure Host (ι : Type*) where
  flowCount : UInt64
  sockets : ι → Slot

/-- What happens on the host: a callback of a socket runs up to its operation on
`flow_count`, or from there to its end; between callbacks the kernel writes the
socket. -/
inductive HostEvent (ι : Type*) where
  | enter (i : ι) (callback : Callback)
  | leave (i : ι)
  | kernel (i : ι) (sk : TcpSock)

/-- The ghost after a callback. -/
def Callback.binds (callback : Callback) (after : SockState) (bound : Bool) : Bool :=
  match callback with
  | .init .. => after.storage.isSome
  | .release => false
  | _ => bound

/-- A host whose sockets no callback has seen. -/
def Host.fresh {ι : Type*} (sk : ι → TcpSock) : Host ι where
  flowCount := 0
  sockets := fun i => ⟨⟨sk i, none⟩, .idle, false⟩

section Hosts

variable {ι : Type*}

/-- One event.  The socket lock makes a second callback of a socket wait, so what would
run inside a callback does nothing. -/
def Host.step [DecidableEq ι] (K : Kernel) (h : Host ι) : HostEvent ι → Host ι
  | .enter i callback =>
      let slot := h.sockets i
      match slot.stage with
      | .idle =>
          let outcome := callback.exec K slot.state
          { flowCount := outcome.reports.foldl Report.applyTo h.flowCount
            sockets := Function.update h.sockets i
              { slot with stage := .inside callback outcome.state } }
      | .inside .. => h
  | .leave i =>
      let slot := h.sockets i
      match slot.stage with
      | .idle => h
      | .inside callback after =>
          { h with
            sockets := Function.update h.sockets i
              ⟨after, .idle, callback.binds after slot.bound⟩ }
  | .kernel i sk =>
      let slot := h.sockets i
      match slot.stage with
      | .idle =>
          { h with
            sockets := Function.update h.sockets i
              { slot with state := { slot.state with sk := sk } } }
      | .inside .. => h

/-- The flag a socket has once the callback it is in has ended. -/
def Slot.settled (slot : Slot) : Bool :=
  match slot.stage with
  | .idle => slot.state.counted
  | .inside _ after => after.counted

/-- The invariant of a socket: what the callback it is in will leave is what `exec`
leaves, and the ghost agrees with the flag. -/
structure Slot.Ok (K : Kernel) (slot : Slot) : Prop where
  inside : ∀ callback after, slot.stage = .inside callback after →
    after = (callback.exec K slot.state).state
  bound : slot.bound = slot.state.counted

lemma init_bound (s : SockState) (allocated : Bool) (read : ConfigRead) (nowNs : UInt64) :
    (skylineInit s allocated read nowNs).1.storage.isSome =
      (skylineInit s allocated read nowNs).1.counted := by
  have heffect := initEffect s allocated read nowNs
  generalize (skylineInit s allocated read nowNs).1 = s' at heffect ⊢
  cases heffect with
  | unallocated hs => rw [SockState.counted, SockState.flow, hs]; rfl
  | refused _ _ => rfl
  | adopted flow sk _ _ hflow _ =>
      have hcounted : flow.counted = true := by
        rw [hflow, adoptConfig_counted]
      exact hcounted.symm

lemma release_counted (s : SockState) : (skylineRelease s).1.counted = false := by
  cases hs : s.storage with
  | none => simp [skylineRelease, hs, SockState.counted, SockState.flow, FlowState.zero]
  | some flow =>
      cases hflag : flow.counted with
      | false => simp [skylineRelease, hs, SockState.counted, SockState.flow, hflag]
      | true => simp [skylineRelease, hs, SockState.counted, SockState.flow, hflag]

/-- The ghost follows the flag through a callback. -/
lemma binds_eq_counted (K : Kernel) (callback : Callback) (s : SockState) :
    callback.binds (callback.exec K s).state s.counted = (callback.exec K s).state.counted := by
  cases callback with
  | init allocated read nowNs => exact init_bound s.cleared allocated read nowNs
  | release => exact (release_counted s.cleared).symm
  | congControl allocated input => exact (congControl_counted K s.cleared allocated input).symm
  | ssthresh allocated => exact (ssthresh_counted s.cleared allocated).symm
  | undoCwnd allocated => exact (undoCwnd_counted K s.cleared allocated).symm
  | setState allocated newState => exact (setState_counted s.cleared allocated newState).symm
  | cwndEvent txStart allocated nowNs =>
      cases txStart with
      | false => rfl
      | true => exact (txStart_counted s.cleared allocated nowNs).symm
  | cwndEventTxStart allocated nowNs => exact (txStart_counted s.cleared allocated nowNs).symm

/-- The number of sockets with a flag on, after the flag of one of them changed. -/
lemma sum_update_toNat [DecidableEq ι] [Fintype ι] (flags : ι → Bool) (i : ι) (b : Bool) :
    ∑ j, (Function.update flags i b j).toNat + (flags i).toNat =
      ∑ j, (flags j).toNat + b.toNat := by
  have hrest : ∀ j ∈ Finset.univ \ {i}, (Function.update flags i b j).toNat = (flags j).toNat := by
    intro j hj
    rw [Function.update_of_ne (by simpa using hj)]
  have hsplit : ∀ f : ι → ℕ, ∑ j, f j = f i + ∑ j ∈ Finset.univ \ {i}, f j := fun f => by
    rw [Finset.sdiff_singleton_eq_erase, Finset.add_sum_erase _ _ (Finset.mem_univ i)]
  rw [hsplit, hsplit fun j => (flags j).toNat, Finset.sum_congr rfl hrest, Function.update_self]
  omega

namespace Host

variable [Fintype ι]

/-- The number of sockets whose storage has `counted` set. -/
def countedSockets (h : Host ι) : ℕ :=
  (Finset.univ.filter fun i => (h.sockets i).state.counted = true).card

/-- The number of sockets that are counted once the callbacks under way have ended. -/
def settledSockets (h : Host ι) : ℕ :=
  (Finset.univ.filter fun i => (h.sockets i).settled = true).card

/-- Sockets inside an `init` that has added but not yet set the flag. -/
def joiningSockets (h : Host ι) : ℕ :=
  (Finset.univ.filter fun i =>
    (h.sockets i).settled = true ∧ (h.sockets i).state.counted = false).card

/-- Sockets inside a `release` that has subtracted but not yet cleared the flag. -/
def leavingSockets (h : Host ι) : ℕ :=
  (Finset.univ.filter fun i =>
    (h.sockets i).settled = false ∧ (h.sockets i).state.counted = true).card

lemma settledSockets_eq_sum (h : Host ι) :
    h.settledSockets = ∑ i, ((h.sockets i).settled).toNat := by
  rw [settledSockets, Finset.card_filter]
  refine Finset.sum_congr rfl fun i _ => ?_
  cases (h.sockets i).settled <;> rfl

/-- The two numbers differ by the callbacks that are half done. -/
lemma settled_add_leaving (h : Host ι) :
    h.settledSockets + h.leavingSockets = h.countedSockets + h.joiningSockets := by
  rw [settledSockets, leavingSockets, countedSockets, joiningSockets, Finset.card_filter,
    Finset.card_filter, Finset.card_filter, Finset.card_filter, ← Finset.sum_add_distrib,
    ← Finset.sum_add_distrib]
  refine Finset.sum_congr rfl fun i _ => ?_
  cases (h.sockets i).settled <;> cases (h.sockets i).state.counted <;> rfl

/-- Between callbacks the two numbers agree. -/
lemma settledSockets_of_idle {h : Host ι} (hidle : ∀ i, (h.sockets i).stage = .idle) :
    h.settledSockets = h.countedSockets := by
  rw [settledSockets, countedSockets]
  refine congrArg Finset.card (Finset.filter_congr fun i _ => ?_)
  rw [Slot.settled, hidle i]

lemma settledSockets_le (h : Host ι) : h.settledSockets ≤ Fintype.card ι :=
  Finset.card_le_univ _

/-- Replacing the slot of one socket moves the number by that socket. -/
lemma settledSockets_update [DecidableEq ι] (h : Host ι) (i : ι) (slot : Slot) (count : UInt64) :
    (Host.mk count (Function.update h.sockets i slot)).settledSockets +
      ((h.sockets i).settled).toNat = h.settledSockets + slot.settled.toNat := by
  rw [settledSockets_eq_sum, settledSockets_eq_sum]
  have hflags : ∀ j, (Function.update h.sockets i slot j).settled =
      Function.update (fun j => (h.sockets j).settled) i slot.settled j := by
    intro j
    by_cases hj : j = i
    · rw [hj, Function.update_self, Function.update_self]
    · rw [Function.update_of_ne hj, Function.update_of_ne hj]
  simp only [hflags]
  exact sum_update_toNat _ i slot.settled

end Host

/-- The invariant of the host. -/
structure Tallied [Fintype ι] (K : Kernel) (h : Host ι) : Prop where
  slots : ∀ i, (h.sockets i).Ok K
  count : h.flowCount = UInt64.ofNat h.settledSockets

/-- The counter after a callback's reports, against the number of sockets after its
flag. -/
lemma CountEffect.count {before after : Bool} {reports : List Report}
    (h : CountEffect before after reports) {n n' : ℕ}
    (hn : n' + before.toNat = n + after.toNat) :
    reports.foldl Report.applyTo (UInt64.ofNat n) = UInt64.ofNat n' := by
  cases h with
  | same counted hquiet =>
      rw [foldl_applyTo_of_quiet hquiet, Nat.add_right_cancel hn]
  | joined =>
      have hn' : n' = n + 1 := by simpa using hn
      rw [hn', UInt64.ofNat_add]
      rfl
  | left =>
      have hn' : n = n' + 1 := by simpa using hn.symm
      rw [hn', UInt64.ofNat_add]
      exact UInt64.add_sub_cancel _ _

variable [Fintype ι]

lemma fresh_tallied (K : Kernel) (sk : ι → TcpSock) : Tallied K (Host.fresh sk) where
  slots := fun i => ⟨by simp [Host.fresh], rfl⟩
  count := by
    have hnone : (Host.fresh sk).settledSockets = 0 := by
      rw [Host.settledSockets, Finset.card_eq_zero, Finset.filter_eq_empty_iff]
      intro i _
      exact Bool.false_ne_true
    rw [hnone]
    rfl

variable [DecidableEq ι]

/-- A new slot for one socket: its own invariant is to show, and that the counter moved
with its flag. -/
lemma Tallied.update {K : Kernel} {h : Host ι} (hh : Tallied K h) (i : ι) {slot : Slot}
    {count : UInt64} (hslot : slot.Ok K)
    (hcount : ∀ n', n' + ((h.sockets i).settled).toNat = h.settledSockets + slot.settled.toNat →
      count = UInt64.ofNat n') :
    Tallied K ⟨count, Function.update h.sockets i slot⟩ where
  slots := by
    intro j
    dsimp only
    by_cases hj : j = i
    · rw [hj, Function.update_self]
      exact hslot
    · rw [Function.update_of_ne hj]
      exact hh.slots j
  count := hcount _ (h.settledSockets_update i slot count)

/-- One event keeps the invariant. -/
lemma step_tallied (K : Kernel) (h : Host ι) (e : HostEvent ι) (hh : Tallied K h) :
    Tallied K (h.step K e) := by
  -- a socket that keeps its settled flag leaves the counter right
  have hkeep : ∀ (i : ι) (slot : Slot), slot.settled = (h.sockets i).settled → ∀ n',
      n' + ((h.sockets i).settled).toNat = h.settledSockets + slot.settled.toNat →
      h.flowCount = UInt64.ofNat n' := by
    intro i slot hsame n' hn'
    rw [hsame] at hn'
    rw [Nat.add_right_cancel hn']
    exact hh.count
  cases e with
  | enter i callback =>
      rw [Host.step]
      dsimp only
      cases hstage : (h.sockets i).stage with
      | inside _ _ => exact hh
      | idle =>
          have heffect := countEffect K callback (h.sockets i).state
          refine hh.update i ⟨?_, (hh.slots i).bound⟩ ?_
          · rintro callback' after' h'
            obtain ⟨rfl, rfl⟩ := Stage.inside.inj h'
            rfl
          · intro n' hn'
            rw [hh.count]
            refine heffect.count ?_
            rw [Slot.settled, hstage, Slot.settled] at hn'
            exact hn'
  | leave i =>
      rw [Host.step]
      cases hstage : (h.sockets i).stage with
      | idle => exact hh
      | inside callback after =>
          have hafter := (hh.slots i).inside callback after hstage
          refine hh.update i ⟨by simp, ?_⟩ (hkeep i _ ?_)
          · rw [hafter, (hh.slots i).bound]
            exact binds_eq_counted K callback (h.sockets i).state
          · rw [Slot.settled, Slot.settled, hstage]
  | kernel i sk =>
      rw [Host.step]
      dsimp only
      cases hstage : (h.sockets i).stage with
      | inside _ _ => exact hh
      | idle =>
          refine hh.update i ⟨by simp, (hh.slots i).bound⟩ (hkeep i _ ?_)
          rw [Slot.settled, Slot.settled, hstage]
          rfl

/-- A callback that subtracts runs on a socket that is counted. -/
lemma CountEffect.counted_of_sub {before after : Bool} {reports : List Report}
    (h : CountEffect before after reports) (hsub : .flowCountSub ∈ reports) : before = true := by
  cases h with
  | same counted hquiet => exact absurd (hquiet _ hsub) (by decide)
  | joined => simp at hsub
  | left => rfl

/-- **Connection accounting is exact**: in every state of every run, `flow_count` is the
number of sockets that are counted once the callbacks under way have ended, which is the
number of sockets with `counted` set up to the callbacks between their counter operation
and their store, and that number itself when there are none; no callback subtracts from
zero; and a socket that `skyline_init` obtained storage for and that has not been
released since is counted. -/
theorem flowCount_exact (K : Kernel) (sk : ι → TcpSock) (es : List (HostEvent ι)) :
    let h := es.foldl (Host.step K) (Host.fresh sk)
    h.flowCount = UInt64.ofNat h.settledSockets ∧
    (Fintype.card ι < 2 ^ 64 → h.flowCount.toNat = h.settledSockets) ∧
    h.settledSockets + h.leavingSockets = h.countedSockets + h.joiningSockets ∧
    ((∀ i, (h.sockets i).stage = .idle) → h.flowCount = UInt64.ofNat h.countedSockets) ∧
    (∀ (i : ι) (callback : Callback), (h.sockets i).stage = .idle →
      Report.flowCountSub ∈ (callback.exec K (h.sockets i).state).reports → 1 ≤ h.settledSockets) ∧
    (∀ i, (h.sockets i).bound = true → (h.sockets i).state.counted = true) := by
  intro h
  have hh : Tallied K h :=
    Machine.along_invariant (P := fun _ _ => True) (fun h e hh _ => step_tallied K h e hh) es _
      (fresh_tallied K sk) (Machine.along_of_forall es _ fun _ _ => trivial)
  refine ⟨hh.count, ?_, h.settled_add_leaving, ?_, ?_, ?_⟩
  · intro hcard
    rw [hh.count]
    exact UInt64.toNat_ofNat_of_lt' (h.settledSockets_le.trans_lt hcard)
  · intro hidle
    rw [hh.count, Host.settledSockets_of_idle hidle]
  · intro i callback hidle hsub
    have hcounted := (countEffect K callback (h.sockets i).state).counted_of_sub hsub
    refine Finset.card_pos.mpr ⟨i, Finset.mem_filter.mpr ⟨Finset.mem_univ i, ?_⟩⟩
    rw [Slot.settled, hidle]
    exact hcounted
  · intro i hbound
    rw [← (hh.slots i).bound]
    exact hbound

end Hosts

end SkylineSpeeder
