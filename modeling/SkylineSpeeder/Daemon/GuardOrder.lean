import SkylineSpeeder.Daemon.Interleave

/-!
Guard, `Enable` and `Drain` are ordered safely, in every interleaving of the two threads.

Each program of the daemon keeps the contract of its thread: the sections under the
guard's lock, the attach, the two requests that move the default, and the periodic pass.

* `sat_enforceCongestionControl`, `sat_periodicPass`: the passes;
* `Live`, `sat_bpfRuntimeLoad`, `sat_publishOrAttach`, `sat_enable`: an `Enable`, which
  arms the guard once skyline_cc is attached and the default;
* `Handed`, `sat_drain`: a `Drain`, which disarms it first;
* `guard_enable_drain_ordered`: the result.
-/

namespace SkylineSpeeder.Speederd

open Machine Machine.Prog Word

variable {answers : Option UInt64 → Prop}

/-! ### One step of the request thread -/

/-- A step that leaves the guard alone and notes one entry gives the guarantee if the
entry may be made. -/
lemma guar_of_note {s t : Sys} {e : Event} (hguard : t.guard = s.guard)
    (hjournal : t.journal = e :: s.journal) (he : EventSafe answers s e) :
    (requestContract answers).guar s t := by
  refine ⟨.of_guard hguard, ?_⟩
  rw [hjournal]
  exact (Extends.refl _ _).cons he

/-- A step that notes nothing and does not take the lock from the guard's thread. -/
lemma guar_of_silent {s t : Sys} (hlock : LockKept s t) (hjournal : t.journal = s.journal) :
    (requestContract answers).guar s t := by
  refine ⟨hlock, ?_⟩
  rw [hjournal]
  exact .refl _ _

lemma requests_guar_refl (s : Sys) : (requestContract answers).guar s s :=
  guar_of_silent (.refl s) rfl

/-- The request thread has the lock. -/
def Holding (s : Sys) : Prop := s.guard.holder = some .requests

/-- Nothing of what the guard's thread relies on is touched by the holder of the lock. -/
lemma Holding.lockKept {s : Sys} (h : Holding s) (t : Sys) : LockKept s t := by
  intro hs
  rw [h] at hs
  cases hs

/-- The lock is taken when it is free. -/
lemma lockKept_of_free {s : Sys} (h : (s.guard.holder == none) = true) (t : Sys) :
    LockKept s t := by
  intro hs
  rw [hs] at h
  cases h

/-! ### A pass -/

/-- A pass on behalf of `who`, where what holds when it begins makes its write safe. -/
lemma sat_enforceCongestionControl {C : Contract Sys} {P : Sys → Prop} {who : Writer}
    (hrely : ∀ s t, P s → C.rely s t → P t) (hguar : ∀ s, C.guar s s)
    (hwrite : ∀ s ok name, P s → C.inv s →
      let t := { s with
        congestionControl := name
        journal := .setDefault who skylineCcName ok :: s.journal }
      C.inv t ∧ C.guar s t ∧ P t)
    (hcount : ∀ s count, P s → C.inv s →
      let t := { s with guard := { s.guard with ccRestored := count } }
      C.inv t ∧ C.guar s t ∧ P t)
    (o : Outcome) {s : Sys} (hs : P s) :
    (enforceCongestionControl o who).Sat C (fun _ => P) s := by
  have hread : (attempt (atomically fun s =>
      ((o.result .readDefault "read tcp_congestion_control").map fun _ => s.congestionControl,
        s)) : Job (Except DaemonError String)).Sat C (fun _ => P) s :=
    sat_attempt (sat_atomically fun t hst hinv => ⟨hinv, hguar t, hrely s t hs hst⟩)
  refine sat_bind_of hread (fun read t ht => ?_) fun _ _ h => h
  cases read with
  | error e => exact ht
  | ok current =>
      dsimp only
      split
      · exact ht
      · have hset : (attempt (setDefaultCongestionControl o .restoreDefault who skylineCcName) :
            Job (Except DaemonError Unit)).Sat C (fun _ => P) t :=
          sat_attempt (sat_atomically fun u htu hinv =>
            hwrite u _ _ (hrely t u ht htu) hinv)
        refine sat_bind_of hset (fun written u hu => ?_) fun _ _ h => h
        cases written with
        | error e => exact hu
        | ok _ => exact sat_modify fun v huv hinv => hcount v _ (hrely u v hu huv) hinv

/-- The guard's thread has the lock, and the guard is armed. -/
structure Watching (s : Sys) : Prop where
  holder : s.guard.holder = some .guard
  armed : s.guard.armed = true

lemma guards_guar_refl (s : Sys) : (guardContract answers).guar s s :=
  ⟨.refl s, .refl _ _⟩

/-- A step of the guard's thread that notes nothing and leaves the flag. -/
lemma guards_guar {s t : Sys} (hdaemon : t.daemon = s.daemon)
    (harmed : t.guard.armed = s.guard.armed) (hheld : s.guard.holder ≠ some .requests)
    (hregistered : t.registered = s.registered) (hjournal : t.journal = s.journal) :
    (guardContract answers).guar s t := by
  refine ⟨⟨hdaemon, harmed, fun h => absurd h hheld, hregistered, ?_⟩, ?_⟩
  · rw [hjournal]
    exact .refl _ _
  · rw [hjournal]
    exact .refl _ _

/-- The write of a pass: the guard is armed, so skyline_cc is registered and no drain has
handed new connections back. -/
lemma watching_write {s : Sys} {ok : Bool} {name : String} (h : Watching s) (hinv : GuardInv s) :
    let t := { s with
      congestionControl := name
      journal := .setDefault .periodic skylineCcName ok :: s.journal }
    GuardInv t ∧ (guardContract answers).guar s t ∧ Watching t := by
  obtain ⟨hruntime, hregistered, hback⟩ := hinv.armed h.armed
  have hsafe : EventSafe answers s (.setDefault .periodic skylineCcName ok) := by
    refine fun _ => ⟨hregistered, fun hb => ?_⟩
    rw [hback] at hb
    cases hb
  have hstep : PassStep s { s with
      congestionControl := name
      journal := .setDefault .periodic skylineCcName ok :: s.journal } :=
    ⟨rfl, rfl, id, rfl, (Extends.refl _ _).cons rfl⟩
  exact ⟨hstep.calm.inv hinv, ⟨hstep, (Extends.refl _ _).cons hsafe⟩, h.holder, h.armed⟩

/-- A write to the guard's counters. -/
lemma guardInv_counters {s : Sys} {guard : GuardState} (hinv : GuardInv s)
    (harmed : guard.armed = s.guard.armed) : GuardInv { s with guard := guard } :=
  ⟨fun h => hinv.armed (harmed ▸ h), hinv.fallback⟩

/-- **A periodic pass keeps the contract of its thread.** -/
theorem sat_periodicPass (o : Outcome) (s : Sys) :
    (periodicPass o).Sat (guardContract answers) (fun _ _ => True) s := by
  have hrely : ∀ s t, Watching s → (guardContract answers).rely s t → Watching t := by
    intro s t hs hst
    obtain ⟨hholder, harmed⟩ := hst hs.holder
    exact ⟨hholder, harmed.trans hs.armed⟩
  have hheld : ∀ {s : Sys}, s.guard.holder = some .guard → s.guard.holder ≠ some .requests := by
    intro s h
    rw [h]
    exact nofun
  have hunlock : ∀ s : Sys, s.guard.holder = some .guard →
      unlockGuard.Sat (guardContract answers) (fun _ _ => True) s := by
    intro s hs
    refine sat_modify fun t hst hinv => ?_
    obtain ⟨hholder, -⟩ := hst hs
    exact ⟨guardInv_counters hinv rfl, guards_guar rfl rfl (hheld hholder) rfl rfl, trivial⟩
  refine sat_bind_of (M := fun _ t => t.guard.holder = some .guard) ?_ (fun _ t ht => ?_)
    fun _ _ _ => trivial
  · refine sat_await fun t _ hinv hfree => ⟨guardInv_counters hinv rfl, ?_, rfl⟩
    refine guards_guar rfl rfl (fun hreq => ?_) rfl rfl
    rw [hreq] at hfree
    cases hfree
  refine sat_bind_of (M := fun r t => t.guard.holder = some .guard ∧
    ∀ armed, r = .ok armed → armed = true → t.guard.armed = true) ?_
    (fun armed u hu => ?_) fun _ _ _ => trivial
  · refine sat_gets guards_guar_refl fun u htu _ => ⟨(htu ht).1, ?_⟩
    rintro armed hok harmed
    obtain rfl := Except.ok.inj hok
    exact harmed
  obtain ⟨hholder, harmed⟩ := hu
  dsimp only
  split
  · rename_i hon
    have hwatching : Watching u := ⟨hholder, harmed armed rfl hon⟩
    -- the counter of checks, and then the pass itself
    refine sat_bind_of (M := fun _ t => Watching t) ?_ (fun _ v hv => ?_) fun _ _ _ => trivial
    · refine sat_modify fun v huv hinv => ?_
      have hv := hrely u v hwatching huv
      exact ⟨guardInv_counters hinv rfl, guards_guar rfl rfl (hheld hv.holder) rfl rfl,
        hv.holder, hv.armed⟩
    refine sat_bind_of (M := fun _ t => Watching t) ?_ (fun _ w hw => hunlock w hw.holder)
      fun _ _ _ => trivial
    refine sat_enforceCongestionControl hrely guards_guar_refl ?_ ?_ o hv
    · exact fun s ok name hs hinv => watching_write hs hinv
    · intro s count hs hinv
      exact ⟨guardInv_counters hinv rfl, guards_guar rfl rfl (hheld hs.holder) rfl rfl,
        hs.holder, hs.armed⟩
  · exact hunlock u hholder

/-! ### Enable -/

/-- An `Enable` is at work with the daemon `d`. -/
structure Loading (d : Daemon) (s : Sys) : Prop where
  daemon : s.daemon = d
  asked : enableAsked s.journal = true

lemma Loading.rely {d : Daemon} {s t : Sys} (h : Loading d s) (hst : PassStep s t) :
    Loading d t :=
  ⟨hst.daemon.trans h.daemon, hst.calm.enableAsked.trans h.asked⟩

/-- One more entry of an attach. -/
lemma Loading.note {d : Daemon} {s t : Sys} {e : Event} (h : Loading d s)
    (hdaemon : t.daemon = s.daemon) (hjournal : t.journal = e :: s.journal)
    (he : e.asks = none) : Loading d t := by
  refine ⟨hdaemon.trans h.daemon, ?_⟩
  rw [hjournal, enableAsked, latest_cons_none he]
  exact h.asked

/-- Without a runtime the guard is not armed. -/
lemma GuardInv.disarmed {s : Sys} (h : GuardInv s) (hnone : s.daemon.runtime = none) :
    s.guard.armed = false := by
  refine Bool.eq_false_of_not_eq_true fun harmed => ?_
  have hsome := (h.armed harmed).1
  rw [hnone] at hsome
  cases hsome

/-- While the guard is not armed the invariant is about `fallback_cc` alone. -/
lemma guardInv_of_disarmed {s : Sys} (harmed : s.guard.armed = false)
    (hfallback : s.daemon.config.fallbackCc ≠ skylineCcName) : GuardInv s := by
  refine ⟨fun h => ?_, hfallback⟩
  rw [harmed] at h
  cases h

/-- The steps of an attach, of a daemon without a runtime: the guard is not armed. -/
lemma loading_step {d : Daemon} (hnone : d.runtime = none) {s t : Sys} {e : Event}
    (h : Loading d s) (hinv : GuardInv s) (hdaemon : t.daemon = s.daemon)
    (hguard : t.guard = s.guard) (hjournal : t.journal = e :: s.journal) (he : e.asks = none)
    (hsafe : EventSafe answers s e) :
    GuardInv t ∧ (requestContract answers).guar s t ∧ Loading d t := by
  have hdisarmed : t.guard.armed = false := by
    rw [hguard]
    exact hinv.disarmed (h.daemon ▸ hnone)
  have hfallback : t.daemon.config.fallbackCc ≠ skylineCcName := by
    rw [hdaemon]
    exact hinv.fallback
  exact ⟨guardInv_of_disarmed hdisarmed hfallback, guar_of_note hguard hjournal hsafe,
    h.note hdaemon hjournal he⟩

lemma sat_startThreads {Q : Except DaemonError Unit → Sys → Prop} {C : Contract Sys}
    {o : Outcome} {eventLog : Bool} {s : Sys} (h : ∀ q, Q q s) :
    (startThreads o eventLog).Sat C Q s := by
  rw [startThreads]
  split
  · refine sat_bind_of (M := fun _ t => t = s) (sat_ofExcept.mpr rfl) ?_ ?_
    · rintro _ t rfl
      exact sat_ofExcept.mpr (h _)
    · rintro e t rfl
      exact h _
  · exact sat_ofExcept.mpr (h _)

/-- **An attach** keeps the contract; a runtime that loads is registered. -/
lemma sat_bpfRuntimeLoad {d : Daemon} (hnone : d.runtime = none) (o : Outcome) {s : Sys}
    (hs : Loading d s) :
    (bpfRuntimeLoad o).Sat (requestContract answers)
      (fun q t => Loading d t ∧ ∀ runtime, q = .ok runtime → t.registered = true) s := by
  refine sat_bind_of (M := fun r t => Loading d t ∧ ∀ config, r = .ok config →
    config = d.config) ?_ (fun config t₀ h₀ => ?_) fun _ _ h => ⟨h.1, nofun⟩
  · refine sat_gets requests_guar_refl fun t hst _ => ⟨hs.rely hst, ?_⟩
    rintro config hok
    obtain rfl := Except.ok.inj hok
    rw [(hs.rely hst).daemon]
  obtain ⟨h₀, hconfig⟩ := h₀
  obtain rfl := hconfig config rfl
  refine sat_bind_of (M := fun _ t => Loading d t) ?_ (fun eventLog t₁ h₁ => ?_)
    fun _ _ h => ⟨h, nofun⟩
  · exact sat_gets requests_guar_refl fun t hst _ => h₀.rely hst
  -- the baseline, which is never skyline_cc
  refine sat_bind_of (M := fun _ t => Loading d t) ?_ (fun _ t₂ h₂ => ?_)
    fun _ _ h => ⟨h, nofun⟩
  · refine sat_atomically fun t hst hinv => ?_
    have ht := h₁.rely hst
    refine loading_step hnone ht hinv rfl rfl rfl rfl fun hname => absurd hname ?_
    rw [← ht.daemon]
    exact hinv.fallback
  refine sat_bind_of (M := fun _ t => Loading d t) (sat_ofExcept.mpr h₂) (fun _ t₃ h₃ => ?_)
    fun _ _ h => ⟨h, nofun⟩
  refine sat_bind_of (M := fun _ t => Loading d t) ?_ (fun maps t₄ h₄ => ?_)
    fun _ _ h => ⟨h, nofun⟩
  · exact sat_atomically fun t hst hinv =>
      loading_step hnone (h₃.rely hst) hinv rfl rfl rfl rfl trivial
  refine sat_bind_of (M := fun q t => Loading d t ∧ (q = .ok () → t.registered = true)) ?_
    (fun _ t₅ h₅ => ?_) fun _ _ h => ⟨h.1, nofun⟩
  · refine sat_atomically fun t hst hinv => ?_
    obtain ⟨hinv', hguar, hload⟩ : GuardInv _ ∧ (requestContract answers).guar t _ ∧ Loading d _ :=
      loading_step hnone (h₄.rely hst) hinv
        (t := { t with
          registered := t.registered || o.ok .attachStructOps
          journal := .attachStructOps (o.ok .attachStructOps) :: t.journal })
        rfl rfl rfl rfl trivial
    refine ⟨hinv', hguar, hload, fun hq => ?_⟩
    cases hok : o.ok .attachStructOps with
    | true => exact Bool.or_true _
    | false =>
        simp only [Outcome.result, hok] at hq
        cases hq
  obtain ⟨h₅, hregistered⟩ := h₅
  refine sat_bind_of (M := fun _ t => t = t₅) ?_ ?_ ?_
  · exact sat_attempt (sat_startThreads fun _ => rfl)
  · rintro started t rfl
    cases started with
    | ok _ => exact ⟨h₅, fun _ _ => hregistered rfl⟩
    | error e =>
        refine sat_bind_of (M := fun _ t => Loading d t) ?_ (fun _ t h => ⟨h, nofun⟩)
          fun _ _ h => ⟨h, nofun⟩
        refine sat_bind_of (M := fun _ t => Loading d t) (sat_attempt ?_) (fun _ t h => h)
          fun _ _ h => h
        exact sat_atomically fun t hst hinv =>
          loading_step hnone (h₅.rely hst) hinv rfl rfl rfl rfl trivial
  · rintro e t rfl
    exact ⟨h₅, nofun⟩

/-- Between two operations of an `Enable`. -/
structure Asking (fallbackCc : String) (s : Sys) : Prop where
  fallback : s.daemon.config.fallbackCc = fallbackCc
  attached : Attached s
  asked : enableAsked s.journal = true

/-- The same with a runtime. -/
structure Live (fallbackCc : String) (s : Sys) : Prop extends Asking fallbackCc s where
  runtime : s.daemon.runtime.isSome = true

variable {fallbackCc : String} {s t : Sys}

lemma Asking.calm (h : Asking fallbackCc s) (hst : Calm s t) : Asking fallbackCc t :=
  ⟨hst.fallback.trans h.fallback, hst.attached h.attached, hst.enableAsked.trans h.asked⟩

lemma Live.calm (h : Live fallbackCc s) (hst : Calm s t) : Live fallbackCc t :=
  ⟨h.toAsking.calm hst, hst.runtime.trans h.runtime⟩

lemma Live.registered (h : Live fallbackCc s) : s.registered = true := h.attached h.runtime

/-- The runtime that was loaded is kept. -/
lemma sat_keepRuntime {d : Daemon} (hnone : d.runtime = none)
    (hfallback : d.config.fallbackCc = fallbackCc) (loaded : BpfRuntime) (hs : Loading d s)
    (hregistered : s.registered = true) :
    (modify fun s => { s with daemon := { s.daemon with runtime := some loaded } } :
      Job Unit).Sat (requestContract answers) (fun _ t => Live fallbackCc t) s := by
  refine sat_modify fun t hst hinv => ?_
  have ht := hs.rely hst
  have hdisarmed := hinv.disarmed (ht.daemon ▸ hnone)
  refine ⟨guardInv_of_disarmed hdisarmed hinv.fallback, guar_of_silent (.of_guard rfl) rfl,
    ⟨?_, fun _ => hst.registered.trans hregistered, ht.asked⟩, rfl⟩
  rw [← hfallback, ← ht.daemon]

/-- **A publication or an attach** leaves skyline_cc registered if it succeeds. -/
lemma sat_publishOrAttach (o : Outcome) (hs : Asking fallbackCc s) :
    (publishOrAttach o).Sat (requestContract answers)
      (fun q t => Asking fallbackCc t ∧ (q = .ok () → Live fallbackCc t)) s := by
  refine sat_bind_of (sat_of_quiet quiet_validateConfig s) (fun _ t₁ h₁ => ?_)
    fun _ _ h => ⟨hs.calm h, nofun⟩
  refine sat_bind_of (sat_of_quiet (quiet_gets _) t₁) (fun capabilities t₂ h₂ => ?_)
    fun _ _ h => ⟨(hs.calm h₁).calm h, nofun⟩
  have ht₂ := (hs.calm h₁).calm h₂
  refine sat_bind_of (M := fun _ t => Asking fallbackCc t) (sat_ofExcept.mpr ht₂)
    (fun _ t₃ h₃ => ?_) fun _ _ h => ⟨h, nofun⟩
  refine sat_bind_of (M := fun r t => Asking fallbackCc t ∧ r = .ok t.daemon.runtime) ?_
    (fun runtime t₄ h₄ => ?_) fun _ _ h => ⟨h.1, nofun⟩
  · exact sat_gets requests_guar_refl fun t hst _ => ⟨h₃.calm hst.calm, rfl⟩
  obtain ⟨h₄, hruntime⟩ := h₄
  have hruntime : runtime = t₄.daemon.runtime := Except.ok.inj hruntime
  cases runtime with
  | some rt =>
      refine sat_mono (sat_of_quiet (quiet_updateConfig o) t₄)
        fun q t ht => ⟨h₄.calm ht, fun _ => ?_⟩
      exact ⟨h₄.calm ht, ht.runtime.trans (by rw [← hruntime]; rfl)⟩
  | none =>
      have hload : Loading t₄.daemon t₄ := ⟨rfl, h₄.asked⟩
      have hasking : ∀ t, Loading t₄.daemon t → Asking fallbackCc t := by
        intro t ht
        refine ⟨by rw [ht.daemon]; exact h₄.fallback, fun hsome => ?_, ht.asked⟩
        rw [ht.daemon, ← hruntime] at hsome
        cases hsome
      refine sat_bind_of (sat_bpfRuntimeLoad hruntime.symm o hload) (fun loaded t₅ h₅ => ?_)
        fun e t h => ⟨hasking t h.1, nofun⟩
      refine sat_mono (sat_keepRuntime hruntime.symm h₄.fallback loaded h₅.1 (h₅.2 loaded rfl)) ?_
      exact fun q t ht => ⟨ht.toAsking, fun _ => ht⟩

/-- `Enable`'s write of skyline_cc. -/
lemma sat_setSkylineDefault (o : Outcome) (hs : Live fallbackCc s) :
    (setDefaultCongestionControl o .skylineDefault .enable skylineCcName).Sat
      (requestContract answers)
      (fun q t => Live fallbackCc t ∧ (q = .ok () → handedBack t.journal = false)) s := by
  refine sat_atomically fun t hst hinv => ?_
  have ht := hs.calm hst.calm
  have hsafe : EventSafe answers t (.setDefault .enable skylineCcName (o.ok .skylineDefault)) :=
    fun _ => ⟨ht.registered, fun _ => ⟨rfl, ht.asked⟩⟩
  have hlive : ∀ u : Sys, u.daemon = t.daemon → u.registered = t.registered →
      u.journal = .setDefault .enable skylineCcName (o.ok .skylineDefault) :: t.journal →
      Live fallbackCc u := by
    intro u hdaemon hregistered hjournal
    refine ⟨⟨by rw [hdaemon]; exact ht.fallback, fun _ => hregistered.trans ht.registered, ?_⟩,
      by rw [hdaemon]; exact ht.runtime⟩
    rw [hjournal, enableAsked, latest_cons_none rfl]
    exact ht.asked
  refine ⟨⟨fun harmed => ?_, hinv.fallback⟩, guar_of_note rfl rfl hsafe, hlive _ rfl rfl rfl,
    fun hq => ?_⟩
  · obtain ⟨hruntime, hregistered, hback⟩ := hinv.armed harmed
    refine ⟨hruntime, hregistered, ?_⟩
    cases o.ok .skylineDefault with
    | true => rfl
    | false => exact hback
  · cases hok : o.ok .skylineDefault with
    | true => rfl
    | false =>
        simp only [Outcome.result, hok] at hq
        cases hq

/-- In the section of `arm_and_enforce`. -/
structure Arming (fallbackCc : String) (s : Sys) : Prop extends Live fallbackCc s where
  holding : Holding s
  taken : handedBack s.journal = false

lemma Arming.rely (h : Arming fallbackCc s) (hst : PassStep s t) : Arming fallbackCc t :=
  ⟨h.toLive.calm hst.calm, hst.held h.holding, hst.calm.handedBack.trans h.taken⟩

/-- In that section the flag may be set, and the counters change. -/
lemma Arming.guard (h : Arming fallbackCc s) (hinv : GuardInv s) {guard : GuardState}
    (hholder : guard.holder = some .requests) :
    GuardInv { s with guard := guard } ∧
      (requestContract answers).guar s { s with guard := guard } ∧
      Arming fallbackCc { s with guard := guard } := by
  refine ⟨⟨fun _ => ⟨h.runtime, h.registered, h.taken⟩, hinv.fallback⟩,
    guar_of_silent (h.holding.lockKept _) rfl, ⟨⟨h.fallback, h.attached, h.asked⟩, h.runtime⟩,
    hholder, h.taken⟩

/-- The write of an `Enable`'s own pass. -/
lemma Arming.write (h : Arming fallbackCc s) (hinv : GuardInv s) (ok : Bool) (name : String) :
    let t := { s with
      congestionControl := name
      journal := .setDefault .enable skylineCcName ok :: s.journal }
    GuardInv t ∧ (requestContract answers).guar s t ∧ Arming fallbackCc t := by
  have hsafe : EventSafe answers s (.setDefault .enable skylineCcName ok) :=
    fun _ => ⟨h.registered, fun _ => ⟨rfl, h.asked⟩⟩
  have htaken : handedBack (.setDefault .enable skylineCcName ok :: s.journal) = false := by
    cases ok with
    | true => rfl
    | false => exact h.taken
  exact ⟨⟨fun _ => ⟨h.runtime, h.registered, htaken⟩, hinv.fallback⟩, guar_of_note rfl rfl hsafe,
    ⟨⟨h.fallback, h.attached, h.asked⟩, h.runtime⟩, h.holding, htaken⟩

/-- **`arm_and_enforce`**, once skyline_cc is the default. -/
lemma sat_armAndEnforce (o : Outcome) (hs : Live fallbackCc s)
    (htaken : handedBack s.journal = false) :
    (armAndEnforce o).Sat (requestContract answers) (fun _ t => Live fallbackCc t) s := by
  refine sat_bind_of (M := fun _ t => Arming fallbackCc t) ?_ (fun _ t₁ h₁ => ?_)
    fun _ _ h => h.toLive
  · refine sat_await fun t hst hinv hfree => ?_
    have ht := hs.calm hst.calm
    refine ⟨guardInv_counters hinv rfl, guar_of_silent (lockKept_of_free hfree _) rfl,
      ⟨⟨ht.fallback, ht.attached, ht.asked⟩, ht.runtime⟩, rfl, ?_⟩
    exact hst.calm.handedBack.trans htaken
  refine sat_bind_of (M := fun _ t => Arming fallbackCc t) ?_ (fun _ t₂ h₂ => ?_)
    fun _ _ h => h.toLive
  · refine sat_modify fun t hst hinv => ?_
    exact (h₁.rely hst).guard hinv (h₁.rely hst).holding
  refine sat_bind_of (M := fun _ t => Arming fallbackCc t) ?_ (fun _ t₃ h₃ => ?_)
    fun _ _ h => h.toLive
  · refine sat_enforceCongestionControl (fun _ _ => Arming.rely) requests_guar_refl ?_ ?_ o h₂
    · exact fun s ok name hs hinv => hs.write hinv ok name
    · exact fun s count hs hinv => hs.guard hinv hs.holding
  refine sat_modify fun t hst hinv => ?_
  have ht := h₃.rely hst
  exact ⟨guardInv_counters hinv rfl, guar_of_silent (ht.holding.lockKept _) rfl,
    ⟨ht.fallback, ht.attached, ht.asked⟩, ht.runtime⟩

/-- **`Enable` keeps the contract of the request thread.** -/
theorem sat_enable (o : Outcome) (modules : Option (List Module)) (hs : Asking fallbackCc s) :
    (enable o modules).Sat (requestContract answers)
      (fun _ t => Attached t ∧ t.daemon.config.fallbackCc = fallbackCc) s := by
  have hend : ∀ t, Asking fallbackCc t →
      Attached t ∧ t.daemon.config.fallbackCc = fallbackCc :=
    fun t ht => ⟨ht.attached, ht.fallback⟩
  refine sat_bind_of (sat_of_quiet (quiet_gets _) s) (fun previous t₁ h₁ => ?_)
    fun _ t h => hend t (hs.calm h)
  have ht₁ := hs.calm h₁
  refine sat_bind_of (M := fun _ t => Calm t₁ t)
    (sat_of_quiet (quiet_editConfig fun config => by rfl) t₁) (fun _ t₂ h₂ => ?_)
    fun _ t h => hend t (ht₁.calm h)
  have ht₂ := ht₁.calm h₂
  refine sat_bind_of (sat_attempt (Q := fun r t => Asking fallbackCc t ∧
    (r = .ok (.ok ()) → Live fallbackCc t)) ?_) (fun published t₃ h₃ => ?_)
    fun _ t h => hend t h.1
  · refine sat_mono (sat_publishOrAttach o ht₂) fun q t h => ⟨h.1, fun hq => h.2 ?_⟩
    exact Except.ok.inj hq
  obtain ⟨hasking, hlive⟩ := h₃
  cases published with
  | error e =>
      refine sat_bind_of (M := fun _ t => Calm t₃ t)
        (sat_of_quiet (quiet_editConfig fun config => by rfl) t₃)
        (fun _ t h => hend t (hasking.calm h)) fun _ t h => hend t (hasking.calm h)
  | ok _ =>
      have ht₃ : Live fallbackCc t₃ := hlive rfl
      refine sat_bind_of (sat_of_quiet (each_attempt (quiet_setPolicyEnabled o true)) t₃)
        (fun _ t₄ h₄ => ?_) fun _ t h => hend t (ht₃.calm h).toAsking
      refine sat_bind_of (sat_setSkylineDefault o (ht₃.calm h₄)) (fun _ t₅ h₅ => ?_)
        fun _ t h => hend t h.1.toAsking
      refine sat_bind_of (sat_armAndEnforce o h₅.1 (h₅.2 rfl)) (fun _ t₆ h₆ => ?_)
        fun _ t h => hend t h.toAsking
      refine sat_bind_of (M := fun _ t => Calm t₆ t)
        (sat_of_quiet (each_modify fun s => by exact ⟨rfl, rfl, rfl, rfl, .refl _ _⟩) t₆)
        (fun _ t₇ h₇ => ?_) fun _ t h => hend t (h₆.calm h).toAsking
      refine sat_bind_of (sat_of_quiet (each_attempt (quiet_applyRedundancy o)) t₇)
        (fun _ t₈ h₈ => ?_) fun _ t h => hend t ((h₆.calm h₇).calm h).toAsking
      exact hend t₈ ((h₆.calm h₇).calm h₈).toAsking

/-! ### Drain -/

/-- A drain that has handed new connections back. -/
structure Handed (fallbackCc : String) (s : Sys) : Prop where
  fallback : s.daemon.config.fallbackCc = fallbackCc
  disarmed : s.guard.armed = false
  handed : handedOver s.journal = some fallbackCc

lemma Handed.calm (h : Handed fallbackCc s) (hst : Calm s t) : Handed fallbackCc t :=
  ⟨hst.fallback.trans h.fallback, hst.armed.trans h.disarmed, hst.handedOver.trans h.handed⟩

/-- In the section of `disarm_and`, once the flag is down. -/
structure Disarming (fallbackCc : String) (s : Sys) : Prop where
  fallback : s.daemon.config.fallbackCc = fallbackCc
  attached : Attached s
  holding : Holding s
  disarmed : s.guard.armed = false

lemma Disarming.rely (h : Disarming fallbackCc s) (hst : PassStep s t) :
    Disarming fallbackCc t :=
  ⟨hst.calm.fallback.trans h.fallback, hst.calm.attached h.attached, hst.held h.holding,
    hst.armed.trans h.disarmed⟩

/-- The write of `fallback_cc` in the section of `disarm_and`. -/
lemma sat_setFallbackDefault (o : Outcome) (hs : Disarming fallbackCc s) :
    (setDefaultCongestionControl o .fallbackDefault .drain fallbackCc).Sat
      (requestContract answers)
      (fun q t => Disarming fallbackCc t ∧ (q = .ok () → handedOver t.journal = some fallbackCc))
      s := by
  refine sat_atomically fun t hst hinv => ?_
  have ht := hs.rely hst
  have hsafe : EventSafe answers t (.setDefault .drain fallbackCc (o.ok .fallbackDefault)) := by
    intro hname
    rw [← ht.fallback] at hname
    exact absurd hname hinv.fallback
  refine ⟨guardInv_of_disarmed ht.disarmed hinv.fallback, guar_of_note rfl rfl hsafe,
    ⟨ht.fallback, ht.attached, ht.holding, ht.disarmed⟩, fun hq => ?_⟩
  cases hok : o.ok .fallbackDefault with
  | true => rfl
  | false =>
      simp only [Outcome.result, hok] at hq
      cases hq

/-- **`disarm_and`** with the write of `fallback_cc`. -/
lemma sat_disarmAnd (o : Outcome) (hs : Attached s)
    (hfallback : s.daemon.config.fallbackCc = fallbackCc) :
    (disarmAnd (setDefaultCongestionControl o .fallbackDefault .drain fallbackCc)).Sat
      (requestContract answers)
      (fun q t => (Attached t ∧ t.daemon.config.fallbackCc = fallbackCc) ∧
        (q = .ok () → Handed fallbackCc t)) s := by
  refine sat_bind_of (M := fun _ t => Holding t ∧ Attached t ∧
    t.daemon.config.fallbackCc = fallbackCc) ?_ (fun _ t₁ h₁ => ?_) fun _ _ h => ⟨h.2, nofun⟩
  · refine sat_await fun t hst hinv hfree => ?_
    exact ⟨guardInv_counters hinv rfl, guar_of_silent (lockKept_of_free hfree _) rfl, rfl,
      hst.calm.attached hs, hst.calm.fallback.trans hfallback⟩
  obtain ⟨hholding, hattached, hfallback⟩ := h₁
  refine sat_bind_of (M := fun _ t => Disarming fallbackCc t) ?_ (fun _ t₂ h₂ => ?_)
    fun _ _ h => ⟨⟨h.attached, h.fallback⟩, nofun⟩
  · refine sat_modify fun t hst hinv => ?_
    have hheld : Holding t := hst.held hholding
    exact ⟨guardInv_of_disarmed rfl hinv.fallback, guar_of_silent (hheld.lockKept _) rfl,
      hst.calm.fallback.trans hfallback, hst.calm.attached hattached, hheld, rfl⟩
  refine sat_bind_of (sat_attempt (Q := fun r t => Disarming fallbackCc t ∧
    (r = .ok (.ok ()) → handedOver t.journal = some fallbackCc)) ?_) (fun result t₃ h₃ => ?_)
    fun _ _ h => ⟨⟨h.1.attached, h.1.fallback⟩, nofun⟩
  · refine sat_mono (sat_setFallbackDefault o h₂) fun q t h => ⟨h.1, fun hq => h.2 ?_⟩
    exact Except.ok.inj hq
  obtain ⟨hdisarming, hhanded⟩ := h₃
  refine sat_bind_of (M := fun _ t => (Attached t ∧ t.daemon.config.fallbackCc = fallbackCc) ∧
    (result = .ok () → Handed fallbackCc t)) ?_ (fun _ t₄ h₄ => ?_) fun _ _ h => ⟨h.1, nofun⟩
  · refine sat_modify fun t hst hinv => ?_
    have ht := hdisarming.rely hst
    refine ⟨guardInv_counters hinv rfl, guar_of_silent (ht.holding.lockKept _) rfl,
      ⟨ht.attached, ht.fallback⟩, fun hok => ⟨ht.fallback, ht.disarmed, ?_⟩⟩
    subst hok
    exact hst.calm.handedOver.trans (hhanded rfl)
  exact sat_ofExcept.mpr h₄

/-- A drain that may take the runtime down: `flow_count` read no flow. -/
structure Clear (answers : Option UInt64 → Prop) (fallbackCc : String) (s : Sys) : Prop
    extends Handed fallbackCc s where
  read : s.daemon.runtime.isSome = true →
    ∃ read, lastRead s.journal = some read ∧ read.getD 0 = 0 ∧ answers read

/-- The entry of a pass is no read. -/
lemma lastRead_pass (h : PassStep s t) : lastRead t.journal = lastRead s.journal := by
  have hnone : ∀ e : Event, e.isPass = true → e.ownRead = none := by
    intro e he
    cases e with
    | received request => cases he
    | flowCount read => cases he
    | _ => rfl
  rw [lastRead, h.journal.latest_eq hnone]
  rfl

/-- The last look at `flow_count`. -/
lemma sat_activeFlows {o : Outcome} (ho : ∀ k, answers (o.flowCount k)) (k : ℕ)
    (hs : Handed fallbackCc s) :
    (activeFlows o k).Sat (requestContract answers)
      (fun q t => Calm s t ∧ ∀ flows, q = .ok flows → flows = 0 → Clear answers fallbackCc t)
      s := by
  refine sat_atomically fun t hst hinv => ?_
  have ht := hs.calm hst.calm
  cases hruntime : t.daemon.runtime with
  | none =>
      refine ⟨hinv, requests_guar_refl t, hst.calm, fun _ _ _ => ⟨ht, fun hsome => ?_⟩⟩
      rw [hruntime] at hsome
      cases hsome
  | some runtime =>
      have hquiet := quiet_note t (e := .flowCount (o.flowCount k)) rfl
      refine ⟨hquiet.calm.inv hinv, guar_of_note rfl rfl trivial, hst.calm.trans hquiet.calm,
        fun flows hq hzero => ⟨ht.calm hquiet.calm, fun _ => ⟨_, rfl, ?_, ho k⟩⟩⟩
      obtain rfl := Except.ok.inj hq
      exact hzero

/-- An unregister of a drain. -/
lemma Clear.unregister (h : Clear answers fallbackCc s) (hinv : GuardInv s)
    (hread : ∃ read, lastRead s.journal = some read ∧ read.getD 0 = 0 ∧ answers read)
    (ok registered : Bool) :
    let t := { s with
      registered := registered
      journal := .unregister .drain ok :: s.journal }
    GuardInv t ∧ (requestContract answers).guar s t ∧ Handed fallbackCc t ∧
      lastRead t.journal = lastRead s.journal := by
  have hsafe : EventSafe answers s (.unregister .drain ok) := by
    refine ⟨h.disarmed, ?_, hread⟩
    rw [h.fallback]
    exact h.handed
  exact ⟨guardInv_of_disarmed h.disarmed hinv.fallback, guar_of_note rfl rfl hsafe,
    ⟨h.fallback, h.disarmed, h.handed⟩, rfl⟩

/-- A read of `flow_count` outlives what a pass or a drain's unregister notes. -/
lemma sat_drainRuntime (o : Outcome) (hs : Clear answers fallbackCc s) (hattached : Attached s) :
    (drainRuntime o).Sat (requestContract answers)
      (fun _ t => Attached t ∧ t.daemon.config.fallbackCc = fallbackCc) s := by
  have hrely : ∀ {s t : Sys}, Clear answers fallbackCc s → PassStep s t →
      Clear answers fallbackCc t := by
    intro s t hs hst
    refine ⟨hs.toHanded.calm hst.calm, fun hsome => ?_⟩
    rw [lastRead_pass hst]
    exact hs.read (hst.calm.runtime ▸ hsome)
  refine sat_bind_of (M := fun r t => (Clear answers fallbackCc t ∧ Attached t) ∧
    r = .ok t.daemon.runtime) ?_ (fun runtime t₁ h₁ => ?_) fun _ t h => ⟨h.1.2, h.1.1.fallback⟩
  · exact sat_gets requests_guar_refl fun t hst _ =>
      ⟨⟨hrely hs hst, hst.calm.attached hattached⟩, rfl⟩
  obtain ⟨⟨h₁, hattached₁⟩, hruntime⟩ := h₁
  have hruntime : runtime = t₁.daemon.runtime := Except.ok.inj hruntime
  cases runtime with
  | none => exact ⟨hattached₁, h₁.fallback⟩
  | some rt =>
      have hsome : t₁.daemon.runtime.isSome = true := by
        rw [← hruntime]
        rfl
      -- from here on the struct_ops may be gone while there still is a runtime
      refine sat_bind_of (M := fun q t => Handed fallbackCc t ∧
        (∃ read, lastRead t.journal = some read ∧ read.getD 0 = 0 ∧ answers read) ∧
        ∀ e, q = .error e → Attached t) ?_ (fun _ t₂ h₂ => ?_)
        fun e t h => ⟨h.2.2 e rfl, h.1.fallback⟩
      · refine sat_atomically fun t hst hinv => ?_
        have ht := hrely h₁ hst
        have hread := ht.read (hst.calm.runtime.trans hsome)
        obtain ⟨hinv', hguar, hhanded, hlast⟩ := ht.unregister hinv hread (o.ok .unregister)
          (t.registered && !o.ok .unregister)
        refine ⟨hinv', hguar, hhanded, hlast ▸ hread, fun e hq hsome' => ?_⟩
        cases hok : o.ok .unregister with
        | true =>
            simp only [Outcome.result, hok] at hq
            cases hq
        | false =>
            simp only [Bool.not_false, Bool.and_true]
            exact hst.calm.attached hattached₁ hsome'
      obtain ⟨hhanded, hread, -⟩ := h₂
      refine sat_bind_of (M := fun _ t => (Handed fallbackCc t ∧
        ∃ read, lastRead t.journal = some read ∧ read.getD 0 = 0 ∧ answers read) ∧
        t.daemon.runtime = none) ?_ (fun _ t₃ h₃ => ?_) fun _ t h => ⟨?_, h.1.1.fallback⟩
      · refine sat_modify fun t hst hinv => ?_
        have ht := hhanded.calm hst.calm
        refine ⟨guardInv_of_disarmed ht.disarmed hinv.fallback,
          guar_of_silent (.of_guard rfl) rfl, ⟨⟨ht.fallback, ht.disarmed, ht.handed⟩, ?_⟩, rfl⟩
        rw [← lastRead_pass hst] at hread
        exact hread
      · obtain ⟨⟨hhanded₃, hread₃⟩, hnone⟩ := h₃
        have hgone : ∀ t : Sys, t.daemon.runtime = none → Attached t := by
          intro t ht hsome
          rw [ht] at hsome
          cases hsome
        refine sat_bind_of (M := fun _ t => Attached t ∧
          t.daemon.config.fallbackCc = fallbackCc) (sat_attempt ?_) (fun _ t h => h)
          fun _ _ h => h
        refine sat_atomically fun t hst hinv => ?_
        have hclear : Clear answers fallbackCc t :=
          hrely ⟨hhanded₃, fun _ => hread₃⟩ hst
        rw [← lastRead_pass hst] at hread₃
        obtain ⟨hinv', hguar, hhanded', -⟩ := hclear.unregister hinv hread₃ (o.ok .dropUnregister)
          (t.registered && !o.ok .dropUnregister)
        exact ⟨hinv', hguar, hgone _ (hst.daemon ▸ hnone), hhanded'.fallback⟩
      · intro hsome'
        rw [h.2] at hsome'
        cases hsome'

/-- The wait of a drain ends without a flow, or with an error. -/
lemma sat_drainFlows {o : Outcome} (ho : ∀ k, answers (o.flowCount k)) (timeoutS : UInt64)
    (hs : Handed fallbackCc s) :
    (drainFlows o timeoutS fallbackCc).Sat (requestContract answers)
      (fun q t => Calm s t ∧ (q = .ok () → Clear answers fallbackCc t)) s := by
  refine sat_bind_of (sat_of_quiet (quiet_drainWait o _ _ _) s) (fun polls t₁ h₁ => ?_)
    fun _ t h => ⟨h, nofun⟩
  refine sat_bind_of (sat_activeFlows ho polls (hs.calm h₁)) (fun flows t₂ h₂ => ?_)
    fun _ t h => ⟨h₁.trans h.1, nofun⟩
  split
  · exact ⟨h₁.trans h₂.1, nofun⟩
  · rename_i hflows
    exact ⟨h₁.trans h₂.1, fun _ => h₂.2 flows rfl (by simpa using hflows)⟩

/-- **`Drain` keeps the contract of the request thread.** -/
theorem sat_drain {o : Outcome} (ho : ∀ k, answers (o.flowCount k)) (timeoutS : UInt64)
    (hs : Attached s) (hfallback : s.daemon.config.fallbackCc = fallbackCc) :
    (drain o timeoutS).Sat (requestContract answers)
      (fun _ t => Attached t ∧ t.daemon.config.fallbackCc = fallbackCc) s := by
  refine sat_bind_of (M := fun r t => (Attached t ∧ t.daemon.config.fallbackCc = fallbackCc) ∧
    ∀ name, r = .ok name → name = fallbackCc) ?_ (fun name t₀ h₀ => ?_) fun _ _ h => h.1
  · refine sat_gets requests_guar_refl fun t hst _ =>
      ⟨⟨hst.calm.attached hs, hst.calm.fallback.trans hfallback⟩, ?_⟩
    rintro name hok
    obtain rfl := Except.ok.inj hok
    exact hst.calm.fallback.trans hfallback
  obtain ⟨⟨hattached₀, hfallback₀⟩, hname⟩ := h₀
  obtain rfl := hname name rfl
  refine sat_bind_of (sat_disarmAnd o hattached₀ hfallback₀) (fun _ t₁ h₁ => ?_) fun _ _ h => h.1
  obtain ⟨⟨hattached₁, -⟩, hhanded⟩ := h₁
  have h₁ := hhanded rfl
  -- the quiet middle of the drain, with all that is left of it
  have hend : ∀ t, Calm t₁ t → Attached t ∧ t.daemon.config.fallbackCc = name :=
    fun t ht => ⟨ht.attached hattached₁, ht.fallback.trans h₁.fallback⟩
  refine sat_bind_of (sat_of_quiet (quiet_setPolicyEnabled o false) t₁) (fun _ t₂ h₂ => ?_)
    fun _ t h => hend t h
  refine sat_bind_of (M := fun _ t => Calm t₁ t) ?_ (fun _ t₃ h₃ => ?_) fun _ t h => hend t h
  · refine sat_mono (Q := fun _ t => Calm t₂ t) (sat_of_quiet (each_modify fun s => ?_) t₂)
      fun _ t h => h₂.trans h
    exact ⟨rfl, rfl, rfl, rfl, .refl _ _⟩
  refine sat_bind_of (sat_of_quiet (quiet_applyRedundancy o) t₃) (fun _ t₄ h₄ => ?_)
    fun _ t h => hend t (h₃.trans h)
  have h₄ := h₃.trans h₄
  refine sat_bind_of (M := fun _ t => Calm t₁ t) ?_ (fun _ t₅ h₅ => ?_) fun _ t h => hend t h
  · refine sat_mono (Q := fun _ t => Calm t₄ t) (sat_of_quiet (each_modify fun s => ?_) t₄)
      fun _ t h => h₄.trans h
    exact ⟨rfl, rfl, rfl, rfl, .refl _ _⟩
  refine sat_bind_of (sat_drainFlows ho timeoutS (h₁.calm h₅)) (fun _ t₆ h₆ => ?_)
    fun _ t h => hend t (h₅.trans h.1)
  refine sat_bind_of (sat_drainRuntime o (h₆.2 rfl) ((h₅.trans h₆.1).attached hattached₁))
    (fun _ t₇ h₇ => ?_) fun _ _ h => h
  refine sat_modify fun t hst hinv => ?_
  exact ⟨⟨hinv.armed, hinv.fallback⟩, guar_of_silent (.of_guard rfl) rfl,
    hst.calm.attached h₇.1, hst.calm.fallback.trans h₇.2⟩

/-! ### The calls -/

/-- A request, after it was received. -/
lemma sat_tryHandle {o : Outcome} (ho : ∀ k, answers (o.flowCount k)) (r : Request)
    (hs : Attached s) (hfallback : s.daemon.config.fallbackCc = fallbackCc)
    (hasked : enableAsked s.journal = r.isEnable) :
    (tryHandle o r).Sat (requestContract answers)
      (fun _ t => Attached t ∧ t.daemon.config.fallbackCc = fallbackCc) s := by
  by_cases hr : ∀ modules, r ≠ .enable modules
  · by_cases hr' : ∀ timeoutS, r ≠ .drain timeoutS
    · refine sat_mono (sat_of_quiet (quiet_tryHandle o hr hr') s) fun _ t ht => ?_
      exact ⟨ht.attached hs, ht.fallback.trans hfallback⟩
    · push Not at hr'
      obtain ⟨timeoutS, rfl⟩ := hr'
      exact sat_drain ho timeoutS hs hfallback
  · push Not at hr
    obtain ⟨modules, rfl⟩ := hr
    exact sat_enable o modules ⟨hfallback, hs, hasked⟩

/-- **A request keeps the contract of the request thread.** -/
lemma sat_handle {o : Outcome} (ho : ∀ k, answers (o.flowCount k)) (r : Request)
    (hs : Attached s) :
    (handle o r).Sat (requestContract answers) (fun _ t => Attached t) s := by
  refine sat_bind_of (M := fun _ t => Attached t ∧ enableAsked t.journal = r.isEnable) ?_
    (fun _ t₁ h₁ => ?_) fun _ _ h => h.1
  · refine sat_modify fun t hst hinv => ?_
    refine ⟨⟨fun harmed => ?_, hinv.fallback⟩, guar_of_note rfl rfl trivial,
      hst.calm.attached hs, rfl⟩
    exact hinv.armed harmed
  obtain ⟨hattached, hasked⟩ := h₁
  refine sat_bind_of (M := fun q t => (Attached t ∧ enableAsked t.journal = r.isEnable) ∧
    q = .ok t.daemon.config) ?_ (fun previous t₂ h₂ => ?_) fun _ _ h => h.1.1
  · exact sat_gets requests_guar_refl fun t hst _ =>
      ⟨⟨hst.calm.attached hattached, hst.calm.enableAsked.trans hasked⟩, rfl⟩
  obtain ⟨⟨hattached₂, hasked₂⟩, hprevious⟩ := h₂
  obtain rfl := Except.ok.inj hprevious
  refine sat_bind_of (sat_attempt (Q := fun _ t => Attached t ∧
    t.daemon.config.fallbackCc = t₂.daemon.config.fallbackCc)
    (sat_tryHandle ho r hattached₂ rfl hasked₂)) (fun result t₃ h₃ => ?_) fun _ _ h => h.1
  obtain ⟨hattached₃, hfallback₃⟩ := h₃
  cases result with
  | ok _ =>
      refine sat_bind_of (M := fun _ t => Attached t) ?_ (fun _ t h => h) fun _ _ h => h
      refine sat_mono (Q := fun _ t => Calm t₃ t) (sat_of_quiet (each_modify fun s => ?_) t₃)
        fun _ t h => h.attached hattached₃
      exact quiet_note s rfl
  | error e =>
      refine sat_bind_of (M := fun _ t => Attached t) ?_ (fun _ t h => h) fun _ _ h => h
      refine sat_modify fun t hst hinv => ?_
      have hstep : QuietStep t ((if r.isEnable then t
          else t.editConfig fun _ => t₂.daemon.config).note (.returned r false)) := by
        cases r.isEnable with
        | true => exact quiet_note t rfl
        | false =>
            refine ⟨rfl, rfl, rfl, ?_, (Extends.refl _ _).cons rfl⟩
            exact (hst.calm.fallback.trans hfallback₃).symm
      refine ⟨hstep.calm.inv hinv, ⟨.of_guard hstep.guard, ?_⟩,
        (hst.calm.trans hstep.calm).attached hattached₃⟩
      exact hstep.journal.mono fun _ => eventSafe_of_isBland

lemma quiet_startPolicy (o : Outcome) : (startPolicy o).Each QuietStep := by
  refine each_modify fun s => ?_
  cases s.daemon.policy with
  | none => exact ⟨rfl, rfl, rfl, rfl, .refl _ _⟩
  | some policy => exact .refl s

lemma quiet_startTc (o : Outcome) : (startTc o).Each QuietStep := by
  refine each_modify fun s => ?_
  cases s.daemon.tc with
  | some tc => exact .refl s
  | none =>
      dsimp only
      split
      · exact ⟨rfl, rfl, rfl, rfl, .refl _ _⟩
      · exact .refl s

/-- The environment's answers to a task are among `answers`. -/
def Task.Answered (answers : Option UInt64 → Prop) (task : Task) : Prop :=
  ∀ k, answers (task.outcome.flowCount k)

/-- **Every task keeps the contract of its thread**, and so does whoever writes the
sysctl. -/
theorem discipline_obeyed (answers : Option UInt64 → Prop) :
    (discipline answers).Obeyed daemonThreads (Task.Answered answers) := by
  refine ⟨fun task s hanswered hinv hbetween => ?_, fun name s hinv => ⟨?_, fun a => ?_⟩⟩
  · cases task with
    | call c o =>
        have hattached : Attached s := hbetween
        cases c with
        | startPolicy =>
            exact sat_mono (sat_of_quiet (quiet_startPolicy o) s) fun _ t h => h.attached hattached
        | startTc =>
            exact sat_mono (sat_of_quiet (quiet_startTc o) s) fun _ t h => h.attached hattached
        | request r =>
            exact sat_bind_of (sat_handle hanswered r hattached) (fun _ _ h => h) fun _ _ h => h
    | pass o => exact sat_periodicPass o s
  · exact ⟨hinv.armed, hinv.fallback⟩
  · cases a with
    | requests => exact ⟨rfl, rfl, id, rfl, .refl _ _⟩
    | guard => exact .of_guard rfl

/-! ### Runs -/

/-- The invariant of a daemon that was just made. -/
lemma boot_guardInv {config : SkylineConfig} (hvalid : config.validate = .ok ())
    (capabilities : CapabilityReport) (congestionControl : String) :
    GuardInv (.boot config capabilities congestionControl) := by
  refine guardInv_of_disarmed rfl ?_
  exact ((SkylineConfig.validate_eq_ok_iff config).mp hvalid).fallbackCc_ne

/-- **Guard, `Enable` and `Drain` are ordered safely**, in every run of the two threads
and whoever else writes the sysctl.  The guard is armed only while there is a runtime.
A step that writes skyline_cc is made while its struct_ops is registered; after a drain's
successful write of `fallback_cc`, and until an `Enable` has written skyline_cc again, it
is the write of an `Enable` received after that drain.  A step in which a drain unregisters
the struct_ops is made with the guard disarmed, after this drain's own write of
`fallback_cc` succeeded, and after `flow_count` read 0: a failed lookup reads so too, and
where none fails the map held 0. -/
theorem guard_enable_drain_ordered {config : SkylineConfig} (hvalid : config.validate = .ok ())
    (capabilities : CapabilityReport) (congestionControl : String)
    (moves : List (Move Thread Task String)) (x : Pool Thread Sys DaemonError)
    (hrun : run? daemonThreads.step (.idle (.boot config capabilities congestionControl)) moves
      = some x) :
    (x.shared.guard.armed = true → x.shared.daemon.runtime.isSome = true) ∧
    ∀ move y, daemonThreads.step x move = some y →
      (∀ who ok, y.shared.journal = .setDefault who skylineCcName ok :: x.shared.journal →
        x.shared.registered = true ∧
        (handedBack x.shared.journal = true →
          who = .enable ∧ enableAsked x.shared.journal = true)) ∧
      (∀ ok, y.shared.journal = .unregister .drain ok :: x.shared.journal →
        x.shared.guard.armed = false ∧
        handedOver x.shared.journal = some x.shared.daemon.config.fallbackCc ∧
        ∃ read, lastRead x.shared.journal = some read ∧ read.getD 0 = 0 ∧
          ((∀ task, .start task ∈ moves → ∀ k, task.outcome.flowCount k ≠ none) →
            read = some 0)) := by
  -- a lookup that failed is one of a task in which a lookup failed
  let answers : Option UInt64 → Prop := fun read =>
    (∀ task, .start task ∈ moves → ∀ k, task.outcome.flowCount k ≠ none) → read ≠ none
  have hanswered : ∀ task, .start task ∈ moves → task.Answered answers :=
    fun task hmem k hall => hall task hmem k
  have hsafe := Discipline.run_safe (discipline_obeyed answers)
    (boot_guardInv hvalid capabilities congestionControl)
    (fun a => by cases a with
      | requests => exact nofun
      | guard => trivial) hanswered hrun
  refine ⟨fun harmed => (hsafe.inv.armed harmed).1, fun move y hstep => ?_⟩
  have hnoted : ∀ e, y.shared.journal = e :: x.shared.journal →
      EventSafe answers x.shared e := by
    intro e he
    cases move with
    | start task =>
        have hsame : y.shared = x.shared := by
          rw [Workload.step] at hstep
          split at hstep
          · obtain rfl := Option.some.inj hstep
            rfl
          · cases hstep
        rw [hsame] at he
        exact absurd he.symm (List.cons_ne_self _ _)
    | interfere name =>
        obtain rfl := Option.some.inj hstep
        exact absurd he.symm (List.cons_ne_self _ _)
    | act a =>
        have hguar := (Discipline.step_safe (discipline_obeyed answers) hsafe
          (fun _ h => by cases h) hstep).2 a rfl
        have hextends : Extends (EventSafe answers x.shared) x.shared.journal y.shared.journal := by
          cases a with
          | requests => exact hguar.2
          | guard => exact hguar.2
        rw [he] at hextends
        exact hextends.of_cons
  refine ⟨fun who ok he => hnoted _ he rfl, fun ok he => ?_⟩
  obtain ⟨hdisarmed, hhanded, read, hread, hzero, hanswer⟩ := hnoted _ he
  refine ⟨hdisarmed, hhanded, read, hread, hzero, fun hlookups => ?_⟩
  cases read with
  | none => exact absurd rfl (hanswer hlookups)
  | some value => exact congrArg some hzero

/-- A pass that puts skyline_cc back while a drain waits for the lock; the drain is then
about to unregister. -/
def passDuringDrainMoves : List (Move Thread Task String) :=
  .start (.call (.request (.enable none)) .allWell) :: List.replicate 22 (.act .requests) ++
    [.interfere "reno", .start (.pass .allWell)] ++ List.replicate 3 (.act .guard) ++
    [.start (.call (.request (.drain 0)) .allWell)] ++ List.replicate 3 (.act .requests) ++
    List.replicate 4 (.act .guard) ++ List.replicate 11 (.act .requests)

theorem guard_enable_drain_ordered_unregister :
    ∃ x y, run? daemonThreads.step (.idle (.boot .speeder .full "cubic")) passDuringDrainMoves
        = some x ∧
      daemonThreads.step x (.act .requests) = some y ∧
      y.shared.journal = .unregister .drain true :: x.shared.journal ∧
      x.shared.guard.armed = false ∧ handedOver x.shared.journal = some "cubic" ∧
      ∃ read, lastRead x.shared.journal = some read ∧ read.getD 0 = 0 := by
  have hends : (run? daemonThreads.step (.idle (.boot .speeder .full "cubic"))
      passDuringDrainMoves).any (fun x => (daemonThreads.step x (.act .requests)).any fun y =>
        y.shared.journal == .unregister .drain true :: x.shared.journal &&
          x.shared.daemon.config.fallbackCc == "cubic") = true := by decide +kernel
  obtain ⟨x, hx, hnext⟩ := (Option.any_eq_true _ _).mp hends
  obtain ⟨y, hy, hall⟩ := (Option.any_eq_true _ _).mp hnext
  rw [Bool.and_eq_true, beq_iff_eq, beq_iff_eq] at hall
  obtain ⟨hjournal, hfallback⟩ := hall
  have hspeeder : SkylineConfig.speeder.validate = .ok () := by decide +kernel
  obtain ⟨-, hsteps⟩ := guard_enable_drain_ordered hspeeder .full
    "cubic" passDuringDrainMoves x hx
  obtain ⟨hdisarmed, hhanded, read, hread, hzero, -⟩ := (hsteps _ y hy).2 true hjournal
  exact ⟨x, y, hx, hy, hjournal, hdisarmed, hfallback ▸ hhanded, read, hread, hzero⟩

end SkylineSpeeder.Speederd
