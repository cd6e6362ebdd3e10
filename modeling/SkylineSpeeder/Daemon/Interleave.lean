import SkylineSpeeder.Machine.Journal
import SkylineSpeeder.Machine.Threads
import SkylineSpeeder.Daemon.Requests

/-!
The two threads of `skyline-speederd` side by side: the one that handles requests, one
after the other, and the guard's periodic thread.  Every action of theirs can come between
any two of the other's, and any process on the host may write the sysctl in between.

* `Task`, `daemonThreads`: the jobs of the two threads;
* `handedBack`, `enableAsked`, `handedOver`, `lastRead`: what the journal says about who
  may write what;
* `GuardInv`, `EventSafe`, `PassStep`: the invariant, what an entry of the journal has to
  meet, and what the request thread can expect of the other one;
* `discipline`: the contracts of the two threads;
* `QuietStep`, `Calm`: the steps of the request thread that none of this is about.
-/

namespace SkylineSpeeder.Speederd

open Machine Machine.Prog Word

/-! ### The threads -/

/-- A call for the request thread, or a tick of the guard's, with what the environment
answers in it. -/
inductive Task where
  | call (call : Call) (o : Outcome)
  | pass (o : Outcome)

/-- Who does it. -/
def Task.thread : Task → Thread
  | .call _ _ => .requests
  | .pass _ => .guard

/-- What is done. -/
def Task.program : Task → Job Unit
  | .call c o => c.program o
  | .pass o => periodicPass o

/-- What the environment answers. -/
def Task.outcome : Task → Outcome
  | .call _ o => o
  | .pass o => o

/-- The daemon's threads; any other process may write `tcp_congestion_control`. -/
def daemonThreads : Workload Thread Task String Sys DaemonError where
  thread := Task.thread
  program := Task.program
  interfere name s := { s with congestionControl := name }

/-! ### What the journal says -/

/-- A drain that has handed new connections back, or an `Enable` that has taken them. -/
def Event.handover : Event → Option Bool
  | .setDefault .drain _ true => some true
  | .setDefault .enable name true => if name = skylineCcName then some false else none
  | _ => none

/-- A drain's write of `fallback_cc` has succeeded, and no `Enable` has written
skyline_cc since. -/
def handedBack (journal : List Event) : Bool := (latest Event.handover journal).getD false

/-- A request that begins, or a drain that has handed new connections back. -/
def Event.asks : Event → Option Bool
  | .received request => some request.isEnable
  | .setDefault .drain _ true => some false
  | _ => none

/-- The request at hand is an `Enable`, received after the last drain that handed new
connections back. -/
def enableAsked (journal : List Event) : Bool := (latest Event.asks journal).getD false

/-- The beginning of a request, or what it hands new connections to. -/
def Event.ownHandover : Event → Option (Option String)
  | .received _ => some none
  | .setDefault .drain name true => some (some name)
  | _ => none

/-- What the drain at hand has written to the sysctl, once it has. -/
def handedOver (journal : List Event) : Option String := (latest Event.ownHandover journal).join

/-- The beginning of a request, or what it reads from `flow_count`. -/
def Event.ownRead : Event → Option (Option (Option UInt64))
  | .received _ => some none
  | .flowCount read => some (some read)
  | _ => none

/-- What the request at hand has last read from `flow_count`; a failed lookup is
`some none`. -/
def lastRead (journal : List Event) : Option (Option UInt64) :=
  (latest Event.ownRead journal).join

/-! ### The invariant -/

/-- While the guard is armed there is a runtime, its struct_ops is registered, and no
drain has handed new connections back. -/
structure GuardInv (s : Sys) : Prop where
  armed : s.guard.armed = true → s.daemon.runtime.isSome = true ∧ s.registered = true ∧
    handedBack s.journal = false
  fallback : s.daemon.config.fallbackCc ≠ skylineCcName

/-- What has to hold in `s` for the daemon to do what the entry says.  The lookups of
`flow_count` answer in `answers`. -/
def EventSafe (answers : Option UInt64 → Prop) (s : Sys) : Event → Prop
  | .setDefault who name _ => name = skylineCcName → s.registered = true ∧
      (handedBack s.journal = true → who = .enable ∧ enableAsked s.journal = true)
  | .unregister .drain _ => s.guard.armed = false ∧
      handedOver s.journal = some s.daemon.config.fallbackCc ∧
      ∃ read, lastRead s.journal = some read ∧ read.getD 0 = 0 ∧ answers read
  | _ => True

/-- The entry is a write of a pass. -/
def Event.isPass : Event → Bool
  | .setDefault .periodic _ _ => true
  | _ => false

/-- What the request thread can expect between two of its actions: a pass changes
nothing of the daemon, and nothing at all while the request thread has the lock. -/
structure PassStep (s t : Sys) : Prop where
  daemon : t.daemon = s.daemon
  armed : t.guard.armed = s.guard.armed
  held : s.guard.holder = some .requests → t.guard.holder = some .requests
  registered : t.registered = s.registered
  journal : Extends (fun e => e.isPass = true) s.journal t.journal

/-- What the guard's thread can expect: the flag does not change while it has the lock. -/
def LockKept (s t : Sys) : Prop :=
  s.guard.holder = some .guard →
    t.guard.holder = some .guard ∧ t.guard.armed = s.guard.armed

/-- While there is a runtime its struct_ops is registered.  This is not so in the middle
of a drain. -/
def Attached (s : Sys) : Prop := s.daemon.runtime.isSome = true → s.registered = true

lemma PassStep.refl (s : Sys) : PassStep s s := ⟨rfl, rfl, id, rfl, .refl _ _⟩

lemma PassStep.trans {s t u : Sys} (h : PassStep s t) (h' : PassStep t u) : PassStep s u :=
  ⟨h'.daemon.trans h.daemon, h'.armed.trans h.armed, fun hs => h'.held (h.held hs),
    h'.registered.trans h.registered, h.journal.trans h'.journal⟩

lemma LockKept.refl (s : Sys) : LockKept s s := fun hs => ⟨hs, rfl⟩

lemma LockKept.trans {s t u : Sys} (h : LockKept s t) (h' : LockKept t u) : LockKept s u := by
  intro hs
  obtain ⟨ht, harmed⟩ := h hs
  obtain ⟨hu, harmed'⟩ := h' ht
  exact ⟨hu, harmed'.trans harmed⟩

/-- The contracts of the two threads. -/
def discipline (answers : Option UInt64 → Prop) : Discipline Thread Sys where
  inv := GuardInv
  rely
    | .requests, s, t => PassStep s t
    | .guard, s, t => LockKept s t
  guar
    | .requests, s, t => LockKept s t ∧ Extends (EventSafe answers s) s.journal t.journal
    | .guard, s, t => PassStep s t ∧ Extends (EventSafe answers s) s.journal t.journal
  between
    | .requests, s => Attached s
    | .guard, _ => True
  rely_refl a s := by
    cases a with
    | requests => exact .refl s
    | guard => exact .refl s
  rely_trans a s t u := by
    cases a with
    | requests => exact PassStep.trans
    | guard => exact LockKept.trans
  between_stable a s t hs h := by
    cases a with
    | requests =>
        have h' : PassStep s t := h
        intro hsome
        rw [h'.registered]
        exact hs (h'.daemon ▸ hsome)
    | guard => trivial
  fits a b s t hne h := by
    cases a with
    | requests =>
        cases b with
        | requests => exact absurd rfl hne
        | guard => exact h.1
    | guard =>
        cases b with
        | requests => exact h.1
        | guard => exact absurd rfl hne

/-- The request thread's contract. -/
abbrev requestContract (answers : Option UInt64 → Prop) : Contract Sys :=
  (discipline answers).contract .requests

/-- The guard thread's contract. -/
abbrev guardContract (answers : Option UInt64 → Prop) : Contract Sys :=
  (discipline answers).contract .guard

/-! ### Quiet steps -/

/-- The entry says nothing about the default or the struct_ops, and begins no request. -/
def Event.isBland : Event → Bool
  | .updateConfigMaps _ _ => true
  | .flowCount _ => true
  | .returned _ _ => true
  | _ => false

/-- A step of the request thread that the guard is not concerned with. -/
structure QuietStep (s t : Sys) : Prop where
  guard : t.guard = s.guard
  registered : t.registered = s.registered
  runtime : t.daemon.runtime.isSome = s.daemon.runtime.isSome
  fallback : t.daemon.config.fallbackCc = s.daemon.config.fallbackCc
  journal : Extends (fun e => e.isBland = true) s.journal t.journal

/-- From `s` to `t` there were only quiet steps and passes. -/
structure Calm (s t : Sys) : Prop where
  armed : t.guard.armed = s.guard.armed
  registered : t.registered = s.registered
  runtime : t.daemon.runtime.isSome = s.daemon.runtime.isSome
  fallback : t.daemon.config.fallbackCc = s.daemon.config.fallbackCc
  journal : Extends (fun e => (e.isBland || e.isPass) = true) s.journal t.journal

namespace Calm

variable {s t u : Sys}

lemma refl (s : Sys) : Calm s s := ⟨rfl, rfl, rfl, rfl, .refl _ _⟩

lemma trans (h : Calm s t) (h' : Calm t u) : Calm s u :=
  ⟨h'.armed.trans h.armed, h'.registered.trans h.registered, h'.runtime.trans h.runtime,
    h'.fallback.trans h.fallback, h.journal.trans h'.journal⟩

/-- Bland entries and those of a pass answer none of the questions. -/
lemma unanswered {e : Event} (he : (e.isBland || e.isPass) = true) :
    e.handover = none ∧ e.asks = none ∧ e.ownHandover = none := by
  cases e with
  | setDefault who name ok =>
      cases who with
      | periodic => exact ⟨rfl, rfl, rfl⟩
      | enable => cases he
      | drain => cases he
  | received request => cases he
  | attachStructOps ok => cases he
  | unregister who ok => cases he
  | _ => exact ⟨rfl, rfl, rfl⟩

lemma handedBack (h : Calm s t) : handedBack t.journal = Speederd.handedBack s.journal := by
  rw [Speederd.handedBack, h.journal.latest_eq fun _ he => (unanswered he).1]
  rfl

lemma enableAsked (h : Calm s t) : enableAsked t.journal = Speederd.enableAsked s.journal := by
  rw [Speederd.enableAsked, h.journal.latest_eq fun _ he => (unanswered he).2.1]
  rfl

lemma handedOver (h : Calm s t) : handedOver t.journal = Speederd.handedOver s.journal := by
  rw [Speederd.handedOver, h.journal.latest_eq fun _ he => (unanswered he).2.2]
  rfl

lemma inv (h : Calm s t) (hs : GuardInv s) : GuardInv t := by
  refine ⟨fun harmed => ?_, ?_⟩
  · rw [h.armed] at harmed
    rw [h.runtime, h.registered, h.handedBack]
    exact hs.armed harmed
  · rw [h.fallback]
    exact hs.fallback

lemma attached (h : Calm s t) (hs : Attached s) : Attached t := by
  intro hsome
  rw [h.runtime] at hsome
  rw [h.registered]
  exact hs hsome

end Calm

/-- A pass is calm. -/
lemma PassStep.calm {s t : Sys} (h : PassStep s t) : Calm s t := by
  refine ⟨h.armed, h.registered, by rw [h.daemon], by rw [h.daemon], ?_⟩
  exact h.journal.mono fun e he => by rw [he, Bool.or_true]

lemma QuietStep.calm {s t : Sys} (h : QuietStep s t) : Calm s t := by
  refine ⟨by rw [h.guard], h.registered, h.runtime, h.fallback, ?_⟩
  exact h.journal.mono fun e he => by rw [he, Bool.true_or]

/-- Nothing has to hold for a bland entry. -/
lemma eventSafe_of_isBland {answers : Option UInt64 → Prop} {s : Sys} {e : Event}
    (he : e.isBland = true) : EventSafe answers s e := by
  cases e with
  | setDefault who name ok => cases he
  | unregister who ok => cases he
  | _ => trivial

/-- A step that leaves the guard alone does not take its lock. -/
lemma LockKept.of_guard {s t : Sys} (h : t.guard = s.guard) : LockKept s t := by
  intro hs
  rw [h]
  exact ⟨hs, rfl⟩

/-- **A program of quiet steps** keeps the request thread's contract, and is calm from
start to end. -/
lemma sat_of_quiet {α : Type} {answers : Option UInt64 → Prop} {p : Job α}
    (h : p.Each QuietStep) (s : Sys) :
    p.Sat (requestContract answers) (fun _ t => Calm s t) s := by
  refine h.sat (fun t u hinv hq => ⟨hq.calm.inv hinv, .of_guard hq.guard, ?_⟩) Calm.refl
    (fun _ _ _ => Calm.trans) (fun _ _ => PassStep.calm) (fun _ _ => QuietStep.calm)
  exact hq.journal.mono fun _ => eventSafe_of_isBland

/-! ### The programs that are quiet -/

lemma QuietStep.refl (s : Sys) : QuietStep s s := ⟨rfl, rfl, rfl, rfl, .refl _ _⟩

/-- A bland entry. -/
lemma quiet_note (s : Sys) {e : Event} (he : e.isBland = true) : QuietStep s (s.note e) :=
  ⟨rfl, rfl, rfl, rfl, (Extends.refl _ _).cons he⟩

/-- An edit of the configuration that leaves `fallback_cc` alone. -/
lemma quiet_editConfig {edit : SkylineConfig → SkylineConfig}
    (h : ∀ config, (edit config).fallbackCc = config.fallbackCc) :
    (modify (·.editConfig edit) : Job Unit).Each QuietStep :=
  each_modify fun s => ⟨rfl, rfl, rfl, h s.daemon.config, .refl _ _⟩

lemma quiet_gets {α : Type} (f : Sys → α) : (gets f : Job α).Each QuietStep :=
  each_gets QuietStep.refl

lemma quiet_validateConfig : validateConfig.Each QuietStep := each_atomically QuietStep.refl

lemma quiet_validateOr {restore : SkylineConfig → SkylineConfig}
    (h : ∀ config, (restore config).fallbackCc = config.fallbackCc) :
    (validateOr restore).Each QuietStep := by
  refine each_bind (each_attempt quiet_validateConfig) fun checked => ?_
  cases checked with
  | ok u => exact each_pure
  | error e => exact each_bind (quiet_editConfig h) fun _ => each_fail

lemma quiet_updateConfig (o : Outcome) : (updateConfig o).Each QuietStep := by
  refine each_atomically fun s => ?_
  cases hruntime : s.daemon.runtime with
  | none => exact .refl s
  | some runtime => exact ⟨rfl, rfl, by rw [hruntime]; rfl, rfl, (Extends.refl _ _).cons rfl⟩

lemma quiet_activeFlows (o : Outcome) (k : ℕ) : (activeFlows o k).Each QuietStep := by
  refine each_atomically fun s => ?_
  cases s.daemon.runtime with
  | none => exact .refl s
  | some runtime => exact quiet_note s rfl

lemma quiet_setPolicyEnabled (o : Outcome) (enabled : Bool) :
    (setPolicyEnabled o enabled).Each QuietStep := by
  refine each_atomically fun s => ?_
  cases s.daemon.policy with
  | none => exact .refl s
  | some policy => exact ⟨rfl, rfl, rfl, rfl, .refl _ _⟩

lemma quiet_setRtoTuning (o : Outcome) : (setRtoTuning o).Each QuietStep := by
  refine each_atomically fun s => ?_
  cases s.daemon.policy with
  | none => exact .refl s
  | some policy => exact ⟨rfl, rfl, rfl, rfl, .refl _ _⟩

lemma quiet_applyRedundancy (o : Outcome) : (applyRedundancy o).Each QuietStep := by
  refine each_atomically fun s => ?_
  cases s.daemon.tc with
  | none =>
      dsimp only
      split
      · exact .refl s
      · exact .refl s
  | some tc => exact ⟨rfl, rfl, rfl, rfl, .refl _ _⟩

lemma quiet_applyRetransmitDscp (o : Outcome) : (applyRetransmitDscp o).Each QuietStep := by
  refine each_atomically fun s => ?_
  cases s.daemon.tc with
  | none =>
      dsimp only
      split
      · exact .refl s
      · exact .refl s
  | some tc => exact ⟨rfl, rfl, rfl, rfl, .refl _ _⟩

/-- The wait of a drain, poll by poll. -/
lemma quiet_drainWait (o : Outcome) (deadline : Option ℕ) (fuel k : ℕ) :
    (drainWait o deadline fuel k).Each QuietStep := by
  induction fuel generalizing k with
  | zero =>
      refine each_bind ?_ fun _ => each_pure
      exact fun s hready => absurd hready Bool.false_ne_true
  | succ fuel ih =>
      refine each_bind (quiet_activeFlows o k) fun flows => ?_
      split
      · exact ih (k + 1)
      · exact each_pure

/-- **Every request but `Enable` and `Drain` is quiet.** -/
lemma quiet_tryHandle (o : Outcome) {r : Request} (hr : ∀ modules, r ≠ .enable modules)
    (hr' : ∀ timeoutS, r ≠ .drain timeoutS) : (tryHandle o r).Each QuietStep := by
  cases r with
  | enable modules => exact absurd rfl (hr modules)
  | drain timeoutS => exact absurd rfl (hr' timeoutS)
  | validate =>
      exact each_bind quiet_validateConfig fun _ => each_bind (quiet_gets _) fun _ => each_ofExcept
  | disableModule module =>
      exact each_bind (quiet_editConfig fun _ => rfl) fun _ => quiet_updateConfig o
  | status => exact each_pure
  | flows => exact each_pure
  | shutdown => exact each_pure
  | snapshot => exact each_ofExcept
  | setRackRto rackRto =>
      refine each_bind (quiet_gets _) fun previous => ?_
      refine each_bind (quiet_editConfig fun _ => rfl) fun _ => ?_
      refine each_bind (quiet_validateOr fun _ => rfl) fun _ => ?_
      exact each_bind (quiet_editConfig fun _ => rfl) fun _ => quiet_setRtoTuning o
  | resetRackRto =>
      refine each_bind (quiet_gets _) fun defaults => ?_
      exact each_bind (quiet_editConfig fun _ => rfl) fun _ => quiet_setRtoTuning o
  | setModuleConfig tuning =>
      refine each_bind (quiet_gets _) fun previous => ?_
      refine each_bind (quiet_editConfig fun _ => rfl) fun _ => ?_
      refine each_bind (quiet_validateOr fun _ => rfl) fun _ => ?_
      exact each_bind (quiet_editConfig fun _ => rfl) fun _ => quiet_updateConfig o
  | resetModuleConfig =>
      refine each_bind (quiet_gets _) fun defaults => ?_
      refine each_bind (quiet_editConfig fun _ => rfl) fun _ => ?_
      refine each_bind quiet_validateConfig fun _ => ?_
      exact each_bind (quiet_editConfig fun _ => rfl) fun _ => quiet_updateConfig o
  | setRetransmitDscp dscp =>
      refine each_bind (quiet_gets _) fun previous => ?_
      refine each_bind (quiet_editConfig fun _ => rfl) fun _ => ?_
      exact each_bind (quiet_validateOr fun _ => rfl) fun _ => quiet_applyRetransmitDscp o
  | resetRetransmitDscp =>
      refine each_bind (quiet_gets _) fun defaults => ?_
      exact each_bind (quiet_editConfig fun _ => rfl) fun _ => quiet_applyRetransmitDscp o
  | setRedundancy redundancy =>
      refine each_bind (quiet_gets _) fun previous => ?_
      refine each_bind (quiet_editConfig fun _ => rfl) fun _ => ?_
      refine each_bind (quiet_validateOr fun _ => rfl) fun _ => ?_
      refine each_bind (each_attempt (quiet_applyRedundancy o)) fun applied => ?_
      cases applied with
      | ok u => exact each_pure
      | error e => exact each_bind (quiet_editConfig fun _ => rfl) fun _ => each_fail
  | resetRedundancy =>
      refine each_bind (quiet_gets _) fun defaults => ?_
      exact each_bind (quiet_editConfig fun _ => rfl) fun _ => quiet_applyRedundancy o

end SkylineSpeeder.Speederd
