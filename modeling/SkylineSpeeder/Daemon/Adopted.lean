import SkylineSpeeder.Cc.Frame
import SkylineSpeeder.Daemon.Valid

/-!
From a request to a connection: the daemon's calls, the words of the maps they are published
through, and the connections that adopt from these, all interleaved.

The publications that the daemon asks for are begun at any time after it asked, and may fail
or be overtaken by a newly loaded object; the connections copy word by word meanwhile, and
their callbacks run on what they have copied.

* `Callback.reading`, `exec_keptOrRead`: a callback keeps the configuration there was or adopts
  the one it has read;
* `Whole`, `Whole.step`: the daemon and one object with its connections;
* `serve_extends`: the journal of the daemon only grows;
* `Traced`: every configuration under way, published or adopted was asked for;
* `flows_run_valid`: no connection ever runs on anything but a whole configuration that the
  daemon had validated.
-/

namespace Machine.DoubleBuffer

variable {S W V ι : Type*} {n : ℕ} [DecidableEq ι] [Inhabited W] {N : Numbering S}
  {enc : V → Fin n → W}

/-- What the writer copies it had begun, and what is published it had copied. -/
lemma step_origin {y y' : Sys S W V ι n} {e : Event V ι} (h : step N enc y e = some y') :
    (∀ v k, y'.writer = .copying v k → e = .begin v ∨ ∃ k', y.writer = .copying v k') ∧
      ∀ v ∈ y'.log, v ∈ y.log ∨ ∃ k, y.writer = .copying v k := by
  cases moves_of_step h with
  | begin v hw =>
      refine ⟨fun v' k' hv => .inl ?_, fun v hv => .inl hv⟩
      cases hv
      rfl
  | word v k hw hk =>
      refine ⟨fun v' k' hv => .inr ⟨k, ?_⟩, fun v hv => .inl hv⟩
      cases hv
      exact hw
  | fail v k hw =>
      refine ⟨fun v' k' hv => ?_, fun v hv => .inl hv⟩
      cases hv
  | publish v hw =>
      constructor
      · intro v' k' hv
        cases hv
      · intro v' hv
        rcases List.mem_cons.mp hv with rfl | hv
        · exact .inr ⟨n, hw⟩
        · exact .inl hv
  | start i hr => exact ⟨fun v k hv => .inr ⟨k, hv⟩, fun v hv => .inl hv⟩
  | fetch i s copy k began hr hk => exact ⟨fun v k hv => .inr ⟨k, hv⟩, fun v hv => .inl hv⟩
  | stop i => exact ⟨fun v k hv => .inr ⟨k, hv⟩, fun v hv => .inl hv⟩

end Machine.DoubleBuffer

namespace SkylineSpeeder

/-! ### What a callback reads -/

/-- A callback that reads this of the maps, if it reads them. -/
def Callback.reading (read : ConfigRead) : Callback → Callback
  | .init allocated _ nowNs => .init allocated read nowNs
  | .congControl allocated input => .congControl allocated { input with read := read }
  | callback => callback

/-- The flow's other fields do not matter for what it adopts. -/
lemma adoptConfig_config {flow flow' : FlowState} {read : ConfigRead}
    (h : (skylineAdoptConfig flow read).2 = true) :
    (skylineAdoptConfig flow read).1.config = (skylineAdoptConfig flow' read).1.config := by
  obtain ⟨seq, copy, hread, -, hflow⟩ := adoptConfig_true h
  obtain ⟨seq', copy', hread', -, hflow'⟩ :=
    adoptConfig_true ((adoptConfig_snd flow flow' read).symm.trans h)
  obtain ⟨-, hcopy, -⟩ := (ConfigRead.mk.injEq ..).mp (hread.symm.trans hread')
  obtain rfl := Option.some.inj hcopy
  rw [hflow, hflow']

/-- The configuration is the one there was, or the one that was read. -/
def KeptOrRead (flow : FlowState) (read : ConfigRead) (after : FlowState) : Prop :=
  after.config = flow.config ∨ (skylineAdoptConfig flow read).2 = true ∧
    after.config = (skylineAdoptConfig flow read).1.config

lemma init_keptOrRead (sk : TcpSock) (flow : FlowState) (allocated : Bool) (read : ConfigRead)
    (nowNs : UInt64) :
    KeptOrRead flow read (skylineInit ⟨sk, some flow⟩ allocated read nowNs).1.flow := by
  have heff := initEffect ⟨sk, some flow⟩ allocated read nowNs
  generalize (skylineInit ⟨sk, some flow⟩ allocated read nowNs).1 = s' at heff ⊢
  cases heff with
  | unallocated hs => exact .inl rfl
  | refused hget hread => exact .inl rfl
  | adopted flow' sk' hget hread hflow hsk =>
      refine .inr ⟨(adoptConfig_snd _ _ read).trans hread, ?_⟩
      rw [hflow]
      exact adoptConfig_config hread

lemma congControl_keptOrRead (K : Kernel) (sk : TcpSock) (flow : FlowState) (allocated : Bool)
    (input : AckInput) :
    KeptOrRead flow input.read (skylineCongControl K ⟨sk, some flow⟩ allocated input).1.flow := by
  have heff := congControlEffect K ⟨sk, some flow⟩ allocated input
  generalize (skylineCongControl K ⟨sk, some flow⟩ allocated input).1 = s' at heff ⊢
  cases heff with
  | unallocated hs => exact .inl rfl
  | refused hno hread => exact .inl rfl
  | ran flow' reports hget hadopt =>
      have hconfig := congrArg FlowConfig.config (congControlRun_config K sk flow' input)
      rw [KeptOrRead, SockState.flow_some, hconfig]
      cases hadopt with
      | first hno hread => exact .inr ⟨hread, rfl⟩
      | kept hhas hwhy => exact .inl rfl
      | switched _ hhas hround hseq hread => exact .inr ⟨hread, rfl⟩

/-- **The configuration after a callback** is the one there was, or the one it has read. -/
lemma exec_keptOrRead (K : Kernel) (sk : TcpSock) (flow : FlowState) (read : ConfigRead)
    (callback : Callback) :
    KeptOrRead flow read ((callback.reading read).exec K ⟨sk, some flow⟩).state.flow := by
  have hquiet : ∀ c : Callback, c.Quiet →
      KeptOrRead flow read (c.exec K ⟨sk, some flow⟩).state.flow :=
    fun c hq => .inl (quietEffect K hq ⟨sk, some flow⟩).config
  cases callback with
  | init allocated _ nowNs => exact init_keptOrRead _ flow allocated read nowNs
  | congControl allocated input => exact congControl_keptOrRead K _ flow allocated _
  | ssthresh allocated => exact hquiet (.ssthresh allocated) trivial
  | undoCwnd allocated => exact hquiet (.undoCwnd allocated) trivial
  | setState allocated new => exact hquiet (.setState allocated new) trivial
  | cwndEvent txStart allocated nowNs => exact hquiet (.cwndEvent txStart allocated nowNs) trivial
  | cwndEventTxStart allocated nowNs => exact hquiet (.cwndEventTxStart allocated nowNs) trivial
  | release => exact hquiet .release trivial

end SkylineSpeeder

namespace SkylineSpeeder.Speederd

open Machine Machine.DoubleBuffer

/-! ### The journal -/

section Journal

variable {o : Outcome} {s t : Sys} {q : Except DaemonError Unit}

/-- Two entries around what a request noted. -/
lemma extends_between {r : Request} {journal : List Event}
    (h : Extends (fun _ => True) (.received r :: s.journal) journal) (ok : Bool) :
    Extends (fun _ => True) s.journal (.returned r ok :: journal) := by
  have hreceived : Extends (fun _ => True) s.journal (.received r :: s.journal) :=
    (Extends.refl _ _).cons trivial
  exact (hreceived.trans h).cons trivial

lemma settled_extends {r : Request} (heff : Settled o s r q t) :
    Extends (fun _ => True) s.journal t.journal := by
  cases heff with
  | idle => exact extends_between (.refl _ _) true
  | refused e => exact extends_between (.refl _ _) false
  | @pushed config target t₁ hedit hrun =>
      exact extends_between ((push_effect o target _ _ _ hrun).journal.mono fun _ _ => trivial) true
  | @pushFailed config target e t₁ hedit hrun =>
      exact extends_between
        ((push_effect o target _ _ _ hrun).journal.mono fun _ _ => trivial) false

lemma enable_extends {modules : Option (List Module)} (heff : EnableEffect o s modules q t) :
    Extends (fun _ => True) s.journal t.journal := by
  cases heff with
  | refused hpub hvalid =>
      exact extends_between (hpub.journal.mono fun _ _ => trivial) false
  | notDefault hpub hvalid _ hdaemon hjournal =>
      rw [hjournal]
      exact extends_between ((hpub.journal.mono fun _ _ => trivial).cons trivial) false
  | enabled hpub hvalid _ hdaemon hjournal hnew =>
      rw [hjournal]
      exact extends_between (((hpub.journal.mono fun _ _ => trivial).cons trivial).trans
        (hnew.mono fun _ _ => trivial)) true

lemma drain_extends {timeoutS : UInt64} (heff : DrainEffect o s timeoutS q t) :
    Extends (fun _ => True) s.journal t.journal := by
  cases heff with
  | notHanded _ hdaemon hjournal =>
      rw [hjournal]
      exact extends_between ((Extends.refl _ _).cons trivial) false
  | policyFailed _ _ _ _ hdaemon hjournal =>
      rw [hjournal]
      exact extends_between ((Extends.refl _ _).cons trivial) false
  | stopped hstopped ok =>
      have hwrite : Extends (fun _ => True) (.received (.drain timeoutS) :: s.journal)
          (.setDefault .drain s.daemon.config.fallbackCc true ::
            .received (.drain timeoutS) :: s.journal) := (Extends.refl _ _).cons trivial
      exact extends_between (hwrite.trans (hstopped.journal.mono fun _ _ => trivial)) ok

/-- **The journal only grows.** -/
lemma serve_extends {call : Call × Outcome} (hserve : serve s call = some t) :
    Extends (fun _ => True) s.journal t.journal := by
  obtain ⟨call, o⟩ := call
  cases serve_cases hserve with
  | idle => exact .refl _ _
  | policyLoaded _ => exact .refl _ _
  | tcLoaded _ _ => exact .refl _ _
  | settled _ heff => exact settled_extends heff
  | enabled heff => exact enable_extends heff
  | drained heff => exact drain_extends heff

end Journal

/-! ### The daemon and the connections -/

/-- The daemon, and the object that is loaded with the connections it serves. -/
structure Whole (ι : Type*) where
  sys : Sys
  maps : PublishSys ι

/-- What happens: a call of the daemon; an object that is loaded anew; the publication that
entry `k` of the journal asks for begins; another write of it; a connection begins to copy the
maps or copies a word; or a callback of a connection ends, on what was copied for it. -/
inductive WholeEvent (ι : Type*) where
  | call (call : Call × Outcome)
  | load
  | publish (k : ℕ)
  | slotWord
  | mapUpdateFails
  | seqWrite
  | adoptBegin (i : ι)
  | adoptWord (i : ι)
  | callback (i : ι) (kernel : Kernel) (sk : TcpSock) (callback : Callback)

section Whole

variable {ι : Type*} [DecidableEq ι]

namespace Whole

/-- A connection that has adopted nothing yet. -/
def unconfigured : ι → FlowState := fun _ => FlowState.zero

def boot (config : SkylineConfig) (capabilities : CapabilityReport) (congestionControl : String) :
    Whole ι :=
  ⟨.boot config capabilities congestionControl, publishInit unconfigured⟩

/-- A step of the maps. -/
def accessMaps (w : Whole ι) (event : PublishEvent ι) : Option (Whole ι) :=
  (publishStep w.maps event).map fun maps => { w with maps := maps }

/-- What the callback under way on a connection reads: its copy, or lookups that fail. -/
def readOf (w : Whole ι) (i : ι) : ConfigRead := (w.maps.read i).getD ⟨none, none, 0⟩

/-- A callback on a connection, and the end of its copying if it was copying. -/
def runCallback (w : Whole ι) (i : ι) (kernel : Kernel) (sk : TcpSock) (callback : Callback) :
    Option (Whole ι) :=
  let out := (callback.reading (w.readOf i)).exec kernel ⟨sk, some (w.maps.flow i)⟩
  let maps := { w.maps with flow := Function.update w.maps.flow i out.state.flow }
  match w.maps.buffer.readers i with
  | .idle => some { w with maps := maps }
  | .copying .. => (maps.access (.stop i)).map fun maps => { w with maps := maps }

def step (w : Whole ι) : WholeEvent ι → Option (Whole ι)
  | .call call => (serve w.sys call).map fun sys => { w with sys := sys }
  | .load => some { w with maps := publishInit unconfigured }
  | .publish k =>
      match w.sys.journal[k]? with
      | some (.updateConfigMaps config _) => w.accessMaps (.updateConfigMaps config.kernelConfig)
      | _ => none
  | .slotWord => w.accessMaps .slotWord
  | .mapUpdateFails => w.accessMaps .mapUpdateFails
  | .seqWrite => w.accessMaps .seqWrite
  | .adoptBegin i => w.accessMaps (.adoptBegin i)
  | .adoptWord i => w.accessMaps (.adoptWord i)
  | .callback i kernel sk callback => w.runCallback i kernel sk callback

/-- Fewer than `2^32` publications complete during a copy. -/
def Usual (w : Whole ι) : WholeEvent ι → Prop
  | .callback i _ _ _ => ∀ seq copy k began,
      w.maps.buffer.readers i = .copying seq copy k began →
        w.maps.published.length - began < 2 ^ 32
  | _ => True

end Whole

/-- The daemon asked for this configuration. -/
def Asked (journal : List Event) (kc : KernelConfig) : Prop :=
  ∃ config seq, .updateConfigMaps config seq ∈ journal ∧ kc = config.kernelConfig

lemma Asked.mono {P : Event → Prop} {old new : List Event} {kc : KernelConfig}
    (h : Asked old kc) (hnew : Extends P old new) : Asked new kc := by
  obtain ⟨config, seq, hmem, rfl⟩ := h
  obtain ⟨added, rfl, -⟩ := hnew
  exact ⟨config, seq, List.mem_append_right added hmem, rfl⟩

/-- Everything under way, published or adopted was asked for. -/
structure Traced (journal : List Event) (y : PublishSys ι) : Prop where
  inv : PublishInv y
  writing : ∀ kc k, y.buffer.writer = .copying kc k → Asked journal kc
  published : ∀ kc ∈ y.published, Asked journal kc
  flows : ∀ i, (y.flow i).config = .zero ∨ Asked journal (y.flow i).config

omit [DecidableEq ι] in
/-- An adoption that succeeds takes what was published last. -/
lemma adopted_published {y : PublishSys ι} (hinv : PublishInv y) {i : ι} {read : ConfigRead}
    (hread : y.read i = some read) (hfew : ∀ seq copy k began,
      y.buffer.readers i = .copying seq copy k began → y.published.length - began < 2 ^ 32)
    {flow : FlowState} (hok : (skylineAdoptConfig flow read).2 = true) :
    (skylineAdoptConfig flow read).1.config ∈ y.published := by
  obtain ⟨seq, config, rfl, habi, hflow⟩ := adoptConfig_true hok
  cases hr : y.buffer.readers i with
  | idle =>
      rw [PublishSys.read, hr] at hread
      cases hread
  | copying number copy k began =>
      rw [PublishSys.read, hr] at hread
      by_cases hk : k = 20
      · subst hk
        simp only [if_true, Option.some.injEq, ConfigRead.mk.injEq] at hread
        obtain ⟨rfl, rfl, hagain⟩ := hread
        obtain ⟨-, hcopy⟩ := copy_whole hinv hr hagain (hfew _ _ _ _ hr)
        obtain ⟨published, hhead, hpublished⟩ := named_abi hcopy habi
        rw [hflow]
        exact hpublished ▸ List.mem_of_mem_head? hhead
      · simp [hk] at hread

variable {journal : List Event}

/-- **One access** to the maps keeps every configuration traced: what they hold comes from
what they held, or was begun just now. -/
lemma Traced.access {y y' : PublishSys ι} {e : DoubleBuffer.Event KernelConfig ι}
    (h : Traced journal y) (hask : ∀ kc, e = .begin kc → Asked journal kc)
    (hstep : y.access e = some y') : Traced journal y' := by
  obtain ⟨buffer, hbuffer, rfl⟩ := Option.map_eq_some_iff.mp hstep
  obtain ⟨hwriter, hlog⟩ := step_origin hbuffer
  refine ⟨DoubleBuffer.step_inv h.inv hbuffer, fun kc k hcopying => ?_, fun kc hkc => ?_, h.flows⟩
  · rcases hwriter kc k hcopying with rfl | ⟨k', hwas⟩
    · exact hask kc rfl
    · exact h.writing kc k' hwas
  · rcases hlog kc hkc with hwas | ⟨k, hwas⟩
    · exact h.published kc hwas
    · exact h.writing kc k hwas

/-- **One callback** of a connection: it keeps the configuration there was, or adopts what it
has copied, which was published and so asked for. -/
lemma Traced.callback {y : PublishSys ι} (h : Traced journal y) (i : ι) (kernel : Kernel)
    (sk : TcpSock) (callback : Callback) (hfew : ∀ seq copy k began,
      y.buffer.readers i = .copying seq copy k began → y.published.length - began < 2 ^ 32) :
    let read := (y.read i).getD ⟨none, none, 0⟩
    let after := ((callback.reading read).exec kernel ⟨sk, some (y.flow i)⟩).state.flow
    Traced journal { y with flow := Function.update y.flow i after } := by
  intro read after
  have hafter : after.config = .zero ∨ Asked journal after.config := by
    rcases exec_keptOrRead kernel sk (y.flow i) read callback with hkept | ⟨hok, hadopted⟩
    · have hsame : after.config = (y.flow i).config := hkept
      rw [hsame]
      exact h.flows i
    · have htaken : after.config = (skylineAdoptConfig (y.flow i) read).1.config := hadopted
      rw [htaken]
      cases hread : y.read i with
      | none =>
          -- lookups that fail adopt nothing
          have hnone : read = ⟨none, none, 0⟩ := congrArg (·.getD ⟨none, none, 0⟩) hread
          rw [hnone] at hok
          cases hok
      | some copied =>
          have hcopied : read = copied := congrArg (·.getD ⟨none, none, 0⟩) hread
          rw [hcopied] at hok ⊢
          exact .inr (h.published _ (adopted_published h.inv hread hfew hok))
  refine ⟨h.inv, h.writing, h.published, fun j => ?_⟩
  show (Function.update y.flow i after j).config = .zero ∨
    Asked journal (Function.update y.flow i after j).config
  by_cases hj : j = i
  · subst hj
    rw [Function.update_self]
    exact hafter
  · rw [Function.update_of_ne hj]
    exact h.flows j

omit [DecidableEq ι] in
lemma Traced.mono {P : Event → Prop} {new : List Event} {y : PublishSys ι} (h : Traced journal y)
    (hnew : Extends P journal new) : Traced new y :=
  ⟨h.inv, fun kc k hkc => (h.writing kc k hkc).mono hnew,
    fun kc hkc => (h.published kc hkc).mono hnew, fun i => (h.flows i).imp_right (·.mono hnew)⟩

omit [DecidableEq ι] in
lemma traced_init (journal : List Event) :
    Traced journal (publishInit Whole.unconfigured : PublishSys ι) where
  inv := publishInit_inv _
  writing := nofun
  published := nofun
  flows := fun _ => .inl rfl

/-- The daemon's configurations are valid, and all others come from it. -/
structure Whole.Sound (w : Whole ι) : Prop where
  sys : Speederd.Sound w.sys
  traced : Traced w.sys.journal w.maps

/-- **One step** of the daemon, of the maps or of a connection. -/
lemma Whole.Sound.step {w w' : Whole ι} {event : WholeEvent ι} (h : w.Sound)
    (husual : w.Usual event) (hstep : w.step event = some w') : w'.Sound := by
  have haccess : ∀ {e : DoubleBuffer.Event KernelConfig ι},
      (w.maps.access e).map (fun maps => { w with maps := maps }) = some w' →
        (∀ kc, e = .begin kc → Asked w.sys.journal kc) → w'.Sound := by
    intro e he hask
    obtain ⟨maps, hmaps, rfl⟩ := Option.map_eq_some_iff.mp he
    exact ⟨h.sys, h.traced.access hask hmaps⟩
  cases event with
  | call call =>
      obtain ⟨sys, hserve, rfl⟩ := Option.map_eq_some_iff.mp hstep
      exact ⟨serve_sound h.sys hserve, h.traced.mono (serve_extends hserve)⟩
  | load =>
      obtain rfl := Option.some.inj hstep
      exact ⟨h.sys, traced_init _⟩
  | publish k =>
      simp only [Whole.step] at hstep
      split at hstep
      · rename_i config seq hentry
        refine haccess hstep fun kc heq => ⟨config, seq, List.mem_of_getElem? hentry, ?_⟩
        exact (DoubleBuffer.Event.begin.inj heq).symm
      · cases hstep
  | slotWord => exact haccess hstep nofun
  | mapUpdateFails => exact haccess hstep nofun
  | seqWrite => exact haccess hstep nofun
  | adoptBegin i => exact haccess hstep nofun
  | adoptWord i => exact haccess hstep nofun
  | callback i kernel sk callback =>
      have hran := h.traced.callback i kernel sk callback husual
      cases hreader : w.maps.buffer.readers i with
      | idle =>
          simp only [Whole.step, Whole.runCallback, hreader, Option.some.injEq] at hstep
          rw [← hstep]
          exact ⟨h.sys, hran⟩
      | copying seq copy k began =>
          -- the callback ends the copying it ran on
          simp only [Whole.step, Whole.runCallback, hreader] at hstep
          obtain ⟨maps, hmaps, rfl⟩ := Option.map_eq_some_iff.mp hstep
          exact ⟨h.sys, hran.access (e := .stop i) nofun hmaps⟩

/-- **No connection runs on anything but a validated configuration.**  Take a daemon booted
from a file that passes `validate`, any calls of it with any operations failing, and any
interleaving with the words of the publications it asks for, with the connections that copy
them and with every callback these run on what they have copied: each connection has no
configuration yet, or runs on the whole of one that the daemon asked to publish and that is
as the BPF side takes it to be. -/
theorem flows_run_valid {config : SkylineConfig} (hvalid : config.validate = .ok ())
    (capabilities : CapabilityReport) (congestionControl : String)
    (events : List (WholeEvent ι)) (w : Whole ι)
    (hrun : run? Whole.step (.boot config capabilities congestionControl) events = some w)
    (husual : Along? Whole.step Whole.Usual (.boot config capabilities congestionControl) events)
    (i : ι) :
    (w.maps.flow i).config = .zero ∨ ∃ asked seq, .updateConfigMaps asked seq ∈ w.sys.journal ∧
      asked.Publishable ∧ (w.maps.flow i).config = asked.kernelConfig := by
  have hboot : (Whole.boot config capabilities congestionControl : Whole ι).Sound :=
    ⟨boot_sound ((SkylineConfig.validate_eq_ok_iff config).mp hvalid) capabilities
      congestionControl, traced_init _⟩
  have hsound := along?_invariant (fun _ _ _ hs hu hstep => Whole.Sound.step hs hu hstep) events
    _ _ hboot husual hrun
  refine (hsound.traced.flows i).imp_right ?_
  rintro ⟨asked, seq, hmem, heq⟩
  have hask : asked.Valid := hsound.sys.journal _ hmem
  exact ⟨asked, seq, hmem, SkylineConfig.publishable_of_validate hask, heq⟩

/-- Whether a step is a usual one can be evaluated. -/
instance (w : Whole ι) (event : WholeEvent ι) : Decidable (w.Usual event) :=
  match event with
  | .callback i _ _ _ =>
      match h : w.maps.buffer.readers i with
      | .idle => isTrue fun _ _ _ _ heq => by rw [h] at heq; cases heq
      | .copying _ _ _ began =>
          decidable_of_iff (w.maps.published.length - began < 2 ^ 32)
            ⟨fun hfew _ _ _ _ heq => by rw [h] at heq; cases heq; exact hfew,
              fun hfew => hfew _ _ _ _ h⟩
  | .call _ | .load | .publish _ | .slotWord | .mapUpdateFails | .seqWrite | .adoptBegin _
  | .adoptWord _ => isTrue trivial

end Whole

/-- An `ssctl enable`, its publication, and a connection that copies it, starts on it and then
cuts its window. -/
def enableAndAdopt : List (WholeEvent Unit) :=
  [.call (.request (.enable none), .allWell), .load, .publish 3] ++
    List.replicate 20 .slotWord ++ [.seqWrite, .adoptBegin ()] ++
    List.replicate 20 (.adoptWord ()) ++
    [.callback () .linux TcpSock.established (.init true ⟨none, none, 0⟩ 1000),
      .callback () .linux TcpSock.established (.ssthresh true)]

theorem flows_run_valid_enable :
    ∃ w, run? Whole.step (.boot .speeder .full "cubic") enableAndAdopt = some w ∧
      ∃ asked seq, .updateConfigMaps asked seq ∈ w.sys.journal ∧ asked.Publishable ∧
        (w.maps.flow ()).config = asked.kernelConfig := by
  have hends : (run? Whole.step (.boot .speeder .full "cubic") enableAndAdopt).any (fun w =>
      (w.maps.flow ()).config ≠ .zero) = true := by decide +kernel
  obtain ⟨w, hrun, hadopted⟩ := (Option.any_eq_true _ _).mp hends
  have husual : Along? Whole.step Whole.Usual (.boot .speeder .full "cubic") enableAndAdopt := by
    decide +kernel
  have hvalid : SkylineConfig.speeder.validate = .ok () := by decide +kernel
  exact ⟨w, hrun,
    (flows_run_valid hvalid .full "cubic" enableAndAdopt w hrun husual ()).resolve_left
      (by simpa using hadopted)⟩

end SkylineSpeeder.Speederd
