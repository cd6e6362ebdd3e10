import SkylineSpeeder.Machine.DoubleBuffer
import SkylineSpeeder.Cc.Model

/-!
Publishing a configuration to running connections: `update_config_maps` of
`skyline-speederd` on one side, `skyline_adopt_config` of `bpf/skyline_cc.bpf.c` on
the other, interleaved at the granularity of single 32-bit words.

* `seqNumbering`: the `u32` sequence number, `seq & 1` naming the slot and
  `wrapping_add(1)` the next number, across the wrap;
* `PublishSys`, `publishStep`: the daemon's publications and any number of
  connections that adopt, over the double buffer of `Machine.DoubleBuffer`;
* `publish_run_inv`, `publish_run_mid`: the buffer's invariant, and what a call
  under way keeps, over every interleaving;
* `adoptConfig_torn_free`: a successful one yields a published configuration,
  whole, the one the number named.
-/

namespace SkylineSpeeder

open Machine Machine.DoubleBuffer

/-! ### The sequence number -/

/-- The slot index `seq & 1`, as the side of the buffer. -/
def seqSide (seq : UInt32) : Bool := seq &&& 1 == 1

lemma seqSide_eq (seq : UInt32) : seqSide seq = decide (seq.toNat % 2 = 1) := by
  have h : seq &&& 1 = 1 ↔ seq.toNat % 2 = 1 := by
    rw [← UInt32.toNat_inj, UInt32.toNat_and, UInt32.toNat_one, Nat.and_one_is_mod]
  rw [seqSide, beq_eq_decide]
  exact decide_eq_decide.mpr h

/-- `k` publications later the number is `k` larger, modulo `2^32`. -/
lemma seq_iterate_toNat (seq : UInt32) (k : ℕ) :
    ((· + 1)^[k] seq).toNat = (seq.toNat + k) % 2 ^ 32 := by
  induction k with
  | zero =>
      have := seq.toNat_lt
      simp only [Function.iterate_zero, id_eq, Nat.add_zero]
      omega
  | succ k ih =>
      rw [Function.iterate_succ_apply', UInt32.toNat_add, ih, UInt32.toNat_one]
      omega

/-- Two publications in a row take the two slots in turn, also at the wrap: the
modulus is even. -/
lemma seqSide_add_one (seq : UInt32) : seqSide (seq + 1) = !seqSide seq := by
  rw [seqSide_eq, seqSide_eq, UInt32.toNat_add, UInt32.toNat_one, ← decide_not]
  exact decide_eq_decide.mpr (by omega)

/-- The numbers of `config_seq`. -/
def seqNumbering : DoubleBuffer.Numbering UInt32 where
  next := (· + 1)
  side := seqSide
  period := 2 ^ 32
  side_next := seqSide_add_one
  next_iterate_ne := by
    intro s k hpos hlt h
    have hn := congrArg UInt32.toNat h
    rw [seq_iterate_toNat] at hn
    have := s.toNat_lt
    omega

/-! ### The daemon and the connections -/

/-- The `config_slots` and `config_seq` maps with the daemon that writes them and
the connections `ι` that adopt from them. -/
structure PublishSys (ι : Type*) where
  buffer : Sys UInt32 UInt32 KernelConfig ι 20
  flow : ι → FlowState

/-- One atomic access.  `updateConfigMaps` begins a publication, of number
`config_seq + 1`; the map writes follow word by word, and `mapUpdateFails` is
either of them failing.  `lookupFails` is an adoption that finds a map missing,
and `elsewhere` is whatever else the callbacks of a connection do to its state
between two adoptions. -/
inductive PublishEvent (ι : Type*) where
  | updateConfigMaps (config : KernelConfig)
  | slotWord
  | mapUpdateFails
  | seqWrite
  | adoptBegin (i : ι)
  | adoptWord (i : ι)
  | adoptEnd (i : ι)
  | lookupFails (i : ι)
  | elsewhere (i : ι) (flow : FlowState)

/-- A freshly loaded object: both slots and `config_seq` zero. -/
def publishInit {ι : Type*} (flow₀ : ι → FlowState) : PublishSys ι where
  buffer := DoubleBuffer.init (fun _ => KernelConfig.zero.toWords) 0
  flow := flow₀

section Adopt

variable {ι : Type*} [DecidableEq ι]

/-- What an adoption that has copied all its words reads, the second read of
`config_seq` included. -/
def PublishSys.read (y : PublishSys ι) (i : ι) : Option ConfigRead :=
  match y.buffer.readers i with
  | .idle => none
  | .copying seq copy k _ =>
      if k = 20 then some ⟨some seq, some (KernelConfig.ofWords copy), y.buffer.seq⟩ else none

/-- An access to the maps, which leaves the connections' states alone. -/
def PublishSys.access (y : PublishSys ι) (e : Event KernelConfig ι) : Option (PublishSys ι) :=
  (DoubleBuffer.step seqNumbering KernelConfig.toWords y.buffer e).map
    fun buffer => { y with buffer := buffer }

/-- One step of the daemon or of one connection. -/
def publishStep (y : PublishSys ι) : PublishEvent ι → Option (PublishSys ι)
  | .updateConfigMaps config => y.access (.begin config)
  | .slotWord => y.access .word
  | .mapUpdateFails => y.access .fail
  | .seqWrite => y.access .publish
  | .adoptBegin i => y.access (.start i)
  | .adoptWord i => y.access (.fetch i)
  | .adoptEnd i =>
      (y.read i).bind fun read =>
        { y with
          flow := Function.update y.flow i (skylineAdoptConfig (y.flow i) read).1 }.access (.stop i)
  | .lookupFails i =>
      { y with
        flow := Function.update y.flow i
          (skylineAdoptConfig (y.flow i) ⟨none, none, 0⟩).1 }.access (.stop i)
  | .elsewhere i flow => some { y with flow := Function.update y.flow i flow }

/-- The event neither begins nor ends an adoption of connection `i`. -/
def PublishEvent.Keeps (i : ι) : PublishEvent ι → Prop
  | .adoptBegin j => j ≠ i
  | .adoptEnd j => j ≠ i
  | .lookupFails j => j ≠ i
  | _ => True

/-- The configurations whose `config_seq` write succeeded, newest first. -/
def PublishSys.published (y : PublishSys ι) : List KernelConfig := y.buffer.log

/-! ### The two layers -/

/-- Every step is a step of the double buffer, or leaves the maps and the calls
under way alone; one that keeps a call keeps it there. -/
lemma publishStep_buffer {y y' : PublishSys ι} {e : PublishEvent ι}
    (h : publishStep y e = some y') :
    y'.buffer = y.buffer ∨ ∃ e', (∀ i, e.Keeps i → e'.Keeps i) ∧
      DoubleBuffer.step seqNumbering KernelConfig.toWords y.buffer e' = some y'.buffer := by
  have haccess : ∀ {z : PublishSys ι} {e' : Event KernelConfig ι}, z.access e' = some y' →
      z.buffer = y.buffer →
      DoubleBuffer.step seqNumbering KernelConfig.toWords y.buffer e' = some y'.buffer := by
    intro z e' hz' hz
    obtain ⟨b, hb, rfl⟩ := Option.map_eq_some_iff.mp hz'
    rw [← hz]
    exact hb
  cases e with
  | updateConfigMaps config => exact .inr ⟨.begin config, fun _ _ => trivial, haccess h rfl⟩
  | slotWord => exact .inr ⟨.word, fun _ _ => trivial, haccess h rfl⟩
  | mapUpdateFails => exact .inr ⟨.fail, fun _ _ => trivial, haccess h rfl⟩
  | seqWrite => exact .inr ⟨.publish, fun _ _ => trivial, haccess h rfl⟩
  | adoptBegin j => exact .inr ⟨.start j, fun _ hk => hk, haccess h rfl⟩
  | adoptWord j => exact .inr ⟨.fetch j, fun _ _ => trivial, haccess h rfl⟩
  | adoptEnd j =>
      obtain ⟨read, -, hread⟩ := Option.bind_eq_some_iff.mp h
      exact .inr ⟨.stop j, fun _ hk => hk, haccess hread rfl⟩
  | lookupFails j => exact .inr ⟨.stop j, fun _ hk => hk, haccess h rfl⟩
  | elsewhere j flow =>
      obtain rfl := Option.some.inj h
      exact .inl rfl

/-- The invariant of the double buffer at the maps of a loaded object. -/
def PublishInv (y : PublishSys ι) : Prop :=
  Inv seqNumbering KernelConfig.toWords (fun _ => KernelConfig.zero.toWords) 0 y.buffer

lemma publishStep_inv {y y' : PublishSys ι} {e : PublishEvent ι} (hy : PublishInv y)
    (h : publishStep y e = some y') : PublishInv y' := by
  obtain hb | ⟨e', -, hb⟩ := publishStep_buffer h
  · rw [PublishInv, hb]
    exact hy
  · exact DoubleBuffer.step_inv hy hb

/-- The invariant holds over every interleaving of the daemon with any number of
connections. -/
lemma publish_run_inv {es : List (PublishEvent ι)} {y y' : PublishSys ι} (hy : PublishInv y)
    (h : run? publishStep y es = some y') : PublishInv y' :=
  run?_invariant (P := fun _ => True) (fun _ _ _ hs _ hst => publishStep_inv hs hst) es _ _ hy
    (fun _ _ => trivial) h

omit [DecidableEq ι] in
lemma publishInit_inv (flow₀ : ι → FlowState) : PublishInv (publishInit flow₀) :=
  DoubleBuffer.init_inv _ _ _ _

/-- A call under way keeps the number it read and the moment it began. -/
lemma publish_run_mid {es : List (PublishEvent ι)} {y y' : PublishSys ι} {i : ι} {seq : UInt32}
    {began : ℕ} (hk : ∀ e ∈ es, e.Keeps i) (h : run? publishStep y es = some y')
    (hr : ∃ copy k, y.buffer.readers i = .copying seq copy k began) :
    ∃ copy k, y'.buffer.readers i = .copying seq copy k began := by
  refine run?_invariant
    (I := fun z => ∃ copy k, z.buffer.readers i = .copying seq copy k began)
    (fun z e z' hz hke hst => ?_) es y y' hr hk h
  obtain hb | ⟨e', hkeep, hb⟩ := publishStep_buffer hst
  · rw [hb]
    exact hz
  · exact DoubleBuffer.step_mid (hkeep i hke) hb hz

/-! ### Adoption -/

/-- Nothing of another ABI is ever named: an object nobody has published to
offers the zero configuration. -/
lemma named_abi {log : List KernelConfig} {copy : Fin 20 → UInt32}
    (hcopy : copy = named seqNumbering KernelConfig.toWords
      (fun _ => KernelConfig.zero.toWords) 0 log)
    (habi : (KernelConfig.ofWords copy).abiVersion = abiVersion) :
    ∃ config, log.head? = some config ∧ KernelConfig.ofWords copy = config := by
  cases log with
  | nil =>
      exfalso
      rw [hcopy, named, KernelConfig.ofWords_toWords] at habi
      exact absurd habi (by decide)
  | cons config log =>
      refine ⟨config, rfl, ?_⟩
      rw [hcopy, named, KernelConfig.ofWords_toWords]

/-- **Publishing is torn-read free.**  Take any interleaving, word by word, of the
daemon's publications, failed ones included, with the adoptions of any number of
connections, and in it one adoption of connection `i`: it begins after `before`,
`during` runs while it copies, and `read` is what it has read at its end.  If
fewer than `2^32` publications completed meanwhile, a successful adoption leaves
the connection with a configuration whose `config_seq` write succeeded, the one
`config_seq` named at an instant of the copy, under its number; a failed one
leaves its configuration and number as they were. -/
theorem adoptConfig_torn_free (flow₀ : ι → FlowState) (i : ι)
    (before during : List (PublishEvent ι)) (y₀ y₁ : PublishSys ι) (read : ConfigRead)
    (h₀ : run? publishStep (publishInit flow₀) before = some y₀)
    (h₁ : run? publishStep y₀ (.adoptBegin i :: during) = some y₁)
    (hcall : ∀ e ∈ during, e.Keeps i) (hread : y₁.read i = some read)
    (hfew : y₁.published.length - y₀.published.length < 2 ^ 32) :
    let flow := y₁.flow i
    let adopted := skylineAdoptConfig flow read
    (adopted.2 = true → ∃ config ∈ y₁.published, adopted.1.config = config ∧
      ∃ during₁ during₂ y, during = during₁ ++ during₂ ∧
        run? publishStep y₀ (.adoptBegin i :: during₁) = some y ∧
        y.published.head? = some config ∧ y.buffer.seq = adopted.1.configSeq ∧
        adopted.1.configSeq = UInt32.ofNat y.published.length) ∧
    (adopted.2 = false →
      adopted.1.config = flow.config ∧ adopted.1.configSeq = flow.configSeq) := by
  intro flow adopted
  have hinv₀ : PublishInv y₀ := publish_run_inv (publishInit_inv flow₀) h₀
  have hinv₁ : PublishInv y₁ := publish_run_inv hinv₀ h₁
  refine ⟨fun hok => ?_, fun hno => ?_⟩
  · obtain ⟨seq, config, hrd, habi, hflow⟩ := adoptConfig_true hok
    -- the call under way at the end is the one that began at `y₀`
    obtain ⟨u, hu, hrest⟩ := run?_cons_eq_some.mp h₁
    have hstart : ∃ copy k, u.buffer.readers i =
        .copying y₀.buffer.seq copy k y₀.published.length := by
      obtain ⟨b, hb, rfl⟩ := Option.map_eq_some_iff.mp hu
      cases moves_of_step hb with
      | start _ hr => exact ⟨_, _, Function.update_self ..⟩
    obtain ⟨copy, k, hr⟩ := publish_run_mid hcall hrest hstart
    -- what it read is its own copy, complete
    have hk : k = 20 ∧ read =
        ⟨some y₀.buffer.seq, some (KernelConfig.ofWords copy), y₁.buffer.seq⟩ := by
      rw [PublishSys.read, hr] at hread
      by_cases hk : k = 20
      · simp only [hk, if_true, Option.some.injEq] at hread
        exact ⟨hk, hread.symm⟩
      · simp [hk] at hread
    obtain ⟨rfl, hread'⟩ := hk
    rw [hread', ConfigRead.mk.injEq, Option.some.injEq, Option.some.injEq] at hrd
    obtain ⟨hseq₀, hcfg, hseq₁⟩ := hrd
    obtain ⟨-, hcopy⟩ := copy_whole hinv₁ hr (hseq₁.trans hseq₀.symm) hfew
    obtain ⟨published, hhead, hpub⟩ := named_abi hcopy (by rw [hcfg]; exact habi)
    have hconfig : config = published := hcfg.symm.trans hpub
    have hnumber : seq = UInt32.ofNat y₁.published.length := by
      apply UInt32.toNat.inj
      rw [← hseq₁, hinv₁.seq_eq]
      show ((· + 1)^[y₁.buffer.log.length] (0 : UInt32)).toNat = _
      rw [seq_iterate_toNat, UInt32.toNat_ofNat', UInt32.toNat_zero, Nat.zero_add]
      rfl
    have hadopted : adopted.1 = { flow with config := config, configSeq := seq } := hflow
    refine ⟨published, List.mem_of_mem_head? hhead, ?_, during, [], y₁, by simp, h₁, hhead, ?_, ?_⟩
    · rw [hadopted]
      exact hconfig
    · rw [hadopted]
      exact hseq₁
    · rw [hadopted]
      exact hnumber
  · have hflow : adopted.1 = flow := adoptConfig_false hno
    rw [hflow]
    exact ⟨rfl, rfl⟩

end Adopt

/-- A connection that copies the shipped configuration while the daemon is half
way through publishing the next one still ends up with the shipped one. -/
theorem adoptConfig_torn_free_overlapping :
    ∃ (y₁ : PublishSys Unit) (read : ConfigRead),
      y₁.read () = some read ∧ ∃ config ∈ y₁.published,
        (skylineAdoptConfig (y₁.flow ()) read).1.config = config := by
  let before : List (PublishEvent Unit) :=
    .updateConfigMaps .speeder :: List.replicate 20 .slotWord ++ [.seqWrite]
  let during : List (PublishEvent Unit) :=
    List.replicate 7 (.adoptWord ()) ++
      .updateConfigMaps { KernelConfig.speeder with generation := 2 } ::
        List.replicate 5 .slotWord ++ List.replicate 13 (.adoptWord ())
  have hrun : ((run? publishStep (publishInit fun _ => FlowState.zero) before).bind fun y₀ =>
      (run? publishStep y₀ (.adoptBegin () :: during)).bind fun y₁ =>
        if y₁.published.length - y₀.published.length < 2 ^ 32 then y₁.read () else none)
      = some ⟨some 1, some .speeder, 1⟩ := by decide +kernel
  obtain ⟨y₀, h₀, hrun⟩ := Option.bind_eq_some_iff.mp hrun
  obtain ⟨y₁, h₁, hrun⟩ := Option.bind_eq_some_iff.mp hrun
  have hfew : y₁.published.length - y₀.published.length < 2 ^ 32 := by
    by_contra hmany
    rw [if_neg hmany] at hrun
    simp at hrun
  rw [if_pos hfew] at hrun
  have hkeeps : ∀ e ∈ during, e.Keeps () := by simp [during, PublishEvent.Keeps]
  obtain ⟨htrue, -⟩ := adoptConfig_torn_free (fun _ => FlowState.zero) () before during y₀ y₁ _
    h₀ h₁ hkeeps hrun hfew
  obtain ⟨config, hmem, hconfig, -⟩ := htrue rfl
  exact ⟨y₁, _, hrun, config, hmem, hconfig⟩

end SkylineSpeeder
