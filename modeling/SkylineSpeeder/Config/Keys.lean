import SkylineSpeeder.Config.Toml

/-!
`SkylineConfig::from_toml`: a configuration file is refused if it has a key that the
configuration does not have.

* `FileConfig`: the configuration with all of `[runtime]`; `withEveryKey` gives each optional
  key a value and `FileConfig.toTable` writes a configuration out;
* `unknownKeys`, `homeOf`, `fromToml`: the check, over a parameter for the `toml` crate;
* `unknownPaths`: what the check lists, as paths; `unknownKeys_eq`, `mem_unknownPaths` and
  `unknownPaths_nodup` say which ones and that none is listed twice.
-/

namespace SkylineSpeeder

open Toml

/-! ### Writing a configuration out -/

/-- The paths of `[runtime]`. -/
structure RuntimePaths where
  bpfDir : String
  pinDir : Option String
  cgroupPath : String
  socketPath : String
  statePath : String
  eventsPath : String

/-- `SkylineConfig`, with the paths that the rest of the daemon's model leaves out. -/
structure FileConfig extends SkylineConfig where
  paths : RuntimePaths

/-- `with_every_key`. -/
def withEveryKey (config : FileConfig) : FileConfig :=
  { config with
    rackTuning := {
      tcpRecovery := some (config.rackTuning.tcpRecovery.getD 0)
      tcpReordering := some (config.rackTuning.tcpReordering.getD 0)
      tcpEarlyRetrans := some (config.rackTuning.tcpEarlyRetrans.getD 0) }
    runtime := { config.runtime with tcInterface := some (config.runtime.tcInterface.getD "") }
    paths := { config.paths with pinDir := some (config.paths.pinDir.getD "") } }

/-- What a derived `Serialize` writes: every field, in a map; the TOML writer leaves out a
`None`. -/
def written (fields : List (String × Option Value)) : Table :=
  Table.collect (fields.filterMap fun f => f.2.map fun v => (f.1, v))

/-- An unsigned number. -/
def Value.u32 (n : UInt32) : Value := .integer n.toNat

/-- `Module` in kebab case. -/
def Module.name : Module → String
  | .earlyLoss => "early-loss"
  | .adaptiveCwnd => "adaptive-cwnd"
  | .lossClassifier => "loss-classifier"
  | .pacing => "pacing"

def AdaptiveCwndConfig.fields (c : AdaptiveCwndConfig) : List (String × Option Value) :=
  [("min_rtt_window_s", some (Value.u32 c.minRttWindowS)),
    ("bw_window_rtts", some (Value.u32 c.bwWindowRtts)),
    ("startup_plateau_rtts", some (Value.u32 c.startupPlateauRtts)),
    ("startup_growth_ratio", some (.float c.startupGrowthRatio)),
    ("startup_gain", some (.float c.startupGain)),
    ("cruise_inflight_gain", some (.float c.cruiseInflightGain)),
    ("cruise_pacing_gain", some (.float c.cruisePacingGain)),
    ("guardrail_gain", some (.float c.guardrailGain))]

def LossClassifierConfig.fields (c : LossClassifierConfig) : List (String × Option Value) :=
  [("loss_inflation_max_ratio", some (.float c.lossInflationMaxRatio))]

def RackTuningConfig.fields (c : RackTuningConfig) : List (String × Option Value) :=
  [("tcp_recovery", c.tcpRecovery.map Value.u32), ("tcp_reordering", c.tcpReordering.map Value.u32),
    ("tcp_early_retrans", c.tcpEarlyRetrans.map Value.u32)]

def RackRtoConfig.fields (c : RackRtoConfig) : List (String × Option Value) :=
  [("enabled", some (.boolean c.enabled)), ("srtt_permille", some (Value.u32 c.srttPermille)),
    ("floor_us", some (Value.u32 c.floorUs)), ("ceiling_us", some (Value.u32 c.ceilingUs)),
    ("warmup_samples", some (Value.u32 c.warmupSamples)),
    ("rto_max_normal_permille", some (Value.u32 c.rtoMaxNormalPermille)),
    ("rto_max_congested_permille", some (Value.u32 c.rtoMaxCongestedPermille)),
    ("rto_max_congestion_ratio_permille", some (Value.u32 c.rtoMaxCongestionRatioPermille))]

def RetransmitDscpConfig.fields (c : RetransmitDscpConfig) : List (String × Option Value) :=
  [("enabled", some (.boolean c.enabled)), ("dscp_value", some (.integer c.dscpValue.toNat))]

def RedundancyConfig.fields (c : RedundancyConfig) : List (String × Option Value) :=
  [("enabled", some (.boolean c.enabled)), ("first_kib", some (Value.u32 c.firstKib)),
    ("delay_ms", some (Value.u32 c.delayMs))]

def GuardConfig.fields (c : GuardConfig) : List (String × Option Value) :=
  [("interval_s", some (Value.u32 c.intervalS)), ("qdisc", some (.boolean c.qdisc))]

def FileConfig.runtimeFields (c : FileConfig) : List (String × Option Value) :=
  [("bpf_dir", some (.string c.paths.bpfDir)), ("pin_dir", c.paths.pinDir.map .string),
    ("cgroup_path", some (.string c.paths.cgroupPath)),
    ("socket_path", some (.string c.paths.socketPath)),
    ("state_path", some (.string c.paths.statePath)),
    ("events_path", some (.string c.paths.eventsPath)),
    ("events_max_mib", some (Value.u32 c.runtime.eventsMaxMib)),
    ("tc_interface", c.runtime.tcInterface.map .string)]

def FileConfig.fields (c : FileConfig) : List (String × Option Value) :=
  [("generation", some (Value.u32 c.generation)),
    ("enabled_modules", some (.array (c.enabledModules.map fun m => .string m.name))),
    ("prr_pacing_enabled", some (.boolean c.prrPacingEnabled)),
    ("auto_pacing_enabled", some (.boolean c.autoPacingEnabled)),
    ("fallback_cc", some (.string c.fallbackCc)),
    ("max_pacing_mbps", some (.integer c.maxPacingMbps.toNat)),
    ("max_cwnd_packets", some (Value.u32 c.maxCwndPackets)),
    ("max_queue_delay_ms", some (Value.u32 c.maxQueueDelayMs)),
    ("max_queue_delay_ratio", some (.float c.maxQueueDelayRatio)),
    ("initial_cwnd_packets", some (Value.u32 c.initialCwndPackets)),
    ("min_cwnd_packets", some (Value.u32 c.minCwndPackets)),
    ("adaptive_cwnd", some (.table (written c.adaptiveCwnd.fields))),
    ("loss_classifier", some (.table (written c.lossClassifier.fields))),
    ("rack_tuning", some (.table (written c.rackTuning.fields))),
    ("rack_rto", some (.table (written c.rackRto.fields))),
    ("retransmit_dscp", some (.table (written c.retransmitDscp.fields))),
    ("redundancy", some (.table (written c.redundancy.fields))),
    ("guard", some (.table (written c.guard.fields))),
    ("runtime", some (.table (written c.runtimeFields)))]

/-- `toml::Value::try_from`; an integer of TOML has 64 bits and a sign. -/
def FileConfig.toTable (c : FileConfig) : Option Table :=
  if c.maxPacingMbps.toNat < 2 ^ 63 then some (written c.fields) else none

/-! ### The check -/

/-- `home_of`. -/
def homeOf (root : Table) (key notIn : String) : Option String :=
  if notIn ≠ "" ∧ (root.get key).any (fun v => !v.isTable) then
    some "a top-level key, written above the first [table]"
  else
    let homes := (root.filter fun e =>
      e.1 ≠ notIn ∧ e.2.asTable.any fun t => (t.get key).isSome).map fun e => "[" ++ e.1 ++ "]"
    match homes.reverse with
    | [] => none
    | [one] => some ("a key of " ++ one)
    | last :: rest => some ("a key of " ++ ", ".intercalate rest.reverse ++ " or " ++ last)

/-- The dotted name of a key of the table called `within`, "" for the top level. -/
def dotted (within key : String) : String := if within = "" then key else within ++ "." ++ key

/-- The line for an unknown key. -/
def keyText (root : Table) (within key : String) : String :=
  let place := if within = "" then key ++ " at the top level" else key ++ " in [" ++ within ++ "]"
  match homeOf root key within with
  | some home => place ++ " (it is " ++ home ++ ")"
  | none => place

/-- `unknown_keys`; what it appends to `out`. -/
def unknownKeys (root known : Table) (within : String) : Table → List String
  | [] => []
  | (key, value) :: rest =>
      (match known.get key, value with
        | some (.table knownTable), .table fileTable =>
            unknownKeys root knownTable (dotted within key) fileTable
        | some _, _ => []
        | none, .table _ => ["table [" ++ dotted within key ++ "]"]
        | none, _ => [keyText root within key]) ++
      unknownKeys root known within rest

/-- What `from_toml` returns of `ConfigError`. -/
inductive FileError where
  | parse
  | invalid (message : String)
  | unknownKeys (text : String)

/-- What the `toml` crate does for `from_toml`: it parses a text, and fills a configuration
from a table. -/
structure TomlCrate where
  fromStr : String → Option Table
  tryInto : Table → Option FileConfig

/-- `SkylineConfig::from_toml`. -/
def fromToml (toml : TomlCrate) (content : String) : Except FileError FileConfig :=
  match toml.fromStr content with
  | none => .error .parse
  | some file =>
      match toml.tryInto file with
      | none => .error .parse
      | some config =>
          match (withEveryKey config).toTable with
          | none =>
              .error (.invalid ("the configuration could not be written back out to check it " ++
                "for unknown keys"))
          | some known =>
              let unknown := unknownKeys known known "" file
              if unknown.isEmpty then .ok config
              else .error (.unknownKeys ("; ".intercalate unknown))

/-! ### What the check lists -/

/-- The unknown entries of a file, each as its path and whether it is a table. -/
def unknownPaths (known : Table) : Table → List (List String × Bool)
  | [] => []
  | (key, value) :: rest =>
      (match known.get key, value with
        | some (.table knownTable), .table fileTable =>
            (unknownPaths knownTable fileTable).map fun p => (key :: p.1, p.2)
        | some _, _ => []
        | none, value => [([key], value.isTable)]) ++
      unknownPaths known rest

/-- The line for an entry: the name of a table, or the key with the name of its table. -/
def entryText (root : Table) (isTable : Bool) (within : String) : List String → String
  | [] => ""
  | [key] => if isTable then "table [" ++ dotted within key ++ "]" else keyText root within key
  | key :: next :: path => entryText root isTable (dotted within key) (next :: path)

/-- A path is unknown if it leads through known tables to a key that is not there. -/
def Unknown (known : Table) : List String → Prop
  | [] => False
  | [key] => known.get key = none
  | key :: next :: path => ∃ t, known.get key = some (.table t) ∧ Unknown t (next :: path)

lemma unknown_cons {known : Table} {key : String} {path : List String} (h : path ≠ []) :
    Unknown known (key :: path) ↔ ∃ t, known.get key = some (.table t) ∧ Unknown t path := by
  cases path with
  | nil => exact absurd rfl h
  | cons next path => rfl

/-- The ways of the first entry: a table that is known, an entry that is known, or one that
is not. -/
inductive FirstEntry (known : Table) (key : String) (value : Value) : Prop
  | table {kt ft : Table} (hget : known.get key = some (.table kt)) (hvalue : value = .table ft)
  | plain {v : Value} (hget : known.get key = some v)
      (hplain : v.isTable = false ∨ value.isTable = false)
  | unknown (hget : known.get key = none)

lemma firstEntry (known : Table) (key : String) (value : Value) : FirstEntry known key value := by
  cases hget : known.get key with
  | none => exact .unknown hget
  | some v =>
      cases hv : v.isTable with
      | false => exact .plain hget (.inl hv)
      | true =>
          cases v with
          | table kt =>
              cases hvalue : value.isTable with
              | false => exact .plain hget (.inr hvalue)
              | true =>
                  cases value with
                  | table ft => exact .table hget rfl
                  | _ => cases hvalue
          | _ => cases hv

section Cons

variable {known : Table} {key : String} {value v : Value} {kt ft rest : Table}

lemma unknownPaths_table (hget : known.get key = some (.table kt)) :
    unknownPaths known ((key, .table ft) :: rest) =
      (unknownPaths kt ft).map (fun p => (key :: p.1, p.2)) ++ unknownPaths known rest := by
  rw [unknownPaths.eq_def]
  simp only [hget]

lemma unknownPaths_plain (hget : known.get key = some v)
    (hplain : v.isTable = false ∨ value.isTable = false) :
    unknownPaths known ((key, value) :: rest) = unknownPaths known rest := by
  rw [unknownPaths.eq_def]
  simp only [hget]
  cases v <;> cases value <;> first | rfl | simp [Value.isTable] at hplain

lemma unknownPaths_unknown (hget : known.get key = none) :
    unknownPaths known ((key, value) :: rest) =
      ([key], value.isTable) :: unknownPaths known rest := by
  rw [unknownPaths.eq_def]
  simp only [hget]
  rfl

end Cons

/-- Induction over a file, along with the table it is compared with. -/
lemma file_induction {motive : Table → Table → Prop} (nil : ∀ known, motive known [])
    (cons : ∀ known key value rest,
      (∀ kt ft, known.get key = some (.table kt) → value = .table ft → motive kt ft) →
      motive known rest → motive known ((key, value) :: rest)) (known file : Table) :
    motive known file := by
  induction known, file using unknownPaths.induct with
  | case1 known => exact nil known
  | case2 known key value rest hinner ih =>
      refine cons known key value rest (fun kt ft hget hvalue => ?_) ih
      subst hvalue
      simpa [hget] using hinner

/-- **The paths that are listed** are the unknown ones of the file. -/
lemma mem_unknownPaths (known file : Table) : ∀ (path : List String) (isTable : Bool),
    (path, isTable) ∈ unknownPaths known file ↔
      Unknown known path ∧ ∃ v, Occurs file path v ∧ v.isTable = isTable := by
  induction known, file using file_induction with
  | nil known =>
      intro path isTable
      rw [unknownPaths]
      simp only [List.not_mem_nil, false_iff, not_and, not_exists]
      intro _ v hoccurs
      cases hoccurs <;> simp_all
  | cons known key value rest hinner ih =>
      intro path isTable
      simp only [occurs_cons]
      cases firstEntry known key value with
      | @table kt ft hget hvalue =>
          subst hvalue
          -- a table on both sides: the entries below it come first
          rw [unknownPaths_table hget, List.mem_append, ih, List.mem_map]
          constructor
          · rintro (⟨⟨path', b⟩, hmem, heq⟩ | ⟨hunknown, v, hoccurs, hv⟩)
            · obtain ⟨rfl, rfl⟩ := Prod.mk.inj heq
              obtain ⟨hunknown, v, hoccurs, hv⟩ := (hinner kt ft hget rfl path' b).mp hmem
              exact ⟨(unknown_cons hoccurs.ne_nil).mpr ⟨kt, hget, hunknown⟩, v,
                .inr (.inl ⟨ft, path', rfl, rfl, hoccurs⟩), hv⟩
            · exact ⟨hunknown, v, .inr (.inr hoccurs), hv⟩
          · rintro ⟨hunknown, v, ⟨rfl, rfl⟩ | ⟨t', path', ht', rfl, hoccurs⟩ | hoccurs, hv⟩
            · cases hget.symm.trans hunknown
            · obtain rfl := Value.table.inj ht'
              obtain ⟨t, ht, hunknown⟩ := (unknown_cons hoccurs.ne_nil).mp hunknown
              obtain rfl := Value.table.inj (Option.some.inj (hget.symm.trans ht))
              exact .inl ⟨(path', isTable),
                (hinner kt ft hget rfl path' isTable).mpr ⟨hunknown, v, hoccurs, hv⟩, rfl⟩
            · exact .inr ⟨hunknown, v, hoccurs, hv⟩
      | @plain v₀ hget hplain =>
          -- a known key: none of its entries is listed
          rw [unknownPaths_plain hget hplain, ih]
          constructor
          · rintro ⟨hunknown, v, hoccurs, hv⟩
            exact ⟨hunknown, v, .inr (.inr hoccurs), hv⟩
          · rintro ⟨hunknown, v, ⟨rfl, rfl⟩ | ⟨t', path', rfl, rfl, hoccurs⟩ | hoccurs, hv⟩
            · cases hget.symm.trans hunknown
            · obtain ⟨t, ht, -⟩ := (unknown_cons hoccurs.ne_nil).mp hunknown
              obtain rfl := Option.some.inj (hget.symm.trans ht)
              simp [Value.isTable] at hplain
            · exact ⟨hunknown, v, hoccurs, hv⟩
      | unknown hget =>
          -- an unknown key stands for everything below it
          rw [unknownPaths_unknown hget, List.mem_cons, ih]
          constructor
          · rintro (heq | ⟨hunknown, v, hoccurs, hv⟩)
            · obtain ⟨rfl, rfl⟩ := Prod.mk.inj heq
              exact ⟨hget, value, .inl ⟨rfl, rfl⟩, rfl⟩
            · exact ⟨hunknown, v, .inr (.inr hoccurs), hv⟩
          · rintro ⟨hunknown, v, ⟨rfl, rfl⟩ | ⟨t', path', rfl, rfl, hoccurs⟩ | hoccurs, hv⟩
            · exact .inl (by rw [hv])
            · obtain ⟨t, ht, -⟩ := (unknown_cons hoccurs.ne_nil).mp hunknown
              cases hget.symm.trans ht
            · exact .inr ⟨hunknown, v, hoccurs, hv⟩

/-- **No path is listed twice.** -/
lemma unknownPaths_nodup (known file : Table) (h : UniqueKeys file) :
    ((unknownPaths known file).map Prod.fst).Nodup := by
  induction known, file using file_induction with
  | nil known =>
      rw [unknownPaths]
      exact List.nodup_nil
  | cons known key value rest hinner ih =>
      have hrest := ih h.tail
      have hfirst : ∀ path ∈ (unknownPaths known rest).map Prod.fst, path.head? ≠ some key := by
        intro path hpath hhead
        obtain ⟨⟨path, b⟩, hmem, rfl⟩ := List.mem_map.mp hpath
        obtain ⟨-, v, hoccurs, -⟩ := (mem_unknownPaths known rest path b).mp hmem
        have hnot := (List.nodup_cons.mp h.1).1
        cases hoccurs with
        | here hmem =>
            obtain rfl := Option.some.inj hhead
            exact hnot (List.mem_map.mpr ⟨_, hmem, rfl⟩)
        | inner htable _ =>
            obtain rfl := Option.some.inj hhead
            exact hnot (List.mem_map.mpr ⟨_, htable, rfl⟩)
      cases firstEntry known key value with
      | @table kt ft hget hvalue =>
          subst hvalue
          rw [unknownPaths_table hget, List.map_append, List.map_map, List.nodup_append]
          refine ⟨?_, hrest, ?_⟩
          · have hsub := hinner kt ft hget rfl (h.inner List.mem_cons_self)
            have hcons := hsub.map (List.cons_injective (a := key))
            rwa [List.map_map] at hcons
          · intro path hpath path' hpath' heq
            subst heq
            obtain ⟨p, -, rfl⟩ := List.mem_map.mp hpath
            exact hfirst _ hpath' rfl
      | plain hget hplain =>
          rw [unknownPaths_plain hget hplain]
          exact hrest
      | unknown hget =>
          rw [unknownPaths_unknown hget, List.map_cons, List.nodup_cons]
          exact ⟨fun hmem => hfirst _ hmem rfl, hrest⟩

/-- **The texts that are listed** name the paths. -/
lemma unknownKeys_eq (root known file : Table) : ∀ within : String,
    unknownKeys root known within file =
      (unknownPaths known file).map fun p => entryText root p.2 within p.1 := by
  induction known, file using file_induction with
  | nil known =>
      intro within
      rw [unknownKeys, unknownPaths]
      rfl
  | cons known key value rest hinner ih =>
      intro within
      cases firstEntry known key value with
      | @table kt ft hget hvalue =>
          subst hvalue
          rw [unknownKeys.eq_def, unknownPaths_table hget, List.map_append, List.map_map]
          simp only [hget]
          rw [hinner kt ft hget rfl, ih]
          congr 1
          apply List.map_congr_left
          rintro ⟨path, b⟩ hmem
          obtain ⟨-, v, hoccurs, -⟩ := (mem_unknownPaths kt ft path b).mp hmem
          cases path with
          | nil => exact absurd rfl hoccurs.ne_nil
          | cons next path => rfl
      | @plain v hget hplain =>
          rw [unknownKeys.eq_def, unknownPaths_plain hget hplain, ← ih]
          simp only [hget]
          cases v <;> cases value <;> first | rfl | simp [Value.isTable] at hplain
      | unknown hget =>
          rw [unknownKeys.eq_def, unknownPaths_unknown hget, List.map_cons, ← ih]
          simp only [hget]
          cases value <;> rfl

end SkylineSpeeder
