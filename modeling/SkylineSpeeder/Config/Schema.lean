import SkylineSpeeder.Config.Keys

/-!
No key of a configuration file is ever ignored.

* `schema`, `InSchema`, `TableInSchema`: the keys and the tables of the configuration;
* `fields_fit`, `unknown_iff`: every configuration, written out with every key, has exactly
  these keys;
* `TomlCrate.Documented`: what the `toml` crate promises;
* `Listed`, `exists_listed`: every unknown key is listed, or stands in a table that is;
* `no_key_is_ignored`: the main result.
-/

namespace SkylineSpeeder

open Toml

/-! ### The keys of the configuration -/

/-- The keys of `SkylineConfig`, those of a table with the keys of the table. -/
def schema : List (String × Option (List String)) :=
  [("generation", none), ("enabled_modules", none), ("prr_pacing_enabled", none),
    ("auto_pacing_enabled", none), ("fallback_cc", none), ("max_pacing_mbps", none),
    ("max_cwnd_packets", none), ("max_queue_delay_ms", none), ("max_queue_delay_ratio", none),
    ("initial_cwnd_packets", none), ("min_cwnd_packets", none),
    ("adaptive_cwnd", some ["min_rtt_window_s", "bw_window_rtts", "startup_plateau_rtts",
      "startup_growth_ratio", "startup_gain", "cruise_inflight_gain", "cruise_pacing_gain",
      "guardrail_gain"]),
    ("loss_classifier", some ["loss_inflation_max_ratio"]),
    ("rack_tuning", some ["tcp_recovery", "tcp_reordering", "tcp_early_retrans"]),
    ("rack_rto", some ["enabled", "srtt_permille", "floor_us", "ceiling_us", "warmup_samples",
      "rto_max_normal_permille", "rto_max_congested_permille",
      "rto_max_congestion_ratio_permille"]),
    ("retransmit_dscp", some ["enabled", "dscp_value"]),
    ("redundancy", some ["enabled", "first_kib", "delay_ms"]),
    ("guard", some ["interval_s", "qdisc"]),
    ("runtime", some ["bpf_dir", "pin_dir", "cgroup_path", "socket_path", "state_path",
      "events_path", "events_max_mib", "tc_interface"])]

/-- The path names a key of the configuration. -/
inductive InSchema : List String → Prop
  | top {key : String} {sub : Option (List String)} (h : (key, sub) ∈ schema) : InSchema [key]
  | inner {table key : String} {keys : List String} (h : (table, some keys) ∈ schema)
      (hkey : key ∈ keys) : InSchema [table, key]

/-- The path names a table of the configuration, or the top level. -/
inductive TableInSchema : List String → Prop
  | top : TableInSchema []
  | inner {table : String} {keys : List String} (h : (table, some keys) ∈ schema) :
      TableInSchema [table]

/-- What a field of the configuration is written as: a plain value, or a table of such. -/
def FitsField (s : Option (List String)) (v : Value) : Prop :=
  match s with
  | none => v.isTable = false
  | some keys => ∃ fs, v = .table (written fs) ∧ fs.map Prod.fst = keys ∧
      (fs.all fun f => f.2.any fun v => !v.isTable) = true

/-- Every field of a configuration is written once each optional key has a value. -/
lemma fields_fit (c : FileConfig) :
    List.Forall₂ (fun f s => f.1 = s.1 ∧ ∃ v, f.2 = some v ∧ FitsField s.2 v)
      (withEveryKey c).fields schema := by
  iterate 11 refine .cons ⟨rfl, _, rfl, rfl⟩ ?_
  iterate 8 refine .cons ⟨rfl, _, rfl, _, rfl, rfl, rfl⟩ ?_
  exact .nil

lemma schema_nodup : (schema.map Prod.fst).Nodup := by decide

lemma schema_inner_nodup : ∀ s ∈ schema, ∀ keys ∈ s.2, keys.Nodup := by decide

/-- The partner of an entry of the first of two lists. -/
lemma exists_partner {α β : Type*} {R : α → β → Prop} {as : List α} {bs : List β}
    (h : List.Forall₂ R as bs) {a : α} (ha : a ∈ as) : ∃ b ∈ bs, R a b := by
  induction h with
  | nil => cases ha
  | @cons a' b as bs hab _ ih =>
      rcases List.mem_cons.mp ha with rfl | ha
      · exact ⟨b, by simp, hab⟩
      · obtain ⟨b', hb', hab'⟩ := ih ha
        exact ⟨b', List.mem_cons_of_mem b hb', hab'⟩

/-- No key is written twice. -/
lemma written_nodup {fs : List (String × Option Value)} (hnodup : (fs.map Prod.fst).Nodup) :
    ((written fs).map Prod.fst).Nodup := by
  have hsub : ((fs.filterMap fun f => f.2.map fun v => (f.1, v)).map Prod.fst).Sublist
      (fs.map Prod.fst) := by
    clear hnodup
    induction fs with
    | nil => simp
    | cons f fs ih =>
        obtain ⟨name, value⟩ := f
        cases value with
        | none => exact ih.cons name
        | some v => exact ih.cons_cons name
  exact collect_nodup (hsub.nodup hnodup)

/-- A lookup among written fields. -/
lemma get_written {fs : List (String × Option Value)} (hnodup : (fs.map Prod.fst).Nodup)
    {key : String} {v : Value} : (written fs).get key = some v ↔ (key, some v) ∈ fs := by
  rw [get_eq_some_iff (written_nodup hnodup), written, mem_collect, List.mem_filterMap]
  constructor
  · rintro ⟨⟨name, value⟩, hmem, hvalue⟩
    obtain ⟨v', rfl, heq⟩ := Option.map_eq_some_iff.mp hvalue
    obtain ⟨rfl, rfl⟩ := Prod.mk.inj heq
    exact hmem
  · intro hmem
    exact ⟨(key, some v), hmem, rfl⟩

/-- Where every field is written, the keys are the names of the fields. -/
lemma get_written_eq_none {fs : List (String × Option Value)} (hnodup : (fs.map Prod.fst).Nodup)
    (hsome : ∀ f ∈ fs, f.2.isSome = true) {key : String} :
    (written fs).get key = none ↔ key ∉ fs.map Prod.fst := by
  rw [← not_iff_not, not_not, ← ne_eq, Option.ne_none_iff_exists', List.mem_map]
  constructor
  · rintro ⟨v, hv⟩
    exact ⟨(key, some v), (get_written hnodup).mp hv, rfl⟩
  · rintro ⟨⟨name, value⟩, hmem, rfl⟩
    obtain ⟨v, rfl⟩ := Option.isSome_iff_exists.mp (hsome _ hmem)
    exact ⟨v, (get_written hnodup).mpr hmem⟩

section Known

variable {c : FileConfig} {key : String}

lemma fields_keys (c : FileConfig) :
    (withEveryKey c).fields.map Prod.fst = schema.map Prod.fst := rfl

lemma fields_nodup (c : FileConfig) : ((withEveryKey c).fields.map Prod.fst).Nodup := by
  rw [fields_keys]
  exact schema_nodup

/-- A key that the configuration does not have is not written, -/
lemma known_get_none : (written (withEveryKey c).fields).get key = none ↔
    ∀ sub, (key, sub) ∉ schema := by
  rw [get_written_eq_none (fields_nodup c), fields_keys, List.mem_map]
  · constructor
    · exact fun h sub hmem => h ⟨(key, sub), hmem, rfl⟩
    · rintro h ⟨⟨key, sub⟩, hmem, rfl⟩
      exact h sub hmem
  · intro f hf
    obtain ⟨s, -, -, v, hv, -⟩ := exists_partner (fields_fit c) hf
    rw [hv]
    rfl

/-- a key that is written fits its field, -/
lemma known_get_some {v : Value} (h : (written (withEveryKey c).fields).get key = some v) :
    ∃ sub, (key, sub) ∈ schema ∧ FitsField sub v := by
  obtain ⟨⟨name, sub⟩, hmem, hname, v', hv', hfits⟩ :=
    exists_partner (fields_fit c) ((get_written (fields_nodup c)).mp h)
  obtain rfl : key = name := hname
  obtain rfl : v = v' := Option.some.inj hv'
  exact ⟨sub, hmem, hfits⟩

/-- and so is every table. -/
lemma known_get_table {keys : List String} (h : (key, some keys) ∈ schema) :
    ∃ fs, (written (withEveryKey c).fields).get key = some (.table (written fs)) ∧
      fs.map Prod.fst = keys ∧ (fs.all fun f => f.2.any fun v => !v.isTable) = true := by
  obtain ⟨⟨name, value⟩, hmem, hname, v, hv, fs, rfl, hkeys, hplain⟩ :=
    exists_partner (fields_fit c).flip h
  obtain rfl : name = key := hname
  obtain rfl : value = some (.table (written fs)) := hv
  exact ⟨fs, (get_written (fields_nodup c)).mpr hmem, hkeys, hplain⟩

end Known

/-- The keys of a table of the configuration, and that none of them is a table. -/
lemma get_plain {table key : String} {keys : List String} {fs : List (String × Option Value)}
    (hmem : (table, some keys) ∈ schema) (hkeys : fs.map Prod.fst = keys)
    (hplain : (fs.all fun f => f.2.any fun v => !v.isTable) = true) :
    ((written fs).get key = none ↔ key ∉ keys) ∧
      ∀ v, (written fs).get key = some v → v.isTable = false := by
  have hnodup : (fs.map Prod.fst).Nodup := by
    rw [hkeys]
    exact schema_inner_nodup _ hmem keys rfl
  have hvalue : ∀ f ∈ fs, ∃ v, f.2 = some v ∧ v.isTable = false := by
    intro f hf
    have hf' := List.all_eq_true.mp hplain f hf
    cases hv : f.2 with
    | none => simp [hv] at hf'
    | some v => exact ⟨v, rfl, by simpa [hv] using hf'⟩
  refine ⟨?_, fun v hv => ?_⟩
  · rw [get_written_eq_none hnodup, hkeys]
    intro f hf
    obtain ⟨v, hv, -⟩ := hvalue f hf
    rw [hv]
    rfl
  · obtain ⟨v', hv', hfalse⟩ := hvalue _ ((get_written hnodup).mp hv)
    obtain rfl : v = v' := Option.some.inj hv'
    exact hfalse

lemma inSchema_top {key : String} : InSchema [key] ↔ ∃ sub, (key, sub) ∈ schema := by
  constructor
  · rintro (⟨h⟩ | _)
    exact ⟨_, h⟩
  · rintro ⟨sub, h⟩
    exact .top h

lemma schema_unique {key : String} {sub sub' : Option (List String)} (h : (key, sub) ∈ schema)
    (h' : (key, sub') ∈ schema) : sub = sub' :=
  congrArg Prod.snd (List.inj_on_of_nodup_map schema_nodup h h' rfl)

lemma inSchema_inner {table key : String} {keys : List String} (h : (table, some keys) ∈ schema) :
    InSchema [table, key] ↔ key ∈ keys := by
  constructor
  · rintro (_ | ⟨h', hkey⟩)
    obtain rfl := Option.some.inj (schema_unique h h')
    exact hkey
  · exact .inner h

/-- **What the written configuration does not know** is what is not in the schema. -/
lemma unknown_iff (c : FileConfig) (path : List String) :
    Unknown (written (withEveryKey c).fields) path ↔
      (∃ table key, path = table ++ [key] ∧ TableInSchema table) ∧ ¬ InSchema path := by
  match path with
  | [] => simp [Unknown]
  | [key] =>
      rw [Unknown, known_get_none, inSchema_top, not_exists]
      exact ⟨fun h => ⟨⟨[], key, rfl, .top⟩, h⟩, fun h => h.2⟩
  | [table, key] =>
      rw [Unknown]
      constructor
      · rintro ⟨t, hget, hunknown⟩
        obtain ⟨sub, hmem, hfits⟩ := known_get_some hget
        cases sub with
        | none => cases hfits
        | some keys =>
            obtain ⟨fs, ht, hkeys, hplain⟩ := hfits
            obtain rfl := Value.table.inj ht
            refine ⟨⟨[table], key, rfl, .inner hmem⟩, ?_⟩
            rw [inSchema_inner hmem]
            exact (get_plain hmem hkeys hplain).1.mp hunknown
      · rintro ⟨⟨table', key', hsplit, htable⟩, hnot⟩
        cases htable with
        | top => cases hsplit
        | @inner table' keys hmem =>
            obtain ⟨rfl, -⟩ := List.cons.inj hsplit
            obtain ⟨fs, hget, hkeys, hplain⟩ := known_get_table (c := c) hmem
            rw [inSchema_inner hmem] at hnot
            exact ⟨_, hget, (get_plain hmem hkeys hplain).1.mpr hnot⟩
  | table :: key :: next :: rest =>
      constructor
      · rintro ⟨t, hget, t', hget', -⟩
        -- no table of the schema holds another
        obtain ⟨sub, hmem, hfits⟩ := known_get_some hget
        cases sub with
        | none => cases hfits
        | some keys =>
            obtain ⟨fs, ht, hkeys, hplain⟩ := hfits
            obtain rfl := Value.table.inj ht
            cases (get_plain hmem hkeys hplain).2 _ hget'
      · rintro ⟨⟨table', key', hsplit, htable⟩, -⟩
        cases htable with
        | top => cases hsplit
        | inner hmem => cases hsplit

/-! ### The main result -/

/-- What the `toml` crate promises: a table is a map, an integer has 64 bits and a sign, and a
field that is a number, a text, a boolean or a list is not filled from a table. -/
structure TomlCrate.Documented (toml : TomlCrate) : Prop where
  unique : ∀ content file, toml.fromStr content = some file → UniqueKeys file
  integer : ∀ file config, toml.tryInto file = some config → config.maxPacingMbps.toNat < 2 ^ 63
  plain : ∀ file config, toml.tryInto file = some config → ∀ path v, Occurs file path v →
    InSchema path → ¬ TableInSchema path → v.isTable = false

/-- The path is listed: its own table is known, and it is not. -/
def Listed (path : List String) : Prop :=
  (∃ table key, path = table ++ [key] ∧ TableInSchema table) ∧ ¬ InSchema path

/-- An unknown key is listed, or it stands in a table that is. -/
lemma exists_listed {file : Table} {path : List String} {v : Value}
    (hplain : ∀ path v, Occurs file path v → InSchema path → ¬ TableInSchema path →
      v.isTable = false)
    (hoccurs : Occurs file path v) (hnot : ¬ InSchema path) :
    ∃ path' v', path' <+: path ∧ Listed path' ∧ Occurs file path' v' := by
  cases hoccurs with
  | @here _ key v hmem =>
      exact ⟨[key], v, List.prefix_rfl, ⟨⟨[], key, rfl, .top⟩, hnot⟩, .here hmem⟩
  | @inner _ t' key path v hmem hinner =>
      by_cases htop : InSchema [key]
      swap
      · exact ⟨[key], _, ⟨path, rfl⟩, ⟨⟨[], key, rfl, .top⟩, htop⟩, .here hmem⟩
      have htable : TableInSchema [key] := by
        by_contra hno
        cases hplain [key] _ (.here hmem) htop hno
      cases hinner with
      | @here _ next v hnext =>
          exact ⟨[key, next], v, List.prefix_rfl, ⟨⟨[key], next, rfl, htable⟩, hnot⟩,
            .inner hmem (.here hnext)⟩
      | @inner _ t'' next path v hnext hdeep =>
          refine ⟨[key, next], _, ⟨path, rfl⟩, ⟨⟨[key], next, rfl, htable⟩, fun hin => ?_⟩,
            .inner hmem (.here hnext)⟩
          cases hplain [key, next] _ (.inner hmem (.here hnext)) hin nofun

/-- Of two listed paths neither leads into the other. -/
lemma Listed.eq_of_isPrefix {path p q : List String} (hp : Listed p) (hq : Listed q)
    (hpp : p <+: path) (hqp : q <+: path) : p = q := by
  have hlt : ∀ {p q : List String}, Listed p → Listed q → p <+: q → p = q := by
    rintro p q ⟨⟨table, key, rfl, htable⟩, hp⟩ ⟨⟨table', key', rfl, htable'⟩, hq⟩ hle
    cases htable' with
    | top =>
        cases htable with
        | top => exact List.IsPrefix.eq_of_length hle rfl
        | inner => simpa using hle.length_le
    | @inner table' keys hmem =>
        cases htable with
        | top =>
            obtain ⟨rfl, -⟩ := List.cons_prefix_cons.mp hle
            exact absurd (.top hmem) hp
        | inner => exact List.IsPrefix.eq_of_length hle rfl
  rcases List.prefix_or_prefix_of_prefix hpp hqp with hle | hle
  · exact hlt hp hq hle
  · exact (hlt hq hp hle).symm

/-- **No key of a configuration file is ever ignored.**

For every text that the crate parses and fills a configuration from: `from_toml` accepts it
if and only if every key in the file, at every level, is a key of the configuration there.
Otherwise the error has one line for each entry that is unknown in a known table, and no
other, with the name of that table; every unknown key is in exactly one of them, as itself or
in an unknown table. -/
theorem no_key_is_ignored (toml : TomlCrate) (htoml : toml.Documented) (content : String)
    (file : Table) (config : FileConfig) (hfile : toml.fromStr content = some file)
    (hconfig : toml.tryInto file = some config) :
    ((∃ c, fromToml toml content = .ok c) ↔ ∀ path v, Occurs file path v → InSchema path) ∧
    ∃ entries : List (List String × Bool),
      (¬ (∀ path v, Occurs file path v → InSchema path) →
        fromToml toml content = .error (.unknownKeys ("; ".intercalate (entries.map fun e =>
          entryText (written (withEveryKey config).fields) e.2 "" e.1)))) ∧
      (entries.map Prod.fst).Nodup ∧
      (∀ path isTable, (path, isTable) ∈ entries ↔
        (∃ table key, path = table ++ [key] ∧ TableInSchema table) ∧ ¬ InSchema path ∧
          ∃ v, Occurs file path v ∧ v.isTable = isTable) ∧
      ∀ path v, Occurs file path v → ¬ InSchema path →
        ∃! e, e ∈ entries ∧ e.1 <+: path := by
  set known := written (withEveryKey config).fields with hknown
  have hwritten : (withEveryKey config).toTable = some known := by
    rw [FileConfig.toTable]
    exact if_pos (htoml.integer file config hconfig)
  -- the code compares the file with what the configuration of every key is written as
  have hrun : fromToml toml content =
      if (unknownPaths known file).isEmpty then .ok config
      else .error (.unknownKeys ("; ".intercalate ((unknownPaths known file).map fun e =>
        entryText known e.2 "" e.1))) := by
    rw [fromToml, hfile]
    simp only [hconfig, hwritten, unknownKeys_eq, List.isEmpty_map]
  have hmem : ∀ path isTable, (path, isTable) ∈ unknownPaths known file ↔
      Listed path ∧ ∃ v, Occurs file path v ∧ v.isTable = isTable := by
    intro path isTable
    rw [mem_unknownPaths, hknown, unknown_iff]
    rfl
  have hnodup := unknownPaths_nodup known file (htoml.unique content file hfile)
  -- a key outside the schema is listed, or a table above it is
  have hlisted : ∀ path v, Occurs file path v → ¬ InSchema path →
      ∃ e ∈ unknownPaths known file, e.1 <+: path := by
    intro path v hoccurs hnot
    obtain ⟨path', v', hle, hlisted, hoccurs'⟩ :=
      exists_listed (htoml.plain file config hconfig) hoccurs hnot
    exact ⟨(path', v'.isTable), (hmem _ _).mpr ⟨hlisted, v', hoccurs', rfl⟩, hle⟩
  have hempty : unknownPaths known file = [] ↔ ∀ path v, Occurs file path v → InSchema path := by
    constructor
    · intro hnil path v hoccurs
      by_contra hnot
      obtain ⟨e, he, -⟩ := hlisted path v hoccurs hnot
      rw [hnil] at he
      cases he
    · intro hall
      rw [List.eq_nil_iff_forall_not_mem]
      rintro ⟨path, isTable⟩ he
      obtain ⟨⟨-, hnot⟩, v, hoccurs, -⟩ := (hmem path isTable).mp he
      exact hnot (hall path v hoccurs)
  refine ⟨?_, unknownPaths known file, ?_, hnodup, ?_, ?_⟩
  · rw [← hempty, hrun]
    cases unknownPaths known file with
    | nil => simp
    | cons e rest => simp
  · rw [← hempty, hrun]
    cases unknownPaths known file with
    | nil => exact fun h => absurd rfl h
    | cons e rest => exact fun _ => rfl
  · intro path isTable
    rw [hmem, Listed, and_assoc]
  · intro path v hoccurs hnot
    obtain ⟨e, he, hle⟩ := hlisted path v hoccurs hnot
    refine ⟨e, ⟨he, hle⟩, ?_⟩
    rintro e' ⟨he', hle'⟩
    -- two entries above one key would lie on one path
    have hpath : e'.1 = e.1 :=
      ((hmem e'.1 e'.2).mp he').1.eq_of_isPrefix ((hmem e.1 e.2).mp he).1 hle' hle
    exact List.inj_on_of_nodup_map hnodup he' he hpath

/-- A configuration with every key. -/
def sampleConfig : FileConfig :=
  withEveryKey { SkylineConfig.speeder with
    paths := {
      bpfDir := "build/bpf"
      pinDir := some "/sys/fs/bpf/skyline-speeder"
      cgroupPath := "/sys/fs/cgroup/skyline-speeder"
      socketPath := "/run/skyline-speeder/speeder.sock"
      statePath := "/run/skyline-speeder/state.json"
      eventsPath := "/run/skyline-speeder/events.jsonl" } }

/-- Its file, with a key of `[adaptive_cwnd]` above the first table. -/
def sampleText : String :=
  "generation = 1\n" ++
    "enabled_modules = [\"early-loss\", \"adaptive-cwnd\", \"loss-classifier\", \"pacing\"]\n" ++
    "prr_pacing_enabled = true\nauto_pacing_enabled = true\nfallback_cc = \"cubic\"\n" ++
    "max_pacing_mbps = 1200\nmax_cwnd_packets = 50000\nmax_queue_delay_ms = 70\n" ++
    "max_queue_delay_ratio = 0.6\ninitial_cwnd_packets = 100\nmin_cwnd_packets = 32\n" ++
    "guardrail_gain = 0.5\n[adaptive_cwnd]\nmin_rtt_window_s = 30\nbw_window_rtts = 6\n" ++
    "startup_plateau_rtts = 5\nstartup_growth_ratio = 0.20\nstartup_gain = 3.0\n" ++
    "cruise_inflight_gain = 3.0\ncruise_pacing_gain = 1.25\nguardrail_gain = 0.8\n" ++
    "[loss_classifier]\nloss_inflation_max_ratio = 0.10\n[rack_tuning]\ntcp_recovery = 0\n" ++
    "tcp_reordering = 0\ntcp_early_retrans = 0\n[rack_rto]\nenabled = true\n" ++
    "srtt_permille = 1100\nfloor_us = 20000\nceiling_us = 200000\nwarmup_samples = 4\n" ++
    "rto_max_normal_permille = 3000\nrto_max_congested_permille = 6000\n" ++
    "rto_max_congestion_ratio_permille = 0\n[retransmit_dscp]\nenabled = false\n" ++
    "dscp_value = 0\n[redundancy]\nenabled = true\nfirst_kib = 64\ndelay_ms = 10\n[guard]\n" ++
    "interval_s = 5\nqdisc = true\n[runtime]\nbpf_dir = \"build/bpf\"\n" ++
    "pin_dir = \"/sys/fs/bpf/skyline-speeder\"\n" ++
    "cgroup_path = \"/sys/fs/cgroup/skyline-speeder\"\n" ++
    "socket_path = \"/run/skyline-speeder/speeder.sock\"\n" ++
    "state_path = \"/run/skyline-speeder/state.json\"\n" ++
    "events_path = \"/run/skyline-speeder/events.jsonl\"\nevents_max_mib = 8\n" ++
    "tc_interface = \"data0\"\n"

/-- The table of that file. -/
def sampleFile : Table :=
  written (("guardrail_gain", some (.float (.finite (1 / 2)))) :: sampleConfig.fields)

/-- The crate, as far as this file goes. -/
noncomputable def sampleCrate : TomlCrate where
  fromStr := fun content => if content = sampleText then some sampleFile else none
  tryInto := open Classical in fun file => if file = sampleFile then some sampleConfig else none

lemma sampleFile_nodup :
    ((("guardrail_gain", some (.float (.finite (1 / 2)))) :: sampleConfig.fields).map
      Prod.fst).Nodup := by decide

/-- What stands in the file, and fits there. -/
lemma sampleFile_mem {key : String} {v : Value} (h : (key, v) ∈ sampleFile) :
    (key = "guardrail_gain" ∧ v.isTable = false) ∨
      ∃ sub, (key, sub) ∈ schema ∧ FitsField sub v := by
  rw [sampleFile, written, mem_collect, List.mem_filterMap] at h
  obtain ⟨⟨name, value⟩, hmem, hvalue⟩ := h
  obtain ⟨v', rfl, heq⟩ := Option.map_eq_some_iff.mp hvalue
  obtain ⟨rfl, rfl⟩ := Prod.mk.inj heq
  rcases List.mem_cons.mp hmem with heq | hmem
  · obtain ⟨rfl, hv⟩ := Prod.mk.inj heq
    obtain rfl := Option.some.inj hv
    exact .inl ⟨rfl, rfl⟩
  · exact .inr (known_get_some ((get_written (fields_nodup _)).mpr hmem))

/-- What stands in one of its tables. -/
lemma sampleFile_inner {key : String} {t : Table} (h : (key, .table t) ∈ sampleFile) :
    ∃ keys, (key, some keys) ∈ schema ∧ (t.map Prod.fst).Nodup ∧
      ∀ inner v, (inner, v) ∈ t → v.isTable = false := by
  rcases sampleFile_mem h with ⟨-, hfalse⟩ | ⟨sub, hmem, hfits⟩
  · cases hfalse
  cases sub with
  | none => cases hfits
  | some keys =>
      obtain ⟨fs, ht, hkeys, hplain⟩ := hfits
      obtain rfl := Value.table.inj ht
      have hinner : (fs.map Prod.fst).Nodup := hkeys ▸ schema_inner_nodup _ hmem keys rfl
      have htable := written_nodup hinner
      refine ⟨keys, hmem, htable, fun inner v hinner => ?_⟩
      exact (get_plain hmem hkeys hplain).2 v ((get_eq_some_iff htable).mpr hinner)

lemma sampleCrate_documented : sampleCrate.Documented := by
  have hread : ∀ content file, sampleCrate.fromStr content = some file → file = sampleFile := by
    intro content file h
    simp only [sampleCrate] at h
    split_ifs at h
    exact (Option.some.inj h).symm
  have hfill : ∀ file config, sampleCrate.tryInto file = some config →
      file = sampleFile ∧ config = sampleConfig := by
    intro file config h
    simp only [sampleCrate] at h
    split_ifs at h with hfile
    exact ⟨hfile, (Option.some.inj h).symm⟩
  refine ⟨fun content file h => ?_, fun file config h => ?_, fun file config h path v hoccurs => ?_⟩
  · obtain rfl := hread content file h
    refine ⟨written_nodup sampleFile_nodup, fun path t hoccurs => ?_⟩
    cases hoccurs with
    | here hmem =>
        obtain ⟨keys, -, hnodup, -⟩ := sampleFile_inner hmem
        exact hnodup
    | inner hmem hinner =>
        obtain ⟨keys, -, -, hplain⟩ := sampleFile_inner hmem
        cases hinner with
        | here hmem' => cases hplain _ _ hmem'
        | inner hmem' _ => cases hplain _ _ hmem'
  · obtain ⟨-, rfl⟩ := hfill file config h
    decide
  · obtain ⟨rfl, -⟩ := hfill file config h
    intro hin hno
    cases hoccurs with
    | here hmem =>
        rcases sampleFile_mem hmem with ⟨-, hfalse⟩ | ⟨sub, hmem, hfits⟩
        · exact hfalse
        · cases sub with
          | none => exact hfits
          | some keys => exact absurd (.inner hmem) hno
    | inner hmem hinner =>
        obtain ⟨keys, -, -, hplain⟩ := sampleFile_inner hmem
        cases hinner with
        | here hmem' => exact hplain _ _ hmem'
        | inner hmem' _ => cases hplain _ _ hmem'

/-- The file is refused for the key that is not in its table. -/
theorem no_key_is_ignored_misplaced :
    ∃ text, fromToml sampleCrate sampleText = .error (.unknownKeys text) := by
  obtain ⟨-, entries, herror, -⟩ := no_key_is_ignored sampleCrate sampleCrate_documented sampleText
    sampleFile sampleConfig (by simp [sampleCrate]) (by simp [sampleCrate])
  refine ⟨_, herror fun hall => ?_⟩
  have hmem : ("guardrail_gain", Value.float (.finite (1 / 2))) ∈ sampleFile := by
    rw [sampleFile, ← get_eq_some_iff (written_nodup sampleFile_nodup)]
    exact (get_written sampleFile_nodup).mpr List.mem_cons_self
  obtain ⟨sub, h⟩ := inSchema_top.mp (hall _ _ (.here hmem))
  simp [schema] at h

end SkylineSpeeder
