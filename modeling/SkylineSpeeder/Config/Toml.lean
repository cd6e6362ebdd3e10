import Mathlib.Data.List.Sort
import SkylineSpeeder.Config.Skyline

/-!
TOML tables: nested maps from keys to values.

* `Value`, `Table`: a value, and a table as the list of its entries; `Table.get` looks a key
  up and `Table.collect` is the map that collects entries, ordered by key;
* `Occurs`: the entry at a path of keys, through tables;
* `UniqueKeys`: no table has a key twice; `get_eq_some_iff` reads a lookup as membership.
-/

namespace SkylineSpeeder.Toml

/-! ### Values -/

/-- `toml::Value`. -/
inductive Value where
  | string (text : String)
  | integer (n : ℤ)
  | float (x : F64)
  | boolean (b : Bool)
  | datetime (text : String)
  | array (items : List Value)
  | table (entries : List (String × Value))

/-- `toml::Table`: the entries of a map, in the order of its keys. -/
abbrev Table := List (String × Value)

/-- `Value::is_table`. -/
def Value.isTable : Value → Bool
  | .table _ => true
  | _ => false

/-- `Value::as_table`. -/
def Value.asTable : Value → Option Table
  | .table entries => some entries
  | _ => none

/-- `Table::get`. -/
def Table.get (t : Table) (key : String) : Option Value := List.lookup key t

/-- A map from entries with different keys. -/
def Table.collect (entries : List (String × Value)) : Table :=
  entries.insertionSort fun e e' => e.1 ≤ e'.1

lemma mem_collect {entries : List (String × Value)} {e : String × Value} :
    e ∈ Table.collect entries ↔ e ∈ entries := List.mem_insertionSort _

lemma collect_nodup {entries : List (String × Value)} (h : (entries.map Prod.fst).Nodup) :
    ((Table.collect entries).map Prod.fst).Nodup :=
  (((List.perm_insertionSort _ entries).map Prod.fst).nodup_iff).mpr h

/-- A lookup finds the entry of the key. -/
lemma get_eq_some_iff {t : Table} (h : (t.map Prod.fst).Nodup) {key : String} {v : Value} :
    t.get key = some v ↔ (key, v) ∈ t := by
  induction t with
  | nil => simp [Table.get]
  | cons e t ih =>
      obtain ⟨key', v'⟩ := e
      rw [List.map_cons, List.nodup_cons] at h
      by_cases hkey : key = key'
      · subst hkey
        have hnot : (key, v) ∉ t := fun hmem => h.1 (List.mem_map.mpr ⟨_, hmem, rfl⟩)
        simp only [Table.get, List.lookup_cons_self, Option.some.injEq, List.mem_cons,
          Prod.mk.injEq, true_and]
        constructor
        · rintro rfl
          exact .inl rfl
        · rintro (rfl | hmem)
          · rfl
          · exact absurd hmem hnot
      · rw [Table.get, List.lookup_cons, beq_eq_false_iff_ne.mpr hkey, List.mem_cons]
        dsimp only
        rw [← Table.get, ih h.2, Prod.mk.injEq]
        simp [hkey]

/-! ### Paths -/

/-- `v` stands in the file at a path of keys. -/
inductive Occurs : Table → List String → Value → Prop
  | here {t : Table} {key : String} {v : Value} (h : (key, v) ∈ t) : Occurs t [key] v
  | inner {t t' : Table} {key : String} {path : List String} {v : Value}
      (h : (key, .table t') ∈ t) (hinner : Occurs t' path v) : Occurs t (key :: path) v

lemma Occurs.ne_nil {t : Table} {path : List String} {v : Value} (h : Occurs t path v) :
    path ≠ [] := by
  cases h <;> simp

/-- No table of the file has a key twice. -/
def UniqueKeys (t : Table) : Prop :=
  (t.map Prod.fst).Nodup ∧ ∀ path t', Occurs t path (.table t') → (t'.map Prod.fst).Nodup

lemma UniqueKeys.inner {t t' : Table} {key : String} (h : UniqueKeys t)
    (hmem : (key, .table t') ∈ t) : UniqueKeys t' :=
  ⟨h.2 [key] t' (.here hmem), fun path t'' hoccurs => h.2 (key :: path) t'' (.inner hmem hoccurs)⟩

lemma UniqueKeys.tail {t : Table} {e : String × Value} (h : UniqueKeys (e :: t)) :
    UniqueKeys t := by
  refine ⟨(List.nodup_cons.mp h.1).2, fun path t' hoccurs => h.2 path t' ?_⟩
  cases hoccurs with
  | here hmem => exact .here (List.mem_cons_of_mem e hmem)
  | inner hmem hinner => exact .inner (List.mem_cons_of_mem e hmem) hinner

/-- What stands in the first entry of a table, or in the rest. -/
lemma occurs_cons {t : Table} {key : String} {v₀ v : Value} {path : List String} :
    Occurs ((key, v₀) :: t) path v ↔
      (path = [key] ∧ v = v₀) ∨
      (∃ t' path', v₀ = .table t' ∧ path = key :: path' ∧ Occurs t' path' v) ∨
      Occurs t path v := by
  constructor
  · intro h
    cases h with
    | here hmem =>
        rcases List.mem_cons.mp hmem with heq | hmem
        · obtain ⟨rfl, rfl⟩ := Prod.mk.inj heq
          exact .inl ⟨rfl, rfl⟩
        · exact .inr (.inr (.here hmem))
    | inner hmem hinner =>
        rcases List.mem_cons.mp hmem with heq | hmem
        · obtain ⟨rfl, rfl⟩ := Prod.mk.inj heq
          exact .inr (.inl ⟨_, _, rfl, rfl, hinner⟩)
        · exact .inr (.inr (.inner hmem hinner))
  · rintro (⟨rfl, rfl⟩ | ⟨t', path', rfl, rfl, hinner⟩ | h)
    · exact .here (by simp)
    · exact .inner (by simp) hinner
    · cases h with
      | here hmem => exact .here (List.mem_cons_of_mem _ hmem)
      | inner hmem hinner => exact .inner (List.mem_cons_of_mem _ hmem) hinner

end SkylineSpeeder.Toml
