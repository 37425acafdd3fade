import GrammarAtlas.Grammar
import Mathlib.Data.List.Nodup

/-!
# Tables and sets of names

A table that is made of a list holds what the list holds, if its names are distinct. So a table is
made again from what it lists, in whatever order that comes, and so is a set.
-/

namespace GrammarAtlas

/-- Lists of the same names make the same set. -/
theorem NameSet.ofList_eq_of_perm {names names' : List String} (same : names.Perm names') :
    (.ofList names : NameSet) = .ofList names' := by
  refine Std.ExtTreeSet.ext_mem fun name => ?_
  rw [Std.ExtTreeSet.mem_ofList, Std.ExtTreeSet.mem_ofList, List.contains_iff_mem,
    List.contains_iff_mem, same.mem_iff]

namespace ByName

/-- Two tables have the same names, and what stands under each name is related. -/
def Related {α : Type} (relation : α → α → Prop) (table table' : ByName α) : Prop :=
  ∀ name : String, Option.Rel relation table[name]? table'[name]?

variable {α : Type} {entries : List (String × α)} {name : String} {value : α}

/-- A table of distinct names holds what it is made of. -/
theorem getElem?_ofList_eq_some_iff (distinct : (entries.map Prod.fst).Nodup) :
    (.ofList entries : ByName α)[name]? = some value ↔ (name, value) ∈ entries := by
  have apart : entries.Pairwise fun entry other => ¬ compare entry.1 other.1 = .eq := by
    refine (List.pairwise_map.mp distinct).imp fun different same => different ?_
    exact Std.LawfulEqCmp.eq_of_compare same
  have held {value : α} (listed : (name, value) ∈ entries) :
      (.ofList entries : ByName α)[name]? = some value :=
    Std.ExtTreeMap.getElem?_ofList_of_mem Std.ReflCmp.compare_self apart listed
  constructor
  · intro known
    by_cases named : name ∈ entries.map Prod.fst
    · obtain ⟨⟨_, other⟩, listed, rfl⟩ := List.mem_map.mp named
      obtain rfl := Option.some.inj ((held listed).symm.trans known)
      exact listed
    · rw [Std.ExtTreeMap.getElem?_ofList_of_contains_eq_false (by simpa using named)] at known
      cases known
  · exact held

/-- A name that a table has stands for a value. -/
theorem exists_of_mem {table : ByName α} (known : name ∈ table) :
    ∃ value, table[name]? = some value :=
  Option.isSome_iff_exists.mp (Std.ExtTreeMap.mem_iff_isSome_getElem?.mp known)

/-- The names in a table are distinct. -/
theorem nodup_names (table : ByName α) : (table.toList.map Prod.fst).Nodup := by
  rw [Std.ExtTreeMap.map_fst_toList_eq_keys]
  exact Std.ExtTreeMap.nodup_keys

/-- A table of distinct names lists what it is made of, in some order. -/
theorem perm_toList_ofList (distinct : (entries.map Prod.fst).Nodup) :
    (.ofList entries : ByName α).toList.Perm entries := by
  have listed := (nodup_names (.ofList entries : ByName α)).of_map
  refine (List.perm_ext_iff_of_nodup listed distinct.of_map).mpr ?_
  rintro ⟨name, value⟩
  rw [Std.ExtTreeMap.mem_toList_iff_getElem?_eq_some, getElem?_ofList_eq_some_iff distinct]

/-- A table is made again from what it lists, in whatever order that comes. -/
theorem ofList_eq_of_perm {table : ByName α} (perm : entries.Perm table.toList) :
    .ofList entries = table := by
  have distinct : (entries.map Prod.fst).Nodup :=
    (perm.map Prod.fst).nodup_iff.mpr (nodup_names table)
  exact Std.ExtTreeMap.ext_toList ((perm_toList_ofList distinct).trans perm)

/-- A table is made again from what it lists. -/
theorem ofList_toList (table : ByName α) : .ofList table.toList = table :=
  ofList_eq_of_perm (.refl _)

/-! ## Related tables -/

namespace Related

variable {relation : α → α → Prop} {table table' : ByName α}

/-- What stands under a name in the one table has something related in the other. -/
theorem exists_related (related : Related relation table table')
    (held : table[name]? = some value) :
    ∃ value', table'[name]? = some value' ∧ relation value value' := by
  have here := related name
  generalize table'[name]? = found' at here ⊢
  rw [held] at here
  cases here with
  | some alike => exact ⟨_, rfl, alike⟩

/-- A name that the one table lacks is lacking in the other. -/
theorem lacks (related : Related relation table table') (lacking : table[name]? = none) :
    table'[name]? = none := by
  have here := related name
  generalize table'[name]? = found' at here ⊢
  rw [lacking] at here
  cases here
  rfl

/-- Related tables have the same names. -/
theorem contains_eq (related : Related relation table table') (name : String) :
    table.contains name = table'.contains name := by
  rw [Std.ExtTreeMap.contains_eq_isSome_getElem?, Std.ExtTreeMap.contains_eq_isSome_getElem?]
  cases held : table[name]? with
  | none => rw [related.lacks held]
  | some value =>
    obtain ⟨value', held', -⟩ := related.exists_related held
    rw [held', Option.isSome_some, Option.isSome_some]

/-- Related tables stay so without a name. -/
theorem erase (related : Related relation table table') (name : String) :
    Related relation (table.erase name) (table'.erase name) := by
  intro other
  rw [Std.ExtTreeMap.getElem?_erase, Std.ExtTreeMap.getElem?_erase]
  split
  · exact .none
  · exact related other

/-- A related table is listed like the other one, with what it has under each name. -/
theorem toList_eq (related : Related relation table table') :
    table'.toList = table.toList.map fun entry => (entry.1, table'[entry.1]?.getD entry.2) := by
  have changed : table' = table.map fun name value => table'[name]?.getD value := by
    refine Std.ExtTreeMap.ext_getElem? fun name => ?_
    rw [Std.ExtTreeMap.getElem?_map]
    cases held : table[name]? with
    | none => exact related.lacks held
    | some value =>
      obtain ⟨value', held', -⟩ := related.exists_related held
      rw [Option.map_some, held', Option.getD_some]
  exact (congrArg _ changed).trans Std.ExtTreeMap.toList_map

/-- What is the same for related values is so along related tables. -/
theorem map_toList {β : Type} (related : Related relation table table') (view : String × α → β)
    (same : ∀ {name value value'}, relation value value' →
      view (name, value) = view (name, value')) :
    table.toList.map view = table'.toList.map view := by
  rw [related.toList_eq, List.map_map]
  refine List.map_congr_left fun entry listed => ?_
  have held := Std.ExtTreeMap.mem_toList_iff_getElem?_eq_some.mp listed
  obtain ⟨value', held', alike⟩ := related.exists_related held
  rw [Function.comp_apply, held', Option.getD_some]
  exact same alike

/-- Related tables list the same names. -/
theorem keys_eq (related : Related relation table table') : table.keys = table'.keys := by
  rw [← Std.ExtTreeMap.map_fst_toList_eq_keys, ← Std.ExtTreeMap.map_fst_toList_eq_keys]
  exact related.map_toList Prod.fst fun _ => rfl

/-- Related tables have as many names. -/
theorem size_eq (related : Related relation table table') : table.size = table'.size := by
  rw [← Std.ExtTreeMap.length_keys, related.keys_eq, Std.ExtTreeMap.length_keys]

/-- Tables that are related are so in any weaker sense. -/
theorem mono {relation' : α → α → Prop} (related : Related relation table table')
    (weaker : ∀ {name : String} {value value'}, table[name]? = some value →
      relation value value' → relation' value value') : Related relation' table table' := by
  intro name
  cases held : table[name]? with
  | none =>
    rw [related.lacks held]
    exact .none
  | some value =>
    obtain ⟨value', held', alike⟩ := related.exists_related held
    rw [held']
    exact .some (weaker held alike)

/-- A table is related to the one with another value under a name, if the two values are. -/
theorem insert {value' : α} (same : ∀ value, relation value value)
    (held : table[name]? = some value) (changed : relation value value') :
    Related relation table (table.insert name value') := by
  intro other
  rw [Std.ExtTreeMap.getElem?_insert]
  split
  · rename_i here
    obtain rfl := Std.LawfulEqCmp.eq_of_compare here
    rw [held]
    exact .some changed
  · cases table[other]? with
    | none => exact .none
    | some value => exact .some (same value)

end Related

end ByName

end GrammarAtlas
