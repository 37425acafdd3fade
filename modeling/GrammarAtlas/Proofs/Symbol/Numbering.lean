import GrammarAtlas.Symbol.Numbering
import Mathlib.Data.List.Induction

/-!
# What a numbering holds

Entries are added one after another, so a numbering is described by what one entry changes. The
symbols are those of the entries: all that are added as they are, and those that are shared unless
their kind of node could be found before (`mem_symbols_append`). As long as the numbers are in
reach, looking up a name gives the last symbol that was added under it (`Faithful`).
-/

namespace GrammarAtlas

/-- The symbol that an entry adds as it is. -/
def Entry.own? : Entry → Option Symbol
  | own symbol => some symbol
  | shared _ => none

/-- An entry that adds a symbol as it is, is the entry of that symbol. -/
theorem Entry.own?_eq_some {entry : Entry} {symbol : Symbol} :
    entry.own? = some symbol ↔ entry = .own symbol := by
  cases entry with
  | own found => simp [own?]
  | shared found => simp [own?]

/-- The symbol that an entry asks for. -/
def Entry.symbol : Entry → Symbol
  | own symbol | shared symbol => symbol

namespace Numbering

variable {addressing : Addressing}

/-! ## One entry -/

@[simp] theorem symbols_push (numbering : Numbering) (symbol : Symbol) :
    (numbering.push symbol).symbols = numbering.symbols.push symbol := rfl

@[simp] theorem ruleIds_push (numbering : Numbering) (symbol : Symbol) :
    (numbering.push symbol).ruleIds = numbering.ruleIds := rfl

@[simp] theorem symbols_add_own (numbering : Numbering) (symbol : Symbol) :
    (numbering.add addressing (.own symbol)).symbols = numbering.symbols.push symbol := rfl

/-- The symbol of a rule is numbered under its name. -/
theorem ruleIds_add_own (numbering : Numbering) (symbol : Symbol) :
    (numbering.add addressing (.own symbol)).ruleIds =
      numbering.ruleIds.insert symbol.node.name (addressing.idOf numbering.symbols.size) := by
  simp [add, lastId]

/-- A shared symbol is added unless its kind of node can be found. -/
theorem symbols_add_shared (numbering : Numbering) (symbol : Symbol) :
    (numbering.add addressing (.shared symbol)).symbols =
      if (numbering.find? addressing symbol.node).isSome then numbering.symbols
      else numbering.symbols.push symbol := by
  rw [add]
  split
  · rfl
  · rfl

@[simp] theorem ruleIds_add_shared (numbering : Numbering) (symbol : Symbol) :
    (numbering.add addressing (.shared symbol)).ruleIds = numbering.ruleIds := by
  rw [add]
  split
  · rfl
  · rfl

/-- An entry leaves the symbols before it in place. -/
theorem symbols_add (addressing : Addressing) (numbering : Numbering) (entry : Entry) :
    (numbering.add addressing entry).symbols = numbering.symbols ∨
      (numbering.add addressing entry).symbols = numbering.symbols.push entry.symbol := by
  cases entry with
  | own symbol => exact .inr rfl
  | shared symbol =>
    rw [symbols_add_shared]
    split
    · exact .inl rfl
    · exact .inr rfl

/-- A symbol keeps its number when an entry is added. -/
theorem getElem?_symbols_add (numbering : Numbering) (entry : Entry) {id : Nat}
    (inUse : id < numbering.symbols.size) :
    (numbering.add addressing entry).symbols[id]? = numbering.symbols[id]? := by
  rcases symbols_add addressing numbering entry with same | more
  · rw [same]
  · rw [more, Array.getElem?_push_lt inUse, Array.getElem?_eq_getElem inUse]

/-- There are no fewer symbols than before. -/
theorem size_le_size_add (numbering : Numbering) (entry : Entry) :
    numbering.symbols.size ≤ (numbering.add addressing entry).symbols.size := by
  rcases symbols_add addressing numbering entry with same | more
  · exact Nat.le_of_eq (congrArg Array.size same).symm
  · rw [more, Array.size_push]
    exact Nat.le_succ _

/-- What could be found can still be found. -/
theorem find?_add (numbering : Numbering) (entry : Entry) {node : NodeKind} {id : Nat}
    (found : numbering.find? addressing node = some id) :
    (numbering.add addressing entry).find? addressing node = some id := by
  rw [find?, first_eq] at found ⊢
  rcases symbols_add addressing numbering entry with same | more
  · rwa [same]
  · rw [more, Array.toList_push, List.findIdx?_append]
    obtain ⟨known, reached⟩ := Option.filter_eq_some_iff.mp found
    rw [known]
    exact Option.filter_eq_some_iff.mpr ⟨rfl, reached⟩

/-! ## All entries -/

/-- The last entry is added to the numbering of the others. -/
theorem ofEntries_append_singleton (entries : List Entry) (entry : Entry) :
    ofEntries addressing (entries ++ [entry]) =
      (ofEntries addressing entries).add addressing entry := by
  rw [ofEntries, ofEntries, List.foldl_append, List.foldl_cons, List.foldl_nil]

/-- Further entries leave no fewer symbols. -/
theorem size_le_size_append (addressing : Addressing) (before after : List Entry) :
    (ofEntries addressing before).symbols.size ≤
      (ofEntries addressing (before ++ after)).symbols.size := by
  induction after using List.reverseRecOn with
  | nil => exact Nat.le_of_eq (by rw [List.append_nil])
  | append_singleton after entry ih =>
    rw [← List.append_assoc, ofEntries_append_singleton]
    exact Nat.le_trans ih (size_le_size_add _ entry)

/-- What some entries make findable stays findable. -/
theorem find?_append {before : List Entry} (after : List Entry) {node : NodeKind} {id : Nat}
    (found : (ofEntries addressing before).find? addressing node = some id) :
    (ofEntries addressing (before ++ after)).find? addressing node = some id := by
  induction after using List.reverseRecOn with
  | nil => rwa [List.append_nil]
  | append_singleton after entry ih =>
    rw [← List.append_assoc, ofEntries_append_singleton]
    exact find?_add _ entry ih

/-- Every symbol that is added as it is gets a number. -/
theorem mem_symbols_of_own {entries : List Entry} {symbol : Symbol}
    (listed : .own symbol ∈ entries) : symbol ∈ (ofEntries addressing entries).symbols := by
  induction entries using List.reverseRecOn with
  | nil => exact absurd listed List.not_mem_nil
  | append_singleton entries entry ih =>
    rw [ofEntries_append_singleton]
    rcases List.mem_append.mp listed with before | last
    · rcases symbols_add addressing (ofEntries addressing entries) entry with same | more
      · rw [same]
        exact ih before
      · rw [more]
        exact Array.mem_push_of_mem _ (ih before)
    · obtain rfl := List.mem_singleton.mp last
      exact Array.mem_push_self

/-- The symbols of further entries are added as they are, or they are shared and their kinds of node
could not be found before. -/
theorem mem_symbols_append {before after : List Entry} {symbol : Symbol}
    (listed : symbol ∈ (ofEntries addressing (before ++ after)).symbols) :
    symbol ∈ (ofEntries addressing before).symbols ∨ .own symbol ∈ after ∨
      .shared symbol ∈ after ∧
        (ofEntries addressing before).find? addressing symbol.node = none := by
  induction after using List.reverseRecOn with
  | nil =>
    rw [List.append_nil] at listed
    exact .inl listed
  | append_singleton after entry ih =>
    rw [← List.append_assoc, ofEntries_append_singleton] at listed
    have earlier (listed : symbol ∈ (ofEntries addressing (before ++ after)).symbols) :
        symbol ∈ (ofEntries addressing before).symbols ∨ .own symbol ∈ after ++ [entry] ∨
          .shared symbol ∈ after ++ [entry] ∧
            (ofEntries addressing before).find? addressing symbol.node = none := by
      rcases ih listed with first | own | ⟨shared, new⟩
      · exact .inl first
      · exact .inr (.inl (List.mem_append_left _ own))
      · exact .inr (.inr ⟨List.mem_append_left _ shared, new⟩)
    cases entry with
    | own added =>
      rcases Array.mem_push.mp listed with old | rfl
      · exact earlier old
      · exact .inr (.inl List.mem_concat_self)
    | shared added =>
      rw [symbols_add_shared] at listed
      split at listed
      · exact earlier listed
      · rename_i unknown
        rcases Array.mem_push.mp listed with old | rfl
        · exact earlier old
        · refine .inr (.inr ⟨List.mem_concat_self, ?_⟩)
          cases found : (ofEntries addressing before).find? addressing symbol.node with
          | none => rfl
          | some id => exact absurd (by rw [find?_append after found]; rfl) unknown

/-- Every symbol is the end of the input or that of an entry. -/
theorem mem_symbols_ofEntries {entries : List Entry} {symbol : Symbol}
    (listed : symbol ∈ (ofEntries addressing entries).symbols) :
    symbol = .endOfInput ∨ .own symbol ∈ entries ∨ .shared symbol ∈ entries := by
  rw [← List.nil_append entries] at listed
  rcases mem_symbols_append listed with initial | own | ⟨shared, _⟩
  · exact .inl (by simpa [ofEntries, Numbering.initial] using initial)
  · exact .inr (.inl own)
  · exact .inr (.inr shared)

/-- A findable symbol is found, if its number is in reach. -/
theorem find?_isSome (numbering : Numbering) {symbol : Symbol}
    (listed : symbol ∈ numbering.symbols) (findable : symbol.isFindable)
    (reached : ∀ index < numbering.symbols.size, addressing.reaches index) :
    (numbering.find? addressing symbol.node).isSome := by
  rw [find?, first_eq]
  have answered : symbol.answersTo symbol.node := by simp [Symbol.answersTo, findable]
  cases found : numbering.symbols.toList.findIdx? (·.answersTo symbol.node) with
  | none =>
    exact absurd answered (Bool.eq_false_iff.mp
      (List.findIdx?_eq_none_iff.mp found symbol (Array.mem_toList_iff.mpr listed)))
  | some index =>
    obtain ⟨bound, _⟩ := List.findIdx?_eq_some_iff_getElem.mp found
    simp [reached index (by simpa using bound)]

/-- What is found is a findable symbol of the kind. -/
theorem exists_of_find? {numbering : Numbering} {node : NodeKind}
    (found : (numbering.find? addressing node).isSome) :
    ∃ symbol ∈ numbering.symbols, symbol.isFindable ∧ symbol.node = node := by
  obtain ⟨index, known⟩ := Option.isSome_iff_exists.mp found
  rw [find?, first_eq, Option.filter_eq_some_iff, List.findIdx?_eq_some_iff_getElem] at known
  obtain ⟨⟨bound, answers, _⟩, _⟩ := known
  rw [Symbol.answersTo, Bool.and_eq_true, decide_eq_true_eq] at answers
  exact ⟨_, Array.mem_toList_iff.mp (List.getElem_mem bound), answers⟩

/-- What a shared symbol asks for can be found afterwards, if the numbers are in reach. -/
theorem find?_isSome_of_shared {entries : List Entry} {symbol : Symbol}
    (listed : .shared symbol ∈ entries) (findable : symbol.isFindable)
    (reached : ∀ index < (ofEntries addressing entries).symbols.size, addressing.reaches index) :
    ((ofEntries addressing entries).find? addressing symbol.node).isSome := by
  obtain ⟨before, after, rfl⟩ := List.append_of_mem listed
  cases found : (ofEntries addressing before).find? addressing symbol.node with
  | some id =>
    rw [find?_append _ found]
    rfl
  | none =>
    have added : symbol ∈ (ofEntries addressing (before ++ [.shared symbol])).symbols := by
      rw [ofEntries_append_singleton, symbols_add_shared, found]
      exact Array.mem_push_self
    rw [← List.singleton_append, ← List.append_assoc] at reached ⊢
    have known := find?_isSome _ added findable fun index bound =>
      reached index (Nat.lt_of_lt_of_le bound (size_le_size_append ..))
    obtain ⟨id, known⟩ := Option.isSome_iff_exists.mp known
    rw [find?_append _ known]
    rfl

/-! ## Numbers of names -/

/-- Looking up a name gives the last of some symbols that has the name. -/
structure Faithful (numbering : Numbering) (owned : List Symbol) : Prop where
  /-- Every number is in use. -/
  inUse : ∀ (name : String) (id : Nat), numbering.ruleIds[name]? = some id →
    id < numbering.symbols.size
  /-- The symbol of that number is the last one of the name. -/
  resolves : ∀ name : String, numbering.ruleIds[name]?.bind (numbering.symbols[·]?) =
    owned.reverse.find? (·.node.name = name)

/-- A symbol that is numbered under a name is found there. -/
theorem Faithful.own {numbering : Numbering} {owned : List Symbol}
    (faithful : Faithful numbering owned) (symbol : Symbol)
    (reached : addressing.reaches numbering.symbols.size) :
    Faithful (numbering.add addressing (.own symbol)) (owned ++ [symbol]) := by
  have number : addressing.idOf numbering.symbols.size = numbering.symbols.size :=
    if_pos reached
  constructor
  · intro name id stored
    rw [symbols_add_own, Array.size_push]
    rw [ruleIds_add_own, number, Std.ExtTreeMap.getElem?_insert] at stored
    split at stored
    · obtain rfl := Option.some.inj stored
      exact Nat.lt_succ_self _
    · exact Nat.lt_succ_of_lt (faithful.inUse name id stored)
  · intro name
    rw [symbols_add_own, ruleIds_add_own, number, Std.ExtTreeMap.getElem?_insert,
      List.reverse_append, List.reverse_singleton, List.singleton_append, List.find?_cons]
    by_cases same : symbol.node.name = name
    · simp [same]
    · simp only [Std.LawfulEqCmp.compare_eq_iff_eq, same, decide_false, if_false]
      rw [← faithful.resolves name]
      cases stored : numbering.ruleIds[name]? with
      | none => rfl
      | some id =>
        have inUse := faithful.inUse name id stored
        simp [Array.getElem?_push_lt inUse]

/-- A shared symbol has no number under a name. -/
theorem Faithful.shared {numbering : Numbering} {owned : List Symbol}
    (faithful : Faithful numbering owned) (symbol : Symbol) :
    Faithful (numbering.add addressing (.shared symbol)) owned := by
  constructor
  · intro name id stored
    rw [ruleIds_add_shared] at stored
    exact Nat.lt_of_lt_of_le (faithful.inUse name id stored) (size_le_size_add _ _)
  · intro name
    rw [ruleIds_add_shared, ← faithful.resolves name]
    cases stored : numbering.ruleIds[name]? with
    | none => rfl
    | some id => exact getElem?_symbols_add _ _ (faithful.inUse name id stored)

/-- All names of a numbering are resolved, if its numbers are in reach. -/
theorem faithful_ofEntries (entries : List Entry)
    (reached : ∀ index < (ofEntries addressing entries).symbols.size, addressing.reaches index) :
    Faithful (ofEntries addressing entries) (entries.filterMap Entry.own?) := by
  induction entries using List.reverseRecOn with
  | nil => exact ⟨by simp [ofEntries, initial], by simp [ofEntries, initial]⟩
  | append_singleton entries entry ih =>
    have smaller := size_le_size_append addressing entries [entry]
    have faithful := ih fun index bound => reached index (Nat.lt_of_lt_of_le bound smaller)
    rw [ofEntries_append_singleton] at reached smaller ⊢
    rw [List.filterMap_append]
    cases entry with
    | own symbol =>
      rw [symbols_add_own, Array.size_push] at reached
      exact faithful.own symbol (reached _ (Nat.lt_succ_self _))
    | shared symbol =>
      rw [show [Entry.shared symbol].filterMap Entry.own? = [] from rfl, List.append_nil]
      exact faithful.shared symbol

/-- Names are resolved by a function that tells which symbol has which name. -/
theorem Faithful.resolves_eq {numbering : Numbering} {owned : List Symbol}
    (faithful : Faithful numbering owned) {symbol? : String → Option Symbol}
    (owner : ∀ symbol, symbol ∈ owned ↔ symbol? symbol.node.name = some symbol)
    (named : ∀ name symbol, symbol? name = some symbol → symbol.node.name = name)
    (name : String) :
    numbering.ruleIds[name]?.bind (numbering.symbols[·]?) = symbol? name := by
  rw [faithful.resolves]
  cases found : owned.reverse.find? (·.node.name = name) with
  | some symbol =>
    have listed := List.mem_reverse.mp (List.mem_of_find?_eq_some found)
    have same : symbol.node.name = name := by simpa using List.find?_some found
    rw [← same, (owner symbol).mp listed]
  | none =>
    cases known : symbol? name with
    | none => rfl
    | some symbol =>
      have same := named name symbol known
      have listed : symbol ∈ owned := (owner symbol).mpr (same ▸ known)
      exact absurd (decide_eq_true same)
        (List.find?_eq_none.mp found symbol (List.mem_reverse.mpr listed))

end Numbering

end GrammarAtlas
