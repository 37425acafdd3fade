import GrammarAtlas.Proofs.ByName
import GrammarAtlas.Proofs.Symbol.Entries
import GrammarAtlas.Proofs.Symbol.Numbering
import GrammarAtlas.Symbol.Table

/-!
# When a grammar has a symbol table

Which names get a number depends on the entries alone and not on how far numbers reach. A symbol
table can therefore fail to be assembled for three reasons only, all of which can be told from the
grammar: there is no entry rule, the entry rule is inlined, or an external token is declared a
supertype (`SymbolTable.assembled_assemble`).
-/

namespace GrammarAtlas

namespace Numbering

/-- A name has a number exactly if a symbol of that name is added as it is. -/
theorem mem_ruleIds_ofEntries (addressing : Addressing) (entries : List Entry) (name : String) :
    name ∈ (ofEntries addressing entries).ruleIds ↔
      ∃ symbol, .own symbol ∈ entries ∧ symbol.node.name = name := by
  induction entries using List.reverseRecOn with
  | nil => simp [ofEntries, initial]
  | append_singleton entries entry ih =>
    rw [ofEntries_append_singleton]
    cases entry with
    | own added =>
      rw [ruleIds_add_own, Std.ExtTreeMap.mem_insert, ih]
      simp only [Std.LawfulEqCmp.compare_eq_iff_eq, List.mem_append, List.mem_singleton,
        Entry.own.injEq]
      constructor
      · rintro (rfl | ⟨symbol, listed, named⟩)
        · exact ⟨added, .inr rfl, rfl⟩
        · exact ⟨symbol, .inl listed, named⟩
      · rintro ⟨symbol, listed | rfl, named⟩
        · exact .inr ⟨symbol, listed, named⟩
        · exact .inl named
    | shared added =>
      rw [ruleIds_add_shared, ih]
      simp

end Numbering

namespace Grammar

variable {grammar : Grammar} {start : String}

/-- A name has a number exactly if the grammar has a symbol for it. -/
theorem mem_ruleIds_iff (addressing : Addressing) (grammar : Grammar) (start name : String) :
    name ∈ (Numbering.ofEntries addressing (grammar.entries start)).ruleIds ↔
      (grammar.ownSymbol? start name).isSome := by
  rw [Numbering.mem_ruleIds_ofEntries, Option.isSome_iff_exists]
  constructor
  · rintro ⟨symbol, listed, rfl⟩
    exact ⟨symbol, own_mem_entries.mp listed⟩
  · rintro ⟨symbol, known⟩
    have node := node_of_ownSymbol? known
    refine ⟨symbol, own_mem_entries.mpr ?_, ?_⟩
    · rw [node]
      exact known
    · rw [node]

/-- The entry rule has a number unless it is inlined. -/
theorem isSome_ownSymbol?_start (entry : grammar.startRule = some start) :
    (grammar.ownSymbol? start start).isSome ↔ ¬ grammar.isInlined start := by
  obtain ⟨body, rule⟩ := ByName.exists_of_mem (mem_rules_of_startRule entry)
  rw [ownSymbol?, rule]
  by_cases inlined : grammar.isInlined start
  · simp [isToken, inlined]
  · simp [isToken, inlined]

/-- An external token is declared a supertype, although there is no rule of that name. -/
structure Bodiless (grammar : Grammar) (name : String) : Prop where
  /-- It is declared a supertype. -/
  supertype : name ∈ grammar.supertypeNames
  /-- It is an external token. -/
  external : name ∈ grammar.externalNames
  /-- There is no rule of that name. -/
  unruled : name ∉ grammar.rules

/-- A name that is declared a supertype has a number but no body exactly if it is bodiless. -/
theorem bodiless_iff (addressing : Addressing) (start name : String) :
    grammar.Bodiless name ↔ name ∈ grammar.supertypeNames ∧
      name ∈ (Numbering.ofEntries addressing (grammar.entries start)).ruleIds ∧
      name ∉ grammar.rules := by
  have numbered (unruled : name ∉ grammar.rules) :
      name ∈ (Numbering.ofEntries addressing (grammar.entries start)).ruleIds ↔
        name ∈ grammar.externalNames := by
    rw [mem_ruleIds_iff, ownSymbol?, Std.ExtTreeMap.getElem?_eq_none unruled]
    simp
  constructor
  · rintro ⟨supertype, external, unruled⟩
    exact ⟨supertype, (numbered unruled).mpr external, unruled⟩
  · rintro ⟨supertype, known, unruled⟩
    exact ⟨supertype, (numbered unruled).mp known, unruled⟩

/-- The search for a bodiless supertype finds one if there is one. -/
theorem bodilessSupertype?_cases (addressing : Addressing) (grammar : Grammar) (start : String) :
    (∃ name, (Numbering.ofEntries addressing (grammar.entries start)).bodilessSupertype? grammar =
        some name ∧ grammar.Bodiless name) ∨
      (Numbering.ofEntries addressing (grammar.entries start)).bodilessSupertype? grammar = none ∧
        ∀ name, ¬ grammar.Bodiless name := by
  rw [Numbering.bodilessSupertype?]
  cases found : grammar.supertypeNames.find? fun name =>
      (Numbering.ofEntries addressing (grammar.entries start)).ruleIds.contains name &&
        !grammar.rules.contains name with
  | some name =>
    have listed := List.mem_of_find?_eq_some found
    have holds := List.find?_some found
    rw [Bool.and_eq_true, Bool.not_eq_true', ← Bool.not_eq_true,
      ← Std.ExtTreeMap.mem_iff_contains, ← Std.ExtTreeMap.mem_iff_contains] at holds
    exact .inl ⟨name, rfl, (bodiless_iff addressing start name).mpr ⟨listed, holds⟩⟩
  | none =>
    refine .inr ⟨rfl, fun name bodiless => ?_⟩
    obtain ⟨listed, numbered, unruled⟩ := (bodiless_iff addressing start name).mp bodiless
    have misses := List.find?_eq_none.mp found name listed
    exact absurd misses (by simp [numbered, unruled])

end Grammar

namespace SymbolTable

/-- What assembling a symbol table comes to, and when. -/
inductive Assembled (addressing : Addressing) (grammar : Grammar) :
    Except SymbolError SymbolTable → Prop where
  /-- There is no entry rule. -/
  | noEntry (none : grammar.startRule = none) : Assembled addressing grammar (.error .noStartRule)
  /-- The entry rule is inlined. -/
  | inlined {start : String} (entry : grammar.startRule = some start)
    (inlined : grammar.isInlined start) : Assembled addressing grammar (.error .noStartRule)
  /-- An external token is declared a supertype. -/
  | bodiless {start name : String} (entry : grammar.startRule = some start)
    (kept : ¬ grammar.isInlined start) (bodiless : grammar.Bodiless name) :
    Assembled addressing grammar (.error (.bodilessSupertype name))
  /-- There is a symbol table. -/
  | table {start : String} {table : SymbolTable} (entry : grammar.startRule = some start)
    (kept : ¬ grammar.isInlined start) (bodied : ∀ name, ¬ grammar.Bodiless name)
    (numbering : table.numbering = .ofEntries addressing (grammar.entries start))
    (number : table.ruleSymbol? start = some table.start)
    (subtypes : table.subtypeIds = .ofList (grammar.supertypeNames.filterMap
      (table.numbering.subtypeEntry addressing grammar))) :
    Assembled addressing grammar (.ok table)

/-- Assembling a symbol table comes to one of these. -/
theorem assembled_assemble (addressing : Addressing) (grammar : Grammar) :
    Assembled addressing grammar (assemble addressing grammar) := by
  rw [assemble]
  cases entry : grammar.startRule with
  | none => exact .noEntry entry
  | some start =>
    have numbered := (Grammar.mem_ruleIds_iff addressing grammar start start).trans
      (Grammar.isSome_ownSymbol?_start entry)
    dsimp only
    cases number : (Numbering.ofEntries addressing (grammar.entries start)).ruleIds[start]? with
    | none =>
      refine .inlined entry ?_
      by_contra kept
      have known := numbered.mpr kept
      rw [Std.ExtTreeMap.mem_iff_isSome_getElem?, number] at known
      exact absurd known (by simp)
    | some id =>
      have kept : ¬ grammar.isInlined start := by
        refine numbered.mp ?_
        rw [Std.ExtTreeMap.mem_iff_isSome_getElem?, number]
        rfl
      dsimp only
      rcases Grammar.bodilessSupertype?_cases addressing grammar start with
        ⟨name, found, bodiless⟩ | ⟨found, bodied⟩
      · rw [found]
        exact .bodiless entry kept bodiless
      · rw [found]
        exact .table entry kept bodied rfl number rfl

/-- Where the entry rule is not inlined and no supertype is bodiless, there is a symbol table. -/
theorem exists_assemble (addressing : Addressing) {grammar : Grammar} {start : String}
    (entry : grammar.startRule = some start) (kept : ¬ grammar.isInlined start)
    (bodied : ∀ name, ¬ grammar.Bodiless name) :
    ∃ table, assemble addressing grammar = .ok table ∧
      table.numbering = .ofEntries addressing (grammar.entries start) ∧
      table.ruleSymbol? start = some table.start ∧
      table.subtypeIds = .ofList (grammar.supertypeNames.filterMap
        (table.numbering.subtypeEntry addressing grammar)) := by
  have assembled := assembled_assemble addressing grammar
  generalize assemble addressing grammar = outcome at assembled
  cases assembled with
  | noEntry none => exact absurd (none.symm.trans entry) (by simp)
  | inlined entry' inlined =>
    obtain rfl := Option.some.inj (entry.symm.trans entry')
    exact absurd inlined kept
  | @bodiless _ name _ _ bodiless => exact absurd bodiless (bodied name)
  | @table _ table entry' _ _ numbering number subtypes =>
    obtain rfl := Option.some.inj (entry.symm.trans entry')
    exact ⟨table, rfl, numbering, number, subtypes⟩

/-! ## Limits -/

/-- The table, unless it has too many symbols or fields. -/
def withinLimits (table : SymbolTable) : Except SymbolError SymbolTable :=
  if errorId ≤ table.size then .error (.tooManySymbols table.size)
  else if errorId ≤ table.fieldCount then .error (.tooManyFields table.fieldCount)
  else .ok table

/-- A table is built by assembling it and then keeping to the limits. -/
theorem build_eq (grammar : Grammar) :
    build grammar = (assemble .sixteenBit grammar).bind withinLimits := by
  rw [build]
  cases assemble .sixteenBit grammar with
  | error error => rfl
  | ok table => rfl

/-- Keeping to the limits fails for too many symbols or too many fields only. -/
theorem withinLimits_cases (table : SymbolTable) :
    table.withinLimits = .ok table ∨
      (∃ count, table.withinLimits = .error (.tooManySymbols count)) ∨
      ∃ count, table.withinLimits = .error (.tooManyFields count) := by
  rw [withinLimits]
  split
  · exact .inr (.inl ⟨_, rfl⟩)
  · split
    · exact .inr (.inr ⟨_, rfl⟩)
    · exact .inl rfl

/-- A bodiless supertype keeps a table from being built. -/
theorem bodiless_iff (grammar : Grammar) :
    (∃ name, build grammar = .error (.bodilessSupertype name)) ↔
      ∃ start, grammar.startRule = some start ∧ ¬ grammar.isInlined start ∧
        ∃ name, grammar.Bodiless name := by
  have assembled := assembled_assemble .sixteenBit grammar
  rw [build_eq]
  generalize assemble .sixteenBit grammar = outcome at assembled
  cases assembled with
  | noEntry none => simp [Except.bind, none]
  | inlined entry inlined => simp [Except.bind, entry, inlined]
  | @bodiless start name entry kept bodiless =>
    exact ⟨fun _ => ⟨start, entry, kept, name, bodiless⟩, fun _ => ⟨name, rfl⟩⟩
  | @table start table entry kept bodied =>
    constructor
    · rintro ⟨name, failed⟩
      rw [Except.bind] at failed
      rcases table.withinLimits_cases with done | ⟨_, large⟩ | ⟨_, large⟩
      · exact absurd (done.symm.trans failed) (by simp)
      · exact absurd (large.symm.trans failed) (by simp)
      · exact absurd (large.symm.trans failed) (by simp)
    · rintro ⟨_, _, _, name, bodiless⟩
      exact absurd bodiless (bodied name)

end SymbolTable

end GrammarAtlas
