import GrammarAtlas.Proofs.Symbol.Entries
import GrammarAtlas.Proofs.Symbol.Numbering
import GrammarAtlas.Symbol.Table

/-!
# What a symbol table holds

A table that has been built numbers the entries of its grammar, and all its numbers are in reach.
Looking up a name in it therefore gives the symbol that the grammar has for the name.
-/

namespace GrammarAtlas

/-- The table is that of the grammar, whose entry rule has that name. -/
structure SymbolTable.Describes (table : SymbolTable) (grammar : Grammar) (start : String) :
    Prop where
  /-- The entry rule is the one that the rules determine. -/
  entry : grammar.startRule = some start
  /-- The symbols are numbered in order. -/
  numbering : table.numbering = .ofEntries .sixteenBit (grammar.entries start)
  /-- The tokens are those of the rules. -/
  tokens : table.tokens = grammar.tokenNames start
  /-- The fields are those that the rules label. -/
  fields : table.fields = grammar.fieldNames.toArray
  /-- The entry rule has a number. -/
  startNumber : table.ruleSymbol? start = some table.start
  /-- No number is that of the error symbol. -/
  fits : table.size < errorId

namespace SymbolTable

/-- A table that has been built is that of its grammar. -/
theorem describes_of_build {grammar : Grammar} {table : SymbolTable}
    (built : build grammar = .ok table) : ∃ start, table.Describes grammar start := by
  rw [build] at built
  cases assembled : assemble .sixteenBit grammar with
  | error error => simp [assembled] at built
  | ok made =>
    rw [assembled] at built
    dsimp only at built
    split at built
    · exact absurd built (by simp)
    · rename_i fits
      split at built
      · exact absurd built (by simp)
      · obtain rfl := Except.ok.inj built
        rw [assemble] at assembled
        cases entry : grammar.startRule with
        | none => simp [entry] at assembled
        | some start =>
          rw [entry] at assembled
          dsimp only at assembled
          split at assembled
          · exact absurd assembled (by simp)
          · rename_i number
            split at assembled
            · exact absurd assembled (by simp)
            · obtain rfl := Except.ok.inj assembled
              exact ⟨start, entry, rfl, rfl, rfl, number, Nat.lt_of_not_le fits⟩

namespace Describes

variable {table : SymbolTable} {grammar : Grammar} {start : String}

/-- All numbers are in reach. -/
theorem reached (describes : table.Describes grammar start) :
    ∀ index < (Numbering.ofEntries .sixteenBit (grammar.entries start)).symbols.size,
      Addressing.sixteenBit.reaches index := by
  intro index bound
  rw [← describes.numbering] at bound
  exact decide_eq_true (Nat.le_of_lt (Nat.lt_trans bound describes.fits))

/-- Looking up a name gives the symbol that the grammar has for it. -/
theorem symbol_of_name (describes : table.Describes grammar start) (name : String) :
    (table.ruleSymbol? name).bind table.get? = grammar.ownSymbol? start name := by
  have faithful := Numbering.faithful_ofEntries (grammar.entries start) describes.reached
  have owner (symbol : Symbol) : symbol ∈ (grammar.entries start).filterMap Entry.own? ↔
      grammar.ownSymbol? start symbol.node.name = some symbol := by
    rw [List.mem_filterMap, ← Grammar.own_mem_entries]
    constructor
    · rintro ⟨entry, listed, own⟩
      rwa [← Entry.own?_eq_some.mp own]
    · exact fun listed => ⟨_, listed, rfl⟩
  have named (name : String) (symbol : Symbol)
      (known : grammar.ownSymbol? start name = some symbol) : symbol.node.name = name := by
    rw [Grammar.node_of_ownSymbol? known]
  rw [← faithful.resolves_eq owner named name]
  rw [← describes.numbering] at faithful ⊢
  rw [ruleSymbol?]
  cases stored : table.numbering.ruleIds[name]? with
  | none => rfl
  | some id =>
    have fits : id < errorId := Nat.lt_trans (faithful.inUse name id stored) describes.fits
    exact if_neg (Nat.ne_of_lt fits)

/-- The tokens of the table are the rules that are tokens. -/
theorem isToken_iff (describes : table.Describes grammar start) {name : String} :
    table.isToken name = true ↔
      ∃ body, grammar.rules[name]? = some body ∧ Grammar.isToken start name body := by
  rw [isToken, describes.tokens, Grammar.tokenNames, Std.ExtTreeSet.contains_ofList,
    List.contains_iff_mem, List.mem_map]
  simp only [List.mem_filter, Prod.exists, exists_and_right, exists_eq_right,
    Grammar.mem_orderedRules]

/-- The symbols that the grammar has for names are numbered. -/
theorem mem_symbols (describes : table.Describes grammar start) {name : String} {symbol : Symbol}
    (known : grammar.ownSymbol? start name = some symbol) : symbol ∈ table.symbols := by
  rw [symbols, describes.numbering]
  apply Numbering.mem_symbols_of_own
  rw [Grammar.own_mem_entries, Grammar.node_of_ownSymbol? known]
  exact known

/-- A symbol of a rule or an external token that can be found is the only one of its kind of
node. -/
theorem symbol_eq (describes : table.Describes grammar start) {name : String} {own symbol : Symbol}
    (known : grammar.ownSymbol? start name = some own) (findable : own.isFindable)
    (listed : symbol ∈ table.symbols) (named : symbol.node = ⟨name, true⟩) : symbol = own := by
  have node : own.node = ⟨name, true⟩ := Grammar.node_of_ownSymbol? known
  have sameName (numbered : .own symbol ∈ grammar.entries start) : symbol = own := by
    rw [Grammar.own_mem_entries, named, known] at numbered
    exact (Option.some.inj numbered).symm
  have ownListed : .own own ∈ grammar.entries start := by
    rw [Grammar.own_mem_entries, node]
    exact known
  have reached := describes.reached
  rw [symbols, describes.numbering] at listed
  rw [Grammar.entries] at listed ownListed reached sameName
  rcases Numbering.mem_symbols_append listed with before | last | ⟨_, unknown⟩
  · rcases Numbering.mem_symbols_ofEntries before with rfl | numbered | shared
    · exact absurd named (by simp [Symbol.endOfInput])
    · exact sameName (List.mem_append_left _ numbered)
    · obtain ⟨words, rfl⟩ := Grammar.literal_of_shared shared
      exact absurd named (by simp [Symbol.literal])
  · exact sameName (List.mem_append_right _ last)
  · -- The symbol has been findable since the rules were numbered, so no alias adds another one.
    have numbered := (List.mem_append.mp ownListed).resolve_right
      (by simp [Grammar.aliasEntries])
    have found := Numbering.find?_isSome _ (Numbering.mem_symbols_of_own numbered) findable
      fun index bound => reached index (Nat.lt_of_lt_of_le bound (Numbering.size_le_size_append ..))
    rw [node, ← named, unknown] at found
    exact absurd found (by simp)

/-- The symbols of rules that are made of other symbols are symbols of their own. -/
theorem ownSymbol_of_nonTerminal (describes : table.Describes grammar start) {symbol : Symbol}
    (listed : symbol ∈ table.symbols) (kind : symbol.kind = .nonTerminal) :
    grammar.ownSymbol? start symbol.node.name = some symbol := by
  rw [symbols, describes.numbering] at listed
  rcases Numbering.mem_symbols_ofEntries listed with rfl | numbered | shared
  · exact absurd kind (by simp [Symbol.endOfInput])
  · exact Grammar.own_mem_entries.mp numbered
  · rw [Grammar.entries, List.mem_append] at shared
    rcases shared with before | last
    · obtain ⟨words, rfl⟩ := Grammar.literal_of_shared before
      exact absurd kind (by simp [Symbol.literal])
    · obtain ⟨node, rfl⟩ := Grammar.alternative_of_shared last
      exact absurd kind (by simp [Symbol.alternative])

/-- The symbols of rules that are made of other symbols are named after rules. -/
theorem mem_rules_of_nonTerminal (describes : table.Describes grammar start) {symbol : Symbol}
    (listed : symbol ∈ table.symbols) (kind : symbol.kind = .nonTerminal) :
    symbol.node.name ∈ grammar.rules := by
  have known := describes.ownSymbol_of_nonTerminal listed kind
  generalize symbol.node.name = name at known
  cases Grammar.ownSymbol_of_ownSymbol? known with
  | token => cases kind
  | rule rule => exact Std.ExtTreeMap.mem_iff_isSome_getElem?.mpr (by rw [rule]; rfl)
  | external => cases kind

end Describes

end SymbolTable

end GrammarAtlas
