import GrammarAtlas.Proofs.Derivation.Referent
import GrammarAtlas.Proofs.Grammar.Verdict

/-!
# Which kinds of node have symbols

Rules, external tokens and literals give symbols to kinds of node. An alias gives one only to a kind
that nothing else has given one to. So it can be told from the grammar what the symbols of a kind
stand for: `Grammar.Knows` says which kinds there are apart from aliases, and a symbol of an alias
is of another kind (`SymbolTable.Describes.origin`).
-/

namespace GrammarAtlas

namespace Grammar

variable {grammar : Grammar} {start words : String} {kind : NodeKind}

/-- A literal is a token: it stands outside all tokens in a rule that is no token itself, or in an
extra, or it is an external token. -/
def Spells (grammar : Grammar) (words : String) : Prop :=
  (∃ (name : String) (body : Rule), grammar.rules[name]? = some body ∧
    (grammar.isEntry name || !body.isLexical) ∧ words ∈ body.literals) ∨
  (∃ extra ∈ grammar.extraRules, words ∈ extra.literals) ∨
  ∃ token ∈ grammar.externalRules, token.literal = some words

/-- There are nodes of the kind apart from those that aliases give. -/
inductive Knows (grammar : Grammar) : NodeKind → Prop
  /-- References stand for them. -/
  | reference {name : String} : grammar.referent name = .node ⟨name, true⟩ →
    Knows grammar ⟨name, true⟩
  /-- They are those of a literal. -/
  | literal {words : String} : grammar.Spells words → Knows grammar ⟨words, false⟩

/-- A node of a rule body is an alias that gives the kind. -/
def Gives (grammar : Grammar) (wrapper : Rule) (kind : NodeKind) : Prop :=
  ∃ (name : String) (body : Rule), grammar.rules[name]? = some body ∧ wrapper.Within body ∧
    wrapper.aliasNode = some kind

/-- The entries before those of the aliases. -/
def plainEntries (grammar : Grammar) (start : String) : List Entry :=
  grammar.tokenEntries start ++ grammar.extraEntries ++ grammar.externalEntries ++
    grammar.ruleEntries start

/-- The entries are the plain ones and those of the aliases. -/
theorem entries_eq (grammar : Grammar) (start : String) :
    grammar.entries start = grammar.plainEntries start ++ grammar.aliasEntries := rfl

/-- The literals in the rules that are asked for are those in the rules that are no tokens. -/
theorem literal_mem_tokenEntries (entry : grammar.startRule = some start) :
    .shared (.literal words) ∈ grammar.tokenEntries start ↔
      ∃ (name : String) (body : Rule), grammar.rules[name]? = some body ∧
        (grammar.isEntry name || !body.isLexical) ∧ words ∈ body.literals := by
  simp only [tokenEntries, List.mem_flatMap, Prod.exists, mem_orderedRules,
    ← not_isToken_iff entry]
  refine exists_congr fun name => exists_congr fun body => and_congr_right fun _ => ?_
  by_cases token : isToken start name body
  · simp [token]
  · simp [token, literalEntry, Symbol.literal]

/-- The literals of the external scanner that are asked for are its tokens. -/
theorem literal_mem_externalEntries :
    .shared (.literal words) ∈ grammar.externalEntries ↔
      ∃ token ∈ grammar.externalRules, token.literal = some words := by
  rw [externalEntries, List.mem_filterMap]
  refine exists_congr fun token => and_congr_right fun _ => ?_
  rw [externalEntry]
  split
  · rename_i name symbolName
    have reference : token.kind = .symbol := by
      by_contra other
      simp [Rule.symbolName, Rule.isSymbol, other] at symbolName
    have nothing : token.literal = none := by
      rw [Rule.literal, Rule.textIf]
      split <;> simp [reference]
    rw [nothing]
    split <;> simp
  · simp [literalEntry, Symbol.literal]

/-- The literals that are asked for are those that are tokens. -/
theorem literal_mem_plainEntries (entry : grammar.startRule = some start) :
    .shared (.literal words) ∈ grammar.plainEntries start ↔ grammar.Spells words := by
  have extras : .shared (.literal words) ∈ grammar.extraEntries ↔
      ∃ extra ∈ grammar.extraRules, words ∈ extra.literals := by
    simp [extraEntries, literalEntry, Symbol.literal]
  have rules : .shared (.literal words) ∉ grammar.ruleEntries start := by
    simp [ruleEntries]
  simp only [plainEntries, List.mem_append, literal_mem_tokenEntries entry, extras,
    literal_mem_externalEntries, rules, or_false, Spells, or_assoc]

/-- The kinds that are asked for by aliases are those that they give. -/
theorem alternative_mem_aliasEntries :
    .shared (.alternative kind) ∈ grammar.aliasEntries ↔
      ∃ wrapper, grammar.Gives wrapper kind := by
  simp only [aliasEntries, Rule.aliasNodes, List.mem_flatMap, Prod.exists, List.mem_map,
    List.mem_filterMap, mem_orderedRules, Rule.mem_walk_iff, Gives]
  constructor
  · rintro ⟨name, body, rule, _, ⟨wrapper, within, gives⟩, same⟩
    obtain rfl := congrArg Symbol.node (Entry.shared.inj same)
    exact ⟨wrapper, name, body, rule, within, gives⟩
  · rintro ⟨wrapper, name, body, rule, within, gives⟩
    exact ⟨name, body, rule, kind, ⟨wrapper, within, gives⟩, rfl⟩

end Grammar

/-- Where a symbol comes from: it is the end of the input, or that of a rule or an external token,
or that of a literal, or that of a kind which only aliases give. -/
inductive Symbol.Origin (grammar : Grammar) (start : String) : Symbol → Prop
  /-- The end of the input. -/
  | endOfInput : Origin grammar start .endOfInput
  /-- A rule or an external token. -/
  | own {symbol : Symbol} : grammar.ownSymbol? start symbol.node.name = some symbol →
    Origin grammar start symbol
  /-- A literal. -/
  | literal {words : String} : grammar.Spells words → Origin grammar start (.literal words)
  /-- An alias. -/
  | alternative {kind : NodeKind} : ¬ grammar.Knows kind →
    Origin grammar start (.alternative kind)

namespace SymbolTable.Describes

variable {table : SymbolTable} {grammar : Grammar} {start name : String} {kind : NodeKind}

/-- References stand for nodes if there is a findable symbol for the name. -/
theorem referent_eq_node_iff (describes : table.Describes grammar start) :
    grammar.referent name = .node ⟨name, true⟩ ↔
      ∃ symbol, grammar.ownSymbol? start name = some symbol ∧ symbol.isFindable := by
  rw [← describes.referent, Referent.of, describes.symbol_of_name]
  cases own : grammar.ownSymbol? start name with
  | none =>
    cases rule : grammar.rules[name]? <;> simp [Referent.ofBody, rule]
  | some symbol =>
    have node := Grammar.node_of_ownSymbol? own
    by_cases findable : symbol.isFindable
    · simp [findable, node]
    · by_cases assembled : symbol.kind = .nonTerminal
      · cases rule : grammar.rules[name]? <;> simp [findable, assembled, Referent.ofBody, rule]
      · simp [findable, assembled]

/-- A kind has a findable symbol before those of the aliases if there are nodes of the kind apart
from these. -/
theorem isSome_find?_plainEntries (describes : table.Describes grammar start) :
    ((Numbering.ofEntries .sixteenBit (grammar.plainEntries start)).find? .sixteenBit kind).isSome ↔
      grammar.Knows kind := by
  have reached : ∀ index <
      (Numbering.ofEntries .sixteenBit (grammar.plainEntries start)).symbols.size,
      Addressing.sixteenBit.reaches index := by
    intro index bound
    refine describes.reached index (Nat.lt_of_lt_of_le bound ?_)
    exact Numbering.size_le_size_append .sixteenBit _ _
  constructor
  · intro found
    obtain ⟨symbol, listed, findable, rfl⟩ := Numbering.exists_of_find? found
    rcases Numbering.mem_symbols_ofEntries listed with rfl | own | shared
    · exact absurd findable (by simp [Symbol.isFindable, Symbol.endOfInput])
    · have known := Grammar.own_mem_entries.mp (List.mem_append_left grammar.aliasEntries own)
      have node := Grammar.node_of_ownSymbol? known
      rw [node]
      exact .reference (describes.referent_eq_node_iff.mpr ⟨symbol, known, findable⟩)
    · obtain ⟨words, rfl⟩ := Grammar.literal_of_shared shared
      exact .literal ((Grammar.literal_mem_plainEntries describes.entry).mp shared)
  · rintro (@⟨name, stands⟩ | @⟨words, spelled⟩)
    · obtain ⟨symbol, known, findable⟩ := describes.referent_eq_node_iff.mp stands
      have node := Grammar.node_of_ownSymbol? known
      have listed : .own symbol ∈ grammar.entries start := by
        rw [Grammar.own_mem_entries, node]
        exact known
      rw [Grammar.entries_eq] at listed
      have plain := (List.mem_append.mp listed).resolve_right (by simp [Grammar.aliasEntries])
      rw [← node]
      exact Numbering.find?_isSome _ (Numbering.mem_symbols_of_own plain) findable reached
    · exact Numbering.find?_isSome_of_shared
        ((Grammar.literal_mem_plainEntries describes.entry).mpr spelled) rfl reached

/-- Every symbol has an origin. -/
theorem origin (describes : table.Describes grammar start) {symbol : Symbol}
    (listed : symbol ∈ table.symbols) : symbol.Origin grammar start := by
  rw [symbols, describes.numbering, Grammar.entries_eq] at listed
  rcases Numbering.mem_symbols_append listed with plain | own | ⟨shared, unknown⟩
  · rcases Numbering.mem_symbols_ofEntries plain with rfl | own | shared
    · exact .endOfInput
    · exact .own (Grammar.own_mem_entries.mp (List.mem_append_left grammar.aliasEntries own))
    · obtain ⟨words, rfl⟩ := Grammar.literal_of_shared shared
      exact .literal ((Grammar.literal_mem_plainEntries describes.entry).mp shared)
  · exact absurd own (by simp [Grammar.aliasEntries])
  · -- An alias adds a symbol only where the entries before have left none.
    obtain ⟨kind, rfl⟩ := Grammar.alternative_of_shared shared
    refine .alternative fun known => ?_
    have found := describes.isSome_find?_plainEntries.mpr known
    exact absurd (show _ = none from unknown) (Option.ne_none_iff_isSome.mpr found)

/-- A findable symbol of a kind that there is only by aliases is the one of the kind. -/
theorem eq_alternative (describes : table.Describes grammar start) {symbol : Symbol}
    (listed : symbol ∈ table.symbols) (findable : symbol.isFindable)
    (unknown : ¬ grammar.Knows symbol.node) : symbol = .alternative symbol.node := by
  cases describes.origin listed with
  | endOfInput => cases findable
  | own known =>
    rw [Grammar.node_of_ownSymbol? known] at unknown
    exact absurd (.reference (describes.referent_eq_node_iff.mpr ⟨_, known, findable⟩)) unknown
  | literal spelled => exact absurd (.literal spelled) unknown
  | alternative => rfl

/-- A kind that an alias gives has a findable symbol. -/
theorem exists_symbol_of_gives (describes : table.Describes grammar start) {wrapper : Rule}
    (gives : grammar.Gives wrapper kind) :
    ∃ symbol ∈ table.symbols, symbol.isFindable ∧ symbol.node = kind := by
  have asked : .shared (.alternative kind) ∈ grammar.entries start :=
    List.mem_append_right _ (Grammar.alternative_mem_aliasEntries.mpr ⟨wrapper, gives⟩)
  rw [symbols, describes.numbering]
  exact Numbering.exists_of_find?
    (Numbering.find?_isSome_of_shared asked rfl describes.reached)

end SymbolTable.Describes

end GrammarAtlas
