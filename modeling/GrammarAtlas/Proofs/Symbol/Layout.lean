import GrammarAtlas.Proofs.Symbol.Addressing
import GrammarAtlas.Proofs.Symbol.Kinds
import GrammarAtlas.Proofs.Symbol.Sequence

/-!
# The layout of a symbol table

The symbols of a table come in blocks: the end of the input, the tokens, the rules that are made of
other symbols, and the kinds of node that only aliases give. `SymbolTable.Layout` says what each
block holds, in terms of the grammar alone, and `SymbolTable.exists_layout` that every table that
has been built is laid out in this way.
-/

namespace GrammarAtlas

/-! ## Literals outside tokens -/

/-- Whether a node of the kind is a token as a whole, with everything below it. -/
def RuleKind.isWhole : RuleKind → Bool
  | .text | .pattern | .token | .immediateToken => true
  | _ => false

namespace Rule

/-- The node stands in the tree, below no literal, pattern or token. -/
inductive Exposed (node : Rule) : Rule → Prop
  /-- The root. -/
  | root : Exposed node node
  /-- A node of a tree directly below. -/
  | inside {rule part : Rule} : ¬ rule.kind.isWhole → part ∈ rule.children → Exposed node part →
    Exposed node rule

/-- Only a literal has the text of one. -/
theorem kind_of_literal {rule : Rule} {words : String} (text : rule.literal = some words) :
    rule.kind = .text := by
  by_contra other
  rw [literal, textIf] at text
  split at text <;> simp [other] at text

/-- The literals of a tree are its own if it is a token as a whole, or else those of the trees
below. -/
theorem literals_eq_ite (rule : Rule) :
    rule.literals =
      if rule.kind.isWhole then rule.literal.toList else rule.children.flatMap literals := by
  have silent (other : rule.kind ≠ .text) : rule.literal = none :=
    Option.eq_none_iff_forall_ne_some.mpr fun _ text => other (kind_of_literal text)
  rw [literals_eq]
  cases kind : rule.kind <;> simp_all [RuleKind.isWhole]

/-- The literals of a tree are those of its nodes outside all tokens. -/
theorem mem_literals_iff {rule : Rule} {words : String} :
    words ∈ rule.literals ↔ ∃ node : Rule, node.Exposed rule ∧ node.literal = some words := by
  constructor
  · intro listed
    rw [literals_eq_ite] at listed
    split at listed
    · exact ⟨rule, .root, Option.mem_toList.mp listed⟩
    · rename_i assembled
      obtain ⟨part, among, deeper⟩ := List.mem_flatMap.mp listed
      have := sizeOf_lt_of_mem_children among
      obtain ⟨node, exposed, text⟩ := mem_literals_iff.mp deeper
      exact ⟨node, .inside assembled among exposed, text⟩
  · rintro ⟨node, exposed, text⟩
    induction exposed with
    | root =>
      rw [literals_eq_ite, if_pos (by rw [kind_of_literal text]; rfl), text]
      exact List.mem_singleton.mpr rfl
    | inside assembled among _ ih =>
      rw [literals_eq_ite, if_neg assembled]
      exact List.mem_flatMap.mpr ⟨_, among, ih⟩
termination_by sizeOf rule

end Rule

namespace Grammar

variable {grammar : Grammar} {start words : String} {symbol : Symbol}

/-- A literal is a token, as the nodes of the rule trees tell: it stands outside all tokens in a
rule that is no token itself, or in an extra, or it is an external token. -/
def HasLiteral (grammar : Grammar) (words : String) : Prop :=
  (∃ (name : String) (body : Rule), grammar.rules[name]? = some body ∧
    (grammar.isEntry name || !body.isLexical) ∧
      ∃ node : Rule, node.Exposed body ∧ node.literal = some words) ∨
  (∃ extra ∈ grammar.extraRules, ∃ node : Rule, node.Exposed extra ∧ node.literal = some words) ∨
  ∃ token ∈ grammar.externalRules, token.literal = some words

/-- The listings of literals tell the same as the nodes. -/
theorem spells_iff : grammar.Spells words ↔ grammar.HasLiteral words := by
  simp only [Spells, HasLiteral, Rule.mem_literals_iff]

/-! ## Blocks -/

/-- The entries of the tokens. -/
def lexicalEntries (grammar : Grammar) (start : String) : List Entry :=
  grammar.tokenEntries start ++ grammar.extraEntries ++ grammar.externalEntries

/-- The tokens in the order of their numbers. -/
def tokenBlock (grammar : Grammar) (start : String) : List Symbol :=
  Numbering.appended [.endOfInput] (grammar.lexicalEntries start)

/-- The rules that are made of other symbols, in the order of their numbers. -/
def ruleBlock (grammar : Grammar) (start : String) : List Symbol :=
  (grammar.orderedRules.filter fun (name, body) =>
    !(isToken start name body || grammar.isInlined name)).map fun entry =>
      grammar.ruleSymbol start entry.1

/-- The kinds of node that only aliases give, in the order of their numbers. -/
def aliasBlock (grammar : Grammar) (start : String) : List Symbol :=
  Numbering.appended (.endOfInput :: (grammar.tokenBlock start ++ grammar.ruleBlock start))
    grammar.aliasEntries

/-- The rules that become tokens are added as they are, in order. -/
theorem own_tokenEntries :
    (grammar.tokenEntries start).filterMap Entry.own? =
      (grammar.orderedRules.filter fun (name, body) => isToken start name body).map fun entry =>
        tokenSymbol entry.1 := by
  rw [tokenEntries]
  induction grammar.orderedRules with
  | nil => rfl
  | cons entry rest ih =>
    obtain ⟨name, body⟩ := entry
    rw [List.flatMap_cons, List.filterMap_append, ih]
    by_cases token : isToken start name body
    · simp [token, Entry.own?]
    · simp [token, literalEntry, List.filterMap_map, Entry.own?, Function.comp_def]

/-- The external tokens that are no rules are added as they are, in order. -/
theorem own_externalEntries :
    grammar.externalEntries.filterMap Entry.own? =
      (grammar.externalNames.filter fun name => !grammar.rules.contains name).map
        externalSymbol := by
  rw [externalEntries, externalNames]
  induction grammar.externalRules with
  | nil => rfl
  | cons token rest ih =>
    simp only [List.filterMap_cons, externalEntry]
    cases token.symbolName with
    | none =>
      cases token.literal with
      | none => exact ih
      | some words => exact ih
    | some name => by_cases rule : grammar.rules.contains name <;> simp [rule, Entry.own?, ih]

/-- The rules that are made of other symbols are added as they are, in order. -/
theorem own_ruleEntries :
    (grammar.ruleEntries start).filterMap Entry.own? = grammar.ruleBlock start := by
  rw [ruleEntries, List.filterMap_filterMap, ruleBlock, ← List.filterMap_eq_map,
    List.filterMap_filter]
  refine List.filterMap_congr ?_
  rintro ⟨name, body⟩ _
  by_cases left : isToken start name body || grammar.isInlined name
  · simp only [left, if_true, Option.bind_none, Bool.not_true, Bool.false_eq_true, if_false]
  · simp only [left, Bool.not_false, if_true]
    rfl

/-- The tokens and the rules are added by the entries before those of the aliases. -/
theorem appended_plainEntries (grammar : Grammar) (start : String) :
    Numbering.appended [.endOfInput] (grammar.plainEntries start) =
      grammar.tokenBlock start ++ grammar.ruleBlock start := by
  have rules : Numbering.appended ([.endOfInput] ++ grammar.tokenBlock start)
      (grammar.ruleEntries start) = grammar.ruleBlock start := by
    rw [Numbering.appended_of_own (by simp [ruleEntries]), own_ruleEntries]
  rw [plainEntries, Numbering.appended_append]
  exact congrArg (grammar.tokenBlock start ++ ·) rules

/-- Of the tokens, rules and external tokens are named. -/
theorem named_of_own (asked : .own symbol ∈ grammar.lexicalEntries start) :
    symbol.node.named ∧ (symbol.kind = .terminal ∨ symbol.kind = .external) := by
  simp only [lexicalEntries, List.mem_append, own_mem_tokenEntries,
    own_mem_externalEntries] at asked
  rcases asked with (⟨name, _, _, _, rfl⟩ | extra) | ⟨name, _, _, rfl⟩
  · exact ⟨rfl, .inl rfl⟩
  · simp [extraEntries, literalEntry] at extra
  · exact ⟨rfl, .inr rfl⟩

/-- Of the tokens, literals are shared. -/
theorem shared_mem_lexicalEntries (entry : grammar.startRule = some start) :
    .shared symbol ∈ grammar.lexicalEntries start ↔
      ∃ words, grammar.Spells words ∧ symbol = .literal words := by
  have rules : .shared symbol ∉ grammar.ruleEntries start := by simp [ruleEntries]
  have plain : .shared symbol ∈ grammar.plainEntries start ↔
      .shared symbol ∈ grammar.lexicalEntries start := by
    rw [plainEntries, List.mem_append, or_iff_left rules, lexicalEntries]
  rw [← plain]
  constructor
  · intro asked
    obtain ⟨words, rfl⟩ := literal_of_shared asked
    exact ⟨words, (literal_mem_plainEntries entry).mp asked, rfl⟩
  · rintro ⟨words, spelled, rfl⟩
    exact (literal_mem_plainEntries entry).mpr spelled

/-- The tokens are those of the rules, the literals, and the external tokens. -/
theorem kind_of_mem_tokenBlock (entry : grammar.startRule = some start)
    (listed : symbol ∈ grammar.tokenBlock start) :
    symbol.kind = .terminal ∨ symbol.kind = .external := by
  rcases Numbering.mem_appended listed with own | ⟨shared, _⟩
  · exact (named_of_own own).2
  · obtain ⟨words, _, rfl⟩ := (shared_mem_lexicalEntries entry).mp shared
    exact .inl rfl

/-- The named tokens are the rules that become tokens and then the external tokens. -/
theorem named_tokenBlock (entry : grammar.startRule = some start) :
    (grammar.tokenBlock start).filter (·.node.named) =
      (grammar.orderedRules.filter fun (name, body) => isToken start name body).map
          (fun entry => tokenSymbol entry.1) ++
        (grammar.externalNames.filter fun name => !grammar.rules.contains name).map
          externalSymbol := by
  have literals (symbol : Symbol) (shared : .shared symbol ∈ grammar.lexicalEntries start) :
      ¬ symbol.node.named := by
    obtain ⟨words, _, rfl⟩ := (shared_mem_lexicalEntries entry).mp shared
    simp [Symbol.literal]
  have extras : grammar.extraEntries.filterMap Entry.own? = [] := by
    rw [List.filterMap_eq_nil_iff]
    intro asked listed
    obtain ⟨extra, _, among⟩ := List.mem_flatMap.mp listed
    obtain ⟨words, _, rfl⟩ := List.mem_map.mp among
    rfl
  rw [tokenBlock, Numbering.filter_appended (fun symbol own => (named_of_own own).1) literals,
    lexicalEntries, List.filterMap_append, List.filterMap_append, own_tokenEntries, extras,
    own_externalEntries, List.append_nil]

/-- The anonymous tokens are the literals. -/
theorem mem_tokenBlock_iff (entry : grammar.startRule = some start) :
    symbol ∈ grammar.tokenBlock start ∧ ¬ symbol.node.named ↔
      ∃ words, grammar.Spells words ∧ symbol = .literal words := by
  constructor
  · rintro ⟨listed, anonymous⟩
    rcases Numbering.mem_appended listed with own | ⟨shared, _⟩
    · exact absurd (named_of_own own).1 anonymous
    · exact (shared_mem_lexicalEntries entry).mp shared
  · rintro ⟨words, spelled, rfl⟩
    have asked := (shared_mem_lexicalEntries entry).mpr ⟨words, spelled, rfl⟩
    obtain ⟨other, listed, answers⟩ := Numbering.exists_answersTo [.endOfInput] asked rfl
    obtain ⟨findable, node⟩ := Symbol.answersTo_iff.mp answers
    rcases List.mem_append.mp listed with first | listed
    · obtain rfl := List.mem_singleton.mp first
      exact absurd findable (by decide)
    · -- What answers to the literal is anonymous, so it is a literal of the same text.
      rcases Numbering.mem_appended listed with own | ⟨shared, _⟩
      · exact absurd (named_of_own own).1 (by simp [node, Symbol.literal])
      · obtain ⟨words', _, rfl⟩ := (shared_mem_lexicalEntries entry).mp shared
        obtain rfl : words' = words := congrArg NodeKind.name node
        exact ⟨listed, by simp [Symbol.literal]⟩

/-- No literal has two tokens. -/
theorem nodup_literals (entry : grammar.startRule = some start) :
    ((grammar.tokenBlock start).filter (!·.node.named)).Nodup := by
  refine Numbering.nodup_filter_appended ?_ ?_ _
  · intro symbol anonymous own
    simp [(named_of_own own).1] at anonymous
  · intro symbol shared
    obtain ⟨words, _, rfl⟩ := (shared_mem_lexicalEntries entry).mp shared
    rfl

/-- Only aliases ask for symbols in the last block. -/
theorem own_not_mem_aliasEntries (symbol : Symbol) : .own symbol ∉ grammar.aliasEntries := by
  simp [aliasEntries]

/-- The kinds that only aliases give are those which an alias gives and no token or rule has. -/
theorem mem_aliasBlock_iff :
    symbol ∈ grammar.aliasBlock start ↔
      ∃ kind wrapper, grammar.Gives wrapper kind ∧ symbol = .alternative kind ∧
        ∀ earlier ∈ grammar.tokenBlock start ++ grammar.ruleBlock start,
          ¬ earlier.answersTo kind := by
  constructor
  · intro listed
    obtain ⟨shared, new⟩ :=
      (Numbering.mem_appended listed).resolve_left (own_not_mem_aliasEntries symbol)
    obtain ⟨kind, rfl⟩ := alternative_of_shared shared
    obtain ⟨wrapper, gives⟩ := alternative_mem_aliasEntries.mp shared
    exact ⟨kind, wrapper, gives, rfl, fun earlier among =>
      new earlier (List.mem_cons_of_mem _ among)⟩
  · rintro ⟨kind, wrapper, gives, rfl, new⟩
    have asked := alternative_mem_aliasEntries.mpr ⟨wrapper, gives⟩
    obtain ⟨other, listed, answers⟩ := Numbering.exists_answersTo
      (.endOfInput :: (grammar.tokenBlock start ++ grammar.ruleBlock start)) asked rfl
    rcases List.mem_append.mp listed with earlier | listed
    · rcases List.mem_cons.mp earlier with rfl | among
      · exact absurd (Symbol.answersTo_iff.mp answers).1 (by decide)
      · exact absurd answers (new other among)
    · obtain ⟨shared, _⟩ :=
        (Numbering.mem_appended listed).resolve_left (own_not_mem_aliasEntries other)
      obtain ⟨kind', rfl⟩ := alternative_of_shared shared
      obtain rfl : kind' = kind := (Symbol.answersTo_iff.mp answers).2
      exact listed

/-- No kind has two symbols of aliases. -/
theorem nodup_aliasBlock : (grammar.aliasBlock start).Nodup := by
  have all : (grammar.aliasBlock start).filter (fun _ => true) = grammar.aliasBlock start :=
    List.filter_eq_self.mpr fun _ _ => rfl
  rw [← all]
  refine Numbering.nodup_filter_appended (fun symbol _ => own_not_mem_aliasEntries symbol) ?_ _
  intro symbol shared
  obtain ⟨kind, rfl⟩ := alternative_of_shared shared
  rfl

/-! ## Rules in order -/

/-- The names of the rules in order are distinct. -/
theorem nodup_orderedRules (grammar : Grammar) :
    (grammar.orderedRules.map Prod.fst).Nodup := by
  have keys : (grammar.rules.toList.map Prod.fst).Nodup := by
    rw [Std.ExtTreeMap.map_fst_toList_eq_keys]
    exact Std.ExtTreeMap.nodup_keys
  rw [orderedRules]
  cases grammar.startRule with
  | none => exact keys
  | some start =>
    rw [List.map_append]
    refine List.nodup_append.mpr ⟨?_, keys.sublist (List.filter_sublist.map _), ?_⟩
    · cases grammar.rules[start]? <;> simp
    · rintro name first other rest rfl
      obtain ⟨body, rule, rfl⟩ := by simpa using first
      simp at rest

/-- The entry rule comes first of the rules that are made of other symbols. -/
theorem head?_ruleBlock (entry : grammar.startRule = some start)
    (kept : ¬ grammar.isInlined start) :
    (grammar.ruleBlock start).head? = some (grammar.ruleSymbol start start) := by
  obtain ⟨body, rule⟩ := ByName.exists_of_mem (mem_rules_of_startRule entry)
  simp [ruleBlock, orderedRules, entry, rule, isToken, kept]

/-- No rule that is made of other symbols has two symbols. -/
theorem nodup_ruleBlock : (grammar.ruleBlock start).Nodup := by
  have names : ((grammar.ruleBlock start).map (·.node.name)).Nodup := by
    rw [ruleBlock, List.map_map]
    exact grammar.nodup_orderedRules.sublist (List.filter_sublist.map _)
  exact names.of_map

end Grammar

/-! ## Numbers in the table -/

/-- Places in a list are the same if what stands there would otherwise be told apart. -/
theorem eq_of_pairwise {α : Type} {apart : α → α → Prop} {array : Array α} {index index' : Nat}
    {one other : α} (pairwise : array.toList.Pairwise apart) (here : array[index]? = some one)
    (there : array[index']? = some other) (near : ¬ apart one other) (near' : ¬ apart other one) :
    index = index' := by
  obtain ⟨bound, rfl⟩ := Array.getElem?_eq_some_iff.mp here
  obtain ⟨bound', rfl⟩ := Array.getElem?_eq_some_iff.mp there
  rcases Nat.lt_trichotomy index index' with less | same | more
  · exact absurd (List.pairwise_iff_getElem.mp pairwise index index' bound bound' less) near
  · exact same
  · exact absurd (List.pairwise_iff_getElem.mp pairwise index' index bound' bound more) near'

namespace SymbolTable.Describes

variable {table : SymbolTable} {grammar : Grammar} {start : String} {symbol : Symbol}

/-- The symbols are the end of the input and the three blocks. -/
theorem symbols_eq (describes : table.Describes grammar start) :
    table.symbols.toList =
      .endOfInput ::
        (grammar.tokenBlock start ++ grammar.ruleBlock start ++ grammar.aliasBlock start) := by
  rw [symbols, describes.numbering, Numbering.symbols_ofEntries describes.reached,
    Grammar.entries_eq, Numbering.appended_append, Grammar.appended_plainEntries,
    Grammar.aliasBlock, List.singleton_append]

/-- The entry rule is not inlined. -/
theorem kept (describes : table.Describes grammar start) : ¬ grammar.isInlined start := by
  have known : start ∈ table.numbering.ruleIds := by
    rw [Std.ExtTreeMap.mem_iff_isSome_getElem?, ← ruleSymbol?, describes.startNumber]
    rfl
  rw [describes.numbering, Grammar.mem_ruleIds_iff] at known
  exact (Grammar.isSome_ownSymbol?_start describes.entry).mp known

/-- A number in use gives its symbol. -/
theorem get?_eq (describes : table.Describes grammar start) {id : Nat} (inUse : id < table.size) :
    table.get? id = table.symbols[id]? :=
  if_neg (Nat.ne_of_lt (Nat.lt_trans inUse describes.fits))

/-- The number of a name is that of the symbol which the grammar has for it. -/
theorem getElem?_ruleSymbol? (describes : table.Describes grammar start) {name : String} {id : Nat}
    (known : table.ruleSymbol? name = some id) :
    table.symbols[id]? = grammar.ownSymbol? start name := by
  have faithful := Numbering.faithful_ofEntries (grammar.entries start) describes.reached
  rw [← describes.numbering] at faithful
  rw [← describes.symbol_of_name, known, Option.bind_some,
    describes.get?_eq (faithful.inUse name id known)]

/-- The number of the entry rule is that of its symbol. -/
theorem getElem?_start (describes : table.Describes grammar start) :
    table.symbols[table.start]? = some (grammar.ruleSymbol start start) := by
  obtain ⟨body, rule⟩ := ByName.exists_of_mem (Grammar.mem_rules_of_startRule describes.entry)
  rw [describes.getElem?_ruleSymbol? describes.startNumber, Grammar.ownSymbol?, rule]
  simp [Grammar.isToken, describes.kept]

/-- The rules that are made of other symbols are the second block. -/
theorem filter_nonTerminal (describes : table.Describes grammar start) :
    table.symbols.toList.filter (·.kind = .nonTerminal) = grammar.ruleBlock start := by
  have tokens : (grammar.tokenBlock start).filter (·.kind = .nonTerminal) = [] := by
    rw [List.filter_eq_nil_iff]
    intro symbol listed
    rcases Grammar.kind_of_mem_tokenBlock describes.entry listed with kind | kind <;> simp [kind]
  have rules : (grammar.ruleBlock start).filter (·.kind = .nonTerminal) =
      grammar.ruleBlock start := by
    rw [List.filter_eq_self, Grammar.ruleBlock]
    intro symbol listed
    obtain ⟨_, _, rfl⟩ := List.mem_map.mp listed
    rfl
  have aliases : (grammar.aliasBlock start).filter (·.kind = .nonTerminal) = [] := by
    rw [List.filter_eq_nil_iff]
    intro symbol listed
    obtain ⟨kind, _, _, rfl, _⟩ := Grammar.mem_aliasBlock_iff.mp listed
    simp [Symbol.alternative]
  rw [describes.symbols_eq, List.filter_cons_of_neg (by decide), List.filter_append,
    List.filter_append, tokens, rules, aliases, List.nil_append, List.append_nil]

/-- A rule that is made of other symbols has one number. -/
theorem id_eq_of_nonTerminal (describes : table.Describes grammar start) {id id' : Nat}
    (here : table.symbols[id]? = some symbol) (there : table.symbols[id']? = some symbol)
    (kind : symbol.kind = .nonTerminal) : id = id' := by
  have once : (table.symbols.toList.filter (·.kind = .nonTerminal)).Nodup := by
    rw [describes.filter_nonTerminal]
    exact Grammar.nodup_ruleBlock
  have near : ¬ (decide (symbol.kind = .nonTerminal) = true →
      decide (symbol.kind = .nonTerminal) = true → symbol ≠ symbol) := by
    simp [kind]
  exact eq_of_pairwise (List.pairwise_filter.mp once) here there near near

/-- The entry rule is the first one behind the tokens. -/
theorem start_eq (describes : table.Describes grammar start) :
    table.start = (grammar.tokenBlock start).length + 1 := by
  obtain ⟨rest, rules⟩ := List.head?_eq_some_iff.mp
    (Grammar.head?_ruleBlock describes.entry describes.kept)
  refine describes.id_eq_of_nonTerminal describes.getElem?_start ?_ rfl
  rw [← Array.getElem?_toList, describes.symbols_eq, List.getElem?_cons_succ, rules,
    List.append_assoc, List.getElem?_append_right (Nat.le_refl _), Nat.sub_self]
  rfl

end SymbolTable.Describes

/-! ## Layout -/

/-- What the symbols of a table are, in the order of their numbers: the end of the input, and three
blocks that hold what the grammar says. -/
structure SymbolTable.Layout (table : SymbolTable) (grammar : Grammar) (start : String)
    (tokens rules aliases : List Symbol) : Prop where
  /-- The symbols are the end of the input, the tokens, the rules, and what only aliases give. -/
  blocks : table.symbols.toList = .endOfInput :: (tokens ++ rules ++ aliases)
  /-- The first block holds tokens of the lexer and of the scanner. -/
  kinds : ∀ symbol ∈ tokens, symbol.kind = .terminal ∨ symbol.kind = .external
  /-- The named ones among them are the rules other than the entry rule whose bodies are lexical,
  in order, and then the external tokens that are no rules, as often as they are declared. -/
  named : tokens.filter (·.node.named) =
    (grammar.orderedRules.filter fun (name, body) => name != start && body.isLexical).map
        (fun entry => Grammar.tokenSymbol entry.1) ++
      (grammar.externalNames.filter fun name => !grammar.rules.contains name).map
        Grammar.externalSymbol
  /-- The anonymous ones are the literals. -/
  literals : ∀ symbol, symbol ∈ tokens ∧ ¬ symbol.node.named ↔
    ∃ words, grammar.HasLiteral words ∧ symbol = .literal words
  /-- No literal comes twice. -/
  literalsOnce : (tokens.filter (!·.node.named)).Nodup
  /-- The second block holds the other rules that are not inlined, in order. -/
  composed : rules = (grammar.orderedRules.filter fun (name, body) =>
    !(name != start && body.isLexical || grammar.isInlined name)).map fun entry =>
      grammar.ruleSymbol start entry.1
  /-- The entry rule comes first there. -/
  first : rules.head? = some (grammar.ruleSymbol start start)
  /-- Its number is known. -/
  number : table.start = tokens.length + 1
  /-- The third block holds the kinds that aliases in rule bodies give, unless a findable symbol of
  the other blocks has the kind. -/
  renamed : ∀ symbol, symbol ∈ aliases ↔
    ∃ kind wrapper, grammar.Gives wrapper kind ∧ symbol = .alternative kind ∧
      ∀ earlier ∈ tokens ++ rules, ¬ earlier.answersTo kind
  /-- No kind comes twice there. -/
  renamedOnce : aliases.Nodup

/-- What is checked on an outcome holds of the result, which there is then. -/
theorem exists_of_any {ε α : Type} {outcome : Except ε α} {holds : α → Bool}
    (checked : outcome.toOption.any holds) : ∃ result, outcome = .ok result ∧ holds result := by
  cases outcome with
  | error error => cases checked
  | ok result => exact ⟨result, rfl, checked⟩

namespace SymbolTable

/-- The symbols of a table that has been built are laid out in blocks. -/
theorem exists_layout {grammar : Grammar} {table : SymbolTable}
    (built : build grammar = .ok table) :
    ∃ start tokens rules aliases, grammar.startRule = some start ∧
      table.Layout grammar start tokens rules aliases := by
  obtain ⟨start, describes⟩ := describes_of_build built
  refine ⟨start, grammar.tokenBlock start, grammar.ruleBlock start, grammar.aliasBlock start,
    describes.entry, ?_⟩
  constructor
  case blocks => exact describes.symbols_eq
  case kinds => exact fun symbol => Grammar.kind_of_mem_tokenBlock describes.entry
  case named => exact Grammar.named_tokenBlock describes.entry
  case literals =>
    intro symbol
    simp only [Grammar.mem_tokenBlock_iff describes.entry, Grammar.spells_iff]
  case literalsOnce => exact Grammar.nodup_literals describes.entry
  case composed => rfl
  case first => exact Grammar.head?_ruleBlock describes.entry describes.kept
  case number => exact describes.start_eq
  case renamed => exact fun symbol => Grammar.mem_aliasBlock_iff
  case renamedOnce => exact Grammar.nodup_aliasBlock

/-- The table of the statements has one token for a rule and one of the scanner, and three rules
behind the tokens. -/
theorem layout_statements :
    ∃ table tokens rules aliases, build statements = .ok table ∧
      table.Layout statements "source_file" tokens rules aliases ∧
      tokens.filter (·.node.named) =
        [Grammar.tokenSymbol "word", Grammar.externalSymbol "indent"] ∧
      rules.map (·.node.name) = ["source_file", "_statement", "call"] := by
  obtain ⟨table, built, _⟩ := exists_of_any
    (show (build statements).toOption.any fun table => table.size = 9 by decide +kernel)
  obtain ⟨start, tokens, rules, aliases, entry, layout⟩ := exists_layout built
  have conventional : statements.startRule = some "source_file" := by decide +kernel
  obtain rfl := Option.some.inj (entry.symm.trans conventional)
  refine ⟨table, tokens, rules, aliases, built, layout, ?_, ?_⟩
  · rw [layout.named]
    decide +kernel
  · rw [layout.composed]
    decide +kernel

end SymbolTable

end GrammarAtlas
