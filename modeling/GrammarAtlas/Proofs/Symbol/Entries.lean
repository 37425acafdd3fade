import GrammarAtlas.Symbol.Entries

/-!
# Which names have symbols

The entries of a grammar give symbols of their own to rules and external tokens. Which symbol a name
gets can be told from the grammar alone (`Grammar.ownSymbol?`): a token that is a rule goes before
an external one, and a rule that is put in place of the references to it gets none.
-/

namespace GrammarAtlas.Grammar

variable {grammar : Grammar} {start name : String} {body : Rule}

/-- The rules in order are the rules of the grammar. -/
theorem mem_orderedRules :
    (name, body) ∈ grammar.orderedRules ↔ grammar.rules[name]? = some body := by
  rw [orderedRules]
  cases grammar.startRule with
  | none => exact Std.ExtTreeMap.mem_toList_iff_getElem?_eq_some
  | some start =>
    rw [List.mem_append, List.mem_filter, Std.ExtTreeMap.mem_toList_iff_getElem?_eq_some]
    by_cases same : name = start
    · subst same
      simp
    · simp [same, Ne.symm same]

/-- The only element of a list is an element. -/
theorem mem_of_only? {α : Type} {elements : List α} {element : α}
    (only : only? elements = some element) : element ∈ elements := by
  match elements, only with
  | [found], only =>
    obtain rfl : found = element := Option.some.inj only
    exact List.mem_singleton.mpr rfl

/-- The entry rule is a rule. -/
theorem mem_rules_of_startRule (entry : grammar.startRule = some start) :
    start ∈ grammar.rules := by
  have root {name : String} (listed : name ∈ grammar.roots) : name ∈ grammar.rules :=
    Std.ExtTreeMap.mem_keys.mp (List.mem_filter.mp listed).1
  rw [startRule] at entry
  split at entry
  · rename_i conventional
    obtain rfl := Option.some.inj entry
    exact Std.ExtTreeMap.mem_iff_contains.mpr conventional
  · split at entry
    · rename_i only roots
      obtain rfl := Option.some.inj entry
      exact root (roots ▸ List.mem_singleton.mpr rfl)
    · exact root (List.mem_filter.mp (mem_of_only? entry)).1

/-- The symbol of a rule or an external token. -/
def ownSymbol? (grammar : Grammar) (start name : String) : Option Symbol :=
  match grammar.rules[name]? with
  | some body =>
    if isToken start name body then some (tokenSymbol name)
    else if grammar.isInlined name then none
    else some (grammar.ruleSymbol start name)
  | none => if grammar.externalNames.contains name then some (externalSymbol name) else none

/-- The nodes of a rule have the name of the rule. -/
theorem name_ruleSymbol : (grammar.ruleSymbol start name).node.name = name := rfl

/-- What a name has a symbol for: a token, a rule that is made of other symbols, or an external
token. -/
inductive OwnSymbol (grammar : Grammar) (start name : String) : Symbol → Prop
  /-- A token that is a rule. -/
  | token {body : Rule} : grammar.rules[name]? = some body → isToken start name body →
    OwnSymbol grammar start name (tokenSymbol name)
  /-- A rule that is made of other symbols and not put in place of the references to it. -/
  | rule {body : Rule} : grammar.rules[name]? = some body → ¬ isToken start name body →
    ¬ grammar.isInlined name → OwnSymbol grammar start name (grammar.ruleSymbol start name)
  /-- An external token that is no rule. -/
  | external : grammar.rules[name]? = none → name ∈ grammar.externalNames →
    OwnSymbol grammar start name (externalSymbol name)

/-- A name has a symbol for one of these. -/
theorem ownSymbol_of_ownSymbol? {symbol : Symbol}
    (known : grammar.ownSymbol? start name = some symbol) :
    OwnSymbol grammar start name symbol := by
  rw [ownSymbol?] at known
  split at known
  · rename_i body rule
    split at known
    · rename_i token
      obtain rfl := Option.some.inj known
      exact .token rule token
    · rename_i token
      obtain ⟨kept, same⟩ := Option.ite_none_left_eq_some.mp known
      obtain rfl := Option.some.inj same
      exact .rule rule token kept
  · rename_i unruled
    obtain ⟨listed, same⟩ := Option.ite_none_right_eq_some.mp known
    obtain rfl := Option.some.inj same
    exact .external unruled (List.contains_iff_mem.mp listed)

/-- The nodes of rules and external tokens are named after them. -/
theorem node_of_ownSymbol? {symbol : Symbol}
    (known : grammar.ownSymbol? start name = some symbol) : symbol.node = ⟨name, true⟩ := by
  cases ownSymbol_of_ownSymbol? known with
  | token | rule | external => rfl

/-- The symbols of rules and external tokens are not those of aliases. -/
theorem kind_ne_aliased {symbol : Symbol} (known : grammar.ownSymbol? start name = some symbol) :
    symbol.kind ≠ .aliased := by
  cases ownSymbol_of_ownSymbol? known with
  | token | rule | external => exact nofun

/-- The tokens of the rules that are added as they are. -/
theorem own_mem_tokenEntries {symbol : Symbol} :
    .own symbol ∈ grammar.tokenEntries start ↔
      ∃ name body, grammar.rules[name]? = some body ∧ isToken start name body ∧
        symbol = tokenSymbol name := by
  rw [tokenEntries, List.mem_flatMap]
  constructor
  · rintro ⟨⟨name, body⟩, listed, among⟩
    refine ⟨name, body, mem_orderedRules.mp listed, ?_⟩
    by_cases token : isToken start name body
    · exact ⟨token, by simpa [token] using among⟩
    · simp [token, literalEntry] at among
  · rintro ⟨name, body, rule, token, rfl⟩
    exact ⟨(name, body), mem_orderedRules.mpr rule, by simp [token]⟩

/-- The rules that are added as they are. -/
theorem own_mem_ruleEntries {symbol : Symbol} :
    .own symbol ∈ grammar.ruleEntries start ↔
      ∃ name body, grammar.rules[name]? = some body ∧ ¬ isToken start name body ∧
        ¬ grammar.isInlined name ∧ symbol = grammar.ruleSymbol start name := by
  rw [ruleEntries, List.mem_filterMap]
  constructor
  · rintro ⟨⟨name, body⟩, listed, among⟩
    refine ⟨name, body, mem_orderedRules.mp listed, ?_⟩
    simp only at among
    split at among
    · exact absurd among (by simp)
    · rename_i kept
      rw [Bool.or_eq_true, not_or] at kept
      exact ⟨kept.1, kept.2, (Entry.own.inj (Option.some.inj among)).symm⟩
  · rintro ⟨name, body, rule, token, inlined, rfl⟩
    exact ⟨(name, body), mem_orderedRules.mpr rule, by simp [token, inlined]⟩

/-- The external tokens that are added as they are. -/
theorem own_mem_externalEntries {symbol : Symbol} :
    .own symbol ∈ grammar.externalEntries ↔
      ∃ name, grammar.rules[name]? = none ∧ name ∈ grammar.externalNames ∧
        symbol = externalSymbol name := by
  rw [externalEntries, List.mem_filterMap]
  simp only [externalNames, List.mem_filterMap]
  constructor
  · rintro ⟨token, listed, among⟩
    rw [externalEntry] at among
    split at among
    · rename_i name symbolName
      split at among
      · exact absurd among (by simp)
      · rename_i unknown
        refine ⟨name, ?_, ⟨token, listed, symbolName⟩, ?_⟩
        · simpa using unknown
        · exact (Entry.own.inj (Option.some.inj among)).symm
    · simp [literalEntry] at among
  · rintro ⟨name, unknown, ⟨token, listed, symbolName⟩, rfl⟩
    refine ⟨token, listed, ?_⟩
    rw [externalEntry, symbolName]
    simpa using unknown

/-- The entries that are added as they are give every name its symbol. -/
theorem own_mem_entries {symbol : Symbol} :
    .own symbol ∈ grammar.entries start ↔
      grammar.ownSymbol? start symbol.node.name = some symbol := by
  have extras : .own symbol ∉ grammar.extraEntries := by simp [extraEntries, literalEntry]
  have aliases : .own symbol ∉ grammar.aliasEntries := by simp [aliasEntries]
  simp only [entries, List.mem_append, extras, aliases, or_false, own_mem_tokenEntries,
    own_mem_externalEntries, own_mem_ruleEntries]
  constructor
  · rintro ((⟨name, body, rule, token, rfl⟩ | ⟨name, rule, listed, rfl⟩) |
      ⟨name, body, rule, token, kept, rfl⟩)
    · simp [ownSymbol?, tokenSymbol, rule, token]
    · simp [ownSymbol?, externalSymbol, rule, listed]
    · simp [ownSymbol?, name_ruleSymbol, rule, token, kept]
  · intro known
    generalize named : symbol.node.name = name at known
    cases ownSymbol_of_ownSymbol? known with
    | token rule token => exact .inl (.inl ⟨_, _, rule, token, rfl⟩)
    | rule rule token kept => exact .inr ⟨_, _, rule, token, kept, rfl⟩
    | external unruled listed => exact .inl (.inr ⟨_, unruled, listed, rfl⟩)

/-- Only literals are shared by other entries than aliases. -/
theorem literal_of_shared {symbol : Symbol}
    (listed : .shared symbol ∈ grammar.tokenEntries start ++ grammar.extraEntries ++
      grammar.externalEntries ++ grammar.ruleEntries start) :
    ∃ words, symbol = .literal words := by
  simp only [List.mem_append] at listed
  rcases listed with ((token | extra) | external) | rule
  · obtain ⟨⟨name, body⟩, _, among⟩ := List.mem_flatMap.mp token
    by_cases token : isToken start name body
    · simp [token] at among
    · obtain ⟨words, _, rfl⟩ := by simpa [token, literalEntry] using among
      exact ⟨words, rfl⟩
  · obtain ⟨tree, _, among⟩ := List.mem_flatMap.mp extra
    obtain ⟨words, _, rfl⟩ := by simpa [literalEntry] using among
    exact ⟨words, rfl⟩
  · obtain ⟨token, _, among⟩ := List.mem_filterMap.mp external
    rw [externalEntry] at among
    split at among
    · split at among <;> simp at among
    · obtain ⟨words, _, rfl⟩ := by simpa [literalEntry] using among
      exact ⟨words, rfl⟩
  · obtain ⟨⟨name, body⟩, _, among⟩ := List.mem_filterMap.mp rule
    simp at among

/-- Aliases share the symbols that have no other source. -/
theorem alternative_of_shared {symbol : Symbol} (listed : .shared symbol ∈ grammar.aliasEntries) :
    ∃ node, symbol = .alternative node := by
  obtain ⟨⟨name, body⟩, _, among⟩ := List.mem_flatMap.mp listed
  obtain ⟨node, _, rfl⟩ := by simpa using among
  exact ⟨node, rfl⟩

end GrammarAtlas.Grammar
