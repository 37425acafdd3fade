import GrammarAtlas.Proofs.Symbol.Resolution

/-!
# Supertypes in the symbol table

A supertype is declared by its name, its symbol is marked, and the table has a list of subtypes
under its number. The three do not agree for a rule that becomes a token: its symbol is not marked,
but it may have subtypes.

`SymbolTable.Describes.mem_supertypes_iff` says which symbols are marked, and
`SymbolTable.subtypes_eq` which subtypes a declared name has. A list of subtypes is described by
`SymbolTable.ListsSubtypes`, in terms of what the alternatives of a rule body stand for.
-/

namespace GrammarAtlas

/-! ## Alternatives -/

/-- A precedence wrapper does not make one token of what it wraps. -/
theorem RuleKind.not_isWhole {kind : RuleKind} (wrapper : kind.isPrecedence) : ¬ kind.isWhole := by
  cases kind <;> simp [isPrecedence, isWhole] at wrapper ⊢

namespace Rule

variable {rule alternative node root : Rule}

/-- What is exposed in an exposed tree is exposed. -/
theorem Exposed.trans (inner : node.Exposed rule) (outer : rule.Exposed root) :
    node.Exposed root := by
  induction outer with
  | root => exact inner
  | inside composed among _ ih => exact .inside composed among ih

/-- Precedence wrappers are taken off one by one. -/
theorem bare_eq (rule : Rule) :
    rule.bare =
      if rule.kind.isPrecedence then (rule.content.map bare).getD rule else rule := by
  obtain ⟨kind, value, name, content, members, named, flags, contextName⟩ := rule
  cases content with
  | none => rfl
  | some inner => rfl

/-- The node below all precedence wrappers is exposed. -/
theorem bare_exposed (rule : Rule) : rule.bare.Exposed rule := by
  rw [bare_eq]
  by_cases wrapper : rule.kind.isPrecedence
  · rw [if_pos wrapper]
    cases wrapped : rule.content with
    | none => exact .root
    | some inner =>
      have among : inner ∈ rule.children :=
        List.mem_append_left _ (Option.mem_toList.mpr wrapped)
      have := sizeOf_lt_of_mem_children among
      exact .inside (RuleKind.not_isWhole wrapper) among (bare_exposed inner)
  · rw [if_neg wrapper]
    exact .root
termination_by sizeOf rule

/-- The alternatives of a tree are exposed. -/
theorem exposed_of_mem_alternatives (listed : alternative ∈ rule.alternatives) :
    alternative.Exposed rule := by
  rw [alternatives] at listed
  split at listed
  · rename_i choice
    obtain ⟨member, among, rfl⟩ := List.mem_map.mp listed
    have composed : ¬ rule.bare.kind.isWhole := by simp [choice, RuleKind.isWhole]
    have below : member.bare.Exposed rule.bare :=
      .inside composed (List.mem_append_right _ among) (bare_exposed member)
    exact below.trans (bare_exposed rule)
  · obtain rfl := List.mem_singleton.mp listed
    exact bare_exposed rule

/-- Only a reference has the name of a symbol. -/
theorem kind_of_symbolName {name : String} (refers : rule.symbolName = some name) :
    rule.kind = .symbol := by
  by_contra other
  simp [symbolName, isSymbol, other] at refers

/-- Only an alias gives a kind of node. -/
theorem kind_of_aliasNode {kind : NodeKind} (renames : rule.aliasNode = some kind) :
    rule.kind = .aliased := by
  by_contra other
  rw [aliasNode, aliasName, textIf] at renames
  split at renames <;> simp [other] at renames

/-- A token has no alternatives besides itself. -/
theorem alternatives_of_isLexical (lexical : rule.isLexical) : rule.alternatives = [rule.bare] := by
  have other : rule.bare.kind ≠ .choice := by
    intro choice
    rw [isLexical, choice] at lexical
    cases lexical
  rw [alternatives]
  exact if_neg other

end Rule

namespace SymbolTable

variable {table : SymbolTable} {grammar : Grammar} {start name : String} {symbol : Symbol}
  {kind : NodeKind} {rule body : Rule} {id supertype : Nat}

/-- The number is that of the first findable symbol whose nodes are of the kind. -/
def IsFirst (table : SymbolTable) (kind : NodeKind) (id : Nat) : Prop :=
  (∃ symbol, table.symbols[id]? = some symbol ∧ symbol.answersTo kind) ∧
    ∀ earlier < id, ∀ symbol, table.symbols[earlier]? = some symbol → ¬ symbol.answersTo kind

/-- An alternative of a supertype stands for the symbol of that number. -/
inductive Denotes (table : SymbolTable) (rule : Rule) (id : Nat) : Prop
  /-- It refers to the symbol by name. -/
  | reference {name : String} : rule.symbolName = some name → table.ruleSymbol? name = some id →
    Denotes table rule id
  /-- It is a literal. -/
  | literal {words : String} : rule.literal = some words → table.IsFirst ⟨words, false⟩ id →
    Denotes table rule id
  /-- It is an alias. -/
  | renamed {kind : NodeKind} : rule.aliasNode = some kind → table.IsFirst kind id →
    Denotes table rule id

/-- The numbers are those of the subtypes that a body gives to a supertype. -/
structure ListsSubtypes (table : SymbolTable) (body : Rule) (ids : List Nat) : Prop where
  /-- They are strictly in order. -/
  increasing : ids.Pairwise (· < ·)
  /-- They are the numbers of what the alternatives stand for. -/
  denoted : ∀ id, id ∈ ids ↔ ∃ alternative ∈ body.alternatives, table.Denotes alternative id

namespace Describes

/-- What is found for a kind is the first findable symbol of the kind. -/
theorem find?_eq_some_iff (describes : table.Describes grammar start) :
    table.numbering.find? .sixteenBit kind = some id ↔ table.IsFirst kind id := by
  have reached := describes.reached
  rw [← describes.numbering] at reached
  rw [Numbering.find?, Numbering.first_eq, Option.filter_eq_some_iff,
    List.findIdx?_eq_some_iff_getElem]
  constructor
  · rintro ⟨⟨bound, answers, before⟩, _⟩
    refine ⟨⟨_, Array.getElem?_eq_some_iff.mpr ⟨bound, rfl⟩, answers⟩, ?_⟩
    intro earlier less symbol here
    obtain ⟨_, rfl⟩ := Array.getElem?_eq_some_iff.mp here
    exact before earlier less
  · rintro ⟨⟨symbol, here, answers⟩, before⟩
    obtain ⟨bound, rfl⟩ := Array.getElem?_eq_some_iff.mp here
    refine ⟨⟨bound, answers, fun earlier less => ?_⟩, reached id bound⟩
    exact before earlier less _ (Array.getElem?_eq_getElem (Nat.lt_trans less bound))

/-- A kind with a findable symbol has a first one. -/
theorem exists_first (describes : table.Describes grammar start)
    (numbered : ∃ symbol ∈ table.symbols, symbol.isFindable ∧ symbol.node = kind) :
    ∃ id, table.IsFirst kind id := by
  have found := describes.isSome_find?_iff.mpr numbered
  obtain ⟨id, found⟩ := Option.isSome_iff_exists.mp found
  exact ⟨id, describes.find?_eq_some_iff.mp found⟩

/-- What is looked up for an alternative is what it stands for. -/
theorem alternativeId?_eq_some_iff (describes : table.Describes grammar start) :
    table.numbering.alternativeId? .sixteenBit rule = some id ↔ table.Denotes rule id := by
  constructor
  · intro stands
    rw [Numbering.alternativeId?] at stands
    split at stands
    · obtain ⟨name, refers, number⟩ := Option.bind_eq_some_iff.mp stands
      exact .reference refers number
    · obtain ⟨words, text, found⟩ := Option.bind_eq_some_iff.mp stands
      exact .literal text (describes.find?_eq_some_iff.mp found)
    · obtain ⟨kind, renames, found⟩ := Option.bind_eq_some_iff.mp stands
      exact .renamed renames (describes.find?_eq_some_iff.mp found)
    · cases stands
  · intro denotes
    rw [Numbering.alternativeId?]
    cases denotes with
    | @reference name refers number =>
      rw [Rule.kind_of_symbolName refers]
      exact Option.bind_eq_some_iff.mpr ⟨name, refers, number⟩
    | @literal words text first =>
      rw [Rule.kind_of_literal text]
      exact Option.bind_eq_some_iff.mpr ⟨words, text, describes.find?_eq_some_iff.mpr first⟩
    | @renamed kind renames first =>
      rw [Rule.kind_of_aliasNode renames]
      exact Option.bind_eq_some_iff.mpr ⟨kind, renames, describes.find?_eq_some_iff.mpr first⟩

/-- The subtypes of a body are the numbers of what its alternatives stand for, in order. -/
theorem listsSubtypes (describes : table.Describes grammar start) (body : Rule) :
    table.ListsSubtypes body (table.numbering.subtypesOf .sixteenBit body) := by
  constructor
  case increasing =>
    have ordered := Std.ExtTreeSet.ordered_toList
      (t := Std.ExtTreeSet.ofList (body.alternatives.filterMap
        (table.numbering.alternativeId? .sixteenBit)))
    exact ordered.imp fun less => Nat.compare_eq_lt.mp less
  case denoted =>
    intro id
    rw [Numbering.subtypesOf, Std.ExtTreeSet.mem_toList, Std.ExtTreeSet.mem_ofList,
      List.contains_iff_mem, List.mem_filterMap]
    simp only [describes.alternativeId?_eq_some_iff]

/-! ## Numbers of names -/

/-- A name with a number has a symbol, which has that number. -/
theorem exists_owner (describes : table.Describes grammar start)
    (number : table.ruleSymbol? name = some id) :
    ∃ symbol, grammar.ownSymbol? start name = some symbol ∧ table.symbols[id]? = some symbol := by
  have known : name ∈ table.numbering.ruleIds := by
    rw [Std.ExtTreeMap.mem_iff_isSome_getElem?, ← ruleSymbol?, number]
    rfl
  rw [describes.numbering, Grammar.mem_ruleIds_iff] at known
  obtain ⟨symbol, own⟩ := Option.isSome_iff_exists.mp known
  exact ⟨symbol, own, (describes.getElem?_ruleSymbol? number).trans own⟩

/-- A name with a symbol has a number, which is that of the symbol. -/
theorem exists_number (describes : table.Describes grammar start)
    (own : grammar.ownSymbol? start name = some symbol) :
    ∃ id, table.ruleSymbol? name = some id ∧ table.symbols[id]? = some symbol := by
  have known := (Grammar.mem_ruleIds_iff .sixteenBit grammar start name).mpr
    (Option.isSome_iff_exists.mpr ⟨symbol, own⟩)
  rw [← describes.numbering] at known
  obtain ⟨id, number⟩ := ByName.exists_of_mem known
  exact ⟨id, number, (describes.getElem?_ruleSymbol? number).trans own⟩

/-- No two names have one number. -/
theorem name_eq (describes : table.Describes grammar start) {other : String}
    (number : table.ruleSymbol? name = some id) (number' : table.ruleSymbol? other = some id) :
    name = other := by
  obtain ⟨symbol, own, here⟩ := describes.exists_owner number
  obtain ⟨symbol', own', there⟩ := describes.exists_owner number'
  obtain rfl := Option.some.inj (here.symm.trans there)
  have node := Grammar.node_of_ownSymbol? own
  have node' := Grammar.node_of_ownSymbol? own'
  exact congrArg NodeKind.name (node.symm.trans node')

end Describes

/-! ## Marked symbols -/

/-- The supertypes are the numbers of the marked symbols. -/
theorem mem_supertypes : id ∈ table.supertypes ↔
    ∃ symbol, table.symbols[id]? = some symbol ∧ symbol.supertype := by
  simp only [supertypes, entries, List.mem_filterMap, List.mem_map, Prod.exists, Prod.mk.injEq,
    List.mk_mem_zipIdx_iff_getElem?, Array.getElem?_toList, Option.ite_none_right_eq_some,
    Option.some.injEq]
  constructor
  · rintro ⟨_, symbol, ⟨_, _, here, rfl, rfl⟩, marked, rfl⟩
    exact ⟨_, here, marked⟩
  · rintro ⟨symbol, here, marked⟩
    exact ⟨id, symbol, ⟨symbol, id, here, rfl, rfl⟩, marked, rfl⟩

/-- The supertypes are strictly in order. -/
theorem pairwise_supertypes (table : SymbolTable) : table.supertypes.Pairwise (· < ·) := by
  have ordered : table.entries.Pairwise fun entry other => entry.1 < other.1 := by
    rw [entries, List.pairwise_map, List.pairwise_iff_getElem]
    intro index index' bound bound' less
    simpa using less
  rw [supertypes, List.pairwise_filterMap]
  refine ordered.imp ?_
  rintro ⟨id, symbol⟩ ⟨id', symbol'⟩ less number marked number' marked'
  obtain ⟨_, same⟩ := Option.ite_none_right_eq_some.mp marked
  obtain ⟨_, same'⟩ := Option.ite_none_right_eq_some.mp marked'
  rw [← Option.some.inj same, ← Option.some.inj same']
  exact less

namespace Describes

/-- A marked symbol has the number of a rule that is declared a supertype and is no token. -/
theorem exists_declared (describes : table.Describes grammar start)
    (here : table.symbols[id]? = some symbol) (marked : symbol.supertype) :
    ∃ name ∈ grammar.supertypeNames, ∃ body, grammar.rules[name]? = some body ∧
      ¬ Grammar.isToken start name body ∧ grammar.ownSymbol? start name = some symbol ∧
        table.ruleSymbol? name = some id := by
  cases describes.origin (Array.mem_of_getElem? here) with
  | endOfInput | literal | alternative => cases marked
  | own known =>
    obtain ⟨number, numbered, there⟩ := describes.exists_number known
    generalize symbol.node.name = name at known numbered
    have own := known
    cases Grammar.ownSymbol_of_ownSymbol? known with
    | token | external => cases marked
    | rule rule token kept =>
      -- Symbols that are no tokens come once, so the number of the name is the given one.
      obtain rfl := describes.id_eq_of_nonTerminal here there rfl
      have declared : name ∈ grammar.supertypeNames := List.contains_iff_mem.mp marked
      exact ⟨name, declared, _, rule, token, own, numbered⟩

/-- The supertypes are the numbers of the rules that are declared supertypes and are no tokens. -/
theorem mem_supertypes_iff (describes : table.Describes grammar start)
    (ruled : ∀ name ∈ grammar.supertypeNames, name ∈ grammar.rules) :
    id ∈ table.supertypes ↔ ∃ name ∈ grammar.supertypeNames,
      ¬ table.isToken name ∧ table.ruleSymbol? name = some id := by
  rw [mem_supertypes]
  constructor
  · rintro ⟨symbol, here, marked⟩
    obtain ⟨name, declared, body, rule, token, _, number⟩ := describes.exists_declared here marked
    refine ⟨name, declared, fun listed => ?_, number⟩
    obtain ⟨body', rule', token'⟩ := describes.isToken_iff.mp listed
    obtain rfl := Option.some.inj (rule.symm.trans rule')
    exact token token'
  · rintro ⟨name, declared, composed, number⟩
    obtain ⟨symbol, own, here⟩ := describes.exists_owner number
    refine ⟨symbol, here, ?_⟩
    cases Grammar.ownSymbol_of_ownSymbol? own with
    | token rule token => exact absurd (describes.isToken_iff.mpr ⟨_, rule, token⟩) composed
    | external unruled =>
      obtain ⟨body, rule⟩ := ByName.exists_of_mem (ruled name declared)
      cases unruled.symm.trans rule
    | rule => exact List.contains_iff_mem.mpr declared

end Describes

/-! ## Subtypes -/

/-- The table of subtypes of a table that has been built. -/
theorem subtypeIds_of_build (built : build grammar = .ok table) :
    table.subtypeIds = .ofList
      (grammar.supertypeNames.filterMap (table.numbering.subtypeEntry .sixteenBit grammar)) := by
  have assembled := assembled_assemble .sixteenBit grammar
  rw [build_eq] at built
  generalize assemble .sixteenBit grammar = outcome at assembled built
  cases assembled with
  | noEntry | inlined | bodiless => cases built
  | @table _ made _ _ _ _ _ subtypes =>
    have same : made = table := by
      rcases made.withinLimits_cases with done | ⟨_, large⟩ | ⟨_, large⟩
      · exact Except.ok.inj (done.symm.trans built)
      · cases large.symm.trans built
      · cases large.symm.trans built
    rw [← same]
    exact subtypes

/-- What a table of subtypes holds for a number is what a declared name with that number gives. -/
theorem mem_of_getElem?_subtypeIds {ids : List Nat} (built : build grammar = .ok table)
    (held : table.subtypeIds[id]? = some ids) :
    ∃ name ∈ grammar.supertypeNames, ∃ body, table.ruleSymbol? name = some id ∧
      grammar.rules[name]? = some body ∧ ids = table.numbering.subtypesOf .sixteenBit body := by
  rw [subtypeIds_of_build built] at held
  obtain ⟨name, declared, given⟩ := List.mem_filterMap.mp (mem_of_getElem?_ofList held)
  rw [Numbering.subtypeEntry] at given
  split at given
  · rename_i number body numbered rule
    obtain ⟨rfl, rfl⟩ := Prod.mk.inj (Option.some.inj given)
    exact ⟨name, declared, body, numbered, rule, rfl⟩
  · cases given

/-- A declared name with a number gives that number the subtypes of its body. -/
theorem subtypes_eq (built : build grammar = .ok table) (declared : name ∈ grammar.supertypeNames)
    (number : table.ruleSymbol? name = some id) (rule : grammar.rules[name]? = some body) :
    table.subtypes id = table.numbering.subtypesOf .sixteenBit body := by
  obtain ⟨start, describes⟩ := describes_of_build built
  have given : table.numbering.subtypeEntry .sixteenBit grammar name =
      some (id, table.numbering.subtypesOf .sixteenBit body) := by
    rw [ruleSymbol?] at number
    rw [Numbering.subtypeEntry, number, rule]
  have known : id ∈ table.subtypeIds := by
    rw [subtypeIds_of_build built, Std.ExtTreeMap.mem_ofList, List.contains_iff_mem, List.mem_map]
    exact ⟨_, List.mem_filterMap.mpr ⟨name, declared, given⟩, rfl⟩
  obtain ⟨ids, held⟩ := Option.isSome_iff_exists.mp
    (Std.ExtTreeMap.mem_iff_isSome_getElem?.mp known)
  obtain ⟨name', _, body', number', rule', same⟩ := mem_of_getElem?_subtypeIds built held
  -- No other name has the number, so it is the body of this one.
  obtain rfl := describes.name_eq number number'
  obtain rfl := Option.some.inj (rule.symm.trans rule')
  rw [subtypes, held, Option.getD_some, same]

/-- A number that no declared name has is given no subtypes. -/
theorem subtypes_eq_nil (built : build grammar = .ok table)
    (other : ∀ name ∈ grammar.supertypeNames, table.ruleSymbol? name ≠ some id) :
    table.subtypes id = [] := by
  rw [subtypes]
  cases held : table.subtypeIds[id]? with
  | none => rfl
  | some ids =>
    obtain ⟨name, declared, _, number, _⟩ := mem_of_getElem?_subtypeIds built held
    exact absurd number (other name declared)

end SymbolTable

end GrammarAtlas
