import GrammarAtlas.NodeType.Listing
import GrammarAtlas.Proofs.Grammar.Alike
import GrammarAtlas.Proofs.Symbol.Assembly

/-!
# Languages of grammars whose rules read alike

Where every rule body is like the one that it takes the place of, the symbol table is the same but
for the subtypes, and the node types that go with a table are the same.
-/

namespace GrammarAtlas

/-! ## Symbol tables -/

namespace SymbolTable

variable {grammar : Grammar} {rules : ByName Rule}

/-- The table with the subtypes that the bodies of a grammar give. -/
def withSubtypesOf (table : SymbolTable) (grammar : Grammar) : SymbolTable :=
  { table with
    subtypeIds := .ofList
      (grammar.supertypeNames.filterMap (table.numbering.subtypeEntry .sixteenBit grammar)) }

/-- Limits have nothing to do with subtypes. -/
theorem withinLimits_withSubtypesOf (table : SymbolTable) (grammar : Grammar) :
    (table.withSubtypesOf grammar).withinLimits =
      table.withinLimits.map fun table => table.withSubtypesOf grammar := by
  simp only [withinLimits, show (table.withSubtypesOf grammar).size = table.size from rfl,
    show (table.withSubtypesOf grammar).fieldCount = table.fieldCount from rfl]
  split
  · rfl
  · split <;> rfl

/-- The symbol table is the same but for the subtypes. -/
theorem build_withBodies (alike : ByName.Related Rule.Alike grammar.rules rules) :
    build (grammar.withBodies rules) =
      (build grammar).map fun table => table.withSubtypesOf (grammar.withBodies rules) := by
  have assembled : assemble .sixteenBit (grammar.withBodies rules) =
      (assemble .sixteenBit grammar).map
        fun table => table.withSubtypesOf (grammar.withBodies rules) := by
    have bodiless (numbering : Numbering) :
        numbering.bodilessSupertype? (grammar.withBodies rules) =
          numbering.bodilessSupertype? grammar := by
      simp only [Numbering.bodilessSupertype?, alike.contains_eq]
      rfl
    rw [assemble, assemble, Grammar.startRule_withBodies alike]
    cases grammar.startRule with
    | none => rfl
    | some start =>
      simp only [Grammar.entries_withBodies alike, Grammar.tokenNames_withBodies alike,
        Grammar.fieldNames_withBodies alike, bodiless]
      split
      · rfl
      · split <;> rfl
  rw [build_eq, build_eq, assembled]
  cases assemble .sixteenBit grammar with
  | error error => rfl
  | ok table => exact table.withinLimits_withSubtypesOf _

end SymbolTable

/-! ## Node types -/

/-- What two references stand for is alike: the same kind, nothing, or bodies that are alike. -/
inductive Referent.Alike : Referent → Referent → Prop
  /-- Both stand for a node of the same kind. -/
  | node (kind : NodeKind) : Alike (.node kind) (.node kind)
  /-- Both stand for bodies that are alike. -/
  | body {rule rule' : Rule} (alike : Rule.Alike rule rule') : Alike (.body rule) (.body rule')
  /-- Both stand for nothing. -/
  | nothing : Alike .nothing .nothing

/-- The name of the rule that an alias of that kind renames directly. -/
def Rule.renamedName? (kind : NodeKind) (rule : Rule) : Option String :=
  if rule.aliasNode = some kind then rule.content.bind symbolName else none

/-- An alias says by itself which rule it renames. -/
theorem Rule.renamedName?_gist (kind : NodeKind) (rule : Rule) :
    rule.gist.renamedName? kind = rule.renamedName? kind := by
  rw [renamedName?, renamedName?, show rule.gist.aliasNode = rule.aliasNode from rfl]
  by_cases gives : rule.aliasNode = some kind
  · rw [if_pos gives, if_pos gives, gist]
    simp only [if_pos (kind_of_aliasNode gives)]
    cases rule.content <;> rfl
  · rw [if_neg gives, if_neg gives]

namespace Grammar

/-- The names of the rules that aliases of that kind rename directly, in order. -/
def renamedNames (grammar : Grammar) (kind : NodeKind) : List String :=
  grammar.orderedRules.flatMap fun entry => entry.2.walk.filterMap (Rule.renamedName? kind)

/-- The first renamed body is that of the first name that is renamed and has one. -/
theorem findSome?_renamedNames (grammar : Grammar) (table : SymbolTable) (kind : NodeKind) :
    (grammar.renamedNames kind).findSome?
        (fun target => if table.isToken target then none else grammar.rules[target]?) =
      grammar.aliasedBody? table kind := by
  have renamed : Rule.renamedBody? grammar table kind = fun node =>
      (node.renamedName? kind).bind fun target =>
        if table.isToken target then none else grammar.rules[target]? := by
    funext node
    rw [Rule.renamedBody?, Rule.renamedName?]
    split
    · cases node.content.bind Rule.symbolName <;> rfl
    · rfl
  rw [aliasedBody?, renamedNames, ← List.head?_filterMap, List.filterMap_flatMap,
    List.head?_flatMap]
  simp only [List.filterMap_filterMap, List.head?_filterMap, renamed]

variable {grammar : Grammar} {rules : ByName Rule}

/-- References stand for what is alike. -/
theorem alike_of (alike : ByName.Related Rule.Alike grammar.rules rules) (table : SymbolTable)
    (name : String) :
    (Referent.of grammar table name).Alike (Referent.of (grammar.withBodies rules) table name) := by
  have bodies : (Referent.ofBody grammar name).Alike
      (Referent.ofBody (grammar.withBodies rules) name) := by
    rw [Referent.ofBody, Referent.ofBody, withBodies]
    cases held : grammar.rules[name]? with
    | none =>
      rw [alike.lacks held]
      exact .nothing
    | some body =>
      obtain ⟨body', held', same⟩ := alike.exists_related held
      rw [held']
      exact .body same
  rw [Referent.of, Referent.of]
  cases (table.ruleSymbol? name).bind table.get? with
  | none => exact bodies
  | some symbol =>
    dsimp only
    split
    · exact .node _
    · split
      · exact bodies
      · exact .nothing

/-- References contribute the same. -/
theorem expansion_withBodies (alike : ByName.Related Rule.Alike grammar.rules rules)
    (table : SymbolTable) (limit : Nat) (visiting : List String) :
    Rule.expansion (grammar.withBodies rules) table limit visiting =
      Rule.expansion grammar table limit visiting := by
  induction limit generalizing visiting with
  | zero =>
    funext field name
    have stands := alike_of alike table name
    rw [Rule.expansion, Rule.expansion]
    generalize Referent.of grammar table name = referent,
      Referent.of (grammar.withBodies rules) table name = referent' at stands
    cases stands <;> rfl
  | succ limit ih =>
    funext field name
    have stands := alike_of alike table name
    rw [Rule.expansion, Rule.expansion]
    generalize Referent.of grammar table name = referent,
      Referent.of (grammar.withBodies rules) table name = referent' at stands
    cases stands with
    | node | nothing => rfl
    | body same => simp only [ih, same.summary]

/-- Bodies that are alike have the same summary. -/
theorem summary_withBodies (alike : ByName.Related Rule.Alike grammar.rules rules)
    {body body' : Rule} (same : Rule.Alike body body') (table : SymbolTable) :
    body'.summary (grammar.withBodies rules) table = body.summary grammar table := by
  have size : (grammar.withBodies rules).rules.size = grammar.rules.size := alike.size_eq.symm
  rw [Rule.summary, Rule.summary, size, expansion_withBodies alike, same.summary]

/-- The first renamed bodies are alike. -/
theorem related_aliasedBody? (alike : ByName.Related Rule.Alike grammar.rules rules)
    (table : SymbolTable) (kind : NodeKind) :
    Option.Rel Rule.Alike (grammar.aliasedBody? table kind)
      ((grammar.withBodies rules).aliasedBody? table kind) := by
  have names : (grammar.withBodies rules).renamedNames kind = grammar.renamedNames kind :=
    flatMap_orderedRules alike fun same => same.filterMap_walk (Rule.renamedName?_gist kind)
      fun node plain => by
        rw [Rule.renamedName?, Rule.Alike.silent_of_kind Rule.kind_of_aliasNode ⟨rfl, rfl⟩ plain]
        rfl
  rw [← findSome?_renamedNames, ← findSome?_renamedNames, names]
  induction grammar.renamedNames kind with
  | nil => exact .none
  | cons target rest ih =>
    rw [List.findSome?_cons, List.findSome?_cons]
    by_cases token : table.isToken target
    · simpa only [if_pos token] using ih
    · simp only [if_neg token]
      cases held : grammar.rules[target]? with
      | none =>
        rw [show (grammar.withBodies rules).rules[target]? = none from alike.lacks held]
        exact ih
      | some body =>
        obtain ⟨body', held', same⟩ := alike.exists_related held
        rw [show (grammar.withBodies rules).rules[target]? = some body' from held']
        exact .some same

end Grammar

namespace NodeType

variable {grammar : Grammar} {rules : ByName Rule}

/-- A symbol has the same node type. -/
theorem ofSymbol?_withBodies (alike : ByName.Related Rule.Alike grammar.rules rules)
    (table : SymbolTable) (extras : NameSet) (id : Nat) (symbol : Symbol) :
    ofSymbol? (grammar.withBodies rules) table extras id symbol =
      ofSymbol? grammar table extras id symbol := by
  rw [ofSymbol?, ofSymbol?]
  cases symbol.kind
  case nonTerminal =>
    dsimp only
    split
    · rfl
    · split
      · cases held : grammar.rules[symbol.node.name]? with
        | none =>
          rw [show (grammar.withBodies rules).rules[symbol.node.name]? = none from alike.lacks held]
          rfl
        | some body =>
          obtain ⟨body', held', same⟩ := alike.exists_related held
          rw [show (grammar.withBodies rules).rules[symbol.node.name]? = some body' from held',
            Option.map_some, Option.map_some, Grammar.summary_withBodies alike same]
      · rfl
  case aliased =>
    have bodies := Grammar.related_aliasedBody? alike table symbol.node
    generalize grammar.aliasedBody? table symbol.node = body?,
      (grammar.withBodies rules).aliasedBody? table symbol.node = body?' at bodies
    cases bodies with
    | none => rfl
    | some same => simp only [Grammar.summary_withBodies alike same]
  all_goals rfl

/-- The node types that go with a table are the same. -/
theorem listing_withBodies (alike : ByName.Related Rule.Alike grammar.rules rules)
    (table : SymbolTable) :
    listing (grammar.withBodies rules) table = listing grammar table := by
  simp only [listing, candidates, ofSymbol?_withBodies alike]
  rfl

end NodeType

end GrammarAtlas
