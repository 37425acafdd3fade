import GrammarAtlas.NodeType.Summary
import GrammarAtlas.Symbol.Table

/-!
# The node types of a grammar

Every symbol whose nodes show up in trees gives a node type, the first symbol of a kind deciding for
all of them. The structure of a rule is the summary of its body. References to rules whose nodes do
not show up are replaced by the bodies of these rules; a rule is not replaced again inside its own
body, so that a summary is finite also where such rules refer to themselves.
-/

namespace GrammarAtlas

/-- What a reference stands for in a tree. -/
inductive Referent where
  /-- A node of its own. -/
  | node (kind : NodeKind)
  /-- The nodes of a rule that has none of its own. -/
  | body (rule : Rule)
  /-- Nothing that shows up. -/
  | nothing
  deriving DecidableEq

namespace Referent

/-- The body of a rule, if there is such a rule. -/
def ofBody (grammar : Grammar) (name : String) : Referent :=
  match grammar.rules[name]? with
  | some rule => .body rule
  | none => .nothing

/-- What a reference to that name stands for. -/
def of (grammar : Grammar) (table : SymbolTable) (name : String) : Referent :=
  match (table.ruleSymbol? name).bind table.get? with
  | some symbol =>
    if symbol.isFindable then .node symbol.node
    else if symbol.kind = .nonTerminal then ofBody grammar name
    else .nothing
  | none => ofBody grammar name

end Referent

namespace Rule

/-- What a reference contributes, `limit` replacements being left and the rules in `visiting` being
replaced around it already. -/
def expansion (grammar : Grammar) (table : SymbolTable) (limit : Nat) (visiting : List String) :
    Expansion := fun field name =>
  match Referent.of grammar table name with
  | .node kind => .occurrence field kind
  | .nothing => {}
  | .body body =>
    match limit with
    | 0 => {}
    | limit + 1 =>
      if visiting.contains name then {}
      else body.summarizeWith (expansion grammar table limit (name :: visiting)) field

/-- The summary of a rule body. There are no more replacements inside each other than rules. -/
def summary (grammar : Grammar) (table : SymbolTable) (body : Rule) : Summary :=
  body.summarizeWith (expansion grammar table grammar.rules.size []) none

/-- The body of the rule that an alias of that kind renames directly, unless it is a token. -/
def renamedBody? (grammar : Grammar) (table : SymbolTable) (kind : NodeKind) (rule : Rule) :
    Option Rule :=
  if rule.aliasNode = some kind then
    match rule.content.bind symbolName with
    | some target => if table.isToken target then none else grammar.rules[target]?
    | none => none
  else none

end Rule

namespace Grammar

/-- The body of the first rule that an alias of that kind renames. -/
def aliasedBody? (grammar : Grammar) (table : SymbolTable) (kind : NodeKind) : Option Rule :=
  grammar.orderedRules.findSome? fun (_, body) =>
    body.walk.findSome? (Rule.renamedBody? grammar table kind)

end Grammar

namespace NodeType

/-- The node type with the structure that a summary describes. -/
def withSummary (entry : NodeType) (summary : Summary) : NodeType :=
  { entry with
    fields := some (summary.fields.filterMap fun _ slot => slot.occupancy?)
    children := summary.children.occupancy? }

/-- The flag of a node type: set or not mentioned. -/
def flag (condition : Bool) : Option Bool := if condition then some true else none

/-- The kinds that a supertype stands for. -/
def subtypeKinds (table : SymbolTable) (id : Nat) : List NodeKind :=
  (table.subtypes id).filterMap fun subtype => (table.get? subtype).map Symbol.node

/-- The node type of the symbol of that number, if its nodes show up. -/
def ofSymbol? (grammar : Grammar) (table : SymbolTable) (extras : NameSet) (id : Nat)
    (symbol : Symbol) : Option NodeType :=
  let entry : NodeType := { kind := symbol.node, extra := flag (extras.contains symbol.node.name) }
  match symbol.kind with
  | .endOfInput | .error => none
  | .terminal | .external => if symbol.visible then some entry else none
  | .nonTerminal =>
    if symbol.supertype then some { entry with subtypes := some (subtypeKinds table id) }
    else if symbol.visible then
      (grammar.rules[symbol.node.name]?).map fun body =>
        { entry with root := flag (id = table.start) }.withSummary (body.summary grammar table)
    else none
  | .aliased =>
    match grammar.aliasedBody? table symbol.node with
    | some body => some (entry.withSummary (body.summary grammar table))
    | none => some entry

/-- The names of the rules that may stand anywhere. -/
def extraNames (grammar : Grammar) : NameSet :=
  .ofList (grammar.extraRules.filterMap Rule.symbolName)

/-- The node types of all symbols, in the order of their numbers. -/
def candidates (grammar : Grammar) (table : SymbolTable) : List NodeType :=
  let extras := extraNames grammar
  table.entries.filterMap fun (id, symbol) => ofSymbol? grammar table extras id symbol

/-- The first node type of each kind. -/
def firstByKind (entries : List NodeType) : ByKind NodeType :=
  entries.foldl (fun table entry => table.insertIfNew entry.kind entry) ∅

/-- Whether the node type is that of a supertype. -/
def isSupertype (entry : NodeType) : Bool := entry.subtypes.isSome

/-- Supertypes first, then named kinds, then anonymous ones, each group in order. -/
def grouped (entries : List NodeType) : List NodeType :=
  entries.filter isSupertype ++
    entries.filter (fun entry => !entry.isSupertype && entry.kind.named) ++
    entries.filter fun entry => !entry.isSupertype && !entry.kind.named

/-- The node types of a grammar. -/
def listing (grammar : Grammar) (table : SymbolTable) : List NodeType :=
  grouped ((firstByKind (candidates grammar table)).toList.map Prod.snd)

end NodeType

end GrammarAtlas
