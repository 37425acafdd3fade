import GrammarAtlas.Rule.Literal
import GrammarAtlas.Symbol.Numbering

/-!
# What a grammar numbers

The symbols of a grammar are numbered in four blocks: tokens, of the rules and then of the extras
and the scanner; rules that are made of other symbols; and kinds of nodes that only aliases give.
Within a block, rules come in the order of `Grammar.orderedRules`.
-/

namespace GrammarAtlas

/-- The kind of node that an alias gives. -/
def Rule.aliasNode (rule : Rule) : Option NodeKind :=
  rule.aliasName.map fun name => ⟨name, rule.isNamedAlias⟩

/-- The kinds of node that the aliases in a rule tree give, in pre-order. -/
def Rule.aliasNodes (rule : Rule) : List NodeKind := rule.walk.filterMap Rule.aliasNode

namespace Grammar

/-- Whether a rule becomes a token: it is lexical and not the entry rule. -/
def isToken (start : String) (name : String) (body : Rule) : Bool :=
  name != start && body.isLexical

/-- The rules that become tokens. -/
def tokenNames (grammar : Grammar) (start : String) : NameSet :=
  .ofList ((grammar.orderedRules.filter fun (name, body) => isToken start name body).map Prod.fst)

/-- The symbol of a rule that becomes a token. -/
def tokenSymbol (name : String) : Symbol :=
  { kind := .terminal, node := ⟨name, true⟩, visible := !isHidden name }

/-- The symbol of an external token. -/
def externalSymbol (name : String) : Symbol :=
  { kind := .external, node := ⟨name, true⟩, visible := !isHidden name }

/-- The symbol of a rule that is made of other symbols. The entry rule is always visible. -/
def ruleSymbol (grammar : Grammar) (start name : String) : Symbol :=
  { kind := .nonTerminal
    node := ⟨name, true⟩
    visible := name = start || !isHidden name
    supertype := grammar.isSupertype name }

/-- The entry of a literal. -/
def literalEntry (words : String) : Entry := .shared (.literal words)

/-- The tokens of the rules: those that are tokens themselves, and the literals in the others. -/
def tokenEntries (grammar : Grammar) (start : String) : List Entry :=
  grammar.orderedRules.flatMap fun (name, body) =>
    if isToken start name body then [.own (tokenSymbol name)]
    else body.literals.map literalEntry

/-- The literals in the extras. -/
def extraEntries (grammar : Grammar) : List Entry :=
  grammar.extraRules.flatMap fun extra => extra.literals.map literalEntry

/-- The entry of an external token. A reference to a rule needs none: the rule has its own. -/
def externalEntry (grammar : Grammar) (token : Rule) : Option Entry :=
  match token.symbolName with
  | some name =>
    if grammar.rules.contains name then none else some (.own (externalSymbol name))
  | none => token.literal.map literalEntry

/-- The tokens of the external scanner. -/
def externalEntries (grammar : Grammar) : List Entry :=
  grammar.externalRules.filterMap grammar.externalEntry

/-- The rules that are made of other symbols, except those that are put in place of the references
to them. -/
def ruleEntries (grammar : Grammar) (start : String) : List Entry :=
  grammar.orderedRules.filterMap fun (name, body) =>
    if isToken start name body || grammar.isInlined name then none
    else some (.own (grammar.ruleSymbol start name))

/-- The kinds of nodes that aliases give. -/
def aliasEntries (grammar : Grammar) : List Entry :=
  grammar.orderedRules.flatMap fun (_, body) =>
    body.aliasNodes.map fun node => .shared (.alternative node)

/-- Everything that a grammar numbers, in order. -/
def entries (grammar : Grammar) (start : String) : List Entry :=
  grammar.tokenEntries start ++ grammar.extraEntries ++ grammar.externalEntries ++
    grammar.ruleEntries start ++ grammar.aliasEntries

/-- The names of the fields in the rule bodies, in order. -/
def fieldNames (grammar : Grammar) : List String :=
  let names : NameSet :=
    .ofList (grammar.rules.toList.flatMap fun (_, body) => body.walk.filterMap Rule.fieldName)
  names.toList

end Grammar

end GrammarAtlas
