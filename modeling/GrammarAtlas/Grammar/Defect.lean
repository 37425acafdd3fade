import GrammarAtlas.Grammar
import GrammarAtlas.Pattern.Verdict

/-!
# What can be wrong with a grammar

A grammar can be read from a document and still be inconsistent: a rule may lack a property that
its kind needs, or a name may refer to nothing. `Grammar.defect?` goes through a grammar in a fixed
order and finds its first defect; a grammar without any can be given symbols.

Which patterns are refused, and what is reported on them, is a parameter of the checks. It is
`Pattern.report?` unless something else is said.
-/

namespace GrammarAtlas

/-- What can be wrong with one node of a rule tree. -/
inductive Flaw where
  /-- A reference or a field without a name. -/
  | noName
  /-- A literal, a pattern or an alias without text. -/
  | noValue
  /-- A choice or a sequence of nothing. -/
  | noMembers
  /-- A literal of no characters. -/
  | empty
  /-- A wrapper around nothing. -/
  | noContent
  /-- A pattern that is refused, with the report on it. -/
  | badPattern (source report : String)
  deriving DecidableEq, Repr

/-- The flaw of a wrapper around nothing. -/
def Rule.contentFlaw? (rule : Rule) : Option Flaw :=
  if rule.content.isNone then some .noContent else none

/-- What is wrong with a node by itself, if anything is, given the reports on patterns. -/
def Rule.flaw? (rule : Rule) (report? : String → Option String := Pattern.report?) :
    Option Flaw :=
  match rule.kind with
  | .blank => none
  | .symbol => if rule.name.isNone then some .noName else none
  | .field => if rule.name.isNone then some .noName else rule.contentFlaw?
  | .aliased => if rule.aliasName.isNone then some .noValue else rule.contentFlaw?
  | .choice | .seq => if rule.members.isEmpty then some .noMembers else none
  | .text =>
    match rule.literal with
    | none => some .noValue
    | some words => if words.isEmpty then some .empty else none
  | .pattern =>
    match rule.patternSource with
    | none => some .noValue
    | some source => (report? source).map (Flaw.badPattern source)
  | .zeroOrMore | .oneOrMore | .prec | .precLeft | .precRight | .precDynamic | .token
  | .immediateToken | .reserved => rule.contentFlaw?

/-- A declaration that names rules. -/
inductive Declaration where
  /-- The inlined rules. -/
  | inlined
  /-- The supertypes. -/
  | supertypes
  /-- The conflicts. -/
  | conflicts
  /-- The keyword token. -/
  | word
  deriving DecidableEq, Repr

/-- The word for a declaration. -/
def Declaration.key : Declaration → String
  | inlined => "inline"
  | supertypes => "supertypes"
  | conflicts => "conflicts"
  | word => "word"

/-- What can be wrong with a grammar. -/
inductive Defect where
  /-- The name is not an identifier. -/
  | badName (name : String)
  /-- There are no rules. -/
  | noRules
  /-- No rule is the entry rule. -/
  | noStartRule
  /-- A node is flawed; the context is the rule or the declaration that it stands in. -/
  | flawed (kind : RuleKind) (context : String) (flaw : Flaw)
  /-- A reference names neither a rule nor an external token. -/
  | undefinedSymbol (name context : String)
  /-- A declaration names no rule. -/
  | undeclaredRule (declaration : Declaration) (name : String)
  deriving DecidableEq, Repr

namespace Defect

/-- The wording for a flawed node. -/
def flawMessage (kind : RuleKind) (context : String) : Flaw → String
  | .noName => kind.tag ++ " rule in '" ++ context ++ "' has no name"
  | .noValue => kind.tag ++ " rule in '" ++ context ++ "' has no value"
  | .noMembers => kind.tag ++ " rule in '" ++ context ++ "' has no members"
  | .empty => kind.tag ++ " rule in '" ++ context ++ "' is empty"
  | .noContent => kind.tag ++ " rule in '" ++ context ++ "' has no content"
  | .badPattern source report =>
    "invalid pattern /" ++ source ++ "/ in '" ++ context ++ "': " ++ report

/-- The wording of a defect. -/
def message : Defect → String
  | badName name => "grammar name '" ++ name ++ "' is not a valid identifier"
  | noRules => "grammar has no rules"
  | noStartRule => "cannot determine the start rule"
  | flawed kind context flaw => flawMessage kind context flaw
  | undefinedSymbol name context =>
    "undefined symbol '" ++ name ++ "' referenced in rule '" ++ context ++ "'"
  | undeclaredRule declaration name =>
    declaration.key ++ " refers to undefined rule '" ++ name ++ "'"

end Defect

/-- Whether a name is a letter or an underscore, followed by letters, digits and underscores. -/
def isIdentifier (name : String) : Bool :=
  match name.toList with
  | [] => false
  | first :: rest =>
    (first.isAlpha || first = '_') && rest.all fun char => char.isAlphanum || char = '_'

namespace Grammar

/-- The rule bodies and the extras, each with the context that it stands in. -/
def referringTrees (grammar : Grammar) : List (String × Rule) :=
  grammar.orderedRules ++ grammar.extraRules.map fun extra => ("extras", extra)

/-- All rule trees of a grammar, each with the context that it stands in. -/
def allTrees (grammar : Grammar) : List (String × Rule) :=
  grammar.referringTrees ++ grammar.externalRules.map fun token => ("externals", token)

/-- The names that a reference may have. -/
def definedNames (grammar : Grammar) : NameSet :=
  .ofList (grammar.rules.keys ++ grammar.externalNames)

/-- The names that declarations call rules, with these declarations. -/
def declarations (grammar : Grammar) : List (Declaration × String) :=
  grammar.inlinedNames.map (Declaration.inlined, ·) ++
    grammar.supertypeNames.map (Declaration.supertypes, ·) ++
    grammar.conflictNames.map (Declaration.conflicts, ·) ++
    grammar.word.toList.map (Declaration.word, ·)

/-- The defect of a name that is no identifier. -/
def nameDefect? (grammar : Grammar) : Option Defect :=
  if isIdentifier grammar.name then none else some (.badName grammar.name)

/-- The defect of a grammar without rules, or without an entry rule. -/
def startDefect? (grammar : Grammar) : Option Defect :=
  if grammar.rules.isEmpty then some .noRules
  else if grammar.startRule.isNone then some .noStartRule
  else none

/-- The first flawed node of a rule tree. -/
def flawIn? (context : String) (rule : Rule)
    (report? : String → Option String := Pattern.report?) : Option Defect :=
  rule.walk.findSome? fun node => (node.flaw? report?).map (Defect.flawed node.kind context)

/-- The first flawed node. -/
def flawDefect? (grammar : Grammar) (report? : String → Option String := Pattern.report?) :
    Option Defect :=
  grammar.allTrees.findSome? fun (context, rule) => flawIn? context rule report?

/-- The first reference of a rule tree to a name that is not defined. -/
def undefinedIn? (defined : NameSet) (context : String) (rule : Rule) : Option Defect :=
  (rule.references.find? fun name => !defined.contains name).map fun name =>
    .undefinedSymbol name context

/-- The first reference to a name that is not defined. -/
def symbolDefect? (grammar : Grammar) : Option Defect :=
  let defined := grammar.definedNames
  grammar.referringTrees.findSome? fun (context, rule) => undefinedIn? defined context rule

/-- The first name in a declaration that is not the name of a rule. -/
def declarationDefect? (grammar : Grammar) : Option Defect :=
  (grammar.declarations.find? fun (_, name) => !grammar.rules.contains name).map
    fun (declaration, name) => .undeclaredRule declaration name

/-- The first defect of a grammar: of its name, its rules as a whole, the nodes of the rules, the
references and the declarations, in this order. -/
def defect? (grammar : Grammar) (report? : String → Option String := Pattern.report?) :
    Option Defect :=
  grammar.nameDefect? <|> grammar.startDefect? <|> grammar.flawDefect? report? <|>
    grammar.symbolDefect? <|> grammar.declarationDefect?

end Grammar

end GrammarAtlas
