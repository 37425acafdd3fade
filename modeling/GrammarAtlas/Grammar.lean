import GrammarAtlas.Rule.Equality
import GrammarAtlas.Rule.Walk
import Std.Data.ExtTreeMap
import Std.Data.ExtTreeSet

/-!
# Grammars

A grammar has a name, a body for each of its rules, and declarations that give some rules a special
part. The rules form a table by name, so two grammars with the same bodies are equal however they
were put together, and everything that goes through the rules does so in the order of their names.

The order of the rules in a document carries no meaning. `Grammar.startRule` therefore determines
the entry rule from the references between the rules, and `Grammar.ruleOrder` puts it first.
-/

namespace GrammarAtlas

/-- A table by name, in the order of code points. -/
abbrev ByName (α : Type) := Std.ExtTreeMap String α

/-- A set of names. -/
abbrev NameSet := Std.ExtTreeSet String

/-- A grammar: its rules and what is declared about them. -/
structure Grammar where
  /-- The address of the schema that the document states. -/
  schema : Option String := none
  /-- The name of the grammar. -/
  name : String
  /-- The grammar that this one extends. -/
  inherits : Option String := none
  /-- The rule bodies by name. -/
  rules : ByName Rule := ∅
  /-- The tokens that may stand between any two tokens. -/
  extras : Option (List Rule) := none
  /-- The tokens that an external scanner produces. -/
  externals : Option (List Rule) := none
  /-- The rules that are put in place of the references to them. -/
  inlined : Option (List String) := none
  /-- Groups of precedence levels and rules, the highest first. -/
  precedences : Option (List (List Rule)) := none
  /-- Sets of rules whose conflicts are resolved while parsing. -/
  conflicts : Option (List (List String)) := none
  /-- The sets of reserved words by context. -/
  reserved : Option (ByName (List Rule)) := none
  /-- The token from which keywords are extracted. -/
  word : Option String := none
  /-- The hidden rules that stand for a choice of other nodes. -/
  supertypes : Option (List String) := none
  deriving DecidableEq

/-- The name of the entry rule by convention. -/
def defaultStartRule : String := "source_file"

namespace Grammar

/-- The grammar of that name without any rule. -/
def empty (name : String) : Grammar := { name }

/-- The grammar with a further rule, or with a new body for a rule that it has. -/
def withRule (grammar : Grammar) (name : String) (body : Rule) : Grammar :=
  { grammar with rules := grammar.rules.insert name body }

/-! ## Declarations -/

/-- The extras, none if they are not declared. -/
def extraRules (grammar : Grammar) : List Rule := grammar.extras.getD []

/-- The externals, none if they are not declared. -/
def externalRules (grammar : Grammar) : List Rule := grammar.externals.getD []

/-- The names of the external tokens. -/
def externalNames (grammar : Grammar) : List String :=
  grammar.externalRules.filterMap Rule.symbolName

/-- The names of the inlined rules. -/
def inlinedNames (grammar : Grammar) : List String := grammar.inlined.getD []

/-- The names of the supertypes. -/
def supertypeNames (grammar : Grammar) : List String := grammar.supertypes.getD []

/-- The names in the declared conflicts. -/
def conflictNames (grammar : Grammar) : List String := (grammar.conflicts.getD []).flatten

/-- The names of the rules that the declared precedences rank. -/
def rankedNames (grammar : Grammar) : List String :=
  (grammar.precedences.getD []).flatten.filterMap Rule.symbolName

/-- The rules that any declaration names. -/
def declaredNames (grammar : Grammar) : List String :=
  grammar.word.toList ++ grammar.supertypeNames ++ grammar.inlinedNames ++
    grammar.conflictNames ++ grammar.rankedNames

/-- Whether a rule is declared a supertype. -/
def isSupertype (grammar : Grammar) (name : String) : Bool := grammar.supertypeNames.contains name

/-- Whether a rule is declared inlined. -/
def isInlined (grammar : Grammar) (name : String) : Bool := grammar.inlinedNames.contains name

/-- Whether a name keeps its nodes out of the tree: it does if it starts with an underscore. -/
def isHidden (name : String) : Bool := name.toList.head? = some '_'

/-! ## The entry rule -/

/-- The names that are referred to from elsewhere: in the body of another rule or in an extra. -/
def mentions (grammar : Grammar) : List String :=
  (grammar.rules.toList.flatMap fun entry => entry.2.references.filter (· != entry.1)) ++
    grammar.extraRules.flatMap Rule.references

/-- The rules that nothing else refers to. -/
def roots (grammar : Grammar) : List String :=
  let mentioned : NameSet := .ofList grammar.mentions
  grammar.rules.keys.filter fun name => !mentioned.contains name

/-- The only element of a list. -/
def only? {α : Type} : List α → Option α
  | [element] => some element
  | _ => none

/-- The entry rule: the one that has the conventional name, or else the only root, or else the
only root that no declaration names. -/
def startRule (grammar : Grammar) : Option String :=
  if grammar.rules.contains defaultStartRule then some defaultStartRule
  else
    match grammar.roots with
    | [root] => some root
    | roots =>
      let declared : NameSet := .ofList grammar.declaredNames
      only? (roots.filter fun name => !declared.contains name)

/-- The rules with their bodies, the entry rule first and the others by name. -/
def orderedRules (grammar : Grammar) : List (String × Rule) :=
  match grammar.startRule with
  | none => grammar.rules.toList
  | some start =>
    (grammar.rules[start]?.map fun body => (start, body)).toList ++
      grammar.rules.toList.filter fun entry => entry.1 != start

/-- The names of the rules, the entry rule first and the others in order. -/
def ruleOrder (grammar : Grammar) : List String := grammar.orderedRules.map Prod.fst

end Grammar

end GrammarAtlas
