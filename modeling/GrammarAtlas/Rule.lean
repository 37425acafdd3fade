/-!
# Rule trees

A grammar describes each of its rules by a tree. Every node carries a kind and up to seven
properties, and any property may accompany any kind: whether the combination makes sense is a
question for `GrammarAtlas.Grammar.Defect`, so that a malformed tree can be held, shown and
diagnosed.

The constructors (`Rule.seq`, `Rule.optional`, …) build the trees that do make sense. The queries
read one node; those that read a whole tree are in `GrammarAtlas.Rule.Walk`.
-/

namespace GrammarAtlas

/-- What a node of a rule tree stands for. -/
inductive RuleKind where
  /-- Matches nothing. -/
  | blank
  /-- Literal text. -/
  | text
  /-- A regular expression. -/
  | pattern
  /-- A reference to a rule. -/
  | symbol
  /-- One of several alternatives. -/
  | choice
  /-- Several rules one after another. -/
  | seq
  /-- Any number of repetitions. -/
  | zeroOrMore
  /-- At least one repetition. -/
  | oneOrMore
  /-- A precedence level. -/
  | prec
  /-- A left-associative precedence level. -/
  | precLeft
  /-- A right-associative precedence level. -/
  | precRight
  /-- A precedence level that is weighed while parsing. -/
  | precDynamic
  /-- A field label. -/
  | field
  /-- A renamed node. -/
  | aliased
  /-- Content that is lexed as one token. -/
  | token
  /-- A token that no extra may precede. -/
  | immediateToken
  /-- A context of reserved words. -/
  | reserved
  deriving DecidableEq, Repr

namespace RuleKind

/-- Every kind, in the order in which diagnostics list them. -/
def all : List RuleKind :=
  [blank, text, pattern, symbol, choice, seq, zeroOrMore, oneOrMore, prec, precLeft, precRight,
    precDynamic, field, aliased, token, immediateToken, reserved]

/-- The tag that stands for a kind in a grammar document. -/
def tag : RuleKind → String
  | blank => "BLANK"
  | text => "STRING"
  | pattern => "PATTERN"
  | symbol => "SYMBOL"
  | choice => "CHOICE"
  | seq => "SEQ"
  | zeroOrMore => "REPEAT"
  | oneOrMore => "REPEAT1"
  | prec => "PREC"
  | precLeft => "PREC_LEFT"
  | precRight => "PREC_RIGHT"
  | precDynamic => "PREC_DYNAMIC"
  | field => "FIELD"
  | aliased => "ALIAS"
  | token => "TOKEN"
  | immediateToken => "IMMEDIATE_TOKEN"
  | reserved => "RESERVED"

/-- The kind that a tag stands for. -/
def ofTag? (tag : String) : Option RuleKind :=
  all.find? fun kind => kind.tag == tag

/-- The four precedence wrappers. -/
def isPrecedence : RuleKind → Bool
  | prec | precLeft | precRight | precDynamic => true
  | _ => false

/-- The kinds that wrap exactly one rule. -/
def isWrapper : RuleKind → Bool
  | zeroOrMore | oneOrMore | field | aliased | token | immediateToken | reserved => true
  | kind => kind.isPrecedence

/-- Reading a tag undoes writing it. -/
theorem ofTag?_tag (kind : RuleKind) : ofTag? kind.tag = some kind := by
  cases kind <;> decide +kernel

end RuleKind

/-- The value of a rule: text, or a precedence level. -/
inductive RuleValue where
  /-- Literal text, a pattern, the name an alias gives, or a named precedence. -/
  | text (text : String)
  /-- A numbered precedence level. -/
  | level (level : Int)
  deriving DecidableEq, Repr

/-- One node of a rule tree, with everything below it. -/
structure Rule where
  /-- What the node stands for. -/
  kind : RuleKind
  /-- Literal text, pattern, alias name or precedence level. -/
  value : Option RuleValue := none
  /-- The rule that a reference names, or the label of a field. -/
  name : Option String := none
  /-- The wrapped rule. -/
  content : Option Rule := none
  /-- The alternatives of a choice, the elements of a sequence. -/
  members : List Rule := []
  /-- Whether the node that an alias produces is named. -/
  named : Option Bool := none
  /-- The flags of a pattern. -/
  flags : Option String := none
  /-- The set of reserved words that a context selects. -/
  contextName : Option String := none

namespace Rule

/-! ## Constructors -/

/-- An empty production. -/
def blank : Rule := { kind := .blank }

/-- A literal token. -/
def text (text : String) : Rule := { kind := .text, value := some (.text text) }

/-- A token given by a regular expression. -/
def pattern (source : String) : Rule := { kind := .pattern, value := some (.text source) }

/-- A reference to the rule of that name. -/
def symbol (name : String) : Rule := { kind := .symbol, name := some name }

/-- The members one after another. -/
def seq (members : List Rule) : Rule := { kind := .seq, members }

/-- Exactly one of the members. -/
def choice (members : List Rule) : Rule := { kind := .choice, members }

/-- The rule or nothing. -/
def optional (rule : Rule) : Rule := choice [rule, blank]

/-- Any number of repetitions. -/
def zeroOrMore (rule : Rule) : Rule := { kind := .zeroOrMore, content := some rule }

/-- At least one repetition. -/
def oneOrMore (rule : Rule) : Rule := { kind := .oneOrMore, content := some rule }

/-- The rule at a numbered precedence level. -/
def prec (level : Int) (rule : Rule) : Rule :=
  { kind := .prec, value := some (.level level), content := some rule }

/-- The rule at a left-associative precedence level. -/
def precLeft (level : Int) (rule : Rule) : Rule :=
  { kind := .precLeft, value := some (.level level), content := some rule }

/-- The rule at a right-associative precedence level. -/
def precRight (level : Int) (rule : Rule) : Rule :=
  { kind := .precRight, value := some (.level level), content := some rule }

/-- The rule at a precedence level that is weighed while parsing. -/
def precDynamic (level : Int) (rule : Rule) : Rule :=
  { kind := .precDynamic, value := some (.level level), content := some rule }

/-- The nodes of the rule under a field label. -/
def field (name : String) (rule : Rule) : Rule :=
  { kind := .field, name := some name, content := some rule }

/-- The node of the rule under another name. -/
def aliased (rule : Rule) (name : String) (named : Bool) : Rule :=
  { kind := .aliased, value := some (.text name), named := some named, content := some rule }

/-- The rule as one token. -/
def token (rule : Rule) : Rule := { kind := .token, content := some rule }

/-- The rule as one token that no extra may precede. -/
def immediateToken (rule : Rule) : Rule := { kind := .immediateToken, content := some rule }

/-! ## Queries on one node -/

/-- The text of a value, on nodes of the given kind only. -/
def textIf (kind : RuleKind) (rule : Rule) : Option String :=
  match rule.value with
  | some (.text text) => if rule.kind = kind then some text else none
  | _ => none

/-- The text of a literal. -/
def literal : Rule → Option String := textIf .text

/-- The source of a pattern. -/
def patternSource : Rule → Option String := textIf .pattern

/-- The name that an alias gives. -/
def aliasName : Rule → Option String := textIf .aliased

/-- Whether the node that an alias produces is named: not unless it says so. -/
def isNamedAlias (rule : Rule) : Bool := rule.named.getD false

/-- Whether the node refers to a rule. -/
def isSymbol (rule : Rule) : Bool := rule.kind = .symbol

/-- Literals and patterns match text directly. -/
def isTerminal (rule : Rule) : Bool := rule.kind = .text || rule.kind = .pattern

/-- The rule that a reference names. -/
def symbolName (rule : Rule) : Option String := if rule.isSymbol then rule.name else none

/-- The label of a field. -/
def fieldName (rule : Rule) : Option String := if rule.kind = .field then rule.name else none

/-- The number of a precedence level; a named precedence has none. -/
def level (rule : Rule) : Option Int :=
  match rule.value with
  | some (.level level) => if rule.kind.isPrecedence then some level else none
  | _ => none

/-- The rules directly below a node: the content, then the members. -/
def children (rule : Rule) : List Rule := rule.content.toList ++ rule.members

end Rule

end GrammarAtlas
