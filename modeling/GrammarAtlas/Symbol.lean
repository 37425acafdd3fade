import GrammarAtlas.NodeKind

/-!
# Symbols

A symbol is what a parser tells apart on its stack: the end of the input, a token, a rule, a name
that only aliases give, or an error. Every symbol has a kind of node; some of them never show up in
a tree, and several symbols may share a kind.
-/

namespace GrammarAtlas

/-- What a symbol stands for. -/
inductive SymbolKind where
  /-- The end of the input. -/
  | endOfInput
  /-- A token of the lexer. -/
  | terminal
  /-- A token of an external scanner. -/
  | external
  /-- A rule that is made of other symbols. -/
  | nonTerminal
  /-- A name that only aliases give. -/
  | aliased
  /-- A place where parsing failed. -/
  | error
  deriving DecidableEq, Repr

/-- The word for what a symbol stands for. -/
def SymbolKind.label : SymbolKind → String
  | endOfInput => "End"
  | terminal => "Terminal"
  | external => "External"
  | nonTerminal => "NonTerminal"
  | aliased => "Alias"
  | error => "Error"

/-- A symbol of a language. -/
structure Symbol where
  /-- What it stands for. -/
  kind : SymbolKind
  /-- The kind of its nodes. -/
  node : NodeKind
  /-- Whether its nodes show up in trees. -/
  visible : Bool
  /-- Whether it is declared a supertype. -/
  supertype : Bool := false
  deriving DecidableEq, Repr

namespace Symbol

/-- Whether the symbol can be looked up by the kind of its nodes. -/
def isFindable (symbol : Symbol) : Bool := symbol.visible || symbol.supertype

/-- Whether a look-up of that kind of node finds the symbol. -/
def answersTo (symbol : Symbol) (node : NodeKind) : Bool :=
  symbol.isFindable && symbol.node = node

/-- The end of the input. -/
def endOfInput : Symbol := { kind := .endOfInput, node := ⟨"end", false⟩, visible := false }

/-- The symbol of nodes that stand for a failure to parse. -/
def error : Symbol := { kind := .error, node := ⟨"ERROR", true⟩, visible := true }

/-- A literal text as a token. -/
def literal (words : String) : Symbol :=
  { kind := .terminal, node := ⟨words, false⟩, visible := true }

/-- A kind of node that an alias gives. -/
def alternative (node : NodeKind) : Symbol := { kind := .aliased, node, visible := true }

end Symbol

end GrammarAtlas
