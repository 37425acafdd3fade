import GrammarAtlas.Symbol.Entries

/-!
# The symbol table of a grammar

A symbol table numbers the symbols and the fields of a grammar, and lists the subtypes of each
supertype. `SymbolTable.assemble` makes it for any addressing; `SymbolTable.build` makes it for
numbers of sixteen bits, and refuses a grammar that needs more of them than there are.
-/

namespace GrammarAtlas

/-- Why a grammar has no symbol table. -/
inductive SymbolError where
  /-- No rule is the entry rule, or the entry rule is inlined. -/
  | noStartRule
  /-- There are too many symbols. -/
  | tooManySymbols (count : Nat)
  /-- There are too many fields. -/
  | tooManyFields (count : Nat)
  /-- An external token is declared a supertype. It has no body to take subtypes from. -/
  | bodilessSupertype (name : String)
  deriving DecidableEq, Repr

/-- The wording of the error. -/
def SymbolError.message : SymbolError → String
  | noStartRule => "cannot determine the start rule"
  | tooManySymbols count =>
    "grammar defines " ++ toString count ++ " symbols, more than a language can address"
  | tooManyFields count =>
    "grammar defines " ++ toString count ++ " fields, more than a language can address"
  | bodilessSupertype name => "supertype '" ++ name ++ "' has no body"

/-- The symbols and fields of a grammar by number. -/
structure SymbolTable where
  /-- The symbols. -/
  numbering : Numbering
  /-- The rules that are tokens. -/
  tokens : NameSet
  /-- The names of the fields in order. -/
  fields : Array String
  /-- The number of the entry rule. -/
  start : Nat
  /-- The numbers of the subtypes by the number of the supertype. -/
  subtypeIds : Std.ExtTreeMap Nat (List Nat)

/-- The rules that a supertype stands for: the alternatives of a choice, or the body itself. -/
def Rule.alternatives (rule : Rule) : List Rule :=
  let body := rule.bare
  if body.kind = .choice then body.members.map Rule.bare else [body]

namespace Numbering

/-- The number of the symbol that an alternative of a supertype stands for. -/
def alternativeId? (addressing : Addressing) (numbering : Numbering) (rule : Rule) : Option Nat :=
  match rule.kind with
  | .symbol => rule.symbolName.bind fun name => numbering.ruleIds[name]?
  | .text => rule.literal.bind fun words => numbering.find? addressing ⟨words, false⟩
  | .aliased => rule.aliasNode.bind (numbering.find? addressing)
  | _ => none

/-- The numbers of the subtypes that a body gives to a supertype, in order. -/
def subtypesOf (addressing : Addressing) (numbering : Numbering) (body : Rule) : List Nat :=
  let ids : Std.ExtTreeSet Nat :=
    .ofList (body.alternatives.filterMap (numbering.alternativeId? addressing))
  ids.toList

/-- The first supertype that has a number but no body. -/
def bodilessSupertype? (numbering : Numbering) (grammar : Grammar) : Option String :=
  grammar.supertypeNames.find? fun name =>
    numbering.ruleIds.contains name && !grammar.rules.contains name

/-- The number of a supertype with the numbers of its subtypes. -/
def subtypeEntry (addressing : Addressing) (numbering : Numbering) (grammar : Grammar)
    (name : String) : Option (Nat × List Nat) :=
  match numbering.ruleIds[name]?, grammar.rules[name]? with
  | some id, some body => some (id, numbering.subtypesOf addressing body)
  | _, _ => none

end Numbering

namespace SymbolTable

/-- The symbol table of a grammar, however many symbols and fields there are. -/
def assemble (addressing : Addressing) (grammar : Grammar) : Except SymbolError SymbolTable :=
  match grammar.startRule with
  | none => .error .noStartRule
  | some startName =>
    let numbering := Numbering.ofEntries addressing (grammar.entries startName)
    match numbering.ruleIds[startName]? with
    | none => .error .noStartRule
    | some start =>
      match numbering.bodilessSupertype? grammar with
      | some name => .error (.bodilessSupertype name)
      | none =>
        .ok {
          numbering
          tokens := grammar.tokenNames startName
          fields := grammar.fieldNames.toArray
          start
          subtypeIds := .ofList
            (grammar.supertypeNames.filterMap (numbering.subtypeEntry addressing grammar)) }

/-! ## Symbols -/

/-- The symbols in the order of their numbers, without the error symbol. -/
def symbols (table : SymbolTable) : Array Symbol := table.numbering.symbols

/-- The number of symbols, without the error symbol. -/
def size (table : SymbolTable) : Nat := table.symbols.size

/-- The symbol of that number. -/
def get? (table : SymbolTable) (id : Nat) : Option Symbol :=
  if id = errorId then some .error else table.symbols[id]?

/-- The symbols with their numbers, without the error symbol. -/
def entries (table : SymbolTable) : List (Nat × Symbol) :=
  table.symbols.toList.zipIdx.map fun (symbol, id) => (id, symbol)

/-- The number of the first findable symbol of that kind of node. -/
def idForNodeKind? (table : SymbolTable) (node : NodeKind) : Option Nat :=
  if node = Symbol.error.node then some errorId else table.numbering.find? .sixteenBit node

/-- The number of the symbol of a rule or an external token. -/
def ruleSymbol? (table : SymbolTable) (name : String) : Option Nat :=
  table.numbering.ruleIds[name]?

/-- Whether a rule is a token. -/
def isToken (table : SymbolTable) (name : String) : Bool := table.tokens.contains name

/-- The numbers of the subtypes of a supertype, in order. -/
def subtypes (table : SymbolTable) (supertype : Nat) : List Nat :=
  (table.subtypeIds[supertype]?).getD []

/-- The numbers of the supertypes, in order. -/
def supertypes (table : SymbolTable) : List Nat :=
  table.entries.filterMap fun (id, symbol) => if symbol.supertype then some id else none

/-! ## Fields -/

/-- The number of fields. -/
def fieldCount (table : SymbolTable) : Nat := table.fields.size

/-- The name of the field of that number; fields are numbered from one. -/
def fieldName? (table : SymbolTable) (id : Nat) : Option String :=
  if id = 0 then none else table.fields[id - 1]?

/-- The number of the field of that name. -/
def fieldId? (table : SymbolTable) (name : String) : Option Nat :=
  (table.fields.toList.findIdx? (· == name)).map (· + 1)

/-- The fields with their numbers. -/
def fieldEntries (table : SymbolTable) : List (Nat × String) :=
  table.fields.toList.zipIdx.map fun (name, index) => (index + 1, name)

/-! ## Limits -/

/-- The symbol table of a grammar. Its numbers are those of an unlimited numbering, since a table
that reaches the number of the error symbol is refused. -/
def build (grammar : Grammar) : Except SymbolError SymbolTable :=
  match assemble .sixteenBit grammar with
  | .error error => .error error
  | .ok table =>
    if errorId ≤ table.size then .error (.tooManySymbols table.size)
    else if errorId ≤ table.fieldCount then .error (.tooManyFields table.fieldCount)
    else .ok table

end SymbolTable

end GrammarAtlas
