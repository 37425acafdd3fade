import GrammarAtlas.Grammar.Defect
import GrammarAtlas.Grammar.Reader
import GrammarAtlas.NodeType.Listing
import GrammarAtlas.Text.Quoted

/-!
# Languages

A language is a grammar that has been found consistent, together with its symbol table and its node
types. Loading one can fail at every step on the way; a `LoadError` tells the step and carries the
name under which the language was to be shown.
-/

namespace GrammarAtlas

/-- Why a language cannot be loaded. -/
inductive LoadFault where
  /-- There is no grammar. -/
  | grammar (error : GrammarError)
  /-- The grammar is another one. -/
  | wrongName (expected found : String)
  /-- The grammar has a defect. -/
  | defective (defect : Defect)
  /-- The grammar has no symbol table. -/
  | symbols (error : SymbolError)
  deriving DecidableEq, Repr

/-- The wordings of the causes, from the outermost to the innermost. -/
def LoadFault.chain : LoadFault → List String
  | grammar error => [error.message]
  | wrongName expected found =>
    ["expected grammar '" ++ expected ++ "', found '" ++ found ++ "'"]
  | defective defect => ["invalid grammar: " ++ defect.message, defect.message]
  | symbols error => [error.message]

/-- The failure to load a language. -/
structure LoadError where
  /-- The name under which the language was to be shown. -/
  displayName : String
  /-- Why it cannot be loaded. -/
  fault : LoadFault
  deriving DecidableEq, Repr

/-- The wording of the failure, without its cause. -/
def LoadError.message (error : LoadError) : String :=
  "Error loading " ++ error.displayName ++ " grammar"

/-- A language that has not been loaded yet. -/
structure LanguageSource where
  /-- The name of the grammar. -/
  name : String
  /-- The name under which the language is shown. -/
  displayName : String
  /-- The document with the grammar. -/
  document : String
  deriving DecidableEq, Repr

/-- A loaded language. -/
structure Language where
  /-- The name under which the language is shown. -/
  displayName : String
  /-- The grammar. -/
  grammar : Grammar
  /-- The symbols and fields. -/
  symbols : SymbolTable
  /-- The node types. -/
  nodeTypes : List NodeType

namespace Language

/-! ## Loading -/

/-- The language of a grammar. -/
def ofGrammar (displayName : String) (grammar : Grammar) : Except LoadError Language :=
  match grammar.defect? with
  | some defect => .error { displayName, fault := .defective defect }
  | none =>
    match SymbolTable.build grammar with
    | .error error => .error { displayName, fault := .symbols error }
    | .ok symbols =>
      .ok { displayName, grammar, symbols, nodeTypes := NodeType.listing grammar symbols }

/-- The language of the grammar in a document. -/
def ofDocument (displayName text : String) : Except LoadError Language :=
  match Grammar.ofDocument text with
  | .error error => .error { displayName, fault := .grammar error }
  | .ok grammar => ofGrammar displayName grammar

/-- The language of a source, whose document must hold the grammar of that name. -/
def ofSource (source : LanguageSource) : Except LoadError Language :=
  match Grammar.ofDocument source.document with
  | .error error => .error { displayName := source.displayName, fault := .grammar error }
  | .ok grammar =>
    if grammar.name = source.name then ofGrammar source.displayName grammar
    else
      .error {
        displayName := source.displayName
        fault := .wrongName source.name grammar.name }

/-! ## Queries -/

/-- The name of the grammar. -/
def name (language : Language) : String := language.grammar.name

/-- The number of symbols, without the error symbol. -/
def nodeKindCount (language : Language) : Nat := language.symbols.size

/-- The number of fields. -/
def fieldCount (language : Language) : Nat := language.symbols.fieldCount

/-- The name of the nodes of a symbol. -/
def nodeKindForId? (language : Language) (id : Nat) : Option String :=
  (language.symbols.get? id).map fun symbol => symbol.node.name

/-- The number of the first symbol whose nodes have that name and namedness. -/
def idForNodeKind? (language : Language) (name : String) (named : Bool) : Option Nat :=
  language.symbols.idForNodeKind? ⟨name, named⟩

/-- Whether there is a symbol of that number with a property. -/
def symbolHas (language : Language) (property : Symbol → Bool) (id : Nat) : Bool :=
  (language.symbols.get? id).any property

/-- Whether the nodes of a symbol are named. -/
def isNamed (language : Language) (id : Nat) : Bool :=
  language.symbolHas (fun symbol => symbol.node.named) id

/-- Whether the nodes of a symbol show up in trees. -/
def isVisible (language : Language) (id : Nat) : Bool := language.symbolHas Symbol.visible id

/-- Whether a symbol is a supertype. -/
def isSupertype (language : Language) (id : Nat) : Bool := language.symbolHas Symbol.supertype id

/-- The number of the entry rule. -/
def startSymbol (language : Language) : Nat := language.symbols.start

/-- The name of the nodes of the entry rule. -/
def startKind? (language : Language) : Option String :=
  language.nodeKindForId? language.startSymbol

/-- A short description for debugging. -/
def debugText (language : Language) : String :=
  "Language \x7b name: " ++ Text.quoted language.name ++ ", node_kind_count: " ++
    toString language.nodeKindCount ++ ", field_count: " ++ toString language.fieldCount ++
    ", .. \x7d"

end Language

end GrammarAtlas
