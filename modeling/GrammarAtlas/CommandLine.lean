import GrammarAtlas.Bundled
import GrammarAtlas.FileFault
import GrammarAtlas.NodeType.Writer
import GrammarAtlas.Text.Letters
import GrammarAtlas.Text.Padded

/-!
# The command line

The command loads the bundled grammar or one from a file, and prints what it defines: its node
types, its symbols and fields, or a line that says that it has been loaded. `run` is the whole
command, up to how a file is read.
-/

namespace GrammarAtlas.CommandLine

/-! ## Arguments -/

/-- What an argument can set. -/
inductive Key where
  /-- The path of the grammar to load. -/
  | grammar
  /-- Whether the node types are printed. -/
  | types
  /-- Whether the symbols and fields are printed. -/
  | symbols
  /-- Whether only failures are reported. -/
  | quiet
  deriving DecidableEq, Repr

namespace Key

/-- The keys with their names. -/
def names : List (String × Key) :=
  [("grammar", grammar), ("types", types), ("symbols", symbols), ("quiet", quiet)]

/-- Whether letters are those of one word: in capitals, or small behind the first one. -/
def isOneWord (word : List Char) : Bool :=
  word.all Char.isUpper || word.tail.all Char.isLower

/-- The characters without those in front that are part of no word. -/
def dropSeparators (text : List Char) : List Char :=
  text.dropWhile fun char => !Text.isLetterOrNumeral char

/-- The key that a name stands for. Neither capitals nor separators around the name count. -/
def ofLong? (text : List Char) : Option Key :=
  let word := (dropSeparators (dropSeparators text).reverse).reverse
  if isOneWord word then names.lookup (String.ofList (word.map Char.toLower)) else none

/-- The key that a letter stands for. -/
def ofShort? : List Char → Option Key
  | ['g'] => some grammar
  | ['q'] => some quiet
  | _ => none

end Key

/-- An argument. -/
inductive Argument where
  /-- The end of the keys. -/
  | endOfKeys
  /-- A key, possibly with a value. -/
  | key (key : Key) (value : Option String)
  deriving DecidableEq, Repr

/-- What stands before and behind the first equals sign. -/
def splitValue (text : List Char) : List Char × Option String :=
  (text.takeWhile (· ≠ '='),
    match text.dropWhile (· ≠ '=') with
    | [] => none
    | _ :: value => some (String.ofList value))

/-- The argument that a text stands for. -/
def Argument.of? (text : String) : Option Argument :=
  match text.toList with
  | ['-', '-'] => some .endOfKeys
  | '-' :: '-' :: rest =>
    let (name, value) := splitValue rest
    (Key.ofLong? name).map fun key => .key key value
  | '-' :: rest =>
    let (name, value) := splitValue rest
    (Key.ofShort? name).map fun key => .key key value
  | _ => none

/-- What the arguments ask for. -/
structure Options where
  /-- The path of the grammar to load, if it is not the bundled one. -/
  grammar : Option String := none
  /-- Whether the node types are printed. -/
  types : Bool := false
  /-- Whether the symbols and fields are printed. -/
  symbols : Bool := false
  /-- Whether only failures are reported. -/
  quiet : Bool := false
  deriving DecidableEq, Repr

namespace Options

/-- The options with further arguments. The path of the grammar may be an argument of its own; of
two paths the later one counts. -/
def add : Options → List String → Option Options
  | options, [] => some options
  | options, text :: rest =>
    match Argument.of? text with
    | none => none
    | some .endOfKeys => if rest.isEmpty then some options else none
    | some (.key .types _) => add { options with types := true } rest
    | some (.key .symbols _) => add { options with symbols := true } rest
    | some (.key .quiet _) => add { options with quiet := true } rest
    | some (.key .grammar (some path)) => add { options with grammar := some path } rest
    | some (.key .grammar none) =>
      match rest with
      | [] => none
      | path :: rest => add { options with grammar := some path } rest

/-- What all arguments together ask for. -/
def ofArguments? (arguments : List String) : Option Options := add {} arguments

end Options

/-! ## Names -/

/-- The characters without all copies of a word in front, at most `limit` of them. -/
def dropCopies (word : List Char) : (limit : Nat) → List Char → List Char
  | 0, text => text
  | limit + 1, text =>
    if word.isPrefixOf text then dropCopies word limit (text.drop word.length) else text

/-- What the names of grammar directories begin with. -/
def directoryMark : String := "tree-sitter-"

/-- The name of a grammar directory without its mark. -/
def directoryName (name : String) : String :=
  String.ofList (dropCopies directoryMark.toList name.length name.toList)

/-- The name of a file without its ending. A dot in front is not the mark of an ending. -/
def fileStem (name : String) : String :=
  match name.toList.reverse.dropWhile (· ≠ '.') with
  | [] => name
  | [_] => name
  | _ :: stem => String.ofList stem.reverse

/-- The name under which the grammar in a file is shown: that of the directory that holds its
sources, if the file is in such a place, and otherwise that of the file. -/
def displayName (path : String) : String :=
  match ((path.splitOn "/").filter fun step => step ≠ "" && step ≠ ".").reverse with
  | [] => "custom"
  | file :: directories =>
    if file = ".." then "custom"
    else
      match directories with
      | "src" :: directory :: _ =>
        if fileStem file = "grammar" && directory ≠ ".." then directoryName directory
        else fileStem file
      | _ => fileStem file

/-! ## Output -/

/-- What is marked of a symbol. -/
def symbolMarks (symbol : Symbol) : List String :=
  (if symbol.node.named then ["named"] else []) ++ (if symbol.visible then [] else ["hidden"]) ++
    if symbol.supertype then ["supertype"] else []

/-- The line for a symbol. -/
def symbolLine (id : Nat) (symbol : Symbol) : String :=
  Text.padLeft 5 (toString id) ++ "  " ++ symbol.kind.label ++ "  " ++ symbol.node.name ++ "  [" ++
    ", ".intercalate (symbolMarks symbol) ++ "]\n"

/-- The line for a field. -/
def fieldLine (id : Nat) (name : String) : String :=
  "field " ++ Text.padLeft 3 (toString id) ++ "  " ++ name ++ "\n"

/-- The lines for all symbols and fields. -/
def symbolLines (table : SymbolTable) : String :=
  String.join (table.entries.map fun (id, symbol) => symbolLine id symbol) ++
    String.join (table.fieldEntries.map fun (id, name) => fieldLine id name)

/-- The line that says that a language has been loaded. -/
def loadedLine (language : Language) : String :=
  "Loaded " ++ language.displayName ++ " grammar: " ++ toString language.nodeKindCount ++
    " node kinds, " ++ toString language.fieldCount ++ " fields, start rule '" ++
    language.startKind?.getD "" ++ "'\n"

/-- What the options ask to be printed of a language. -/
def report (options : Options) (language : Language) : String :=
  (if options.types then NodeType.document language.nodeTypes ++ "\n" else "") ++
    (if options.symbols then symbolLines language.symbols else "") ++
    if options.quiet || options.types || options.symbols then "" else loadedLine language

/-! ## The command -/

/-- What the command comes to. -/
structure Outcome where
  /-- The exit code. -/
  code : Nat
  /-- What is written to the standard output. -/
  output : String
  /-- What is written to the standard error. -/
  errors : String
  deriving DecidableEq, Repr

/-- A failure, with its causes from the outermost to the innermost. -/
def failed (causes : List String) : Outcome :=
  { code := 1, output := "", errors := ": ".intercalate causes ++ "\n" }

/-- What loading a language comes to. -/
def loaded (options : Options) : Except LoadError Language → Outcome
  | .error error => failed (error.message :: error.fault.chain)
  | .ok language => { code := 0, output := report options language, errors := "" }

/-- What loading the grammar in a file comes to, given what reading the file came to. -/
def loadedFile (options : Options) (path : String) : Except FileFault String → Outcome
  | .error fault => failed ["cannot read " ++ path, fault.message]
  | .ok text => loaded options (Language.ofDocument (displayName path) text)

/-- The command, given how to read a file. -/
def run {m : Type → Type} [Monad m] (read : String → m (Except FileFault String))
    (arguments : List String) : m Outcome :=
  match Options.ofArguments? arguments with
  | none => return failed ["invalid arguments", "Could not parse CLI arguments"]
  | some options =>
    match options.grammar with
    | none => return loaded options Bundled.language
    | some path => return loadedFile options path (← read path)

end GrammarAtlas.CommandLine
