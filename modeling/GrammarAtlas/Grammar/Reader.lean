import GrammarAtlas.FileFault
import GrammarAtlas.Grammar
import GrammarAtlas.Rule.Reader

/-!
# Reading a grammar

A grammar stands in a document as a record of twelve fields, of which the name and the rules are
necessary. Of two rules of one name the later one counts.
-/

namespace GrammarAtlas

/-- Why a grammar could not be had: its document is no grammar, or its file could not be read. -/
inductive GrammarError where
  /-- The document is not a grammar; the wording says why and where. -/
  | document (report : String)
  /-- The file could not be read. -/
  | file (path : String) (fault : FileFault)
  deriving DecidableEq, Repr

/-- The wording of the error. -/
def GrammarError.message : GrammarError → String
  | document report => "JSON parse error: " ++ report
  | file path fault => "cannot read " ++ path ++ ": " ++ fault.message

namespace Grammar

/-- The fields of a grammar that have been read. -/
structure Draft where
  /-- The address of the schema, if there is one. -/
  schema : Option (Option String) := none
  /-- The name. -/
  name : Option String := none
  /-- The extended grammar, if there is one. -/
  inherits : Option (Option String) := none
  /-- The rules in the order of the document. -/
  rules : Option (List (String × Rule)) := none
  /-- The extras, if they are declared. -/
  extras : Option (Option (List Rule)) := none
  /-- The externals, if they are declared. -/
  externals : Option (Option (List Rule)) := none
  /-- The inlined rules, if they are declared. -/
  inlined : Option (Option (List String)) := none
  /-- The precedences, if they are declared. -/
  precedences : Option (Option (List (List Rule))) := none
  /-- The conflicts, if they are declared. -/
  conflicts : Option (Option (List (List String))) := none
  /-- The reserved words in the order of the document, if they are declared. -/
  reserved : Option (Option (List (String × List Rule))) := none
  /-- The keyword token, if it is declared. -/
  word : Option (Option String) := none
  /-- The supertypes, if they are declared. -/
  supertypes : Option (Option (List String)) := none

/-- The grammar that has been read, which must have a name and rules. -/
def Draft.build (draft : Draft) : Except String Grammar :=
  match draft.name, draft.rules with
  | none, _ => .error "name"
  | some _, none => .error "rules"
  | some name, some rules =>
    .ok {
      schema := draft.schema.join
      name
      inherits := draft.inherits.join
      rules := .ofList rules
      extras := draft.extras.join
      externals := draft.externals.join
      inlined := draft.inlined.join
      precedences := draft.precedences.join
      conflicts := draft.conflicts.join
      reserved := draft.reserved.join.map fun sets => .ofList sets
      word := draft.word.join
      supertypes := draft.supertypes.join }

/-- Reads a list of names. -/
def readNames (depth : Nat) : Json.Reader (List String) := Json.list depth Json.text

/-- Reads a list of rules. -/
def readRules (depth : Nat) : Json.Reader (List Rule) := Json.list depth (Rule.read (depth - 1))

/-- How a grammar stands in a document, `depth` levels being left for its fields. -/
def layout (depth : Nat) : Json.Layout Draft Grammar where
  title := "struct Grammar"
  fields := [
    .of "$schema" (·.schema) (fun schema draft => { draft with schema := some schema })
      (Json.orNull Json.text),
    .of "name" (·.name) (fun name draft => { draft with name := some name }) Json.text,
    .of "inherits" (·.inherits) (fun inherits draft => { draft with inherits := some inherits })
      (Json.orNull Json.text),
    .of "rules" (·.rules) (fun rules draft => { draft with rules := some rules })
      (Json.table depth (Rule.read (depth - 1))),
    .of "extras" (·.extras) (fun extras draft => { draft with extras := some extras })
      (Json.orNull (readRules depth)),
    .of "externals" (·.externals)
      (fun externals draft => { draft with externals := some externals })
      (Json.orNull (readRules depth)),
    .of "inline" (·.inlined) (fun inlined draft => { draft with inlined := some inlined })
      (Json.orNull (readNames depth)),
    .of "precedences" (·.precedences)
      (fun precedences draft => { draft with precedences := some precedences })
      (Json.orNull (Json.list depth (readRules (depth - 1)))),
    .of "conflicts" (·.conflicts)
      (fun conflicts draft => { draft with conflicts := some conflicts })
      (Json.orNull (Json.list depth (readNames (depth - 1)))),
    .of "reserved" (·.reserved) (fun reserved draft => { draft with reserved := some reserved })
      (Json.orNull (Json.table depth (readRules (depth - 1)))),
    .of "word" (·.word) (fun word draft => { draft with word := some word })
      (Json.orNull Json.text),
    .of "supertypes" (·.supertypes)
      (fun supertypes draft => { draft with supertypes := some supertypes })
      (Json.orNull (readNames depth))]
  draft := {}
  build := Draft.build

/-- Reads a grammar where so many levels are left. -/
def read (depth : Nat) : Json.Reader Grammar := (layout (depth - 1)).read depth

/-- The grammar that a document holds. -/
def ofDocument (text : String) : Except GrammarError Grammar :=
  match Json.readDocument read text with
  | .error failure => .error (.document (failure.report text.toList))
  | .ok grammar => .ok grammar

/-- The grammar in the file at a path, given what reading the file came to. -/
def ofFile (path : String) (content : Except FileFault String) : Except GrammarError Grammar :=
  match content with
  | .error fault => .error (.file path fault)
  | .ok text => ofDocument text

end Grammar

end GrammarAtlas
