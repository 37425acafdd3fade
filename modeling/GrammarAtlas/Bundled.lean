import GrammarAtlas.Language

/-!
# The bundled grammar

One grammar comes with the library: its document, its node types and what an editor needs to know
of it.
-/

namespace GrammarAtlas.Bundled

/-- The name of the grammar. -/
def name : String := "akyno"

/-- The name under which the language is shown. -/
def displayName : String := "Akyno"

/-- The scope of its sources in editors. -/
def scope : String := "source.akyno"

/-- The endings of its source files. -/
def fileTypes : List String := ["akyno"]

/-- The document with the grammar, line by line. -/
def grammarLines : List String :=
  ["\x7b",
    "  \"$schema\": \"https://tree-sitter.github.io/tree-sitter/assets/schemas/" ++
      "grammar.schema.json\",",
    "  \"name\": \"akyno\",",
    "  \"rules\": \x7b",
    "    \"source_file\": \x7b",
    "      \"type\": \"STRING\",",
    "      \"value\": \"hello\"",
    "    \x7d",
    "  \x7d,",
    "  \"extras\": [",
    "    \x7b",
    "      \"type\": \"PATTERN\",",
    "      \"value\": \"\\\\s\"",
    "    \x7d",
    "  ],",
    "  \"conflicts\": [],",
    "  \"precedences\": [],",
    "  \"externals\": [],",
    "  \"inline\": [],",
    "  \"supertypes\": [],",
    "  \"reserved\": \x7b\x7d",
    "\x7d"]

/-- The document with the node types, line by line. -/
def nodeTypeLines : List String :=
  ["[",
    "  \x7b",
    "    \"type\": \"source_file\",",
    "    \"named\": true,",
    "    \"root\": true,",
    "    \"fields\": \x7b\x7d",
    "  \x7d,",
    "  \x7b",
    "    \"type\": \"hello\",",
    "    \"named\": false",
    "  \x7d",
    "]"]

/-- Lines as a text. -/
def textOf (lines : List String) : String := String.join (lines.map fun line => line ++ "\n")

/-- The document with the grammar. -/
def grammarDocument : String := textOf grammarLines

/-- The document with the node types. -/
def nodeTypesDocument : String := textOf nodeTypeLines

/-- The language, not loaded yet. -/
def source : LanguageSource := { name, displayName, document := grammarDocument }

/-- The language. -/
def language : Except LoadError Language := Language.ofSource source

end GrammarAtlas.Bundled
