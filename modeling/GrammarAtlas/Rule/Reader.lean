import GrammarAtlas.Json.Shape
import GrammarAtlas.Rule

/-!
# Reading a rule tree

A rule stands in a document as a record of eight fields, of which only the kind is necessary.
`Rule.read` follows the nesting of the document: the content of a rule lies one level below it and
the members two.
-/

namespace GrammarAtlas

/-- The least precedence level that a document can state. -/
def minLevel : Int := -2147483648

/-- The greatest precedence level that a document can state. -/
def maxLevel : Int := 2147483647

/-- Reads the value of a rule: a text or a precedence level. -/
def RuleValue.read (depth : Nat) (leave : List Char → List Char) : Json.Reader RuleValue :=
  fun rest =>
    match Json.loose depth rest with
    | .error failure => .error failure
    | .ok (.text words, behind) => .ok (.text words, behind)
    | .ok (.whole number, behind) =>
      if minLevel ≤ number ∧ number ≤ maxLevel then .ok (.level number, behind)
      else .error (Json.stop (.noAlternative "RuleValue") (leave behind))
    | .ok (.other, behind) => .error (Json.stop (.noAlternative "RuleValue") (leave behind))

namespace Rule

/-- The fields of a rule that have been read. -/
structure Draft where
  /-- What the rule stands for. -/
  kind : Option RuleKind := none
  /-- The value, if there is one. -/
  value : Option (Option RuleValue) := none
  /-- The name, if there is one. -/
  name : Option (Option String) := none
  /-- The content, if there is any. -/
  content : Option (Option Rule) := none
  /-- The members. -/
  members : Option (List Rule) := none
  /-- Whether an alias is named, if it says so. -/
  named : Option (Option Bool) := none
  /-- The flags, if there are any. -/
  flags : Option (Option String) := none
  /-- The name of the context, if there is one. -/
  contextName : Option (Option String) := none

/-- The rule that has been read, which must have a kind. -/
def Draft.build (draft : Draft) : Except String Rule :=
  match draft.kind with
  | none => .error "type"
  | some kind =>
    .ok {
      kind
      value := draft.value.join
      name := draft.name.join
      content := draft.content.join
      members := draft.members.getD []
      named := draft.named.join
      flags := draft.flags.join
      contextName := draft.contextName.join }

/-- How a rule stands in a document, `depth` levels being left for its fields. -/
def layout (depth : Nat) (content member : Json.Reader Rule) : Json.Layout Draft Rule where
  title := "struct Rule"
  fields := [
    .of "type" (·.kind) (fun kind draft => { draft with kind := some kind })
      (Json.tag depth (RuleKind.all.map RuleKind.tag) RuleKind.ofTag?),
    { name := "value"
      isSet := fun draft => draft.value.isSome
      read := fun leave draft rest =>
        (Json.orNull (RuleValue.read depth leave) rest).map fun read =>
          ({ draft with value := some read.1 }, read.2) },
    .of "name" (·.name) (fun name draft => { draft with name := some name })
      (Json.orNull Json.text),
    .of "content" (·.content) (fun content draft => { draft with content := some content })
      (Json.orNull content),
    .of "members" (·.members) (fun members draft => { draft with members := some members })
      (Json.list depth member),
    .of "named" (·.named) (fun named draft => { draft with named := some named })
      (Json.orNull Json.flag),
    .of "flags" (·.flags) (fun flags draft => { draft with flags := some flags })
      (Json.orNull Json.text),
    .of "context_name" (·.contextName)
      (fun contextName draft => { draft with contextName := some contextName })
      (Json.orNull Json.text)]
  draft := {}
  build := Draft.build

/-- The reader where no level is left. -/
def readTooDeep : Json.Reader Rule := (layout 0 (fun rest => .error (Json.stop .tooDeep rest))
  fun rest => .error (Json.stop .tooDeep rest)).read 0

/-- Reads a rule where so many levels are left. -/
def read : (depth : Nat) → Json.Reader Rule
  | 0 => readTooDeep
  | 1 => (layout 0 readTooDeep readTooDeep).read 1
  | depth + 2 => (layout (depth + 1) (read (depth + 1)) (read depth)).read (depth + 2)

/-- Reads a document that holds one rule. -/
def ofDocument (text : String) : Except Json.Failure Rule := Json.readDocument read text

end Rule

end GrammarAtlas
