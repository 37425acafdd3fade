import GrammarAtlas.Grammar.Reader
import GrammarAtlas.NodeType

/-!
# Reading node types

A document with node types holds a list of records. What a record leaves out, or gives as null, is
absent from the node type; only the kind is necessary.
-/

namespace GrammarAtlas

/-! ## Kinds -/

/-- The fields of a kind of node that have been read. -/
structure NodeKind.Draft where
  /-- The name. -/
  name : Option String := none
  /-- Whether the nodes are named. -/
  named : Option Bool := none

/-- The kind that has been read, which must be complete. -/
def NodeKind.Draft.build (draft : Draft) : Except String NodeKind :=
  match draft.name, draft.named with
  | none, _ => .error "type"
  | some _, none => .error "named"
  | some name, some named => .ok { name, named }

/-- How a kind of node stands in a document. -/
def NodeKind.layout : Json.Layout NodeKind.Draft NodeKind where
  title := "struct NodeTypeRef"
  fields := [
    .of "type" (·.name) (fun name draft => { draft with name := some name }) Json.text,
    .of "named" (·.named) (fun named draft => { draft with named := some named }) Json.flag]
  draft := {}
  build := NodeKind.Draft.build

/-- Reads a list of kinds where so many levels are left. -/
def NodeKind.readList (depth : Nat) : Json.Reader (List NodeKind) :=
  Json.list depth (NodeKind.layout.read (depth - 1))

/-! ## Fields and children -/

namespace Occupancy

/-- What has been read of what may occupy a field. -/
structure Draft where
  /-- Whether there may be more than one node. -/
  multiple : Option Bool := none
  /-- Whether there is always a node. -/
  required : Option Bool := none
  /-- The kinds of node. -/
  kinds : Option (List NodeKind) := none

/-- What may occupy a field as it has been read, which must be complete. -/
def Draft.build (draft : Draft) : Except String Occupancy :=
  match draft.multiple, draft.required, draft.kinds with
  | none, _, _ => .error "multiple"
  | some _, none, _ => .error "required"
  | some _, some _, none => .error "types"
  | some multiple, some required, some kinds => .ok { multiple, required, kinds }

/-- How it stands in a document, `depth` levels being left for its fields. -/
def layout (depth : Nat) : Json.Layout Draft Occupancy where
  title := "struct FieldInfo"
  fields := [
    .of "multiple" (·.multiple) (fun multiple draft => { draft with multiple := some multiple })
      Json.flag,
    .of "required" (·.required) (fun required draft => { draft with required := some required })
      Json.flag,
    .of "types" (·.kinds) (fun kinds draft => { draft with kinds := some kinds })
      (NodeKind.readList depth)]
  draft := {}
  build := Draft.build

/-- Reads what may occupy a field where so many levels are left. -/
def read (depth : Nat) : Json.Reader Occupancy := (layout (depth - 1)).read depth

end Occupancy

/-! ## Node types -/

namespace NodeType

/-- The fields of a node type that have been read. -/
structure Draft where
  /-- The name of the kind. -/
  name : Option String := none
  /-- Whether the nodes are named. -/
  named : Option Bool := none
  /-- Whether the nodes are roots, if it is said. -/
  root : Option (Option Bool) := none
  /-- Whether the nodes are extras, if it is said. -/
  extra : Option (Option Bool) := none
  /-- The fields in the order of the document, if there are any. -/
  fields : Option (Option (List (String × Occupancy))) := none
  /-- The children, if there are any. -/
  children : Option (Option Occupancy) := none
  /-- The subtypes, if there are any. -/
  subtypes : Option (Option (List NodeKind)) := none

/-- The node type that has been read, which must have a kind. -/
def Draft.build (draft : Draft) : Except String NodeType :=
  match draft.name, draft.named with
  | none, _ => .error "type"
  | some _, none => .error "named"
  | some name, some named =>
    .ok {
      kind := { name, named }
      root := draft.root.join
      extra := draft.extra.join
      fields := draft.fields.join.map fun fields => .ofList fields
      children := draft.children.join
      subtypes := draft.subtypes.join }

/-- How a node type stands in a document, `depth` levels being left for its fields. -/
def layout (depth : Nat) : Json.Layout Draft NodeType where
  title := "struct NodeTypeInfo"
  fields := [
    .of "type" (·.name) (fun name draft => { draft with name := some name }) Json.text,
    .of "named" (·.named) (fun named draft => { draft with named := some named }) Json.flag,
    .of "root" (·.root) (fun root draft => { draft with root := some root })
      (Json.orNull Json.flag),
    .of "extra" (·.extra) (fun extra draft => { draft with extra := some extra })
      (Json.orNull Json.flag),
    .of "fields" (·.fields) (fun fields draft => { draft with fields := some fields })
      (Json.orNull (Json.table depth (Occupancy.read (depth - 1)))),
    .of "children" (·.children) (fun children draft => { draft with children := some children })
      (Json.orNull (Occupancy.read depth)),
    .of "subtypes" (·.subtypes) (fun subtypes draft => { draft with subtypes := some subtypes })
      (Json.orNull (NodeKind.readList depth))]
  draft := {}
  build := Draft.build

/-- Reads a node type where so many levels are left. -/
def read (depth : Nat) : Json.Reader NodeType := (layout (depth - 1)).read depth

/-- Reads a list of node types where so many levels are left. -/
def readList (depth : Nat) : Json.Reader (List NodeType) := Json.list depth (read (depth - 1))

/-- The node types that a document holds. -/
def ofDocument (text : String) : Except GrammarError (List NodeType) :=
  match Json.readDocument readList text with
  | .error failure => .error (.document (failure.report text.toList))
  | .ok entries => .ok entries

end NodeType

end GrammarAtlas
