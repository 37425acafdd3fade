import GrammarAtlas.Json.Writer
import GrammarAtlas.NodeType

/-!
# Writing node types

Node types are written as a list of objects with their properties in a fixed order. What is absent
from a node type is left out.
-/

namespace GrammarAtlas

open Json

/-- Writes a kind of node. -/
def NodeKind.writer (kind : NodeKind) : Writer :=
  .object [("type", .text kind.name), ("named", .flag kind.named)]

/-- Writes several kinds of node. -/
def NodeKind.listWriter (kinds : List NodeKind) : Writer := .list (kinds.map NodeKind.writer)

/-- Writes what may occupy a field. -/
def Occupancy.writer (occupancy : Occupancy) : Writer :=
  .object [
    ("multiple", .flag occupancy.multiple),
    ("required", .flag occupancy.required),
    ("types", NodeKind.listWriter occupancy.kinds)]

/-- Writes the fields of a node type. -/
def Occupancy.tableWriter (fields : ByName Occupancy) : Writer :=
  .object (fields.toList.map fun (name, occupancy) => (name, occupancy.writer))

namespace NodeType

/-- Writes a node type. -/
def writer (entry : NodeType) : Writer :=
  .object (
    [("type", .text entry.kind.name), ("named", .flag entry.kind.named)] ++
      Writer.ifPresent "root" .flag entry.root ++
      Writer.ifPresent "extra" .flag entry.extra ++
      Writer.ifPresent "fields" Occupancy.tableWriter entry.fields ++
      Writer.ifPresent "children" Occupancy.writer entry.children ++
      Writer.ifPresent "subtypes" NodeKind.listWriter entry.subtypes)

/-- The document that holds node types. -/
def document (entries : List NodeType) : String :=
  String.ofList (Writer.list (entries.map writer) 0)

end NodeType

end GrammarAtlas
