import GrammarAtlas.Grammar
import GrammarAtlas.NodeKind

/-!
# Node types

The node types of a language list the kinds of node that a tree may contain. A kind that comes from
a rule also says which fields and children its nodes can have, and a supertype which kinds it stands
for.
-/

namespace GrammarAtlas

/-- What may occupy a field, or the children that are in no field. -/
structure Occupancy where
  /-- Whether there may be more than one node. -/
  multiple : Bool
  /-- Whether there is always at least one node. -/
  required : Bool
  /-- The kinds of node that there may be. -/
  kinds : List NodeKind
  deriving DecidableEq, Repr

/-- What is known of the nodes of a kind. -/
structure NodeType where
  /-- The kind. -/
  kind : NodeKind
  /-- Whether the nodes are roots of trees, if it is said. -/
  root : Option Bool := none
  /-- Whether the nodes may stand anywhere as extras, if it is said. -/
  extra : Option Bool := none
  /-- The fields by name, if the nodes have a structure. -/
  fields : Option (ByName Occupancy) := none
  /-- The named children that are in no field, if there may be any. -/
  children : Option Occupancy := none
  /-- The kinds that a supertype stands for. -/
  subtypes : Option (List NodeKind) := none
  deriving DecidableEq

end GrammarAtlas
