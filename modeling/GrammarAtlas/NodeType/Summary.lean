import GrammarAtlas.NodeType

/-!
# Summaries of children

A summary says how many nodes of which kinds a rule body can put into each field, and outside all
fields. It is computed along the body: a sequence adds what its members put there, a choice allows
what any of its members allows, and a repetition may come to nothing or to several.

What a reference contributes is left open here: `Rule.summarizeWith` is given it as a function of
the field around the reference and the name referred to.
-/

namespace GrammarAtlas

/-- How many nodes there are, at least and at most. Two stands for several. -/
structure Quantity where
  /-- The least number. -/
  least : Nat := 0
  /-- The greatest number. -/
  most : Nat := 0
  deriving DecidableEq, Repr

namespace Quantity

/-- The number that stands for several. -/
def several : Nat := 2

/-- Exactly one node. -/
def one : Quantity := ⟨1, 1⟩

/-- The nodes of one part and then those of another. -/
def followedBy (left right : Quantity) : Quantity :=
  ⟨min several (left.least + right.least), min several (left.most + right.most)⟩

/-- The nodes of one of two parts. -/
def either (left right : Quantity) : Quantity :=
  ⟨min left.least right.least, max left.most right.most⟩

/-- The nodes of a part that is repeated. -/
def repeated (atLeastOnce : Bool) (quantity : Quantity) : Quantity :=
  ⟨if atLeastOnce then quantity.least else 0, if quantity.most = 0 then 0 else several⟩

end Quantity

/-- The nodes in one place: a field, or the children outside all fields. -/
structure Slot where
  /-- How many there are. -/
  quantity : Quantity := {}
  /-- Their kinds. -/
  kinds : KindSet := ∅
  deriving DecidableEq

namespace Slot

/-- One node of a kind. -/
def single (kind : NodeKind) : Slot := { quantity := .one, kinds := Std.ExtTreeSet.ofList [kind] }

/-- The nodes of two parts together. -/
def combine (join : Quantity → Quantity → Quantity) (left right : Slot) : Slot :=
  { quantity := join left.quantity right.quantity, kinds := left.kinds ∪ right.kinds }

/-- The nodes of a part that is repeated. -/
def repeated (atLeastOnce : Bool) (slot : Slot) : Slot :=
  { slot with quantity := slot.quantity.repeated atLeastOnce }

/-- What is listed for the slot: nothing, if there can be no node in it. -/
def occupancy? (slot : Slot) : Option Occupancy :=
  if slot.kinds.isEmpty then none
  else
    some {
      multiple := Quantity.several ≤ slot.quantity.most
      required := 1 ≤ slot.quantity.least
      kinds := slot.kinds.toList }

end Slot

/-- The nodes that a rule body can contribute, by field. Anonymous nodes outside all fields are left
out. -/
structure Summary where
  /-- The nodes in fields. -/
  fields : ByName Slot := ∅
  /-- The named nodes outside all fields. -/
  children : Slot := {}
  deriving DecidableEq

namespace Summary

/-- One node, in a field or outside. -/
def occurrence (field : Option String) (kind : NodeKind) : Summary :=
  match field with
  | some name => { fields := Std.ExtTreeMap.ofList [(name, Slot.single kind)] }
  | none => if kind.named then { children := .single kind } else {}

/-- The nodes of two parts together. A field that one of them lacks is empty there. -/
def combine (join : Quantity → Quantity → Quantity) (left right : Summary) : Summary :=
  let slots := (right.fields.map fun _ _ => ({} : Slot)) ∪ left.fields
  { fields := slots.map fun name slot => slot.combine join (right.fields.getD name {})
    children := left.children.combine join right.children }

/-- The nodes of a part that is repeated. -/
def repeated (atLeastOnce : Bool) (summary : Summary) : Summary :=
  { fields := summary.fields.map fun _ slot => slot.repeated atLeastOnce
    children := summary.children.repeated atLeastOnce }

end Summary

namespace Rule

/-- What a reference contributes: a function of the field around it and the name referred to. -/
abbrev Expansion := (field : Option String) → (name : String) → Summary

mutual

/-- The nodes that a rule contributes inside a field, or outside all fields. -/
def summarizeWith (expand : Expansion) (field : Option String) : Rule → Summary
  | ⟨kind, value, name, content, members, named, _, _⟩ =>
    match kind with
    | .blank | .pattern | .token | .immediateToken => {}
    | .text =>
      match value with
      | some (.text words) => .occurrence field ⟨words, false⟩
      | _ => {}
    | .symbol =>
      match name with
      | some name => expand field name
      | none => {}
    | .seq => summarizeMembers expand field Quantity.followedBy members
    | .choice => summarizeMembers expand field Quantity.either members
    | .zeroOrMore => (summarizeContent expand field content).repeated false
    | .oneOrMore => (summarizeContent expand field content).repeated true
    | .field => summarizeContent expand (name.or field) content
    | .aliased =>
      match value with
      | some (.text words) => .occurrence field ⟨words, named.getD false⟩
      | _ => {}
    | .prec | .precLeft | .precRight | .precDynamic | .reserved =>
      summarizeContent expand field content

/-- The nodes that a wrapped rule contributes. -/
def summarizeContent (expand : Expansion) (field : Option String) : Option Rule → Summary
  | none => {}
  | some rule => summarizeWith expand field rule

/-- The nodes that several rules contribute together. -/
def summarizeMembers (expand : Expansion) (field : Option String)
    (join : Quantity → Quantity → Quantity) : List Rule → Summary
  | [] => {}
  | rule :: rest => summarizeRest expand field join (summarizeWith expand field rule) rest

/-- The nodes that further rules contribute together with those before them. -/
def summarizeRest (expand : Expansion) (field : Option String)
    (join : Quantity → Quantity → Quantity) (before : Summary) : List Rule → Summary
  | [] => before
  | rule :: rest =>
    summarizeRest expand field join (before.combine join (summarizeWith expand field rule)) rest

end

end Rule

end GrammarAtlas
