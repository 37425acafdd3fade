import GrammarAtlas.Pattern.Fault
import GrammarAtlas.Pattern.Node

/-!
# Nesting of patterns

Groups, classes, repetitions, alternations and sequences may be nested to `maxNesting` levels.
`Node.tooDeep?` finds the first part, in pre-order, that lies deeper; it descends no further than
that, however deep the tree goes.
-/

namespace GrammarAtlas.Pattern

mutual

/-- The first part of a class item that has no room within so many levels. -/
def ClassItem.tooDeep? : (levels : Nat) → ClassItem → Option Span
  | 0, brackets span _ _ => some span
  | 0, union span _ => some span
  | 0, operation span _ _ => some span
  | levels + 1, brackets _ _ item => item.tooDeep? levels
  | levels + 1, union _ items => itemsTooDeep? levels items
  | levels + 1, operation _ left right =>
    match left.tooDeep? levels with
    | some span => some span
    | none => right.tooDeep? levels
  | _, _ => none

/-- The first part of several class items that has no room within so many levels. -/
def ClassItem.itemsTooDeep? (levels : Nat) : List ClassItem → Option Span
  | [] => none
  | item :: items =>
    match item.tooDeep? levels with
    | some span => some span
    | none => itemsTooDeep? levels items

end

mutual

/-- The first part of a pattern that has no room within so many levels. -/
def Node.tooDeep? : (levels : Nat) → Node → Option Span
  | 0, brackets span _ _ => some span
  | 0, repetition span _ => some span
  | 0, group span _ _ => some span
  | 0, alternation span _ => some span
  | 0, concat span _ => some span
  | levels + 1, brackets _ _ item => item.tooDeep? levels
  | levels + 1, repetition _ node => node.tooDeep? levels
  | levels + 1, group _ _ node => node.tooDeep? levels
  | levels + 1, alternation _ nodes => nodesTooDeep? levels nodes
  | levels + 1, concat _ nodes => nodesTooDeep? levels nodes
  | _, _ => none

/-- The first part of several that has no room within so many levels. -/
def Node.nodesTooDeep? (levels : Nat) : List Node → Option Span
  | [] => none
  | node :: nodes =>
    match node.tooDeep? levels with
    | some span => some span
    | none => nodesTooDeep? levels nodes

end

end GrammarAtlas.Pattern
