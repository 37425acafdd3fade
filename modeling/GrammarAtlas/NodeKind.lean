import Std.Data.ExtTreeMap
import Std.Data.ExtTreeSet

/-!
# Kinds of nodes

A node of a syntax tree is told apart by its name and by whether it is named: the keyword `if` and
a rule called `if` are two kinds. Kinds are ordered by name, an anonymous kind before the named one
of the same name.
-/

namespace GrammarAtlas

/-- What the nodes of a tree are told apart by. -/
structure NodeKind where
  /-- The name of a rule, the text of a literal, or the name that an alias gives. -/
  name : String
  /-- Whether the nodes are named. -/
  named : Bool
  deriving DecidableEq, Repr

namespace NodeKind

/-- By name, and anonymous before named. -/
def compare : NodeKind → NodeKind → Ordering :=
  compareLex (compareOn NodeKind.name) (compareOn fun kind => kind.named.toNat)

instance : Ord NodeKind := ⟨compare⟩

instance : Std.TransCmp compare :=
  inferInstanceAs (Std.TransCmp
    (compareLex (compareOn NodeKind.name) (compareOn fun kind => kind.named.toNat)))

instance : Std.LawfulEqCmp compare where
  eq_of_compare {left right} same := by
    obtain ⟨name, named⟩ := left
    obtain ⟨name', named'⟩ := right
    simp only [compare, compareLex, compareOn, Ordering.then_eq_eq,
      Std.LawfulEqOrd.compare_eq_iff_eq] at same
    obtain ⟨rfl, flags⟩ := same
    cases named <;> cases named' <;> simp_all

instance : Std.TransOrd NodeKind := inferInstanceAs (Std.TransCmp compare)

instance : Std.LawfulEqOrd NodeKind := inferInstanceAs (Std.LawfulEqCmp compare)

end NodeKind

/-- A set of kinds. -/
abbrev KindSet := Std.ExtTreeSet NodeKind

/-- A table by kind. -/
abbrev ByKind (α : Type) := Std.ExtTreeMap NodeKind α

end GrammarAtlas
