import GrammarAtlas.Rule

/-!
# Walking a rule tree

`Rule.walk` lists a tree in pre-order, the content of a node before its members. It runs over an
accumulator, so that a rule with many members does not pile up pending work; `Rule.walk_eq` is the
plain recursion that it computes.
-/

namespace GrammarAtlas.Rule

mutual

/-- Puts the nodes of a tree, in pre-order, in front of the reversed listing `done`. -/
def walkOnto (done : List Rule) : Rule → List Rule
  | ⟨kind, value, name, content, members, named, flags, contextName⟩ =>
    membersOnto
      (contentOnto (⟨kind, value, name, content, members, named, flags, contextName⟩ :: done)
        content)
      members

/-- `walkOnto` for the wrapped rule, where there is one. -/
def contentOnto (done : List Rule) : Option Rule → List Rule
  | none => done
  | some rule => walkOnto done rule

/-- `walkOnto` for each member in turn. -/
def membersOnto (done : List Rule) : List Rule → List Rule
  | [] => done
  | rule :: rest => membersOnto (walkOnto done rule) rest

end

/-- The node itself and every node below it, in pre-order. -/
def walk (rule : Rule) : List Rule := (walkOnto [] rule).reverse

mutual

/-- Listing a tree leaves what has been listed before it in place. -/
theorem walkOnto_eq (done : List Rule) :
    (rule : Rule) → walkOnto done rule = (walk rule).reverse ++ done
  | ⟨kind, value, name, content, members, named, flags, contextName⟩ => by
    simp only [walk, walkOnto, List.reverse_reverse]
    rw [membersOnto_eq _ members, contentOnto_eq _ content, membersOnto_eq _ members,
      contentOnto_eq _ content]
    simp

/-- The wrapped rule is listed as a tree of its own. -/
theorem contentOnto_eq (done : List Rule) :
    (content : Option Rule) →
      contentOnto done content = (content.toList.flatMap walk).reverse ++ done
  | none => by simp [contentOnto]
  | some rule => by simp [contentOnto, walkOnto_eq done rule]

/-- The members are listed as trees of their own, one after another. -/
theorem membersOnto_eq (done : List Rule) :
    (members : List Rule) → membersOnto done members = (members.flatMap walk).reverse ++ done
  | [] => by simp [membersOnto]
  | rule :: rest => by
    rw [membersOnto, membersOnto_eq _ rest, walkOnto_eq done rule]
    simp

end

/-- The listing of a tree is its root, followed by the listings of the trees below it. -/
theorem walk_eq (rule : Rule) : rule.walk = rule :: rule.children.flatMap walk := by
  obtain ⟨kind, value, name, content, members, named, flags, contextName⟩ := rule
  simp [walk, walkOnto, membersOnto_eq, contentOnto_eq, children]

/-- The names that the references in a tree mention, in pre-order. -/
def references (rule : Rule) : List String := rule.walk.filterMap symbolName

/-- The node below all precedence wrappers. -/
def bare : Rule → Rule
  | ⟨kind, value, name, content, members, named, flags, contextName⟩ =>
    if kind.isPrecedence then
      bareContent ⟨kind, value, name, content, members, named, flags, contextName⟩ content
    else ⟨kind, value, name, content, members, named, flags, contextName⟩
where
  /-- The wrapped rule without its wrappers, or the wrapper itself if it wraps nothing. -/
  bareContent (wrapper : Rule) : Option Rule → Rule
    | none => wrapper
    | some rule => bare rule

end GrammarAtlas.Rule
