import GrammarAtlas.Rule.Walk

/-!
# Tokens in a rule tree

A rule whose body is a single lexical construct is a token of its own. In the bodies of all other
rules, every literal is a token. The literals inside a token or a pattern are not: they are parts
of a larger token, which has no kind of node.
-/

namespace GrammarAtlas.Rule

/-- Whether the rule is a token of its own: below all precedence wrappers there is a literal, a
pattern or a token. -/
def isLexical (rule : Rule) : Bool :=
  match rule.bare.kind with
  | .text | .pattern | .token | .immediateToken => true
  | _ => false

mutual

/-- Puts the literals of a tree, in pre-order, in front of the reversed listing `done`. -/
def literalsOnto (done : List String) : Rule → List String
  | ⟨kind, value, _, content, members, _, _, _⟩ =>
    match kind with
    | .text =>
      match value with
      | some (.text words) => words :: done
      | _ => done
    | .pattern | .token | .immediateToken => done
    | _ => memberLiteralsOnto (contentLiteralsOnto done content) members

/-- `literalsOnto` for the wrapped rule, where there is one. -/
def contentLiteralsOnto (done : List String) : Option Rule → List String
  | none => done
  | some rule => literalsOnto done rule

/-- `literalsOnto` for each member in turn. -/
def memberLiteralsOnto (done : List String) : List Rule → List String
  | [] => done
  | rule :: rest => memberLiteralsOnto (literalsOnto done rule) rest

end

/-- The literals of a tree that are tokens, in pre-order. -/
def literals (rule : Rule) : List String := (literalsOnto [] rule).reverse

mutual

/-- Listing the literals of a tree leaves what has been listed before in place. -/
theorem literalsOnto_eq (done : List String) :
    (rule : Rule) → literalsOnto done rule = (literals rule).reverse ++ done
  | ⟨kind, value, name, content, members, named, flags, contextName⟩ => by
    have inner (done : List String) :
        memberLiteralsOnto (contentLiteralsOnto done content) members =
          memberLiteralsOnto (contentLiteralsOnto [] content) members ++ done := by
      rw [memberLiteralsOnto_eq _ members, contentLiteralsOnto_eq _ content,
        memberLiteralsOnto_eq _ members, contentLiteralsOnto_eq _ content]
      simp
    simp only [literals, literalsOnto, List.reverse_reverse]
    cases kind <;> try exact inner done
    case text => cases value with
      | none => rfl
      | some value => cases value <;> rfl
    all_goals rfl

/-- The literals of the wrapped rule are listed as those of a tree of its own. -/
theorem contentLiteralsOnto_eq (done : List String) :
    (content : Option Rule) →
      contentLiteralsOnto done content = (content.toList.flatMap literals).reverse ++ done
  | none => by simp [contentLiteralsOnto]
  | some rule => by simp [contentLiteralsOnto, literalsOnto_eq done rule]

/-- The literals of the members are listed as those of trees of their own. -/
theorem memberLiteralsOnto_eq (done : List String) :
    (members : List Rule) →
      memberLiteralsOnto done members = (members.flatMap literals).reverse ++ done
  | [] => by simp [memberLiteralsOnto]
  | rule :: rest => by
    rw [memberLiteralsOnto, memberLiteralsOnto_eq _ rest, literalsOnto_eq done rule]
    simp

end

/-- The literals of a tree are its own, or none inside a token, or those of the trees below. -/
theorem literals_eq (rule : Rule) :
    rule.literals =
      match rule.kind with
      | .text => rule.literal.toList
      | .pattern | .token | .immediateToken => []
      | _ => rule.children.flatMap literals := by
  obtain ⟨kind, value, name, content, members, named, flags, contextName⟩ := rule
  have inner : (memberLiteralsOnto (contentLiteralsOnto [] content) members).reverse =
      (content.toList ++ members).flatMap literals := by
    rw [memberLiteralsOnto_eq _ members, contentLiteralsOnto_eq _ content]
    simp
  simp only [literals, literalsOnto, children]
  cases kind <;> try exact inner
  case text => cases value with
    | none => rfl
    | some value => cases value <;> rfl
  all_goals rfl

end GrammarAtlas.Rule
