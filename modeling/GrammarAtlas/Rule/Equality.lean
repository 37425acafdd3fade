import GrammarAtlas.Rule

/-!
# Equality of rule trees

Two trees are equal when they agree in every property of every node. `Rule.beq` decides it, and
the instances at the end make it the equality test of the type.
-/

namespace GrammarAtlas.Rule

mutual

/-- Whether two trees agree in every property of every node. -/
def beq : Rule → Rule → Bool
  | ⟨kind, value, name, content, members, named, flags, contextName⟩,
    ⟨kind', value', name', content', members', named', flags', contextName'⟩ =>
    kind == kind' && value == value' && name == name' && named == named' && flags == flags' &&
      contextName == contextName' && beqContent content content' && beqMembers members members'

/-- `beq` for wrapped rules. -/
def beqContent : Option Rule → Option Rule → Bool
  | none, none => true
  | some rule, some rule' => beq rule rule'
  | _, _ => false

/-- `beq` for members. -/
def beqMembers : List Rule → List Rule → Bool
  | [], [] => true
  | rule :: rest, rule' :: rest' => beq rule rule' && beqMembers rest rest'
  | _, _ => false

end

instance : BEq Rule := ⟨beq⟩

mutual

/-- Trees that agree everywhere are equal. -/
theorem eq_of_beq : (rule rule' : Rule) → beq rule rule' = true → rule = rule'
  | ⟨kind, value, name, content, members, named, flags, contextName⟩,
    ⟨kind', value', name', content', members', named', flags', contextName'⟩, agree => by
    simp only [beq, Bool.and_eq_true, beq_iff_eq] at agree
    obtain ⟨⟨⟨⟨⟨⟨⟨rfl, rfl⟩, rfl⟩, rfl⟩, rfl⟩, rfl⟩, contents⟩, lists⟩ := agree
    rw [eq_of_beqContent content content' contents, eq_of_beqMembers members members' lists]

/-- Wrapped rules that agree everywhere are equal. -/
theorem eq_of_beqContent :
    (content content' : Option Rule) → beqContent content content' = true → content = content'
  | none, none, _ => rfl
  | some rule, some rule', agree => by rw [eq_of_beq rule rule' agree]
  | none, some _, agree => by simp [beqContent] at agree
  | some _, none, agree => by simp [beqContent] at agree

/-- Members that agree everywhere are equal. -/
theorem eq_of_beqMembers :
    (members members' : List Rule) → beqMembers members members' = true → members = members'
  | [], [], _ => rfl
  | rule :: rest, rule' :: rest', agree => by
    simp only [beqMembers, Bool.and_eq_true] at agree
    rw [eq_of_beq rule rule' agree.1, eq_of_beqMembers rest rest' agree.2]
  | [], _ :: _, agree => by simp [beqMembers] at agree
  | _ :: _, [], agree => by simp [beqMembers] at agree

end

mutual

/-- Every tree agrees with itself. -/
theorem beq_self : (rule : Rule) → beq rule rule = true
  | ⟨_, _, _, content, members, _, _, _⟩ => by
    simp [beq, beqContent_self content, beqMembers_self members]

/-- Every wrapped rule agrees with itself. -/
theorem beqContent_self : (content : Option Rule) → beqContent content content = true
  | none => rfl
  | some rule => beq_self rule

/-- All members agree with themselves. -/
theorem beqMembers_self : (members : List Rule) → beqMembers members members = true
  | [] => rfl
  | rule :: rest => by simp [beqMembers, beq_self rule, beqMembers_self rest]

end

instance : LawfulBEq Rule where
  eq_of_beq {rule rule'} agree := eq_of_beq rule rule' agree
  rfl {rule} := beq_self rule

instance : DecidableEq Rule := fun rule rule' =>
  if agree : rule == rule' then .isTrue (LawfulBEq.eq_of_beq agree)
  else .isFalse fun equal => agree (equal ▸ beq_self rule)

end GrammarAtlas.Rule
