import GrammarAtlas.Grammar.Defect
import GrammarAtlas.Proofs.Derivation.Referent
import GrammarAtlas.Proofs.NodeType.Exactness

/-!
# What a consistent grammar has

In a grammar without defects no node of a rule body is flawed. Derivations stay within the bodies,
so all choices that they come to have members. Whether they recur can be told from the references
in the bodies: they do not, if all references that are replaced go down in some rank.
-/

namespace GrammarAtlas

namespace Rule

/-- A tree is listed first in its own listing. -/
theorem mem_walk_self (rule : Rule) : rule ∈ rule.walk := by
  rw [walk_eq]
  exact List.mem_cons_self

/-- What is listed for a rule is listed for the rules above it. -/
theorem mem_walk_of_mem_children {root rule part : Rule} (inside : rule ∈ root.walk)
    (below : part ∈ rule.children) : part ∈ root.walk := by
  rw [walk_eq, List.mem_cons, List.mem_flatMap] at inside ⊢
  rcases inside with rfl | ⟨child, among, deeper⟩
  · exact .inr ⟨part, below, part.mem_walk_self⟩
  · have := sizeOf_lt_of_mem_children among
    exact .inr ⟨child, among, mem_walk_of_mem_children deeper below⟩
termination_by sizeOf root

end Rule

namespace Grammar

variable {grammar : Grammar} {rule : Rule}

/-- A node of some rule body. -/
def Holds (grammar : Grammar) (rule : Rule) : Prop :=
  ∃ (name : String) (body : Rule), grammar.rules[name]? = some body ∧ rule ∈ body.walk

/-- The nodes of the bodies of a grammar without defects are not flawed. -/
theorem Holds.flaw?_eq_none (inside : grammar.Holds rule) (consistent : grammar.defect? = none) :
    rule.flaw? = none := by
  obtain ⟨name, body, listed, among⟩ := inside
  have flawless : grammar.flawDefect? = none := by
    simp only [defect?, Option.orElse_eq_orElse, Option.orElse_eq_or, Option.or_eq_none_iff]
      at consistent
    exact consistent.2.2.1
  have tree : (name, body) ∈ grammar.allTrees :=
    List.mem_append_left _ (List.mem_append_left _ (mem_orderedRules.mpr listed))
  have whole := List.findSome?_eq_none_iff.mp flawless (name, body) tree
  have node := List.findSome?_eq_none_iff.mp whole rule among
  exact Option.map_eq_none_iff.mp node

end Grammar

/-- Derivations stay within the rule bodies. -/
theorem Descends.holds {grammar : Grammar} {field inner : Option String} {rule last : Rule}
    {trail : Trail} (way : Descends grammar.referent field rule trail inner last)
    (inside : grammar.Holds rule) : grammar.Holds last := by
  induction way with
  | here => exact inside
  | enter entered _ ih =>
    obtain ⟨name, body, listed, among⟩ := inside
    have below := Rule.mem_children_of_mem_parts _ entered
    exact ih ⟨name, body, listed, Rule.mem_walk_of_mem_children among below⟩
  | replaced shape _ ih =>
    have stands := Rule.referent_of_shape _ shape
    exact ih ⟨_, _, Grammar.rule_of_referent stands, Rule.mem_walk_self _⟩

/-- All choices that a derivation comes to in a grammar without defects have members. -/
theorem Grammar.Holds.filled {grammar : Grammar} {rule : Rule} (inside : grammar.Holds rule)
    (field : Option String) (consistent : grammar.defect? = none) :
    Filled grammar.referent field rule := by
  intro trail inner part members way shape
  obtain ⟨kind, rfl⟩ := Rule.choice_of_shape _ shape
  have sound := (way.holds inside).flaw?_eq_none consistent
  rw [Rule.flaw?] at sound
  simp only [kind] at sound
  intro empty
  simp [empty] at sound

/-! ## Ranks -/

section

variable {grammar : Grammar} {rank : String → Nat}

/-- Where references that are replaced go down in rank, so does every way down. -/
theorem Descends.rank_lt
    (falls : ∀ entry ∈ grammar.rules.toList, ∀ name ∈ entry.2.references,
      (grammar.referent name).isBody → rank name < rank entry.1)
    {field inner : Option String} {rule last : Rule} {trail : Trail}
    (way : Descends grammar.referent field rule trail inner last) {top name : String}
    {body body' : Rule} (listed : grammar.rules[top]? = some body) (among : rule ∈ body.walk)
    (shape : last.shape grammar.referent = .replaced name body') : rank name < rank top := by
  have lower {top name : String} {rule body body' : Rule}
      (listed : grammar.rules[top]? = some body) (among : rule ∈ body.walk)
      (shape : rule.shape grammar.referent = .replaced name body') : rank name < rank top := by
    obtain ⟨named, stands⟩ := Rule.symbolName_of_shape _ shape
    exact falls (top, body) (Std.ExtTreeMap.mem_toList_iff_getElem?_eq_some.mpr listed) name
      (List.mem_filterMap.mpr ⟨rule, among, named⟩) (by rw [stands]; rfl)
  induction way generalizing top body with
  | here => exact lower listed among shape
  | enter entered _ ih =>
    have below := Rule.mem_children_of_mem_parts _ entered
    exact ih listed (Rule.mem_walk_of_mem_children among below) shape
  | replaced shape' _ ih =>
    have stands := Rule.referent_of_shape _ shape'
    exact Nat.lt_trans (ih (Grammar.rule_of_referent stands) (Rule.mem_walk_self _) shape)
      (lower listed among shape')

/-- A grammar does not recur where references that are replaced go down in rank. -/
theorem Grammar.nonRecursive_of_rank
    (falls : ∀ entry ∈ grammar.rules.toList, ∀ name ∈ entry.2.references,
      (grammar.referent name).isBody → rank name < rank entry.1)
    (rule : Rule) : rule.NonRecursive grammar.referent := by
  rintro name body _ stands ⟨_, _, _, part, _, way, shape⟩
  exact Nat.lt_irrefl _
    (way.rank_lt falls (Grammar.rule_of_referent stands) (Rule.mem_walk_self _) shape)

end

end GrammarAtlas
