import GrammarAtlas.Proofs.Grammar.Arrangement
import GrammarAtlas.Proofs.Grammar.Verdict
import GrammarAtlas.Proofs.Symbol.Layout
import GrammarAtlas.Proofs.Text.Bytes

/-!
# The entry rule

A grammar does not say which of its rules is the entry rule: it is the one that has the conventional
name, or else the only root, or else the only root that no declaration names. `Grammar.Enters` says
this of a rule, and `Grammar.entry_determined` that it is how the entry rule is found, in whatever
order the rules come. The rules are then put in an order in which it goes first.
-/

namespace GrammarAtlas.Grammar

variable {grammar : Grammar} {name : String}

/-! ## Roots -/

/-- Something else refers to the rule. -/
inductive Mentioned (grammar : Grammar) (name : String) : Prop
  /-- A node in the body of another rule. -/
  | rule {other : String} {body node : Rule} : grammar.rules[other]? = some body →
    node.Within body → node.symbolName = some name → name ≠ other → Mentioned grammar name
  /-- A node of an extra. -/
  | extra {tree node : Rule} : tree ∈ grammar.extraRules → node.Within tree →
    node.symbolName = some name → Mentioned grammar name

/-- A root is a rule that nothing else refers to. -/
structure IsRoot (grammar : Grammar) (name : String) : Prop where
  /-- It is a rule. -/
  ruled : name ∈ grammar.rules
  /-- Nothing else refers to it. -/
  unmentioned : ¬ grammar.Mentioned name

/-- A declaration names the rule. -/
inductive Declares (grammar : Grammar) (name : String) : Prop
  /-- It is the keyword token. -/
  | word : grammar.word = some name → Declares grammar name
  /-- It is a supertype. -/
  | supertype : name ∈ grammar.supertypeNames → Declares grammar name
  /-- It is put in place of the references to it. -/
  | inlined : name ∈ grammar.inlinedNames → Declares grammar name
  /-- It is in a conflict. -/
  | conflict {group : List String} : group ∈ grammar.conflicts.getD [] → name ∈ group →
    Declares grammar name
  /-- It is ranked. -/
  | rank {group : List Rule} {entry : Rule} : group ∈ grammar.precedences.getD [] →
    entry ∈ group → entry.symbolName = some name → Declares grammar name

/-- The names in a tree are those of the references in it. -/
theorem mem_references {rule : Rule} :
    name ∈ rule.references ↔ ∃ node : Rule, node.Within rule ∧ node.symbolName = some name := by
  simp only [Rule.references, List.mem_filterMap, Rule.mem_walk_iff]

/-- The names that are gathered are those of the rules that something else refers to. -/
theorem mem_mentions : name ∈ grammar.mentions ↔ grammar.Mentioned name := by
  simp only [mentions, List.mem_append, List.mem_flatMap, List.mem_filter, Prod.exists,
    Std.ExtTreeMap.mem_toList_iff_getElem?_eq_some, mem_references, bne_iff_ne]
  constructor
  · rintro (⟨other, body, rule, ⟨node, within, refers⟩, different⟩ | ⟨tree, extra, node, within,
      refers⟩)
    · exact .rule rule within refers different
    · exact .extra extra within refers
  · rintro (⟨rule, within, refers, different⟩ | ⟨extra, within, refers⟩)
    · exact .inl ⟨_, _, rule, ⟨_, within, refers⟩, different⟩
    · exact .inr ⟨_, extra, _, within, refers⟩

/-- The roots that are found are the roots. -/
theorem mem_roots : name ∈ grammar.roots ↔ grammar.IsRoot name := by
  rw [roots, List.mem_filter, Std.ExtTreeMap.mem_keys, Std.ExtTreeSet.contains_ofList,
    Bool.not_eq_true', List.contains_eq_mem, decide_eq_false_iff_not, mem_mentions]
  constructor
  · rintro ⟨ruled, unmentioned⟩
    exact ⟨ruled, unmentioned⟩
  · exact fun root => ⟨root.ruled, root.unmentioned⟩

/-- No root is found twice. -/
theorem nodup_roots (grammar : Grammar) : grammar.roots.Nodup :=
  Std.ExtTreeMap.nodup_keys.filter _

/-- The names that are gathered are those that declarations name. -/
theorem mem_declaredNames : name ∈ grammar.declaredNames ↔ grammar.Declares name := by
  simp only [declaredNames, conflictNames, rankedNames, List.mem_append, Option.mem_toList,
    List.mem_flatten, List.mem_filterMap]
  constructor
  · rintro ((((word | supertype) | inlined) | ⟨group, among, conflict⟩) |
      ⟨entry, ⟨group, among, listed⟩, ranked⟩)
    · exact .word word
    · exact .supertype supertype
    · exact .inlined inlined
    · exact .conflict among conflict
    · exact .rank among listed ranked
  · rintro (word | supertype | inlined | ⟨among, conflict⟩ | ⟨among, listed, ranked⟩)
    · exact .inl (.inl (.inl (.inl word)))
    · exact .inl (.inl (.inl (.inr supertype)))
    · exact .inl (.inl (.inr inlined))
    · exact .inl (.inr ⟨_, among, conflict⟩)
    · exact .inr ⟨_, ⟨_, among, listed⟩, ranked⟩

/-! ## The entry rule -/

/-- The rules determine that it is the entry rule. -/
inductive Enters (grammar : Grammar) (name : String) : Prop
  /-- It has the conventional name. -/
  | conventional : name ∈ grammar.rules → name = defaultStartRule → Enters grammar name
  /-- No rule has that name, and it is the only root. -/
  | root : defaultStartRule ∉ grammar.rules → grammar.IsRoot name →
    (∀ other, grammar.IsRoot other → other = name) → Enters grammar name
  /-- No rule has that name, there are several roots, and it is the only one that no declaration
  names. -/
  | undeclared {root other : String} : defaultStartRule ∉ grammar.rules → grammar.IsRoot root →
    grammar.IsRoot other → root ≠ other → grammar.IsRoot name → ¬ grammar.Declares name →
    (∀ other, grammar.IsRoot other → ¬ grammar.Declares other → other = name) →
    Enters grammar name

/-- The only element of a list without repetitions is there, and nothing else is. -/
theorem only?_eq_some_iff {α : Type} {elements : List α} {element : α}
    (distinct : elements.Nodup) :
    only? elements = some element ↔
      element ∈ elements ∧ ∀ other ∈ elements, other = element := by
  match elements, distinct with
  | [], _ => simp [only?]
  | [found], _ => simp [only?, eq_comm]
  | first :: second :: rest, distinct =>
    refine ⟨nofun, fun ⟨_, same⟩ => ?_⟩
    have equal : first = second :=
      (same first (by simp)).trans (same second (by simp)).symm
    simp [equal] at distinct

/-- Without a rule of the conventional name, the only root is the entry rule, or else the only root
that no declaration names. -/
theorem startRule_eq (unconventional : defaultStartRule ∉ grammar.rules) :
    grammar.startRule = (only? grammar.roots).or
      (only? (grammar.roots.filter fun name => !grammar.declaredNames.contains name)) := by
  rw [startRule, if_neg fun known => unconventional (Std.ExtTreeMap.mem_iff_contains.mpr known)]
  simp only [Std.ExtTreeSet.contains_ofList]
  split
  · rename_i root only
    rw [only]
    rfl
  · rename_i several
    have none : only? grammar.roots = none := by
      rw [only?]
      exact several
    rw [none, Option.none_or]

/-- There are several roots if there is one, but not only that one. -/
theorem only?_roots_eq_none_iff (root : grammar.IsRoot name) :
    only? grammar.roots = none ↔
      ∃ root other, grammar.IsRoot root ∧ grammar.IsRoot other ∧ root ≠ other := by
  constructor
  · intro none
    by_contra same
    have only : only? grammar.roots = some name := by
      refine (only?_eq_some_iff grammar.nodup_roots).mpr
        ⟨mem_roots.mpr root, fun other listed => ?_⟩
      by_contra different
      exact same ⟨other, name, mem_roots.mp listed, root, different⟩
    cases none.symm.trans only
  · rintro ⟨root, other, here, there, different⟩
    refine Option.eq_none_iff_forall_ne_some.mpr fun found only => different ?_
    obtain ⟨_, same⟩ := (only?_eq_some_iff grammar.nodup_roots).mp only
    exact (same root (mem_roots.mpr here)).trans (same other (mem_roots.mpr there)).symm

/-- The entry rule that is found is the one that the rules determine. -/
theorem startRule_eq_some_iff : grammar.startRule = some name ↔ grammar.Enters name := by
  by_cases conventional : defaultStartRule ∈ grammar.rules
  · rw [startRule, if_pos (Std.ExtTreeMap.mem_iff_contains.mp conventional), Option.some.injEq]
    constructor
    · rintro rfl
      exact .conventional conventional rfl
    · rintro (⟨_, same⟩ | ⟨absent⟩ | ⟨absent⟩)
      · exact same.symm
      · exact absurd conventional absent
      · exact absurd conventional absent
  · have candidates := grammar.nodup_roots.filter fun name => !grammar.declaredNames.contains name
    rw [startRule_eq conventional, Option.or_eq_some_iff, only?_eq_some_iff grammar.nodup_roots,
      only?_eq_some_iff candidates]
    simp only [List.mem_filter, Bool.not_eq_true', List.contains_eq_mem, decide_eq_false_iff_not,
      mem_roots, mem_declaredNames, and_imp]
    constructor
    · rintro (⟨root, only⟩ | ⟨none, ⟨root, undeclared⟩, only⟩)
      · exact .root conventional root only
      · obtain ⟨_, _, here, there, different⟩ := (only?_roots_eq_none_iff root).mp none
        exact .undeclared conventional here there different root undeclared only
    · rintro (⟨ruled, rfl⟩ | ⟨_, root, only⟩ | ⟨_, here, there, different, root, undeclared, only⟩)
      · exact absurd ruled conventional
      · exact .inl ⟨root, only⟩
      · have none := (only?_roots_eq_none_iff root).mpr ⟨_, _, here, there, different⟩
        exact .inr ⟨none, ⟨root, undeclared⟩, only⟩

/-- The entry rule is the one that the rules determine, and there is none if they determine none.
The rules are put in an order in which each of them comes once, the entry rule first and the others
by the bytes of their names. It does not matter in which order they come. -/
theorem entry_determined (grammar : Grammar) :
    (∀ name, grammar.startRule = some name ↔ grammar.Enters name) ∧
      (∀ name, name ∈ grammar.ruleOrder ↔ name ∈ grammar.rules) ∧
      grammar.ruleOrder.Nodup ∧
      (∃ others, grammar.ruleOrder = grammar.startRule.toList ++ others ∧
        others.Pairwise fun name other => Text.bytes name < Text.bytes other) ∧
      ∀ arranged : Arrangement grammar,
        arranged.startRule = grammar.startRule ∧ arranged.ruleOrder = grammar.ruleOrder := by
  refine ⟨fun _ => startRule_eq_some_iff, fun _ => mem_ruleOrder, grammar.nodup_orderedRules,
    ⟨_, grammar.ruleOrder_eq, ?_⟩, fun arranged => ⟨arranged.startRule_eq, arranged.ruleOrder_eq⟩⟩
  have ordered := (Std.ExtTreeMap.ordered_keys (t := grammar.rules)).filter
    (some · ≠ grammar.startRule)
  exact ordered.imp fun less => Text.lt_iff_bytes_lt.mp (compareOfLessAndEq_eq_lt.mp less)

end GrammarAtlas.Grammar
