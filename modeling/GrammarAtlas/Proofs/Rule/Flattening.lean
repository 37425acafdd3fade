import GrammarAtlas.Proofs.NodeType.Slot
import GrammarAtlas.Proofs.Rule.Alike
import Mathlib.Logic.Relation

/-!
# Groups in groups

A choice that is a member of a choice says no more than its own members in its place, and so it is
with sequences. A tree without empty groups is therefore like the tree where such groups are
dissolved (`Rule.Flattens.alike`): parts of a body can be put together in any grouping
(`Summary.combine_assoc`).

What a supertype stands for is another matter. Only the members of the choice itself are looked at,
so the members of a choice in it are missed until it is dissolved
(`Rule.Flattens.sublist_alternatives`).
-/

namespace GrammarAtlas

/-! ## Grouping of summaries -/

namespace Quantity

/-- Three parts one after another make as many nodes in either grouping. -/
theorem followedBy_assoc (first second third : Quantity) :
    (first.followedBy second).followedBy third = first.followedBy (second.followedBy third) := by
  simp only [followedBy, several, mk.injEq]
  omega

/-- Three alternatives make as many nodes in either grouping. -/
theorem either_assoc (first second third : Quantity) :
    (first.either second).either third = first.either (second.either third) := by
  simp only [either, mk.injEq]
  omega

end Quantity

variable {join : Quantity → Quantity → Quantity}

/-- Three slots are put together in either grouping. -/
theorem Slot.combine_assoc
    (assoc : ∀ first second third, join (join first second) third = join first (join second third))
    (first second third : Slot) :
    (first.combine join second).combine join third =
      first.combine join (second.combine join third) := by
  have kinds : first.kinds ∪ second.kinds ∪ third.kinds =
      first.kinds ∪ (second.kinds ∪ third.kinds) := by
    refine Std.ExtTreeSet.ext_mem fun kind => ?_
    simp only [Std.ExtTreeSet.mem_union_iff, or_assoc]
  simp only [combine, assoc, kinds]

namespace Summary

/-- A summary is known by the fields that it mentions and by its places. -/
theorem ext_slot {summary summary' : Summary}
    (names : ∀ name, name ∈ summary.fields ↔ name ∈ summary'.fields)
    (slots : ∀ place, summary.slot place = summary'.slot place) : summary = summary' := by
  obtain ⟨fields, children⟩ := summary
  obtain ⟨fields', children'⟩ := summary'
  have same : fields = fields' := by
    refine Std.ExtTreeMap.ext_getElem? fun name => ?_
    have here := slots (some name)
    simp only [slot, Std.ExtTreeMap.getD_eq_getD_getElem?] at here
    by_cases known : name ∈ fields
    · rw [Std.ExtTreeMap.getElem?_eq_some_getElem known,
        Std.ExtTreeMap.getElem?_eq_some_getElem ((names name).mp known)] at here ⊢
      exact congrArg some here
    · rw [Std.ExtTreeMap.getElem?_eq_none known,
        Std.ExtTreeMap.getElem?_eq_none (mt (names name).mpr known)]
  rw [same, show children = children' from slots none]

/-- Two parts together mention the fields of both. -/
theorem mem_fields_combine (left right : Summary) (name : String) :
    name ∈ (left.combine join right).fields ↔ name ∈ left.fields ∨ name ∈ right.fields := by
  simp [combine, or_comm]

/-- Three parts are put together in either grouping. -/
theorem combine_assoc (idle : join {} {} = {})
    (assoc : ∀ first second third, join (join first second) third = join first (join second third))
    (first second third : Summary) :
    (first.combine join second).combine join third =
      first.combine join (second.combine join third) := by
  refine ext_slot (fun name => ?_) fun place => ?_
  · simp only [mem_fields_combine, or_assoc]
  · simp only [slot_combine idle, Slot.combine_assoc assoc]

end Summary

namespace Rule

variable {expand : Expansion} {field : Option String}

/-- Further rules are put together with what comes before them one by one. -/
theorem summarizeRest_append (before : Summary) (rules rules' : List Rule) :
    summarizeRest expand field join before (rules ++ rules') =
      summarizeRest expand field join (summarizeRest expand field join before rules) rules' := by
  induction rules generalizing before with
  | nil => rfl
  | cons rule rest ih => rw [List.cons_append, summarizeRest, summarizeRest, ih]

/-- Rules that are put together first can as well be put together with what comes before. -/
theorem combine_summarizeRest (idle : join {} {} = {})
    (assoc : ∀ first second third, join (join first second) third = join first (join second third))
    (before first : Summary) (rules : List Rule) :
    before.combine join (summarizeRest expand field join first rules) =
      summarizeRest expand field join (before.combine join first) rules := by
  induction rules generalizing first with
  | nil => rfl
  | cons rule rest ih =>
    rw [summarizeRest, summarizeRest, ih, Summary.combine_assoc idle assoc]

/-- A group of rules among others contributes what its members contribute in its place. -/
theorem summarizeMembers_group (idle : join {} {} = {})
    (assoc : ∀ first second third, join (join first second) third = join first (join second third))
    {group : Rule} {inner : List Rule} (filled : inner ≠ [])
    (grouped : summarizeWith expand field group = summarizeMembers expand field join inner)
    (before after : List Rule) :
    summarizeMembers expand field join (before ++ group :: after) =
      summarizeMembers expand field join (before ++ inner ++ after) := by
  obtain ⟨first, rest, rfl⟩ := List.exists_cons_of_ne_nil filled
  rw [summarizeMembers] at grouped
  cases before with
  | nil =>
    simp only [List.nil_append, List.cons_append, summarizeMembers, grouped, summarizeRest_append]
  | cons rule before =>
    simp only [List.cons_append, List.append_assoc, summarizeMembers, summarizeRest_append,
      summarizeRest, grouped, combine_summarizeRest idle assoc]

/-! ## Flattening -/

/-- A choice in a choice, or a sequence in a sequence, gives way to its own members. -/
inductive Dissolves : (renamed : Bool) → Rule → Rule → Prop
  /-- The group has no property besides its members. -/
  | group {renamed : Bool} {rule : Rule} {before inner after : List Rule}
    (grouping : rule.kind.isGroup)
    (held : rule.members = before ++ { kind := rule.kind, members := inner } :: after) :
    Dissolves renamed rule { rule with members := before ++ inner ++ after }

/-- Any number of groups in groups are dissolved anywhere in a tree. -/
def Flattens : Rule → Rule → Prop := Relation.ReflTransGen (Edits Dissolves false)

variable {renamed : Bool} {rule rule' : Rule}

/-- Choices and sequences are the only groups. -/
theorem eq_of_isGroup {kind : RuleKind} (grouping : kind.isGroup) :
    kind = .choice ∨ kind = .seq := by
  cases kind <;> simp [RuleKind.isGroup] at grouping ⊢

/-- A group with members says nothing by itself. -/
theorem plain_of_isGroup (grouping : rule.kind.isGroup) (filled : rule.members ≠ []) :
    rule.isPlain := by
  rw [isPlain, grouping, Bool.or_true, Bool.true_and, flaw?]
  rcases eq_of_isGroup grouping with kind | kind
  · simp [kind, filled]
  · simp [kind, filled]

/-- The literals of a group are those of the trees in it. -/
theorem literals_of_isGroup (grouping : rule.kind.isGroup) :
    rule.literals = rule.children.flatMap literals := by
  rw [literals_eq]
  rcases eq_of_isGroup grouping with kind | kind
  · rw [kind]
  · rw [kind]

/-- A group is no precedence level. -/
theorem bare_of_isGroup (grouping : rule.kind.isGroup) : rule.bare = rule := by
  rw [bare_eq]
  rcases eq_of_isGroup grouping with kind | kind
  · simp [kind, RuleKind.isPrecedence]
  · simp [kind, RuleKind.isPrecedence]

/-- A rule with a group in it is like the one where the group is dissolved, if the group is not
empty. -/
theorem Dissolves.alike (dissolves : Dissolves renamed rule rule')
    (sound : ∀ node ∈ rule.walk, node.flaw? = none) : Alike rule rule' := by
  cases dissolves
  rename_i before inner after grouping held
  have below : { kind := rule.kind, members := inner } ∈ rule.children := by simp [children, held]
  have filled : inner ≠ [] := by
    rintro rfl
    have empty := sound _ (mem_walk_of_mem_children rule.mem_walk_self below)
    rcases eq_of_isGroup grouping with kind | kind
    · simp [flaw?, kind] at empty
    · simp [flaw?, kind] at empty
  have left : children rule =
      (rule.content.toList ++ before) ++ { kind := rule.kind, members := inner } :: after := by
    rw [children, held, List.append_assoc]
  have right : children { rule with members := before ++ inner ++ after } =
      (rule.content.toList ++ before) ++ (inner ++ after) := by
    simp [children]
  have within : children { kind := rule.kind, members := inner } = inner := by simp [children]
  have part : (Rule.kind { kind := rule.kind, members := inner }).isGroup := grouping
  have flat : (Rule.kind { rule with members := before ++ inner ++ after }).isGroup := grouping
  constructor
  case gists =>
    have plain := plain_of_isGroup grouping (by simp [held])
    have plainPart := plain_of_isGroup part filled
    have plainFlat := plain_of_isGroup flat (by simp [filled])
    rw [gists_eq rule, gists_eq { rule with members := before ++ inner ++ after }, if_pos plain,
      if_pos plainFlat, left, right]
    simp [gists_eq { kind := rule.kind, members := inner }, plainPart, within]
  case literals =>
    rw [literals_of_isGroup grouping, literals_of_isGroup flat, left, right]
    simp [literals_of_isGroup part, within]
  case lexical => rw [isLexical, isLexical, bare_of_isGroup grouping, bare_of_isGroup flat]
  case summary =>
    intro expand field
    obtain ⟨kind, value, name, content, members, named, flags, contextName⟩ := rule
    dsimp only at held grouping
    subst held
    rcases eq_of_isGroup grouping with rfl | rfl
    · exact summarizeMembers_group rfl Quantity.either_assoc filled rfl before after
    · exact summarizeMembers_group rfl Quantity.followedBy_assoc filled rfl before after

/-- The nodes of a tree in a tree are nodes of the whole. -/
theorem Within.trans {node part root : Rule} (inner : node.Within part)
    (outer : part.Within root) : node.Within root := by
  induction outer with
  | root => exact inner
  | content held _ ih => exact .content held ih
  | member among _ ih => exact .member among ih

/-- A tree is like the flattened one, if nothing in it is flawed. -/
theorem Flattens.alike (flattens : Flattens rule rule')
    (sound : ∀ node ∈ rule.walk, node.flaw? = none) : Alike rule rule' := by
  induction flattens with
  | refl => exact .refl rule
  | tail _ edits ih =>
    have step := edits.alike fun among dissolves => by
      refine ⟨dissolves.alike fun node within => ih.sound sound node ?_, fun _ => ?_⟩
      · exact mem_walk_iff.mpr ((mem_walk_iff.mp within).trans (mem_walk_iff.mp among))
      · cases dissolves
        rfl
    exact ih.trans step.1

/-- A rule with a group in it keeps its properties when the group is dissolved. -/
theorem Dissolves.face_bare (dissolves : Dissolves renamed rule rule') :
    rule.bare.face = rule'.bare.face := by
  cases dissolves
  rename_i before inner after grouping held
  have flat : (Rule.kind { rule with members := before ++ inner ++ after }).isGroup := grouping
  rw [bare_of_isGroup grouping, bare_of_isGroup flat]
  rfl

/-- What is read off the alternatives is read off them when a group is dissolved, too, if groups are
passed over. -/
theorem Dissolves.sublist_alternatives {α : Type} {read : Rule → Option α}
    (dissolves : Dissolves renamed rule rule')
    (silent : ∀ node, node.kind.isGroup → read node = none) :
    (rule.alternatives.filterMap read).Sublist (rule'.alternatives.filterMap read) := by
  cases dissolves
  rename_i before inner after grouping held
  have part : (Rule.kind { kind := rule.kind, members := inner }).isGroup := grouping
  have flat : (Rule.kind { rule with members := before ++ inner ++ after }).isGroup := grouping
  rw [alternatives, alternatives, bare_of_isGroup grouping, bare_of_isGroup flat]
  by_cases choice : rule.kind = .choice
  · simp only [if_pos choice, held, List.map_append, List.map_cons, List.filterMap_append,
      List.filterMap_cons, bare_of_isGroup part, silent _ part]
    exact (List.sublist_append_left _ _).append_right _
  · simp only [if_neg choice, List.filterMap_cons, silent _ grouping, silent _ flat]
    exact List.Sublist.refl _

/-- What is read off the alternatives of a tree is read off those of the flattened tree, too. -/
theorem Flattens.sublist_alternatives {α : Type} {read : Rule → Option α}
    (flattens : Flattens rule rule') (faithful : ∀ node, read node.face = read node)
    (silent : ∀ node, node.kind.isGroup → read node = none) :
    (rule.alternatives.filterMap read).Sublist (rule'.alternatives.filterMap read) := by
  induction flattens with
  | refl => exact List.Sublist.refl _
  | tail _ edits ih =>
    exact ih.trans (edits.alternatives List.Sublist.refl faithful (fun step => step.face_bare)
      fun step => step.sublist_alternatives silent)

end Rule

end GrammarAtlas
