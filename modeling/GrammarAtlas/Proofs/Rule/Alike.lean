import GrammarAtlas.NodeType.Summary
import GrammarAtlas.Proofs.NodeType.Children

/-!
# Rules that read alike

A rule tree is read in a few ways only: its nodes are gone through for what each of them says by
itself, its literals are listed, it is a token or not, and it has a summary. Two trees that agree in
all of these are `Alike`, whatever else tells them apart. A precedence level, a choice and a
sequence say nothing by themselves, so trees that differ in such nodes can be alike.

Trees that are alike stay so below the same node (`Rule.Alike.congr`). So an edit that is made
anywhere in a tree keeps it alike if the edit does so by itself (`Rule.Edits.alike`).
-/

namespace GrammarAtlas.Rule

/-! ## What a node says by itself -/

/-- The properties of a node, without what is below it. -/
def face (rule : Rule) : Rule := { rule with content := none, members := [] }

/-- What a node says by itself: its properties, whether there is anything below it, and the
properties of the rule that an alias renames. -/
def gist (rule : Rule) : Rule :=
  { rule with
    content := rule.content.map fun part => if rule.kind = .aliased then part.face else blank
    members := if rule.members.isEmpty then [] else [blank] }

/-- Whether the node is a sound precedence level, choice or sequence. -/
def isPlain (rule : Rule) : Bool :=
  (rule.kind.isPrecedence || rule.kind.isGroup) && rule.flaw?.isNone

/-- What the nodes of a tree say by themselves, in pre-order, apart from the plain ones. -/
def gists (rule : Rule) : List Rule :=
  rule.walk.filterMap fun node => if node.isPlain then none else some node.gist

/-- A node is flawed by what it says by itself. -/
theorem flaw?_gist (rule : Rule) : rule.gist.flaw? = rule.flaw? := by
  obtain ⟨kind, value, name, content, members, named, flags, contextName⟩ := rule
  cases kind <;> simp [flaw?, gist, contentFlaw?, aliasName, literal, patternSource, textIf]

/-- What a tree says is what its root says, and then what the trees below it say. -/
theorem gists_eq (rule : Rule) :
    rule.gists = (if rule.isPlain then [] else [rule.gist]) ++ rule.children.flatMap gists := by
  rw [gists, walk_eq, List.filterMap_cons, List.filterMap_flatMap]
  by_cases plain : rule.isPlain
  · simp only [plain, if_true, List.nil_append]
    rfl
  · simp only [plain, Bool.false_eq_true, if_false, List.singleton_append]
    rfl

/-- Whatever depends only on what nodes say by themselves, and is not found in plain nodes, is read
off what the tree says. -/
theorem filterMap_walk {α : Type} {read : Rule → Option α}
    (faithful : ∀ node, read node.gist = read node)
    (silent : ∀ node, node.isPlain → read node = none) (rule : Rule) :
    rule.walk.filterMap read = rule.gists.filterMap read := by
  rw [gists, List.filterMap_filterMap]
  refine List.filterMap_congr fun node _ => ?_
  by_cases plain : node.isPlain
  · simp [plain, silent node plain]
  · simp [plain, faithful node]

/-! ## Trees that are alike -/

/-- Two trees agree in all that is read of a rule. -/
structure Alike (rule rule' : Rule) : Prop where
  /-- Their nodes say the same. -/
  gists : rule.gists = rule'.gists
  /-- They have the same literals. -/
  literals : rule.literals = rule'.literals
  /-- Both are tokens or none is. -/
  lexical : rule.isLexical = rule'.isLexical
  /-- They contribute the same nodes. -/
  summary : ∀ expand field, rule.summarizeWith expand field = rule'.summarizeWith expand field

namespace Alike

variable {rule rule' rule'' : Rule}

/-- A tree is like itself. -/
protected theorem refl (rule : Rule) : Alike rule rule := ⟨rfl, rfl, rfl, fun _ _ => rfl⟩

/-- Trees that are like one tree are alike. -/
protected theorem trans (first : Alike rule rule') (second : Alike rule' rule'') :
    Alike rule rule'' where
  gists := first.gists.trans second.gists
  literals := first.literals.trans second.literals
  lexical := first.lexical.trans second.lexical
  summary expand field := (first.summary expand field).trans (second.summary expand field)

/-- What is read off the nodes is the same in trees that are alike. -/
theorem filterMap_walk {α : Type} {read : Rule → Option α} (alike : Alike rule rule')
    (faithful : ∀ node, read node.gist = read node)
    (silent : ∀ node, node.isPlain → read node = none) :
    rule.walk.filterMap read = rule'.walk.filterMap read := by
  rw [Rule.filterMap_walk faithful silent, Rule.filterMap_walk faithful silent, alike.gists]

/-- Trees that are alike are sound together. -/
theorem sound (alike : Alike rule rule') (sound : ∀ node ∈ rule.walk, node.flaw? = none) :
    ∀ node ∈ rule'.walk, node.flaw? = none := by
  have flaws : rule.walk.filterMap flaw? = rule'.walk.filterMap flaw? :=
    alike.filterMap_walk flaw?_gist fun node plain => by
      rw [isPlain, Bool.and_eq_true] at plain
      exact Option.isNone_iff_eq_none.mp plain.2
  rw [List.filterMap_eq_nil_iff.mpr sound] at flaws
  exact List.filterMap_eq_nil_iff.mp flaws.symm

/-- A listing that is the same for trees that are alike is so for lists of them. -/
theorem flatMap_eq {α : Type} {view : Rule → List α} {rules rules' : List Rule}
    (same : ∀ {rule rule'}, Alike rule rule' → view rule = view rule')
    (alike : List.Forall₂ Alike rules rules') : rules.flatMap view = rules'.flatMap view := by
  induction alike with
  | nil => rfl
  | cons first _ ih => rw [List.flatMap_cons, List.flatMap_cons, same first, ih]

/-- Rules that are alike contribute the same nodes one after another. -/
theorem summarizeRest_eq {rules rules' : List Rule} (alike : List.Forall₂ Alike rules rules')
    (expand : Expansion) (field : Option String) (join : Quantity → Quantity → Quantity)
    (before : Summary) :
    summarizeRest expand field join before rules =
      summarizeRest expand field join before rules' := by
  induction alike generalizing before with
  | nil => rfl
  | cons first _ ih => rw [summarizeRest, summarizeRest, first.summary, ih]

/-- Rules that are alike contribute the same nodes together. -/
theorem summarizeMembers_eq {rules rules' : List Rule} (alike : List.Forall₂ Alike rules rules')
    (expand : Expansion) (field : Option String) (join : Quantity → Quantity → Quantity) :
    summarizeMembers expand field join rules = summarizeMembers expand field join rules' := by
  cases alike with
  | nil => rfl
  | cons first rest =>
    rw [summarizeMembers, summarizeMembers, first.summary, summarizeRest_eq rest]

/-- Nodes with the same properties are alike if the trees below them are. The rule that an alias
renames has to keep its properties, too. -/
theorem congr {content : Option Rule} {members : List Rule}
    (wrapped : Option.Rel Alike rule.content content)
    (listed : List.Forall₂ Alike rule.members members)
    (renamed : rule.kind = .aliased → rule.content.map face = content.map face) :
    Alike rule { rule with content, members } := by
  obtain ⟨kind, value, name, content', members', named, flags, contextName⟩ := rule
  dsimp only at wrapped listed renamed ⊢
  have below : List.Forall₂ Alike (content'.toList ++ members') (content.toList ++ members) := by
    refine List.rel_append ?_ listed
    cases wrapped with
    | none => exact .nil
    | some alike => exact .cons alike .nil
  have empty : members'.isEmpty = members.isEmpty := by cases listed <;> rfl
  have gist : gist ⟨kind, value, name, content', members', named, flags, contextName⟩ =
      gist ⟨kind, value, name, content, members, named, flags, contextName⟩ := by
    have held : (content'.map fun part => if kind = .aliased then part.face else blank) =
        content.map fun part => if kind = .aliased then part.face else blank := by
      by_cases aliased : kind = .aliased
      · simpa only [if_pos aliased] using renamed aliased
      · simp only [if_neg aliased]
        cases wrapped <;> rfl
    simp only [Rule.gist, held, empty]
  constructor
  case gists =>
    have plain : isPlain ⟨kind, value, name, content', members', named, flags, contextName⟩ =
        isPlain ⟨kind, value, name, content, members, named, flags, contextName⟩ := by
      rw [isPlain, isPlain, ← flaw?_gist, gist, flaw?_gist]
    rw [gists_eq, gists_eq, plain, gist]
    exact congrArg _ (flatMap_eq Alike.gists below)
  case literals =>
    have inner := flatMap_eq Alike.literals below
    rw [literals_eq, literals_eq]
    cases kind <;> first | rfl | exact inner
  case lexical =>
    -- Only below a precedence level is there anything else to be read.
    rw [isLexical, isLexical, bare, bare]
    by_cases level : kind.isPrecedence
    · rw [if_pos level, if_pos level]
      cases wrapped with
      | none => rfl
      | some alike => exact alike.lexical
    · rw [if_neg level, if_neg level]
  case summary =>
    intro expand field
    have content_eq (field : Option String) :
        summarizeContent expand field content' = summarizeContent expand field content := by
      cases wrapped with
      | none => rfl
      | some alike => exact alike.summary expand field
    cases kind <;> simp only [summarizeWith, content_eq, summarizeMembers_eq listed]

end Alike

/-! ## Edits -/

/-- One step is made somewhere in a tree. The step may depend on whether it is made at the rule that
an alias renames. -/
inductive Edits (step : (renamed : Bool) → Rule → Rule → Prop) :
    (renamed : Bool) → Rule → Rule → Prop
  /-- It is made at the tree itself. -/
  | here {renamed : Bool} {rule rule' : Rule} (made : step renamed rule rule') :
    Edits step renamed rule rule'
  /-- It is made in the wrapped rule. -/
  | content {renamed : Bool} {rule part part' : Rule} (held : rule.content = some part)
    (edits : Edits step (rule.kind = .aliased) part part') :
    Edits step renamed rule { rule with content := some part' }
  /-- It is made in one of the members. -/
  | member {renamed : Bool} {rule part part' : Rule} {before after : List Rule}
    (held : rule.members = before ++ part :: after) (edits : Edits step false part part') :
    Edits step renamed rule { rule with members := before ++ part' :: after }

namespace Edits

variable {step : Bool → Rule → Rule → Prop} {renamed : Bool} {rule rule' : Rule}

/-- A tree stays alike if every step in it keeps rules alike, and the properties of a rule that an
alias renames. -/
theorem alike (edits : Edits step renamed rule rule')
    (each : ∀ {renamed part part'}, part ∈ rule.walk → step renamed part part' →
      Alike part part' ∧ (renamed → part.face = part'.face)) :
    Alike rule rule' ∧ (renamed → rule.face = rule'.face) := by
  induction edits with
  | here made => exact each (mem_walk_self _) made
  | @content _ rule part part' held _ ih =>
    have below : part ∈ rule.children := by simp [children, held]
    obtain ⟨alike, face⟩ := ih fun among => each <| by
      rw [walk_eq]
      exact List.mem_cons_of_mem _ (List.mem_flatMap.mpr ⟨part, below, among⟩)
    refine ⟨Alike.congr ?_ (List.forall₂_same.mpr fun member _ => .refl member) ?_, fun _ => rfl⟩
    · rw [held]
      exact .some alike
    · intro aliased
      rw [held, Option.map_some, Option.map_some, face (by simpa using aliased)]
  | @member _ rule part part' before after held _ ih =>
    have below : part ∈ rule.children := by simp [children, held]
    obtain ⟨alike, -⟩ := ih fun among => each <| by
      rw [walk_eq]
      exact List.mem_cons_of_mem _ (List.mem_flatMap.mpr ⟨part, below, among⟩)
    refine ⟨Alike.congr ?_ ?_ fun _ => rfl, fun _ => rfl⟩
    · cases rule.content with
      | none => exact .none
      | some content => exact .some (.refl content)
    · rw [held]
      have same (rules : List Rule) : List.Forall₂ Alike rules rules :=
        List.forall₂_same.mpr fun member _ => .refl member
      exact List.rel_append (same before) (.cons alike (same after))

/-- The node below all precedence levels keeps its properties if every step keeps them. -/
theorem face_bare (edits : Edits step renamed rule rule')
    (each : ∀ {renamed part part'}, step renamed part part' → part.bare.face = part'.bare.face) :
    rule.bare.face = rule'.bare.face := by
  induction edits with
  | here made => exact each made
  | @content _ rule _ _ held _ ih =>
    rw [bare_eq, bare_eq]
    by_cases level : rule.kind.isPrecedence
    · rw [if_pos level, if_pos level, held]
      exact ih
    · rw [if_neg level, if_neg level]
      rfl
  | @member _ rule =>
    rw [bare_eq, bare_eq]
    by_cases level : rule.kind.isPrecedence
    · rw [if_pos level, if_pos level]
      cases held : rule.content with
      | none => rfl
      | some content => rfl
    · rw [if_neg level, if_neg level]
      rfl

/-- What is read off the properties of the alternatives changes only as far as the steps change
it. -/
theorem alternatives {α : Type} {read : Rule → Option α} {related : List α → List α → Prop}
    (edits : Edits step renamed rule rule') (same : ∀ list, related list list)
    (faithful : ∀ node, read node.face = read node)
    (faces : ∀ {renamed part part'}, step renamed part part' → part.bare.face = part'.bare.face)
    (each : ∀ {renamed part part'}, step renamed part part' →
      related (part.alternatives.filterMap read) (part'.alternatives.filterMap read)) :
    related (rule.alternatives.filterMap read) (rule'.alternatives.filterMap read) := by
  have read_eq {node node' : Rule} (face : node.face = node'.face) : read node = read node' := by
    rw [← faithful node, face, faithful]
  have alone {node node' : Rule} (face : node.face = node'.face) :
      related ([node].filterMap read) ([node'].filterMap read) := by
    rw [List.filterMap_cons, List.filterMap_cons, read_eq face]
    exact same _
  induction edits with
  | here made => exact each made
  | @content _ rule part part' held _ ih =>
    simp only [Rule.alternatives, bare_eq rule, bare_eq { rule with content := some part' }]
    by_cases level : rule.kind.isPrecedence
    · simp only [if_pos level, held, Option.map_some, Option.getD_some]
      exact ih
    · simp only [if_neg level]
      by_cases choice : rule.kind = .choice
      · simp only [if_pos choice]
        exact same _
      · simp only [if_neg choice]
        exact alone rfl
  | @member _ rule part part' before after held below =>
    simp only [Rule.alternatives, bare_eq rule,
      bare_eq { rule with members := before ++ part' :: after }]
    by_cases level : rule.kind.isPrecedence
    · simp only [if_pos level]
      cases rule.content with
      | some content => exact same _
      | none =>
        have other : rule.kind ≠ .choice := by
          intro choice
          rw [choice] at level
          cases level
        simp only [Option.map_none, Option.getD_none, if_neg other]
        exact alone rfl
    · simp only [if_neg level]
      by_cases choice : rule.kind = .choice
      · simp only [if_pos choice, held, List.map_append, List.map_cons, List.filterMap_append,
          List.filterMap_cons, read_eq (below.face_bare faces)]
        exact same _
      · simp only [if_neg choice]
        exact alone rfl

end Edits

end GrammarAtlas.Rule
