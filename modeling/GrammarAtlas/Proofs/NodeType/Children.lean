import GrammarAtlas.Proofs.NodeType.References
import GrammarAtlas.Proofs.Symbol.Supertype

/-!
# Children outside all fields

The children that an entry lists can be told from the references between rules alone, without
derivations: `Grammar.Reaches` goes from a body to the rules inside it and on to the bodies of rules
that have no nodes of their own, round loops as often as it likes, but into no field, no alias and
no token. A summary does not go round loops. It finds every kind that is reached all the same
(`Language.children_iff_reaches`), since loops can be cut out of a way that stays outside all
fields.
-/

namespace GrammarAtlas

/-- Whether the members of a rule of that kind stand where the rule stands. -/
def RuleKind.isGroup : RuleKind → Bool
  | seq | choice => true
  | _ => false

/-- Whether the content of a rule of that kind stands where the rule stands. -/
def RuleKind.isPassage : RuleKind → Bool
  | zeroOrMore | oneOrMore | reserved => true
  | kind => kind.isPrecedence

/-- The rules directly below a node that stand where the node stands. -/
def Rule.inside (rule : Rule) : List Rule :=
  if rule.kind.isGroup then rule.members
  else if rule.kind.isPassage then rule.content.toList
  else []

namespace Grammar

/-- From a rule one comes to a node outside all fields, along rules that stand where the rules
around them stand and along the bodies of rules that have no nodes of their own. -/
inductive Meets (grammar : Grammar) : Rule → Rule → Prop where
  /-- The node is the rule itself. -/
  | here {rule : Rule} : grammar.Meets rule rule
  /-- The way goes on inside the rule. -/
  | inside {rule part node : Rule} (listed : part ∈ rule.inside)
    (further : grammar.Meets part node) : grammar.Meets rule node
  /-- The way goes on in the body that replaces a reference. -/
  | replaced {rule body node : Rule} {name : String} (refers : rule.symbolName = some name)
    (stands : grammar.referent name = .body body) (further : grammar.Meets body node) :
    grammar.Meets rule node

/-- A node names a kind of node. -/
inductive Names (grammar : Grammar) (node : Rule) (kind : NodeKind) : Prop where
  /-- It refers to something that has nodes of its own. -/
  | reference {name : String} (refers : node.symbolName = some name)
    (stands : grammar.referent name = .node kind)
  /-- It is an alias that gives a named kind. -/
  | alternative (gives : node.aliasNode = some kind) (named : kind.named)

/-- From the rule one comes to a node that names the kind. -/
def Reaches (grammar : Grammar) (rule : Rule) (kind : NodeKind) : Prop :=
  ∃ node, grammar.Meets rule node ∧ grammar.Names node kind

variable {grammar : Grammar} {rule node part : Rule} {kind : NodeKind}

/-- A node names a kind exactly if a derivation finds a named node of that kind there. -/
theorem names_iff :
    grammar.Names node kind ↔ node.shape grammar.referent = .node kind ∧ kind.named := by
  constructor
  · rintro (⟨refers, stands⟩ | ⟨gives, named⟩)
    · rw [Rule.shape, Rule.kind_of_symbolName refers]
      simp only [refers, stands, RuleShape.given, RuleShape.ofReferent, node_of_referent stands,
        and_self]
    · rw [Rule.shape, Rule.kind_of_aliasNode gives]
      simp only [gives, RuleShape.given, named, and_self]
  · rintro ⟨shape, named⟩
    have origin := node.origin_shape grammar.referent
    generalize node.shape grammar.referent = found at origin shape
    cases origin with
    | literal =>
      obtain rfl := RuleShape.node.inj shape
      cases named
    | alternative gives =>
      obtain rfl := RuleShape.node.inj shape
      exact .alternative gives named
    | @reference name refers =>
      cases stands : grammar.referent name <;> rw [stands] at shape <;> cases shape
      exact .reference refers stands
    | _ => cases shape

/-- What stands where a sound node stands is what a derivation enters outside all fields. -/
theorem mem_inside_iff {referent : String → Referent} (sound : rule.flaw? = none) :
    part ∈ rule.inside ↔
      part ∈ (rule.shape referent).parts ∧ (rule.shape referent).fieldBelow none = none := by
  have wrapped {make : Rule → RuleShape} {content : Option Rule}
      (made : ∀ rule, (make rule).parts = [rule] ∧ (make rule).fieldBelow none = none) :
      part ∈ content.toList ↔ part ∈ (RuleShape.given make content).parts ∧
        (RuleShape.given make content).fieldBelow none = none := by
    cases content with
    | none => simp [RuleShape.given, RuleShape.parts]
    | some rule => simp [RuleShape.given, made rule]
  have plain {α : Type} {make : α → RuleShape} {property : Option α}
      (made : ∀ value, (make value).parts = []) : (RuleShape.given make property).parts = [] := by
    cases property with
    | none => rfl
    | some value => exact made value
  rw [Rule.inside, Rule.shape]
  cases kind : rule.kind <;> simp only [RuleKind.isGroup, RuleKind.isPassage,
    RuleKind.isPrecedence, Bool.false_eq_true, if_false, if_true]
  case seq | choice => simp [RuleShape.parts, RuleShape.fieldBelow]
  case zeroOrMore | oneOrMore | prec | precLeft | precRight | precDynamic | reserved =>
    exact wrapped fun _ => ⟨rfl, rfl⟩
  case blank | pattern | token | immediateToken => simp [RuleShape.parts]
  case text | aliased =>
    rw [plain fun _ => rfl]
    simp
  case symbol =>
    rw [plain fun name => by cases referent name <;> rfl]
    simp
  case field =>
    -- A sound field has a name, so a derivation enters it only under that name.
    have present : rule.name.isSome := by
      rw [Rule.flaw?, kind] at sound
      by_contra absent
      simp [Option.not_isSome_iff_eq_none.mp absent] at sound
    obtain ⟨label, named⟩ := Option.isSome_iff_exists.mp present
    have labelled : rule.fieldName = some label := by rw [Rule.fieldName, if_pos kind, named]
    rw [labelled]
    cases rule.content with
    | none => simp [RuleShape.given, RuleShape.parts]
    | some content => simp [RuleShape.given, RuleShape.fieldBelow]

/-- The rules directly below a node of some body are nodes of it. -/
theorem Holds.below (holds : grammar.Holds rule) (among : part ∈ rule.children) :
    grammar.Holds part := by
  obtain ⟨name, body, listed, within⟩ := holds
  exact ⟨name, body, listed, Rule.mem_walk_of_mem_children within among⟩

/-- The body that replaces a reference is a body of the grammar. -/
theorem holds_of_referent {name : String} (stands : grammar.referent name = .body rule) :
    grammar.Holds rule :=
  ⟨name, rule, rule_of_referent stands, rule.mem_walk_self⟩

/-- A reference to a rule without nodes of its own is replaced by the body. -/
theorem shape_of_symbolName {name : String} {body : Rule} (refers : rule.symbolName = some name)
    (stands : grammar.referent name = .body body) :
    rule.shape grammar.referent = .replaced name body := by
  rw [Rule.shape, Rule.kind_of_symbolName refers]
  simp only [refers, stands, RuleShape.given, RuleShape.ofReferent]

/-- In a grammar without defects one comes to a node exactly if a derivation can descend to it
outside all fields. -/
theorem meets_iff_descends (consistent : grammar.defect? = none) (holds : grammar.Holds rule) :
    grammar.Meets rule node ↔ ∃ trail, Descends grammar.referent none rule trail none node := by
  constructor
  · intro meets
    induction meets with
    | here => exact ⟨[], .here⟩
    | inside listed _ ih =>
      have sound := holds.flaw?_eq_none consistent
      obtain ⟨entered, outer⟩ := (mem_inside_iff sound).mp listed
      obtain ⟨trail, further⟩ := ih (holds.below (Rule.mem_children_of_mem_parts _ entered))
      exact ⟨trail, .enter entered (by rwa [outer])⟩
    | replaced refers stands _ ih =>
      obtain ⟨trail, further⟩ := ih (holds_of_referent stands)
      exact ⟨_, .replaced (shape_of_symbolName refers stands) further⟩
  · rintro ⟨trail, way⟩
    have meets {field inner : Option String} {rule node : Rule} {trail : Trail}
        (way : Descends grammar.referent field rule trail inner node) (outer : inner = none)
        (holds : grammar.Holds rule) : grammar.Meets rule node := by
      induction way with
      | here => exact .here
      | @enter field _ rule _ _ _ entered further ih =>
        -- A way that ends outside all fields has not been in any field before.
        have below := (further.outside outer).1
        obtain rfl := ((Descends.enter entered further).outside outer).1
        have sound := holds.flaw?_eq_none consistent
        have listed := (mem_inside_iff sound).mpr ⟨entered, below⟩
        exact .inside listed (ih outer (holds.below (Rule.mem_children_of_mem_parts _ entered)))
      | replaced shape _ ih =>
        obtain ⟨refers, stands⟩ := Rule.symbolName_of_shape _ shape
        exact .replaced refers stands (ih outer (holds_of_referent stands))
    exact meets way rfl holds

/-- In a grammar without defects a kind is reached exactly if a derivation can put a named node of
that kind outside all fields. -/
theorem reaches_iff_leads (consistent : grammar.defect? = none) (holds : grammar.Holds rule) :
    grammar.Reaches rule kind ↔
      kind.named ∧ ∃ trail, Leads grammar.referent none rule trail ⟨none, kind⟩ := by
  simp only [Reaches, meets_iff_descends consistent holds, names_iff, Leads]
  constructor
  · rintro ⟨node, ⟨trail, way⟩, shape, named⟩
    exact ⟨named, trail, node, way, shape⟩
  · rintro ⟨named, trail, node, way, shape⟩
    exact ⟨node, ⟨trail, way⟩, shape, named⟩

end Grammar

namespace Language

variable {language : Language} {grammar : Grammar} {displayName name : String} {body : Rule}

/-- The children of an entry are listed exactly if some kind is reached outside all fields, and
their kinds are exactly those that are reached, strictly in order. -/
theorem children_iff_reaches (loaded : ofGrammar displayName grammar = .ok language)
    (composite : grammar.Composite name body) :
    ∃ entry, language.nodeType? ⟨name, true⟩ = some entry ∧
      (entry.children.isSome ↔ ∃ kind, grammar.Reaches body kind) ∧
      ∀ children, entry.children = some children →
        (children.kinds.Pairwise fun kind other => kind.compare other = .lt) ∧
        ∀ kind, kind ∈ children.kinds ↔ grammar.Reaches body kind := by
  obtain ⟨consistent, ⟨start, describes⟩, _⟩ := of_loaded loaded
  obtain ⟨entry, found, slots⟩ := slots_of_composite loaded composite
  have children : entry.children =
      (body.slotOf grammar language.symbols none none).occupancy? := slots none
  have reached (kind : NodeKind) :
      kind ∈ (body.slotOf grammar language.symbols none none).kinds ↔
        grammar.Reaches body kind := by
    have holds : grammar.Holds body := ⟨name, body, composite.rule, body.mem_walk_self⟩
    rw [Grammar.reaches_iff_leads consistent holds, ← describes.referent]
    refine (mem_kinds_slotIn_iff Rule.Room.initial).trans ⟨?_, ?_⟩
    · rintro ⟨trail, ⟨field, kind⟩, leads, _, isIn, rfl⟩
      obtain ⟨rfl, named⟩ : field = none ∧ kind.named = true := by
        simpa [Emission.isIn] using isIn
      exact ⟨named, trail, leads⟩
    · rintro ⟨named, trail, leads⟩
      obtain ⟨trail', leads', simple⟩ := leads.simple_of_outside rfl
      exact ⟨trail', ⟨none, kind⟩, leads', simple, by simp [Emission.isIn, named], rfl⟩
  refine ⟨entry, found, ?_, fun listed same => ⟨?_, fun kind => ?_⟩⟩
  · rw [children, Slot.isSome_occupancy?]
    exact exists_congr reached
  · rw [children] at same
    exact (Slot.kinds_of_occupancy? same).2
  · rw [children] at same
    rw [(Slot.eq_of_occupancy? same).2.2, reached]

/-- Two hidden rules that refer to each other, and a title in a field. -/
def outline : Grammar :=
  Grammar.empty "outline"
    |>.withRule "source_file" (.seq [.symbol "_block", .field "title" (.symbol "word")])
    |>.withRule "_block" (.choice [.symbol "item", .seq [.text "-", .symbol "_group"]])
    |>.withRule "_group" (.choice [.symbol "_block", .aliased (.symbol "word") "label" true])
    |>.withRule "item" (.text "x")
    |>.withRule "word" (.text "y")

/-- The entry rule is a block with a title. -/
theorem composite_outline : outline.Composite "source_file"
    (.seq [.symbol "_block", .field "title" (.symbol "word")]) where
  rule := by decide +kernel
  assembled := by decide +kernel
  kept := by decide +kernel
  visible := by decide +kernel
  plain := by decide +kernel

/-- Labels are reached through both hidden rules and are children of an outline. Words stand in a
field only and are not. -/
theorem children_outline :
    ∃ language entry, ofGrammar "Outline" outline = .ok language ∧
      language.nodeType? ⟨"source_file", true⟩ = some entry ∧ entry.children.isSome ∧
      outline.Reaches (.seq [.symbol "_block", .field "title" (.symbol "word")])
        ⟨"label", true⟩ ∧
      ¬ outline.Reaches (.seq [.symbol "_block", .field "title" (.symbol "word")])
        ⟨"word", true⟩ := by
  have shown : occupancy? "Outline" outline ⟨"source_file", true⟩ none =
      some {
        multiple := false
        required := false
        kinds := [⟨"item", true⟩, ⟨"label", true⟩] } := by
    decide +kernel
  obtain ⟨language, entry, loaded, found, listed⟩ := exists_of_occupancy? shown
  obtain ⟨entry', found', present, kinds⟩ := children_iff_reaches loaded composite_outline
  obtain rfl : entry = entry' := Option.some.inj (found.symm.trans found')
  have reached := (kinds _ listed).2
  refine ⟨language, entry, loaded, found, present.mpr ⟨_, (reached ⟨"item", true⟩).mp ?_⟩,
    (reached _).mp ?_, fun word => ?_⟩
  · decide
  · decide
  · exact absurd ((reached _).mpr word) (by decide)

end Language

end GrammarAtlas
