import GrammarAtlas.NodeType.Listing

/-!
# Derivations of rule bodies

A derivation expands a rule body into the nodes that it puts below a node of the rule: it picks one
member of every choice, goes through repetitions as often as it likes, and replaces a reference to
a rule that has no node of its own by a derivation of the body of that rule. `Derives` is this
relation. It is stated over the shapes of rules: `Rule.shape` says what a derivation does at a node
of a rule tree, once it is known what references stand for.
-/

namespace GrammarAtlas

/-- A node that a derivation puts into a tree. -/
structure Emission where
  /-- The innermost field around the node, if there is one. -/
  field : Option String
  /-- The kind of the node. -/
  node : NodeKind
  deriving DecidableEq, Repr

namespace Emission

/-- Whether the node takes that place: a field, or the children outside all fields. Only named
nodes are children. -/
def isIn (place : Option String) (emission : Emission) : Bool :=
  emission.field = place && (place.isSome || emission.node.named)

/-- A node that takes a place stands in the field, or in none. -/
theorem field_eq_of_isIn {place : Option String} {emission : Emission}
    (isIn : emission.isIn place) : emission.field = place := by
  simpa using (Bool.and_eq_true_iff.mp isIn).1

/-- The number of nodes in a place. -/
def count (place : Option String) (word : List Emission) : Nat := word.countP (isIn place)

@[simp] theorem count_nil (place : Option String) : count place [] = 0 := rfl

@[simp] theorem count_append (place : Option String) (first rest : List Emission) :
    count place (first ++ rest) = count place first + count place rest :=
  List.countP_append

/-- There is a node in a place exactly if one of the nodes takes it. -/
theorem one_le_count_iff (place : Option String) (word : List Emission) :
    1 ≤ count place word ↔ ∃ emission ∈ word, emission.isIn place :=
  List.countP_pos_iff

end Emission

/-- What a derivation does at a node of a rule tree. -/
inductive RuleShape where
  /-- It puts nothing into the tree. -/
  | silent
  /-- It puts one node into the tree. -/
  | node (kind : NodeKind)
  /-- It goes on with the body of the rule of that name. -/
  | replaced (name : String) (body : Rule)
  /-- It goes through all members one after another. -/
  | sequence (members : List Rule)
  /-- It goes on with one of the members. -/
  | choice (members : List Rule)
  /-- It goes through the content any number of times, or at least once. -/
  | repetition (atLeastOnce : Bool) (content : Rule)
  /-- It goes on with the content, inside a field. -/
  | labelled (name : String) (content : Rule)
  /-- It goes on with the content. -/
  | wrapper (content : Rule)

namespace RuleShape

/-- The rules directly below that a derivation enters. -/
def parts : RuleShape → List Rule
  | sequence members | choice members => members
  | repetition _ content | labelled _ content | wrapper content => [content]
  | silent | node _ | replaced _ _ => []

/-- The field around the rules directly below. -/
def fieldBelow (field : Option String) : RuleShape → Option String
  | labelled name _ => some name
  | _ => field

/-- The shape of a reference. -/
def ofReferent (name : String) : Referent → RuleShape
  | .node kind => node kind
  | .body body => replaced name body
  | .nothing => silent

/-- The shape that a property gives to a node, silent if the node lacks it. -/
def given {α : Type} (make : α → RuleShape) : Option α → RuleShape
  | some property => make property
  | none => silent

end RuleShape

namespace Rule

/-- What a derivation does at a node, the references being known. A node that lacks what its kind
needs puts nothing into the tree; a consistent grammar has none. -/
def shape (referent : String → Referent) (rule : Rule) : RuleShape :=
  match rule.kind with
  | .blank | .pattern | .token | .immediateToken => .silent
  | .text => .given (fun words => .node ⟨words, false⟩) rule.literal
  | .aliased => .given .node rule.aliasNode
  | .symbol => .given (fun name => .ofReferent name (referent name)) rule.symbolName
  | .seq => .sequence rule.members
  | .choice => .choice rule.members
  | .zeroOrMore => .given (.repetition false) rule.content
  | .oneOrMore => .given (.repetition true) rule.content
  | .field =>
    match rule.fieldName with
    | some name => .given (.labelled name) rule.content
    | none => .given .wrapper rule.content
  | .prec | .precLeft | .precRight | .precDynamic | .reserved => .given .wrapper rule.content

variable (referent : String → Referent)

/-- The shape of a reference is that of what the name stands for. -/
theorem shape_symbol (name : String) :
    (symbol name).shape referent = .ofReferent name (referent name) := rfl

/-- Where the parts of a shape come from. -/
inductive Origin (rule : Rule) : RuleShape → Prop where
  /-- Nothing is taken from the node. -/
  | silent : Origin rule .silent
  /-- The node is a literal. -/
  | literal {words : String} (text : rule.literal = some words) :
    Origin rule (.node ⟨words, false⟩)
  /-- The node is an alias that gives the kind. -/
  | alternative {kind : NodeKind} (gives : rule.aliasNode = some kind) : Origin rule (.node kind)
  /-- The node refers to the name. -/
  | reference {name : String} (named : rule.symbolName = some name) :
    Origin rule (.ofReferent name (referent name))
  /-- The members of the node follow one another. -/
  | sequence : Origin rule (.sequence rule.members)
  /-- The node chooses among its members. -/
  | choice (kind : rule.kind = .choice) : Origin rule (.choice rule.members)
  /-- The node repeats its content. -/
  | repetition {atLeastOnce : Bool} {content : Rule} (present : rule.content = some content) :
    Origin rule (.repetition atLeastOnce content)
  /-- The node labels its content. -/
  | labelled {name : String} {content : Rule} (present : rule.content = some content)
    (label : rule.fieldName = some name) : Origin rule (.labelled name content)
  /-- The node wraps its content. -/
  | wrapper {content : Rule} (present : rule.content = some content) :
    Origin rule (.wrapper content)

/-- A shape that a property gives comes from the node if it does whenever there is the property. -/
theorem origin_given {α : Type} {make : α → RuleShape} {rule : Rule} {option : Option α}
    (made : ∀ property, option = some property → rule.Origin referent (make property)) :
    rule.Origin referent (.given make option) := by
  cases option with
  | none => exact .silent
  | some property => exact made property rfl

/-- The shape of a node comes from the node. -/
theorem origin_shape (rule : Rule) : rule.Origin referent (rule.shape referent) := by
  rw [shape]
  cases kind : rule.kind <;> simp only
  case blank | pattern | token | immediateToken => exact .silent
  case text => exact origin_given referent fun _ text => .literal text
  case aliased => exact origin_given referent fun _ gives => .alternative gives
  case symbol => exact origin_given referent fun _ named => .reference named
  case seq => exact .sequence
  case choice => exact .choice kind
  case zeroOrMore | oneOrMore => exact origin_given referent fun _ present => .repetition present
  case field =>
    split
    · rename_i label
      exact origin_given referent fun _ present => .labelled present label
    · exact origin_given referent fun _ present => .wrapper present
  case prec | precLeft | precRight | precDynamic | reserved =>
    exact origin_given referent fun _ present => .wrapper present

/-- A derivation enters rules directly below a node only. -/
theorem mem_children_of_mem_parts {rule part : Rule}
    (entered : part ∈ (rule.shape referent).parts) : part ∈ rule.children := by
  have wrapped {content : Rule} (present : rule.content = some content)
      (entered : part ∈ [content]) : part ∈ rule.children := by
    rw [children, present, List.mem_singleton.mp entered]
    exact List.mem_append_left _ (Option.mem_toList.mpr rfl)
  have origin := rule.origin_shape referent
  generalize rule.shape referent = shape at origin entered
  cases origin with
  | silent | literal | alternative => exact absurd entered List.not_mem_nil
  | @reference name named =>
    cases stands : referent name <;> rw [stands] at entered <;>
      exact absurd entered List.not_mem_nil
  | sequence | choice => exact List.mem_append_right _ entered
  | repetition present | labelled present | wrapper present => exact wrapped present entered

/-- What is replaced by a body is a reference to a name that stands for the body. -/
theorem symbolName_of_shape {rule body : Rule} {name : String}
    (shape : rule.shape referent = .replaced name body) :
    rule.symbolName = some name ∧ referent name = .body body := by
  have origin := rule.origin_shape referent
  generalize rule.shape referent = given at origin shape
  cases origin with
  | @reference found named =>
    cases stands : referent found <;> rw [stands] at shape <;> cases shape
    exact ⟨named, stands⟩
  | _ => cases shape

/-- The body that a reference is replaced by is that of the name. -/
theorem referent_of_shape {rule body : Rule} {name : String}
    (shape : rule.shape referent = .replaced name body) : referent name = .body body :=
  (symbolName_of_shape referent shape).2

/-- All references to a name are replaced by one body. -/
theorem body_eq_of_shape {rule rule' body body' : Rule} {name : String}
    (shape : rule.shape referent = .replaced name body)
    (shape' : rule'.shape referent = .replaced name body') : body = body' :=
  Referent.body.inj ((referent_of_shape referent shape).symm.trans
    (referent_of_shape referent shape'))

/-- A derivation chooses among the members of a choice. -/
theorem choice_of_shape {rule : Rule} {members : List Rule}
    (shape : rule.shape referent = .choice members) :
    rule.kind = .choice ∧ rule.members = members := by
  have origin := rule.origin_shape referent
  generalize rule.shape referent = given at origin shape
  cases origin with
  | choice kind => exact ⟨kind, RuleShape.choice.inj shape⟩
  | @reference found named => cases stands : referent found <;> rw [stands] at shape <;> cases shape
  | _ => cases shape

/-- The label that a derivation finds on a node is the name of a field. -/
theorem fieldName_of_shape {rule content : Rule} {name : String}
    (shape : rule.shape referent = .labelled name content) : rule.fieldName = some name := by
  have origin := rule.origin_shape referent
  generalize rule.shape referent = given at origin shape
  cases origin with
  | labelled present label =>
    obtain ⟨rfl, _⟩ := RuleShape.labelled.inj shape
    exact label
  | @reference found named => cases stands : referent found <;> rw [stands] at shape <;> cases shape
  | _ => cases shape

/-- The node that a derivation finds is that of a literal, of an alias or of a reference. -/
theorem source_of_shape {rule : Rule} {kind : NodeKind}
    (shape : rule.shape referent = .node kind) :
    (∃ words, rule.literal = some words ∧ kind = ⟨words, false⟩) ∨
      rule.aliasNode = some kind ∨ ∃ name, referent name = .node kind := by
  have origin := rule.origin_shape referent
  generalize rule.shape referent = given at origin shape
  cases origin with
  | @literal words text =>
    obtain rfl := RuleShape.node.inj shape
    exact .inl ⟨words, text, rfl⟩
  | alternative gives =>
    obtain rfl := RuleShape.node.inj shape
    exact .inr (.inl gives)
  | @reference found named =>
    cases stands : referent found <;> rw [stands] at shape <;> cases shape
    exact .inr (.inr ⟨found, stands⟩)
  | _ => cases shape

/-- The rules directly below a node are smaller. -/
theorem sizeOf_lt_of_mem_children {rule part : Rule} (below : part ∈ rule.children) :
    sizeOf part < sizeOf rule := by
  obtain ⟨kind, value, name, content, members, named, flags, contextName⟩ := rule
  rw [children, List.mem_append] at below
  rw [Rule.mk.sizeOf_spec]
  rcases below with wrapped | listed
  · obtain rfl := Option.mem_toList.mp wrapped
    simp only [Option.some.sizeOf_spec]
    omega
  · have smaller := List.sizeOf_lt_of_mem listed
    simp only at smaller
    omega

/-- Induction along the rules that a derivation enters. -/
theorem byParts {motive : Rule → Prop}
    (step : ∀ rule, (∀ part ∈ (rule.shape referent).parts, motive part) → motive rule)
    (rule : Rule) : motive rule :=
  step rule fun part entered =>
    have := sizeOf_lt_of_mem_children (mem_children_of_mem_parts referent entered)
    byParts step part
termination_by sizeOf rule

end Rule

mutual

/-- The rule, standing in that field or in none, can put these nodes into the tree, in order. -/
inductive Derives (referent : String → Referent) :
    Option String → Rule → List Emission → Prop where
  /-- Nothing shows up. -/
  | silent {field : Option String} {rule : Rule} (shape : rule.shape referent = .silent) :
    Derives referent field rule []
  /-- One node shows up, in the field around the rule. -/
  | node {field : Option String} {rule : Rule} {kind : NodeKind}
    (shape : rule.shape referent = .node kind) : Derives referent field rule [⟨field, kind⟩]
  /-- A rule without a node of its own derives what its body derives in the same field. -/
  | replaced {field : Option String} {rule body : Rule} {name : String} {word : List Emission}
    (shape : rule.shape referent = .replaced name body)
    (derived : Derives referent field body word) : Derives referent field rule word
  /-- The members follow one another. -/
  | sequence {field : Option String} {rule : Rule} {members : List Rule} {word : List Emission}
    (shape : rule.shape referent = .sequence members)
    (derived : DerivesEach referent field members word) : Derives referent field rule word
  /-- One member is chosen. -/
  | choice {field : Option String} {rule member : Rule} {members : List Rule}
    {word : List Emission} (shape : rule.shape referent = .choice members)
    (chosen : member ∈ members) (derived : Derives referent field member word) :
    Derives referent field rule word
  /-- A repetition that need not happen does not. -/
  | skipped {field : Option String} {rule content : Rule}
    (shape : rule.shape referent = .repetition false content) : Derives referent field rule []
  /-- A repetition happens once. -/
  | once {field : Option String} {rule content : Rule} {atLeastOnce : Bool} {word : List Emission}
    (shape : rule.shape referent = .repetition atLeastOnce content)
    (derived : Derives referent field content word) : Derives referent field rule word
  /-- A repetition happens once more. -/
  | again {field : Option String} {rule content : Rule} {atLeastOnce : Bool}
    {first rest : List Emission} (shape : rule.shape referent = .repetition atLeastOnce content)
    (head : Derives referent field content first) (tail : Derives referent field rule rest) :
    Derives referent field rule (first ++ rest)
  /-- The nodes of a labelled rule stand in its field. -/
  | labelled {field : Option String} {rule content : Rule} {name : String} {word : List Emission}
    (shape : rule.shape referent = .labelled name content)
    (derived : Derives referent (some name) content word) : Derives referent field rule word
  /-- A wrapper derives what its content derives. -/
  | wrapper {field : Option String} {rule content : Rule} {word : List Emission}
    (shape : rule.shape referent = .wrapper content)
    (derived : Derives referent field content word) : Derives referent field rule word

/-- The rules, standing in that field or in none, can put these nodes into the tree, in order. -/
inductive DerivesEach (referent : String → Referent) :
    Option String → List Rule → List Emission → Prop where
  /-- No rule puts no node into the tree. -/
  | nil {field : Option String} : DerivesEach referent field [] []
  /-- The nodes of the first rule come before those of the others. -/
  | cons {field : Option String} {rule : Rule} {rules : List Rule} {first rest : List Emission}
    (head : Derives referent field rule first) (tail : DerivesEach referent field rules rest) :
    DerivesEach referent field (rule :: rules) (first ++ rest)

end

section

variable {referent : String → Referent} {field : Option String} {name : String}

/-- A reference that stands for a node puts this node into the tree. -/
theorem Derives.reference {kind : NodeKind} (stands : referent name = .node kind) :
    Derives referent field (.symbol name) [⟨field, kind⟩] :=
  .node (by rw [Rule.shape_symbol, stands]; rfl)

/-- A reference that stands for a body derives what the body derives. -/
theorem Derives.expansion {body : Rule} {word : List Emission}
    (stands : referent name = .body body) (derived : Derives referent field body word) :
    Derives referent field (.symbol name) word :=
  .replaced (by rw [Rule.shape_symbol, stands]; rfl) derived

end

end GrammarAtlas
