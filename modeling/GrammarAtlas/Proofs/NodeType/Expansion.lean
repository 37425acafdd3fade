import GrammarAtlas.Proofs.NodeType.Slot
import Mathlib.Data.List.Perm.Subperm

/-!
# Summaries along the shapes of rules

The summary of a rule goes along the same shapes as a derivation. Where a reference is replaced by
the body of its rule, the summary of the body is taken, unless the rule is being replaced already:
then the summary is empty. `slotIn_replaced` says so without the number of replacements that are
left, which is always large enough (`Room`).
-/

namespace GrammarAtlas

namespace Rule

variable (grammar : Grammar) (table : SymbolTable)

/-- A reference to a rule without nodes of its own is a reference to a rule of the grammar. -/
theorem mem_rules_of_referent {name : String} {body : Rule}
    (stands : Referent.of grammar table name = .body body) : grammar.rules[name]? = some body := by
  have found (stands : Referent.ofBody grammar name = .body body) :
      grammar.rules[name]? = some body := by
    rw [Referent.ofBody] at stands
    split at stands
    · rename_i rule present
      rw [present, Referent.body.inj stands]
    · exact absurd stands (by simp)
  rw [Referent.of] at stands
  split at stands
  · split at stands
    · exact absurd stands (by simp)
    · split at stands
      · exact found stands
      · exact absurd stands (by simp)
  · exact found stands

/-- A name that a body takes the place of is the name of a rule. -/
theorem known_of_referent {name : String} {body : Rule}
    (stands : Referent.of grammar table name = .body body) : name ∈ grammar.rules := by
  rw [Std.ExtTreeMap.mem_iff_isSome_getElem?, mem_rules_of_referent grammar table stands]
  rfl

variable {grammar table} in
/-- References contribute the same if they stand for the same. -/
theorem expansion_congr {grammar' : Grammar} {table' : SymbolTable}
    (same : Referent.of grammar' table' = Referent.of grammar table) (limit : Nat)
    (visiting : List String) :
    expansion grammar' table' limit visiting = expansion grammar table limit visiting := by
  induction limit generalizing visiting with
  | zero =>
    funext field name
    rw [expansion, expansion, same]
  | succ limit ih =>
    funext field name
    rw [expansion, expansion, same]
    simp only [ih]

variable {grammar table} in
/-- A body has the same summary if references stand for the same. -/
theorem summary_congr {grammar' : Grammar} {table' : SymbolTable}
    (same : Referent.of grammar' table' = Referent.of grammar table)
    (size : grammar'.rules.size = grammar.rules.size) (body : Rule) :
    body.summary grammar' table' = body.summary grammar table := by
  rw [summary, summary, expansion_congr same, size]

/-- The summary of a rule, where so many replacements are left and some rules are being replaced
already, by the shape of the rule. -/
theorem summarizeWith_shape (limit : Nat) (visiting : List String) (field : Option String)
    (rule : Rule) :
    rule.summarizeWith (expansion grammar table limit visiting) field =
      match rule.shape (Referent.of grammar table) with
      | .silent => {}
      | .node kind => .occurrence field kind
      | .replaced name _ => expansion grammar table limit visiting field name
      | .sequence members =>
        summarizeMembers (expansion grammar table limit visiting) field Quantity.followedBy members
      | .choice members =>
        summarizeMembers (expansion grammar table limit visiting) field Quantity.either members
      | .repetition atLeastOnce content =>
        (content.summarizeWith (expansion grammar table limit visiting) field).repeated atLeastOnce
      | .labelled name content =>
        content.summarizeWith (expansion grammar table limit visiting) (some name)
      | .wrapper content =>
        content.summarizeWith (expansion grammar table limit visiting) field := by
  obtain ⟨kind, value, name, content, members, named, flags, contextName⟩ := rule
  cases kind
  case text | aliased =>
    cases value with
    | none => rfl
    | some value => cases value <;> rfl
  case symbol =>
    cases name with
    | none => rfl
    | some name =>
      simp only [summarizeWith, shape, symbolName, isSymbol, RuleShape.given]
      cases stands : Referent.of grammar table name with
      | node kind => simp [expansion, RuleShape.ofReferent, stands]
      | body body => simp [RuleShape.ofReferent, stands]
      | nothing => simp [expansion, RuleShape.ofReferent, stands]
  case field => cases content <;> cases name <;> rfl
  case zeroOrMore | oneOrMore | prec | precLeft | precRight | precDynamic | reserved =>
    cases content <;> rfl
  case blank | pattern | token | immediateToken | seq | choice => rfl

/-- What the summary of a rule holds in a place. -/
def slotIn (limit : Nat) (visiting : List String) (field place : Option String) (rule : Rule) :
    Slot :=
  (rule.summarizeWith (expansion grammar table limit visiting) field).slot place

/-- There is room for all rules that are not being replaced already. -/
structure Room (limit : Nat) (visiting : List String) : Prop where
  /-- No rule is being replaced twice. -/
  nodup : visiting.Nodup
  /-- Only rules of the grammar are being replaced. -/
  rules : ∀ name ∈ visiting, name ∈ grammar.rules
  /-- All others can be replaced inside each other. -/
  enough : grammar.rules.size ≤ limit + visiting.length

variable {grammar table} {limit : Nat} {visiting : List String} {field place : Option String}
  {rule : Rule}

/-- In the beginning there is room. -/
theorem Room.initial : Room grammar grammar.rules.size [] where
  nodup := List.nodup_nil
  rules _ listed := absurd listed List.not_mem_nil
  enough := Nat.le_refl _

/-- A further rule can be replaced, and then there is room for the others. -/
theorem Room.step (room : Room grammar limit visiting) {name : String}
    (rule : name ∈ grammar.rules) (fresh : name ∉ visiting) :
    ∃ left, limit = left + 1 ∧ Room grammar left (name :: visiting) := by
  have nodup : (name :: visiting).Nodup := List.nodup_cons.mpr ⟨fresh, room.nodup⟩
  have rules : ∀ other ∈ name :: visiting, other ∈ grammar.rules := by
    intro other listed
    rcases List.mem_cons.mp listed with rfl | listed
    · exact rule
    · exact room.rules other listed
  have fits : (name :: visiting).length ≤ grammar.rules.size := by
    have keys : name :: visiting ⊆ grammar.rules.keys :=
      fun other listed => Std.ExtTreeMap.mem_keys.mpr (rules other listed)
    rw [← Std.ExtTreeMap.length_keys]
    exact (nodup.subperm keys).length_le
  have enough := room.enough
  rw [List.length_cons] at fits
  refine ⟨limit - 1, by omega, nodup, rules, ?_⟩
  rw [List.length_cons]
  omega

/-- Induction along the rules that a summary goes through: those that are entered, and the bodies
that replace references to rules which are not being replaced already. -/
theorem Room.induction (table : SymbolTable)
    {motive : ∀ (limit : Nat) (visiting : List String), Room grammar limit visiting →
      Option String → Rule → Prop}
    (step : ∀ {limit : Nat} {visiting : List String} (room : Room grammar limit visiting)
      {field : Option String} {rule : Rule},
        (∀ part ∈ (rule.shape (Referent.of grammar table)).parts,
          motive _ _ room ((rule.shape (Referent.of grammar table)).fieldBelow field) part) →
        (∀ {left : Nat} {name : String} (body : Rule), limit = left + 1 →
          ∀ smaller : Room grammar left (name :: visiting), motive _ _ smaller field body) →
            motive _ _ room field rule)
    (room : Room grammar limit visiting) (field : Option String) (rule : Rule) :
    motive _ _ room field rule := by
  induction limit using Nat.strongRecOn generalizing visiting field rule with
  | ind limit outer =>
    induction rule using Rule.byParts (Referent.of grammar table) generalizing field with
    | step rule parts =>
      refine step room (fun part entered => parts part entered _) ?_
      rintro left name body rfl smaller
      exact outer left (Nat.lt_succ_self left) smaller field body

/-- What the summary of a rule holds in a place, by the shape of the rule. -/
theorem slotIn_eq (rule : Rule) :
    slotIn grammar table limit visiting field place rule =
      match rule.shape (Referent.of grammar table) with
      | .silent => {}
      | .node kind => if (Emission.mk field kind).isIn place then .single kind else {}
      | .replaced name _ => (expansion grammar table limit visiting field name).slot place
      | .sequence members =>
        .joined Quantity.followedBy (members.map (slotIn grammar table limit visiting field place))
      | .choice members =>
        .joined Quantity.either (members.map (slotIn grammar table limit visiting field place))
      | .repetition atLeastOnce content =>
        (slotIn grammar table limit visiting field place content).repeated atLeastOnce
      | .labelled name content => slotIn grammar table limit visiting (some name) place content
      | .wrapper content => slotIn grammar table limit visiting field place content := by
  rw [slotIn, summarizeWith_shape]
  cases rule.shape (Referent.of grammar table) with
  | silent => exact Summary.slot_empty place
  | node kind => exact Summary.slot_occurrence field kind place
  | sequence members => exact slot_summarizeMembers _ field rfl members place
  | choice members => exact slot_summarizeMembers _ field rfl members place
  | repetition atLeastOnce content => exact Summary.slot_repeated atLeastOnce _ place
  | replaced name body => rfl
  | labelled name content => rfl
  | wrapper content => rfl

/-- A reference to a rule that is being replaced already holds nothing. -/
theorem slotIn_visiting {name : String} {body : Rule}
    (shape : rule.shape (Referent.of grammar table) = .replaced name body)
    (again : name ∈ visiting) : slotIn grammar table limit visiting field place rule = {} := by
  simp only [slotIn_eq, shape]
  rw [expansion, referent_of_shape _ shape]
  cases limit with
  | zero => exact Summary.slot_empty place
  | succ limit => simp [again]

/-- A reference to another rule holds what the body of the rule holds. -/
theorem slotIn_replaced (place : Option String) (room : Room grammar limit visiting)
    {name : String} {body : Rule}
    (shape : rule.shape (Referent.of grammar table) = .replaced name body)
    (fresh : name ∉ visiting) :
    ∃ left, limit = left + 1 ∧ Room grammar left (name :: visiting) ∧
      slotIn grammar table limit visiting field place rule =
        slotIn grammar table left (name :: visiting) field place body := by
  have stands := referent_of_shape _ shape
  obtain ⟨left, rfl, smaller⟩ := room.step (known_of_referent grammar table stands) fresh
  refine ⟨left, rfl, smaller, ?_⟩
  simp only [slotIn_eq rule, shape]
  rw [expansion, stands]
  simp [fresh, slotIn]

end Rule

end GrammarAtlas
