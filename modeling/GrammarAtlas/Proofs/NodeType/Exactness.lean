import GrammarAtlas.Proofs.Derivation.Completion
import GrammarAtlas.Proofs.NodeType.Bounds

/-!
# Exact summaries

A summary is exact for a rule in which no rule is replaced inside its own body. All trails are
simple then, so that nothing is cut off, and all choices of a consistent grammar have members, so
that every way down can be completed to a derivation. A derivation that goes through as little as
possible shows that nothing more is certain than the summary says (`exists_least`).
-/

namespace GrammarAtlas

open Rule

/-- All trails of a rule are simple. -/
def Straight (referent : String → Referent) (visiting : List String) (field : Option String)
    (rule : Rule) : Prop :=
  ∀ trail inner part, Descends referent field rule trail inner part →
    Trail.Simple visiting trail

section

variable {referent : String → Referent} {visiting : List String} {field inner : Option String}
  {rule last : Rule} {trail : Trail}

/-- The trails of a rule that is entered are simple too. -/
theorem Straight.into {shape : RuleShape} {part : Rule}
    (straight : Straight referent visiting field rule) (is : rule.shape referent = shape)
    (entered : part ∈ shape.parts) :
    Straight referent visiting (shape.fieldBelow field) part :=
  fun _ _ _ further => straight _ _ _ ((Descends.into is entered).trans further)

/-- The trails of a body that replaces a reference avoid the rule. -/
theorem Straight.replaced {name : String} {body : Rule}
    (straight : Straight referent visiting field rule)
    (shape : rule.shape referent = .replaced name body) :
    name ∉ visiting ∧ Straight referent (name :: visiting) field body :=
  ⟨(Trail.simple_cons.mp (straight _ _ _ (.replaced shape .here))).1,
    fun _ _ _ further => (Trail.simple_cons.mp (straight _ _ _ (.replaced shape further))).2⟩

end

/-! ## As little as possible -/

section

variable {grammar : Grammar} {table : SymbolTable} {limit : Nat} {visiting : List String}
  {place field : Option String} {rule : Rule}

/-- Derivations of the members make one of the sequence, which puts a node into a place only if one
of the members does so for certain. -/
theorem exists_least_each {members : List Rule} {certain : Rule → Prop}
    (each : ∀ member ∈ members, ∃ word, Derives (Referent.of grammar table) field member word ∧
      (1 ≤ Emission.count place word → certain member)) :
    ∃ word, DerivesEach (Referent.of grammar table) field members word ∧
      (1 ≤ Emission.count place word → ∃ member ∈ members, certain member) := by
  induction members with
  | nil => exact ⟨[], .nil, fun some => absurd some (Nat.not_succ_le_zero 0)⟩
  | cons member members ih =>
    obtain ⟨first, head, one⟩ := each member List.mem_cons_self
    obtain ⟨rest, tail, others⟩ :=
      ih fun other listed => each other (List.mem_cons_of_mem _ listed)
    refine ⟨first ++ rest, .cons head tail, fun some => ?_⟩
    rw [Emission.count_append] at some
    by_cases here : 1 ≤ Emission.count place first
    · exact ⟨member, List.mem_cons_self, one here⟩
    · obtain ⟨other, listed, least⟩ := others (by omega)
      exact ⟨other, List.mem_cons_of_mem _ listed, least⟩

/-- Some derivation puts a node into a place only if the summary says that all do. -/
theorem exists_least (place : Option String) (room : Room grammar limit visiting)
    (field : Option String) (rule : Rule) (filled : Filled (Referent.of grammar table) field rule)
    (straight : Straight (Referent.of grammar table) visiting field rule) :
    ∃ word, Derives (Referent.of grammar table) field rule word ∧
      (1 ≤ Emission.count place word →
        1 ≤ (slotIn grammar table limit visiting field place rule).quantity.least) := by
  induction limit, visiting, room, field, rule using Room.induction table with
  | @step limit visiting room field rule parts bodies =>
    have below (part : Rule) (entered : part ∈ (rule.shape (Referent.of grammar table)).parts) :=
      parts part entered ((Descends.into rfl entered).filled filled) (straight.into rfl entered)
    rw [slotIn_eq]
    cases shape : rule.shape (Referent.of grammar table) with
    | silent => exact ⟨[], .silent shape, id⟩
    | node kind =>
      refine ⟨_, .node shape, fun some => ?_⟩
      obtain ⟨emission, listed, isIn⟩ := (Emission.one_le_count_iff ..).mp some
      obtain rfl := List.mem_singleton.mp listed
      simp [isIn, Slot.single, Quantity.one]
    | replaced name body =>
      obtain ⟨fresh, straight⟩ := straight.replaced shape
      obtain ⟨left, fits, smaller, same⟩ := slotIn_replaced place room shape fresh
      obtain ⟨word, derived, least⟩ := bodies body fits smaller
        ((Descends.replaced shape .here).filled filled) straight
      rw [slotIn_eq, shape] at same
      refine ⟨word, .replaced shape derived, fun some => ?_⟩
      dsimp only at same ⊢
      rw [same]
      exact least some
    | sequence members =>
      rw [shape] at below
      obtain ⟨word, derived, least⟩ := exists_least_each below
      refine ⟨word, .sequence shape derived, fun some => ?_⟩
      obtain ⟨member, listed, least⟩ := least some
      exact (Slot.one_le_least_followedBy _).mpr ⟨_, List.mem_map_of_mem listed, least⟩
    | choice members =>
      rw [shape] at below
      have someMember := filled _ _ _ members .here shape
      -- If a member need not put a node there, the derivation chooses it; otherwise any will do.
      by_cases all : ∀ member ∈ members,
          1 ≤ (slotIn grammar table limit visiting field place member).quantity.least
      · obtain ⟨member, listed⟩ := List.exists_mem_of_ne_nil members someMember
        obtain ⟨word, derived, _⟩ := below member listed
        refine ⟨word, .choice shape listed derived, fun _ => ?_⟩
        exact (Slot.one_le_least_either _).mpr
          ⟨by simpa using someMember, List.forall_mem_map.mpr all⟩
      · simp only [Classical.not_forall, exists_prop] at all
        obtain ⟨member, listed, none⟩ := all
        obtain ⟨word, derived, least⟩ := below member listed
        exact ⟨word, .choice shape listed derived, fun some => absurd (least some) none⟩
    | repetition atLeastOnce content =>
      cases atLeastOnce with
      | false => exact ⟨[], .skipped shape, fun some => absurd some (Nat.not_succ_le_zero 0)⟩
      | true =>
        rw [shape] at below
        obtain ⟨word, derived, least⟩ := below content (List.mem_singleton.mpr rfl)
        exact ⟨word, .once shape derived, least⟩
    | labelled name content =>
      rw [shape] at below
      obtain ⟨word, derived, least⟩ := below content (List.mem_singleton.mpr rfl)
      exact ⟨word, .labelled shape derived, least⟩
    | wrapper content =>
      rw [shape] at below
      obtain ⟨word, derived, least⟩ := below content (List.mem_singleton.mpr rfl)
      exact ⟨word, .wrapper shape derived, least⟩

end

/-! ## Without recursion -/

/-- What the summary of a rule holds in a place, nothing being replaced around it. -/
abbrev Rule.slotOf (grammar : Grammar) (table : SymbolTable) (field place : Option String)
    (rule : Rule) : Slot :=
  slotIn grammar table grammar.rules.size [] field place rule

section

variable {grammar : Grammar} {table : SymbolTable} {place field : Option String} {rule : Rule}

/-- Without recursion, every way down a rule can be completed. -/
theorem Rule.NonRecursive.completable
    (nonRecursive : rule.NonRecursive (Referent.of grammar table))
    (filled : Filled (Referent.of grammar table) field rule) :
    Completable (Referent.of grammar table) field rule := by
  intro trail inner part way
  obtain ⟨word, derived, _⟩ := exists_least none Room.initial inner part
    (way.filled filled) fun _ _ _ further => (nonRecursive.descends way).simple further
  exact ⟨word, derived⟩

/-- Without recursion, a slot holds exactly the kinds that derivations put there. -/
theorem mem_kinds_slotOf_iff (place : Option String)
    (nonRecursive : rule.NonRecursive (Referent.of grammar table))
    (filled : Filled (Referent.of grammar table) field rule) (kind : NodeKind) :
    kind ∈ (slotOf grammar table field place rule).kinds ↔
      ∃ word, Derives (Referent.of grammar table) field rule word ∧
        ∃ emission ∈ word, emission.isIn place ∧ emission.node = kind := by
  rw [mem_kinds_slotIn_iff Room.initial]
  constructor
  · rintro ⟨trail, emission, leads, _, isIn, rfl⟩
    obtain ⟨word, derived, listed⟩ := leads.complete (nonRecursive.completable filled)
    exact ⟨word, derived, emission, listed, isIn, rfl⟩
  · rintro ⟨word, derived, emission, listed, isIn, rfl⟩
    obtain ⟨trail, last, way, node⟩ := derived.leads emission listed
    exact ⟨trail, emission, ⟨last, way, node⟩, nonRecursive.simple way, isIn, rfl⟩

/-- Without recursion, a slot may hold several nodes exactly if a derivation puts several there. -/
theorem several_le_most_slotOf_iff (nonRecursive : rule.NonRecursive (Referent.of grammar table))
    (filled : Filled (Referent.of grammar table) field rule) :
    Quantity.several ≤ (slotOf grammar table field place rule).quantity.most ↔
      ∃ word, Derives (Referent.of grammar table) field rule word ∧
        2 ≤ Emission.count place word := by
  rw [several_le_most_slotIn_iff Room.initial]
  constructor
  · exact fun fork => fork.complete (nonRecursive.completable filled)
  · rintro ⟨word, derived, several⟩
    obtain ⟨first, emission, second, emission', fork, _, _, isIn⟩ := derived.fork several
    obtain ⟨⟨_, way, _⟩, ⟨_, way', _⟩⟩ := fork.leads
    exact ⟨first, emission, second, emission', fork, nonRecursive.simple way,
      nonRecursive.simple way', isIn⟩

/-- Without recursion, a slot holds a node for certain exactly if every derivation puts one
there. -/
theorem one_le_least_slotOf_iff (nonRecursive : rule.NonRecursive (Referent.of grammar table))
    (filled : Filled (Referent.of grammar table) field rule) :
    1 ≤ (slotOf grammar table field place rule).quantity.least ↔
      ∀ word, Derives (Referent.of grammar table) field rule word →
        1 ≤ Emission.count place word := by
  constructor
  · exact fun certain word derived => derived.one_le_count Room.initial certain
  · intro all
    obtain ⟨word, derived, least⟩ := exists_least place Room.initial field rule filled
      fun _ _ _ way => nonRecursive.simple way
    exact least (all word derived)

end

end GrammarAtlas
