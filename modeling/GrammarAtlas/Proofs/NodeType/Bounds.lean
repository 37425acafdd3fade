import GrammarAtlas.Proofs.Derivation.Trail
import GrammarAtlas.Proofs.NodeType.Expansion

/-!
# What summaries know of derivations

Three questions are answered by the slot of a summary, for every grammar and however its rules refer
to each other. A slot that holds a node for certain holds one in every derivation
(`Derives.one_le_count`). A slot holds exactly the kinds to which a simple trail leads
(`mem_kinds_slotIn_iff`), and it may hold several nodes exactly if a derivation forks along simple
trails (`several_le_most_slotIn_iff`).
-/

namespace GrammarAtlas

open Rule

variable {grammar : Grammar} {table : SymbolTable}

/-! ## At least one node -/

mutual

/-- What a summary holds for certain is in every derivation. -/
theorem Derives.one_le_count {place field : Option String} {rule : Rule} {word : List Emission} :
    Derives (Referent.of grammar table) field rule word →
      ∀ {limit : Nat} {visiting : List String}, Room grammar limit visiting →
        1 ≤ (slotIn grammar table limit visiting field place rule).quantity.least →
          1 ≤ Emission.count place word
  | .silent shape, _, _, _, certain => by
    rw [slotIn_eq, shape] at certain
    exact absurd certain (Nat.not_succ_le_zero 0)
  | .node shape, _, _, _, certain => by
    rw [slotIn_eq, shape] at certain
    dsimp only at certain
    split at certain
    next isIn => simp [Emission.count, isIn]
    next => exact absurd certain (Nat.not_succ_le_zero 0)
  | @Derives.replaced _ _ _ _ name _ shape derived, _, visiting, room, certain => by
    by_cases again : name ∈ visiting
    · rw [slotIn_visiting shape again] at certain
      exact absurd certain (Nat.not_succ_le_zero 0)
    · obtain ⟨left, _, smaller, same⟩ := slotIn_replaced place room shape again
      rw [same] at certain
      exact derived.one_le_count smaller certain
  | .sequence shape derived, _, _, room, certain => by
    rw [slotIn_eq, shape] at certain
    obtain ⟨slot, listed, least⟩ := (Slot.one_le_least_followedBy _).mp certain
    obtain ⟨member, among, rfl⟩ := List.mem_map.mp listed
    exact derived.one_le_count room ⟨member, among, least⟩
  | .choice shape chosen derived, _, _, room, certain => by
    rw [slotIn_eq, shape] at certain
    have all := ((Slot.one_le_least_either _).mp certain).2
    exact derived.one_le_count room (all _ (List.mem_map_of_mem chosen))
  | .skipped shape, _, _, _, certain => by
    rw [slotIn_eq, shape] at certain
    exact absurd certain (by simp [Slot.repeated, Quantity.repeated])
  | .once shape derived, _, _, room, certain => by
    rw [slotIn_eq, shape] at certain
    exact derived.one_le_count room (Slot.one_le_least_of_repeated certain)
  | .again shape head tail, _, _, room, certain => by
    rw [slotIn_eq, shape] at certain
    have first := head.one_le_count room (Slot.one_le_least_of_repeated certain)
    rw [Emission.count_append]
    omega
  | .labelled shape derived, _, _, room, certain => by
    rw [slotIn_eq, shape] at certain
    exact derived.one_le_count room certain
  | .wrapper shape derived, _, _, room, certain => by
    rw [slotIn_eq, shape] at certain
    exact derived.one_le_count room certain

/-- What the summary of a member holds for certain is in every derivation of the sequence. -/
theorem DerivesEach.one_le_count {place field : Option String} {rules : List Rule}
    {word : List Emission} :
    DerivesEach (Referent.of grammar table) field rules word →
      ∀ {limit : Nat} {visiting : List String}, Room grammar limit visiting →
        (∃ rule ∈ rules,
          1 ≤ (slotIn grammar table limit visiting field place rule).quantity.least) →
            1 ≤ Emission.count place word
  | .nil, _, _, _, certain => by simp at certain
  | .cons head tail, _, _, room, certain => by
    rw [Emission.count_append]
    rcases (List.exists_mem_cons_iff ..).mp certain with least | later
    · have first := head.one_le_count room least
      omega
    · have rest := tail.one_le_count room later
      omega

end

/-! ## Kinds -/

section

variable {limit : Nat} {visiting : List String} {place : Option String}

/-- The kinds below a rule that is entered are kinds of the rule. -/
theorem mem_kinds_slotIn_of_mem_parts {field : Option String} {rule part : Rule}
    {kind : NodeKind} (entered : part ∈ (rule.shape (Referent.of grammar table)).parts)
    (listed : kind ∈ (slotIn grammar table limit visiting
      ((rule.shape (Referent.of grammar table)).fieldBelow field) place part).kinds) :
    kind ∈ (slotIn grammar table limit visiting field place rule).kinds := by
  rw [slotIn_eq rule]
  cases shape : rule.shape (Referent.of grammar table) with
  | sequence members | choice members =>
    rw [shape] at entered listed
    exact (Slot.mem_kinds_joined ..).mpr ⟨_, List.mem_map_of_mem entered, listed⟩
  | repetition atLeastOnce content | labelled name content | wrapper content =>
    rw [shape] at entered listed
    obtain rfl := List.mem_singleton.mp entered
    exact listed
  | silent | node kind | replaced name body =>
    rw [shape] at entered
    exact absurd entered List.not_mem_nil

/-- A kind to which a simple trail leads is held. -/
theorem Descends.mem_kinds {field inner : Option String} {rule last : Rule} {trail : Trail}
    {kind : NodeKind} (way : Descends (Referent.of grammar table) field rule trail inner last)
    (node : last.shape (Referent.of grammar table) = .node kind)
    (isIn : (Emission.mk inner kind).isIn place) (room : Room grammar limit visiting)
    (simple : trail.Simple visiting) :
    kind ∈ (slotIn grammar table limit visiting field place rule).kinds := by
  induction way generalizing limit visiting with
  | here =>
    rw [slotIn_eq, node]
    simp [isIn]
  | enter entered _ ih => exact mem_kinds_slotIn_of_mem_parts entered (ih node isIn room simple)
  | replaced shape _ ih =>
    obtain ⟨fresh, simple⟩ := Trail.simple_cons.mp simple
    obtain ⟨left, _, smaller, same⟩ := slotIn_replaced place room shape fresh
    rw [same]
    exact ih node isIn smaller simple

/-- A simple trail leads to every kind that is held. -/
theorem leads_of_mem_kinds {kind : NodeKind} (room : Room grammar limit visiting)
    (field : Option String) (rule : Rule)
    (listed : kind ∈ (slotIn grammar table limit visiting field place rule).kinds) :
    ∃ trail emission, Leads (Referent.of grammar table) field rule trail emission ∧
      trail.Simple visiting ∧ emission.isIn place ∧ emission.node = kind := by
  induction limit, visiting, room, field, rule using Room.induction table with
  | @step limit visiting room field rule parts bodies =>
    cases shape : rule.shape (Referent.of grammar table) with
    | silent =>
      rw [slotIn_eq, shape] at listed
      exact absurd listed Std.ExtTreeSet.not_mem_empty
    | node found =>
      rw [slotIn_eq, shape] at listed
      by_cases isIn : (Emission.mk field found).isIn place
      · simp only [isIn, if_true, Slot.mem_kinds_single] at listed
        exact ⟨[], ⟨field, found⟩, ⟨rule, .here, shape⟩, .nil, isIn, listed.symm⟩
      · simp only [isIn] at listed
        exact absurd listed Std.ExtTreeSet.not_mem_empty
    | replaced name body =>
      by_cases again : name ∈ visiting
      · rw [slotIn_visiting shape again] at listed
        exact absurd listed Std.ExtTreeSet.not_mem_empty
      · obtain ⟨left, fits, smaller, same⟩ := slotIn_replaced place room shape again
        rw [same] at listed
        obtain ⟨trail, emission, further, simple, rest⟩ := bodies body fits smaller listed
        exact ⟨_, emission, further.replaced shape, Trail.simple_cons.mpr ⟨again, simple⟩, rest⟩
    | sequence members | choice members =>
      rw [slotIn_eq, shape] at listed
      obtain ⟨_, given, listed⟩ := (Slot.mem_kinds_joined ..).mp listed
      obtain ⟨member, among, rfl⟩ := List.mem_map.mp given
      rw [shape] at parts
      obtain ⟨trail, emission, further, rest⟩ := parts member among listed
      exact ⟨trail, emission, further.enter shape among, rest⟩
    | repetition atLeastOnce content | labelled name content | wrapper content =>
      rw [slotIn_eq, shape] at listed
      rw [shape] at parts
      have among : content ∈ [content] := List.mem_singleton.mpr rfl
      obtain ⟨trail, emission, further, rest⟩ := parts content among listed
      exact ⟨trail, emission, further.enter shape among, rest⟩

/-- A slot holds exactly the kinds to which a simple trail leads. -/
theorem mem_kinds_slotIn_iff (room : Room grammar limit visiting) {field : Option String}
    {rule : Rule} {kind : NodeKind} :
    kind ∈ (slotIn grammar table limit visiting field place rule).kinds ↔
      ∃ trail emission, Leads (Referent.of grammar table) field rule trail emission ∧
        trail.Simple visiting ∧ emission.isIn place ∧ emission.node = kind := by
  constructor
  · exact leads_of_mem_kinds room field rule
  · rintro ⟨trail, ⟨inner, kind⟩, ⟨last, way, node⟩, simple, isIn, rfl⟩
    exact way.mem_kinds node isIn room simple

/-! ## More than one node -/

/-- The slots of rules are balanced. -/
theorem balanced_slotIn (room : Room grammar limit visiting) (field : Option String)
    (rule : Rule) : (slotIn grammar table limit visiting field place rule).Balanced := by
  induction limit, visiting, room, field, rule using Room.induction table with
  | @step limit visiting room field rule parts bodies =>
    cases shape : rule.shape (Referent.of grammar table) with
    | silent =>
      rw [slotIn_eq, shape]
      exact Slot.balanced_empty
    | node kind =>
      rw [slotIn_eq, shape]
      dsimp only
      split
      · exact Slot.balanced_single kind
      · exact Slot.balanced_empty
    | replaced name body =>
      by_cases again : name ∈ visiting
      · rw [slotIn_visiting shape again]
        exact Slot.balanced_empty
      · obtain ⟨left, fits, smaller, same⟩ := slotIn_replaced place room shape again
        rw [same]
        exact bodies body fits smaller
    | sequence members =>
      rw [slotIn_eq, shape]
      rw [shape] at parts
      exact Slot.balanced_joined (Slot.one_le_most_followedBy _)
        (List.forall_mem_map.mpr parts)
    | choice members =>
      rw [slotIn_eq, shape]
      rw [shape] at parts
      exact Slot.balanced_joined (Slot.le_most_either Nat.one_pos _)
        (List.forall_mem_map.mpr parts)
    | repetition atLeastOnce content =>
      rw [slotIn_eq, shape]
      rw [shape] at parts
      exact Slot.balanced_repeated atLeastOnce (parts content (List.mem_singleton.mpr rfl))
    | labelled name content | wrapper content =>
      rw [slotIn_eq, shape]
      rw [shape] at parts
      exact parts content (List.mem_singleton.mpr rfl)

/-- A slot may hold a node exactly if a simple trail leads to one. -/
theorem one_le_most_slotIn_iff (room : Room grammar limit visiting) {field : Option String}
    {rule : Rule} :
    1 ≤ (slotIn grammar table limit visiting field place rule).quantity.most ↔
      ∃ trail emission, Leads (Referent.of grammar table) field rule trail emission ∧
        trail.Simple visiting ∧ emission.isIn place := by
  refine (balanced_slotIn room field rule).trans ?_
  constructor
  · rintro ⟨kind, listed⟩
    obtain ⟨trail, emission, leads, simple, isIn, _⟩ := (mem_kinds_slotIn_iff room).mp listed
    exact ⟨trail, emission, leads, simple, isIn⟩
  · rintro ⟨trail, emission, leads, simple, isIn⟩
    exact ⟨_, (mem_kinds_slotIn_iff room).mpr ⟨trail, emission, leads, simple, isIn, rfl⟩⟩

/-- A slot that may hold several nodes forks along simple trails. -/
theorem forkIn_of_several_le_most (room : Room grammar limit visiting) (field : Option String)
    (rule : Rule)
    (several : Quantity.several ≤
      (slotIn grammar table limit visiting field place rule).quantity.most) :
    ForkIn (Referent.of grammar table) (Trail.Simple visiting) place field rule := by
  induction limit, visiting, room, field, rule using Room.induction table with
  | @step limit visiting room field rule parts bodies =>
    cases shape : rule.shape (Referent.of grammar table) with
    | silent =>
      rw [slotIn_eq, shape] at several
      exact absurd several (Nat.not_succ_le_zero 1)
    | node kind =>
      rw [slotIn_eq, shape] at several
      by_cases isIn : (Emission.mk field kind).isIn place
      · simp [isIn, Slot.single, Quantity.one, Quantity.several] at several
      · simp [isIn, Quantity.several] at several
    | replaced name body =>
      by_cases again : name ∈ visiting
      · rw [slotIn_visiting shape again] at several
        exact absurd several (Nat.not_succ_le_zero 1)
      · obtain ⟨left, fits, smaller, same⟩ := slotIn_replaced place room shape again
        rw [same] at several
        refine (bodies body fits smaller several).replaced shape fun trail simple => ?_
        exact Trail.simple_cons.mpr ⟨again, simple⟩
    | sequence members =>
      rw [slotIn_eq, shape] at several
      rw [shape] at parts
      rcases (Slot.several_le_most_followedBy _).mp several with ⟨_, given, most⟩ | both
      · obtain ⟨member, among, rfl⟩ := List.mem_map.mp given
        exact (parts member among most).enter shape among
      · obtain ⟨_, _, given, one, other⟩ := both
        obtain ⟨left, right, among, rfl, rfl⟩ := exists_pair_of_sublist_map given
        obtain ⟨trail, emission, leads, simple, isIn⟩ := (one_le_most_slotIn_iff room).mp one
        obtain ⟨trail', emission', leads', simple', isIn'⟩ :=
          (one_le_most_slotIn_iff room).mp other
        exact ⟨_, emission, _, emission', .apart .here shape among leads leads', simple, simple',
          isIn, isIn'⟩
    | choice members =>
      rw [slotIn_eq, shape] at several
      rw [shape] at parts
      obtain ⟨_, given, most⟩ := (Slot.le_most_either Nat.two_pos _).mp several
      obtain ⟨member, among, rfl⟩ := List.mem_map.mp given
      exact (parts member among most).enter shape among
    | repetition atLeastOnce content =>
      rw [slotIn_eq, shape] at several
      obtain ⟨trail, emission, leads, simple, isIn⟩ :=
        (one_le_most_slotIn_iff room).mp ((Slot.several_le_most_repeated atLeastOnce _).mp several)
      exact ⟨_, emission, _, emission, .repeated .here shape leads leads, simple, simple, isIn,
        isIn⟩
    | labelled name content | wrapper content =>
      rw [slotIn_eq, shape] at several
      rw [shape] at parts
      have among : content ∈ [content] := List.mem_singleton.mpr rfl
      exact (parts content among several).enter shape among

/-- What a rule that is entered may put into a place several times, the rule around it may. -/
theorem several_le_most_slotIn_of_mem_parts {field : Option String} {rule part : Rule}
    (entered : part ∈ (rule.shape (Referent.of grammar table)).parts)
    (several : Quantity.several ≤ (slotIn grammar table limit visiting
      ((rule.shape (Referent.of grammar table)).fieldBelow field) place part).quantity.most) :
    Quantity.several ≤ (slotIn grammar table limit visiting field place rule).quantity.most := by
  rw [slotIn_eq rule]
  cases shape : rule.shape (Referent.of grammar table) with
  | sequence members =>
    rw [shape] at entered several
    exact (Slot.several_le_most_followedBy _).mpr (.inl ⟨_, List.mem_map_of_mem entered, several⟩)
  | choice members =>
    rw [shape] at entered several
    exact (Slot.le_most_either Nat.two_pos _).mpr ⟨_, List.mem_map_of_mem entered, several⟩
  | repetition atLeastOnce content =>
    rw [shape] at entered several
    obtain rfl := List.mem_singleton.mp entered
    exact (Slot.several_le_most_repeated ..).mpr (Nat.le_of_succ_le several)
  | labelled name content | wrapper content =>
    rw [shape] at entered several
    obtain rfl := List.mem_singleton.mp entered
    exact several
  | silent | node kind | replaced name body =>
    rw [shape] at entered
    exact absurd entered List.not_mem_nil

/-- A slot that may hold several nodes is in slots that may hold several nodes. -/
theorem Descends.several_le_most {field inner : Option String} {rule last : Rule} {shared : Trail}
    (way : Descends (Referent.of grammar table) field rule shared inner last)
    (room : Room grammar limit visiting) (simple : shared.Simple visiting)
    (several : ∀ {limit' : Nat} {visiting' : List String}, Room grammar limit' visiting' →
      (∀ trail, Trail.Simple visiting (shared ++ trail) → Trail.Simple visiting' trail) →
        Quantity.several ≤
          (slotIn grammar table limit' visiting' inner place last).quantity.most) :
    Quantity.several ≤ (slotIn grammar table limit visiting field place rule).quantity.most := by
  induction way generalizing limit visiting with
  | here => exact several room fun _ => id
  | enter entered _ ih =>
    exact several_le_most_slotIn_of_mem_parts entered (ih room simple several)
  | replaced shape _ ih =>
    obtain ⟨fresh, simple⟩ := Trail.simple_cons.mp simple
    obtain ⟨left, _, smaller, same⟩ := slotIn_replaced place room shape fresh
    rw [same]
    refine ih smaller simple fun room' shorter => several room' fun trail whole => ?_
    exact shorter trail (Trail.simple_cons.mp whole).2

/-- A slot may hold several nodes exactly if it forks along simple trails. -/
theorem several_le_most_slotIn_iff (room : Room grammar limit visiting) {field : Option String}
    {rule : Rule} :
    Quantity.several ≤ (slotIn grammar table limit visiting field place rule).quantity.most ↔
      ForkIn (Referent.of grammar table) (Trail.Simple visiting) place field rule := by
  constructor
  · exact forkIn_of_several_le_most room field rule
  · rintro ⟨_, emission, _, emission', fork, simple, simple', isIn, isIn'⟩
    cases fork with
    | apart reached shape two one other =>
      refine reached.several_le_most room simple.of_append fun room' shorter => ?_
      rw [slotIn_eq, shape]
      refine (Slot.several_le_most_followedBy _).mpr (.inr ⟨_, _, two.map _, ?_, ?_⟩)
      · exact (one_le_most_slotIn_iff room').mpr ⟨_, _, one, shorter _ simple, isIn⟩
      · exact (one_le_most_slotIn_iff room').mpr ⟨_, _, other, shorter _ simple', isIn'⟩
    | repeated reached shape one other =>
      refine reached.several_le_most room simple.of_append fun room' shorter => ?_
      rw [slotIn_eq, shape]
      refine (Slot.several_le_most_repeated ..).mpr ?_
      exact (one_le_most_slotIn_iff room').mpr ⟨_, _, one, shorter _ simple, isIn⟩

end

end GrammarAtlas
