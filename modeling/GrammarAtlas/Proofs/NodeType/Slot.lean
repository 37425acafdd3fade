import GrammarAtlas.Proofs.Derivation

/-!
# Summaries, one place at a time

A summary holds a slot for every field and one for the children outside all fields. All operations
on summaries work on each place alone, so a summary is read here through `Summary.slot`. What a
node type lists for a place depends on three questions about its slot: which kinds it holds,
whether it holds at least one node at all events, and whether it may hold several.
-/

namespace GrammarAtlas

/-! ## Quantities and slots -/

namespace Slot

/-- A slot may hold a node exactly if it holds some kind. -/
def Balanced (slot : Slot) : Prop := 1 ≤ slot.quantity.most ↔ ∃ kind, kind ∈ slot.kinds

/-- The slots of several parts together. -/
def joined (join : Quantity → Quantity → Quantity) : List Slot → Slot
  | [] => {}
  | first :: rest => rest.foldl (combine join) first

@[simp] theorem mem_kinds_single (kind kind' : NodeKind) :
    kind' ∈ (single kind).kinds ↔ kind' = kind := by
  rw [single, Std.ExtTreeSet.mem_ofList, List.contains_iff_mem, List.mem_singleton]

/-- The kinds of several parts together are those of each of them. -/
theorem mem_kinds_joined (join : Quantity → Quantity → Quantity) (slots : List Slot)
    (kind : NodeKind) :
    kind ∈ (joined join slots).kinds ↔ ∃ slot ∈ slots, kind ∈ slot.kinds := by
  cases slots with
  | nil => simp [joined]
  | cons first rest =>
    simp only [joined]
    induction rest generalizing first with
    | nil => simp
    | cons next rest ih =>
      rw [List.foldl_cons, ih]
      simp [combine, Std.ExtTreeSet.mem_union_iff, or_assoc]

/-- What two parts have together exactly if one of them has it, several parts have together exactly
if one of them has it. -/
theorem joined_iff {join : Quantity → Quantity → Quantity} (holds : Quantity → Prop)
    (two : ∀ left right, holds (join left right) ↔ holds left ∨ holds right) (none : ¬ holds {})
    (slots : List Slot) :
    holds (joined join slots).quantity ↔ ∃ slot ∈ slots, holds slot.quantity := by
  cases slots with
  | nil => simpa [joined] using none
  | cons first rest =>
    simp only [joined]
    induction rest generalizing first with
    | nil => simp
    | cons next rest ih =>
      rw [List.foldl_cons, ih]
      simp [combine, two, or_assoc]

/-- A sequence holds a node for certain exactly if one of its members does. -/
theorem one_le_least_followedBy (slots : List Slot) :
    1 ≤ (joined Quantity.followedBy slots).quantity.least ↔
      ∃ slot ∈ slots, 1 ≤ slot.quantity.least :=
  joined_iff (fun quantity => 1 ≤ quantity.least)
    (fun left right => by simp only [Quantity.followedBy, Quantity.several]; omega) (by decide)
    slots

/-- A sequence may hold a node exactly if one of its members may. -/
theorem one_le_most_followedBy (slots : List Slot) :
    1 ≤ (joined Quantity.followedBy slots).quantity.most ↔
      ∃ slot ∈ slots, 1 ≤ slot.quantity.most :=
  joined_iff (fun quantity => 1 ≤ quantity.most)
    (fun left right => by simp only [Quantity.followedBy, Quantity.several]; omega) (by decide)
    slots

/-- A choice may hold as many nodes as one of its members may. -/
theorem le_most_either {bound : Nat} (positive : 0 < bound) (slots : List Slot) :
    bound ≤ (joined Quantity.either slots).quantity.most ↔
      ∃ slot ∈ slots, bound ≤ slot.quantity.most :=
  joined_iff (fun quantity => bound ≤ quantity.most)
    (fun left right => by simp only [Quantity.either]; omega) (Nat.not_le_of_lt positive) slots

/-- A choice holds a node for certain exactly if there are members and all of them do. -/
theorem one_le_least_either (slots : List Slot) :
    1 ≤ (joined Quantity.either slots).quantity.least ↔
      slots ≠ [] ∧ ∀ slot ∈ slots, 1 ≤ slot.quantity.least := by
  cases slots with
  | nil => simp [joined]
  | cons first rest =>
    simp only [joined]
    induction rest generalizing first with
    | nil => simp
    | cons next rest ih =>
      rw [List.foldl_cons, ih]
      simp only [combine, Quantity.either, Nat.le_min, List.mem_cons, forall_eq_or_imp, ne_eq,
        reduceCtorEq, not_false_eq_true, true_and, and_assoc]

/-- A sequence may hold several nodes exactly if one of its members may, or if two of them may
hold a node each. -/
theorem several_le_most_followedBy (slots : List Slot) :
    Quantity.several ≤ (joined Quantity.followedBy slots).quantity.most ↔
      (∃ slot ∈ slots, Quantity.several ≤ slot.quantity.most) ∨
        ∃ left right, [left, right].Sublist slots ∧
          1 ≤ left.quantity.most ∧ 1 ≤ right.quantity.most := by
  have pairs : Quantity.several ≤ (joined Quantity.followedBy slots).quantity.most ↔
      (∃ slot ∈ slots, Quantity.several ≤ slot.quantity.most) ∨
        ¬ slots.Pairwise fun left right =>
          ¬ (1 ≤ left.quantity.most ∧ 1 ≤ right.quantity.most) := by
    cases slots with
    | nil => simp [joined, Quantity.several]
    | cons first rest =>
      simp only [joined]
      induction rest generalizing first with
      | nil => simp
      | cons next rest ih =>
        have one : 1 ≤ (first.combine Quantity.followedBy next).quantity.most ↔
            1 ≤ first.quantity.most ∨ 1 ≤ next.quantity.most := by
          simp only [combine, Quantity.followedBy, Quantity.several]
          omega
        have two : Quantity.several ≤ (first.combine Quantity.followedBy next).quantity.most ↔
            Quantity.several ≤ first.quantity.most ∨ Quantity.several ≤ next.quantity.most ∨
              (1 ≤ first.quantity.most ∧ 1 ≤ next.quantity.most) := by
          simp only [combine, Quantity.followedBy, Quantity.several]
          omega
        rw [List.foldl_cons, ih]
        simp only [List.pairwise_cons, List.mem_cons, exists_eq_or_imp, forall_eq_or_imp, one, two]
        grind
  rw [pairs, List.pairwise_iff_forall_sublist]
  simp only [Classical.not_forall, Classical.not_not, exists_prop]

/-- A repetition that holds a node for certain holds one in every round. -/
theorem one_le_least_of_repeated {atLeastOnce : Bool} {slot : Slot}
    (certain : 1 ≤ (slot.repeated atLeastOnce).quantity.least) : 1 ≤ slot.quantity.least := by
  cases atLeastOnce with
  | false => exact absurd certain (by simp [repeated, Quantity.repeated])
  | true => exact certain

/-- A repetition may hold several nodes exactly if a round may hold one. -/
theorem several_le_most_repeated (atLeastOnce : Bool) (slot : Slot) :
    Quantity.several ≤ (slot.repeated atLeastOnce).quantity.most ↔ 1 ≤ slot.quantity.most := by
  simp only [repeated, Quantity.repeated, Quantity.several]
  split <;> omega

/-! ## Balance -/

/-- An empty slot is balanced. -/
theorem balanced_empty : ({} : Slot).Balanced := by simp [Balanced]

/-- The slot of one node is balanced. -/
theorem balanced_single (kind : NodeKind) : (single kind).Balanced :=
  ⟨fun _ => ⟨kind, by simp⟩, fun _ => by simp [single, Quantity.one]⟩

/-- A repetition of a balanced slot is balanced. -/
theorem balanced_repeated {slot : Slot} (atLeastOnce : Bool) (balanced : slot.Balanced) :
    (slot.repeated atLeastOnce).Balanced := by
  rw [Balanced] at balanced ⊢
  rw [show (slot.repeated atLeastOnce).kinds = slot.kinds from rfl, ← balanced]
  simp only [repeated, Quantity.repeated, Quantity.several]
  split <;> omega

/-- Balanced slots together are balanced, if they may hold a node exactly if one of them may. -/
theorem balanced_joined {join : Quantity → Quantity → Quantity} {slots : List Slot}
    (some : 1 ≤ (joined join slots).quantity.most ↔ ∃ slot ∈ slots, 1 ≤ slot.quantity.most)
    (balanced : ∀ slot ∈ slots, slot.Balanced) : (joined join slots).Balanced := by
  rw [Balanced, some]
  constructor
  · rintro ⟨slot, listed, most⟩
    obtain ⟨kind, inside⟩ := (balanced slot listed).mp most
    exact ⟨kind, (mem_kinds_joined ..).mpr ⟨slot, listed, inside⟩⟩
  · rintro ⟨kind, inside⟩
    obtain ⟨slot, listed, inside⟩ := (mem_kinds_joined ..).mp inside
    exact ⟨slot, listed, (balanced slot listed).mpr ⟨kind, inside⟩⟩

/-! ## What is listed -/

/-- A slot is listed exactly if it holds some kind. -/
theorem isSome_occupancy? (slot : Slot) : slot.occupancy?.isSome ↔ ∃ kind, kind ∈ slot.kinds := by
  have empty : slot.kinds.isEmpty ↔ ¬ ∃ kind, kind ∈ slot.kinds := by
    rw [Std.ExtTreeSet.isEmpty_iff, Std.ExtTreeSet.eq_empty_iff_forall_not_mem, not_exists]
  rw [occupancy?]
  by_cases holds : ∃ kind, kind ∈ slot.kinds
  · simp [empty, holds]
  · simp [empty, holds]

/-- What is listed for a slot is what is known of it. -/
theorem eq_of_occupancy? {slot : Slot} {occupancy : Occupancy}
    (listed : slot.occupancy? = some occupancy) :
    (occupancy.multiple ↔ Quantity.several ≤ slot.quantity.most) ∧
      (occupancy.required ↔ 1 ≤ slot.quantity.least) ∧
        ∀ kind, kind ∈ occupancy.kinds ↔ kind ∈ slot.kinds := by
  rw [occupancy?] at listed
  split at listed
  · exact absurd listed (by simp)
  · obtain rfl := Option.some.inj listed
    exact ⟨decide_eq_true_iff, decide_eq_true_iff, fun kind => Std.ExtTreeSet.mem_toList⟩

end Slot

/-! ## Places of a summary -/

namespace Summary

/-- The slot of a place: that of a field, empty if the field is not mentioned, or the children. -/
def slot (summary : Summary) : Option String → Slot
  | some name => summary.fields.getD name {}
  | none => summary.children

@[simp] theorem slot_empty (place : Option String) : ({} : Summary).slot place = {} := by
  cases place with
  | none => rfl
  | some name => exact Std.ExtTreeMap.getD_empty

/-- One node fills the place that it takes and no other. -/
theorem slot_occurrence (field : Option String) (kind : NodeKind) (place : Option String) :
    (occurrence field kind).slot place =
      if (Emission.mk field kind).isIn place then .single kind else {} := by
  cases field with
  | none =>
    cases place with
    | none => by_cases named : kind.named <;> simp [occurrence, slot, Emission.isIn, named]
    | some name => by_cases named : kind.named <;> simp [occurrence, slot, Emission.isIn, named]
  | some label =>
    cases place with
    | none => simp [occurrence, slot, Emission.isIn]
    | some name =>
      simp only [occurrence, slot, Emission.isIn, Std.ExtTreeMap.ofList_singleton,
        Std.ExtTreeMap.getD_insert, Std.LawfulEqOrd.compare_eq_iff_eq]
      simp

/-- Two parts are put together place by place. -/
theorem slot_combine {join : Quantity → Quantity → Quantity} (idle : join {} {} = {})
    (left right : Summary) (place : Option String) :
    (left.combine join right).slot place = (left.slot place).combine join (right.slot place) := by
  cases place with
  | none => rfl
  | some name =>
    have absent : ({} : Slot).combine join {} = {} := by
      rw [Slot.combine, idle]
      rfl
    simp only [slot, combine, Std.ExtTreeMap.getElem?_union, Std.ExtTreeMap.getElem?_map,
      Std.ExtTreeMap.getD_eq_getD_getElem?]
    cases left.fields[name]? with
    | some before => rfl
    | none =>
      cases right.fields[name]? with
      | some after => rfl
      | none => simpa using absent.symm

/-- A part is repeated place by place. -/
theorem slot_repeated (atLeastOnce : Bool) (summary : Summary) (place : Option String) :
    (summary.repeated atLeastOnce).slot place = (summary.slot place).repeated atLeastOnce := by
  cases place with
  | none => rfl
  | some name =>
    have absent : ({} : Slot).repeated atLeastOnce = {} := by cases atLeastOnce <;> rfl
    simp only [slot, repeated, Std.ExtTreeMap.getElem?_map, Std.ExtTreeMap.getD_eq_getD_getElem?]
    cases summary.fields[name]? with
    | some found => rfl
    | none => simpa using absent.symm

/-- The summaries of several parts together. -/
def joined (join : Quantity → Quantity → Quantity) : List Summary → Summary
  | [] => {}
  | first :: rest => rest.foldl (combine join) first

/-- Several parts are put together place by place. -/
theorem slot_joined {join : Quantity → Quantity → Quantity} (idle : join {} {} = {})
    (summaries : List Summary) (place : Option String) :
    (joined join summaries).slot place =
      .joined join (summaries.map fun summary => summary.slot place) := by
  cases summaries with
  | nil => exact slot_empty place
  | cons first rest =>
    simp only [joined, List.map_cons, Slot.joined]
    induction rest generalizing first with
    | nil => rfl
    | cons next rest ih =>
      rw [List.foldl_cons, ih, slot_combine idle]
      rfl

end Summary

/-! ## Summaries of rules -/

namespace Rule

/-- The summary of several rules is that of their summaries together. -/
theorem summarizeMembers_eq_joined (expand : Expansion) (field : Option String)
    (join : Quantity → Quantity → Quantity) (members : List Rule) :
    summarizeMembers expand field join members =
      .joined join (members.map (summarizeWith expand field)) := by
  have rest (before : Summary) (members : List Rule) :
      summarizeRest expand field join before members =
        (members.map (summarizeWith expand field)).foldl (Summary.combine join) before := by
    induction members generalizing before with
    | nil => rfl
    | cons member members ih => exact ih _
  cases members with
  | nil => rfl
  | cons member members => exact rest _ members

/-- The summary of several rules holds in each place what these hold there together. -/
theorem slot_summarizeMembers (expand : Expansion) (field : Option String)
    {join : Quantity → Quantity → Quantity} (idle : join {} {} = {}) (members : List Rule)
    (place : Option String) :
    (summarizeMembers expand field join members).slot place =
      .joined join (members.map fun member => (summarizeWith expand field member).slot place) := by
  rw [summarizeMembers_eq_joined, Summary.slot_joined idle, List.map_map]
  rfl

end Rule

end GrammarAtlas
