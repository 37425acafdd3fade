import GrammarAtlas.Proofs.Json.Record
import GrammarAtlas.Rule.Reader

/-!
# Decoding rule trees

A rule is spelled as a record of its kind and of what else it has (`Rule.SpelledBy`). What a rule
lacks is null or left out; an empty list of members may be left out, but it is never null. Every
spelling is decoded, if it nests no deeper than levels are left (`Rule.decodes`). None of the
spellings of a tree nests deeper than the tree itself does (`Rule.SpelledBy.within`).
-/

namespace GrammarAtlas

open Json

/-- The value of a rule is spelled as a text, or as a whole number of 32 bits. -/
def RuleValue.SpelledBy : RuleValue → List Char → Prop
  | .text words, chars => SpellsText words chars
  | .level number, chars => minLevel ≤ number ∧ number ≤ maxLevel ∧ SpellsWhole number chars

/-- The value of a rule is decoded: its first character tells a text from a number. -/
theorem RuleValue.decodes (depth : Nat) (leave : List Char → List Char) :
    Decodes (RuleValue.read depth leave) RuleValue.SpelledBy where
  opens {value _} spelled := by
    cases value with
    | text words => exact SpellsText.opens spelled
    | level number => exact spelled.2.2.opens
  takes {value _} spelled before rest blank ends := by
    cases value with
    | text words =>
      have taken := SpellsText.takes_loose spelled depth before rest blank ends
      simp only [RuleValue.read, taken]
    | level number =>
      obtain ⟨least, greatest, spelled⟩ := spelled
      have bounds : minLevel = -2147483648 ∧ maxLevel = 2147483647 := ⟨rfl, rfl⟩
      have taken := spelled.takes_loose (by omega) depth before rest blank ends
      simp only [RuleValue.read, taken, if_pos (And.intro least greatest)]

namespace Rule

/-- What the keys of a rule hold, `depth` levels being left for it. -/
def properties (depth : Nat) (content member : Rule → List Char → Prop) (rule : Rule) :
    List Property := [
  ⟨"type", False, SpellsText rule.kind.tag⟩,
  .ofOption "value" RuleValue.SpelledBy rule.value,
  .ofOption "name" SpellsText rule.name,
  .ofOption "content" content rule.content,
  ⟨"members", rule.members = [], SpellsList depth member rule.members⟩,
  .ofOption "named" SpellsFlag rule.named,
  .ofOption "flags" SpellsText rule.flags,
  .ofOption "context_name" SpellsText rule.contextName]

/-- A rule is spelled as a record, where so many levels are left. -/
def SpelledBy : (depth : Nat) → Rule → List Char → Prop
  | 0, _, _ => False
  | 1, rule, chars =>
    SpellsRecord 1 (rule.properties 0 (fun _ _ => False) fun _ _ => False) chars
  | depth + 2, rule, chars =>
    SpellsRecord (depth + 2)
      (rule.properties (depth + 1) (SpelledBy (depth + 1)) (SpelledBy depth)) chars

/-- What the draft of a rule holds once some keys have been found. -/
def draft (rule : Rule) (seen : List String) : Draft where
  kind := noted seen "type" rule.kind
  value := noted seen "value" rule.value
  name := noted seen "name" rule.name
  content := noted seen "content" rule.content
  members := noted seen "members" rule.members
  named := noted seen "named" rule.named
  flags := noted seen "flags" rule.flags
  contextName := noted seen "context_name" rule.contextName

/-- A rule that lacks nothing necessary is made of its draft. -/
theorem build_draft {depth : Nat} {content member : Rule → List Char → Prop} {rule : Rule}
    {seen : List String}
    (complete : ∀ property ∈ rule.properties depth content member,
      property.optional ∨ property.name ∈ seen) : (rule.draft seen).build = .ok rule := by
  simp only [properties, Property.ofOption, List.forall_mem_cons, false_or] at complete
  obtain ⟨kind, value, name, content, members, named, flags, contextName, _⟩ := complete
  have listed : (noted seen "members" rule.members).getD [] = rule.members := by
    by_cases found : "members" ∈ seen
    · rw [noted, if_pos found, Option.getD_some]
    · rw [noted_of_not_mem found, Option.getD_none, members.resolve_right found]
  have tagged : noted seen "type" rule.kind = some rule.kind := if_pos kind
  simp only [draft, Draft.build, tagged, listed, join_noted value, join_noted name,
    join_noted content, join_noted named, join_noted flags, join_noted contextName]
  cases rule
  rfl

/-- The field of the value serves its property, wherever a failure would lie. -/
theorem serves_value (depth : Nat) (rule : Rule) :
    Serves (fun seen draft => draft = rule.draft seen)
      { name := "value"
        isSet := fun draft => draft.value.isSome
        read := fun leave draft rest =>
          (orNull (RuleValue.read depth leave) rest).map fun read =>
            ({ draft with value := some read.1 }, read.2) }
      (.ofOption "value" RuleValue.SpelledBy rule.value) where
  named := rfl
  unset := by
    rintro seen _ rfl absent
    have unset : noted seen "value" rule.value = none := noted_of_not_mem absent _
    simp [draft, unset]
  reads := by
    rintro seen _ chars rfl spelled
    refine ⟨{ rule.draft seen with value := some rule.value }, ?_, ?_⟩
    · exact ((RuleValue.decodes depth leaveObject).orNull spelled).map fun value =>
        { rule.draft seen with value := some value }
    · simp [draft, noted, Property.ofOption]

/-- The layout of rules describes a rule by its properties. -/
theorem describes {depth : Nat} {content member : Reader Rule}
    {spells spells' : Rule → List Char → Prop} (decodes : Decodes content spells)
    (decodes' : Decodes member spells') (rule : Rule) :
    Describes (rule.properties depth spells spells') (layout depth content member) rule
      fun seen draft => draft = rule.draft seen where
  starts := rfl
  fields := by
    refine .cons (serves_of rfl ?_ fun spelled =>
        ⟨rule.kind, takes_tag (RuleKind.ofTag?_tag _) spelled, ?_⟩) <|
      .cons (serves_value depth rule) <|
      .cons (serves_ofOption decodes_text ?_ ?_) <|
      .cons (serves_ofOption decodes ?_ ?_) <|
      .cons (serves_of rfl ?_ fun spelled => ⟨rule.members, decodes'.list.takes spelled, ?_⟩) <|
      .cons (serves_ofOption decodes_flag ?_ ?_) <|
      .cons (serves_ofOption decodes_text ?_ ?_) <|
      .cons (serves_ofOption decodes_text ?_ ?_) .nil
    -- A field is unset until its key has been found, and holds what it ought to from then on.
    all_goals
      rintro seen _ rfl
      simp +contextual [draft, noted]
  ignores := by
    rintro seen _ key rfl foreign
    simp only [properties, Property.ofOption, List.map_cons, List.map_nil, List.mem_cons,
      List.not_mem_nil, or_false, not_or, eq_comm (a := key)] at foreign
    obtain ⟨kind, value, name, content, members, named, flags, contextName⟩ := foreign
    simp only [draft, noted_cons_of_ne kind, noted_cons_of_ne value, noted_cons_of_ne name,
      noted_cons_of_ne content, noted_cons_of_ne members, noted_cons_of_ne named,
      noted_cons_of_ne flags, noted_cons_of_ne contextName]
  builds := by
    rintro seen _ rfl complete
    exact build_draft complete

/-- Rules are decoded as deep as they are spelled. -/
theorem decodes : (depth : Nat) → Decodes (read depth) (SpelledBy depth)
  | 0 => ⟨False.elim, False.elim⟩
  | 1 =>
    have none : Decodes readTooDeep fun _ _ => False := ⟨False.elim, False.elim⟩
    ⟨SpellsRecord.opens, (describes none none _).takes⟩
  | depth + 2 =>
    ⟨SpellsRecord.opens, (describes (decodes (depth + 1)) (decodes depth) _).takes⟩

/-! ## Nesting -/

/-- Whether a rule fits into so many levels however it is spelled: the rule itself takes one, and
the list of its members another, even if it is empty. -/
def nestsWithin : (depth : Nat) → Rule → Bool
  | 0, _ => false
  | 1, _ => false
  | depth + 2, rule =>
    rule.content.all (nestsWithin (depth + 1)) && rule.members.all (nestsWithin depth)

/-- A rule is spelled as a record whose content is one level deeper and whose members are two. -/
theorem spelledBy_succ (depth : Nat) (rule : Rule) (chars : List Char) :
    rule.SpelledBy (depth + 1) chars = SpellsRecord (depth + 1)
      (rule.properties depth (SpelledBy depth) (SpelledBy (depth - 1))) chars := by
  cases depth with
  | zero => rfl
  | succ depth => rfl

/-- However deep a rule is spelled, it is spelled within the levels that it fits into. -/
theorem SpelledBy.within {depth depth' : Nat} {rule : Rule} {chars : List Char}
    (spelled : rule.SpelledBy depth chars) (nests : rule.nestsWithin depth') :
    rule.SpelledBy depth' chars := by
  -- On the levels that are left: the content and the members have fewer of them.
  induction depth using Nat.strongRecOn generalizing rule chars depth' with
  | _ depth ih =>
    cases depth with
    | zero => exact spelled.elim
    | succ depth =>
      match depth', nests with
      | depth' + 2, nests =>
        rw [nestsWithin, Bool.and_eq_true, Option.all_eq_true, List.all_eq_true] at nests
        rw [spelledBy_succ] at spelled ⊢
        refine spelled.imp (Nat.zero_lt_succ _) ?_
        refine .cons (.refl _) <| .cons (.refl _) <| .cons (.refl _) <|
          .cons (.ofOption _ ?_) <| .cons ⟨rfl, id, fun _ => SpellsList.imp ?_ ?_⟩ <|
          .cons (.refl _) <| .cons (.refl _) <| .cons (.refl _) .nil
        · exact fun content held chars spelled =>
            ih depth (by omega) spelled (nests.1 content held)
        · exact Nat.zero_lt_succ _
        · exact fun member listed chars spelled =>
            ih (depth - 1) (by omega) spelled (nests.2 member listed)

end Rule

end GrammarAtlas
