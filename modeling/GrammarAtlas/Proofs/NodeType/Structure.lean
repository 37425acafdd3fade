import GrammarAtlas.Proofs.Derivation.Return
import GrammarAtlas.Proofs.Grammar.Consistency
import GrammarAtlas.Proofs.NodeType.Listing

/-!
# What entries say of derivations

The entry of a rule with a structure of its own tells which kinds of node the derivations of its
body put into each place, whether there is always one and whether there may be several.

Rules that are replaced may refer to themselves, and a summary does not go round such loops. That a
place is required is right all the same (`Language.one_le_count_of_required`), and so are the kinds
outside all fields. The kinds in a field (`Language.lists_iff_simple`) and whether there may be
several nodes (`Language.multiple_iff_fork`) are told from simple trails only. That is enough for
several nodes where no rule comes back on the way to them. Without loops everything is exact
(`Language.exact_of_nonRecursive`).
-/

namespace GrammarAtlas

/-- The entry lists the kind for a place. -/
def NodeType.Lists (entry : NodeType) (place : Option String) (kind : NodeKind) : Prop :=
  ∃ occupancy, entry.occupancy? place = some occupancy ∧ kind ∈ occupancy.kinds

/-- A node outside all fields is reached along a simple trail. -/
theorem Leads.simple_of_outside {referent : String → Referent} {rule : Rule} {trail : Trail}
    {emission : Emission} (leads : Leads referent none rule trail emission)
    (outer : emission.field = none) :
    ∃ trail', Leads referent none rule trail' emission ∧ Trail.Simple [] trail' := by
  obtain ⟨last, way, node⟩ := leads
  obtain ⟨trail', way', simple⟩ := way.simplify (way.steady outer)
  exact ⟨trail', ⟨last, way', node⟩, simple⟩

/-- An entry that lists a slot lists exactly the kinds to which simple trails lead. -/
theorem NodeType.lists_iff {grammar : Grammar} {table : SymbolTable} {entry : NodeType}
    {place : Option String} {body : Rule}
    (listed : entry.occupancy? place = (body.slotOf grammar table none place).occupancy?)
    (kind : NodeKind) :
    entry.Lists place kind ↔
      ∃ trail emission, Leads (Referent.of grammar table) none body trail emission ∧
        Trail.Simple [] trail ∧ emission.isIn place ∧ emission.node = kind := by
  rw [← mem_kinds_slotIn_iff Rule.Room.initial, Lists, listed]
  constructor
  · rintro ⟨occupancy, known, among⟩
    exact ((Slot.eq_of_occupancy? known).2.2 kind).mp among
  · intro among
    obtain ⟨occupancy, known⟩ := Option.isSome_iff_exists.mp
      ((Slot.isSome_occupancy? _).mpr ⟨kind, among⟩)
    exact ⟨occupancy, known, ((Slot.eq_of_occupancy? known).2.2 kind).mpr among⟩

namespace Language

variable {language : Language} {grammar : Grammar} {displayName name : String} {body : Rule}

/-! ## Required places -/

/-- If a place is required, every derivation puts a node there. -/
theorem one_le_count_of_required (loaded : ofGrammar displayName grammar = .ok language)
    (composite : grammar.Composite name body) :
    ∃ entry, language.nodeType? ⟨name, true⟩ = some entry ∧
      ∀ place occupancy, entry.occupancy? place = some occupancy → occupancy.required →
        ∀ word, Derives grammar.referent none body word → 1 ≤ Emission.count place word := by
  obtain ⟨_, ⟨start, describes⟩, _⟩ := of_loaded loaded
  obtain ⟨entry, found, slots⟩ := slots_of_composite loaded composite
  refine ⟨entry, found, fun place occupancy listed required word derived => ?_⟩
  rw [slots] at listed
  have certain := (Slot.eq_of_occupancy? listed).2.1.mp required
  rw [← describes.referent] at derived
  exact derived.one_le_count Rule.Room.initial certain

/-- A hidden rule that refers to itself: one item, or an item and further ones. -/
def itemList : Grammar :=
  Grammar.empty "items"
    |>.withRule "source_file" (.symbol "_list")
    |>.withRule "_list" (.choice [.symbol "item", .seq [.symbol "item", .symbol "_list"]])
    |>.withRule "item" (.text "x")

/-- The entry rule is a list. -/
theorem composite_itemList : itemList.Composite "source_file" (.symbol "_list") where
  rule := by decide +kernel
  assembled := by decide +kernel
  kept := by decide +kernel
  visible := by decide +kernel
  plain := by decide +kernel

/-- What is listed for the children of a list. -/
theorem occupancy?_itemList : occupancy? "Items" itemList ⟨"source_file", true⟩ none =
    some { multiple := false, required := true, kinds := [⟨"item", true⟩] } := by
  decide +kernel

/-- All lists have an item, and an item is required. -/
theorem one_le_count_itemList :
    ∃ language entry occupancy, ofGrammar "Items" itemList = .ok language ∧
      language.nodeType? ⟨"source_file", true⟩ = some entry ∧
      entry.occupancy? none = some occupancy ∧ occupancy.required ∧
      ∀ word, Derives itemList.referent none (.symbol "_list") word →
        1 ≤ Emission.count none word := by
  obtain ⟨language, entry, loaded, found, listed⟩ := exists_of_occupancy? occupancy?_itemList
  obtain ⟨entry', found', sound⟩ := one_le_count_of_required loaded composite_itemList
  obtain rfl : entry = entry' := Option.some.inj (found.symm.trans found')
  exact ⟨language, entry, _, loaded, found, listed, rfl, sound none _ listed rfl⟩

/-! ## Kinds -/

/-- A kind is listed for a place exactly if a node of that kind is reached along a simple trail.
Outside all fields these are the kinds of all nodes. -/
theorem lists_iff_simple (loaded : ofGrammar displayName grammar = .ok language)
    (composite : grammar.Composite name body) :
    ∃ entry, language.nodeType? ⟨name, true⟩ = some entry ∧
      (∀ word, Derives grammar.referent none body word → ∀ emission ∈ word,
        emission.isIn none → entry.Lists none emission.node) ∧
      ∀ field word, Derives grammar.referent none body word → ∀ emission ∈ word,
        emission.field = some field →
          (entry.Lists (some field) emission.node ↔
            ∃ trail, Leads grammar.referent none body trail emission ∧ Trail.Simple [] trail) := by
  obtain ⟨_, ⟨start, describes⟩, _⟩ := of_loaded loaded
  obtain ⟨entry, found, slots⟩ := slots_of_composite loaded composite
  rw [← describes.referent]
  have lists (place : Option String) := NodeType.lists_iff (slots place)
  refine ⟨entry, found, ?_, ?_⟩
  · intro word derived emission among isIn
    obtain ⟨trail, leads⟩ := derived.leads emission among
    obtain ⟨trail', leads', simple⟩ := leads.simple_of_outside (Emission.field_eq_of_isIn isIn)
    exact (lists none emission.node).mpr ⟨trail', emission, leads', simple, isIn, rfl⟩
  · rintro field word derived ⟨_, kind⟩ among rfl
    rw [lists]
    constructor
    · rintro ⟨trail, ⟨around, _⟩, leads, simple, isIn, rfl⟩
      obtain rfl : around = some field := Emission.field_eq_of_isIn isIn
      exact ⟨trail, leads, simple⟩
    · rintro ⟨trail, leads, simple⟩
      exact ⟨trail, ⟨some field, kind⟩, leads, simple, by simp [Emission.isIn], rfl⟩

/-- A hidden rule that refers to itself inside a field. -/
def nestedItem : Grammar :=
  Grammar.empty "nested"
    |>.withRule "source_file" (.symbol "_nested")
    |>.withRule "_nested" (.choice [.symbol "item", .field "inner" (.symbol "_nested")])
    |>.withRule "item" (.text "x")

/-- The entry rule is a nested item. -/
theorem composite_nestedItem : nestedItem.Composite "source_file" (.symbol "_nested") where
  rule := by decide +kernel
  assembled := by decide +kernel
  kept := by decide +kernel
  visible := by decide +kernel
  plain := by decide +kernel

/-- What is listed for the children of a nested item, and that nothing is for the field. -/
theorem occupancy?_nestedItem :
    occupancy? "Nested" nestedItem ⟨"source_file", true⟩ none =
        some { multiple := false, required := false, kinds := [⟨"item", true⟩] } ∧
      occupancy? "Nested" nestedItem ⟨"source_file", true⟩ (some "inner") = none := by
  decide +kernel

/-- An item in the field is derived. -/
theorem derives_nestedItem :
    Derives nestedItem.referent none (.symbol "_nested") [⟨some "inner", ⟨"item", true⟩⟩] := by
  have nested : nestedItem.referent "_nested" =
      .body (.choice [.symbol "item", .field "inner" (.symbol "_nested")]) := by decide +kernel
  have item : nestedItem.referent "item" = .node ⟨"item", true⟩ := by decide +kernel
  refine .expansion nested (.choice rfl (List.mem_cons_of_mem _ List.mem_cons_self) ?_)
  exact .labelled rfl (.expansion nested (.choice rfl List.mem_cons_self (.reference item)))

/-- An item in the field is listed exactly if a simple trail leads to it. -/
theorem lists_nestedItem_iff :
    ∃ language entry, ofGrammar "Nested" nestedItem = .ok language ∧
      language.nodeType? ⟨"source_file", true⟩ = some entry ∧
      (entry.Lists (some "inner") ⟨"item", true⟩ ↔
        ∃ trail, Leads nestedItem.referent none (.symbol "_nested") trail
          ⟨some "inner", ⟨"item", true⟩⟩ ∧ Trail.Simple [] trail) := by
  obtain ⟨language, _, loaded, _⟩ := exists_of_occupancy? occupancy?_nestedItem.1
  obtain ⟨entry, found, _, simple⟩ := lists_iff_simple loaded composite_nestedItem
  exact ⟨language, entry, loaded, found,
    simple "inner" _ derives_nestedItem _ List.mem_cons_self rfl⟩

/-- The field is not listed although items stand in it. -/
theorem not_lists_nestedItem :
    ∃ language entry word, ofGrammar "Nested" nestedItem = .ok language ∧
      nestedItem.Composite "source_file" (.symbol "_nested") ∧
      language.nodeType? ⟨"source_file", true⟩ = some entry ∧
      Derives nestedItem.referent none (.symbol "_nested") word ∧
      ⟨some "inner", ⟨"item", true⟩⟩ ∈ word ∧ ¬ entry.Lists (some "inner") ⟨"item", true⟩ := by
  obtain ⟨shown, absent⟩ := occupancy?_nestedItem
  obtain ⟨language, entry, loaded, found, _⟩ := exists_of_occupancy? shown
  refine ⟨language, entry, _, loaded, composite_nestedItem, found, derives_nestedItem,
    List.mem_cons_self, ?_⟩
  rintro ⟨occupancy, listed, _⟩
  rw [occupancy?, loaded] at absent
  simp [Except.toOption, found, listed] at absent

/-! ## Several nodes -/

/-- A place is multiple exactly if a fork along simple trails leads there, and these are all forks
unless a rule comes back. So a place that is not multiple gets at most one node from every
derivation if no rule comes back. If one does, a derivation puts several nodes there, provided that
the rules that are put in place of references have derivations. -/
theorem multiple_iff_fork (loaded : ofGrammar displayName grammar = .ok language)
    (composite : grammar.Composite name body) :
    ∃ entry, language.nodeType? ⟨name, true⟩ = some entry ∧
      ∀ place occupancy, entry.occupancy? place = some occupancy →
        (occupancy.multiple ↔
          ForkIn grammar.referent (Trail.Simple []) place none body) ∧
        (ForkIn grammar.referent (fun _ => True) place none body ↔
          occupancy.multiple ∨ ComesBack grammar.referent place none body) ∧
        (occupancy.multiple = false → ¬ ComesBack grammar.referent place none body →
          ∀ word, Derives grammar.referent none body word → Emission.count place word ≤ 1) ∧
        (Productive grammar.referent → ComesBack grammar.referent place none body →
          ∃ word, Derives grammar.referent none body word ∧ 2 ≤ Emission.count place word) := by
  obtain ⟨consistent, ⟨start, describes⟩, _⟩ := of_loaded loaded
  obtain ⟨entry, found, slots⟩ := slots_of_composite loaded composite
  refine ⟨entry, found, fun place occupancy listed => ?_⟩
  rw [slots] at listed
  have simple : occupancy.multiple ↔
      ForkIn grammar.referent (Trail.Simple []) place none body := by
    rw [(Slot.eq_of_occupancy? listed).1, ← describes.referent]
    exact several_le_most_slotIn_iff Rule.Room.initial
  have fork : ForkIn grammar.referent (fun _ => True) place none body ↔
      occupancy.multiple ∨ ComesBack grammar.referent place none body := by
    rw [simple, forkIn_iff_simple_or_comesBack]
  refine ⟨simple, fork, fun single straight word derived => ?_, fun productive back => ?_⟩
  · by_contra several
    rcases fork.mp (derived.fork (by omega)) with multiple | back
    · rw [single] at multiple
      exact absurd multiple (by simp)
    · exact straight back
  · have inside : grammar.Holds body := ⟨name, body, composite.rule, body.mem_walk_self⟩
    exact back.fork.complete ((inside.filled none consistent).completable productive)

/-- Items are nodes. The body of a list takes the place of references to lists, and no other body
takes the place of references. -/
theorem referent_itemList :
    itemList.referent "item" = .node ⟨"item", true⟩ ∧
      itemList.referent "_list" =
        .body (.choice [.symbol "item", .seq [.symbol "item", .symbol "_list"]]) ∧
      ∀ entry ∈ itemList.rules.toList, (itemList.referent entry.1).isBody →
        entry.1 = "_list" := by
  decide +kernel

/-- A list comes back in itself, beside an item. -/
theorem comesBack_itemList : ComesBack itemList.referent none none (.symbol "_list") := by
  obtain ⟨item, list, _⟩ := referent_itemList
  have shape : (Rule.symbol "_list").shape itemList.referent =
      .replaced "_list" (.choice [.symbol "item", .seq [.symbol "item", .symbol "_list"]]) := by
    rw [Rule.shape_symbol, list]
    rfl
  have node : (Rule.symbol "item").shape itemList.referent = .node ⟨"item", true⟩ := by
    rw [Rule.shape_symbol, item]
    rfl
  have round : (Rule.seq [.symbol "item", .symbol "_list"]).Pairs itemList.referent
      (.symbol "_list") (.symbol "item") := .apart rfl (.inr (List.Sublist.refl _))
  have further : Descends itemList.referent none
      (.choice [.symbol "item", .seq [.symbol "item", .symbol "_list"]]) [] none
      (.seq [.symbol "item", .symbol "_list"]) :=
    .into rfl (List.mem_cons_of_mem _ List.mem_cons_self)
  exact .beside .here shape further round .here shape
    ⟨⟨none, ⟨"item", true⟩⟩, ⟨_, .here, node⟩, rfl⟩

/-- There is a list of one item, and no other body takes the place of references. -/
theorem productive_itemList : Productive itemList.referent := by
  obtain ⟨item, list, replaced⟩ := referent_itemList
  intro name body stands
  have rule := Grammar.rule_of_referent stands
  obtain rfl : name = "_list" := replaced (name, body)
    (Std.ExtTreeMap.mem_toList_iff_getElem?_eq_some.mpr rule) (by rw [stands]; rfl)
  obtain rfl := Referent.body.inj (list.symm.trans stands)
  exact ⟨none, _, .choice rfl List.mem_cons_self (.reference item)⟩

/-- The children of a list are not multiple, for a list does not fork along simple trails. It comes
back in itself, though, so it forks along others, and a derivation puts several items there. -/
theorem fork_itemList :
    ∃ language entry occupancy, ofGrammar "Items" itemList = .ok language ∧
      language.nodeType? ⟨"source_file", true⟩ = some entry ∧
      entry.occupancy? none = some occupancy ∧
      ¬ ForkIn itemList.referent (Trail.Simple []) none none (.symbol "_list") ∧
      ForkIn itemList.referent (fun _ => True) none none (.symbol "_list") ∧
      ∃ word, Derives itemList.referent none (.symbol "_list") word ∧
        2 ≤ Emission.count none word := by
  obtain ⟨language, entry, loaded, found, listed⟩ := exists_of_occupancy? occupancy?_itemList
  obtain ⟨entry', found', told⟩ := multiple_iff_fork loaded composite_itemList
  obtain rfl : entry = entry' := Option.some.inj (found.symm.trans found')
  obtain ⟨simple, fork, _, several⟩ := told none _ listed
  refine ⟨language, entry, _, loaded, found, listed, ?_, fork.mpr (.inr comesBack_itemList),
    several productive_itemList comesBack_itemList⟩
  rw [← simple]
  simp

/-- There may be only one child although there are lists of two items. -/
theorem several_of_not_multiple_itemList :
    ∃ language entry occupancy word, ofGrammar "Items" itemList = .ok language ∧
      itemList.Composite "source_file" (.symbol "_list") ∧
      language.nodeType? ⟨"source_file", true⟩ = some entry ∧
      entry.occupancy? none = some occupancy ∧ occupancy.multiple = false ∧
      Derives itemList.referent none (.symbol "_list") word ∧
      Emission.count none word = 2 := by
  obtain ⟨item, list, _⟩ := referent_itemList
  have one : Derives itemList.referent none (.symbol "_list") [⟨none, ⟨"item", true⟩⟩] :=
    .expansion list (.choice rfl List.mem_cons_self (.reference item))
  have two : Derives itemList.referent none (.symbol "_list")
      ([⟨none, ⟨"item", true⟩⟩] ++ ([⟨none, ⟨"item", true⟩⟩] ++ [])) :=
    .expansion list (.choice rfl (List.mem_cons_of_mem _ List.mem_cons_self)
      (.sequence rfl (.cons (.reference item) (.cons one .nil))))
  obtain ⟨language, entry, loaded, found, listed⟩ := exists_of_occupancy? occupancy?_itemList
  exact ⟨language, entry, _, _, loaded, composite_itemList, found, listed, rfl, two, by decide⟩

/-! ## Without recursion -/

/-- Without recursion the entry tells exactly what derivations do. -/
theorem exact_of_nonRecursive (loaded : ofGrammar displayName grammar = .ok language)
    (composite : grammar.Composite name body)
    (nonRecursive : body.NonRecursive grammar.referent) :
    ∃ entry, language.nodeType? ⟨name, true⟩ = some entry ∧ ∀ place,
      ((entry.occupancy? place).isSome ↔
        ∃ word, Derives grammar.referent none body word ∧ 1 ≤ Emission.count place word) ∧
      ∀ occupancy, entry.occupancy? place = some occupancy →
        (∀ kind, kind ∈ occupancy.kinds ↔
          ∃ word, Derives grammar.referent none body word ∧
            ∃ emission ∈ word, emission.isIn place ∧ emission.node = kind) ∧
        (occupancy.multiple ↔
          ∃ word, Derives grammar.referent none body word ∧ 2 ≤ Emission.count place word) ∧
        (occupancy.required ↔
          ∀ word, Derives grammar.referent none body word → 1 ≤ Emission.count place word) := by
  obtain ⟨consistent, ⟨start, describes⟩, _⟩ := of_loaded loaded
  obtain ⟨entry, found, slots⟩ := slots_of_composite loaded composite
  have inside : grammar.Holds body := ⟨name, body, composite.rule, body.mem_walk_self⟩
  have filled := inside.filled none consistent
  rw [← describes.referent] at filled nonRecursive ⊢
  refine ⟨entry, found, fun place => ?_⟩
  have kinds := mem_kinds_slotOf_iff place nonRecursive filled
  rw [slots]
  refine ⟨?_, fun occupancy listed => ?_⟩
  · rw [Slot.isSome_occupancy?]
    simp only [kinds, Emission.one_le_count_iff]
    constructor
    · rintro ⟨_, word, derived, emission, among, isIn, _⟩
      exact ⟨word, derived, emission, among, isIn⟩
    · rintro ⟨word, derived, emission, among, isIn⟩
      exact ⟨emission.node, word, derived, emission, among, isIn, rfl⟩
  · obtain ⟨multiple, required, listedKinds⟩ := Slot.eq_of_occupancy? listed
    rw [multiple, required]
    refine ⟨fun kind => (listedKinds kind).trans (kinds kind), ?_, ?_⟩
    · exact several_le_most_slotOf_iff nonRecursive filled
    · exact one_le_least_slotOf_iff nonRecursive filled

/-- Two hidden pairs of an item in a field and an item outside, the second pair being optional. -/
def itemPairs : Grammar :=
  Grammar.empty "pairs"
    |>.withRule "source_file" (.seq [.symbol "_pair", .optional (.symbol "_pair")])
    |>.withRule "_pair" (.seq [.field "key" (.symbol "item"), .symbol "item"])
    |>.withRule "item" (.text "x")

/-- The entry rule is one pair or two. -/
theorem composite_itemPairs : itemPairs.Composite "source_file"
    (.seq [.symbol "_pair", .optional (.symbol "_pair")]) where
  rule := by decide +kernel
  assembled := by decide +kernel
  kept := by decide +kernel
  visible := by decide +kernel
  plain := by decide +kernel

/-- Pairs do not recur, so the entry tells that there may be two keys and that there is one. -/
theorem exact_itemPairs :
    ∃ language entry, ofGrammar "Pairs" itemPairs = .ok language ∧
      language.nodeType? ⟨"source_file", true⟩ = some entry ∧
      (∃ word, Derives itemPairs.referent none
        (.seq [.symbol "_pair", .optional (.symbol "_pair")]) word ∧
          2 ≤ Emission.count (some "key") word) ∧
      ∀ word, Derives itemPairs.referent none
        (.seq [.symbol "_pair", .optional (.symbol "_pair")]) word →
          1 ≤ Emission.count (some "key") word := by
  have shown : occupancy? "Pairs" itemPairs ⟨"source_file", true⟩ (some "key") =
      some { multiple := true, required := true, kinds := [⟨"item", true⟩] } := by
    decide +kernel
  have falls : ∀ entry ∈ itemPairs.rules.toList, ∀ name ∈ entry.2.references,
      (itemPairs.referent name).isBody → (if name = "source_file" then 1 else 0) <
        (if entry.1 = "source_file" then 1 else 0) := by
    decide +kernel
  obtain ⟨language, entry, loaded, found, listed⟩ := exists_of_occupancy? shown
  obtain ⟨entry', found', told⟩ :=
    exact_of_nonRecursive loaded composite_itemPairs (Grammar.nonRecursive_of_rank falls _)
  obtain rfl : entry = entry' := Option.some.inj (found.symm.trans found')
  obtain ⟨_, multiple, required⟩ := (told (some "key")).2 _ listed
  exact ⟨language, entry, loaded, found, multiple.mp rfl, required.mp rfl⟩

end Language

end GrammarAtlas
