import GrammarAtlas.Proofs.Language.Alike
import GrammarAtlas.Proofs.NodeType.Listing
import GrammarAtlas.Proofs.Rule.Flattening
import GrammarAtlas.Proofs.Symbol.Supertype

/-!
# Languages of flattened grammars

A grammar that loads does so when choices in choices and sequences in sequences are dissolved, and
the language has the same symbols and fields and the same node types, but for the subtypes. These
may only become more: the members of a choice in the choice that a supertype stands for are missed
before (`Language.flattened_agrees_iff`).
-/

namespace GrammarAtlas

/-! ## Node types without their subtypes -/

/-- The table without any subtypes. -/
def SymbolTable.withoutSubtypes (table : SymbolTable) : SymbolTable :=
  { table with subtypeIds := ∅ }

namespace NodeType

/-- The node type without the subtypes of a supertype. -/
def withoutSubtypes (entry : NodeType) : NodeType :=
  { entry with subtypes := entry.subtypes.map fun _ => [] }

variable {grammar : Grammar} {table : SymbolTable}

/-- A symbol has the same node type without subtypes. -/
theorem ofSymbol?_withoutSubtypes (extras : NameSet) (id : Nat) (symbol : Symbol) :
    ofSymbol? grammar table.withoutSubtypes extras id symbol =
      (ofSymbol? grammar table extras id symbol).map withoutSubtypes := by
  have referents : Referent.of grammar table.withoutSubtypes = Referent.of grammar table := rfl
  have summary := Rule.summary_congr referents rfl
  rw [ofSymbol?, ofSymbol?]
  cases symbol.kind
  case nonTerminal =>
    dsimp only
    split
    · simp [subtypeKinds, SymbolTable.subtypes, SymbolTable.withoutSubtypes, withoutSubtypes]
    · split
      · simp only [summary, Option.map_map]
        rfl
      · rfl
  case aliased =>
    have bodies : grammar.aliasedBody? table.withoutSubtypes symbol.node =
        grammar.aliasedBody? table symbol.node := rfl
    simp only [bodies, summary]
    cases grammar.aliasedBody? table symbol.node <;> rfl
  case terminal | external =>
    dsimp only
    split <;> rfl
  all_goals rfl

/-- Without their subtypes, the first entries of each kind are the first of those without. -/
theorem firstByKind_map (entries : List NodeType) :
    firstByKind (entries.map withoutSubtypes) =
      (firstByKind entries).map fun _ => withoutSubtypes := by
  refine Std.ExtTreeMap.ext_getElem? fun kind => ?_
  rw [Std.ExtTreeMap.getElem?_map, getElem?_firstByKind, getElem?_firstByKind, List.find?_map]
  rfl

/-- Without their subtypes, the node types are those that go with a table without subtypes. -/
theorem map_withoutSubtypes_listing (grammar : Grammar) (table : SymbolTable) :
    (listing grammar table).map withoutSubtypes = listing grammar table.withoutSubtypes := by
  have made : candidates grammar table.withoutSubtypes =
      (candidates grammar table).map withoutSubtypes := by
    simp only [candidates, ofSymbol?_withoutSubtypes, List.map_filterMap]
    rfl
  have supertype (entry : NodeType) : entry.withoutSubtypes.isSupertype = entry.isSupertype := by
    simp [isSupertype, withoutSubtypes]
  rw [listing, listing, made, firstByKind_map, Std.ExtTreeMap.toList_map, List.map_map]
  simp only [grouped, List.map_append, List.filter_map, List.map_map, Function.comp_def, supertype]
  rfl

end NodeType

/-! ## Subtypes of flattened bodies -/

namespace Numbering

variable {body body' : Rule}

/-- The subtypes that a body gives are what is looked up for its alternatives. -/
theorem mem_subtypesOf {addressing : Addressing} {numbering : Numbering} {id : Nat} :
    id ∈ numbering.subtypesOf addressing body ↔
      id ∈ body.alternatives.filterMap (numbering.alternativeId? addressing) := by
  rw [subtypesOf, Std.ExtTreeSet.mem_toList, Std.ExtTreeSet.mem_ofList, List.contains_iff_mem]

/-- Bodies that give the same subtypes list them in the same order. -/
theorem subtypesOf_eq {addressing : Addressing} {numbering : Numbering}
    (same : ∀ id, id ∈ numbering.subtypesOf addressing body ↔
      id ∈ numbering.subtypesOf addressing body') :
    numbering.subtypesOf addressing body = numbering.subtypesOf addressing body' := by
  simp only [mem_subtypesOf] at same
  have sets : (.ofList (body.alternatives.filterMap (numbering.alternativeId? addressing)) :
      Std.ExtTreeSet Nat) =
      .ofList (body'.alternatives.filterMap (numbering.alternativeId? addressing)) := by
    refine Std.ExtTreeSet.ext_mem fun id => ?_
    rw [Std.ExtTreeSet.mem_ofList, Std.ExtTreeSet.mem_ofList, List.contains_iff_mem,
      List.contains_iff_mem, same]
  rw [subtypesOf, subtypesOf, sets]

/-- No subtype is lost when groups in groups are dissolved. -/
theorem subtypesOf_subset (flattens : Rule.Flattens body body') (addressing : Addressing)
    (numbering : Numbering) :
    numbering.subtypesOf addressing body ⊆ numbering.subtypesOf addressing body' := by
  have passed (node : Rule) (grouping : node.kind.isGroup) :
      numbering.alternativeId? addressing node = none := by
    rw [alternativeId?]
    rcases Rule.eq_of_isGroup grouping with kind | kind
    · rw [kind]
    · rw [kind]
  intro id listed
  rw [mem_subtypesOf] at listed ⊢
  exact (flattens.sublist_alternatives (fun _ => rfl) passed).subset listed

end Numbering

namespace SymbolTable

variable {table : SymbolTable} {grammar : Grammar} {rules : ByName Rule}

/-- No subtype of a supertype is lost when groups in groups are dissolved. -/
theorem subtypes_subset (built : build grammar = .ok table)
    (built' : build (grammar.withBodies rules) =
      .ok (table.withSubtypesOf (grammar.withBodies rules)))
    (flattens : ByName.Related Rule.Flattens grammar.rules rules) (id : Nat) :
    table.subtypes id ⊆ (table.withSubtypesOf (grammar.withBodies rules)).subtypes id := by
  intro subtype listed
  rw [subtypes] at listed
  cases held : table.subtypeIds[id]? with
  | none =>
    rw [held] at listed
    cases listed
  | some ids =>
    obtain ⟨name, declared, body, number, rule, rfl⟩ := mem_of_getElem?_subtypeIds built held
    obtain ⟨body', rule', flattened⟩ := flattens.exists_related rule
    rw [held, Option.getD_some] at listed
    rw [subtypes_eq built' declared number rule']
    exact Numbering.subtypesOf_subset flattened .sixteenBit table.numbering listed

/-- Whatever an alternative of a supertype stands for in the one body, some alternative of it stands
for in the other. -/
def Covers (table : SymbolTable) (body body' : Rule) : Prop :=
  ∀ alternative ∈ body'.alternatives, ∀ id, table.Denotes alternative id →
    ∃ before ∈ body.alternatives, table.Denotes before id

/-- The table is the same exactly if every declared body covers the one where groups in groups are
dissolved. -/
theorem withSubtypesOf_eq_iff (built : build grammar = .ok table)
    (built' : build (grammar.withBodies rules) =
      .ok (table.withSubtypesOf (grammar.withBodies rules)))
    (flattens : ByName.Related Rule.Flattens grammar.rules rules) :
    table.withSubtypesOf (grammar.withBodies rules) = table ↔
      ∀ name ∈ grammar.supertypeNames, (table.ruleSymbol? name).isSome →
        ∀ body body', grammar.rules[name]? = some body → rules[name]? = some body' →
          table.Covers body body' := by
  obtain ⟨start, describes⟩ := describes_of_build built
  have listed (body : Rule) (id : Nat) : id ∈ table.numbering.subtypesOf .sixteenBit body ↔
      ∃ alternative ∈ body.alternatives, table.Denotes alternative id :=
    (describes.listsSubtypes body).denoted id
  constructor
  · intro same name declared numbered body body' rule rule' alternative among id denotes
    obtain ⟨number, known⟩ := Option.isSome_iff_exists.mp numbered
    have before := subtypes_eq built declared known rule
    have after := subtypes_eq built' declared known rule'
    rw [same, before] at after
    rw [← listed, after]
    exact (listed body' id).mpr ⟨alternative, among, denotes⟩
  · intro covers
    have entries : grammar.supertypeNames.filterMap
        (table.numbering.subtypeEntry .sixteenBit (grammar.withBodies rules)) =
        grammar.supertypeNames.filterMap (table.numbering.subtypeEntry .sixteenBit grammar) := by
      refine List.filterMap_congr fun name declared => ?_
      rw [Numbering.subtypeEntry, Numbering.subtypeEntry]
      cases number : table.numbering.ruleIds[name]? with
      | none => rfl
      | some id =>
        cases rule : grammar.rules[name]? with
        | none =>
          rw [show (grammar.withBodies rules).rules[name]? = none from flattens.lacks rule]
        | some body =>
          obtain ⟨body', rule', flattened⟩ := flattens.exists_related rule
          have numbered : (table.ruleSymbol? name).isSome := by
            rw [ruleSymbol?, number]
            rfl
          have covered := covers name declared numbered body body' rule rule'
          rw [show (grammar.withBodies rules).rules[name]? = some body' from rule']
          simp only [Option.some.injEq, Prod.mk.injEq, true_and]
          refine Numbering.subtypesOf_eq fun subtype => ⟨fun given => ?_, fun given => ?_⟩
          · obtain ⟨alternative, among, denotes⟩ := (listed body' subtype).mp given
            exact (listed body subtype).mpr (covered alternative among subtype denotes)
          · exact Numbering.subtypesOf_subset flattened .sixteenBit table.numbering given
    have ids : (table.withSubtypesOf (grammar.withBodies rules)).subtypeIds = table.subtypeIds := by
      rw [subtypeIds_of_build built]
      exact congrArg (Std.ExtTreeMap.ofList · compare) entries
    exact congrArg (fun ids => { table with subtypeIds := ids }) ids

end SymbolTable

namespace Language

variable {language : Language} {grammar : Grammar} {displayName : String} {rules : ByName Rule}

/-- A grammar that loads does so when groups in groups are dissolved, and the symbols, the fields
and the node types are the same but for the subtypes, of which none is lost. They are all the same
exactly if whatever an alternative of a supertype stands for after that, some alternative of it has
stood for before. -/
theorem flattened_agrees_iff (loaded : ofGrammar displayName grammar = .ok language)
    (flattens : ByName.Related Rule.Flattens grammar.rules rules) :
    ∃ language', ofGrammar displayName (grammar.withBodies rules) = .ok language' ∧
      language'.symbols.withoutSubtypes = language.symbols.withoutSubtypes ∧
      language'.nodeTypes.map NodeType.withoutSubtypes =
        language.nodeTypes.map NodeType.withoutSubtypes ∧
      (∀ id, language.symbols.subtypes id ⊆ language'.symbols.subtypes id) ∧
      ((language'.symbols = language.symbols ∧ language'.nodeTypes = language.nodeTypes) ↔
        ∀ name ∈ grammar.supertypeNames, (language.symbols.ruleSymbol? name).isSome →
          ∀ body body', grammar.rules[name]? = some body → rules[name]? = some body' →
            language.symbols.Covers body body') := by
  obtain ⟨flawless, built, nodeTypes⟩ := parts_of_loaded loaded
  have alike : ByName.Related Rule.Alike grammar.rules rules :=
    flattens.mono fun held flattens => flattens.alike fun node among =>
      Grammar.Holds.flaw?_eq_none ⟨_, _, held, among⟩ flawless
  have built' : SymbolTable.build (grammar.withBodies rules) =
      .ok (language.symbols.withSubtypesOf (grammar.withBodies rules)) := by
    rw [SymbolTable.build_withBodies alike, built]
    rfl
  have same := SymbolTable.withSubtypesOf_eq_iff built built' flattens
  let flattened : Language :=
    { displayName
      grammar := grammar.withBodies rules
      symbols := language.symbols.withSubtypesOf (grammar.withBodies rules)
      nodeTypes := NodeType.listing (grammar.withBodies rules)
        (language.symbols.withSubtypesOf (grammar.withBodies rules)) }
  refine ⟨flattened, ?_, rfl, ?_, SymbolTable.subtypes_subset built built' flattens, ?_⟩
  · rw [ofGrammar, Grammar.defect?_withBodies alike, flawless, built']
  · simp only [flattened, NodeType.listing_withBodies alike, nodeTypes,
      NodeType.map_withoutSubtypes_listing]
    rfl
  · rw [← same, and_iff_left_iff_imp]
    intro unchanged
    simp only [flattened] at unchanged ⊢
    rw [unchanged, NodeType.listing_withBodies alike, nodeTypes]

/-- Two items with a comma, the second one with the comma in a sequence of its own. -/
def tuples : Grammar :=
  { Grammar.empty "tuples"
      |>.withRule "source_file" (.seq [.symbol "_item", .seq [.text ",", .symbol "_item"]])
      |>.withRule "_item" (.choice [.symbol "word", .symbol "number"])
      |>.withRule "word" (.text "x")
      |>.withRule "number" (.text "1") with
    supertypes := some ["_item"] }

/-- The rules of tuples with all three parts in one sequence. -/
def flatTuples : ByName Rule :=
  tuples.rules.insert "source_file" (.seq [.symbol "_item", .text ",", .symbol "_item"])

/-- Tuples have the same symbols and node types in either form. -/
theorem flattened_agrees_tuples :
    ∃ language language', ofGrammar "Tuples" tuples = .ok language ∧
      ofGrammar "Tuples" (tuples.withBodies flatTuples) = .ok language' ∧
      language'.symbols = language.symbols ∧ language'.nodeTypes = language.nodeTypes := by
  obtain ⟨language, loaded, _⟩ := exists_of_any
    (show (ofGrammar "Tuples" tuples).toOption.any fun _ => true by decide +kernel)
  have held : tuples.rules["source_file"]? =
      some (.seq [.symbol "_item", .seq [.text ",", .symbol "_item"]]) := by decide +kernel
  have dissolves : Rule.Dissolves false
      (.seq [.symbol "_item", .seq [.text ",", .symbol "_item"]])
      (.seq [.symbol "_item", .text ",", .symbol "_item"]) :=
    @Rule.Dissolves.group false (.seq [.symbol "_item", .seq [.text ",", .symbol "_item"]])
      [.symbol "_item"] [.text ",", .symbol "_item"] [] rfl rfl
  have flattens : ByName.Related Rule.Flattens tuples.rules flatTuples :=
    .insert (fun _ => .refl) held (.single (.here dissolves))
  obtain ⟨language', loaded', _, _, _, agrees⟩ := flattened_agrees_iff loaded flattens
  refine ⟨language, language', loaded, loaded', agrees.mpr ?_⟩
  -- The only supertype keeps its body.
  intro name declared _ body body' rule rule' alternative among id denotes
  obtain rfl : name = "_item" := by simpa [Grammar.supertypeNames, tuples] using declared
  have same : flatTuples["_item"]? = tuples.rules["_item"]? := by decide +kernel
  obtain rfl := Option.some.inj (rule.symm.trans (same.symm.trans rule'))
  exact ⟨alternative, among, denotes⟩

/-- A supertype whose choice has another choice in it. -/
def values : Grammar :=
  { Grammar.empty "values"
      |>.withRule "source_file" (.symbol "_value")
      |>.withRule "_value" (.choice [.symbol "word", .choice [.symbol "number", .symbol "name"]])
      |>.withRule "word" (.text "x")
      |>.withRule "number" (.text "1")
      |>.withRule "name" (.text "n") with
    supertypes := some ["_value"] }

/-- The rules of values with all alternatives in one choice. -/
def flatValues : ByName Rule :=
  values.rules.insert "_value" (.choice [.symbol "word", .symbol "number", .symbol "name"])

/-- Only the word is a subtype of the values, but numbers and names are so, too, when the inner
choice is dissolved. -/
theorem flattened_disagrees_values :
    ByName.Related Rule.Flattens values.rules flatValues ∧
      ∃ language language', ofGrammar "Values" values = .ok language ∧
        ofGrammar "Values" (values.withBodies flatValues) = .ok language' ∧
        language.symbols.subtypes 5 = [3] ∧ language'.symbols.subtypes 5 = [1, 2, 3] ∧
        language.nodeTypes.filterMap NodeType.subtypes = [[⟨"word", true⟩]] ∧
        language'.nodeTypes.filterMap NodeType.subtypes =
          [[⟨"name", true⟩, ⟨"number", true⟩, ⟨"word", true⟩]] := by
  have held : values.rules["_value"]? =
      some (.choice [.symbol "word", .choice [.symbol "number", .symbol "name"]]) := by
    decide +kernel
  have dissolves : Rule.Dissolves false
      (.choice [.symbol "word", .choice [.symbol "number", .symbol "name"]])
      (.choice [.symbol "word", .symbol "number", .symbol "name"]) :=
    @Rule.Dissolves.group false
      (.choice [.symbol "word", .choice [.symbol "number", .symbol "name"]])
      [.symbol "word"] [.symbol "number", .symbol "name"] [] rfl rfl
  obtain ⟨language, loaded, checked⟩ := exists_of_any
    (show (ofGrammar "Values" values).toOption.any fun language =>
      language.symbols.subtypes 5 = [3] &&
        language.nodeTypes.filterMap NodeType.subtypes = [[⟨"word", true⟩]] by decide +kernel)
  obtain ⟨language', loaded', checked'⟩ := exists_of_any
    (show (ofGrammar "Values" (values.withBodies flatValues)).toOption.any fun language =>
      language.symbols.subtypes 5 = [1, 2, 3] &&
        language.nodeTypes.filterMap NodeType.subtypes =
          [[⟨"name", true⟩, ⟨"number", true⟩, ⟨"word", true⟩]] by decide +kernel)
  simp only [Bool.and_eq_true, decide_eq_true_eq] at checked checked'
  exact ⟨.insert (fun _ => .refl) held (.single (.here dissolves)), language, language', loaded,
    loaded', checked.1, checked'.1, checked.2, checked'.2⟩

end Language

end GrammarAtlas
