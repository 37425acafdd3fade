import GrammarAtlas.Proofs.Language.Flattening
import GrammarAtlas.Proofs.NodeType.Subtypes
import GrammarAtlas.Proofs.Symbol.Reordering
import Mathlib.Data.Multiset.MapFold

/-!
# Node types of grammars whose declarations come in another order

The order in which a grammar declares its external tokens, extras, inlined rules and supertypes
changes the numbers of its symbols, but its node types are the same and listed in the same order. A
supertype lists the same subtypes as well, though not in the same order, as they come by number
(`Language.nodeTypes_reordered`).
-/

namespace GrammarAtlas

/-- Lists of distinct elements that match one to one have the same views, in some order, if matching
elements have the same view. -/
theorem perm_filterMap_of_matches {α β γ : Type} (Matches : α → β → Prop) {here : List α}
    {there : List β} {view : α → Option γ} {view' : β → Option γ} (nodup : here.Nodup)
    (nodup' : there.Nodup) (right : ∀ one ∈ here, ∃ other ∈ there, Matches one other)
    (left : ∀ other ∈ there, ∃ one ∈ here, Matches one other)
    (unique : ∀ one other other', Matches one other → Matches one other' → other = other')
    (unique' : ∀ one one' other, Matches one other → Matches one' other → one = one')
    (same : ∀ one other, Matches one other → view one = view' other) :
    (here.filterMap view).Perm (there.filterMap view') := by
  choose partner among matched using right
  have views : (here.map view).Perm (there.map view') := by
    refine Multiset.coe_eq_coe.mp (Multiset.map_eq_map_of_bij_of_nodup view view'
      (Multiset.coe_nodup.mpr nodup) (Multiset.coe_nodup.mpr nodup') partner among ?_ ?_ ?_)
    · intro one listed one' listed' meet
      exact unique' one one' _ (matched one listed) (meet ▸ matched one' listed')
    · intro other listed
      obtain ⟨one, listed', found⟩ := left other listed
      exact ⟨one, listed', unique one _ _ (matched one listed') found⟩
    · exact fun one listed => same one _ (matched one listed)
  have picked := views.filterMap id
  rw [List.filterMap_map, List.filterMap_map] at picked
  exact picked

namespace NodeType

/-- Two node types differ at most in the order of their subtypes. -/
structure Reordered (entry entry' : NodeType) : Prop where
  /-- The subtypes are the same, in any order. -/
  subtypes : Option.Rel List.Perm entry.subtypes entry'.subtypes
  /-- Everything else is the same. -/
  others : entry' = { entry with subtypes := entry'.subtypes }

variable {grammar grammar' : Grammar} {table table' : SymbolTable} {entry entry' : NodeType}
  {kind : NodeKind}

/-- The entry is the same without its subtypes. -/
theorem Reordered.withoutSubtypes_eq (reordered : entry.Reordered entry') :
    entry'.withoutSubtypes = entry.withoutSubtypes := by
  have subtypes {kinds kinds' : Option (List NodeKind)} (same : Option.Rel List.Perm kinds kinds') :
      kinds'.map (fun _ => ([] : List NodeKind)) = kinds.map fun _ => [] := by
    cases same <;> rfl
  rw [withoutSubtypes, withoutSubtypes, subtypes reordered.subtypes, reordered.others]

/-- The candidate that comes first for a kind is the entry of the kind. -/
theorem find?_candidates_eq_some_iff :
    (candidates grammar table).find? (·.kind = kind) = some entry ↔
      entry ∈ listing grammar table ∧ entry.kind = kind := by
  constructor
  · intro found
    obtain rfl : entry.kind = kind := by simpa using List.find?_some found
    exact ⟨mem_listing.mpr found, rfl⟩
  · rintro ⟨listed, rfl⟩
    exact mem_listing.mp listed

/-- Listings with the same entries have them in the same order. -/
theorem listing_ext
    (same : ∀ entry, entry ∈ listing grammar table ↔ entry ∈ listing grammar' table') :
    listing grammar table = listing grammar' table' := by
  have first : firstByKind (candidates grammar table) =
      firstByKind (candidates grammar' table') := by
    refine Std.ExtTreeMap.ext_getElem? fun kind => Option.ext fun entry => ?_
    rw [getElem?_firstByKind, getElem?_firstByKind, find?_candidates_eq_some_iff,
      find?_candidates_eq_some_iff, same]
  rw [listing, listing, first]

end NodeType

namespace SymbolTable.Describes

variable {table table' : SymbolTable} {grammar grammar' : Grammar} {start : String}
  {symbol : Symbol} {id id' : Nat} {kind : NodeKind} {entry : NodeType}

/-- A body has the same summary. -/
theorem summary_reordered (describes : table.Describes grammar start)
    (describes' : table'.Describes grammar' start) (reordered : grammar.Reordered grammar')
    (body : Rule) : body.summary grammar' table' = body.summary grammar table := by
  have same : Referent.of grammar' table' = Referent.of grammar table := by
    rw [describes.referent, describes'.referent, reordered.referent_eq]
  exact Rule.summary_congr same (congrArg _ reordered.rules_eq) body

/-- The same body is renamed to a kind first. -/
theorem aliasedBody?_reordered (describes : table.Describes grammar start)
    (describes' : table'.Describes grammar' start) (reordered : grammar.Reordered grammar') :
    grammar'.aliasedBody? table' kind = grammar.aliasedBody? table kind := by
  refine Option.ext fun body => ?_
  rw [describes.aliasedBody?_eq_some_iff, describes'.aliasedBody?_eq_some_iff,
    reordered.renamesFirst_iff]

/-- The number of the entry rule is the one where its symbol stands. -/
theorem eq_start_iff (describes : table.Describes grammar start)
    (here : table.symbols[id]? = some symbol) :
    id = table.start ↔ symbol = grammar.ruleSymbol start start := by
  have first := describes.getElem?_start
  constructor
  · rintro rfl
    exact Option.some.inj (here.symm.trans first)
  · rintro rfl
    exact describes.id_eq_of_nonTerminal here first rfl

/-- A symbol has the same node type up to its subtypes, whatever its numbers are. -/
theorem ofSymbol?_reordered (describes : table.Describes grammar start)
    (describes' : table'.Describes grammar' start) (reordered : grammar.Reordered grammar')
    (here : table.symbols[id]? = some symbol) (here' : table'.symbols[id']? = some symbol) :
    (NodeType.ofSymbol? grammar' table' (NodeType.extraNames grammar') id' symbol).map
        NodeType.withoutSubtypes =
      (NodeType.ofSymbol? grammar table (NodeType.extraNames grammar) id symbol).map
        NodeType.withoutSubtypes := by
  have root : decide (id' = table'.start) = decide (id = table.start) := by
    rw [decide_eq_decide, describes.eq_start_iff here, describes'.eq_start_iff here',
      reordered.ruleSymbol_eq]
  rw [NodeType.ofSymbol?, NodeType.ofSymbol?]
  simp only [reordered.extraNames_eq, reordered.rules_eq, root,
    describes.summary_reordered describes' reordered,
    describes.aliasedBody?_reordered describes' reordered]
  cases symbol.kind
  case nonTerminal =>
    dsimp only
    split
    · rfl
    · rfl
  all_goals rfl

/-- A supertype has the same kinds as its subtypes, in some order. -/
theorem perm_subtypeKinds (describes : table.Describes grammar start)
    (built : build grammar = .ok table) (built' : build grammar' = .ok table')
    (describes' : table'.Describes grammar' start) (reordered : grammar.Reordered grammar')
    (here : table.symbols[id]? = some symbol) (here' : table'.symbols[id']? = some symbol)
    (marked : symbol.supertype) :
    (NodeType.subtypeKinds table id).Perm (NodeType.subtypeKinds table' id') := by
  obtain ⟨name, declared, body, rule, _, own, known⟩ := describes.exists_declared here marked
  obtain ⟨name', declared', _, _, _, own', known'⟩ := describes'.exists_declared here' marked
  obtain rfl : name = name' :=
    congrArg NodeKind.name ((Grammar.node_of_ownSymbol? own).symm.trans
      (Grammar.node_of_ownSymbol? own'))
  rw [NodeType.subtypeKinds, NodeType.subtypeKinds, subtypes_eq built declared known rule,
    subtypes_eq built' declared' known' (reordered.rules_eq ▸ rule)]
  have lists := describes.listsSubtypes body
  have lists' := describes'.listsSubtypes body
  refine perm_filterMap_of_matches (Counterpart table table')
    (lists.increasing.imp Nat.ne_of_lt) (lists'.increasing.imp Nat.ne_of_lt) ?_ ?_ ?_ ?_ ?_
  · intro id listed
    obtain ⟨alternative, among, denotes⟩ := (lists.denoted id).mp listed
    obtain ⟨id', denotes', counterpart⟩ :=
      describes.exists_counterpart describes' reordered denotes
    exact ⟨id', (lists'.denoted id').mpr ⟨alternative, among, denotes'⟩, counterpart⟩
  · intro id' listed
    obtain ⟨alternative, among, denotes⟩ := (lists'.denoted id').mp listed
    obtain ⟨id, denotes', counterpart⟩ :=
      describes'.exists_counterpart describes reordered.symm denotes
    exact ⟨id, (lists.denoted id).mpr ⟨alternative, among, denotes'⟩, counterpart.symm⟩
  · exact fun _ _ _ => describes.counterpart_unique describes' reordered
  · intro _ _ _ one other
    exact describes'.counterpart_unique describes reordered.symm one.symm other.symm
  · exact fun _ _ => describes.node_of_counterpart describes'

/-- Every entry is one of the other listing, up to the order of its subtypes. -/
theorem exists_reordered (describes : table.Describes grammar start)
    (built : build grammar = .ok table) (built' : build grammar' = .ok table')
    (describes' : table'.Describes grammar' start)
    (reordered : grammar.Reordered grammar') (listed : entry ∈ NodeType.listing grammar table) :
    ∃ entry' ∈ NodeType.listing grammar' table', entry.Reordered entry' := by
  obtain ⟨id, symbol, here, made⟩ := NodeType.exists_numbered listed
  have among := Array.mem_of_getElem? here
  have findable := describes.isFindable_of_made among (NodeType.made_of_ofSymbol? made)
  rw [← Array.mem_toList_iff, (describes.perm_symbols describes' reordered).mem_iff,
    Array.mem_toList_iff] at among
  obtain ⟨entry', listed', kind⟩ := describes'.exists_entry_iff.mpr ⟨symbol, among, findable, rfl⟩
  obtain ⟨id', symbol', here', made'⟩ := NodeType.exists_numbered listed'
  have among' := Array.mem_of_getElem? here'
  have findable' := describes'.isFindable_of_made among' (NodeType.made_of_ofSymbol? made')
  obtain rfl := describes'.eq_of_findable among findable among' findable'
    (kind.symm.trans (NodeType.kind_of_ofSymbol? made'))
  have same := describes.ofSymbol?_reordered describes' reordered here here'
  rw [made, made', Option.map_some, Option.map_some, Option.some.injEq] at same
  refine ⟨entry', listed', ?_, ?_⟩
  · have marked : entry'.subtypes.map (fun _ => []) = entry.subtypes.map fun _ => [] :=
      congrArg NodeType.subtypes same
    cases known : entry.subtypes with
    | none =>
      rw [known, Option.map_none, Option.map_eq_none_iff] at marked
      rw [marked]
      exact .none
    | some kinds =>
      rw [known, Option.map_some, Option.map_eq_some_iff] at marked
      obtain ⟨kinds', known', _⟩ := marked
      obtain ⟨_, supertype, rfl⟩ := NodeType.subtypes_of_ofSymbol? made known
      obtain ⟨_, _, rfl⟩ := NodeType.subtypes_of_ofSymbol? made' known'
      rw [known']
      exact .some (describes.perm_subtypeKinds built built' describes' reordered here here'
        supertype)
  · exact congrArg (fun bare : NodeType => { bare with subtypes := entry'.subtypes }) same

end SymbolTable.Describes

namespace Language

variable {language language' : Language} {grammar grammar' : Grammar}
  {displayName displayName' : String}

/-- Two grammars that load and differ only in the order of their declarations have the same node
types in the same order, up to the order of the subtypes in each of them. -/
theorem nodeTypes_reordered (loaded : ofGrammar displayName grammar = .ok language)
    (loaded' : ofGrammar displayName' grammar' = .ok language')
    (reordered : grammar.Reordered grammar') :
    List.Forall₂ NodeType.Reordered language.nodeTypes language'.nodeTypes := by
  obtain ⟨_, built, nodeTypes⟩ := parts_of_loaded loaded
  obtain ⟨_, built', nodeTypes'⟩ := parts_of_loaded loaded'
  obtain ⟨start, describes⟩ := SymbolTable.describes_of_build built
  obtain ⟨start', describes'⟩ := SymbolTable.describes_of_build built'
  obtain rfl : start = start' := by
    have entry := describes'.entry
    rw [reordered.startRule_eq, describes.entry] at entry
    exact Option.some.inj entry
  rw [nodeTypes, nodeTypes']
  have forth {entry : NodeType} (listed : entry ∈ NodeType.listing grammar language.symbols) :=
    describes.exists_reordered built built' describes' reordered listed
  have back {entry : NodeType} (listed : entry ∈ NodeType.listing grammar' language'.symbols) :=
    describes'.exists_reordered built' built describes reordered.symm listed
  have order : (NodeType.listing grammar language.symbols).map NodeType.withoutSubtypes =
      (NodeType.listing grammar' language'.symbols).map NodeType.withoutSubtypes := by
    rw [NodeType.map_withoutSubtypes_listing, NodeType.map_withoutSubtypes_listing]
    refine NodeType.listing_ext fun bare => ?_
    simp only [← NodeType.map_withoutSubtypes_listing, List.mem_map]
    constructor
    · rintro ⟨entry, listed, rfl⟩
      obtain ⟨entry', listed', same⟩ := forth listed
      exact ⟨entry', listed', same.withoutSubtypes_eq⟩
    · rintro ⟨entry, listed, rfl⟩
      obtain ⟨entry', listed', same⟩ := back listed
      exact ⟨entry', listed', same.withoutSubtypes_eq⟩
  -- No kind comes twice, so the entry at a place is the one that goes with it.
  rw [← List.forall₂_eq_eq_eq, List.forall₂_map_left_iff, List.forall₂_map_right_iff] at order
  refine List.forall₂_iff_zip.mpr ⟨order.length_eq, fun {entry other} zipped => ?_⟩
  obtain ⟨listed, listed'⟩ := List.of_mem_zip zipped
  obtain ⟨entry', among, same⟩ := forth listed
  have bare := (List.forall₂_iff_zip.mp order).2 zipped
  have kinds : entry'.withoutSubtypes.kind = other.withoutSubtypes.kind :=
    congrArg NodeType.kind (same.withoutSubtypes_eq.trans bare)
  obtain rfl := List.inj_on_of_nodup_map describes'.nodup_kinds among listed' kinds
  exact same

/-- Notes with two tokens of the scanner, the first of which is declared twice. -/
def notes : Grammar :=
  { Grammar.empty "notes"
      |>.withRule "source_file" (.zeroOrMore (.choice [.symbol "_item", .symbol "_mark"]))
      |>.withRule "_item" (.choice [.symbol "word", .symbol "indent", .symbol "dedent"])
      |>.withRule "_mark" (.choice [.aliased (.symbol "dedent") "indent" true, .text "!"])
      |>.withRule "word" (.text "x") with
    externals := some [.symbol "indent", .symbol "indent", .symbol "dedent"]
    supertypes := some ["_item", "_mark"] }

/-- Notes with their tokens and supertypes in another order. -/
def notesReordered : Grammar :=
  { notes with
    externals := some [.symbol "dedent", .symbol "indent", .symbol "indent"]
    supertypes := some ["_mark", "_item"] }

/-- The tokens of the two notes have other numbers, and an item lists its subtypes in another order,
but otherwise the node types are the same. -/
theorem nodeTypes_reordered_notes :
    ∃ language language', ofGrammar "Notes" notes = .ok language ∧
      ofGrammar "Notes" notesReordered = .ok language' ∧ notes.Reordered notesReordered ∧
      language.symbols.ruleSymbol? "dedent" ≠ language'.symbols.ruleSymbol? "dedent" ∧
      language.nodeTypes.filterMap NodeType.subtypes =
        [[⟨"word", true⟩, ⟨"indent", true⟩, ⟨"dedent", true⟩],
          [⟨"!", false⟩, ⟨"indent", true⟩]] ∧
      language'.nodeTypes.filterMap NodeType.subtypes =
        [[⟨"word", true⟩, ⟨"dedent", true⟩, ⟨"indent", true⟩],
          [⟨"!", false⟩, ⟨"indent", true⟩]] ∧
      List.Forall₂ NodeType.Reordered language.nodeTypes language'.nodeTypes := by
  obtain ⟨language, loaded, checked⟩ := exists_of_any
    (show (ofGrammar "Notes" notes).toOption.any fun language =>
      language.symbols.ruleSymbol? "dedent" = some 5 &&
        language.nodeTypes.filterMap NodeType.subtypes =
          [[⟨"word", true⟩, ⟨"indent", true⟩, ⟨"dedent", true⟩],
            [⟨"!", false⟩, ⟨"indent", true⟩]] by decide +kernel)
  obtain ⟨language', loaded', checked'⟩ := exists_of_any
    (show (ofGrammar "Notes" notesReordered).toOption.any fun language =>
      language.symbols.ruleSymbol? "dedent" = some 3 &&
        language.nodeTypes.filterMap NodeType.subtypes =
          [[⟨"word", true⟩, ⟨"dedent", true⟩, ⟨"indent", true⟩],
            [⟨"!", false⟩, ⟨"indent", true⟩]] by decide +kernel)
  simp only [Bool.and_eq_true, decide_eq_true_eq] at checked checked'
  have reordered : notes.Reordered notesReordered :=
    { externals := .some (by decide +kernel)
      extras := .none
      inlined := .none
      supertypes := .some (.swap _ _ _)
      others := rfl }
  refine ⟨language, language', loaded, loaded', reordered, ?_, checked.2, checked'.2,
    nodeTypes_reordered loaded loaded' reordered⟩
  rw [checked.1, checked'.1]
  decide

end Language

end GrammarAtlas
