import GrammarAtlas.Proofs.NodeType.Alias
import GrammarAtlas.Proofs.Symbol.Resolution

/-!
# The listing and the symbol table

The listing of node types and the symbol table describe the same kinds of node: a kind has an entry
exactly if a look-up of the kind finds a symbol. `NodeType.Corresponds` says this and how the
entries are ordered, which of them are those of supertypes, and which one is the root.
-/

namespace GrammarAtlas

/-- Of two kinds in order, both named or both anonymous, the first has the smaller name. -/
theorem NodeKind.name_lt {kind other : NodeKind} (less : kind.compare other = .lt)
    (same : kind.named = other.named) : kind.name < other.name := by
  rw [NodeKind.compare, compareLex, Ordering.then_eq_lt, compareOn, compareOn, same] at less
  rcases less with names | ⟨_, flags⟩
  · exact compareOfLessAndEq_eq_lt.mp names
  · exact absurd flags (by simp)

namespace NodeType

variable {grammar : Grammar} {table : SymbolTable} {entry : NodeType} {symbol : Symbol}

/-! ## The order of the listing -/

/-- One entry comes before another: supertypes come first, then the other named kinds, then the
anonymous ones, and those of a group by name. -/
inductive Precedes (entry other : NodeType) : Prop
  /-- Only the first is a supertype. -/
  | supertype : entry.isSupertype → ¬ other.isSupertype → Precedes entry other
  /-- Both are supertypes or both are not, and only the first is named. -/
  | named : entry.isSupertype = other.isSupertype → entry.kind.named → ¬ other.kind.named →
    Precedes entry other
  /-- They are in one group, and the name of the first is smaller. -/
  | name : entry.isSupertype = other.isSupertype → entry.kind.named = other.kind.named →
    entry.kind.name < other.kind.name → Precedes entry other

/-- No entry comes before itself. -/
theorem Precedes.irrefl (entry : NodeType) : ¬ entry.Precedes entry := by
  rintro (⟨here, not⟩ | ⟨_, here, not⟩ | ⟨_, _, less⟩)
  · exact not here
  · exact not here
  · exact String.lt_irrefl _ less

/-- The entries of a group are ordered by name. -/
theorem pairwise_filter_precedes {entries : List NodeType} {group : NodeType → Bool}
    (ordered : entries.Pairwise fun entry other => entry.kind.compare other.kind = .lt)
    (same : ∀ entry ∈ entries, ∀ other ∈ entries, group entry → group other →
      entry.isSupertype = other.isSupertype ∧ entry.kind.named = other.kind.named) :
    (entries.filter group).Pairwise Precedes := by
  refine (ordered.filter group).imp_of_mem ?_
  intro entry other listed listed' less
  obtain ⟨among, inside⟩ := List.mem_filter.mp listed
  obtain ⟨among', inside'⟩ := List.mem_filter.mp listed'
  obtain ⟨supertypes, named⟩ := same entry among other among' inside inside'
  exact .name supertypes named (NodeKind.name_lt less named)

/-- Grouping puts entries in order that are ordered by kind. -/
theorem pairwise_grouped {entries : List NodeType}
    (ordered : entries.Pairwise fun entry other => entry.kind.compare other.kind = .lt)
    (named : ∀ entry ∈ entries, entry.isSupertype → entry.kind.named) :
    (grouped entries).Pairwise Precedes := by
  rw [grouped]
  refine List.pairwise_append.mpr ⟨List.pairwise_append.mpr ⟨?_, ?_, ?_⟩, ?_, ?_⟩
  · refine pairwise_filter_precedes ordered fun entry listed other listed' here there => ?_
    exact ⟨here.trans there.symm, (named entry listed here).trans (named other listed' there).symm⟩
  · refine pairwise_filter_precedes ordered fun entry _ other _ here there => ?_
    rw [Bool.and_eq_true, Bool.not_eq_true'] at here there
    exact ⟨here.1.trans there.1.symm, here.2.trans there.2.symm⟩
  · intro entry listed other listed'
    have middle := (List.mem_filter.mp listed').2
    rw [Bool.and_eq_true, Bool.not_eq_true'] at middle
    exact .supertype (List.mem_filter.mp listed).2 (by simp [middle.1])
  · refine pairwise_filter_precedes ordered fun entry _ other _ here there => ?_
    rw [Bool.and_eq_true, Bool.not_eq_true', Bool.not_eq_true'] at here there
    exact ⟨here.1.trans there.1.symm, here.2.trans there.2.symm⟩
  · intro entry listed other listed'
    have last := (List.mem_filter.mp listed').2
    rw [Bool.and_eq_true, Bool.not_eq_true', Bool.not_eq_true'] at last
    rcases List.mem_append.mp listed with first | second
    · exact .supertype (List.mem_filter.mp first).2 (by simp [last.1])
    · have middle := (List.mem_filter.mp second).2
      rw [Bool.and_eq_true, Bool.not_eq_true'] at middle
      exact .named (middle.1.trans last.1.symm) middle.2 (by simp [last.2])

/-- The first entries of the kinds are ordered by kind. -/
theorem pairwise_firstByKind (entries : List NodeType) :
    ((firstByKind entries).toList.map Prod.snd).Pairwise fun entry other =>
      entry.kind.compare other.kind = .lt := by
  have key {kind : NodeKind} {entry : NodeType}
      (listed : (kind, entry) ∈ (firstByKind entries).toList) : entry.kind = kind := by
    rw [Std.ExtTreeMap.mem_toList_iff_getElem?_eq_some, getElem?_firstByKind] at listed
    simpa using List.find?_some listed
  rw [List.pairwise_map]
  refine Std.ExtTreeMap.ordered_keys_toList.imp_of_mem ?_
  intro entry other listed listed' less
  rwa [key listed, key listed']

/-! ## Entries and symbols -/

/-- A listed entry is that of a symbol with its number. -/
theorem exists_numbered (listed : entry ∈ listing grammar table) :
    ∃ id symbol, table.symbols[id]? = some symbol ∧
      ofSymbol? grammar table (extraNames grammar) id symbol = some entry := by
  have candidate := List.mem_of_find?_eq_some (mem_listing.mp listed)
  obtain ⟨⟨id, symbol⟩, numbered, made⟩ := List.mem_filterMap.mp candidate
  obtain ⟨⟨symbol', id'⟩, among, same⟩ := List.mem_map.mp numbered
  obtain ⟨rfl, rfl⟩ := Prod.mk.inj same
  have here := List.mk_mem_zipIdx_iff_getElem?.mp among
  exact ⟨id', symbol', by rwa [Array.getElem?_toList] at here, made⟩

/-- The rules declared supertypes have entries with subtypes, and the entry rule is marked as the
root unless it is one of these. -/
theorem flags_of_ofSymbol? {extras : NameSet} {id : Nat}
    (made : ofSymbol? grammar table extras id symbol = some entry) :
    (entry.isSupertype ↔ symbol.kind = .nonTerminal ∧ symbol.supertype) ∧
      (entry.root = some true ↔
        symbol.kind = .nonTerminal ∧ ¬ symbol.supertype ∧ id = table.start) := by
  cases ofSymbol_of_ofSymbol? made with
  | token kind => rcases kind with kind | kind <;> simp [isSupertype, ofNode, kind]
  | supertype kind supertype => simp [isSupertype, ofNode, kind, supertype]
  | rule kind other => simp [isSupertype, ofNode, withSummary, flag, kind, other]
  | renamed kind => simp [isSupertype, ofNode, withSummary, kind]
  | unstructured kind => simp [isSupertype, ofNode, kind]

end NodeType

namespace SymbolTable.Describes

variable {table : SymbolTable} {grammar : Grammar} {start : String} {symbol : Symbol}
  {entry : NodeType} {kind : NodeKind}

/-- The kinds with entries are those of the findable symbols. -/
theorem exists_entry_iff (describes : table.Describes grammar start) :
    (∃ entry ∈ NodeType.listing grammar table, entry.kind = kind) ↔
      ∃ symbol ∈ table.symbols, symbol.isFindable ∧ symbol.node = kind := by
  constructor
  · rintro ⟨entry, listed, rfl⟩
    obtain ⟨id, symbol, here, made⟩ := NodeType.exists_numbered listed
    have among := Array.mem_of_getElem? here
    exact ⟨symbol, among, describes.isFindable_of_made among (NodeType.made_of_ofSymbol? made),
      (NodeType.kind_of_ofSymbol? made).symm⟩
  · rintro ⟨symbol, listed, findable, rfl⟩
    obtain ⟨entry, found⟩ := describes.exists_entry_of_findable listed findable
    exact ⟨entry, List.mem_of_find?_eq_some found, by simpa using List.find?_some found⟩

/-- The kinds that are found in the table are those of the findable symbols. -/
theorem isSome_idForNodeKind?_iff (describes : table.Describes grammar start)
    (other : kind ≠ Symbol.error.node) :
    (table.idForNodeKind? kind).isSome ↔
      ∃ symbol ∈ table.symbols, symbol.isFindable ∧ symbol.node = kind := by
  rw [idForNodeKind?, if_neg other, describes.isSome_find?_iff]

/-- The entries with subtypes are those of the kinds of rules declared supertypes. -/
theorem isSupertype_iff (describes : table.Describes grammar start)
    (listed : entry ∈ NodeType.listing grammar table) :
    entry.isSupertype ↔ entry.kind.named ∧ ∃ symbol ∈ table.symbols,
      symbol.kind = .nonTerminal ∧ symbol.supertype ∧ symbol.node.name = entry.kind.name := by
  obtain ⟨id, symbol, here, made⟩ := NodeType.exists_numbered listed
  have among := Array.mem_of_getElem? here
  rw [(NodeType.flags_of_ofSymbol? made).1, NodeType.kind_of_ofSymbol? made]
  constructor
  · rintro ⟨kind, supertype⟩
    have node := Grammar.node_of_ownSymbol? (describes.ownSymbol_of_nonTerminal among kind)
    exact ⟨by rw [node], symbol, among, kind, supertype, rfl⟩
  · rintro ⟨named, other, among', kind, supertype, name⟩
    -- A findable symbol of a rule is the only one of its kind.
    have known := describes.ownSymbol_of_nonTerminal among' kind
    have node : symbol.node = ⟨other.node.name, true⟩ := by rw [name, ← named]
    obtain rfl := describes.symbol_eq known (by simp [Symbol.isFindable, supertype]) among node
    exact ⟨kind, supertype⟩

/-- The entry that is marked as the root is that of the entry rule, which is no supertype. -/
theorem root_iff (describes : table.Describes grammar start)
    (listed : entry ∈ NodeType.listing grammar table) :
    entry.root = some true ↔ ¬ grammar.isSupertype start ∧ entry.kind = ⟨start, true⟩ := by
  obtain ⟨id, symbol, here, made⟩ := NodeType.exists_numbered listed
  have first := describes.getElem?_start
  rw [(NodeType.flags_of_ofSymbol? made).2, NodeType.kind_of_ofSymbol? made]
  constructor
  · rintro ⟨_, plain, rfl⟩
    obtain rfl := Option.some.inj (here.symm.trans first)
    exact ⟨plain, rfl⟩
  · rintro ⟨plain, node⟩
    have known := describes.ownSymbol_of_nonTerminal (Array.mem_of_getElem? first) rfl
    have findable : (grammar.ruleSymbol start start).isFindable := by
      simp [Symbol.isFindable, Grammar.ruleSymbol]
    obtain rfl := describes.symbol_eq known findable (Array.mem_of_getElem? here) node
    exact ⟨rfl, plain, describes.id_eq_of_nonTerminal here first rfl⟩

/-- The listing is in order. -/
theorem pairwise_listing (describes : table.Describes grammar start) :
    (NodeType.listing grammar table).Pairwise NodeType.Precedes := by
  refine NodeType.pairwise_grouped (NodeType.pairwise_firstByKind _) ?_
  intro entry listed supertype
  have listed : entry ∈ NodeType.listing grammar table := NodeType.mem_grouped.mpr listed
  exact ((describes.isSupertype_iff listed).mp supertype).1

/-- No kind has two entries. -/
theorem nodup_kinds (describes : table.Describes grammar start) :
    ((NodeType.listing grammar table).map NodeType.kind).Nodup := by
  have distinct : (NodeType.listing grammar table).Nodup := by
    refine describes.pairwise_listing.imp ?_
    rintro entry _ before rfl
    exact NodeType.Precedes.irrefl entry before
  refine distinct.map_on fun entry listed other listed' same => ?_
  rw [NodeType.mem_listing, same] at listed
  exact Option.some.inj (listed.symm.trans (NodeType.mem_listing.mp listed'))

end SymbolTable.Describes

namespace NodeType

/-! ## Correspondence -/

/-- How the entries of a listing correspond to the symbols of a table. -/
structure Corresponds (grammar : Grammar) (table : SymbolTable) (start : String)
    (entries : List NodeType) : Prop where
  /-- A kind other than that of failures has an entry exactly if a look-up of it finds a symbol. -/
  kinds : ∀ kind : NodeKind, kind ≠ ⟨"ERROR", true⟩ →
    ((∃ entry ∈ entries, entry.kind = kind) ↔ (table.idForNodeKind? kind).isSome)
  /-- No kind has two entries. -/
  once : (entries.map NodeType.kind).Nodup
  /-- Every entry comes before all that follow. -/
  sorted : entries.Pairwise Precedes
  /-- The entries with subtypes are those of the kinds of rules declared supertypes. -/
  supertypes : ∀ entry ∈ entries, entry.subtypes.isSome ↔
    entry.kind.named ∧ ∃ symbol ∈ table.symbols,
      symbol.kind = .nonTerminal ∧ symbol.supertype ∧ symbol.node.name = entry.kind.name
  /-- The entry of the entry rule, and no other, is marked as the root. -/
  root : ¬ grammar.isSupertype start →
    ∃ entry ∈ entries, entry.kind = ⟨start, true⟩ ∧
      ∀ other ∈ entries, other.root = some true ↔ other = entry
  /-- If the entry rule is declared a supertype, no entry is marked. -/
  rootless : grammar.isSupertype start → ∀ entry ∈ entries, entry.root ≠ some true

/-- The listing of a grammar corresponds to its symbol table. -/
theorem corresponds_of_build {grammar : Grammar} {table : SymbolTable}
    (built : SymbolTable.build grammar = .ok table) :
    ∃ start, grammar.startRule = some start ∧
      Corresponds grammar table start (listing grammar table) := by
  obtain ⟨start, describes⟩ := SymbolTable.describes_of_build built
  refine ⟨start, describes.entry, ?_⟩
  constructor
  case kinds =>
    intro kind other
    rw [describes.exists_entry_iff, describes.isSome_idForNodeKind?_iff other]
  case once => exact describes.nodup_kinds
  case sorted => exact describes.pairwise_listing
  case supertypes => exact fun entry listed => describes.isSupertype_iff listed
  case root =>
    intro plain
    obtain ⟨entry, listed, kind⟩ := describes.exists_entry_iff.mpr
      ⟨_, Array.mem_of_getElem? describes.getElem?_start,
        by simp [Symbol.isFindable, Grammar.ruleSymbol], rfl⟩
    refine ⟨entry, listed, kind, fun other listed' => ?_⟩
    rw [describes.root_iff listed']
    constructor
    · rintro ⟨_, kind'⟩
      exact List.inj_on_of_nodup_map describes.nodup_kinds listed' listed (kind'.trans kind.symm)
    · rintro rfl
      exact ⟨plain, kind⟩
  case rootless =>
    intro supertype entry listed marked
    exact ((describes.root_iff listed).mp marked).1 supertype

/-- The statements have one supertype, and their root is the entry of the source file. -/
theorem corresponds_statements :
    ∃ table, SymbolTable.build SymbolTable.statements = .ok table ∧
      Corresponds SymbolTable.statements table "source_file"
        (listing SymbolTable.statements table) ∧
      (listing SymbolTable.statements table).map NodeType.kind =
        [⟨"_statement", true⟩, ⟨"call", true⟩, ⟨"indent", true⟩, ⟨"send", true⟩,
          ⟨"source_file", true⟩, ⟨"word", true⟩, ⟨"()", false⟩, ⟨";", false⟩] := by
  obtain ⟨table, built, kinds⟩ := exists_of_any
    (show (SymbolTable.build SymbolTable.statements).toOption.any fun table =>
      (listing SymbolTable.statements table).map NodeType.kind =
        [⟨"_statement", true⟩, ⟨"call", true⟩, ⟨"indent", true⟩, ⟨"send", true⟩,
          ⟨"source_file", true⟩, ⟨"word", true⟩, ⟨"()", false⟩, ⟨";", false⟩] by
      decide +kernel)
  obtain ⟨start, entry, corresponds⟩ := corresponds_of_build built
  have conventional : SymbolTable.statements.startRule = some "source_file" := by decide +kernel
  obtain rfl := Option.some.inj (entry.symm.trans conventional)
  exact ⟨table, built, corresponds, of_decide_eq_true kinds⟩

end NodeType

end GrammarAtlas
