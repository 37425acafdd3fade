import GrammarAtlas.Proofs.Symbol.Layout

/-!
# Looking up kinds of node

Looking up the kind of a symbol gives the first findable symbol of the kind. That is the symbol
itself as long as no two findable symbols are of one kind, and this hangs on the external tokens
alone: rules have distinct names, literals are anonymous and shared, and aliases come last
(`SymbolTable.Describes.pairwise_apart_iff`). Nodes that stand for a failure to parse are always
found outside the numbering, whatever else has their kind.
-/

namespace GrammarAtlas

/-- Look-ups tell the symbols apart: they are not findable symbols of one kind. -/
def Symbol.Apart (symbol other : Symbol) : Prop :=
  symbol.isFindable → other.isFindable → symbol.node ≠ other.node

namespace Grammar

variable {grammar : Grammar} {start : String} {symbol other : Symbol}

/-- A name that shows up is declared several times as that of an external token, and no rule has
it. -/
def RepeatsExternal (grammar : Grammar) : Prop :=
  ∃ name, ¬ isHidden name ∧ name ∉ grammar.rules ∧ 2 ≤ grammar.externalNames.count name

/-- The names of the external tokens that show up and are no rules. -/
def shownExternals (grammar : Grammar) : List String :=
  (grammar.externalNames.filter fun name => !grammar.rules.contains name).filter (!isHidden ·)

/-- External tokens are repeated exactly if a name stands twice among those that show up. -/
theorem repeatsExternal_iff : grammar.RepeatsExternal ↔ ¬ grammar.shownExternals.Nodup := by
  simp only [List.nodup_iff_count_le_one, Classical.not_forall, Nat.not_le, RepeatsExternal]
  refine exists_congr fun name => ?_
  have picked : name ∈ grammar.shownExternals → ¬ isHidden name ∧ name ∉ grammar.rules := by
    simp only [shownExternals, List.mem_filter, Bool.not_eq_true', ← Bool.not_eq_true,
      ← Std.ExtTreeMap.mem_iff_contains]
    exact fun listed => ⟨listed.2, listed.1.2⟩
  have count (shown : ¬ isHidden name) (unruled : name ∉ grammar.rules) :
      grammar.shownExternals.count name = grammar.externalNames.count name := by
    rw [Std.ExtTreeMap.mem_iff_contains] at unruled
    rw [shownExternals, List.count_filter (by simp [shown]), List.count_filter (by simp [unruled])]
  constructor
  · rintro ⟨shown, unruled, twice⟩
    rwa [count shown unruled]
  · intro twice
    obtain ⟨shown, unruled⟩ := picked (List.count_pos_iff.mp (Nat.lt_of_succ_lt twice))
    exact ⟨shown, unruled, count shown unruled ▸ twice⟩

/-! ## Symbols that are told apart -/

/-- The symbols of names are named, and one of them has the kind of another only if it is the
same. -/
theorem eq_of_own (asked : .own symbol ∈ grammar.entries start)
    (asked' : .own other ∈ grammar.entries start) (same : symbol.node = other.node) :
    symbol = other := by
  rw [own_mem_entries] at asked asked'
  rw [same] at asked
  exact Option.some.inj (asked.symm.trans asked')

/-- The named symbols that can be found are distinct, unless external tokens are repeated. -/
theorem nodup_named (entry : grammar.startRule = some start)
    (once : grammar.shownExternals.Nodup) :
    ((grammar.tokenBlock start ++ grammar.ruleBlock start).filter fun symbol =>
      symbol.isFindable && symbol.node.named).Nodup := by
  have tokens : (((grammar.orderedRules.filter fun entry => isToken start entry.1 entry.2).map
      fun entry => tokenSymbol entry.1).filter Symbol.isFindable).Nodup := by
    refine List.Nodup.filter _ (List.Nodup.of_map (·.node.name) ?_)
    rw [List.map_map]
    exact grammar.nodup_orderedRules.sublist (List.filter_sublist.map _)
  have externals : (((grammar.externalNames.filter fun name => !grammar.rules.contains name).map
      externalSymbol).filter Symbol.isFindable).Nodup := by
    have shown : Symbol.isFindable ∘ externalSymbol = (!isHidden ·) := by
      funext name
      simp [Symbol.isFindable, externalSymbol]
    rw [List.filter_map, shown]
    exact once.map fun name name' same => congrArg (·.node.name) same
  rw [List.filter_append]
  refine List.nodup_append.mpr ⟨?_, nodup_ruleBlock.filter _, ?_⟩
  · rw [← List.filter_filter, named_tokenBlock entry, List.filter_append]
    refine List.nodup_append.mpr ⟨tokens, externals, ?_⟩
    intro token listed external listed' same
    obtain ⟨_, _, rfl⟩ := List.mem_map.mp (List.mem_filter.mp listed).1
    obtain ⟨_, _, rfl⟩ := List.mem_map.mp (List.mem_filter.mp listed').1
    cases congrArg Symbol.kind same
  · rintro token listed rule listed' rfl
    have kind := kind_of_mem_tokenBlock entry (List.mem_filter.mp listed).1
    obtain ⟨_, _, rfl⟩ := List.mem_map.mp (List.mem_filter.mp listed').1
    rcases kind with terminal | external
    · cases terminal
    · cases external

/-- A named symbol before those of the aliases is added as it is. -/
theorem own_of_named
    (listed : symbol ∈ Numbering.appended [.endOfInput] (grammar.plainEntries start))
    (named : symbol.node.named) : .own symbol ∈ grammar.entries start := by
  rcases Numbering.mem_appended listed with own | ⟨shared, _⟩
  · exact List.mem_append_left _ own
  · obtain ⟨words, rfl⟩ := literal_of_shared shared
    exact absurd named (by simp [Symbol.literal])

/-- The symbols before those of the aliases are told apart, unless external tokens are repeated. -/
theorem pairwise_plain (entry : grammar.startRule = some start)
    (once : grammar.shownExternals.Nodup) :
    (grammar.tokenBlock start ++ grammar.ruleBlock start).Pairwise Symbol.Apart := by
  have distinct := List.pairwise_filter.mp (nodup_named entry once)
  have shared := Numbering.pairwise_appended [.endOfInput] (grammar.plainEntries start)
  rw [appended_plainEntries] at shared
  refine (shared.and distinct).imp_of_mem ?_
  rintro earlier later listed listed' ⟨apart, distinct⟩ findable findable' same
  rw [← appended_plainEntries] at listed
  rcases apart with own | silent
  · -- Both are symbols of names, and the same one, which has been added twice.
    have own := List.mem_append_left grammar.aliasEntries own
    have named : later.node.named := by
      rw [node_of_ownSymbol? (own_mem_entries.mp own)]
    have own' := own_of_named listed (same ▸ named)
    exact distinct (by simp [findable, same, named]) (by simp [findable', named])
      (eq_of_own own' own same)
  · exact silent (Symbol.answersTo_iff.mpr ⟨findable, same⟩)

/-- The symbols of aliases are told apart from each other and from those before. -/
theorem pairwise_alias :
    (grammar.aliasBlock start).Pairwise Symbol.Apart := by
  refine (Numbering.pairwise_appended _ grammar.aliasEntries).imp ?_
  intro earlier later apart findable _ same
  have silent := apart.resolve_left (own_not_mem_aliasEntries later)
  exact silent (Symbol.answersTo_iff.mpr ⟨findable, same⟩)

end Grammar

namespace Numbering

/-- What is found is the number of a symbol of the kind. -/
theorem getElem?_of_find? {addressing : Addressing} {numbering : Numbering} {node : NodeKind}
    {id : Nat} (found : numbering.find? addressing node = some id) :
    ∃ symbol, numbering.symbols[id]? = some symbol ∧ symbol.answersTo node := by
  rw [find?, first_eq, Option.filter_eq_some_iff, List.findIdx?_eq_some_iff_getElem] at found
  obtain ⟨⟨bound, answers, _⟩, _⟩ := found
  exact ⟨_, Array.getElem?_eq_some_iff.mpr ⟨bound, rfl⟩, answers⟩

end Numbering

namespace SymbolTable.Describes

variable {table : SymbolTable} {grammar : Grammar} {start : String} {symbol other : Symbol}
  {id id' : Nat}

/-- The symbols are told apart exactly if no external token is repeated. -/
theorem pairwise_apart_iff (describes : table.Describes grammar start) :
    table.symbols.toList.Pairwise Symbol.Apart ↔ grammar.shownExternals.Nodup := by
  rw [describes.symbols_eq]
  constructor
  · intro apart
    have externals : ((grammar.externalNames.filter fun name => !grammar.rules.contains name).map
        Grammar.externalSymbol).Pairwise Symbol.Apart := by
      have tokens : (grammar.tokenBlock start).Pairwise Symbol.Apart :=
        (List.pairwise_append.mp (List.pairwise_append.mp (List.pairwise_cons.mp apart).2).1).1
      have named := tokens.filter (·.node.named)
      rw [Grammar.named_tokenBlock describes.entry] at named
      exact (List.pairwise_append.mp named).2.1
    refine List.pairwise_filter.mpr ((List.pairwise_map.mp externals).imp ?_)
    rintro name name' apart shown shown' rfl
    exact apart (by simpa [Symbol.isFindable, Grammar.externalSymbol] using shown)
      (by simpa [Symbol.isFindable, Grammar.externalSymbol] using shown) rfl
  · intro once
    refine List.pairwise_cons.mpr ⟨fun _ _ findable => absurd findable (by decide), ?_⟩
    refine List.pairwise_append.mpr
      ⟨Grammar.pairwise_plain describes.entry once, Grammar.pairwise_alias, ?_⟩
    intro earlier listed later listed' findable _ same
    obtain ⟨kind, _, _, rfl, new⟩ := Grammar.mem_aliasBlock_iff.mp listed'
    exact new earlier listed (Symbol.answersTo_iff.mpr ⟨findable, same⟩)

/-- The numbers in use are those of the symbols. -/
theorem numbered_iff (describes : table.Describes grammar start) :
    id < table.size ∧ table.get? id = some symbol ↔ table.symbols[id]? = some symbol := by
  constructor
  · rintro ⟨inUse, known⟩
    rwa [describes.get?_eq inUse] at known
  · intro here
    have inUse : id < table.size := (Array.getElem?_eq_some_iff.mp here).1
    exact ⟨inUse, (describes.get?_eq inUse).trans here⟩

/-- The kinds that are found among the numbers are those of the findable symbols. -/
theorem isSome_find?_iff (describes : table.Describes grammar start) {kind : NodeKind} :
    (table.numbering.find? .sixteenBit kind).isSome ↔
      ∃ symbol ∈ table.symbols, symbol.isFindable ∧ symbol.node = kind := by
  have reached := describes.reached
  rw [← describes.numbering] at reached
  rw [Numbering.isSome_find?_iff _ _ reached]
  simp only [Symbol.answersTo_iff, Array.mem_toList_iff, symbols]

/-- Where the symbols are told apart, a findable symbol is the one that is found for its kind. -/
theorem find?_eq (describes : table.Describes grammar start)
    (apart : table.symbols.toList.Pairwise Symbol.Apart)
    (here : table.symbols[id]? = some symbol) (findable : symbol.isFindable) :
    table.numbering.find? .sixteenBit symbol.node = some id := by
  have known := describes.isSome_find?_iff.mpr ⟨symbol, Array.mem_of_getElem? here, findable, rfl⟩
  obtain ⟨first, found⟩ := Option.isSome_iff_exists.mp known
  obtain ⟨other, there, answers⟩ := Numbering.getElem?_of_find? found
  obtain ⟨findable', same⟩ := Symbol.answersTo_iff.mp answers
  obtain rfl : first = id := eq_of_pairwise apart there here
    (fun distinct => distinct findable' findable same)
    (fun distinct => distinct findable findable' same.symm)
  exact found

/-- Looking up the kind of any findable symbol gives the symbol exactly if the symbols are told
apart and none of them is of the kind of failures. -/
theorem inverts_iff (describes : table.Describes grammar start) :
    (∀ id symbol, table.symbols[id]? = some symbol → symbol.isFindable →
        table.idForNodeKind? symbol.node = some id) ↔
      table.symbols.toList.Pairwise Symbol.Apart ∧
        ∀ symbol ∈ table.symbols, symbol.isFindable → symbol.node ≠ Symbol.error.node := by
  constructor
  · intro inverts
    refine ⟨List.pairwise_iff_getElem.mpr ?_, ?_⟩
    · intro id id' bound bound' less findable findable' same
      have first := inverts id _ (Array.getElem?_eq_getElem bound) findable
      have second := inverts id' _ (Array.getElem?_eq_getElem bound') findable'
      rw [Array.getElem_toList, Array.getElem_toList] at same
      rw [same, second] at first
      exact Nat.ne_of_lt less (Option.some.inj first).symm
    · intro symbol listed findable failure
      obtain ⟨id, bound, rfl⟩ := Array.mem_iff_getElem.mp listed
      have found := inverts id _ (Array.getElem?_eq_getElem bound) findable
      rw [idForNodeKind?, if_pos failure] at found
      have fits : id < errorId := Nat.lt_trans bound describes.fits
      exact Nat.ne_of_lt fits (Option.some.inj found).symm
  · rintro ⟨apart, others⟩ id symbol here findable
    rw [idForNodeKind?, if_neg (others symbol (Array.mem_of_getElem? here) findable)]
    exact describes.find?_eq apart here findable

end SymbolTable.Describes

namespace SymbolTable

/-- Looking up the kind of a findable symbol always gives its number, unless a name that shows up is
repeated among the external tokens, or a findable symbol has the kind of failures. Without such
repetitions the findable symbols are of distinct kinds, and looking up the kind of a rule or an
external token gives the number of its name. -/
theorem lookup_inverts_iff {grammar : Grammar} {table : SymbolTable}
    (built : build grammar = .ok table) :
    ((∀ id symbol, id < table.size → table.get? id = some symbol → symbol.isFindable →
        table.idForNodeKind? symbol.node = some id) ↔
      ¬ grammar.RepeatsExternal ∧
        ∀ symbol ∈ table.symbols, symbol.isFindable → symbol.node ≠ ⟨"ERROR", true⟩) ∧
    (¬ grammar.RepeatsExternal →
      (∀ id id' symbol symbol', id < table.size → id' < table.size →
        table.get? id = some symbol → table.get? id' = some symbol' →
          symbol.isFindable → symbol'.isFindable → symbol.node = symbol'.node → id = id') ∧
      ∀ name id symbol, table.ruleSymbol? name = some id → table.get? id = some symbol →
        symbol.isFindable → name ≠ "ERROR" →
          table.idForNodeKind? ⟨name, true⟩ = table.ruleSymbol? name) := by
  obtain ⟨start, describes⟩ := describes_of_build built
  have apart_iff : table.symbols.toList.Pairwise Symbol.Apart ↔ ¬ grammar.RepeatsExternal := by
    rw [describes.pairwise_apart_iff, Grammar.repeatsExternal_iff, Classical.not_not]
  refine ⟨?_, fun once => ?_⟩
  · rw [← apart_iff]
    have inverts := describes.inverts_iff
    simp only [← describes.numbered_iff, and_imp] at inverts
    exact inverts
  · have apart := apart_iff.mpr once
    constructor
    · intro id id' symbol symbol' inUse inUse' known known' findable findable' same
      have here := describes.numbered_iff.mp ⟨inUse, known⟩
      have there := describes.numbered_iff.mp ⟨inUse', known'⟩
      exact eq_of_pairwise apart here there (fun distinct => distinct findable findable' same)
        (fun distinct => distinct findable' findable same.symm)
    · intro name id symbol number known findable other
      have own := describes.symbol_of_name name
      rw [number, Option.bind_some, known] at own
      have here := (describes.getElem?_ruleSymbol? number).trans own.symm
      have node := Grammar.node_of_ownSymbol? own.symm
      have kind : (⟨name, true⟩ : NodeKind) ≠ Symbol.error.node := by simp [Symbol.error, other]
      rw [idForNodeKind?, if_neg kind, number, ← node]
      exact describes.find?_eq apart here findable

/-- Two tokens of the scanner that have one name. -/
def repeatedToken : Grammar :=
  { Grammar.empty "repeated" |>.withRule "source_file" (.symbol "indent") with
    externals := some [.symbol "indent", .symbol "indent"] }

/-- All findable symbols of the statements are found by their kinds, and so is the token of the
scanner by its name. A token that is repeated is not. -/
theorem lookup_statements :
    (∃ table, build statements = .ok table ∧
      (∀ id symbol, id < table.size → table.get? id = some symbol → symbol.isFindable →
        table.idForNodeKind? symbol.node = some id) ∧
      table.idForNodeKind? ⟨"indent", true⟩ = some 4) ∧
    ∃ table, build repeatedToken = .ok table ∧
      ¬ ∀ id symbol, id < table.size → table.get? id = some symbol → symbol.isFindable →
        table.idForNodeKind? symbol.node = some id := by
  constructor
  · obtain ⟨table, built, checked⟩ := exists_of_any
      (show (build statements).toOption.any fun table =>
        table.symbols.all (·.node ≠ ⟨"ERROR", true⟩) && table.ruleSymbol? "indent" = some 4 &&
          (table.get? 4).any Symbol.isFindable by decide +kernel)
    simp only [Bool.and_eq_true, decide_eq_true_eq, Array.all_eq_true_iff_forall_mem,
      Option.any_eq_true] at checked
    obtain ⟨⟨others, number⟩, symbol, known, findable⟩ := checked
    have once : ¬ statements.RepeatsExternal := by
      rw [Grammar.repeatsExternal_iff]
      decide +kernel
    obtain ⟨inverts, told⟩ := lookup_inverts_iff built
    have named := (told once).2 "indent" 4 symbol number known findable (by decide)
    exact ⟨table, built, inverts.mpr ⟨once, fun symbol listed _ => others symbol listed⟩,
      named.trans number⟩
  · obtain ⟨table, built, _⟩ := exists_of_any
      (show (build repeatedToken).toOption.any fun table => table.size = 4 by decide +kernel)
    refine ⟨table, built, fun inverts => ?_⟩
    refine ((lookup_inverts_iff built).1.mp inverts).1 (Grammar.repeatsExternal_iff.mpr ?_)
    decide +kernel

end SymbolTable

end GrammarAtlas
