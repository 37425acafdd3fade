import GrammarAtlas.Proofs.Grammar.Reordering
import GrammarAtlas.Proofs.Symbol.Supertype

/-!
# Symbols that are numbered in another order

When the declarations of a grammar come in another order, its symbols are numbered in another order,
but they are the same symbols (`SymbolTable.Describes.perm_symbols`). A number of the one table has
its counterpart in the other: the number of the same name, or that of the first symbol of the same
kind of node. The two ways agree (`SymbolTable.Describes.counterpart_unique`), although the number
of an external token that comes several times is that of the last one.
-/

namespace GrammarAtlas

namespace Numbering

variable {addressing : Addressing} {name : String} {symbol : Symbol} {id index : Nat}

/-- A symbol that is not shared does not come behind the number of its name. -/
theorem le_of_ruleIds {entries : List Entry}
    (reached : ∀ index < (ofEntries addressing entries).symbols.size, addressing.reaches index)
    (stored : (ofEntries addressing entries).ruleIds[symbol.node.name]? = some id)
    (here : (ofEntries addressing entries).symbols[index]? = some symbol)
    (unshared : .shared symbol ∉ entries) : index ≤ id := by
  induction entries using List.reverseRecOn with
  | nil => simp [ofEntries, initial] at stored
  | append_singleton entries entry ih =>
    have smaller := size_le_size_append addressing entries [entry]
    have reached' : ∀ index < (ofEntries addressing entries).symbols.size,
        addressing.reaches index :=
      fun index bound => reached index (Nat.lt_of_lt_of_le bound smaller)
    have ih := fun stored here => ih reached' stored here
      fun listed => unshared (List.mem_append_left _ listed)
    rw [ofEntries_append_singleton] at reached stored here
    cases entry with
    | own added =>
      rw [symbols_add_own] at here reached
      have last : addressing.idOf (ofEntries addressing entries).symbols.size =
          (ofEntries addressing entries).symbols.size :=
        if_pos (reached _ (by simp))
      rw [ruleIds_add_own, last, Std.ExtTreeMap.getElem?_insert] at stored
      rw [Array.getElem?_push] at here
      split at stored
      · obtain rfl := Option.some.inj stored
        split at here
        · omega
        · exact Nat.le_of_lt (Array.getElem?_eq_some_iff.mp here).1
      · rename_i other
        split at here
        · obtain rfl := Option.some.inj here
          exact absurd Std.ReflCmp.compare_self other
        · exact ih stored here
    | shared added =>
      rw [ruleIds_add_shared] at stored
      rcases symbols_add addressing (ofEntries addressing entries) (.shared added) with same | more
      · rw [same] at here
        exact ih stored here
      · rw [more, Array.getElem?_push] at here
        split at here
        · obtain rfl := Option.some.inj here
          exact absurd List.mem_concat_self unshared
        · exact ih stored here

end Numbering

namespace Grammar

variable {grammar grammar' : Grammar} {start name : String} {symbol : Symbol}

/-- The symbols of names are not shared. -/
theorem unshared_of_own (own : grammar.ownSymbol? start name = some symbol) :
    .shared symbol ∉ grammar.entries start := by
  intro listed
  rw [entries_eq] at listed
  rcases List.mem_append.mp listed with plain | aliased
  · obtain ⟨words, rfl⟩ := literal_of_shared plain
    cases congrArg NodeKind.named (node_of_ownSymbol? own)
  · obtain ⟨kind, rfl⟩ := alternative_of_shared aliased
    exact kind_ne_aliased own rfl

namespace Reordered

/-! ## Blocks -/

/-- The tokens are the same, in any order. -/
theorem perm_tokenBlock (reordered : grammar.Reordered grammar')
    (entry : grammar.startRule = some start) :
    (grammar.tokenBlock start).Perm (grammar'.tokenBlock start) := by
  have entry' : grammar'.startRule = some start := by rw [reordered.startRule_eq, entry]
  have named : ((grammar.tokenBlock start).filter (·.node.named)).Perm
      ((grammar'.tokenBlock start).filter (·.node.named)) := by
    rw [named_tokenBlock entry, named_tokenBlock entry', reordered.orderedRules_eq,
      reordered.rules_eq]
    exact ((reordered.perm_externalNames.filter _).map _).append_left _
  have literals : ((grammar.tokenBlock start).filter (!·.node.named)).Perm
      ((grammar'.tokenBlock start).filter (!·.node.named)) := by
    refine (List.perm_ext_iff_of_nodup (nodup_literals entry) (nodup_literals entry')).mpr
      fun symbol => ?_
    rw [List.mem_filter, List.mem_filter, Bool.not_eq_true', ← Bool.not_eq_true,
      mem_tokenBlock_iff entry, mem_tokenBlock_iff entry']
    simp only [reordered.spells_iff]
  exact (List.filter_append_perm _ _).symm.trans
    ((named.append literals).trans (List.filter_append_perm _ _))

/-- The rules that are made of other symbols are the same, and they come in the same order. -/
theorem ruleBlock_eq (reordered : grammar.Reordered grammar') (start : String) :
    grammar'.ruleBlock start = grammar.ruleBlock start := by
  simp only [ruleBlock, reordered.orderedRules_eq, reordered.isInlined_eq,
    reordered.ruleSymbol_eq]

/-- The kinds of node that only aliases give are the same, in any order. -/
theorem perm_aliasBlock (reordered : grammar.Reordered grammar')
    (entry : grammar.startRule = some start) :
    (grammar.aliasBlock start).Perm (grammar'.aliasBlock start) := by
  refine (List.perm_ext_iff_of_nodup nodup_aliasBlock nodup_aliasBlock).mpr fun symbol => ?_
  simp only [mem_aliasBlock_iff, reordered.gives_iff, reordered.ruleBlock_eq, List.mem_append,
    (reordered.perm_tokenBlock entry).mem_iff]

end Reordered

end Grammar

namespace SymbolTable

variable {table table' : SymbolTable} {grammar grammar' : Grammar} {start name : String}
  {symbol symbol' own : Symbol} {id id' id'' : Nat} {kind : NodeKind}

/-- Numbers of two tables stand for the same: they are those of one name, or those of the first
symbols of one kind. -/
inductive Counterpart (table table' : SymbolTable) (id id' : Nat) : Prop
  /-- They are the numbers of a name. -/
  | name {name : String} : table.ruleSymbol? name = some id →
    table'.ruleSymbol? name = some id' → Counterpart table table' id id'
  /-- They are the numbers of the first findable symbols of a kind. -/
  | first {kind : NodeKind} : table.IsFirst kind id → table'.IsFirst kind id' →
    Counterpart table table' id id'

/-- What stands for the same does so in the other direction. -/
theorem Counterpart.symm (counterpart : Counterpart table table' id id') :
    Counterpart table' table id' id := by
  cases counterpart with
  | name number number' => exact .name number' number
  | first first first' => exact .first first' first

/-- A kind has one first symbol. -/
theorem IsFirst.unique (first : table.IsFirst kind id) (first' : table.IsFirst kind id') :
    id = id' := by
  obtain ⟨⟨symbol, here, answers⟩, before⟩ := first
  obtain ⟨⟨symbol', here', answers'⟩, before'⟩ := first'
  rcases Nat.lt_trichotomy id id' with less | same | more
  · exact absurd answers (before' id less symbol here)
  · exact same
  · exact absurd answers' (before id' more symbol' here')

/-- A symbol is the first one of one kind only. -/
theorem IsFirst.kind_eq {kind' : NodeKind} (first : table.IsFirst kind id)
    (first' : table.IsFirst kind' id) : kind = kind' := by
  obtain ⟨⟨symbol, here, answers⟩, _⟩ := first
  obtain ⟨⟨symbol', here', answers'⟩, _⟩ := first'
  obtain rfl := Option.some.inj (here.symm.trans here')
  exact (Symbol.answersTo_iff.mp answers).2.symm.trans (Symbol.answersTo_iff.mp answers').2

namespace Describes

/-- Findable symbols of one kind are the same, though they may have several numbers. -/
theorem eq_of_findable (describes : table.Describes grammar start)
    (listed : symbol ∈ table.symbols) (findable : symbol.isFindable)
    (listed' : symbol' ∈ table.symbols) (findable' : symbol'.isFindable)
    (same : symbol.node = symbol'.node) : symbol = symbol' := by
  cases describes.origin listed with
  | endOfInput => cases findable
  | own known =>
    have node := Grammar.node_of_ownSymbol? known
    exact (describes.symbol_eq known findable listed' (same.symm.trans node)).symm
  | alternative unknown =>
    have unknown' : ¬ grammar.Knows symbol'.node := same ▸ unknown
    rw [describes.eq_alternative listed' findable' unknown', ← same]
    rfl
  | literal spelled =>
    cases describes.origin listed' with
    | endOfInput => cases findable'
    | own known =>
      rw [Grammar.node_of_ownSymbol? known] at same
      cases congrArg NodeKind.named same
    | literal => exact congrArg Symbol.literal (congrArg NodeKind.name same)
    | @alternative kind unknown =>
      obtain rfl : ⟨_, false⟩ = kind := same
      exact absurd (.literal spelled) unknown

/-- Reordering declarations changes only the order of the symbols. -/
theorem perm_symbols (describes : table.Describes grammar start)
    (describes' : table'.Describes grammar' start) (reordered : grammar.Reordered grammar') :
    table.symbols.toList.Perm table'.symbols.toList := by
  have entry := describes.entry
  rw [describes.symbols_eq, describes'.symbols_eq, reordered.ruleBlock_eq]
  exact (((reordered.perm_tokenBlock entry).append_right _).append
    (reordered.perm_aliasBlock entry)).cons _

/-- The symbol of a name does not come behind its number. -/
theorem le_of_own (describes : table.Describes grammar start)
    (known : grammar.ownSymbol? start name = some own) (number : table.ruleSymbol? name = some id)
    {index : Nat} (here : table.symbols[index]? = some own) : index ≤ id := by
  obtain rfl : own.node.name = name := by rw [Grammar.node_of_ownSymbol? known]
  rw [ruleSymbol?, describes.numbering] at number
  rw [symbols, describes.numbering] at here
  exact Numbering.le_of_ruleIds describes.reached number here (Grammar.unshared_of_own known)

/-- If the number of a name is also that of the first symbol of a kind, it is so in both tables. -/
theorem number_eq_first (describes : table.Describes grammar start)
    (describes' : table'.Describes grammar' start) (reordered : grammar.Reordered grammar')
    (number : table.ruleSymbol? name = some id) (first : table.IsFirst kind id)
    (number' : table'.ruleSymbol? name = some id') (first' : table'.IsFirst kind id'') :
    id' = id'' := by
  obtain ⟨own, known, here⟩ := describes.exists_owner number
  obtain ⟨own', known', there⟩ := describes'.exists_owner number'
  obtain rfl : own = own' := by
    rw [reordered.ownSymbol?_eq, known] at known'
    exact Option.some.inj known'
  obtain ⟨⟨_, here', answers⟩, before⟩ := first
  obtain rfl := Option.some.inj (here.symm.trans here')
  obtain ⟨⟨other, there', answers'⟩, _⟩ := first'
  obtain ⟨findable, node⟩ := Symbol.answersTo_iff.mp answers
  obtain ⟨findable', node'⟩ := Symbol.answersTo_iff.mp answers'
  obtain rfl : own = other := describes'.eq_of_findable (Array.mem_of_getElem? there) findable
    (Array.mem_of_getElem? there') findable' (node.trans node'.symm)
  -- The symbol comes nowhere before its number nor behind it, so it comes once, in both tables.
  have alone {index : Nat} (there : table.symbols[index]? = some own) : index = id := by
    refine Nat.le_antisymm (describes.le_of_own known number there)
      (Nat.le_of_not_lt fun less => ?_)
    exact before index less own there answers
  have once : table.symbols.toList.Pairwise fun one other => ¬ (one = own ∧ other = own) := by
    rw [List.pairwise_iff_getElem]
    rintro index index' bound bound' less ⟨same, same'⟩
    have first := alone (Array.getElem?_eq_some_iff.mpr ⟨bound, same⟩)
    have second := alone (Array.getElem?_eq_some_iff.mpr ⟨bound', same'⟩)
    omega
  have once' := (List.Perm.pairwise_iff (fun apart both => apart both.symm)
    (describes.perm_symbols describes' reordered)).mp once
  exact eq_of_pairwise once' there there' (fun apart => apart ⟨rfl, rfl⟩)
    fun apart => apart ⟨rfl, rfl⟩

/-- A number has one counterpart. -/
theorem counterpart_unique (describes : table.Describes grammar start)
    (describes' : table'.Describes grammar' start) (reordered : grammar.Reordered grammar')
    (one : Counterpart table table' id id') (other : Counterpart table table' id id'') :
    id' = id'' := by
  cases one with
  | name number number' =>
    cases other with
    | name other other' =>
      obtain rfl := describes.name_eq number other
      exact Option.some.inj (number'.symm.trans other')
    | first first first' =>
      exact describes.number_eq_first describes' reordered number first number' first'
  | first first first' =>
    cases other with
    | name number number' =>
      exact (describes.number_eq_first describes' reordered number first number' first').symm
    | first other other' =>
      obtain rfl := first.kind_eq other
      exact first'.unique other'

/-- What an alternative stands for has a counterpart, for which the alternative stands in the other
table. -/
theorem exists_counterpart (describes : table.Describes grammar start)
    (describes' : table'.Describes grammar' start) (reordered : grammar.Reordered grammar')
    {alternative : Rule} (denotes : table.Denotes alternative id) :
    ∃ id', table'.Denotes alternative id' ∧ Counterpart table table' id id' := by
  have exists_first {kind : NodeKind} (first : table.IsFirst kind id) :
      ∃ id', table'.IsFirst kind id' := by
    obtain ⟨⟨symbol, here, answers⟩, _⟩ := first
    have listed := Array.mem_toList_iff.mpr (Array.mem_of_getElem? here)
    have listed' := (describes.perm_symbols describes' reordered).mem_iff.mp listed
    exact describes'.exists_first
      ⟨symbol, Array.mem_toList_iff.mp listed', Symbol.answersTo_iff.mp answers⟩
  cases denotes with
  | reference refers number =>
    obtain ⟨own, known, _⟩ := describes.exists_owner number
    rw [← reordered.ownSymbol?_eq] at known
    obtain ⟨id', number', _⟩ := describes'.exists_number known
    exact ⟨id', .reference refers number', .name number number'⟩
  | literal text first =>
    obtain ⟨id', first'⟩ := exists_first first
    exact ⟨id', .literal text first', .first first first'⟩
  | renamed renames first =>
    obtain ⟨id', first'⟩ := exists_first first
    exact ⟨id', .renamed renames first', .first first first'⟩

/-- Counterparts have nodes of the same kind. -/
theorem node_of_counterpart (describes : table.Describes grammar start)
    (describes' : table'.Describes grammar' start)
    (counterpart : Counterpart table table' id id') :
    (table.get? id).map Symbol.node = (table'.get? id').map Symbol.node := by
  cases counterpart with
  | @name name number number' =>
    obtain ⟨own, known, here⟩ := describes.exists_owner number
    obtain ⟨own', known', here'⟩ := describes'.exists_owner number'
    rw [(describes.numbered_iff.mpr here).2, (describes'.numbered_iff.mpr here').2,
      Option.map_some, Option.map_some, Grammar.node_of_ownSymbol? known,
      Grammar.node_of_ownSymbol? known']
  | first first first' =>
    obtain ⟨⟨symbol, here, answers⟩, _⟩ := first
    obtain ⟨⟨symbol', here', answers'⟩, _⟩ := first'
    rw [(describes.numbered_iff.mpr here).2, (describes'.numbered_iff.mpr here').2,
      Option.map_some, Option.map_some, (Symbol.answersTo_iff.mp answers).2,
      (Symbol.answersTo_iff.mp answers').2]

end Describes

end SymbolTable

end GrammarAtlas
