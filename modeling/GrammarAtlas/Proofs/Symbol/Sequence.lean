import GrammarAtlas.Proofs.Symbol.Numbering

/-!
# The sequence of the symbols

As long as all numbers are in reach, the symbols of a numbering follow from its entries without any
number: an entry that is shared adds its symbol unless one before it answers to the same kind of
node. `Numbering.appended` is this pass over the entries, and `Numbering.symbols_ofEntries` says
that it gives the symbols in the order of their numbers. It goes through one part of the entries
after another (`appended_append`), so the symbols fall into blocks as the entries do.
-/

namespace GrammarAtlas

/-- A look-up of a kind of node finds the findable symbols of the kind. -/
theorem Symbol.answersTo_iff {symbol : Symbol} {node : NodeKind} :
    symbol.answersTo node ↔ symbol.isFindable ∧ symbol.node = node := by
  rw [answersTo, Bool.and_eq_true, decide_eq_true_eq]

namespace Numbering

variable {addressing : Addressing} {before : List Symbol} {entries : List Entry} {symbol : Symbol}

/-- The symbols that entries add behind others. -/
def appended (before : List Symbol) : List Entry → List Symbol
  | [] => []
  | .own symbol :: rest => symbol :: appended (before ++ [symbol]) rest
  | .shared symbol :: rest =>
    if before.any (·.answersTo symbol.node) then appended before rest
    else symbol :: appended (before ++ [symbol]) rest

/-- Further entries add their symbols behind those of the entries before. -/
theorem appended_append (before : List Symbol) (entries others : List Entry) :
    appended before (entries ++ others) =
      appended before entries ++ appended (before ++ appended before entries) others := by
  induction entries generalizing before with
  | nil => simp [appended]
  | cons entry entries ih =>
    cases entry with
    | own symbol => simp [appended, ih]
    | shared symbol =>
      simp only [List.cons_append, appended]
      split
      · exact ih before
      · simp [ih]

/-! ## Numbers in reach -/

/-- While all numbers are in reach, what can be found is what some symbol answers to. -/
theorem isSome_find?_iff (numbering : Numbering) (node : NodeKind)
    (reached : ∀ index < numbering.symbols.size, addressing.reaches index) :
    (numbering.find? addressing node).isSome ↔
      ∃ symbol ∈ numbering.symbols.toList, symbol.answersTo node := by
  constructor
  · intro found
    obtain ⟨symbol, listed, findable, rfl⟩ := exists_of_find? found
    exact ⟨symbol, Array.mem_toList_iff.mpr listed, Symbol.answersTo_iff.mpr ⟨findable, rfl⟩⟩
  · rintro ⟨symbol, listed, answers⟩
    obtain ⟨findable, rfl⟩ := Symbol.answersTo_iff.mp answers
    exact numbering.find?_isSome (Array.mem_toList_iff.mp listed) findable reached

/-- While all numbers are in reach, an entry adds its symbol behind the others. -/
theorem symbols_add_eq (numbering : Numbering)
    (reached : ∀ index < numbering.symbols.size, addressing.reaches index) (entry : Entry) :
    (numbering.add addressing entry).symbols.toList =
      numbering.symbols.toList ++ appended numbering.symbols.toList [entry] := by
  cases entry with
  | own symbol => simp [appended]
  | shared symbol =>
    have found := numbering.isSome_find?_iff symbol.node reached
    rw [← List.any_eq_true] at found
    rw [symbols_add_shared]
    by_cases known : numbering.symbols.toList.any (·.answersTo symbol.node)
    · rw [if_pos (found.mpr known)]
      simp [appended, known]
    · rw [if_neg fun known' => known (found.mp known')]
      simp [appended, known]

/-- While all numbers are in reach, the symbols are the end of the input and those that the entries
add behind it. -/
theorem symbols_ofEntries
    (reached : ∀ index < (ofEntries addressing entries).symbols.size, addressing.reaches index) :
    (ofEntries addressing entries).symbols.toList =
      .endOfInput :: appended [.endOfInput] entries := by
  induction entries using List.reverseRecOn with
  | nil => simp [ofEntries, initial, appended]
  | append_singleton entries entry ih =>
    have smaller := size_le_size_append addressing entries [entry]
    have reached : ∀ index < (ofEntries addressing entries).symbols.size,
        addressing.reaches index :=
      fun index bound => reached index (Nat.lt_of_lt_of_le bound smaller)
    rw [ofEntries_append_singleton, symbols_add_eq _ reached, ih reached, appended_append,
      List.cons_append, List.singleton_append]

/-! ## Where the symbols come from -/

/-- A symbol that is added is added as it is, or it is shared and none before answers to its kind of
node. -/
theorem mem_appended (listed : symbol ∈ appended before entries) :
    .own symbol ∈ entries ∨
      .shared symbol ∈ entries ∧ ∀ earlier ∈ before, ¬ earlier.answersTo symbol.node := by
  induction entries generalizing before with
  | nil => exact absurd listed List.not_mem_nil
  | cons entry entries ih =>
    have later {known : List Symbol} (among : before ⊆ known)
        (listed : symbol ∈ appended known entries) :
        .own symbol ∈ entry :: entries ∨ .shared symbol ∈ entry :: entries ∧
          ∀ earlier ∈ before, ¬ earlier.answersTo symbol.node := by
      rcases ih listed with own | ⟨shared, new⟩
      · exact .inl (List.mem_cons_of_mem _ own)
      · exact .inr ⟨List.mem_cons_of_mem _ shared, fun earlier known => new earlier (among known)⟩
    cases entry with
    | own added =>
      rcases List.mem_cons.mp listed with rfl | listed
      · exact .inl List.mem_cons_self
      · exact later (List.subset_append_left _ _) listed
    | shared added =>
      rw [appended] at listed
      split at listed
      · exact later (List.Subset.refl _) listed
      · rename_i unknown
        rcases List.mem_cons.mp listed with rfl | listed
        · exact .inr ⟨List.mem_cons_self, by simpa using unknown⟩
        · exact later (List.subset_append_left _ _) listed

/-- A kind of node that a shared symbol is asked for has a symbol that answers to it. -/
theorem exists_answersTo (before : List Symbol) (asked : .shared symbol ∈ entries)
    (findable : symbol.isFindable) :
    ∃ other ∈ before ++ appended before entries, other.answersTo symbol.node := by
  obtain ⟨front, back, rfl⟩ := List.append_of_mem asked
  rw [appended_append, ← List.append_assoc]
  generalize before ++ appended before front = known
  by_cases answered : known.any (·.answersTo symbol.node)
  · obtain ⟨other, listed, answers⟩ := List.any_eq_true.mp answered
    exact ⟨other, List.mem_append_left _ listed, answers⟩
  · refine ⟨symbol, List.mem_append_right _ ?_, by simp [Symbol.answersTo, findable]⟩
    simp [appended, answered]

/-- Of the symbols that are added, the shared ones are of kinds that none before answers to. -/
theorem pairwise_appended (before : List Symbol) (entries : List Entry) :
    (appended before entries).Pairwise fun earlier later =>
      .own later ∈ entries ∨ ¬ earlier.answersTo later.node := by
  induction entries generalizing before with
  | nil => exact .nil
  | cons entry entries ih =>
    have others (known : List Symbol) : (appended known entries).Pairwise fun earlier later =>
        .own later ∈ entry :: entries ∨ ¬ earlier.answersTo later.node :=
      (ih known).imp fun apart => apart.imp_left (List.mem_cons_of_mem _)
    have first (symbol : Symbol) : (symbol :: appended (before ++ [symbol]) entries).Pairwise
        fun earlier later => .own later ∈ entry :: entries ∨ ¬ earlier.answersTo later.node := by
      refine List.pairwise_cons.mpr ⟨fun later listed => ?_, others _⟩
      rcases mem_appended listed with own | ⟨_, new⟩
      · exact .inl (List.mem_cons_of_mem _ own)
      · exact .inr (new symbol List.mem_concat_self)
    cases entry with
    | own symbol => exact first symbol
    | shared symbol =>
      rw [appended]
      split
      · exact others before
      · exact first symbol

/-- What tells the symbols that are added as they are from the shared ones picks them out, in the
order of their entries. -/
theorem filter_appended {holds : Symbol → Bool}
    (own : ∀ symbol, .own symbol ∈ entries → holds symbol)
    (shared : ∀ symbol, .shared symbol ∈ entries → ¬ holds symbol) (before : List Symbol) :
    (appended before entries).filter holds = entries.filterMap Entry.own? := by
  induction entries generalizing before with
  | nil => rfl
  | cons entry entries ih =>
    have ih := ih (fun symbol listed => own symbol (List.mem_cons_of_mem _ listed))
      fun symbol listed => shared symbol (List.mem_cons_of_mem _ listed)
    cases entry with
    | own symbol =>
      simp [appended, own symbol List.mem_cons_self, ih, Entry.own?]
    | shared symbol =>
      rw [appended, List.filterMap_cons_none rfl]
      split
      · exact ih before
      · rw [List.filter_cons_of_neg (shared symbol List.mem_cons_self), ih]

/-- Symbols that are all added as they are follow one another. -/
theorem appended_of_own (own : ∀ symbol, .shared symbol ∉ entries) (before : List Symbol) :
    appended before entries = entries.filterMap Entry.own? := by
  have all : (appended before entries).filter (fun _ => true) = appended before entries :=
    List.filter_eq_self.mpr fun _ _ => rfl
  rw [← all]
  exact filter_appended (fun _ _ => rfl) (fun symbol listed => absurd listed (own symbol)) before

/-- No symbol that is only shared is added twice. -/
theorem nodup_filter_appended {holds : Symbol → Bool}
    (shared : ∀ symbol, holds symbol → .own symbol ∉ entries)
    (findable : ∀ symbol, .shared symbol ∈ entries → symbol.isFindable) (before : List Symbol) :
    ((appended before entries).filter holds).Nodup := by
  refine ((pairwise_appended before entries).filter holds).imp_of_mem ?_
  rintro earlier later listed listed' apart rfl
  obtain ⟨among, picked⟩ := List.mem_filter.mp listed
  have asked := (mem_appended among).resolve_left (shared _ picked)
  exact apart.elim (shared _ picked) fun silent =>
    silent (Symbol.answersTo_iff.mpr ⟨findable _ asked.1, rfl⟩)

end Numbering

end GrammarAtlas
