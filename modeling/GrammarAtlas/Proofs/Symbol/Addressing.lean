import GrammarAtlas.Proofs.Symbol.Assembly

/-!
# Numbers of sixteen bits

A numbering of sixteen bits goes wrong once it has more symbols than it can number: it writes the
number of the error symbol for those out of reach, and adds shared symbols again that it cannot
find. Up to there all addressings agree (`Numbering.ofEntries_eq`), and a numbering never gets
smaller. So a table of sixteen bits that is small enough to be accepted is the unlimited table, and
one that is too large shows that the unlimited table is too large as well
(`SymbolTable.build_eq_assemble`).
-/

namespace GrammarAtlas

namespace Addressing

/-- The numbers up to that of the error symbol are in reach. -/
theorem reaches_of_le (addressing : Addressing) {id : Nat} (fits : id ≤ errorId) :
    addressing.reaches id := by
  cases addressing with
  | sixteenBit => exact decide_eq_true fits
  | unbounded => rfl

/-- The numbers up to that of the error symbol are written as they are. -/
theorem idOf_of_le (addressing : Addressing) {id : Nat} (fits : id ≤ errorId) :
    addressing.idOf id = id :=
  if_pos (addressing.reaches_of_le fits)

end Addressing

namespace Numbering

/-! ## Agreement -/

/-- The index of a kind of node is in use. -/
theorem lt_size_of_first (numbering : Numbering) {node : NodeKind} {index : Nat}
    (known : numbering.first[node]? = some index) : index < numbering.symbols.size := by
  rw [numbering.first_eq] at known
  obtain ⟨bound, _⟩ := List.findIdx?_eq_some_iff_getElem.mp known
  exact bound

/-- A kind of node that is found has a number in use. -/
theorem lt_size_of_find? {addressing : Addressing} (numbering : Numbering) {node : NodeKind}
    {id : Nat} (found : numbering.find? addressing node = some id) :
    id < numbering.symbols.size :=
  numbering.lt_size_of_first (Option.filter_eq_some_iff.mp found).1

/-- While all numbers are in reach, the first symbol of a kind of node is found. -/
theorem find?_eq_first (addressing : Addressing) (numbering : Numbering)
    (fits : numbering.symbols.size ≤ errorId) (node : NodeKind) :
    numbering.find? addressing node = numbering.first[node]? := by
  rw [find?]
  cases known : numbering.first[node]? with
  | none => rfl
  | some index =>
    have bound := numbering.lt_size_of_first known
    rw [Option.filter_some_pos (addressing.reaches_of_le (by omega))]

/-- While all numbers are in reach, an entry changes a numbering in the same way under all
addressings. -/
theorem add_eq (left right : Addressing) (numbering : Numbering)
    (fits : numbering.symbols.size ≤ errorId) (entry : Entry) :
    numbering.add left entry = numbering.add right entry := by
  cases entry with
  | own symbol =>
    simp only [add, lastId, symbols_push, Array.size_push, Nat.add_sub_cancel,
      Addressing.idOf_of_le _ fits]
  | shared symbol => rw [add, add, find?_eq_first left _ fits, find?_eq_first right _ fits]

/-- Numberings of the same entries are equal under all addressings, if under one of them there are
no more symbols than numbers in reach. -/
theorem ofEntries_eq {left : Addressing} (right : Addressing) {entries : List Entry}
    (fits : (ofEntries left entries).symbols.size ≤ errorId) :
    ofEntries right entries = ofEntries left entries := by
  induction entries using List.reverseRecOn with
  | nil => rfl
  | append_singleton entries entry ih =>
    have smaller := Nat.le_trans (size_le_size_append left entries [entry]) fits
    rw [ofEntries_append_singleton, ofEntries_append_singleton, ih smaller]
    exact add_eq right left _ smaller entry

/-- While all numbers are in reach, a supertype has the same subtypes under all addressings. -/
theorem subtypeEntry_eq (left right : Addressing) (numbering : Numbering)
    (fits : numbering.symbols.size ≤ errorId) (grammar : Grammar) :
    numbering.subtypeEntry left grammar = numbering.subtypeEntry right grammar := by
  have search : numbering.find? left = numbering.find? right := by
    funext node
    rw [find?_eq_first left _ fits, find?_eq_first right _ fits]
  have alternatives : numbering.alternativeId? left = numbering.alternativeId? right := by
    funext rule
    rw [alternativeId?, alternativeId?, search]
  funext name
  rw [subtypeEntry, subtypeEntry]
  simp only [subtypesOf, alternatives]

/-! ## Numbers in use -/

/-- The symbol that an alternative of a supertype stands for has a number in use. -/
theorem lt_size_of_alternativeId? {addressing : Addressing} (numbering : Numbering)
    (inUse : ∀ (name : String) (id : Nat), numbering.ruleIds[name]? = some id →
      id < numbering.symbols.size)
    {rule : Rule} {id : Nat} (stands : numbering.alternativeId? addressing rule = some id) :
    id < numbering.symbols.size := by
  rw [alternativeId?] at stands
  split at stands
  · obtain ⟨name, _, known⟩ := Option.bind_eq_some_iff.mp stands
    exact inUse name id known
  · obtain ⟨words, _, found⟩ := Option.bind_eq_some_iff.mp stands
    exact numbering.lt_size_of_find? found
  · obtain ⟨node, _, found⟩ := Option.bind_eq_some_iff.mp stands
    exact numbering.lt_size_of_find? found
  · exact absurd stands (by simp)

/-- The numbers of a supertype and of its subtypes are in use. -/
theorem lt_size_of_subtypeEntry {addressing : Addressing} (numbering : Numbering)
    (inUse : ∀ (name : String) (id : Nat), numbering.ruleIds[name]? = some id →
      id < numbering.symbols.size)
    {grammar : Grammar} {name : String} {id : Nat} {ids : List Nat}
    (given : numbering.subtypeEntry addressing grammar name = some (id, ids)) :
    id < numbering.symbols.size ∧ ∀ subtype ∈ ids, subtype < numbering.symbols.size := by
  rw [subtypeEntry] at given
  split at given
  · rename_i number body known _
    obtain ⟨rfl, rfl⟩ := Prod.mk.inj (Option.some.inj given)
    refine ⟨inUse name _ known, fun subtype listed => ?_⟩
    rw [subtypesOf, Std.ExtTreeSet.mem_toList, Std.ExtTreeSet.mem_ofList,
      List.contains_iff_mem, List.mem_filterMap] at listed
    obtain ⟨rule, _, stands⟩ := listed
    exact numbering.lt_size_of_alternativeId? inUse stands
  · exact absurd given (by simp)

end Numbering

/-- What a table that is made of a list holds is in the list. -/
theorem mem_of_getElem?_ofList {α : Type} {entries : List (Nat × α)} {key : Nat} {value : α}
    (held : (Std.ExtTreeMap.ofList entries)[key]? = some value) : (key, value) ∈ entries := by
  induction entries using List.reverseRecOn with
  | nil => simp at held
  | append_singleton entries entry ih =>
    rw [Std.ExtTreeMap.ofList_eq_insertMany_empty, Std.ExtTreeMap.insertMany_append,
      ← Std.ExtTreeMap.ofList_eq_insertMany_empty, Std.ExtTreeMap.insertMany_list_singleton,
      Std.ExtTreeMap.getElem?_insert] at held
    split at held
    · rename_i same
      obtain rfl : entry.1 = key := by simpa using same
      obtain rfl := Option.some.inj held
      exact List.mem_concat_self
    · exact List.mem_append_left _ (ih held)

namespace SymbolTable

/-- All numbers that a table holds are those of its symbols. -/
structure NumbersInUse (table : SymbolTable) : Prop where
  /-- Rules and external tokens have such numbers. -/
  rules : ∀ (name : String) (id : Nat), table.ruleSymbol? name = some id → id < table.size
  /-- The entry rule has one. -/
  start : table.start < table.size
  /-- Supertypes and their subtypes have some. -/
  subtypes : ∀ (id : Nat) (ids : List Nat), table.subtypeIds[id]? = some ids →
    id < table.size ∧ ∀ subtype ∈ ids, subtype < table.size

/-- Where all numbers are in reach, a symbol table holds only numbers of its symbols. -/
theorem numbersInUse {addressing : Addressing} {grammar : Grammar} {start : String}
    {table : SymbolTable}
    (numbering : table.numbering = .ofEntries addressing (grammar.entries start))
    (number : table.ruleSymbol? start = some table.start)
    (subtypes : table.subtypeIds = .ofList (grammar.supertypeNames.filterMap
      (table.numbering.subtypeEntry addressing grammar)))
    (fits : table.size ≤ errorId) : table.NumbersInUse := by
  have inUse : ∀ (name : String) (id : Nat), table.numbering.ruleIds[name]? = some id →
      id < table.numbering.symbols.size := by
    rw [size, symbols, numbering] at fits
    rw [numbering]
    refine (Numbering.faithful_ofEntries _ fun index bound => ?_).inUse
    exact addressing.reaches_of_le (by omega)
  constructor
  · exact inUse
  · exact inUse start _ number
  · intro id ids held
    rw [subtypes] at held
    obtain ⟨name, _, given⟩ := List.mem_filterMap.mp (mem_of_getElem?_ofList held)
    exact table.numbering.lt_size_of_subtypeEntry inUse given

/-- Symbol tables of a grammar are equal under all addressings, if under one of them there are no
more symbols than numbers in reach. -/
theorem assemble_eq {left : Addressing} (right : Addressing) {grammar : Grammar} {start : String}
    (entry : grammar.startRule = some start)
    (fits : (Numbering.ofEntries left (grammar.entries start)).symbols.size ≤ errorId) :
    assemble right grammar = assemble left grammar := by
  simp only [assemble, entry, Numbering.ofEntries_eq right fits,
    Numbering.subtypeEntry_eq right left _ fits]

/-- A grammar whose entry rule is determined and not inlined, and none of whose external tokens is
declared a supertype, has a table with unlimited numbers. It has a table with numbers of sixteen
bits exactly if there are fewer symbols and fields than the number of the error symbol. That is the
same table then, and all numbers in it are those of its symbols. -/
theorem build_eq_assemble {grammar : Grammar} {start : String}
    (entry : grammar.startRule = some start) (kept : ¬ grammar.isInlined start)
    (bodied : ∀ name, build grammar ≠ .error (.bodilessSupertype name)) :
    ∃ reference, assemble .unbounded grammar = .ok reference ∧
      ((∃ table, build grammar = .ok table) ↔
        reference.size < errorId ∧ reference.fieldCount < errorId) ∧
      (∀ table, build grammar = .ok table → table = reference ∧ table.NumbersInUse) ∧
      (errorId ≤ reference.size → ∃ count, build grammar = .error (.tooManySymbols count)) := by
  have bodied : ∀ name, ¬ grammar.Bodiless name := fun name bodiless =>
    let ⟨failing, failed⟩ := (bodiless_iff grammar).mpr ⟨start, entry, kept, name, bodiless⟩
    bodied failing failed
  obtain ⟨reference, wide, unlimited, _⟩ := exists_assemble .unbounded entry kept bodied
  obtain ⟨table, narrow, numbering, number, subtypes⟩ :=
    exists_assemble .sixteenBit entry kept bodied
  refine ⟨reference, wide, ?_⟩
  by_cases fits : table.size < errorId
  · -- The table is small enough, so it is the unlimited one.
    have bound :
        (Numbering.ofEntries .sixteenBit (grammar.entries start)).symbols.size ≤ errorId := by
      rw [← numbering]
      exact Nat.le_of_lt fits
    have same := assemble_eq .unbounded entry bound
    rw [wide, narrow] at same
    obtain rfl := Except.ok.inj same
    have inUse := numbersInUse numbering number subtypes (Nat.le_of_lt fits)
    simp only [build, narrow, Nat.not_le_of_lt fits, if_false]
    by_cases few : reference.fieldCount < errorId
    · simp only [Nat.not_le_of_lt few, if_false, Except.ok.injEq]
      refine ⟨⟨fun _ => ⟨fits, few⟩, fun _ => ⟨reference, rfl⟩⟩, ?_, False.elim⟩
      rintro table rfl
      exact ⟨rfl, inUse⟩
    · simp [Nat.le_of_not_lt few, few]
  · -- The table is too large, and a smaller unlimited one would be the same.
    have large : ¬ reference.size < errorId := by
      intro small
      have bound :
          (Numbering.ofEntries .unbounded (grammar.entries start)).symbols.size ≤ errorId := by
        rw [← unlimited]
        exact Nat.le_of_lt small
      have same := assemble_eq .sixteenBit entry bound
      rw [wide, narrow] at same
      exact fits (Except.ok.inj same ▸ small)
    simp [build, narrow, Nat.le_of_not_lt fits, large]

/-- A supertype of calls, a literal and an alias, besides an external token. -/
def statements : Grammar :=
  { Grammar.empty "statements"
      |>.withRule "source_file" (.zeroOrMore (.symbol "_statement"))
      |>.withRule "_statement"
        (.choice [.symbol "call", .aliased (.symbol "call") "send" true, .text ";"])
      |>.withRule "call" (.seq [.field "callee" (.symbol "word"), .text "()"])
      |>.withRule "word" (.text "x") with
    externals := some [.symbol "indent"]
    supertypes := some ["_statement"] }

/-- The table of the statements is the unlimited one. -/
theorem build_statements :
    statements.startRule = some "source_file" ∧ ¬ statements.isInlined "source_file" ∧
      ∃ table, build statements = .ok table ∧ assemble .unbounded statements = .ok table ∧
        table.size < errorId ∧ table.NumbersInUse := by
  have entry : statements.startRule = some "source_file" := by decide +kernel
  have kept : ¬ statements.isInlined "source_file" := by decide +kernel
  have succeeds : (build statements).toOption.isSome := by decide +kernel
  cases built : build statements with
  | error error =>
    rw [built] at succeeds
    exact absurd succeeds (by simp [Except.toOption])
  | ok table =>
    obtain ⟨reference, wide, small, same, _⟩ :=
      build_eq_assemble entry kept fun name failed => by simp [built] at failed
    obtain ⟨rfl, inUse⟩ := same table built
    exact ⟨entry, kept, table, rfl, wide, (small.mp ⟨table, built⟩).1, inUse⟩

end SymbolTable

end GrammarAtlas
