import GrammarAtlas.Proofs.Grammar.Arrangement
import GrammarAtlas.Proofs.Grammar.Verdict
import GrammarAtlas.Proofs.Symbol.Assembly
import GrammarAtlas.Proofs.Symbol.Layout
import GrammarAtlas.Proofs.Symbol.Table
import GrammarAtlas.Proofs.Text.Bytes

/-!
# Fields in the symbol table

The fields of a grammar are the labels in its rule bodies, each of them once and in the order of
their bytes, and they are numbered from one. A name and its number determine each other
(`SymbolTable.numbersFields_of_build`).

As the names are in order, the number of a name need not be searched for from the front: the range
where the name can be is halved until one index is left (`Bisection.index?`).
-/

namespace GrammarAtlas

/-! ## Halving -/

namespace Bisection

variable {names : Array String} {name : String} {index : Nat}

/-- Of so many indices from the first one on, the one that is left when the half where the name
cannot be is left out again and again. Names are compared by their bytes. -/
def narrow (names : Array String) (name : String) (first count : Nat)
    (fits : first + count ≤ names.size) : Nat :=
  if several : 1 < count then
    if Text.bytes name < Text.bytes names[first + count / 2] then
      narrow names name first (count - count / 2) (by omega)
    else narrow names name (first + count / 2) (count - count / 2) (by omega)
  else first
termination_by count

/-- The index of a name among names in order. -/
def index? (names : Array String) (name : String) : Option Nat :=
  let index := narrow names name 0 names.size (by omega)
  if names[index]? = some name then some index else none

/-- The names are in the order of their bytes, and none of them comes twice. -/
def Ordered (names : Array String) : Prop :=
  names.toList.Pairwise fun name other => Text.bytes name < Text.bytes other

/-- Of two names in order, the one with the smaller bytes comes first. -/
theorem Ordered.lt_iff (ordered : Ordered names) {index other : Nat} {name name' : String}
    (here : names[index]? = some name) (there : names[other]? = some name') :
    Text.bytes name < Text.bytes name' ↔ index < other := by
  have before {index other : Nat} {name name' : String} (here : names[index]? = some name)
      (there : names[other]? = some name') (less : index < other) :
      Text.bytes name < Text.bytes name' := by
    obtain ⟨bound, rfl⟩ := Array.getElem?_eq_some_iff.mp here
    obtain ⟨bound', rfl⟩ := Array.getElem?_eq_some_iff.mp there
    exact List.pairwise_iff_getElem.mp ordered index other bound bound' less
  constructor
  · intro less
    by_contra after
    rcases Nat.lt_or_eq_of_le (Nat.le_of_not_lt after) with greater | rfl
    · exact List.lt_asymm less (before there here greater)
    · obtain rfl := Option.some.inj (here.symm.trans there)
      exact List.lt_irrefl _ less
  · exact before here there

/-- A name that is among the indices is never left out. -/
theorem narrow_eq (ordered : Ordered names) (here : names[index]? = some name)
    {first count : Nat} (fits : first + count ≤ names.size) (from_first : first ≤ index)
    (within : index < first + count) : narrow names name first count fits = index := by
  fun_induction narrow names name first count fits with
  | case1 first count fits several less ih =>
    have middle := (ordered.lt_iff here (Array.getElem?_eq_getElem (by omega))).mp less
    exact ih from_first (by omega)
  | case2 first count fits several not_less ih =>
    have middle : ¬ index < first + count / 2 := fun before =>
      not_less ((ordered.lt_iff here (Array.getElem?_eq_getElem (by omega))).mpr before)
    exact ih (by omega) (by omega)
  | case3 first count fits single =>
    omega

/-- Halving finds the index of every name that is there, and of no other. -/
theorem index?_eq_some_iff (ordered : Ordered names) :
    index? names name = some index ↔ names[index]? = some name := by
  rw [index?]
  constructor
  · intro found
    obtain ⟨here, same⟩ := Option.ite_none_right_eq_some.mp found
    rwa [← Option.some.inj same]
  · intro here
    have bound := (Array.getElem?_eq_some_iff.mp here).1
    rw [narrow_eq ordered here _ (Nat.zero_le _) (by omega), if_pos here]

end Bisection

/-! ## The labels of a grammar -/

/-- The label of a node is the name that a field has. -/
theorem Rule.fieldName_eq_some_iff {rule : Rule} {name : String} :
    rule.fieldName = some name ↔ rule.kind = .field ∧ rule.name = some name :=
  Option.ite_none_right_eq_some

namespace Grammar

variable {grammar : Grammar} {name : String}

/-- A field at some depth of a rule body has that name. -/
def Labels (grammar : Grammar) (name : String) : Prop :=
  ∃ (target : String) (body node : Rule), grammar.rules[target]? = some body ∧ node.Within body ∧
    node.kind = .field ∧ node.name = some name

/-- The labels in rule bodies are the names of the fields. -/
theorem mem_fieldNames_iff :
    name ∈ grammar.fieldNames ↔ ∃ (target : String) (body : Rule),
      grammar.rules[target]? = some body ∧ ∃ node ∈ body.walk, node.fieldName = some name := by
  rw [fieldNames, Std.ExtTreeSet.mem_toList, Std.ExtTreeSet.mem_ofList, List.contains_iff_mem]
  simp only [List.mem_flatMap, Prod.exists, Std.ExtTreeMap.mem_toList_iff_getElem?_eq_some,
    List.mem_filterMap]

/-- The names of the fields are those that fields at any depth have. -/
theorem mem_fieldNames_iff_labels : name ∈ grammar.fieldNames ↔ grammar.Labels name := by
  simp only [mem_fieldNames_iff, Rule.mem_walk_iff, Rule.fieldName_eq_some_iff, Labels,
    exists_and_left]

/-- The names of the fields are in the order of their bytes. -/
theorem ordered_fieldNames (grammar : Grammar) : Bisection.Ordered grammar.fieldNames.toArray := by
  have ordered : grammar.fieldNames.Pairwise fun name other => compare name other = .lt :=
    Std.ExtTreeSet.ordered_toList
  exact ordered.imp fun less => Text.lt_iff_bytes_lt.mp (compareOfLessAndEq_eq_lt.mp less)

end Grammar

/-! ## Numbers of fields -/

namespace SymbolTable

variable {table : SymbolTable} {name : String} {id : Nat}

/-- The number of the field of that name, found by halving. There is none out of reach. -/
def bisectedFieldId? (table : SymbolTable) (name : String) : Option Nat :=
  ((Bisection.index? table.fields name).map (· + 1)).filter Addressing.sixteenBit.reaches

/-- The numbers in reach, from one on, together with the fields. -/
def zippedFields (table : SymbolTable) : List (Nat × String) :=
  (List.range' 1 errorId).zip table.fields.toList

/-- The fields of a table are the labels of its grammar, and they are numbered in the order of their
bytes, from one to the number of fields. -/
structure NumbersFields (table : SymbolTable) (grammar : Grammar) : Prop where
  /-- A name has a number exactly if a field at some depth of a rule body has it. -/
  labelled : ∀ name, (table.fieldId? name).isSome ↔ grammar.Labels name
  /-- The number of a name and the name of a number are inverse to each other. -/
  inverse : ∀ id name, table.fieldId? name = some id ↔ table.fieldName? id = some name
  /-- The numbers in use are those from one to the number of fields. -/
  inUse : ∀ id, (∃ name, table.fieldId? name = some id) ↔ 1 ≤ id ∧ id ≤ table.fieldCount
  /-- All of them are in reach. -/
  inReach : table.fieldCount < errorId
  /-- A name with smaller bytes has a smaller number. -/
  increasing : ∀ name other id id', table.fieldId? name = some id →
    table.fieldId? other = some id' → (Text.bytes name < Text.bytes other ↔ id < id')
  /-- The fields are listed by their numbers. -/
  listedInOrder : table.fieldEntries.map Prod.fst = List.range' 1 table.fieldCount
  /-- Each of them is listed under its number. -/
  listed : ∀ id name, (id, name) ∈ table.fieldEntries ↔ table.fieldId? name = some id
  /-- Numbers can be found by halving. -/
  bisected : ∀ name, table.bisectedFieldId? name = table.fieldId? name
  /-- Numbering the fields as far as numbers reach leaves out none of them. -/
  zipped : table.zippedFields = table.fieldEntries
  /-- It does not matter in which order the rules come. -/
  anyOrder : ∀ arranged : Arrangement grammar, arranged.fieldNames = table.fields.toList

/-- A name has a number exactly if it is that of a field. -/
theorem isSome_fieldId?_iff : (table.fieldId? name).isSome ↔ name ∈ table.fields := by
  rw [fieldId?, Option.isSome_map, List.findIdx?_isSome, List.any_eq_true]
  simp

/-- The number of a field is one more than its index. -/
theorem fieldName?_eq_some_iff :
    table.fieldName? id = some name ↔
      ∃ index, id = index + 1 ∧ table.fields[index]? = some name := by
  cases id with
  | zero => simp [fieldName?]
  | succ index => simp [fieldName?]

/-- Where the names are in order, that is the number that is found for the name. -/
theorem fieldId?_eq_some_iff (ordered : Bisection.Ordered table.fields) :
    table.fieldId? name = some id ↔ ∃ index, id = index + 1 ∧ table.fields[index]? = some name := by
  have only (index : Nat) : table.fields.toList.findIdx? (· == name) = some index ↔
      table.fields[index]? = some name := by
    rw [List.findIdx?_eq_some_iff_getElem]
    constructor
    · rintro ⟨bound, same, _⟩
      exact Array.getElem?_eq_some_iff.mpr ⟨bound, eq_of_beq same⟩
    · intro here
      obtain ⟨bound, same⟩ := Array.getElem?_eq_some_iff.mp here
      refine ⟨bound, beq_iff_eq.mpr same, fun earlier before again => ?_⟩
      -- A name that came earlier as well would come before itself.
      have there := Array.getElem?_eq_some_iff.mpr ⟨Nat.lt_trans before bound, eq_of_beq again⟩
      exact List.lt_irrefl _ ((ordered.lt_iff there here).mpr before)
  rw [fieldId?, Option.map_eq_some_iff]
  simp only [only]
  exact exists_congr fun index => and_comm.trans (and_congr_left fun _ => eq_comm)

/-- A name with smaller bytes has a smaller number. -/
theorem lt_iff_of_fieldId? (ordered : Bisection.Ordered table.fields) {other : String} {id' : Nat}
    (number : table.fieldId? name = some id) (number' : table.fieldId? other = some id') :
    Text.bytes name < Text.bytes other ↔ id < id' := by
  obtain ⟨index, rfl, here⟩ := (fieldId?_eq_some_iff ordered).mp number
  obtain ⟨index', rfl, there⟩ := (fieldId?_eq_some_iff ordered).mp number'
  rw [ordered.lt_iff here there, Nat.add_lt_add_iff_right]

/-- The numbers in use are those from one to the number of fields. -/
theorem exists_fieldId?_iff (ordered : Bisection.Ordered table.fields) :
    (∃ name, table.fieldId? name = some id) ↔ 1 ≤ id ∧ id ≤ table.fieldCount := by
  simp only [fieldId?_eq_some_iff ordered]
  constructor
  · rintro ⟨name, index, rfl, here⟩
    have bound : index < table.fieldCount := (Array.getElem?_eq_some_iff.mp here).1
    omega
  · rintro ⟨positive, bound⟩
    have inside : id - 1 < table.fields.size := by
      rw [← fieldCount]
      omega
    exact ⟨_, id - 1, by omega, Array.getElem?_eq_getElem inside⟩

/-- Where the names are in order, halving finds the number of a name, as long as numbers reach that
far. -/
theorem bisectedFieldId?_eq (ordered : Bisection.Ordered table.fields)
    (fits : table.fieldCount < errorId) (name : String) :
    table.bisectedFieldId? name = table.fieldId? name := by
  refine Option.ext fun id => ?_
  rw [fieldId?_eq_some_iff ordered, bisectedFieldId?, Option.filter_eq_some_iff,
    Option.map_eq_some_iff]
  simp only [Bisection.index?_eq_some_iff ordered]
  constructor
  · rintro ⟨⟨index, here, rfl⟩, _⟩
    exact ⟨index, rfl, here⟩
  · rintro ⟨index, rfl, here⟩
    have bound : index < table.fieldCount := (Array.getElem?_eq_some_iff.mp here).1
    have reached : index + 1 ≤ errorId := Nat.le_trans bound (Nat.le_of_lt fits)
    exact ⟨⟨index, here, rfl⟩, decide_eq_true reached⟩

/-! ## The listing of fields -/

/-- The numbers in the listing go from one to the number of fields. -/
theorem map_fst_fieldEntries :
    table.fieldEntries.map Prod.fst = List.range' 1 table.fieldCount := by
  refine List.ext_getElem ?_ fun index bound bound' => ?_
  · simp [fieldEntries, fieldCount]
  · simp [fieldEntries, Nat.add_comm]

/-- Where the names are in order, each of them is listed under its number. -/
theorem mem_fieldEntries_iff (ordered : Bisection.Ordered table.fields) :
    (id, name) ∈ table.fieldEntries ↔ table.fieldId? name = some id := by
  rw [List.mem_iff_getElem?, fieldId?_eq_some_iff ordered]
  refine exists_congr fun index => ?_
  have entry : table.fieldEntries[index]? =
      (table.fields[index]?).map fun name => (index + 1, name) := by
    simp [fieldEntries, Function.comp_def]
  rw [entry, Option.map_eq_some_iff]
  constructor
  · rintro ⟨found, here, same⟩
    obtain ⟨rfl, rfl⟩ := Prod.mk.inj same
    exact ⟨rfl, here⟩
  · rintro ⟨rfl, here⟩
    exact ⟨name, here, rfl⟩

/-- As long as numbers reach that far, counting along with the fields leaves out none of them. -/
theorem zippedFields_eq (fits : table.fieldCount < errorId) :
    table.zippedFields = table.fieldEntries := by
  have shorter : min errorId table.fields.size = table.fields.size :=
    Nat.min_eq_right (Nat.le_of_lt fits)
  refine List.ext_getElem ?_ fun index bound bound' => ?_
  · simpa [zippedFields, fieldEntries] using shorter
  · simp [zippedFields, fieldEntries, Nat.add_comm]

/-! ## Tables that have been built -/

/-- A table that has been built has fewer fields than there are numbers. -/
theorem fieldCount_lt_of_build {grammar : Grammar} (built : build grammar = .ok table) :
    table.fieldCount < errorId := by
  rw [build_eq] at built
  cases assembled : assemble .sixteenBit grammar with
  | error error =>
    rw [assembled] at built
    cases built
  | ok made =>
    rw [assembled, Except.bind, withinLimits] at built
    split at built
    · cases built
    · split at built
      · cases built
      · rename_i few
        obtain rfl := Except.ok.inj built
        exact Nat.lt_of_not_le few

/-- The fields of a grammar are numbered from one in the order of their bytes: a name has a number
exactly if a field has it, names and numbers determine each other, and the fields are listed with
their numbers. Numbers can be found by halving, and they never get out of reach. -/
theorem numbersFields_of_build {grammar : Grammar} (built : build grammar = .ok table) :
    table.NumbersFields grammar := by
  obtain ⟨start, describes⟩ := describes_of_build built
  have fits := fieldCount_lt_of_build built
  have ordered : Bisection.Ordered table.fields := describes.fields ▸ grammar.ordered_fieldNames
  constructor
  case labelled =>
    intro name
    rw [isSome_fieldId?_iff, describes.fields, List.mem_toArray, Grammar.mem_fieldNames_iff_labels]
  case inverse =>
    intro id name
    rw [fieldId?_eq_some_iff ordered, fieldName?_eq_some_iff]
  case inUse => exact fun id => exists_fieldId?_iff ordered
  case inReach => exact fits
  case increasing => exact fun name other id id' => lt_iff_of_fieldId? ordered
  case listedInOrder => exact map_fst_fieldEntries
  case listed => exact fun id name => mem_fieldEntries_iff ordered
  case bisected => exact bisectedFieldId?_eq ordered fits
  case zipped => exact zippedFields_eq fits
  case anyOrder =>
    intro arranged
    rw [arranged.fieldNames_eq, describes.fields]

/-- Bindings with labels at several depths. One label stands in two rules, once inside a token. -/
def bindings : Grammar :=
  Grammar.empty "bindings"
    |>.withRule "source_file" (.zeroOrMore (.field "binding" (.symbol "binding")))
    |>.withRule "binding"
      (.seq [.field "name" (.symbol "word"), .text "=",
        .optional (.prec 1 (.field "value" (.seq [.field "sign" (.text "-"), .symbol "word"])))])
    |>.withRule "word" (.token (.field "name" (.pattern "[a-z]+")))

/-- The four labels of the bindings are numbered. -/
theorem numbersFields_bindings :
    ∃ table, build bindings = .ok table ∧ table.NumbersFields bindings ∧
      table.fieldEntries = [(1, "binding"), (2, "name"), (3, "sign"), (4, "value")] ∧
      table.bisectedFieldId? "sign" = some 3 := by
  obtain ⟨table, built, checked⟩ := exists_of_any
    (show (build bindings).toOption.any fun table =>
      table.fieldEntries = [(1, "binding"), (2, "name"), (3, "sign"), (4, "value")] by
        decide +kernel)
  have listed := of_decide_eq_true checked
  have numbers := numbersFields_of_build built
  refine ⟨table, built, numbers, listed, ?_⟩
  rw [numbers.bisected, ← numbers.listed, listed]
  decide

end SymbolTable

end GrammarAtlas
