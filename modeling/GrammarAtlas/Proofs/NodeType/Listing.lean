import GrammarAtlas.Language
import GrammarAtlas.Proofs.Derivation.Referent
import GrammarAtlas.Proofs.NodeType.Exactness

/-!
# What the node types list

The listing has one entry for each kind of node, the one of the first symbol of that kind
(`NodeType.find?_listing`). The entry of a rule with a structure of its own has the summary of the
body of that rule, place by place (`Language.slots_of_composite`).
-/

namespace GrammarAtlas

namespace NodeType

/-- What the entry lists for a place: a field, or the children outside all fields. -/
def occupancy? (entry : NodeType) : Option String → Option Occupancy
  | some name => entry.fields.bind (·[name]?)
  | none => entry.children

/-! ## One entry for each kind -/

/-- The table by kind has the first entry of each kind. -/
theorem getElem?_firstByKind (entries : List NodeType) (kind : NodeKind) :
    (firstByKind entries)[kind]? = entries.find? (·.kind = kind) := by
  induction entries using List.reverseRecOn with
  | nil => rw [firstByKind, List.foldl_nil, Std.ExtTreeMap.getElem?_empty, List.find?_nil]
  | append_singleton entries entry ih =>
    rw [firstByKind, List.foldl_append, List.foldl_cons, List.foldl_nil, ← firstByKind,
      Std.ExtTreeMap.getElem?_insertIfNew, List.find?_append, ← ih]
    by_cases same : entry.kind = kind
    · subst same
      cases known : (firstByKind entries)[entry.kind]? with
      | none => simp [Std.ExtTreeMap.mem_iff_isSome_getElem?, known]
      | some found => simp [Std.ExtTreeMap.mem_iff_isSome_getElem?, known]
    · simp [same]

/-- Grouping keeps all entries. -/
theorem mem_grouped {entries : List NodeType} {entry : NodeType} :
    entry ∈ grouped entries ↔ entry ∈ entries := by
  simp only [grouped, List.mem_append, List.mem_filter]
  cases entry.isSupertype <;> cases entry.kind.named <;> simp

/-- An entry is listed exactly if it is the first one of its kind. -/
theorem mem_listing {grammar : Grammar} {table : SymbolTable} {entry : NodeType} :
    entry ∈ listing grammar table ↔
      (candidates grammar table).find? (·.kind = entry.kind) = some entry := by
  rw [listing, mem_grouped, List.mem_map]
  simp only [Prod.exists, exists_eq_right, Std.ExtTreeMap.mem_toList_iff_getElem?_eq_some,
    getElem?_firstByKind]
  constructor
  · rintro ⟨kind, found⟩
    obtain rfl : entry.kind = kind := by simpa using List.find?_some found
    exact found
  · exact fun found => ⟨_, found⟩

/-- The listing has the first entry of each kind. -/
theorem find?_listing (grammar : Grammar) (table : SymbolTable) (kind : NodeKind) :
    (listing grammar table).find? (·.kind = kind) =
      (candidates grammar table).find? (·.kind = kind) := by
  cases found : (listing grammar table).find? (·.kind = kind) with
  | some entry =>
    have same : entry.kind = kind := by simpa using List.find?_some found
    rw [← same]
    exact (mem_listing.mp (List.mem_of_find?_eq_some found)).symm
  | none =>
    cases first : (candidates grammar table).find? (·.kind = kind) with
    | none => rfl
    | some entry =>
      have same : entry.kind = kind := by simpa using List.find?_some first
      have listed : entry ∈ listing grammar table := mem_listing.mpr (same ▸ first)
      exact absurd (decide_eq_true same) (List.find?_eq_none.mp found entry listed)

/-- An entry with a summary lists what the slots of the summary hold. -/
theorem occupancy?_withSummary (entry : NodeType) (summary : Summary) (place : Option String) :
    (entry.withSummary summary).occupancy? place = (summary.slot place).occupancy? := by
  cases place with
  | none => rfl
  | some name =>
    rw [occupancy?, withSummary, Option.bind_some, Std.ExtTreeMap.getElem?_filterMap',
      Summary.slot, Std.ExtTreeMap.getD_eq_getD_getElem?]
    cases summary.fields[name]? with
    | some slot => rfl
    | none => rfl

/-- What is in the node type of a symbol whatever the symbol stands for. -/
def ofNode (extras : NameSet) (symbol : Symbol) : NodeType :=
  { kind := symbol.node, extra := flag (extras.contains symbol.node.name) }

/-- The node type of a symbol, by what the symbol stands for. -/
inductive OfSymbol (grammar : Grammar) (table : SymbolTable) (extras : NameSet) (id : Nat)
    (symbol : Symbol) : NodeType → Prop
  /-- A token that shows up has no structure. -/
  | token : symbol.kind = .terminal ∨ symbol.kind = .external → symbol.visible →
    OfSymbol grammar table extras id symbol (ofNode extras symbol)
  /-- A supertype has subtypes. -/
  | supertype : symbol.kind = .nonTerminal → symbol.supertype →
    OfSymbol grammar table extras id symbol
      { ofNode extras symbol with subtypes := some (subtypeKinds table id) }
  /-- Any other rule that shows up has the summary of its body. -/
  | rule {body : Rule} : symbol.kind = .nonTerminal → ¬ symbol.supertype → symbol.visible →
    grammar.rules[symbol.node.name]? = some body →
    OfSymbol grammar table extras id symbol
      ({ ofNode extras symbol with root := flag (id = table.start) }.withSummary
        (body.summary grammar table))
  /-- A kind that only aliases give has the summary of the body that is renamed first. -/
  | renamed {body : Rule} : symbol.kind = .aliased →
    grammar.aliasedBody? table symbol.node = some body →
    OfSymbol grammar table extras id symbol
      ((ofNode extras symbol).withSummary (body.summary grammar table))
  /-- It has no structure if no rule is renamed to it. -/
  | unstructured : symbol.kind = .aliased → grammar.aliasedBody? table symbol.node = none →
    OfSymbol grammar table extras id symbol (ofNode extras symbol)

/-- The node type of a symbol is one of these. -/
theorem ofSymbol_of_ofSymbol? {grammar : Grammar} {table : SymbolTable} {extras : NameSet}
    {id : Nat} {symbol : Symbol} {entry : NodeType}
    (made : ofSymbol? grammar table extras id symbol = some entry) :
    OfSymbol grammar table extras id symbol entry := by
  rw [ofSymbol?] at made
  cases kind : symbol.kind <;> simp only [kind] at made
  case endOfInput | error => cases made
  case terminal | external =>
    obtain ⟨visible, same⟩ := Option.ite_none_right_eq_some.mp made
    obtain rfl := Option.some.inj same
    exact .token (by simp [kind]) visible
  case nonTerminal =>
    split at made
    · rename_i supertype
      obtain rfl := Option.some.inj made
      exact .supertype kind supertype
    · rename_i other
      obtain ⟨visible, made⟩ := Option.ite_none_right_eq_some.mp made
      obtain ⟨body, rule, rfl⟩ := Option.map_eq_some_iff.mp made
      exact .rule kind other visible rule
  case aliased =>
    split at made
    · rename_i body renamed
      obtain rfl := Option.some.inj made
      exact .renamed kind renamed
    · rename_i nothing
      obtain rfl := Option.some.inj made
      exact .unstructured kind nothing

/-- The entry of a symbol is of the kind of its nodes. -/
theorem kind_of_ofSymbol? {grammar : Grammar} {table : SymbolTable} {extras : NameSet} {id : Nat}
    {symbol : Symbol} {entry : NodeType}
    (made : ofSymbol? grammar table extras id symbol = some entry) : entry.kind = symbol.node := by
  cases ofSymbol_of_ofSymbol? made <;> rfl

/-- The numbered symbols are those of the table. -/
theorem mem_entries {table : SymbolTable} {symbol : Symbol} :
    (∃ id, (id, symbol) ∈ table.entries) ↔ symbol ∈ table.symbols := by
  simp only [SymbolTable.entries, List.mem_map, Prod.exists, Prod.mk.injEq]
  rw [← Array.mem_toList_iff]
  constructor
  · rintro ⟨id, found, index, listed, rfl, rfl⟩
    exact List.fst_mem_of_mem_zipIdx listed
  · intro listed
    obtain ⟨index, bound, rfl⟩ := List.mem_iff_getElem.mp listed
    exact ⟨index, _, index, List.mk_mem_zipIdx_iff_getElem?.mpr (List.getElem?_eq_getElem bound),
      rfl, rfl⟩

end NodeType

/-! ## Entries of rules -/

namespace SymbolTable.Describes

variable {table : SymbolTable} {grammar : Grammar} {start name : String} {body : Rule}

/-- A rule with a structure of its own has an entry with the summary of its body. -/
theorem entry_of_composite (describes : table.Describes grammar start)
    (composite : grammar.Composite name body) :
    ∃ entry, (NodeType.listing grammar table).find? (·.kind = ⟨name, true⟩) = some entry ∧
      ∀ place, entry.occupancy? place = ((body.summary grammar table).slot place).occupancy? := by
  have visible := describes.visible_of_composite composite
  rw [Grammar.ruleSymbol] at visible
  have known := describes.ownSymbol_of_composite composite
  have made (id : Nat) : ∃ entry : NodeType,
      NodeType.ofSymbol? grammar table (NodeType.extraNames grammar) id
        (grammar.ruleSymbol start name) =
          some (entry.withSummary (body.summary grammar table)) := by
    have plain : grammar.isSupertype name = false := Bool.eq_false_iff.mpr composite.plain
    simp only [NodeType.ofSymbol?, Grammar.ruleSymbol, plain, visible, composite.rule]
    exact ⟨_, rfl⟩
  rw [NodeType.find?_listing]
  cases found : (NodeType.candidates grammar table).find? (·.kind = ⟨name, true⟩) with
  | none =>
    obtain ⟨id, numbered⟩ := NodeType.mem_entries.mpr (describes.mem_symbols known)
    obtain ⟨entry, made⟩ := made id
    have listed : entry.withSummary (body.summary grammar table) ∈
        NodeType.candidates grammar table := List.mem_filterMap.mpr ⟨_, numbered, made⟩
    have kind := NodeType.kind_of_ofSymbol? made
    exact absurd (decide_eq_true kind) (List.find?_eq_none.mp found _ listed)
  | some entry =>
    refine ⟨entry, rfl, fun place => ?_⟩
    obtain ⟨⟨id, symbol⟩, numbered, listed⟩ :=
      List.mem_filterMap.mp (List.mem_of_find?_eq_some found)
    have kind : entry.kind = ⟨name, true⟩ := by simpa using List.find?_some found
    have findable : (grammar.ruleSymbol start name).isFindable := by
      simp [Symbol.isFindable, Grammar.ruleSymbol, visible]
    obtain rfl := describes.symbol_eq known findable (NodeType.mem_entries.mp ⟨id, numbered⟩)
      ((NodeType.kind_of_ofSymbol? listed).symm.trans kind)
    obtain ⟨bare, made⟩ := made id
    obtain rfl := Option.some.inj (listed.symm.trans made)
    exact NodeType.occupancy?_withSummary bare _ place

end SymbolTable.Describes

namespace Language

variable {language : Language} {grammar : Grammar} {displayName name : String} {body : Rule}

/-- The entry of a kind of node. -/
def nodeType? (language : Language) (kind : NodeKind) : Option NodeType :=
  language.nodeTypes.find? (·.kind = kind)

/-- A grammar that loads has no defect, and the language has its symbol table and its node types. -/
theorem parts_of_loaded (loaded : ofGrammar displayName grammar = .ok language) :
    grammar.defect? = none ∧ SymbolTable.build grammar = .ok language.symbols ∧
      language.nodeTypes = NodeType.listing grammar language.symbols := by
  rw [ofGrammar] at loaded
  split at loaded
  · exact absurd loaded (by simp)
  · rename_i consistent
    split at loaded
    · exact absurd loaded (by simp)
    · rename_i table built
      obtain rfl := Except.ok.inj loaded
      exact ⟨consistent, built, rfl⟩

/-- A grammar that loads is described by the symbol table of the language. -/
theorem of_loaded (loaded : ofGrammar displayName grammar = .ok language) :
    grammar.defect? = none ∧ (∃ start, language.symbols.Describes grammar start) ∧
      language.nodeTypes = NodeType.listing grammar language.symbols := by
  obtain ⟨consistent, built, nodeTypes⟩ := parts_of_loaded loaded
  exact ⟨consistent, SymbolTable.describes_of_build built, nodeTypes⟩

/-- The entry of a rule with a structure of its own lists the slots of the summary of its body. -/
theorem slots_of_composite (loaded : ofGrammar displayName grammar = .ok language)
    (composite : grammar.Composite name body) :
    ∃ entry, language.nodeType? ⟨name, true⟩ = some entry ∧
      ∀ place, entry.occupancy? place =
        (body.slotOf grammar language.symbols none place).occupancy? := by
  obtain ⟨_, ⟨start, describes⟩, nodeTypes⟩ := of_loaded loaded
  rw [nodeType?, nodeTypes]
  exact describes.entry_of_composite composite

/-- What the entry of a kind of node lists for a place, if the grammar loads. -/
def occupancy? (displayName : String) (grammar : Grammar) (kind : NodeKind)
    (place : Option String) : Option Occupancy :=
  (ofGrammar displayName grammar).toOption.bind fun language =>
    (language.nodeType? kind).bind (·.occupancy? place)

/-- What is listed for a place is in an entry of a language. -/
theorem exists_of_occupancy? {kind : NodeKind} {place : Option String} {occupancy : Occupancy}
    (listed : occupancy? displayName grammar kind place = some occupancy) :
    ∃ language entry, ofGrammar displayName grammar = .ok language ∧
      language.nodeType? kind = some entry ∧ entry.occupancy? place = some occupancy := by
  rw [occupancy?] at listed
  cases loaded : ofGrammar displayName grammar with
  | error error => simp [loaded, Except.toOption] at listed
  | ok language =>
    rw [loaded, Except.toOption, Option.bind_some] at listed
    obtain ⟨entry, found, listed⟩ := Option.bind_eq_some_iff.mp listed
    exact ⟨language, entry, rfl, found, listed⟩

end Language

end GrammarAtlas
