import GrammarAtlas.Proofs.NodeType.References
import GrammarAtlas.Proofs.Symbol.Supertype

/-!
# Which entries are marked as extras

Extras may stand anywhere in a text, and the entries of the rules and external tokens among them are
marked. The mark goes by the name alone, whereas kinds of node are told apart by whether they are
named, too: a literal is marked if its text is the name of an extra.
`Language.extras_marked_iff` says when the marked entries are those of the extras.
-/

namespace GrammarAtlas

namespace Grammar

variable {grammar : Grammar} {name : String}

/-- An item of the extras is a reference to the name. -/
def Interposes (grammar : Grammar) (name : String) : Prop :=
  ∃ extra ∈ grammar.extraRules, extra.symbolName = some name

/-- The names of the extras are those that their items refer to. -/
theorem contains_extraNames : (NodeType.extraNames grammar).contains name ↔
    grammar.Interposes name := by
  rw [NodeType.extraNames, Std.ExtTreeSet.contains_ofList, List.contains_iff_mem,
    List.mem_filterMap, Interposes]

end Grammar

namespace NodeType

variable {grammar : Grammar} {table : SymbolTable} {entry : NodeType} {symbol : Symbol}

/-- A flag is set exactly if the condition holds. -/
theorem flag_eq_some_iff {condition : Bool} : flag condition = some true ↔ condition := by
  rw [flag]
  cases condition <;> simp

/-- The mark of an entry depends on the name of the nodes only. -/
theorem extra_of_ofSymbol? {extras : NameSet} {id : Nat}
    (made : ofSymbol? grammar table extras id symbol = some entry) :
    entry.extra = flag (extras.contains symbol.node.name) := by
  cases ofSymbol_of_ofSymbol? made <;> rfl

/-- An entry is marked exactly if an item of the extras refers to its name. -/
theorem extra_iff (listed : entry ∈ listing grammar table) :
    entry.extra = some true ↔ grammar.Interposes entry.kind.name := by
  obtain ⟨id, symbol, _, made⟩ := exists_numbered listed
  rw [extra_of_ofSymbol? made, flag_eq_some_iff, Grammar.contains_extraNames,
    kind_of_ofSymbol? made]

end NodeType

namespace SymbolTable

variable {table : SymbolTable} {grammar : Grammar} {start name : String} {kind : NodeKind}

/-- An item of the extras refers to a name whose symbol has nodes of the kind. -/
def IsExtra (table : SymbolTable) (grammar : Grammar) (kind : NodeKind) : Prop :=
  ∃ name id symbol, grammar.Interposes name ∧ table.ruleSymbol? name = some id ∧
    table.get? id = some symbol ∧ symbol.node = kind

/-- The kinds of the extras are named, and their names are those of extras with symbols. -/
theorem Describes.isExtra_iff (describes : table.Describes grammar start) :
    table.IsExtra grammar kind ↔
      kind.named ∧ grammar.Interposes kind.name ∧ table.ruleSymbol? kind.name ≠ none := by
  constructor
  · rintro ⟨name, id, symbol, interposed, number, known, rfl⟩
    obtain ⟨owner, own, here⟩ := describes.exists_owner number
    obtain rfl := Option.some.inj (known.symm.trans (describes.numbered_iff.mpr here).2)
    rw [Grammar.node_of_ownSymbol? own]
    exact ⟨rfl, interposed, by simp [number]⟩
  · rintro ⟨named, interposed, numbered⟩
    obtain ⟨id, number⟩ := Option.ne_none_iff_exists'.mp numbered
    obtain ⟨symbol, own, here⟩ := describes.exists_owner number
    refine ⟨kind.name, id, symbol, interposed, number, (describes.numbered_iff.mpr here).2, ?_⟩
    rw [Grammar.node_of_ownSymbol? own, ← named]

end SymbolTable

namespace Language

variable {language : Language} {grammar : Grammar} {displayName : String}

/-- The kinds with entries are those that there are apart from aliases and those that aliases
give. -/
theorem exists_entry_iff (loaded : ofGrammar displayName grammar = .ok language)
    (kind : NodeKind) : (∃ entry ∈ language.nodeTypes, entry.kind = kind) ↔
      grammar.Knows kind ∨ ∃ wrapper, grammar.Gives wrapper kind := by
  obtain ⟨_, ⟨start, describes⟩, nodeTypes⟩ := of_loaded loaded
  rw [nodeTypes, describes.exists_entry_iff, describes.exists_findable_iff]

/-- The entries of extras are marked, and so are all others that have the name of an extra. Only
those of extras are marked exactly if the name of no extra is the text of a literal or of an
anonymous alias, and that of no extra without a symbol is given by a named alias. -/
theorem extras_marked_iff (loaded : ofGrammar displayName grammar = .ok language) :
    (∀ entry ∈ language.nodeTypes,
      entry.extra = some true ↔ grammar.Interposes entry.kind.name) ∧
    (∀ entry ∈ language.nodeTypes,
      language.symbols.IsExtra grammar entry.kind → entry.extra = some true) ∧
    ((∀ entry ∈ language.nodeTypes,
        entry.extra = some true ↔ language.symbols.IsExtra grammar entry.kind) ↔
      ∀ name, grammar.Interposes name →
        ¬ grammar.Spells name ∧ (∀ wrapper, ¬ grammar.Gives wrapper ⟨name, false⟩) ∧
          (language.symbols.ruleSymbol? name = none →
            ∀ wrapper, ¬ grammar.Gives wrapper ⟨name, true⟩)) := by
  obtain ⟨_, ⟨start, describes⟩, nodeTypes⟩ := of_loaded loaded
  have marked : ∀ entry ∈ language.nodeTypes,
      entry.extra = some true ↔ grammar.Interposes entry.kind.name := by
    rw [nodeTypes]
    exact fun entry listed => NodeType.extra_iff listed
  refine ⟨marked, fun entry listed extra => ?_, ?_, ?_⟩
  · exact (marked entry listed).mpr (describes.isExtra_iff.mp extra).2.1
  · intro agrees name interposed
    -- An entry with the name of an extra is marked, and therefore that of an extra.
    have extra {kind : NodeKind} (same : kind.name = name)
        (shown : grammar.Knows kind ∨ ∃ wrapper, grammar.Gives wrapper kind) :
        kind.named ∧ language.symbols.ruleSymbol? name ≠ none := by
      obtain ⟨entry, listed, rfl⟩ := (exists_entry_iff loaded kind).mpr shown
      have mark := (marked entry listed).mpr (same ▸ interposed)
      obtain ⟨named, _, numbered⟩ := describes.isExtra_iff.mp ((agrees entry listed).mp mark)
      exact ⟨named, same ▸ numbered⟩
    refine ⟨fun spelled => ?_, fun wrapper gives => ?_, fun unnumbered wrapper gives => ?_⟩
    · cases (extra rfl (.inl (.literal spelled))).1
    · cases (extra rfl (.inr ⟨wrapper, gives⟩)).1
    · exact (extra rfl (.inr ⟨wrapper, gives⟩)).2 unnumbered
  · intro apart entry listed
    rw [marked entry listed, describes.isExtra_iff]
    refine ⟨fun interposed => ?_, fun extra => extra.2.1⟩
    obtain ⟨unspelled, unnamed, given⟩ := apart _ interposed
    have shown := (exists_entry_iff loaded _).mp ⟨entry, listed, rfl⟩
    generalize entry.kind = kind at interposed unspelled unnamed given shown
    rcases shown with (@⟨name, stands⟩ | @⟨words, spelled⟩) | ⟨wrapper, gives⟩
    · obtain ⟨symbol, own, _⟩ := describes.referent_eq_node_iff.mp stands
      obtain ⟨id, number, _⟩ := describes.exists_number own
      exact ⟨rfl, interposed, by simp [number]⟩
    · exact absurd spelled unspelled
    · obtain ⟨name, named⟩ := kind
      cases named with
      | false => exact absurd gives (unnamed wrapper)
      | true => exact ⟨rfl, interposed, fun unnumbered => given unnumbered wrapper gives⟩

/-- Remarks and words, a remark being an extra. -/
def remarks : Grammar :=
  { Grammar.empty "remarks"
      |>.withRule "source_file" (.zeroOrMore (.symbol "word"))
      |>.withRule "comment" (.text "#")
      |>.withRule "word" (.text "x") with
    extras := some [.symbol "comment"] }

/-- The entry of remarks is marked, and only this one. -/
theorem extras_marked_remarks :
    ∃ language, ofGrammar "Remarks" remarks = .ok language ∧
      (∃ entry ∈ language.nodeTypes, entry.kind = ⟨"comment", true⟩ ∧ entry.extra = some true) ∧
      ∀ entry ∈ language.nodeTypes,
        entry.extra = some true ↔ language.symbols.IsExtra remarks entry.kind := by
  obtain ⟨language, loaded, checked⟩ := exists_of_any
    (show (ofGrammar "Remarks" remarks).toOption.any fun language =>
      (language.nodeTypes.any fun entry =>
        entry.kind = ⟨"comment", true⟩ && entry.extra = some true) &&
      (language.symbols.ruleSymbol? "comment").isSome &&
      language.nodeTypes.all (·.kind ≠ ⟨"comment", false⟩) by decide +kernel)
  simp only [List.any_eq_true, List.all_eq_true, Bool.and_eq_true, decide_eq_true_eq] at checked
  obtain ⟨⟨marked, numbered⟩, silent⟩ := checked
  refine ⟨language, loaded, marked, (extras_marked_iff loaded).2.2.mpr ?_⟩
  rintro name ⟨extra, among, refers⟩
  obtain rfl : extra = .symbol "comment" := List.mem_singleton.mp among
  obtain rfl : "comment" = name := Option.some.inj refers
  have absent (shown : remarks.Knows ⟨"comment", false⟩ ∨
      ∃ wrapper, remarks.Gives wrapper ⟨"comment", false⟩) : False := by
    obtain ⟨entry, listed, kind⟩ := (exists_entry_iff loaded _).mpr shown
    exact silent entry listed kind
  refine ⟨fun spelled => absent (.inl (.literal spelled)),
    fun wrapper gives => absent (.inr ⟨wrapper, gives⟩), fun unnumbered => ?_⟩
  rw [unnumbered] at numbered
  cases numbered

/-- Remarks, and words of which one is spelled as a remark is called. -/
def remarkWords : Grammar :=
  { Grammar.empty "remarks"
      |>.withRule "source_file" (.seq [.text "comment", .symbol "word"])
      |>.withRule "comment" (.text "#")
      |>.withRule "word" (.text "x") with
    extras := some [.symbol "comment"] }

/-- The entry of a literal is marked, but the symbol of the extra has nodes of another kind. -/
theorem extras_marked_remarkWords :
    ∃ language entry, ofGrammar "Remarks" remarkWords = .ok language ∧
      entry ∈ language.nodeTypes ∧ entry.kind = ⟨"comment", false⟩ ∧
      entry.extra = some true ∧ ¬ language.symbols.IsExtra remarkWords entry.kind := by
  obtain ⟨language, loaded, checked⟩ := exists_of_any
    (show (ofGrammar "Remarks" remarkWords).toOption.any fun language =>
      language.nodeTypes.any fun entry =>
        entry.kind = ⟨"comment", false⟩ && entry.extra = some true by decide +kernel)
  simp only [List.any_eq_true, Bool.and_eq_true, decide_eq_true_eq] at checked
  obtain ⟨entry, listed, kind, marked⟩ := checked
  refine ⟨language, entry, loaded, listed, kind, marked, fun extra => ?_⟩
  obtain ⟨_, ⟨start, describes⟩, _⟩ := of_loaded loaded
  have named := (describes.isExtra_iff.mp extra).1
  rw [kind] at named
  cases named

end Language

end GrammarAtlas
