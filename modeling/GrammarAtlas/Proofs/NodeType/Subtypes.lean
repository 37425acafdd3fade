import GrammarAtlas.Proofs.Language.Supertypes

/-!
# What the subtypes in a listing refer to

The entry of a supertype lists the kinds that the supertype stands for. Literals and aliases are
looked up among the symbols whose nodes show up, so they always have entries. References are looked
up by name, and names may also be those of hidden rules and tokens.
`Language.subtypes_described_iff` says which references have to be absent for every subtype to be
described.
-/

namespace GrammarAtlas

/-- A supertype with that body stands for the nodes of the name. -/
def Rule.Offers (body : Rule) (name : String) : Prop :=
  ∃ alternative ∈ body.alternatives, alternative.symbolName = some name

namespace Grammar

variable {grammar : Grammar} {start name : String} {kind : NodeKind} {symbol : Symbol}

/-- The name has a symbol, but no nodes of it show up in trees. -/
inductive Conceals (grammar : Grammar) (name : String) : Prop
  /-- It is the name of a hidden token. -/
  | token {body : Rule} : grammar.rules[name]? = some body → body.isLexical → isHidden name →
    ¬ grammar.isEntry name → Conceals grammar name
  /-- It is the name of a hidden rule which is neither put in place of the references to it nor a
  supertype. -/
  | rule {body : Rule} : grammar.rules[name]? = some body → ¬ grammar.isInlined name →
    ¬ grammar.isSupertype name → isHidden name → ¬ grammar.isEntry name → Conceals grammar name
  /-- It is the name of a hidden external token. -/
  | external : grammar.rules[name]? = none → name ∈ grammar.externalNames → isHidden name →
    Conceals grammar name

/-- Concealed names are hidden. -/
theorem Conceals.hidden (conceals : grammar.Conceals name) : isHidden name := by
  cases conceals with
  | token _ _ hidden | rule _ _ _ hidden | external _ _ hidden => exact hidden

/-- A concealed name has a symbol that cannot be found. -/
theorem Conceals.exists_symbol (conceals : grammar.Conceals name)
    (entry : grammar.startRule = some start) :
    ∃ symbol, grammar.ownSymbol? start name = some symbol ∧ ¬ symbol.isFindable := by
  have silent (hidden : isHidden name) : ¬ (tokenSymbol name).isFindable := by
    simp [Symbol.isFindable, tokenSymbol, hidden]
  cases conceals with
  | @token body rule lexical hidden other =>
    rw [isEntry_eq entry, decide_eq_true_eq] at other
    have token : isToken start name body := by simp [isToken, other, lexical]
    exact ⟨tokenSymbol name, by simp [ownSymbol?, rule, token], silent hidden⟩
  | @rule body rule kept plain hidden other =>
    rw [isEntry_eq entry, decide_eq_true_eq] at other
    by_cases token : isToken start name body
    · exact ⟨tokenSymbol name, by simp [ownSymbol?, rule, token], silent hidden⟩
    · exact ⟨grammar.ruleSymbol start name, by simp [ownSymbol?, rule, token, kept],
        by simp [Symbol.isFindable, ruleSymbol, other, hidden, plain]⟩
  | external unruled listed hidden =>
    exact ⟨externalSymbol name, by simp [ownSymbol?, unruled, listed],
      by simp [Symbol.isFindable, externalSymbol, hidden]⟩

/-- A name is concealed if its symbol cannot be found. -/
theorem conceals_of_silent (entry : grammar.startRule = some start)
    (own : grammar.ownSymbol? start name = some symbol) (silent : ¬ symbol.isFindable) :
    grammar.Conceals name := by
  rw [Symbol.isFindable, Bool.or_eq_true, not_or] at silent
  obtain ⟨hidden, plain⟩ := silent
  cases ownSymbol_of_ownSymbol? own with
  | @token body rule token =>
    rw [isToken, Bool.and_eq_true, bne_iff_ne] at token
    refine .token rule token.2 (by simpa [tokenSymbol] using hidden) ?_
    rw [isEntry_eq entry, decide_eq_true_eq]
    exact token.1
  | @rule body rule token kept =>
    have quiet : ¬ (decide (name = start) || !isHidden name) = true := hidden
    rw [Bool.or_eq_true, not_or] at quiet
    refine .rule rule kept plain (by simpa using quiet.2) ?_
    rw [isEntry_eq entry]
    exact quiet.1
  | external unruled listed =>
    exact .external unruled listed (by simpa [externalSymbol] using hidden)

end Grammar

namespace SymbolTable.Describes

variable {table : SymbolTable} {grammar : Grammar} {start name : String} {body alternative : Rule}
  {id : Nat}

/-- The kind of a concealed name has a findable symbol only if an alias gives the kind. -/
theorem exists_symbol_iff_of_conceals (describes : table.Describes grammar start)
    (conceals : grammar.Conceals name) :
    (∃ symbol ∈ table.symbols, symbol.isFindable ∧ symbol.node = ⟨name, true⟩) ↔
      ∃ wrapper, grammar.Gives wrapper ⟨name, true⟩ := by
  have unknown : ¬ grammar.Knows ⟨name, true⟩ := by
    rintro ⟨stands⟩
    obtain ⟨symbol, own, findable⟩ := describes.referent_eq_node_iff.mp stands
    obtain ⟨hidden, own', silent⟩ := conceals.exists_symbol describes.entry
    obtain rfl := Option.some.inj (own.symm.trans own')
    exact silent findable
  rw [describes.exists_findable_iff, or_iff_right unknown]

/-- An alternative stands for a findable symbol, or it refers to a concealed name. -/
theorem get?_of_denotes (describes : table.Describes grammar start)
    (denotes : table.Denotes alternative id) :
    ∃ symbol ∈ table.symbols, table.get? id = some symbol ∧ (symbol.isFindable ∨
      ∃ name, alternative.symbolName = some name ∧ grammar.Conceals name ∧
        grammar.ownSymbol? start name = some symbol) := by
  cases denotes with
  | @reference name refers number =>
    obtain ⟨symbol, own, here⟩ := describes.exists_owner number
    refine ⟨symbol, Array.mem_of_getElem? here, (describes.numbered_iff.mpr here).2, ?_⟩
    by_cases findable : symbol.isFindable
    · exact .inl findable
    · exact .inr ⟨name, refers, Grammar.conceals_of_silent describes.entry own findable, own⟩
  | literal _ first | renamed _ first =>
    obtain ⟨⟨symbol, here, answers⟩, _⟩ := first
    exact ⟨symbol, Array.mem_of_getElem? here, (describes.numbered_iff.mpr here).2,
      .inl (Symbol.answersTo_iff.mp answers).1⟩

/-- What holds of findable symbols holds of all subtypes of a body exactly if it holds of the
symbols of the concealed names that the body offers. -/
theorem forall_subtypes_iff (describes : table.Describes grammar start) {ids : List Nat}
    (lists : table.ListsSubtypes body ids) {holds : Symbol → Prop}
    (sound : ∀ symbol ∈ table.symbols, symbol.isFindable → holds symbol) :
    (∀ subtype ∈ ids, ∀ symbol, table.get? subtype = some symbol → holds symbol) ↔
      ∀ name, body.Offers name → grammar.Conceals name →
        ∀ symbol, grammar.ownSymbol? start name = some symbol → holds symbol := by
  constructor
  · rintro all name ⟨alternative, among, refers⟩ _ symbol own
    obtain ⟨id, number, here⟩ := describes.exists_number own
    have subtype : id ∈ ids := (lists.denoted id).mpr ⟨alternative, among, .reference refers number⟩
    exact all id subtype symbol (describes.numbered_iff.mpr here).2
  · intro concealed id subtype symbol known
    obtain ⟨alternative, among, denotes⟩ := (lists.denoted id).mp subtype
    obtain ⟨_, listed, known', kind⟩ := describes.get?_of_denotes denotes
    obtain rfl := Option.some.inj (known.symm.trans known')
    rcases kind with findable | ⟨name, refers, conceals, own⟩
    · exact sound symbol listed findable
    · exact concealed name ⟨alternative, among, refers⟩ conceals symbol own

end SymbolTable.Describes

namespace NodeType

/-- What holds of the kinds that a supertype stands for holds of those of its subtypes. -/
theorem forall_subtypeKinds_iff {table : SymbolTable} {id : Nat} {holds : NodeKind → Prop} :
    (∀ kind ∈ subtypeKinds table id, holds kind) ↔
      ∀ subtype ∈ table.subtypes id, ∀ symbol, table.get? subtype = some symbol →
        holds symbol.node := by
  simp only [subtypeKinds, List.mem_filterMap, Option.map_eq_some_iff]
  constructor
  · exact fun all subtype among symbol known => all _ ⟨subtype, among, symbol, known, rfl⟩
  · rintro all _ ⟨subtype, among, symbol, known, rfl⟩
    exact all subtype among symbol known

/-- Only the entries of supertypes have subtypes: those with the numbers that the table has. -/
theorem subtypes_of_ofSymbol? {grammar : Grammar} {table : SymbolTable}
    {extras : NameSet} {id : Nat} {symbol : Symbol} {entry : NodeType} {kinds : List NodeKind}
    (made : ofSymbol? grammar table extras id symbol = some entry)
    (supertype : entry.subtypes = some kinds) :
    symbol.kind = .nonTerminal ∧ symbol.supertype ∧ kinds = subtypeKinds table id := by
  cases ofSymbol_of_ofSymbol? made with
  | supertype kind declared =>
    obtain rfl := Option.some.inj supertype
    exact ⟨kind, declared, rfl⟩
  | token | rule | renamed | unstructured => cases supertype

end NodeType

namespace Language

variable {language : Language} {grammar : Grammar} {displayName : String} {entry : NodeType}
  {kinds : List NodeKind}

/-- All subtypes of an entry have entries themselves exactly if the references to hidden names in
its body are to names that some alias gives too, and all of its subtypes show up or are supertypes
exactly if there are no such references. -/
theorem subtypes_described_iff (loaded : ofGrammar displayName grammar = .ok language)
    (listed : entry ∈ language.nodeTypes) (supertype : entry.subtypes = some kinds) :
    ∃ id body, language.symbols.ruleSymbol? entry.kind.name = some id ∧
      grammar.rules[entry.kind.name]? = some body ∧
      ((∀ kind ∈ kinds, ∃ target ∈ language.nodeTypes, target.kind = kind) ↔
        ∀ name, body.Offers name → grammar.Conceals name →
          ∃ wrapper, grammar.Gives wrapper ⟨name, true⟩) ∧
      ((∀ subtype ∈ language.symbols.subtypes id,
          language.isVisible subtype ∨ language.isSupertype subtype) ↔
        ∀ name, body.Offers name → ¬ grammar.Conceals name) := by
  obtain ⟨_, built, nodeTypes⟩ := parts_of_loaded loaded
  obtain ⟨start, describes⟩ := SymbolTable.describes_of_build built
  rw [nodeTypes] at listed ⊢
  obtain ⟨id, symbol, here, made⟩ := NodeType.exists_numbered listed
  obtain ⟨_, marked, rfl⟩ := NodeType.subtypes_of_ofSymbol? made supertype
  obtain ⟨name, declared, body, rule, _, own, number⟩ := describes.exists_declared here marked
  have named : entry.kind.name = name := by
    rw [NodeType.kind_of_ofSymbol? made, Grammar.node_of_ownSymbol? own]
  rw [named]
  have lists := describes.listsSubtypes body
  rw [← SymbolTable.subtypes_eq built declared number rule] at lists
  refine ⟨id, body, number, rule, ?_, ?_⟩
  · rw [NodeType.forall_subtypeKinds_iff, describes.forall_subtypes_iff lists fun symbol among
      findable => describes.exists_entry_iff.mpr ⟨symbol, among, findable, rfl⟩]
    refine forall_congr' fun name => forall₂_congr fun _ conceals => ?_
    rw [← describes.exists_symbol_iff_of_conceals conceals, ← describes.exists_entry_iff]
    obtain ⟨symbol, own, _⟩ := conceals.exists_symbol describes.entry
    simp [own, Grammar.node_of_ownSymbol? own]
  · have shown : (∀ subtype ∈ language.symbols.subtypes id,
        language.isVisible subtype ∨ language.isSupertype subtype) ↔
        ∀ subtype ∈ language.symbols.subtypes id, ∀ symbol,
          language.symbols.get? subtype = some symbol → symbol.isFindable := by
      refine forall₂_congr fun subtype among => ?_
      obtain ⟨alternative, _, denotes⟩ := (lists.denoted subtype).mp among
      obtain ⟨symbol, _, known, _⟩ := describes.get?_of_denotes denotes
      simp [isVisible, isSupertype, symbolHas, known, Symbol.isFindable]
    rw [shown, describes.forall_subtypes_iff lists fun symbol _ findable => findable]
    refine forall₂_congr fun name _ => ⟨fun found conceals => ?_, fun none conceals => ?_⟩
    · obtain ⟨symbol, own, silent⟩ := conceals.exists_symbol describes.entry
      exact silent (found conceals symbol own)
    · exact absurd conceals none

/-- A statement offers calls and requests and semicolons, which all show up in trees. -/
theorem subtypes_described_statements :
    ∃ language entry kinds, ofGrammar "Statements" SymbolTable.statements = .ok language ∧
      entry ∈ language.nodeTypes ∧ entry.subtypes = some kinds ∧ kinds ≠ [] ∧
      ∀ kind ∈ kinds, ∃ target ∈ language.nodeTypes, target.kind = kind := by
  obtain ⟨language, loaded, checked⟩ := exists_of_any
    (show (ofGrammar "Statements" SymbolTable.statements).toOption.any fun language =>
      language.nodeTypes.any fun entry => entry.kind = ⟨"_statement", true⟩ &&
        entry.subtypes = some [⟨";", false⟩, ⟨"call", true⟩, ⟨"send", true⟩] by decide +kernel)
  simp only [List.any_eq_true, Bool.and_eq_true, decide_eq_true_eq] at checked
  obtain ⟨entry, listed, kind, supertype⟩ := checked
  obtain ⟨id, body, _, rule, described, _⟩ := subtypes_described_iff loaded listed supertype
  have shown : SymbolTable.statements.rules["_statement"]?.all fun body =>
      body.alternatives.all fun alternative =>
        alternative.symbolName.all (!Grammar.isHidden ·) := by decide +kernel
  rw [kind] at rule
  rw [rule, Option.all_some, List.all_eq_true] at shown
  refine ⟨language, entry, _, loaded, listed, supertype, List.cons_ne_nil _ _, described.mpr ?_⟩
  rintro name ⟨alternative, among, refers⟩ conceals
  have visible := shown alternative among
  rw [refers, Option.all_some, conceals.hidden] at visible
  cases visible

/-- Statements of which one kind is a hidden token. -/
def lines : Grammar :=
  { Grammar.empty "lines"
      |>.withRule "source_file" (.zeroOrMore (.symbol "_statement"))
      |>.withRule "_statement" (.choice [.symbol "word", .symbol "_newline"])
      |>.withRule "word" (.text "x")
      |>.withRule "_newline" (.text "\n") with
    supertypes := some ["_statement"] }

/-- The entry of a statement has a subtype without an entry, and its symbol has a subtype that
neither shows up nor is a supertype. -/
theorem subtypes_not_described_lines :
    ∃ language entry kinds id, ofGrammar "Lines" lines = .ok language ∧
      entry ∈ language.nodeTypes ∧ entry.subtypes = some kinds ∧
      language.symbols.ruleSymbol? entry.kind.name = some id ∧
      (¬ ∀ kind ∈ kinds, ∃ target ∈ language.nodeTypes, target.kind = kind) ∧
      ¬ ∀ subtype ∈ language.symbols.subtypes id,
        language.isVisible subtype ∨ language.isSupertype subtype := by
  obtain ⟨language, loaded, checked⟩ := exists_of_any
    (show (ofGrammar "Lines" lines).toOption.any fun language =>
      (language.nodeTypes.any fun entry => entry.kind = ⟨"_statement", true⟩ &&
        entry.subtypes = some [⟨"_newline", true⟩, ⟨"word", true⟩]) &&
      language.nodeTypes.all (·.kind ≠ ⟨"_newline", true⟩) &&
      language.symbols.ruleSymbol? "_statement" = some 4 &&
      language.symbols.subtypes 4 = [1, 2] &&
      !language.isVisible 1 && !language.isSupertype 1 by decide +kernel)
  simp only [List.any_eq_true, List.all_eq_true, Bool.and_eq_true, decide_eq_true_eq,
    Bool.not_eq_true'] at checked
  obtain ⟨⟨⟨⟨⟨⟨entry, listed, kind, supertype⟩, missing⟩, number⟩, subtypes⟩, hidden⟩, plain⟩ :=
    checked
  refine ⟨language, entry, _, 4, loaded, listed, supertype, by rw [kind, number], ?_, ?_⟩
  · intro described
    obtain ⟨target, among, same⟩ := described ⟨"_newline", true⟩ List.mem_cons_self
    exact missing target among same
  · intro shown
    have first := shown 1 (by rw [subtypes]; exact List.mem_cons_self)
    rw [hidden, plain] at first
    simp at first

end Language

end GrammarAtlas
