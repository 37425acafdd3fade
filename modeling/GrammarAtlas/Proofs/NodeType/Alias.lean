import GrammarAtlas.Proofs.NodeType.Listing
import GrammarAtlas.Proofs.Symbol.Kinds

/-!
# What entries say of renamed rules

An alias around a reference gives the nodes of a rule another kind, so the entry of this kind should
allow for everything that the rule puts into its nodes (`Covers`). The entry takes its structure
from one rule only, however many are renamed: from the rule that has the kind as its own, or else
from the first rule that an alias of the kind renames directly (`Grammar.Shows`). It therefore
allows for a renamed rule exactly if that one rule does (`Language.covers_iff_shows`).
-/

namespace GrammarAtlas

namespace Grammar

variable {grammar : Grammar} {wrapper body : Rule} {kind : NodeKind}

/-- An alias of the kind renames the rule of that body directly, and the rule is no token. -/
def Renames (grammar : Grammar) (wrapper : Rule) (kind : NodeKind) (body : Rule) : Prop :=
  wrapper.aliasNode = some kind ∧
    ∃ target, wrapper.content.bind Rule.symbolName = some target ∧
      grammar.rules[target]? = some body ∧ (grammar.isEntry target || !body.isLexical)

/-- An alias of the kind renames the rule of that body, with or without precedence wrappers around
the reference, and the rule is no token. -/
structure RenamesBelow (grammar : Grammar) (wrapper : Rule) (kind : NodeKind) (body : Rule) :
    Prop where
  /-- The alias is a node of some rule body. -/
  gives : grammar.Gives wrapper kind
  /-- Below all precedence wrappers it refers to the rule. -/
  refers : ∃ target, (wrapper.content.map Rule.bare).bind Rule.symbolName = some target ∧
    grammar.rules[target]? = some body
  /-- The rule is made of other symbols. -/
  composed : ¬ body.isLexical

/-- The first alias of the kind that renames a rule directly renames the rule of that body. -/
def RenamesFirst (grammar : Grammar) (kind : NodeKind) (body : Rule) : Prop :=
  ∃ before wrapper after,
    grammar.orderedRules.flatMap (fun entry => entry.2.walk) = before ++ wrapper :: after ∧
      grammar.Renames wrapper kind body ∧
        ∀ earlier ∈ before, ∀ other, ¬ grammar.Renames earlier kind other

/-- The rule of that body gives the nodes of a kind their structure. -/
inductive Shows (grammar : Grammar) : NodeKind → Rule → Prop
  /-- It has the kind as its own. -/
  | composite {name : String} {body : Rule} : grammar.Composite name body →
    Shows grammar ⟨name, true⟩ body
  /-- It is the first rule that is renamed to the kind, which nothing has as its own. -/
  | renamed {kind : NodeKind} {body : Rule} : ¬ grammar.Knows kind →
    grammar.RenamesFirst kind body → Shows grammar kind body

end Grammar

/-- What the entry of a symbol takes its structure from. -/
inductive NodeType.Made (grammar : Grammar) (table : SymbolTable) (symbol : Symbol) :
    NodeType → Prop
  /-- Nothing: the symbol is that of a token or a supertype. -/
  | plain {entry : NodeType} : symbol.isFindable → symbol.kind ≠ .aliased →
    (symbol.kind = .nonTerminal → symbol.supertype) → entry.fields = none →
    entry.children = none → Made grammar table symbol entry
  /-- The rule that the symbol is named after. -/
  | rule {body : Rule} {bare : NodeType} : symbol.kind = .nonTerminal → symbol.visible →
    ¬ symbol.supertype → grammar.rules[symbol.node.name]? = some body →
    Made grammar table symbol (bare.withSummary (body.summary grammar table))
  /-- The rule that is renamed to the kind of the symbol. -/
  | renamed {body : Rule} {bare : NodeType} : symbol.kind = .aliased →
    grammar.aliasedBody? table symbol.node = some body →
    Made grammar table symbol (bare.withSummary (body.summary grammar table))
  /-- Nothing: no rule is renamed to the kind of the symbol. -/
  | unstructured {entry : NodeType} : symbol.kind = .aliased →
    grammar.aliasedBody? table symbol.node = none → entry.fields = none →
    entry.children = none → Made grammar table symbol entry

/-- The entry of a symbol takes its structure from one of these. -/
theorem NodeType.made_of_ofSymbol? {grammar : Grammar} {table : SymbolTable} {extras : NameSet}
    {id : Nat} {symbol : Symbol} {entry : NodeType}
    (made : ofSymbol? grammar table extras id symbol = some entry) :
    Made grammar table symbol entry := by
  cases ofSymbol_of_ofSymbol? made with
  | token kind visible =>
    have findable : symbol.isFindable := by simp [Symbol.isFindable, visible]
    refine .plain findable ?_ ?_ rfl rfl
    · rcases kind with kind | kind <;> simp [kind]
    · rcases kind with kind | kind <;> simp [kind]
  | supertype kind supertype =>
    have findable : symbol.isFindable := by simp [Symbol.isFindable, supertype]
    exact .plain findable (by simp [kind]) (fun _ => supertype) rfl rfl
  | rule kind other visible rule => exact .rule kind visible other rule
  | renamed kind renamed => exact .renamed kind renamed
  | unstructured kind nothing => exact .unstructured kind nothing rfl rfl

namespace SymbolTable.Describes

variable {table : SymbolTable} {grammar : Grammar} {start name : String} {kind : NodeKind}
  {wrapper body : Rule} {symbol : Symbol} {entry : NodeType}

/-- The body that is looked up for an alias is that of the rule which it renames directly. -/
theorem renamedBody?_eq_some_iff (describes : table.Describes grammar start) :
    wrapper.renamedBody? grammar table kind = some body ↔ grammar.Renames wrapper kind body := by
  rw [Rule.renamedBody?, Grammar.Renames]
  by_cases gives : wrapper.aliasNode = some kind
  · rw [if_pos gives]
    cases wrapper.content.bind Rule.symbolName with
    | none => simp
    | some target =>
      simp only [gives, true_and, Option.some.injEq, exists_eq_left',
        ← Grammar.not_isToken_iff describes.entry]
      by_cases token : table.isToken target
      · obtain ⟨lexed, rule, lexical⟩ := describes.isToken_iff.mp token
        simp only [token, if_true, reduceCtorEq, false_iff, rule, Option.some.injEq, not_and,
          not_not]
        rintro rfl
        exact lexical
      · have other (rule : grammar.rules[target]? = some body) :
            ¬ Grammar.isToken start target body :=
          fun lexical => token (describes.isToken_iff.mpr ⟨body, rule, lexical⟩)
        simpa [token] using other
  · simp [gives]

/-- The body that is looked up for a kind is that of the rule which is renamed to it first. -/
theorem aliasedBody?_eq_some_iff (describes : table.Describes grammar start) :
    grammar.aliasedBody? table kind = some body ↔ grammar.RenamesFirst kind body := by
  have search : grammar.aliasedBody? table kind =
      (grammar.orderedRules.flatMap fun entry => entry.2.walk).findSome?
        (Rule.renamedBody? grammar table kind) :=
    (findSome?_flatMap _ _ _).symm
  rw [search, List.findSome?_eq_some_iff, Grammar.RenamesFirst]
  simp only [Option.eq_none_iff_forall_ne_some, ne_eq, describes.renamedBody?_eq_some_iff]

/-- The entry of a kind is that of a symbol of the kind. -/
theorem exists_symbol_of_find?_listing
    (found : (NodeType.listing grammar table).find? (·.kind = kind) = some entry) :
    ∃ id, ∃ symbol ∈ table.symbols, symbol.node = kind ∧
      NodeType.ofSymbol? grammar table (NodeType.extraNames grammar) id symbol = some entry := by
  rw [NodeType.find?_listing] at found
  have same : entry.kind = kind := by simpa using List.find?_some found
  obtain ⟨⟨id, symbol⟩, numbered, made⟩ :=
    List.mem_filterMap.mp (List.mem_of_find?_eq_some found)
  exact ⟨id, symbol, NodeType.mem_entries.mp ⟨id, numbered⟩,
    (NodeType.kind_of_ofSymbol? made).symm.trans same, made⟩

/-- The findable symbols have entries. -/
theorem isSome_ofSymbol? (describes : table.Describes grammar start)
    (listed : symbol ∈ table.symbols) (findable : symbol.isFindable) (extras : NameSet)
    (id : Nat) : (NodeType.ofSymbol? grammar table extras id symbol).isSome := by
  cases describes.origin listed with
  | endOfInput => exact absurd findable (by simp [Symbol.isFindable, Symbol.endOfInput])
  | own known =>
    generalize symbol.node.name = name at known
    cases Grammar.ownSymbol_of_ownSymbol? known with
    | token =>
      have visible : Grammar.isHidden name = false := by
        simpa [Symbol.isFindable, Grammar.tokenSymbol] using findable
      simp [NodeType.ofSymbol?, Grammar.tokenSymbol, visible]
    | external =>
      have visible : Grammar.isHidden name = false := by
        simpa [Symbol.isFindable, Grammar.externalSymbol] using findable
      simp [NodeType.ofSymbol?, Grammar.externalSymbol, visible]
    | rule rule =>
      by_cases supertype : grammar.isSupertype name
      · simp [NodeType.ofSymbol?, Grammar.ruleSymbol, supertype]
      · have visible : (decide (name = start) || !Grammar.isHidden name) = true := by
          simpa [Symbol.isFindable, Grammar.ruleSymbol, supertype] using findable
        simp [NodeType.ofSymbol?, Grammar.ruleSymbol, supertype, visible, rule]
  | literal => rfl
  | @alternative kind =>
    rw [NodeType.ofSymbol?, Symbol.alternative]
    dsimp only
    split <;> rfl

/-- A kind with a findable symbol has an entry. -/
theorem exists_entry_of_findable (describes : table.Describes grammar start)
    (listed : symbol ∈ table.symbols) (findable : symbol.isFindable) :
    ∃ entry, (NodeType.listing grammar table).find? (·.kind = symbol.node) = some entry := by
  obtain ⟨id, numbered⟩ := NodeType.mem_entries.mpr listed
  obtain ⟨entry, made⟩ := Option.isSome_iff_exists.mp
    (describes.isSome_ofSymbol? listed findable (NodeType.extraNames grammar) id)
  have candidate : entry ∈ NodeType.candidates grammar table :=
    List.mem_filterMap.mpr ⟨_, numbered, made⟩
  rw [NodeType.find?_listing]
  exact Option.isSome_iff_exists.mp (List.find?_isSome.mpr
    ⟨entry, candidate, decide_eq_true (NodeType.kind_of_ofSymbol? made)⟩)

/-- A kind that an alias gives has an entry. -/
theorem exists_entry_of_gives (describes : table.Describes grammar start)
    (gives : grammar.Gives wrapper kind) :
    ∃ entry, (NodeType.listing grammar table).find? (·.kind = kind) = some entry := by
  obtain ⟨symbol, listed, findable, rfl⟩ := describes.exists_symbol_of_gives gives
  exact describes.exists_entry_of_findable listed findable

/-- Only findable symbols have entries. -/
theorem isFindable_of_made (describes : table.Describes grammar start)
    (listed : symbol ∈ table.symbols) (made : NodeType.Made grammar table symbol entry) :
    symbol.isFindable := by
  have aliased (kind : symbol.kind = .aliased) : symbol.isFindable := by
    cases describes.origin listed with
    | endOfInput | literal => cases kind
    | own known => exact absurd kind (Grammar.kind_ne_aliased known)
    | alternative => rfl
  cases made with
  | plain findable => exact findable
  | rule _ visible => simp [Symbol.isFindable, visible]
  | renamed kind | unstructured kind => exact aliased kind

/-- The symbols with entries that only aliases give are those of the kinds that are not known. -/
theorem kind_eq_aliased_iff (describes : table.Describes grammar start)
    (listed : symbol ∈ table.symbols) (made : NodeType.Made grammar table symbol entry) :
    symbol.kind = .aliased ↔ ¬ grammar.Knows symbol.node := by
  constructor
  · intro aliased
    cases describes.origin listed with
    | endOfInput | literal => cases aliased
    | own known => exact absurd aliased (Grammar.kind_ne_aliased known)
    | alternative unknown => exact unknown
  · intro unknown
    rw [describes.eq_alternative listed (describes.isFindable_of_made listed made) unknown]
    rfl

/-- The rule that gives a kind its structure gives it to the entry. -/
theorem structure_of_shows (describes : table.Describes grammar start)
    (found : (NodeType.listing grammar table).find? (·.kind = kind) = some entry)
    (shows : grammar.Shows kind body) :
    ∃ bare : NodeType, entry = bare.withSummary (body.summary grammar table) := by
  obtain ⟨id, symbol, listed, rfl, made⟩ := exists_symbol_of_find?_listing found
  have made := NodeType.made_of_ofSymbol? made
  have aliased := describes.kind_eq_aliased_iff listed made
  generalize node : symbol.node = kind at shows aliased
  cases shows with
  | @composite name body composite =>
    have findable : (grammar.ruleSymbol start name).isFindable := by
      simp [Symbol.isFindable, describes.visible_of_composite composite]
    -- No other symbol of the kind can be found, so the entry is that of the rule.
    obtain rfl := describes.symbol_eq (describes.ownSymbol_of_composite composite) findable listed
      node
    cases made with
    | plain _ _ supertype => exact absurd (supertype rfl) composite.plain
    | @rule body' bare _ _ _ rule =>
      obtain rfl := Option.some.inj (rule.symm.trans composite.rule)
      exact ⟨bare, rfl⟩
    | renamed kind | unstructured kind => cases kind
  | renamed unknown first =>
    have kind := aliased.mpr unknown
    have known := describes.aliasedBody?_eq_some_iff.mpr first
    rw [← node] at known
    cases made with
    | plain _ other => exact absurd kind other
    | rule other => cases kind.symm.trans other
    | @renamed body' bare _ known' =>
      obtain rfl := Option.some.inj (known'.symm.trans known)
      exact ⟨bare, rfl⟩
    | unstructured _ nothing => cases nothing.symm.trans known

/-- A kind to which no rule gives a structure has an entry without structure. -/
theorem fields_eq_none (describes : table.Describes grammar start)
    (found : (NodeType.listing grammar table).find? (·.kind = kind) = some entry)
    (plain : ∀ body, ¬ grammar.Shows kind body) : entry.fields = none := by
  obtain ⟨id, symbol, listed, rfl, made⟩ := exists_symbol_of_find?_listing found
  have made := NodeType.made_of_ofSymbol? made
  have aliased := describes.kind_eq_aliased_iff listed made
  cases made with
  | plain _ _ _ none => exact none
  | unstructured _ _ none => exact none
  | rule kind visible other _ =>
    have node := Grammar.node_of_ownSymbol? (describes.ownSymbol_of_nonTerminal listed kind)
    obtain ⟨body, composite⟩ := (describes.composite_iff symbol.node.name).mpr
      ⟨symbol, listed, kind, visible, other, node⟩
    rw [node] at plain
    exact absurd (.composite composite) (plain body)
  | @renamed body _ kind known =>
    have first := describes.aliasedBody?_eq_some_iff.mp known
    exact absurd (.renamed (aliased.mp kind) first) (plain body)

/-- If all aliases of a kind rename one rule directly, it is the first that is renamed. -/
theorem renamesFirst_of_forall (describes : table.Describes grammar start)
    (gives : grammar.Gives wrapper kind)
    (same : ∀ other, grammar.Gives other kind → grammar.Renames other kind body) :
    grammar.RenamesFirst kind body := by
  cases known : grammar.aliasedBody? table kind with
  | none =>
    have renames := describes.renamedBody?_eq_some_iff.mpr (same wrapper gives)
    obtain ⟨name, around, rule, within, _⟩ := gives
    have search := List.findSome?_eq_none_iff.mp known (name, around)
      (Grammar.mem_orderedRules.mpr rule)
    have nothing := List.findSome?_eq_none_iff.mp search wrapper (Rule.mem_walk_iff.mpr within)
    cases nothing.symm.trans renames
  | some found =>
    -- Whichever alias comes first is of the kind too, so it renames the same rule.
    have first := describes.aliasedBody?_eq_some_iff.mp known
    obtain ⟨before, node, after, order, ⟨named, target, refers, rule, _⟩, _⟩ := first
    have listed : node ∈ grammar.orderedRules.flatMap fun entry => entry.2.walk := by
      rw [order]
      exact List.mem_append_right _ List.mem_cons_self
    obtain ⟨⟨name, around⟩, inside, walked⟩ := List.mem_flatMap.mp listed
    have gives' : grammar.Gives node kind :=
      ⟨name, around, Grammar.mem_orderedRules.mp inside, Rule.mem_walk_iff.mp walked, named⟩
    obtain ⟨_, target', refers', rule', _⟩ := same node gives'
    obtain rfl := Option.some.inj (refers.symm.trans refers')
    obtain rfl := Option.some.inj (rule.symm.trans rule')
    exact describes.aliasedBody?_eq_some_iff.mp known

end SymbolTable.Describes

/-! ## Cover -/

/-- What a summary lists for a place. -/
def Summary.occupancy? (summary : Summary) (place : Option String) : Option Occupancy :=
  (summary.slot place).occupancy?

/-- What is shown allows for everything that a rule puts into its nodes: the kinds in its fields are
listed, what may be several is shown as such, and only what the rule always has is required. -/
structure Covers (shown own : Option String → Option Occupancy) : Prop where
  /-- All kinds in a field are listed there. -/
  kinds : ∀ field occupancy, own (some field) = some occupancy →
    ∃ listed, shown (some field) = some listed ∧ ∀ kind ∈ occupancy.kinds, kind ∈ listed.kinds
  /-- Where there may be several nodes, several are allowed. -/
  multiple : ∀ place occupancy, own place = some occupancy → occupancy.multiple →
    ∃ listed, shown place = some listed ∧ listed.multiple
  /-- Where a node is required, there always is one. -/
  required : ∀ place listed, shown place = some listed → listed.required →
    ∃ occupancy, own place = some occupancy ∧ occupancy.required

/-- What a rule puts into its nodes allows for itself. -/
theorem Covers.refl (own : Option String → Option Occupancy) : Covers own own where
  kinds _ occupancy listed := ⟨occupancy, listed, fun _ among => among⟩
  multiple _ occupancy listed several := ⟨occupancy, listed, several⟩
  required _ occupancy listed always := ⟨occupancy, listed, always⟩

/-- The entry has a structure that allows for everything that a rule puts into its nodes. -/
def NodeType.Covers (entry : NodeType) (own : Summary) : Prop :=
  entry.fields.isSome ∧ GrammarAtlas.Covers entry.occupancy? own.occupancy?

/-- An entry with a summary covers what the summary covers. -/
theorem NodeType.covers_withSummary_iff (entry : NodeType) (shown own : Summary) :
    (entry.withSummary shown).Covers own ↔
      GrammarAtlas.Covers shown.occupancy? own.occupancy? := by
  have same : (entry.withSummary shown).occupancy? = shown.occupancy? :=
    funext (occupancy?_withSummary entry shown)
  rw [NodeType.Covers, same]
  exact and_iff_right rfl

namespace Language

variable {language : Language} {grammar : Grammar} {displayName : String} {kind : NodeKind}
  {wrapper body : Rule}

/-- The entry of a kind that an alias gives covers a renamed rule exactly if the one rule that gives
the kind its structure does. So it does if nothing has the kind as its own and all aliases of the
kind rename that rule directly. -/
theorem covers_iff_shows (loaded : ofGrammar displayName grammar = .ok language)
    (renames : grammar.RenamesBelow wrapper kind body) :
    ∃ entry, language.nodeType? kind = some entry ∧
      (entry.Covers (body.summary grammar language.symbols) ↔
        ∃ shown, grammar.Shows kind shown ∧
          Covers (shown.summary grammar language.symbols).occupancy?
            (body.summary grammar language.symbols).occupancy?) ∧
      (¬ grammar.Knows kind →
        (∀ other, grammar.Gives other kind → grammar.Renames other kind body) →
          entry.Covers (body.summary grammar language.symbols)) := by
  obtain ⟨_, ⟨start, describes⟩, nodeTypes⟩ := of_loaded loaded
  obtain ⟨entry, found⟩ := describes.exists_entry_of_gives renames.gives
  have covers : entry.Covers (body.summary grammar language.symbols) ↔
      ∃ shown, grammar.Shows kind shown ∧
        Covers (shown.summary grammar language.symbols).occupancy?
          (body.summary grammar language.symbols).occupancy? := by
    constructor
    · intro covered
      by_cases shows : ∃ shown, grammar.Shows kind shown
      · obtain ⟨shown, shows⟩ := shows
        obtain ⟨bare, rfl⟩ := describes.structure_of_shows found shows
        exact ⟨shown, shows, (NodeType.covers_withSummary_iff bare _ _).mp covered⟩
      · have none := describes.fields_eq_none found (not_exists.mp shows)
        exact absurd covered.1 (by simp [none])
    · rintro ⟨shown, shows, covered⟩
      obtain ⟨bare, rfl⟩ := describes.structure_of_shows found shows
      exact (NodeType.covers_withSummary_iff bare _ _).mpr covered
  rw [nodeType?, nodeTypes]
  refine ⟨entry, found, covers, fun unknown same => covers.mpr ?_⟩
  have first := describes.renamesFirst_of_forall renames.gives same
  exact ⟨body, .renamed unknown first, .refl _⟩

/-- What the summary of a body lists for a place, if the grammar loads. -/
def ownOccupancy? (displayName : String) (grammar : Grammar) (body : Rule)
    (place : Option String) : Option Occupancy :=
  (ofGrammar displayName grammar).toOption.bind fun language =>
    (body.summary grammar language.symbols).occupancy? place

/-- The body of a call, with the called word in a field. -/
def callBody : Rule := .seq [.field "callee" (.symbol "word"), .text "()"]

/-- Calls that are renamed to invocations. -/
def calls : Grammar :=
  Grammar.empty "calls"
    |>.withRule "source_file" (.aliased (.symbol "_call") "invocation" true)
    |>.withRule "_call" callBody
    |>.withRule "word" (.text "x")

/-- The entry of invocations allows for all that calls have. -/
theorem covers_calls :
    ∃ language entry, ofGrammar "Calls" calls = .ok language ∧
      language.nodeType? ⟨"invocation", true⟩ = some entry ∧
      entry.Covers (callBody.summary calls language.symbols) := by
  have shown : occupancy? "Calls" calls ⟨"invocation", true⟩ (some "callee") =
      some { multiple := false, required := true, kinds := [⟨"word", true⟩] } := by
    decide +kernel
  have rule : calls.rules["_call"]? = some callBody := by decide +kernel
  have gives : calls.Gives (.aliased (.symbol "_call") "invocation" true) ⟨"invocation", true⟩ :=
    ⟨"source_file", _, by decide +kernel, .root, by decide +kernel⟩
  have only : ∀ entry ∈ calls.rules.toList, ∀ node ∈ entry.2.walk,
      node.aliasNode = some ⟨"invocation", true⟩ →
        node.content.bind Rule.symbolName = some "_call" := by
    decide +kernel
  have unknown : ¬ calls.Knows ⟨"invocation", true⟩ := by
    rintro ⟨stands⟩
    exact absurd stands (by decide +kernel)
  obtain ⟨language, _, loaded, _⟩ := exists_of_occupancy? shown
  obtain ⟨entry, found, _, covers⟩ := covers_iff_shows loaded
    { gives, refers := ⟨"_call", by decide +kernel, rule⟩, composed := by decide +kernel }
  refine ⟨language, entry, loaded, found, covers unknown ?_⟩
  rintro other ⟨name, around, listed, within, named⟩
  have target := only (name, around) (Std.ExtTreeMap.mem_toList_iff_getElem?_eq_some.mpr listed)
    other (Rule.mem_walk_iff.mpr within) named
  exact ⟨named, "_call", target, rule, by decide +kernel⟩

/-- The body of a request, with its receiver in a field. -/
def sendBody : Rule := .seq [.field "receiver" (.symbol "word"), .text "!"]

/-- A call or a request that is renamed to an invocation. -/
def invocationBody : Rule :=
  .choice [.aliased (.symbol "_call") "invocation" true,
    .aliased (.symbol "_send") "invocation" true]

/-- Calls and requests that are both renamed to invocations. -/
def invocations : Grammar :=
  Grammar.empty "invocations"
    |>.withRule "source_file" invocationBody
    |>.withRule "_call" callBody
    |>.withRule "_send" sendBody
    |>.withRule "word" (.text "x")

/-- The entry of invocations does not allow for the receiver of a request. -/
theorem not_covers_invocations :
    ∃ language entry wrapper, ofGrammar "Invocations" invocations = .ok language ∧
      invocations.RenamesBelow wrapper ⟨"invocation", true⟩ sendBody ∧
      language.nodeType? ⟨"invocation", true⟩ = some entry ∧
      ¬ entry.Covers (sendBody.summary invocations language.symbols) := by
  have callee : occupancy? "Invocations" invocations ⟨"invocation", true⟩ (some "callee") =
      some { multiple := false, required := true, kinds := [⟨"word", true⟩] } := by
    decide +kernel
  have absent : occupancy? "Invocations" invocations ⟨"invocation", true⟩ (some "receiver") =
      none := by
    decide +kernel
  have own : ownOccupancy? "Invocations" invocations sendBody (some "receiver") =
      some { multiple := false, required := true, kinds := [⟨"word", true⟩] } := by
    decide +kernel
  obtain ⟨language, entry, loaded, found, _⟩ := exists_of_occupancy? callee
  refine ⟨language, entry, .aliased (.symbol "_send") "invocation" true, loaded, ?_, found, ?_⟩
  · refine ⟨⟨"source_file", invocationBody, by decide +kernel, ?_, by decide +kernel⟩,
      ⟨"_send", by decide +kernel, by decide +kernel⟩, by decide +kernel⟩
    exact .member (List.mem_cons_of_mem _ List.mem_cons_self) .root
  · rintro ⟨_, covers⟩
    rw [occupancy?, loaded] at absent
    rw [ownOccupancy?, loaded] at own
    obtain ⟨listed, shown, _⟩ := covers.kinds "receiver" _ own
    simp [Except.toOption, found, shown] at absent

end Language

end GrammarAtlas
