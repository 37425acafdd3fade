import GrammarAtlas.Language
import GrammarAtlas.Proofs.Grammar.Verdict
import GrammarAtlas.Proofs.NodeType.Listing
import GrammarAtlas.Proofs.Symbol.Assembly

/-!
# Loading by looking up bodies

The definitions of the library go through the rules together with their bodies. A loader can go
through the names instead and look up each body where it is needed, taking for granted that there is
one. The definitions here are this loader: they have no result where a body is missing.

Only the body of a supertype can be missing (`SymbolTable.buildByName?_eq_none_iff`), and it never
is in a grammar without defects. Such a grammar loads, unless its entry rule is inlined or it has
too many symbols or fields (`Language.failure_modes`).
-/

namespace GrammarAtlas

/-! ## Sequences of look-ups -/

section

variable {α β : Type} {find : α → Option β} {found : α → β} {keys : List α}

/-- Look-ups that all succeed give what each of them gives. -/
theorem mapM_eq_some_map (succeeds : ∀ key ∈ keys, find key = some (found key)) :
    keys.mapM find = some (keys.map found) := by
  induction keys with
  | nil => rfl
  | cons key keys ih =>
    have first := succeeds key List.mem_cons_self
    have rest := ih fun other listed => succeeds other (List.mem_cons_of_mem _ listed)
    simp [List.mapM_cons, first, rest]

/-- Look-ups give nothing if one of them gives nothing. -/
theorem mapM_eq_none {key : α} (listed : key ∈ keys) (misses : find key = none) :
    keys.mapM find = none := by
  induction keys with
  | nil => exact absurd listed List.not_mem_nil
  | cons first keys ih =>
    rw [List.mapM_cons]
    rcases List.mem_cons.mp listed with rfl | later
    · rw [misses]
      rfl
    · rw [ih later]
      cases find first <;> rfl

end

namespace Grammar

/-- Rules with their bodies, which are looked up by name. -/
def lookUpAll? (grammar : Grammar) (names : List String) : Option (List (String × Rule)) :=
  names.mapM fun name => (grammar.rules[name]?).map fun body => (name, body)

/-- The bodies of the rules in order are found. -/
theorem lookUpAll?_ruleOrder (grammar : Grammar) :
    grammar.lookUpAll? grammar.ruleOrder = some grammar.orderedRules := by
  have found (rules : List (String × Rule))
      (known : ∀ entry ∈ rules, grammar.rules[entry.1]? = some entry.2) :
      grammar.lookUpAll? (rules.map Prod.fst) = some rules := by
    rw [lookUpAll?, List.mapM_map, mapM_eq_some_map fun entry listed => by
      rw [Function.comp_apply, known entry listed]
      rfl]
    exact congrArg some (List.map_id rules)
  exact found grammar.orderedRules fun _ listed => mem_orderedRules.mp listed

/-- The first defect of a grammar, the bodies being looked up. -/
def defectByName? (grammar : Grammar) : Option (Option Defect) :=
  match grammar.nameDefect? <|> grammar.startDefect? with
  | some defect => some (some defect)
  | none =>
    (grammar.lookUpAll? grammar.ruleOrder).map fun rules =>
      let referring := rules ++ grammar.extraRules.map fun extra => ("extras", extra)
      let trees := referring ++ grammar.externalRules.map fun token => ("externals", token)
      (trees.findSome? fun (context, rule) => flawIn? context rule) <|>
        (referring.findSome? fun (context, rule) =>
          undefinedIn? grammar.definedNames context rule) <|>
        grammar.declarationDefect?

/-- No body is missing where defects are looked for. -/
theorem defectByName?_eq (grammar : Grammar) :
    grammar.defectByName? = some grammar.defect? := by
  rw [defectByName?, lookUpAll?_ruleOrder, defect?]
  cases grammar.nameDefect? with
  | some defect => rfl
  | none =>
    cases grammar.startDefect? with
    | some defect => rfl
    | none => rfl

/-- Everything that a grammar numbers, in order, the rules being given. -/
def entriesOf (grammar : Grammar) (start : String) (rules : List (String × Rule)) : List Entry :=
  (rules.flatMap fun (name, body) =>
    if isToken start name body then [.own (tokenSymbol name)]
    else body.literals.map literalEntry) ++ grammar.extraEntries ++ grammar.externalEntries ++
  (rules.filterMap fun (name, body) =>
    if isToken start name body || grammar.isInlined name then none
    else some (.own (grammar.ruleSymbol start name))) ++
  rules.flatMap fun (_, body) => body.aliasNodes.map fun node => .shared (.alternative node)

/-- The rules that become tokens, the rules being given. -/
def tokenNamesOf (start : String) (rules : List (String × Rule)) : NameSet :=
  .ofList ((rules.filter fun (name, body) => isToken start name body).map Prod.fst)

end Grammar

/-! ## Symbol tables -/

namespace Numbering

/-- The numbers of a supertype and its subtypes, its body being looked up if it has a number. -/
def subtypeEntryByName? (addressing : Addressing) (numbering : Numbering) (grammar : Grammar)
    (name : String) : Option (Option (Nat × List Nat)) :=
  match numbering.ruleIds[name]? with
  | none => some none
  | some id =>
    (grammar.rules[name]?).map fun body => some (id, numbering.subtypesOf addressing body)

/-- The body of a name that has a number but is not that of a rule is missing. -/
theorem subtypeEntryByName?_eq_none {addressing : Addressing} {numbering : Numbering}
    {grammar : Grammar} {name : String} (numbered : name ∈ numbering.ruleIds)
    (unruled : name ∉ grammar.rules) :
    numbering.subtypeEntryByName? addressing grammar name = none := by
  obtain ⟨id, number⟩ := ByName.exists_of_mem numbered
  rw [subtypeEntryByName?, number, Std.ExtTreeMap.getElem?_eq_none unruled]
  rfl

/-- All other numbers are found. -/
theorem subtypeEntryByName?_eq_some {addressing : Addressing} {numbering : Numbering}
    {grammar : Grammar} {name : String}
    (bodied : name ∈ numbering.ruleIds → name ∈ grammar.rules) :
    numbering.subtypeEntryByName? addressing grammar name =
      some (numbering.subtypeEntry addressing grammar name) := by
  simp only [Std.ExtTreeMap.mem_iff_isSome_getElem?] at bodied
  rw [subtypeEntryByName?, subtypeEntry]
  cases number : numbering.ruleIds[name]? with
  | none => rfl
  | some id =>
    rw [number] at bodied
    obtain ⟨body, rule⟩ := Option.isSome_iff_exists.mp (bodied rfl)
    rw [rule]
    rfl

end Numbering

namespace SymbolTable

/-- The symbol table of a grammar, the bodies being looked up. -/
def buildByName? (grammar : Grammar) : Option (Except SymbolError SymbolTable) :=
  match grammar.startRule with
  | none => some (.error .noStartRule)
  | some startName => do
    let rules ← grammar.lookUpAll? grammar.ruleOrder
    let numbering := Numbering.ofEntries .sixteenBit (grammar.entriesOf startName rules)
    match numbering.ruleIds[startName]? with
    | none => some (.error .noStartRule)
    | some start => do
      let subtypes ← grammar.supertypeNames.mapM
        (numbering.subtypeEntryByName? .sixteenBit grammar)
      some <| withinLimits {
        numbering
        tokens := Grammar.tokenNamesOf startName rules
        fields := grammar.fieldNames.toArray
        start
        subtypeIds := .ofList (subtypes.filterMap id) }

/-- What building a table comes to, unless it fails for want of a body. -/
def unlessBodiless : Except SymbolError SymbolTable → Option (Except SymbolError SymbolTable)
  | .error (.bodilessSupertype _) => none
  | outcome => some outcome

/-- No body is wanting where a table is kept to the limits. -/
theorem unlessBodiless_withinLimits (table : SymbolTable) :
    unlessBodiless table.withinLimits = some table.withinLimits := by
  rcases table.withinLimits_cases with done | ⟨count, large⟩ | ⟨count, large⟩
  · rw [done, unlessBodiless]
    simp
  · rw [large, unlessBodiless]
    simp
  · rw [large, unlessBodiless]
    simp

/-- A body is missing exactly where a table cannot be built for want of a body. -/
theorem buildByName?_eq (grammar : Grammar) :
    buildByName? grammar = unlessBodiless (build grammar) := by
  rw [buildByName?, build_eq, assemble]
  cases entry : grammar.startRule with
  | none => rfl
  | some startName =>
    dsimp only
    rw [Grammar.lookUpAll?_ruleOrder, Option.bind_eq_bind, Option.bind_some]
    rw [show grammar.entriesOf startName grammar.orderedRules = grammar.entries startName from rfl]
    generalize same : Numbering.ofEntries .sixteenBit (grammar.entries startName) = numbering
    cases numbering.ruleIds[startName]? with
    | none => rfl
    | some start =>
      dsimp only
      rcases Grammar.bodilessSupertype?_cases .sixteenBit grammar startName with
        ⟨name, found, bodiless⟩ | ⟨found, bodied⟩
      · obtain ⟨listed, numbered, unruled⟩ :=
          (Grammar.bodiless_iff .sixteenBit startName name).mp bodiless
        rw [same] at found numbered
        rw [found, mapM_eq_none listed (Numbering.subtypeEntryByName?_eq_none numbered unruled)]
        rfl
      · have each (name : String) (listed : name ∈ grammar.supertypeNames) :
            numbering.subtypeEntryByName? .sixteenBit grammar name =
              some (numbering.subtypeEntry .sixteenBit grammar name) := by
          refine Numbering.subtypeEntryByName?_eq_some fun numbered => ?_
          by_contra unruled
          exact bodied name ((Grammar.bodiless_iff .sixteenBit startName name).mpr
            ⟨listed, same ▸ numbered, unruled⟩)
        rw [same] at found
        rw [found, mapM_eq_some_map each, Option.bind_eq_bind, Option.bind_some,
          List.filterMap_map, Function.id_comp]
        exact (unlessBodiless_withinLimits _).symm

/-- A body is missing exactly if the entry rule is determined and not inlined, and an external
token is declared a supertype. -/
theorem buildByName?_eq_none_iff (grammar : Grammar) :
    buildByName? grammar = none ↔
      ∃ start, grammar.startRule = some start ∧ ¬ grammar.isInlined start ∧
        ∃ name, grammar.Bodiless name := by
  rw [buildByName?_eq, ← bodiless_iff]
  cases build grammar with
  | ok table => simp [unlessBodiless]
  | error error => cases error <;> simp [unlessBodiless]

end SymbolTable

/-! ## Node types -/

namespace NodeType

/-- The node type of a symbol, the bodies being looked up. -/
def ofSymbolByName? (grammar : Grammar) (table : SymbolTable) (extras : NameSet) (id : Nat)
    (symbol : Symbol) : Option (Option NodeType) :=
  let entry : NodeType := { kind := symbol.node, extra := flag (extras.contains symbol.node.name) }
  match symbol.kind with
  | .endOfInput | .error => some none
  | .terminal | .external => some (if symbol.visible then some entry else none)
  | .nonTerminal =>
    if symbol.supertype then some (some { entry with subtypes := some (subtypeKinds table id) })
    else if symbol.visible then
      (grammar.rules[symbol.node.name]?).map fun body =>
        some ({ entry with root := flag (id = table.start) }.withSummary
          (body.summary grammar table))
    else some none
  | .aliased =>
    (grammar.lookUpAll? grammar.ruleOrder).map fun rules =>
      match rules.findSome? fun (_, body) =>
          body.walk.findSome? (Rule.renamedBody? grammar table symbol.node) with
      | some body => some (entry.withSummary (body.summary grammar table))
      | none => some entry

/-- The node types of a grammar, the bodies being looked up. -/
def listingByName? (grammar : Grammar) (table : SymbolTable) : Option (List NodeType) := do
  let extras := extraNames grammar
  let entries ← table.entries.mapM fun (id, symbol) =>
    ofSymbolByName? grammar table extras id symbol
  some (grouped ((firstByKind (entries.filterMap id)).toList.map Prod.snd))

/-- No body is missing for a symbol of the table. -/
theorem ofSymbolByName?_eq {grammar : Grammar} {table : SymbolTable} {start : String}
    (describes : table.Describes grammar start) (extras : NameSet) (id : Nat) {symbol : Symbol}
    (listed : symbol ∈ table.symbols) :
    ofSymbolByName? grammar table extras id symbol =
      some (ofSymbol? grammar table extras id symbol) := by
  rw [ofSymbolByName?, ofSymbol?]
  cases kind : symbol.kind <;> dsimp only
  case nonTerminal =>
    obtain ⟨body, rule⟩ := ByName.exists_of_mem (describes.mem_rules_of_nonTerminal listed kind)
    rw [rule]
    split
    · rfl
    · split
      · rfl
      · rfl
  case aliased =>
    rw [Grammar.lookUpAll?_ruleOrder]
    rfl

/-- No body is missing where the node types of a table are listed. -/
theorem listingByName?_eq {grammar : Grammar} {table : SymbolTable} {start : String}
    (describes : table.Describes grammar start) :
    listingByName? grammar table = some (listing grammar table) := by
  have each (entry : Nat × Symbol) (listed : entry ∈ table.entries) :
      ofSymbolByName? grammar table (extraNames grammar) entry.1 entry.2 =
        some (ofSymbol? grammar table (extraNames grammar) entry.1 entry.2) :=
    ofSymbolByName?_eq describes _ _ (mem_entries.mp ⟨entry.1, listed⟩)
  rw [listingByName?, mapM_eq_some_map each, Option.bind_eq_bind, Option.bind_some,
    List.filterMap_map]
  rfl

end NodeType

/-! ## Languages -/

namespace Language

/-- The language of a grammar, the bodies being looked up. -/
def ofGrammarByName? (displayName : String) (grammar : Grammar) :
    Option (Except LoadError Language) := do
  match ← grammar.defectByName? with
  | some defect => some (.error { displayName, fault := .defective defect })
  | none =>
    match ← SymbolTable.buildByName? grammar with
    | .error error => some (.error { displayName, fault := .symbols error })
    | .ok symbols => do
      let nodeTypes ← NodeType.listingByName? grammar symbols
      some (.ok { displayName, grammar, symbols, nodeTypes })

/-- In a grammar without defects all supertypes are rules. -/
theorem not_bodiless_of_consistent {grammar : Grammar} (consistent : grammar.defect? = none)
    (name : String) : ¬ grammar.Bodiless name := by
  intro bodiless
  have ruled := (Grammar.accepted_iff.mp consistent).supertypes name bodiless.supertype
  exact bodiless.unruled ruled

/-- What building a table for a grammar without defects comes to. -/
theorem build_of_consistent {grammar : Grammar} (consistent : grammar.defect? = none) :
    (∃ start, grammar.startRule = some start ∧ grammar.isInlined start) ∧
        SymbolTable.build grammar = .error .noStartRule ∨
      (¬ ∃ start, grammar.startRule = some start ∧ grammar.isInlined start) ∧
        ∃ table : SymbolTable, SymbolTable.build grammar = table.withinLimits := by
  have assembled := SymbolTable.assembled_assemble .sixteenBit grammar
  rw [SymbolTable.build_eq]
  generalize SymbolTable.assemble .sixteenBit grammar = outcome at assembled
  cases assembled with
  | noEntry none =>
    obtain ⟨start, entry⟩ := (Grammar.accepted_iff.mp consistent).start
    exact absurd (none.symm.trans entry) (by simp)
  | @inlined start entry inlined => exact .inl ⟨⟨start, entry, inlined⟩, rfl⟩
  | @bodiless _ name _ _ bodiless =>
    exact absurd bodiless (not_bodiless_of_consistent consistent name)
  | @table start table entry kept =>
    refine .inr ⟨?_, table, rfl⟩
    rintro ⟨other, entry', inlined⟩
    obtain rfl := Option.some.inj (entry.symm.trans entry')
    exact kept inlined

/-- No body is missing where the language of a grammar without defects is loaded. -/
theorem ofGrammarByName?_eq {grammar : Grammar} (consistent : grammar.defect? = none)
    (displayName : String) :
    ofGrammarByName? displayName grammar = some (ofGrammar displayName grammar) := by
  have bodied : SymbolTable.buildByName? grammar = some (SymbolTable.build grammar) := by
    rw [SymbolTable.buildByName?_eq]
    rcases build_of_consistent consistent with ⟨_, failed⟩ | ⟨_, table, built⟩
    · rw [failed, SymbolTable.unlessBodiless]
      simp
    · rw [built, SymbolTable.unlessBodiless_withinLimits]
  rw [ofGrammarByName?, Grammar.defectByName?_eq, consistent, ofGrammar, consistent, bodied]
  simp only [Option.bind_eq_bind, Option.bind_some]
  cases built : SymbolTable.build grammar with
  | error error => rfl
  | ok table =>
    obtain ⟨start, describes⟩ := SymbolTable.describes_of_build built
    dsimp only
    rw [NodeType.listingByName?_eq describes]
    rfl

/-- Looking up bodies goes wrong in one way only: the entry rule is determined and not inlined, and
an external token that is no rule is declared a supertype. Then there is no symbol table; otherwise
the table and its node types are found. A grammar without defects therefore loads, except that its
entry rule may be inlined and that it may have too many symbols or fields. -/
theorem failure_modes (grammar : Grammar) :
    (SymbolTable.buildByName? grammar = none ↔
      ∃ start, grammar.startRule = some start ∧ ¬ grammar.isInlined start ∧
        ∃ name ∈ grammar.supertypeNames, name ∈ grammar.externalNames ∧ name ∉ grammar.rules) ∧
    (∀ outcome, SymbolTable.buildByName? grammar = some outcome →
      SymbolTable.build grammar = outcome) ∧
    (∀ table, SymbolTable.build grammar = .ok table →
      NodeType.listingByName? grammar table = some (NodeType.listing grammar table)) ∧
    (grammar.defect? = none → ∀ displayName,
      ofGrammarByName? displayName grammar = some (ofGrammar displayName grammar) ∧
      ((∃ language, ofGrammar displayName grammar = .ok language) ∨
        ∃ error, ofGrammar displayName grammar =
            .error { displayName, fault := .symbols error } ∧
          (error = .noStartRule ∨ (∃ count, error = .tooManySymbols count) ∨
            ∃ count, error = .tooManyFields count)) ∧
      (ofGrammar displayName grammar =
          .error { displayName, fault := .symbols .noStartRule } ↔
        ∃ start, grammar.startRule = some start ∧ grammar.isInlined start)) := by
  refine ⟨?_, ?_, ?_, ?_⟩
  · rw [SymbolTable.buildByName?_eq_none_iff]
    constructor
    · rintro ⟨start, entry, kept, name, supertype, external, unruled⟩
      exact ⟨start, entry, kept, name, supertype, external, unruled⟩
    · rintro ⟨start, entry, kept, name, supertype, external, unruled⟩
      exact ⟨start, entry, kept, name, supertype, external, unruled⟩
  · intro outcome found
    rw [SymbolTable.buildByName?_eq] at found
    cases built : SymbolTable.build grammar with
    | ok table =>
      rw [built] at found
      exact Option.some.inj found
    | error error =>
      rw [built] at found
      cases error <;> first | exact Option.some.inj found | cases found
  · intro table built
    obtain ⟨start, describes⟩ := SymbolTable.describes_of_build built
    exact NodeType.listingByName?_eq describes
  · intro consistent displayName
    refine ⟨ofGrammarByName?_eq consistent displayName, ?_⟩
    rw [ofGrammar, consistent]
    dsimp only
    rcases build_of_consistent consistent with ⟨inlined, failed⟩ | ⟨kept, table, built⟩
    · rw [failed]
      exact ⟨.inr ⟨_, rfl, .inl rfl⟩, fun _ => inlined, fun _ => rfl⟩
    · rw [built]
      rcases table.withinLimits_cases with done | ⟨count, large⟩ | ⟨count, large⟩
      · rw [done]
        exact ⟨.inl ⟨_, rfl⟩, fun failed => absurd failed (by simp), fun inlined =>
          absurd inlined kept⟩
      · rw [large]
        exact ⟨.inr ⟨_, rfl, .inr (.inl ⟨count, rfl⟩)⟩, fun failed => absurd failed (by simp),
          fun inlined => absurd inlined kept⟩
      · rw [large]
        exact ⟨.inr ⟨_, rfl, .inr (.inr ⟨count, rfl⟩)⟩, fun failed => absurd failed (by simp),
          fun inlined => absurd inlined kept⟩

/-- An external token that is declared a supertype. -/
def declaredToken : Grammar :=
  { Grammar.empty "tokens" |>.withRule "source_file" (.symbol "indent") with
    externals := some [.symbol "indent"]
    supertypes := some ["indent"] }

/-- A grammar without defects, whose entry rule is inlined. -/
def inlinedEntry : Grammar :=
  { Grammar.empty "inlined" |>.withRule "source_file" (.text "x") with
    inlined := some ["source_file"] }

/-- The body of a declared token is missing; that of an inlined entry rule is not, but it gets no
table. -/
theorem failure_modes_occur :
    SymbolTable.buildByName? declaredToken = none ∧
      inlinedEntry.defect? = none ∧
      ofGrammarByName? "Inlined" inlinedEntry =
        some (.error { displayName := "Inlined", fault := .symbols .noStartRule }) := by
  have panics := (failure_modes declaredToken).1.mpr
    ⟨"source_file", by decide +kernel, by decide +kernel, "indent", by decide +kernel,
      by decide +kernel, by decide +kernel⟩
  have consistent : inlinedEntry.defect? = none := by decide +kernel
  have modes := (failure_modes inlinedEntry).2.2.2 consistent "Inlined"
  obtain ⟨loads, _, fails⟩ := modes
  have failed := fails.mpr ⟨"source_file", by decide +kernel, by decide +kernel⟩
  exact ⟨panics, consistent, loads.trans (congrArg some failed)⟩

end Language

end GrammarAtlas
