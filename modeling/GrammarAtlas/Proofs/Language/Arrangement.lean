import GrammarAtlas.Proofs.Grammar.Arrangement
import GrammarAtlas.Proofs.Language.Lookup

/-!
# Loading a grammar in any order of its rules

A loader that goes through the rules of a grammar as they are arranged, and looks up bodies by name,
comes to the same defects, symbol tables and node types whatever the arrangement is
(`Arrangement.order_immaterial`). So these depend only on the body that each name has in the end.
-/

namespace GrammarAtlas.Arrangement

variable {grammar : Grammar}

/-! ## Defects -/

/-- The defect of a grammar without rules, or without an entry rule. -/
def startDefect? (arranged : Arrangement grammar) : Option Defect :=
  if arranged.rules.isEmpty then some .noRules
  else if arranged.startRule.isNone then some .noStartRule
  else none

/-- The first defect of the grammar, or nothing if a body is missing. -/
def defect? (arranged : Arrangement grammar) : Option (Option Defect) :=
  match grammar.nameDefect? <|> arranged.startDefect? with
  | some defect => some (some defect)
  | none =>
    (grammar.lookUpAll? arranged.ruleOrder).map fun rules =>
      let referring := rules ++ grammar.extraRules.map fun extra => ("extras", extra)
      let trees := referring ++ grammar.externalRules.map fun token => ("externals", token)
      (trees.findSome? fun (context, rule) => Grammar.flawIn? context rule) <|>
        (referring.findSome? fun (context, rule) =>
          Grammar.undefinedIn? arranged.definedNames context rule) <|>
        grammar.declarationDefect?

/-- There are rules in every order or in none. -/
theorem startDefect?_eq (arranged : Arrangement grammar) :
    arranged.startDefect? = grammar.startDefect? := by
  have empty : arranged.rules.isEmpty = grammar.rules.isEmpty := by
    rw [arranged.all.isEmpty_eq, Std.ExtTreeMap.isEmpty_toList]
  rw [startDefect?, Grammar.startDefect?, empty, arranged.startRule_eq]

/-- The first defect is the same in every order. -/
theorem defect?_eq (arranged : Arrangement grammar) :
    arranged.defect? = some grammar.defect? := by
  rw [← Grammar.defectByName?_eq, defect?, arranged.startDefect?_eq, arranged.ruleOrder_eq,
    arranged.definedNames_eq]
  rfl

/-! ## Symbol tables -/

/-- The symbol table of the grammar, or nothing if a body is missing. -/
def build? (arranged : Arrangement grammar) : Option (Except SymbolError SymbolTable) :=
  match arranged.startRule with
  | none => some (.error .noStartRule)
  | some startName => do
    let rules ← grammar.lookUpAll? arranged.ruleOrder
    let numbering := Numbering.ofEntries .sixteenBit (grammar.entriesOf startName rules)
    match numbering.ruleIds[startName]? with
    | none => some (.error .noStartRule)
    | some start => do
      let subtypes ← grammar.supertypeNames.mapM
        (numbering.subtypeEntryByName? .sixteenBit grammar)
      some <| SymbolTable.withinLimits {
        numbering
        tokens := Grammar.tokenNamesOf startName rules
        fields := arranged.fieldNames.toArray
        start
        subtypeIds := .ofList (subtypes.filterMap id) }

/-- The symbol table is the same in every order. -/
theorem build?_eq (arranged : Arrangement grammar) :
    arranged.build? = SymbolTable.buildByName? grammar := by
  rw [build?, arranged.startRule_eq, arranged.ruleOrder_eq, arranged.fieldNames_eq]
  rfl

/-! ## Node types -/

/-- The node type of a symbol, or nothing if a body is missing. Only where an alias is looked for
does the search go through the rules. -/
def ofSymbol? (arranged : Arrangement grammar) (table : SymbolTable) (extras : NameSet) (id : Nat)
    (symbol : Symbol) : Option (Option NodeType) :=
  match symbol.kind with
  | .aliased =>
    let entry : NodeType :=
      { kind := symbol.node, extra := NodeType.flag (extras.contains symbol.node.name) }
    (grammar.lookUpAll? arranged.ruleOrder).map fun rules =>
      match rules.findSome? fun (_, body) =>
          body.walk.findSome? (Rule.renamedBody? grammar table symbol.node) with
      | some body => some (entry.withSummary (body.summary grammar table))
      | none => some entry
  | _ => NodeType.ofSymbolByName? grammar table extras id symbol

/-- The node types of the grammar, or nothing if a body is missing. -/
def listing? (arranged : Arrangement grammar) (table : SymbolTable) : Option (List NodeType) := do
  let extras := NodeType.extraNames grammar
  let entries ← table.entries.mapM fun (id, symbol) => arranged.ofSymbol? table extras id symbol
  some (NodeType.grouped ((NodeType.firstByKind (entries.filterMap id)).toList.map Prod.snd))

/-- The node type of a symbol is the same in every order. -/
theorem ofSymbol?_eq (arranged : Arrangement grammar) (table : SymbolTable) (extras : NameSet)
    (id : Nat) (symbol : Symbol) :
    arranged.ofSymbol? table extras id symbol =
      NodeType.ofSymbolByName? grammar table extras id symbol := by
  obtain ⟨kind, node, visible, supertype⟩ := symbol
  cases kind
  case aliased =>
    rw [ofSymbol?, arranged.ruleOrder_eq]
    rfl
  all_goals rfl

/-- The node types are the same in every order. -/
theorem listing?_eq (arranged : Arrangement grammar) (table : SymbolTable) :
    arranged.listing? table = NodeType.listingByName? grammar table := by
  simp only [listing?, NodeType.listingByName?, arranged.ofSymbol?_eq]

/-! ## All together -/

/-- However the rules have been put together and arranged, what they come to depends only on the
last body under each name: the entry rule, the order of the rules, the first defect, the rules out
of reach, the symbol table and the node types are the same, and the advice on precedence levels is
the same up to its order. -/
theorem order_immaterial {base : Grammar} {calls calls' : List (String × Rule)}
    (same : ∀ name, Grammar.lastBody? calls name = Grammar.lastBody? calls' name)
    (arranged : Arrangement (base.extend calls)) (arranged' : Arrangement (base.extend calls')) :
    arranged.startRule = arranged'.startRule ∧
      arranged.ruleOrder = arranged'.ruleOrder ∧
      arranged.defect? = arranged'.defect? ∧
      arranged.unreachable = arranged'.unreachable ∧
      arranged.build? = arranged'.build? ∧
      (∀ table, arranged.listing? table = arranged'.listing? table) ∧
      ∀ advice advice', arranged.Advises advice → arranged'.Advises advice' →
        advice.Perm advice' := by
  have grammars : base.extend calls = base.extend calls' := Grammar.extend_eq_of_lastBody? same
  refine ⟨?_, ?_, ?_, ?_, ?_, fun table => ?_, fun advice advice' advises advises' => ?_⟩
  · rw [arranged.startRule_eq, arranged'.startRule_eq, grammars]
  · rw [arranged.ruleOrder_eq, arranged'.ruleOrder_eq, grammars]
  · rw [arranged.defect?_eq, arranged'.defect?_eq, grammars]
  · rw [arranged.unreachable_eq, arranged'.unreachable_eq, grammars]
  · rw [arranged.build?_eq, arranged'.build?_eq, grammars]
  · rw [arranged.listing?_eq, arranged'.listing?_eq, grammars]
  · have advised := arranged.perm_of_advises advises
    rw [grammars] at advised
    exact advised.trans (arranged'.perm_of_advises advises').symm

/-- Rules that are added one by one, one of them twice. -/
def drafted : List (String × Rule) :=
  [("left", .text "draft"), ("pair", .seq [.symbol "left", .symbol "right"]), ("right", .text ")"),
    ("left", .text "(")]

/-- The same rules in another order. -/
def finished : List (String × Rule) :=
  [("right", .text ")"), ("left", .text "("), ("pair", .seq [.symbol "left", .symbol "right"])]

/-- Pairs have the same entry rule and the same node types, whether their rules are drafted and then
come in order, or come as they have been put down. -/
theorem order_immaterial_pairs :
    ∃ (arranged : Arrangement ((Grammar.empty "pairs").extend drafted))
      (arranged' : Arrangement ((Grammar.empty "pairs").extend finished)),
      arranged.rules.map Prod.fst = ["left", "pair", "right"] ∧
      arranged'.rules.map Prod.fst = ["right", "left", "pair"] ∧
      arranged.startRule = some "pair" ∧ arranged'.startRule = some "pair" ∧
      arranged.build? = arranged'.build? := by
  -- Only three names come with bodies, so it is enough to look at these.
  have same (name : String) :
      Grammar.lastBody? drafted name = Grammar.lastBody? finished name := by
    have listed : ∀ name ∈ drafted.map Prod.fst,
        Grammar.lastBody? drafted name = Grammar.lastBody? finished name := by
      decide +kernel
    have covered : ∀ call ∈ finished, call.1 ∈ drafted.map Prod.fst := by decide +kernel
    by_cases named : name ∈ drafted.map Prod.fst
    · exact listed name named
    · have absent : ∀ call ∈ drafted, call.1 ≠ name := by
        rintro call among rfl
        exact named (List.mem_map_of_mem among)
      have absent' : ∀ call ∈ finished, call.1 ≠ name := by
        rintro call among rfl
        exact named (covered call among)
      rw [Grammar.lastBody?_eq_none absent, Grammar.lastBody?_eq_none absent']
  let arranged : Arrangement ((Grammar.empty "pairs").extend drafted) :=
    ⟨((Grammar.empty "pairs").extend drafted).rules.toList, .refl _⟩
  let arranged' : Arrangement ((Grammar.empty "pairs").extend finished) :=
    ⟨finished, by decide +kernel⟩
  obtain ⟨entry, _, _, _, tables, _⟩ := order_immaterial same arranged arranged'
  have first : arranged.startRule = some "pair" := by decide +kernel
  exact ⟨arranged, arranged', by decide +kernel, by decide +kernel, first, entry ▸ first, tables⟩

end GrammarAtlas.Arrangement
