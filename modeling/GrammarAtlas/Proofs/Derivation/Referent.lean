import GrammarAtlas.NodeType.Listing
import GrammarAtlas.Proofs.Symbol.Table

/-!
# What references stand for

Node types ask the symbol table what a reference stands for. The answer can be told from the grammar
alone: `Grammar.referent` says when a reference to a rule or to an external token is a node of its
own, when the body of the rule takes its place, and when nothing shows up.
-/

namespace GrammarAtlas

/-- Whether a reference is replaced by the body of a rule. -/
def Referent.isBody : Referent → Bool
  | body _ => true
  | node _ | nothing => false

namespace Grammar

/-- Whether that is the name of the entry rule. -/
def isEntry (grammar : Grammar) (name : String) : Bool := grammar.startRule = some name

/-- What a reference to that name stands for. Tokens are nodes unless they are hidden. A rule that
is no token is put in place of references to it if it is inlined, or if it is hidden and neither the
entry rule nor a supertype; otherwise it is a node. -/
def referent (grammar : Grammar) (name : String) : Referent :=
  match grammar.rules[name]? with
  | some body =>
    if !grammar.isEntry name && body.isLexical then
      if isHidden name then .nothing else .node ⟨name, true⟩
    else if grammar.isInlined name then .body body
    else if grammar.isEntry name || !isHidden name || grammar.isSupertype name then
      .node ⟨name, true⟩
    else .body body
  | none =>
    if grammar.externalNames.contains name && !isHidden name then .node ⟨name, true⟩ else .nothing

/-- A name that stands for a body is the name of the rule with that body. -/
theorem rule_of_referent {grammar : Grammar} {name : String} {body : Rule}
    (stands : grammar.referent name = .body body) : grammar.rules[name]? = some body := by
  rw [referent] at stands
  split at stands
  · rename_i rule listed
    rw [listed]
    split at stands
    · split at stands <;> exact absurd stands (by simp)
    · split at stands
      · rw [Referent.body.inj stands]
      · split at stands
        · exact absurd stands (by simp)
        · rw [Referent.body.inj stands]
  · split at stands <;> exact absurd stands (by simp)

/-- A name that stands for a node gives the node its name. -/
theorem node_of_referent {grammar : Grammar} {name : String} {kind : NodeKind}
    (stands : grammar.referent name = .node kind) : kind = ⟨name, true⟩ := by
  rw [referent] at stands
  split at stands
  · split at stands
    · split at stands <;> cases stands
      rfl
    · split at stands
      · cases stands
      · split at stands <;> cases stands
        rfl
  · split at stands <;> cases stands
    rfl

/-- A rule whose nodes show up in trees and have a structure of their own. -/
structure Composite (grammar : Grammar) (name : String) (body : Rule) : Prop where
  /-- The rule has that body. -/
  rule : grammar.rules[name]? = some body
  /-- It is made of other symbols: it is the entry rule, or it is no token. -/
  assembled : grammar.isEntry name || !body.isLexical
  /-- It is not put in place of the references to it. -/
  kept : ¬ grammar.isInlined name
  /-- Its nodes show up in trees. -/
  visible : grammar.isEntry name || !isHidden name
  /-- It does not stand for a choice of other nodes. -/
  plain : ¬ grammar.isSupertype name

/-- The entry rule that has been determined is the entry rule. -/
theorem isEntry_eq {grammar : Grammar} {start : String} (entry : grammar.startRule = some start)
    (name : String) : grammar.isEntry name = decide (name = start) := by
  simp [isEntry, entry, eq_comm]

/-- A rule is no token if it is the entry rule or not lexical. -/
theorem not_isToken_iff {grammar : Grammar} {start : String}
    (entry : grammar.startRule = some start) (name : String) (body : Rule) :
    ¬ isToken start name body ↔ (grammar.isEntry name || !body.isLexical) = true := by
  simp [isToken, isEntry_eq entry, or_iff_not_imp_left]

end Grammar

namespace SymbolTable.Describes

variable {table : SymbolTable} {grammar : Grammar} {start : String}

/-- The symbol table tells what the grammar tells about references. -/
theorem referent (describes : table.Describes grammar start) :
    Referent.of grammar table = grammar.referent := by
  funext name
  rw [Referent.of, describes.symbol_of_name, Grammar.referent, Grammar.ownSymbol?,
    Grammar.isEntry_eq describes.entry]
  cases rule : grammar.rules[name]? with
  | none =>
    by_cases listed : name ∈ grammar.externalNames <;> by_cases hidden : Grammar.isHidden name <;>
      simp [rule, listed, hidden, Grammar.externalSymbol, Symbol.isFindable, Referent.ofBody]
  | some body =>
    have body' : Referent.ofBody grammar name = .body body := by rw [Referent.ofBody, rule]
    by_cases token : Grammar.isToken start name body
    · have lexical : (!decide (name = start) && body.isLexical) = true := by
        simpa [Grammar.isToken] using token
      by_cases hidden : Grammar.isHidden name <;>
        simp [token, lexical, hidden, Grammar.tokenSymbol, Symbol.isFindable]
    · have other : (!decide (name = start) && body.isLexical) = false := by
        simpa [Grammar.isToken] using token
      by_cases inlined : grammar.isInlined name
      · simp [token, other, inlined, body']
      · by_cases shown : (decide (name = start) || !Grammar.isHidden name ||
          grammar.isSupertype name) = true
        · simp [token, other, inlined, shown, Grammar.ruleSymbol, Symbol.isFindable]
        · simp [token, other, inlined, shown, Grammar.ruleSymbol, Symbol.isFindable, body']

/-- A rule with a structure of its own has a symbol of its own. -/
theorem ownSymbol_of_composite (describes : table.Describes grammar start) {name : String}
    {body : Rule} (composite : grammar.Composite name body) :
    grammar.ownSymbol? start name = some (grammar.ruleSymbol start name) := by
  have token := (Grammar.not_isToken_iff describes.entry name body).mpr composite.assembled
  rw [Grammar.ownSymbol?, composite.rule]
  simp [token, composite.kept]

/-- The symbol of a rule with a structure of its own is visible. -/
theorem visible_of_composite (describes : table.Describes grammar start) {name : String}
    {body : Rule} (composite : grammar.Composite name body) :
    (grammar.ruleSymbol start name).visible := by
  have visible := composite.visible
  rw [Grammar.isEntry_eq describes.entry] at visible
  exact visible

/-- The rules with a structure of their own are those whose symbols are visible and are neither
tokens nor supertypes. -/
theorem composite_iff (describes : table.Describes grammar start) (name : String) :
    (∃ body, grammar.Composite name body) ↔
      ∃ symbol ∈ table.symbols, symbol.kind = .nonTerminal ∧ symbol.visible ∧
        ¬ symbol.supertype ∧ symbol.node = ⟨name, true⟩ := by
  constructor
  · rintro ⟨body, composite⟩
    exact ⟨grammar.ruleSymbol start name,
      describes.mem_symbols (describes.ownSymbol_of_composite composite), rfl,
      describes.visible_of_composite composite, composite.plain, rfl⟩
  · rintro ⟨symbol, listed, kind, visible, plain, node⟩
    have known := describes.ownSymbol_of_nonTerminal listed kind
    rw [node] at known
    cases Grammar.ownSymbol_of_ownSymbol? known with
    | token | external => cases kind
    | @rule body rule token kept =>
      have assembled := (Grammar.not_isToken_iff describes.entry name body).mp token
      refine ⟨body, rule, assembled, kept, ?_, plain⟩
      rw [Grammar.isEntry_eq describes.entry]
      exact visible

end SymbolTable.Describes

end GrammarAtlas
