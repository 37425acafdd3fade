import GrammarAtlas.Proofs.NodeType.References
import GrammarAtlas.Proofs.Symbol.Supertype

/-!
# Supertypes of a language

A language has its supertypes in three places: as the names that its grammar declares, as the
symbols that are marked, and as the numbers with subtypes. `Language.supertypes_agree_iff` says when
they are the same. They differ for declared rules that are tokens: these are not marked, but one
that is a literal has the literal as its subtype, if that is also a symbol of its own.
-/

namespace GrammarAtlas

namespace Rule

variable {rule : Rule} {accepts : String → Prop}

/-- A literal with text in it is one that can be looked up. -/
theorem WellFormed.exists_literal (formed : rule.WellFormed accepts) (kind : rule.kind = .text) :
    ∃ words, rule.literal = some words := by
  obtain ⟨words, text, _⟩ := formed.literal kind
  exact ⟨words, (textIf_eq_some_iff kind).mpr text⟩

/-- An alias with a name is one that can be looked up. -/
theorem WellFormed.exists_aliasNode (formed : rule.WellFormed accepts)
    (kind : rule.kind = .aliased) : ∃ node, rule.aliasNode = some node := by
  obtain ⟨name, text⟩ := formed.aliasName kind
  have given : rule.aliasName = some name := (textIf_eq_some_iff kind).mpr text
  exact ⟨⟨name, rule.isNamedAlias⟩, by rw [aliasNode, given, Option.map_some]⟩

end Rule

namespace SymbolTable

variable {table : SymbolTable} {grammar : Grammar} {start name : String} {kind : NodeKind}
  {body alternative : Rule} {id : Nat} {accepts : String → Prop}

/-- A token has a subtype only if it is a literal, and then the first symbol of that literal. -/
theorem denoted_iff_of_isLexical (lexical : body.isLexical) :
    (∃ alternative ∈ body.alternatives, table.Denotes alternative id) ↔
      ∃ words, body.bare.literal = some words ∧ table.IsFirst ⟨words, false⟩ id := by
  rw [Rule.alternatives_of_isLexical lexical]
  simp only [List.mem_singleton, exists_eq_left]
  rw [Rule.isLexical] at lexical
  constructor
  · intro denotes
    cases denotes with
    | reference refers =>
      rw [Rule.kind_of_symbolName refers] at lexical
      cases lexical
    | literal text first => exact ⟨_, text, first⟩
    | renamed renames =>
      rw [Rule.kind_of_aliasNode renames] at lexical
      cases lexical
  · rintro ⟨words, text, first⟩
    exact .literal text first

namespace Describes

/-- In a rule that is no token, an alternative that is a literal or an alias stands for a symbol. -/
theorem exists_denoted (describes : table.Describes grammar start)
    (assembles : grammar.Assembles body) (listed : alternative ∈ body.alternatives)
    (formed : alternative.WellFormed accepts)
    (kind : alternative.kind = .text ∨ alternative.kind = .aliased) :
    ∃ id, table.Denotes alternative id := by
  have exposed := Rule.exposed_of_mem_alternatives listed
  obtain ⟨name, rule, assembled⟩ := assembles
  rcases kind with text | aliased
  · obtain ⟨words, literal⟩ := formed.exists_literal text
    have among : words ∈ body.literals := Rule.mem_literals_iff.mpr ⟨_, exposed, literal⟩
    have knows : grammar.Knows ⟨words, false⟩ :=
      .literal (.inl ⟨name, body, rule, assembled, among⟩)
    obtain ⟨id, first⟩ := describes.exists_first (describes.exists_symbol_of_knows knows)
    exact ⟨id, .literal literal first⟩
  · obtain ⟨node, renames⟩ := formed.exists_aliasNode aliased
    have within := Rule.mem_walk_iff.mp exposed.mem_walk
    have gives : grammar.Gives alternative node := ⟨name, body, rule, within, renames⟩
    obtain ⟨id, first⟩ := describes.exists_first (describes.exists_symbol_of_gives gives)
    exact ⟨id, .renamed renames first⟩

/-- A token has a number. -/
theorem exists_number_of_isToken (describes : table.Describes grammar start)
    (token : table.isToken name) : ∃ id, table.ruleSymbol? name = some id := by
  obtain ⟨body, rule, token⟩ := describes.isToken_iff.mp token
  have own : grammar.ownSymbol? start name = some (Grammar.tokenSymbol name) := by
    simp [Grammar.ownSymbol?, rule, token]
  obtain ⟨id, number, _⟩ := describes.exists_number own
  exact ⟨id, number⟩

/-- The number of a token is that of no supertype. -/
theorem not_mem_supertypes (describes : table.Describes grammar start)
    (ruled : ∀ name ∈ grammar.supertypeNames, name ∈ grammar.rules) (token : table.isToken name)
    (number : table.ruleSymbol? name = some id) : id ∉ table.supertypes := by
  intro listed
  obtain ⟨name', _, composed, number'⟩ := (describes.mem_supertypes_iff ruled).mp listed
  rw [describes.name_eq number' number] at composed
  exact composed token

/-- All declared names with a number are those of supertypes exactly if none of them is a token. -/
theorem declared_iff (describes : table.Describes grammar start)
    (ruled : ∀ name ∈ grammar.supertypeNames, name ∈ grammar.rules) :
    (∀ id, id ∈ table.supertypes ↔ ∃ name ∈ grammar.supertypeNames,
        table.ruleSymbol? name = some id) ↔
      ∀ name ∈ grammar.supertypeNames, ¬ table.isToken name := by
  constructor
  · intro agrees name declared token
    obtain ⟨id, number⟩ := describes.exists_number_of_isToken token
    have listed := (agrees id).mpr ⟨name, declared, number⟩
    exact describes.not_mem_supertypes ruled token number listed
  · intro composed id
    rw [describes.mem_supertypes_iff ruled]
    constructor
    · rintro ⟨name, declared, _, number⟩
      exact ⟨name, declared, number⟩
    · rintro ⟨name, declared, number⟩
      exact ⟨name, declared, composed name declared, number⟩

end Describes

/-- A declared token has no subtypes exactly if it is no literal that is found among the symbols. -/
theorem subtypes_eq_nil_iff (built : build grammar = .ok table)
    (declared : name ∈ grammar.supertypeNames) (token : table.isToken name)
    (number : table.ruleSymbol? name = some id) :
    table.subtypes id = [] ↔ ∀ (body : Rule) (words : String), grammar.rules[name]? = some body →
      body.bare.literal = some words → table.idForNodeKind? ⟨words, false⟩ = none := by
  obtain ⟨start, describes⟩ := describes_of_build built
  obtain ⟨body, rule, token⟩ := describes.isToken_iff.mp token
  have lexical : body.isLexical := by
    rw [Grammar.isToken, Bool.and_eq_true] at token
    exact token.2
  have anonymous (words : String) : (⟨words, false⟩ : NodeKind) ≠ Symbol.error.node := by
    simp [Symbol.error]
  rw [subtypes_eq built declared number rule, List.eq_nil_iff_forall_not_mem]
  simp only [(describes.listsSubtypes body).denoted, denoted_iff_of_isLexical lexical,
    ← describes.find?_eq_some_iff]
  constructor
  · intro none body' words rule' text
    obtain rfl := Option.some.inj (rule.symm.trans rule')
    rw [idForNodeKind?, if_neg (anonymous words)]
    exact Option.eq_none_iff_forall_ne_some.mpr fun id found => none id ⟨words, text, found⟩
  · rintro none id ⟨words, text, found⟩
    have unknown := none body words rule text
    rw [idForNodeKind?, if_neg (anonymous words), found] at unknown
    cases unknown

/-- Nothing but supertypes has subtypes exactly if no declared token is a literal that is found
among the symbols. -/
theorem others_iff (built : build grammar = .ok table)
    (ruled : ∀ name ∈ grammar.supertypeNames, name ∈ grammar.rules) :
    (∀ id, id ∉ table.supertypes → table.subtypes id = []) ↔
      ∀ name ∈ grammar.supertypeNames, table.isToken name →
        ∀ (body : Rule) (words : String), grammar.rules[name]? = some body →
          body.bare.literal = some words → table.idForNodeKind? ⟨words, false⟩ = none := by
  obtain ⟨start, describes⟩ := describes_of_build built
  constructor
  · intro others name declared token
    obtain ⟨id, number⟩ := describes.exists_number_of_isToken token
    have other := describes.not_mem_supertypes ruled token number
    exact (subtypes_eq_nil_iff built declared token number).mp (others id other)
  · intro unknown id other
    by_cases known : ∃ name ∈ grammar.supertypeNames, table.ruleSymbol? name = some id
    · obtain ⟨name, declared, number⟩ := known
      -- A declared rule that is no token would be a supertype.
      have token : table.isToken name := by
        by_contra composed
        exact other ((describes.mem_supertypes_iff ruled).mpr ⟨name, declared, composed, number⟩)
      exact (subtypes_eq_nil_iff built declared token number).mpr (unknown name declared token)
    · exact subtypes_eq_nil built fun name declared number => known ⟨name, declared, number⟩

end SymbolTable

namespace Language

variable {language : Language} {grammar : Grammar} {displayName : String}

/-- The supertypes of a language are the numbers, in order, of the rules that are declared
supertypes and are no tokens. Each of them has the subtypes that the alternatives of its body stand
for, among them all literals and aliases. So all declared names that have a number are supertypes
exactly if none of them is a token; and nothing else has subtypes exactly if no declared token is a
literal that is found among the symbols. -/
theorem supertypes_agree_iff (loaded : ofGrammar displayName grammar = .ok language) :
    language.symbols.supertypes.Pairwise (· < ·) ∧
    (∀ id, id ∈ language.symbols.supertypes ↔ ∃ name ∈ grammar.supertypeNames,
      ¬ language.symbols.isToken name ∧ language.symbols.ruleSymbol? name = some id) ∧
    (∀ id ∈ language.symbols.supertypes, ∃ (name : String) (body : Rule),
      language.symbols.ruleSymbol? name = some id ∧ grammar.rules[name]? = some body ∧
        language.symbols.ListsSubtypes body (language.symbols.subtypes id) ∧
        ∀ alternative ∈ body.alternatives,
          alternative.kind = .text ∨ alternative.kind = .aliased →
            ∃ subtype, language.symbols.Denotes alternative subtype) ∧
    ((∀ id, id ∈ language.symbols.supertypes ↔ ∃ name ∈ grammar.supertypeNames,
        language.symbols.ruleSymbol? name = some id) ↔
      ∀ name ∈ grammar.supertypeNames, ¬ language.symbols.isToken name) ∧
    ((∀ id, id ∉ language.symbols.supertypes → language.symbols.subtypes id = []) ↔
      ∀ name ∈ grammar.supertypeNames, language.symbols.isToken name →
        ∀ body words, grammar.rules[name]? = some body → body.bare.literal = some words →
          language.idForNodeKind? words false = none) := by
  obtain ⟨flawless, built, _⟩ := parts_of_loaded loaded
  obtain ⟨start, describes⟩ := SymbolTable.describes_of_build built
  have consistent := Grammar.accepted_iff.mp flawless
  have ruled := consistent.supertypes
  refine ⟨language.symbols.pairwise_supertypes, fun _ => describes.mem_supertypes_iff ruled, ?_,
    describes.declared_iff ruled, SymbolTable.others_iff built ruled⟩
  intro id listed
  obtain ⟨name, declared, composed, number⟩ := (describes.mem_supertypes_iff ruled).mp listed
  obtain ⟨body, rule⟩ := ByName.exists_of_mem (ruled name declared)
  have assembled : ¬ Grammar.isToken start name body := fun token =>
    composed (describes.isToken_iff.mpr ⟨body, rule, token⟩)
  have assembles : grammar.Assembles body :=
    ⟨name, rule, (Grammar.not_isToken_iff describes.entry name body).mp assembled⟩
  refine ⟨name, body, number, rule, ?_, fun alternative among kind => ?_⟩
  · rw [SymbolTable.subtypes_eq built declared number rule]
    exact describes.listsSubtypes body
  · have within := Rule.mem_walk_iff.mp (Rule.exposed_of_mem_alternatives among).mem_walk
    have formed := consistent.wellFormed body (.inl (.inl ⟨name, rule⟩)) alternative within
    exact describes.exists_denoted assembles among formed kind

/-- The statements have one supertype, with three subtypes, and nothing else in them has any. -/
theorem supertypes_statements :
    ∃ language, ofGrammar "Statements" SymbolTable.statements = .ok language ∧
      language.symbols.supertypes = [6] ∧ language.symbols.subtypes 6 = [1, 7, 8] ∧
      ∀ id, id ≠ 6 → language.symbols.subtypes id = [] := by
  obtain ⟨language, loaded, checked⟩ := exists_of_any
    (show (ofGrammar "Statements" SymbolTable.statements).toOption.any fun language =>
      language.symbols.supertypes = [6] && language.symbols.subtypes 6 = [1, 7, 8] &&
        SymbolTable.statements.supertypeNames.all (!language.symbols.isToken ·) by decide +kernel)
  simp only [Bool.and_eq_true, decide_eq_true_eq, List.all_eq_true, Bool.not_eq_true',
    ← Bool.not_eq_true] at checked
  obtain ⟨⟨supertypes, subtypes⟩, composed⟩ := checked
  obtain ⟨_, _, _, _, others⟩ := supertypes_agree_iff loaded
  have only := others.mpr fun name declared token => absurd token (composed name declared)
  refine ⟨language, loaded, supertypes, subtypes, fun id other => only id ?_⟩
  rw [supertypes, List.mem_singleton]
  exact other

/-- A declared supertype that is a token, with a literal that stands elsewhere too. -/
def keywords : Grammar :=
  { Grammar.empty "keywords"
      |>.withRule "source_file" (.seq [.text "if", .symbol "keyword"])
      |>.withRule "keyword" (.text "if") with
    supertypes := some ["keyword"] }

/-- The keyword is declared and has a number, but it is not among the supertypes. Yet it has the
literal as its subtype. -/
theorem supertypes_disagree_keywords :
    ∃ language id, ofGrammar "Keywords" keywords = .ok language ∧
      "keyword" ∈ keywords.supertypeNames ∧ language.symbols.ruleSymbol? "keyword" = some id ∧
      id ∉ language.symbols.supertypes ∧ language.symbols.subtypes id ≠ [] := by
  obtain ⟨language, loaded, checked⟩ := exists_of_any
    (show (ofGrammar "Keywords" keywords).toOption.any fun language =>
      language.symbols.ruleSymbol? "keyword" = some 2 && language.symbols.supertypes = [] &&
        language.symbols.subtypes 2 = [1] by decide +kernel)
  simp only [Bool.and_eq_true, decide_eq_true_eq] at checked
  obtain ⟨⟨number, supertypes⟩, subtypes⟩ := checked
  refine ⟨language, 2, loaded, by decide +kernel, number, ?_, ?_⟩
  · rw [supertypes]
    exact List.not_mem_nil
  · rw [subtypes]
    exact List.cons_ne_nil 1 []

end Language

end GrammarAtlas
