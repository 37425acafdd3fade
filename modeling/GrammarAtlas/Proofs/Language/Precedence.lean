import GrammarAtlas.Proofs.Language.Alike
import GrammarAtlas.Proofs.Symbol.Supertype
import Mathlib.Logic.Relation

/-!
# Precedence levels are transparent

A precedence level decides how a text is parsed, but not what nodes there are. So it makes no
difference to anything but the advice on precedence levels where in the rule bodies there are such
levels (`Grammar.levels_transparent`). The one place where none can be put in is around the rule
that an alias renames: an alias looks for a name directly below it.
-/

namespace GrammarAtlas

namespace Rule

/-- A precedence level is put around a rule, but not around one that an alias renames. -/
inductive Wraps : (renamed : Bool) → Rule → Rule → Prop
  /-- The level may be any of the four and have any value. -/
  | level {kind : RuleKind} {value : Option RuleValue} {rule : Rule}
    (precedence : kind.isPrecedence) : Wraps false rule { kind, value, content := some rule }

/-- Any number of precedence levels are put anywhere into a tree. -/
def Layers : Rule → Rule → Prop := Relation.ReflTransGen (Edits Wraps false)

variable {renamed : Bool} {rule rule' : Rule}

/-- A rule with a precedence level around it is like the rule. -/
theorem Wraps.alike (wraps : Wraps renamed rule rule') : Alike rule rule' := by
  obtain ⟨level⟩ := wraps
  rename_i kind value
  constructor
  case gists =>
    have plain : isPlain { kind, value, content := some rule } := by
      cases kind <;> first | rfl | cases level
    rw [gists_eq { kind, value, content := some rule }, if_pos plain]
    simp [children]
  case literals =>
    have inner : rule.literals =
        (children { kind, value, content := some rule }).flatMap literals := by simp [children]
    rw [literals_eq { kind, value, content := some rule }]
    cases kind <;> first | exact inner | cases level
  case lexical =>
    rw [isLexical, isLexical, bare_eq { kind, value, content := some rule }, if_pos level,
      Option.map_some, Option.getD_some]
  case summary =>
    intro expand field
    cases kind <;> first | rfl | cases level

/-- Below all precedence levels there is the same as before. -/
theorem Wraps.bare_eq (wraps : Wraps renamed rule rule') : rule'.bare = rule.bare := by
  obtain ⟨level⟩ := wraps
  rw [Rule.bare_eq, if_pos level, Option.map_some, Option.getD_some]

/-- Trees with precedence levels put into them are like the ones without. -/
theorem Layers.alike (layers : Layers rule rule') : Alike rule rule' := by
  induction layers with
  | refl => exact .refl rule
  | tail _ edits ih =>
    refine ih.trans (edits.alike fun _ wraps => ⟨wraps.alike, fun renames => ?_⟩).1
    obtain ⟨_⟩ := wraps
    cases renames

/-- The alternatives stand for the same symbols with and without precedence levels. -/
theorem Layers.subtypesOf_eq (layers : Layers rule rule') (addressing : Addressing)
    (numbering : Numbering) :
    numbering.subtypesOf addressing rule = numbering.subtypesOf addressing rule' := by
  have read : rule.alternatives.filterMap (numbering.alternativeId? addressing) =
      rule'.alternatives.filterMap (numbering.alternativeId? addressing) := by
    induction layers with
    | refl => rfl
    | tail _ edits ih =>
      refine ih.trans (edits.alternatives (fun _ => rfl) (fun _ => rfl) ?_ ?_)
      · intro _ _ _ wraps
        rw [wraps.bare_eq]
      · intro _ _ _ wraps
        rw [alternatives, alternatives, wraps.bare_eq]
  rw [Numbering.subtypesOf, Numbering.subtypesOf, read]

end Rule

namespace Grammar

variable {grammar : Grammar} {rules : ByName Rule}

/-- Supertypes have the same subtypes with and without precedence levels. -/
theorem subtypeEntry_layers (layers : ByName.Related Rule.Layers grammar.rules rules)
    (addressing : Addressing) (numbering : Numbering) (name : String) :
    numbering.subtypeEntry addressing (grammar.withBodies rules) name =
      numbering.subtypeEntry addressing grammar name := by
  rw [Numbering.subtypeEntry, Numbering.subtypeEntry]
  cases held : grammar.rules[name]? with
  | none => rw [show (grammar.withBodies rules).rules[name]? = none from layers.lacks held]
  | some body =>
    obtain ⟨body', held', same⟩ := layers.exists_related held
    rw [show (grammar.withBodies rules).rules[name]? = some body' from held']
    cases numbering.ruleIds[name]? with
    | none => rfl
    | some id => simp only [same.subtypesOf_eq]

/-- Precedence levels that are put into the rule bodies, wherever and however many there are, leave
the entry rule, the order of the rules, the first defect, the rules out of reach, the symbol table
and the node types as they are. -/
theorem levels_transparent (layers : ByName.Related Rule.Layers grammar.rules rules) :
    (grammar.withBodies rules).startRule = grammar.startRule ∧
      (grammar.withBodies rules).ruleOrder = grammar.ruleOrder ∧
      (grammar.withBodies rules).defect? = grammar.defect? ∧
      (grammar.withBodies rules).unreachable = grammar.unreachable ∧
      SymbolTable.build (grammar.withBodies rules) = SymbolTable.build grammar ∧
      ∀ table, NodeType.listing (grammar.withBodies rules) table =
        NodeType.listing grammar table := by
  have alike : ByName.Related Rule.Alike grammar.rules rules :=
    layers.mono fun _ => Rule.Layers.alike
  have tables : SymbolTable.build (grammar.withBodies rules) = SymbolTable.build grammar := by
    rw [SymbolTable.build_withBodies alike]
    cases built : SymbolTable.build grammar with
    | error error => rfl
    | ok table =>
      have subtypes : table.withSubtypesOf (grammar.withBodies rules) = table := by
        have entries := funext (subtypeEntry_layers layers .sixteenBit table.numbering)
        rw [SymbolTable.withSubtypesOf, entries]
        exact congrArg (fun ids => { table with subtypeIds := ids })
          (SymbolTable.subtypeIds_of_build built).symm
      exact congrArg _ subtypes
  exact ⟨startRule_withBodies alike, ruleOrder_withBodies alike, defect?_withBodies alike,
    unreachable_withBodies alike, tables, NodeType.listing_withBodies alike⟩

/-- Sums of numbers. -/
def sums : Grammar :=
  { Grammar.empty "sums"
      |>.withRule "source_file" (.symbol "_value")
      |>.withRule "_value" (.choice [.symbol "sum", .symbol "number"])
      |>.withRule "sum" (.seq [.symbol "_value", .text "+", .symbol "_value"])
      |>.withRule "number" (.pattern "[0-9]+") with
    supertypes := some ["_value"] }

/-- The rules of sums, with precedence levels around the values and around one of them. -/
def ranked : ByName Rule :=
  sums.rules.insert "_value" (.prec 1 (.choice [.precLeft 2 (.symbol "sum"), .symbol "number"]))

/-- Sums with precedence levels have the defects, the symbols and the node types of those without,
and the values are a supertype in both. -/
theorem levels_transparent_sums :
    (sums.withBodies ranked).defect? = none ∧
      SymbolTable.build (sums.withBodies ranked) = SymbolTable.build sums ∧
      (∀ table, NodeType.listing (sums.withBodies ranked) table = NodeType.listing sums table) ∧
      (SymbolTable.build (sums.withBodies ranked)).toOption.any
        fun table => table.subtypes 4 = [1, 5] := by
  have held : sums.rules["_value"]? = some (.choice [.symbol "sum", .symbol "number"]) := by
    decide +kernel
  have inner : Rule.Edits Rule.Wraps false (.choice [.symbol "sum", .symbol "number"])
      (.choice [.precLeft 2 (.symbol "sum"), .symbol "number"]) :=
    .member (show _ = [] ++ .symbol "sum" :: [.symbol "number"] from rfl) (.here (.level rfl))
  have outer : Rule.Edits Rule.Wraps false
      (.choice [.precLeft 2 (.symbol "sum"), .symbol "number"])
      (.prec 1 (.choice [.precLeft 2 (.symbol "sum"), .symbol "number"])) :=
    .here (.level rfl)
  have layers : ByName.Related Rule.Layers sums.rules ranked :=
    .insert (fun _ => .refl) held (.tail (.single inner) outer)
  obtain ⟨_, _, defects, _, tables, nodeTypes⟩ := levels_transparent layers
  have sound : sums.defect? = none := by decide +kernel
  have subtypes : (SymbolTable.build sums).toOption.any fun table => table.subtypes 4 = [1, 5] := by
    decide +kernel
  refine ⟨defects.trans sound, tables, nodeTypes, ?_⟩
  rw [tables]
  exact subtypes

end Grammar

end GrammarAtlas
