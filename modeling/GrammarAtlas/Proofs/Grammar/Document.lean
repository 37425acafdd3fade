import GrammarAtlas.Grammar.Reader
import GrammarAtlas.Proofs.ByName
import GrammarAtlas.Proofs.Rule.Spelling

/-!
# Decoding grammars

A document spells a grammar as a record of its name, its rules and what else it has
(`Grammar.SpelledBy`): the keys may come in any order, and so may the rules and the sets of reserved
words, what the grammar lacks is null or left out, and unknown keys hold anything, in the grammar as
in its rules. Every such document is decoded to that grammar
(`Grammar.ofDocument_of_spelledBy`).
-/

namespace GrammarAtlas

open Json

namespace Grammar

variable {grammar : Grammar} {rules : List (String × Rule)}
  {reserved : Option (List (String × List Rule))} {depth depth' : Nat} {text : String}

/-! ## Spellings -/

/-- A list of names is spelled as a list of texts. -/
def SpellsNames (depth : Nat) : List String → List Char → Prop := SpellsList depth SpellsText

/-- A list of rules is spelled where so many levels are left. -/
def SpellsRules (depth : Nat) : List Rule → List Char → Prop :=
  SpellsList depth (Rule.SpelledBy (depth - 1))

/-- What the keys of a grammar hold, `depth` levels being left for it. The rules and the sets of
reserved words are given in the order of the document. -/
def properties (depth : Nat) (grammar : Grammar) (rules : List (String × Rule))
    (reserved : Option (List (String × List Rule))) : List Property := [
  .ofOption "$schema" SpellsText grammar.schema,
  ⟨"name", False, SpellsText grammar.name⟩,
  .ofOption "inherits" SpellsText grammar.inherits,
  ⟨"rules", False, SpellsTable depth (Rule.SpelledBy (depth - 1)) rules⟩,
  .ofOption "extras" (SpellsRules depth) grammar.extras,
  .ofOption "externals" (SpellsRules depth) grammar.externals,
  .ofOption "inline" (SpellsNames depth) grammar.inlined,
  .ofOption "precedences" (SpellsList depth (SpellsRules (depth - 1))) grammar.precedences,
  .ofOption "conflicts" (SpellsList depth (SpellsNames (depth - 1))) grammar.conflicts,
  .ofOption "reserved" (SpellsTable depth (SpellsRules (depth - 1))) reserved,
  .ofOption "word" SpellsText grammar.word,
  .ofOption "supertypes" (SpellsNames depth) grammar.supertypes]

/-- The rules and the sets of reserved words are those of the grammar, in some order. -/
def Lists (grammar : Grammar) (rules : List (String × Rule))
    (reserved : Option (List (String × List Rule))) : Prop :=
  rules.Perm grammar.rules.toList ∧
    Option.Rel List.Perm reserved (grammar.reserved.map fun sets => sets.toList)

/-- A document spells the grammar as a record that nests no deeper than so many levels. -/
def SpelledBy (depth : Nat) (grammar : Grammar) (text : String) : Prop :=
  ∃ rules reserved, grammar.Lists rules reserved ∧
    IsDocument (SpellsRecord depth (grammar.properties (depth - 1) rules reserved)) text

/-- The rules of a grammar fit into so many levels of a document, in whatever part of it they
are. -/
structure NestsWithin (depth : Nat) (grammar : Grammar) : Prop where
  /-- The bodies of the rules are two levels below the grammar. -/
  rules : ∀ entry ∈ grammar.rules.toList, entry.2.nestsWithin (depth - 2)
  /-- So are the extras. -/
  extras : ∀ rules ∈ grammar.extras, ∀ rule ∈ rules, rule.nestsWithin (depth - 2)
  /-- So are the externals. -/
  externals : ∀ rules ∈ grammar.externals, ∀ rule ∈ rules, rule.nestsWithin (depth - 2)
  /-- What is ranked is three levels below. -/
  precedences : ∀ groups ∈ grammar.precedences, ∀ group ∈ groups, ∀ rule ∈ group,
    rule.nestsWithin (depth - 3)
  /-- So are the reserved words. -/
  reserved : ∀ sets ∈ grammar.reserved, ∀ entry ∈ sets.toList, ∀ rule ∈ entry.2,
    rule.nestsWithin (depth - 3)

/-! ## Decoding -/

/-- What the draft of a grammar holds once some keys have been found. -/
def draft (grammar : Grammar) (rules : List (String × Rule))
    (reserved : Option (List (String × List Rule))) (seen : List String) : Draft where
  schema := noted seen "$schema" grammar.schema
  name := noted seen "name" grammar.name
  inherits := noted seen "inherits" grammar.inherits
  rules := noted seen "rules" rules
  extras := noted seen "extras" grammar.extras
  externals := noted seen "externals" grammar.externals
  inlined := noted seen "inline" grammar.inlined
  precedences := noted seen "precedences" grammar.precedences
  conflicts := noted seen "conflicts" grammar.conflicts
  reserved := noted seen "reserved" reserved
  word := noted seen "word" grammar.word
  supertypes := noted seen "supertypes" grammar.supertypes

/-- Sets of reserved words are those of a table, in some order. -/
theorem Lists.exists_perm (lists : grammar.Lists rules reserved)
    {sets : List (String × List Rule)} (held : sets ∈ reserved) :
    ∃ table ∈ grammar.reserved, sets.Perm table.toList := by
  obtain ⟨_, same⟩ := lists
  obtain rfl := Option.mem_def.mp held
  generalize grammar.reserved = table at same
  cases table with
  | none => cases same
  | some table =>
    cases same with
    | some perm => exact ⟨table, rfl, perm⟩

/-- Sets of reserved words make the same table in whatever order they come. -/
theorem Lists.reserved_eq (lists : grammar.Lists rules reserved) :
    reserved.map (fun sets => .ofList sets) = grammar.reserved := by
  cases reserved with
  | none =>
    obtain ⟨_, same⟩ := lists
    generalize grammar.reserved = table at same
    cases table with
    | none => rfl
    | some table => cases same
  | some sets =>
    obtain ⟨table, held, perm⟩ := lists.exists_perm rfl
    rw [Option.map_some, ByName.ofList_eq_of_perm perm]
    exact (Option.mem_def.mp held).symm

/-- A grammar that lacks nothing necessary is made of its draft. -/
theorem build_draft {seen : List String} (lists : grammar.Lists rules reserved)
    (complete : ∀ property ∈ grammar.properties depth rules reserved,
      property.optional ∨ property.name ∈ seen) :
    (grammar.draft rules reserved seen).build = .ok grammar := by
  simp only [properties, Property.ofOption, List.forall_mem_cons, false_or] at complete
  obtain ⟨schema, name, inherits, body, extras, externals, inlined, precedences, conflicts, sets,
    word, supertypes, _⟩ := complete
  have named : noted seen "name" grammar.name = some grammar.name := if_pos name
  have ruled : noted seen "rules" rules = some rules := if_pos body
  simp only [draft, Draft.build, named, ruled, join_noted schema, join_noted inherits,
    join_noted extras, join_noted externals, join_noted inlined, join_noted precedences,
    join_noted conflicts, join_noted sets, join_noted word, join_noted supertypes,
    ByName.ofList_eq_of_perm lists.1, lists.reserved_eq]

/-- Lists of names are decoded. -/
theorem decodes_names (depth : Nat) : Decodes (readNames depth) (SpellsNames depth) :=
  decodes_text.list

/-- Lists of rules are decoded. -/
theorem decodes_rules (depth : Nat) : Decodes (readRules depth) (SpellsRules depth) :=
  (Rule.decodes (depth - 1)).list

/-- The layout of grammars describes a grammar by its properties. -/
theorem describes (lists : grammar.Lists rules reserved) (depth : Nat) :
    Describes (grammar.properties depth rules reserved) (layout depth) grammar
      fun seen draft => draft = grammar.draft rules reserved seen where
  starts := rfl
  fields := by
    refine .cons (serves_ofOption decodes_text ?_ ?_) <|
      .cons (serves_of rfl ?_ fun spelled => ⟨grammar.name, decodes_text.takes spelled, ?_⟩) <|
      .cons (serves_ofOption decodes_text ?_ ?_) <|
      .cons (serves_of rfl ?_ fun spelled =>
        ⟨rules, (Rule.decodes (depth - 1)).table.takes spelled, ?_⟩) <|
      .cons (serves_ofOption (decodes_rules depth) ?_ ?_) <|
      .cons (serves_ofOption (decodes_rules depth) ?_ ?_) <|
      .cons (serves_ofOption (decodes_names depth) ?_ ?_) <|
      .cons (serves_ofOption (decodes_rules (depth - 1)).list ?_ ?_) <|
      .cons (serves_ofOption (decodes_names (depth - 1)).list ?_ ?_) <|
      .cons (serves_ofOption (decodes_rules (depth - 1)).table ?_ ?_) <|
      .cons (serves_ofOption decodes_text ?_ ?_) <|
      .cons (serves_ofOption (decodes_names depth) ?_ ?_) .nil
    -- A field is unset until its key has been found, and holds what it ought to from then on.
    all_goals
      rintro seen _ rfl
      simp +contextual [draft, noted]
  ignores := by
    rintro seen _ key rfl foreign
    simp only [properties, Property.ofOption, List.map_cons, List.map_nil, List.mem_cons,
      List.not_mem_nil, or_false, not_or, eq_comm (a := key)] at foreign
    obtain ⟨schema, name, inherits, body, extras, externals, inlined, precedences, conflicts, sets,
      word, supertypes⟩ := foreign
    simp only [draft, noted_cons_of_ne schema, noted_cons_of_ne name, noted_cons_of_ne inherits,
      noted_cons_of_ne body, noted_cons_of_ne extras, noted_cons_of_ne externals,
      noted_cons_of_ne inlined, noted_cons_of_ne precedences, noted_cons_of_ne conflicts,
      noted_cons_of_ne sets, noted_cons_of_ne word, noted_cons_of_ne supertypes]
  builds := by
    rintro seen _ rfl complete
    exact build_draft lists complete

/-- Lists of names are spelled wherever a level is left. -/
theorem SpellsNames.within {names : List String} {chars : List Char} (deep : 0 < depth')
    (spelled : SpellsNames depth names chars) : SpellsNames depth' names chars :=
  SpellsList.imp deep (fun _ _ _ spelled => spelled) spelled

/-- Lists of rules are spelled where fewer levels are left if the rules fit into those. -/
theorem SpellsRules.within {values : List Rule} {chars : List Char} (deep : 0 < depth')
    (nests : ∀ rule ∈ values, rule.nestsWithin (depth' - 1))
    (spelled : SpellsRules depth values chars) : SpellsRules depth' values chars :=
  SpellsList.imp deep (fun rule listed _ spelled => spelled.within (nests rule listed)) spelled

/-- However deep a grammar is spelled, it is spelled within the levels that its rules fit into. -/
theorem SpelledBy.within (spelled : grammar.SpelledBy depth text)
    (nests : grammar.NestsWithin depth') (deep : 3 ≤ depth') : grammar.SpelledBy depth' text := by
  obtain ⟨rules, reserved, lists, document⟩ := spelled
  refine ⟨rules, reserved, lists, document.imp fun chars spelled => spelled.imp (by omega) ?_⟩
  refine .cons (.refl _) <| .cons (.refl _) <| .cons (.refl _) <|
    .cons ⟨rfl, id, fun _ => SpellsTable.imp ?_ ?_⟩ <|
    .cons (.ofOption _ ?_) <| .cons (.ofOption _ ?_) <| .cons (.ofOption _ ?_) <|
    .cons (.ofOption _ ?_) <| .cons (.ofOption _ ?_) <| .cons (.ofOption _ ?_) <|
    .cons (.refl _) <| .cons (.ofOption _ ?_) .nil
  · omega
  · exact fun entry listed _ spelled =>
      spelled.within (nests.rules entry (lists.1.mem_iff.mp listed))
  · exact fun extras held _ => SpellsRules.within (by omega) (nests.extras extras held)
  · exact fun externals held _ => SpellsRules.within (by omega) (nests.externals externals held)
  · exact fun _ _ _ => SpellsNames.within (by omega)
  · exact fun groups held _ => SpellsList.imp (by omega) fun group listed _ =>
      SpellsRules.within (by omega) (nests.precedences groups held group listed)
  · exact fun _ _ _ => SpellsList.imp (by omega) fun _ _ _ => SpellsNames.within (by omega)
  · intro sets held _
    obtain ⟨table, held', perm⟩ := lists.exists_perm held
    exact SpellsTable.imp (by omega) fun entry listed _ =>
      SpellsRules.within (by omega) (nests.reserved table held' entry (perm.mem_iff.mp listed))
  · exact fun _ _ _ => SpellsNames.within (by omega)

/-- A document that spells a grammar and nests no deeper than documents may is decoded. -/
theorem ofDocument_of_spelledBy (spelled : grammar.SpelledBy maxDepth text) :
    ofDocument text = .ok grammar := by
  obtain ⟨rules, reserved, lists, document⟩ := spelled
  have read : readDocument read text = .ok grammar :=
    readDocument_of_takes (document.imp fun _ spelled => (describes lists _).takes spelled)
  rw [ofDocument, read]

/-- Every spelling of a grammar is decoded: one that nests no deeper than documents may, and, if the
rules of the grammar fit into that many levels, any at all. -/
theorem decodes_spellings (grammar : Grammar) (text : String) :
    (grammar.SpelledBy maxDepth text → ofDocument text = .ok grammar) ∧
      (grammar.NestsWithin maxDepth → ∀ depth, grammar.SpelledBy depth text →
        ofDocument text = .ok grammar) := by
  constructor
  · exact ofDocument_of_spelledBy
  · intro nests depth spelled
    exact ofDocument_of_spelledBy (spelled.within nests (by decide))

/-! ## A document in an unusual writing -/

/-- A precedence level without any content. -/
def bareLevel : Rule := { kind := .prec, value := some (.level (-1)) }

/-- A way to spell it: with an escape that is not needed, and with a key that could be left out. -/
def bareLevelChars : List Char :=
  "\x7b\"value\":-1, \"type\" :\"\\u0050REC\",\"members\":[]\x7d".toList

/-- It is spelled that way. -/
theorem bareLevel_spelledBy : bareLevel.SpelledBy 125 bareLevelChars := by
  let value : Member := ⟨Writer.text "value" 0, [], [], "-1".toList⟩
  let type : Member := ⟨Writer.text "type" 0, [' '], [], "\"\\u0050REC\"".toList⟩
  let members : Member := ⟨Writer.text "members" 0, [], [], "[]".toList⟩
  have escape : SpellsChar 'P' "\\u0050".toList := .numbered ⟨by decide,
    .cons (.inl rfl) (.cons (.inl rfl) (.cons (.inl rfl) (.cons (.inl rfl) .nil)))⟩
  have each : List.Forall₂ SpellsChar ['P', 'R', 'E', 'C'] _ :=
    .cons escape (.cons (.plain (by decide)) (.cons (.plain (by decide))
      (.cons (.plain (by decide)) .nil)))
  have joined : Joined ([value, type, members].map Member.chars) _ :=
    .next blank_nil (by decide : Blank [' ']) (.next blank_nil blank_nil (.last blank_nil))
  refine ⟨by decide, [("value", value), ("type", type), ("members", members)], ?_, by decide,
    .some blank_nil joined⟩
  constructor
  · simp only [List.forall_mem_cons]
    exact ⟨spellsText_text _ 0, spellsText_text _ 0, spellsText_text _ 0,
      fun _ listed => absurd listed List.not_mem_nil⟩
  · simp only [Rule.properties, Property.ofOption, List.forall_mem_cons]
    decide
  · simp [Rule.properties, Property.ofOption, bareLevel]
  · have level : RuleValue.SpelledBy (.level (-1)) value.value := ⟨by decide, by decide, rfl⟩
    have tag : SpellsText "PREC" type.value := ⟨_, each, rfl⟩
    have nothing : SpellsList 124 (Rule.SpelledBy 123) [] members.value :=
      ⟨by decide, [], .nil, .none blank_nil⟩
    simpa [Rule.properties, Property.ofOption, bareLevel] using ⟨level, tag, nothing⟩
  · simp [Rule.properties, Property.ofOption]

/-- A grammar of which it is the only rule. -/
def bareGrammar : Grammar where
  name := "g"
  rules := .ofList [("a", bareLevel)]

/-- A document for that grammar: with an unknown key, a value that could be left out, and blanks in
some places. -/
def bareText : String := String.ofList
  ("\x7b \"x\" : [\"\\uD800\"], \"rules\":\x7b\"a\":".toList ++
    (bareLevelChars ++ "\x7d,\"word\":null,\"name\":\"g\"\x7d\n".toList))

/-- It is spelled by the document. -/
theorem bareGrammar_spelledBy : bareGrammar.SpelledBy maxDepth bareText := by
  have perm : [("a", bareLevel)].Perm bareGrammar.rules.toList :=
    (ByName.perm_toList_ofList (by decide)).symm
  let body : Member := ⟨Writer.text "a" 0, [], [], bareLevelChars⟩
  let unknown : Member := ⟨Writer.text "x" 0, [' '], [' '], "[\"\\uD800\"]".toList⟩
  let rules : Member := ⟨Writer.text "rules" 0, [], [], '\x7b' :: (body.chars ++ ['\x7d'])⟩
  let word : Member := ⟨Writer.text "word" 0, [], [], "null".toList⟩
  let name : Member := ⟨Writer.text "name" 0, [], [], "\"g\"".toList⟩
  have table : SpellsTable 126 (Rule.SpelledBy 125) [("a", bareLevel)] rules.value :=
    ⟨by decide, [body], .cons ⟨spellsText_text _ 0, bareLevel_spelledBy⟩ .nil, by decide,
      .some blank_nil (.last blank_nil)⟩
  have surrogate : IsValue "\"\\uD800\"".toList := by
    have digits : SpellsUnit 0xD800 ['D', '8', '0', '0'] := ⟨by decide,
      .cons (.inr rfl) (.cons (.inl rfl) (.cons (.inl rfl) (.cons (.inl rfl) .nil)))⟩
    exact .text ⟨[_], List.forall_mem_singleton.mpr (.numbered digits), rfl⟩
  have anything : IsValue unknown.value :=
    .list (List.forall_mem_singleton.mpr surrogate) (.some blank_nil (.last blank_nil))
  have joined : Joined ([unknown, rules, word, name].map Member.chars) _ :=
    .next blank_nil (by decide : Blank [' ']) (.next blank_nil blank_nil
      (.next blank_nil blank_nil (.last blank_nil)))
  refine ⟨_, none, ⟨perm, .none⟩, [], _, ['\n'], blank_nil, by decide, ⟨by decide,
    [("x", unknown), ("rules", rules), ("word", word), ("name", name)], ?_, by decide,
    .some (by decide : Blank [' ']) joined⟩, by decide⟩
  constructor
  · simp only [List.forall_mem_cons]
    exact ⟨spellsText_text _ 0, spellsText_text _ 0, spellsText_text _ 0, spellsText_text _ 0,
      fun _ listed => absurd listed List.not_mem_nil⟩
  · simp only [properties, Property.ofOption, List.forall_mem_cons]
    decide
  · simp [properties, Property.ofOption, bareGrammar]
  · have null : SpellsOption SpellsText none word.value := rfl
    simpa [properties, Property.ofOption, bareGrammar] using ⟨table, null, spellsText_text "g" 0⟩
  · simpa [properties, Property.ofOption] using anything

/-- A document that spells a grammar in an unusual way is decoded. -/
theorem decodes_spellings_bare : bareGrammar.SpelledBy maxDepth bareText ∧
    bareGrammar.NestsWithin maxDepth ∧ ofDocument bareText = .ok bareGrammar := by
  have nests : bareGrammar.NestsWithin maxDepth := by
    constructor
    · intro entry listed
      have perm : bareGrammar.rules.toList.Perm [("a", bareLevel)] :=
        ByName.perm_toList_ofList (by decide)
      obtain rfl := List.mem_singleton.mp (perm.mem_iff.mp listed)
      decide
    all_goals
      intro _ held
      cases held
  exact ⟨bareGrammar_spelledBy, nests,
    (decodes_spellings bareGrammar bareText).2 nests maxDepth bareGrammar_spelledBy⟩

end Grammar

end GrammarAtlas
