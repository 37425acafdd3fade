import GrammarAtlas.Proofs.Grammar.Consistency

/-!
# The verdict on a grammar

`Grammar.Consistent` says what a consistent grammar is without saying how it is checked: by what
holds of its name, of all nodes of its trees, of all references and of all declarations. The checks
of `Grammar.defect?` agree with it in both directions. They are also told apart one by one, as
`Grammar.checks`, so that it can be said which of several defects is the one that is found: that of
the first check that finds any.

None of this depends on which patterns are refused. Reports on patterns are a parameter `report?`
here, and what is consistent depends on them only through the patterns that are accepted. The
reports of the library are an instance (`Grammar.accepted_iff`).
-/

namespace GrammarAtlas

/-! ## Searches -/

/-- Searching lists one after another is searching them as one list. -/
theorem findSome?_flatMap {α β γ : Type} (look : β → Option γ) (parts : α → List β)
    (list : List α) :
    (list.flatMap parts).findSome? look =
      list.findSome? fun element => (parts element).findSome? look := by
  induction list with
  | nil => rfl
  | cons element rest ih =>
    rw [List.flatMap_cons, List.findSome?_append, ih, List.findSome?_cons]
    cases (parts element).findSome? look <;> rfl

/-- What is made of the first element of a kind is the first that is made of one. -/
theorem map_find? {α β : Type} (holds : α → Bool) (make : α → β) (list : List α) :
    (list.find? holds).map make =
      list.findSome? fun element => if holds element then some (make element) else none := by
  rw [List.find?_eq_findSome?_guard, List.map_findSome?]
  congr 1
  funext element
  simp [Option.guard]

/-! ## Names -/

/-- The letters of the alphabet, and the underscore. -/
def IsLetter (char : Char) : Prop :=
  'A' ≤ char ∧ char ≤ 'Z' ∨ 'a' ≤ char ∧ char ≤ 'z' ∨ char = '_'

/-- The decimal digits. -/
def IsDigit (char : Char) : Prop := '0' ≤ char ∧ char ≤ '9'

/-- A letter, followed by letters and digits. -/
def IsIdentifier (name : String) : Prop :=
  ∃ first rest, name.toList = first :: rest ∧ IsLetter first ∧
    ∀ char ∈ rest, IsLetter char ∨ IsDigit char

/-- Letters are told by their case. -/
theorem isLetter_iff (char : Char) : (char.isAlpha || char = '_') = true ↔ IsLetter char := by
  have upper : char.isUpper = true ↔ 'A' ≤ char ∧ char ≤ 'Z' := decide_eq_true_iff
  have lower : char.isLower = true ↔ 'a' ≤ char ∧ char ≤ 'z' := Bool.and_eq_true_iff.trans
    (and_congr decide_eq_true_iff decide_eq_true_iff)
  have alpha : char.isAlpha = (char.isUpper || char.isLower) := rfl
  rw [alpha, Bool.or_eq_true, Bool.or_eq_true, upper, lower, decide_eq_true_eq, or_assoc, IsLetter]

/-- Letters and digits are told together. -/
theorem isLetter_or_isDigit_iff (char : Char) :
    (char.isAlphanum || char = '_') = true ↔ IsLetter char ∨ IsDigit char := by
  have digit : char.isDigit = true ↔ IsDigit char := Bool.and_eq_true_iff.trans
    (and_congr decide_eq_true_iff decide_eq_true_iff)
  have both : char.isAlphanum = (char.isAlpha || char.isDigit) := rfl
  rw [both, ← isLetter_iff, Bool.or_eq_true, Bool.or_eq_true, Bool.or_eq_true, digit]
  exact or_right_comm

/-- What is checked of a name. -/
theorem isIdentifier_iff (name : String) : isIdentifier name = true ↔ IsIdentifier name := by
  rw [isIdentifier, IsIdentifier]
  cases name.toList with
  | nil => simp
  | cons first rest =>
    simp only [Bool.and_eq_true, isLetter_iff, List.all_eq_true, isLetter_or_isDigit_iff]
    constructor
    · rintro ⟨starts, goesOn⟩
      exact ⟨first, rest, rfl, starts, goesOn⟩
    · rintro ⟨first', rest', same, starts, goesOn⟩
      obtain ⟨rfl, rfl⟩ := List.cons.inj same
      exact ⟨starts, goesOn⟩

/-! ## Nodes -/

namespace Rule

variable {rule : Rule} {flaw : Flaw} {report? : String → Option String}

/-- The nodes of a tree: its root, and the nodes of the wrapped rule and of the members. -/
inductive Within (part : Rule) : Rule → Prop
  /-- The root. -/
  | root : Within part part
  /-- A node of the wrapped rule. -/
  | content {rule inner : Rule} : rule.content = some inner → Within part inner → Within part rule
  /-- A node of a member. -/
  | member {rule inner : Rule} : inner ∈ rule.members → Within part inner → Within part rule

/-- A tree is listed with all its nodes, and with nothing else. -/
theorem mem_walk_iff {part root : Rule} : part ∈ root.walk ↔ part.Within root := by
  constructor
  · intro listed
    rw [walk_eq, List.mem_cons, List.mem_flatMap] at listed
    rcases listed with rfl | ⟨child, among, deeper⟩
    · exact .root
    · have := sizeOf_lt_of_mem_children among
      have below := mem_walk_iff.mp deeper
      rcases List.mem_append.mp among with wrapped | member
      · exact .content (Option.mem_toList.mp wrapped) below
      · exact .member member below
  · intro within
    induction within with
    | root => exact mem_walk_self part
    | @content rule inner wrapped _ ih =>
      rw [walk_eq, List.mem_cons, List.mem_flatMap]
      exact .inr ⟨inner, List.mem_append_left _ (Option.mem_toList.mpr wrapped), ih⟩
    | @member rule inner among _ ih =>
      rw [walk_eq, List.mem_cons, List.mem_flatMap]
      exact .inr ⟨inner, List.mem_append_right _ among, ih⟩
termination_by sizeOf root

/-- A node that has what its kind needs, given which patterns are accepted. -/
structure WellFormed (accepts : String → Prop) (rule : Rule) : Prop where
  /-- References and fields have a name. -/
  name : rule.kind = .symbol ∨ rule.kind = .field → ∃ name, rule.name = some name
  /-- An alias gives a name. -/
  aliasName : rule.kind = .aliased → ∃ name, rule.value = some (.text name)
  /-- Choices and sequences are not empty. -/
  members : rule.kind = .choice ∨ rule.kind = .seq → rule.members ≠ []
  /-- Wrappers wrap a rule. -/
  content : rule.kind.isWrapper → ∃ inner, rule.content = some inner
  /-- A literal has some text. -/
  literal : rule.kind = .text → ∃ words, rule.value = some (.text words) ∧ words ≠ ""
  /-- A pattern has a source that is accepted. -/
  pattern : rule.kind = .pattern →
    ∃ source, rule.value = some (.text source) ∧ accepts source

/-- A node lacks something that its kind needs, given the reports on patterns. It may have two
flaws: a field or an alias without a name may also wrap nothing. -/
inductive HasFlaw (report? : String → Option String) (rule : Rule) : Flaw → Prop
  /-- A reference or a field without a name. -/
  | noName : rule.kind = .symbol ∨ rule.kind = .field → rule.name = none →
    HasFlaw report? rule .noName
  /-- A literal, a pattern or an alias without text. -/
  | noValue : rule.kind = .text ∨ rule.kind = .pattern ∨ rule.kind = .aliased →
    (∀ text, rule.value ≠ some (.text text)) → HasFlaw report? rule .noValue
  /-- A choice or a sequence of nothing. -/
  | noMembers : rule.kind = .choice ∨ rule.kind = .seq → rule.members = [] →
    HasFlaw report? rule .noMembers
  /-- A literal of no characters. -/
  | empty : rule.kind = .text → rule.value = some (.text "") → HasFlaw report? rule .empty
  /-- A wrapper around nothing. -/
  | noContent : rule.kind.isWrapper → rule.content = none → HasFlaw report? rule .noContent
  /-- A pattern that is refused. -/
  | badPattern {source report : String} : rule.kind = .pattern →
    rule.value = some (.text source) → report? source = some report →
    HasFlaw report? rule (.badPattern source report)

/-- The flaw that counts: that a node wraps nothing does so only if nothing else is wrong. -/
def FirstFlaw (report? : String → Option String) (rule : Rule) (flaw : Flaw) : Prop :=
  rule.HasFlaw report? flaw ∧
    (flaw = .noContent → ∀ other, rule.HasFlaw report? other → other = .noContent)

/-- A node lacks text if its value is none. -/
theorem textIf_eq_none_iff {kind : RuleKind} (ofKind : rule.kind = kind) :
    rule.textIf kind = none ↔ ∀ text, rule.value ≠ some (.text text) := by
  rw [textIf]
  split
  case h_1 text value => simp [ofKind, value]
  case h_2 other => simpa using other

/-- The text of a node is its value. -/
theorem textIf_eq_some_iff {kind : RuleKind} (ofKind : rule.kind = kind) {text : String} :
    rule.textIf kind = some text ↔ rule.value = some (.text text) := by
  rw [textIf]
  split
  case h_1 words value => simp [ofKind, value]
  case h_2 other => simpa using other text

/-- What is found wrong with the content of a wrapper is that there is none. -/
theorem hasFlaw_of_contentFlaw? (wraps : rule.kind.isWrapper)
    (found : rule.contentFlaw? = some flaw) : rule.HasFlaw report? flaw := by
  rw [contentFlaw?, Option.ite_none_right_eq_some] at found
  obtain ⟨bare, same⟩ := found
  obtain rfl := Option.some.inj same
  exact .noContent wraps (Option.isNone_iff_eq_none.mp bare)

/-- What is found wrong with a node is wrong. -/
theorem hasFlaw_of_flaw? (found : rule.flaw? report? = some flaw) :
    rule.HasFlaw report? flaw := by
  rw [flaw?] at found
  split at found
  case h_1 => cases found
  case h_2 kind =>
    obtain ⟨unnamed, same⟩ := Option.ite_none_right_eq_some.mp found
    obtain rfl := Option.some.inj same
    exact .noName (.inl kind) (Option.isNone_iff_eq_none.mp unnamed)
  case h_3 kind =>
    split at found
    · obtain rfl := Option.some.inj found
      exact .noName (.inr kind) (Option.isNone_iff_eq_none.mp ‹_›)
    · exact hasFlaw_of_contentFlaw? (by rw [kind]; rfl) found
  case h_4 kind =>
    split at found
    · obtain rfl := Option.some.inj found
      exact .noValue (.inr (.inr kind))
        ((textIf_eq_none_iff kind).mp (Option.isNone_iff_eq_none.mp ‹_›))
    · exact hasFlaw_of_contentFlaw? (by rw [kind]; rfl) found
  case h_5 kind | h_6 kind =>
    obtain ⟨empty, same⟩ := Option.ite_none_right_eq_some.mp found
    obtain rfl := Option.some.inj same
    exact .noMembers (by simp [kind]) (List.isEmpty_iff.mp empty)
  case h_7 kind =>
    split at found
    case h_1 missing =>
      obtain rfl := Option.some.inj found
      exact .noValue (.inl kind) ((textIf_eq_none_iff kind).mp missing)
    case h_2 words given =>
      obtain ⟨empty, same⟩ := Option.ite_none_right_eq_some.mp found
      obtain rfl := Option.some.inj same
      obtain rfl := String.isEmpty_iff.mp empty
      exact .empty kind ((textIf_eq_some_iff kind).mp given)
  case h_8 kind =>
    split at found
    case h_1 missing =>
      obtain rfl := Option.some.inj found
      exact .noValue (.inr (.inl kind)) ((textIf_eq_none_iff kind).mp missing)
    case h_2 source given =>
      obtain ⟨report, refused, rfl⟩ := Option.map_eq_some_iff.mp found
      exact .badPattern kind ((textIf_eq_some_iff kind).mp given) refused
  all_goals exact hasFlaw_of_contentFlaw? (by rw [‹rule.kind = _›]; rfl) found

/-- What is wrong with a node is found, unless it is that the node wraps nothing and something else
is found. -/
theorem flaw?_of_hasFlaw (wrong : rule.HasFlaw report? flaw) :
    rule.flaw? report? = some flaw ∨
      flaw = .noContent ∧ ∃ other, other ≠ .noContent ∧ rule.flaw? report? = some other := by
  cases wrong with
  | noName kind unnamed =>
    left
    rcases kind with kind | kind <;> simp [flaw?, kind, unnamed]
  | noValue kind missing =>
    left
    rcases kind with kind | kind | kind <;>
      simp [flaw?, kind, literal, patternSource, aliasName, (textIf_eq_none_iff kind).mpr missing]
  | noMembers kind empty =>
    left
    rcases kind with kind | kind <;> simp [flaw?, kind, empty]
  | empty kind blank =>
    left
    simp [flaw?, kind, literal, (textIf_eq_some_iff kind).mpr blank]
  | badPattern kind given refused =>
    left
    simp [flaw?, kind, patternSource, (textIf_eq_some_iff kind).mpr given, refused]
  | noContent wraps bare =>
    have content : rule.contentFlaw? = some .noContent := by simp [contentFlaw?, bare]
    rw [flaw?]
    -- Fields and aliases are asked for their name before they are asked what they wrap.
    split
    case h_3 =>
      split
      · exact .inr ⟨rfl, .noName, by simp, rfl⟩
      · exact .inl content
    case h_4 =>
      split
      · exact .inr ⟨rfl, .noValue, by simp, rfl⟩
      · exact .inl content
    case h_1 kind | h_2 kind | h_5 kind | h_6 kind | h_7 kind | h_8 kind =>
      rw [kind] at wraps
      cases wraps
    all_goals exact .inl content

/-- The flaw that is found is the one that counts. -/
theorem flaw?_eq_some_iff :
    rule.flaw? report? = some flaw ↔ rule.FirstFlaw report? flaw := by
  constructor
  · intro found
    refine ⟨hasFlaw_of_flaw? found, ?_⟩
    rintro rfl other wrong
    rcases flaw?_of_hasFlaw wrong with found' | ⟨bare, _⟩
    · exact Option.some.inj (found'.symm.trans found)
    · exact bare
  · rintro ⟨wrong, counts⟩
    rcases flaw?_of_hasFlaw wrong with found | ⟨bare, other, different, found⟩
    · exact found
    · exact absurd (counts bare other (hasFlaw_of_flaw? found)) different

/-- A node that has what it needs lacks nothing. -/
theorem WellFormed.not_hasFlaw (formed : rule.WellFormed fun source => report? source = none) :
    ¬ rule.HasFlaw report? flaw := by
  intro wrong
  cases wrong with
  | noName kind unnamed =>
    obtain ⟨name, named⟩ := formed.name kind
    exact absurd (unnamed.symm.trans named) (by simp)
  | noValue kind missing =>
    rcases kind with kind | kind | kind
    · obtain ⟨words, given, _⟩ := formed.literal kind
      exact missing words given
    · obtain ⟨source, given, _⟩ := formed.pattern kind
      exact missing source given
    · obtain ⟨name, given⟩ := formed.aliasName kind
      exact missing name given
  | noMembers kind empty => exact formed.members kind empty
  | empty kind blank =>
    obtain ⟨words, given, filled⟩ := formed.literal kind
    rw [blank, Option.some.injEq, RuleValue.text.injEq] at given
    exact filled given.symm
  | noContent wraps bare =>
    obtain ⟨inner, wrapped⟩ := formed.content wraps
    exact absurd (bare.symm.trans wrapped) (by simp)
  | badPattern kind given refused =>
    obtain ⟨source, given', accepted⟩ := formed.pattern kind
    rw [given, Option.some.injEq, RuleValue.text.injEq] at given'
    rw [given'] at refused
    exact absurd (accepted.symm.trans refused) (by simp)

/-- A node that lacks nothing has what it needs. -/
theorem wellFormed_of_not_hasFlaw (sound : ∀ flaw, ¬ rule.HasFlaw report? flaw) :
    rule.WellFormed fun source => report? source = none where
  name kind := Option.ne_none_iff_exists'.mp fun unnamed => sound _ (.noName kind unnamed)
  members kind empty := sound _ (.noMembers kind empty)
  content wraps := Option.ne_none_iff_exists'.mp fun bare => sound _ (.noContent wraps bare)
  aliasName kind := by
    by_contra missing
    exact sound _ (.noValue (.inr (.inr kind)) (not_exists.mp missing))
  literal kind := by
    by_contra missing
    refine sound _ (.noValue (.inl kind) fun words given => ?_)
    by_cases blank : words = ""
    · exact sound _ (.empty kind (blank ▸ given))
    · exact missing ⟨words, given, blank⟩
  pattern kind := by
    by_contra missing
    refine sound _ (.noValue (.inr (.inl kind)) fun source given => ?_)
    cases verdict : report? source with
    | none => exact missing ⟨source, given, verdict⟩
    | some report => exact sound _ (.badPattern kind given verdict)

/-- Nothing is found wrong with the nodes that have what they need, and only with these. -/
theorem flaw?_eq_none_iff :
    rule.flaw? report? = none ↔ rule.WellFormed fun source => report? source = none := by
  constructor
  · intro accepted
    refine wellFormed_of_not_hasFlaw fun flaw wrong => ?_
    rcases flaw?_of_hasFlaw wrong with found | ⟨_, other, _, found⟩
    · exact absurd (accepted.symm.trans found) (by simp)
    · exact absurd (accepted.symm.trans found) (by simp)
  · intro formed
    exact Option.eq_none_iff_forall_ne_some.mpr fun flaw found =>
      formed.not_hasFlaw (hasFlaw_of_flaw? found)

end Rule

/-! ## Grammars -/

namespace Grammar

variable {grammar : Grammar}

/-- A rule body or an extra. -/
def Refers (grammar : Grammar) (tree : Rule) : Prop :=
  (∃ name : String, grammar.rules[name]? = some tree) ∨ tree ∈ grammar.extraRules

/-- The names that a reference may have: those of the rules, and those that an external token
refers to. -/
def Defines (grammar : Grammar) (name : String) : Prop :=
  name ∈ grammar.rules ∨
    ∃ token ∈ grammar.externalRules, token.kind = .symbol ∧ token.name = some name

/-- The names that are looked up for the references are those that are defined. -/
theorem mem_definedNames {name : String} : name ∈ grammar.definedNames ↔ grammar.Defines name := by
  rw [definedNames, Defines, Std.ExtTreeSet.mem_ofList, List.contains_iff_mem, List.mem_append,
    Std.ExtTreeMap.mem_keys]
  simp [externalNames, Rule.symbolName, Rule.isSymbol]

/-- The trees that are searched for references are the rule bodies and the extras. -/
theorem exists_mem_referringTrees {tree : Rule} :
    (∃ context, (context, tree) ∈ grammar.referringTrees) ↔ grammar.Refers tree := by
  simp only [referringTrees, List.mem_append, mem_orderedRules, List.mem_map, Prod.mk.injEq,
    exists_or, Refers]
  simp

/-- The trees that are searched for flaws are these and the externals. -/
theorem exists_mem_allTrees {tree : Rule} :
    (∃ context, (context, tree) ∈ grammar.allTrees) ↔
      grammar.Refers tree ∨ tree ∈ grammar.externalRules := by
  rw [← exists_mem_referringTrees]
  simp [allTrees, exists_or]

/-- A consistent grammar, given which patterns are accepted: its name is an identifier, its entry
rule is determined, all nodes of its trees have what they need, and all references and declarations
name something that there is. -/
structure Consistent (accepts : String → Prop) (grammar : Grammar) : Prop where
  /-- The name is an identifier. -/
  name : IsIdentifier grammar.name
  /-- The entry rule is determined. -/
  start : ∃ start, grammar.startRule = some start
  /-- The nodes of the rule bodies, the extras and the externals have what they need. -/
  wellFormed : ∀ tree, grammar.Refers tree ∨ tree ∈ grammar.externalRules →
    ∀ node : Rule, node.Within tree → node.WellFormed accepts
  /-- The references in the rule bodies and the extras name rules or external tokens. -/
  defined : ∀ tree, grammar.Refers tree → ∀ node : Rule, node.Within tree →
    node.kind = .symbol → ∀ name, node.name = some name → grammar.Defines name
  /-- The inlined names are names of rules. -/
  inlined : ∀ name ∈ grammar.inlinedNames, name ∈ grammar.rules
  /-- The supertypes are names of rules. -/
  supertypes : ∀ name ∈ grammar.supertypeNames, name ∈ grammar.rules
  /-- The conflicts are between rules. -/
  conflicts : ∀ name ∈ grammar.conflictNames, name ∈ grammar.rules
  /-- The keyword token is the name of a rule. -/
  word : ∀ name, grammar.word = some name → name ∈ grammar.rules

end Grammar

/-- One thing that is checked of a grammar. -/
inductive Check where
  /-- That the name is an identifier. -/
  | name
  /-- That there are rules. -/
  | rules
  /-- That the entry rule is determined. -/
  | start
  /-- That a node has what it needs. -/
  | node (context : String) (rule : Rule)
  /-- That a reference names a rule or an external token. -/
  | reference (context name : String)
  /-- That a declared name is the name of a rule. -/
  | declaration (declaration : Declaration) (name : String)

namespace Check

variable {grammar : Grammar} {check : Check} {defect : Defect} {report? : String → Option String}

/-- What a check may find, given the reports on patterns. -/
inductive Finds (report? : String → Option String) (grammar : Grammar) : Check → Defect → Prop
  /-- The name is not an identifier. -/
  | badName : ¬ IsIdentifier grammar.name → Finds report? grammar .name (.badName grammar.name)
  /-- There are no rules. -/
  | noRules : (∀ name, name ∉ grammar.rules) → Finds report? grammar .rules .noRules
  /-- The entry rule is not determined. -/
  | noStartRule : grammar.startRule = none → Finds report? grammar .start .noStartRule
  /-- A node has a flaw. -/
  | flawed {context : String} {rule : Rule} {flaw : Flaw} : rule.FirstFlaw report? flaw →
    Finds report? grammar (.node context rule) (.flawed rule.kind context flaw)
  /-- A reference names nothing. -/
  | undefinedSymbol {context name : String} : ¬ grammar.Defines name →
    Finds report? grammar (.reference context name) (.undefinedSymbol name context)
  /-- A declaration names no rule. -/
  | undeclaredRule {declaration : Declaration} {name : String} : name ∉ grammar.rules →
    Finds report? grammar (.declaration declaration name) (.undeclaredRule declaration name)

/-- What a check finds. -/
def defect? (report? : String → Option String) (grammar : Grammar) : Check → Option Defect
  | name => grammar.nameDefect?
  | rules => if grammar.rules.isEmpty then some .noRules else none
  | start => if grammar.startRule.isNone then some .noStartRule else none
  | node context rule => (rule.flaw? report?).map (.flawed rule.kind context)
  | reference context target =>
    if !grammar.definedNames.contains target then some (.undefinedSymbol target context) else none
  | declaration key target =>
    if !grammar.rules.contains target then some (.undeclaredRule key target) else none

/-- A check finds what there is to find. -/
theorem defect?_eq_some_iff :
    check.defect? report? grammar = some defect ↔ check.Finds report? grammar defect := by
  constructor
  · intro found
    cases check with
    | name =>
      rw [defect?, Grammar.nameDefect?, Option.ite_none_left_eq_some] at found
      obtain ⟨bad, same⟩ := found
      obtain rfl := Option.some.inj same
      exact .badName fun good => bad ((isIdentifier_iff _).mpr good)
    | rules =>
      obtain ⟨empty, same⟩ := Option.ite_none_right_eq_some.mp found
      obtain rfl := Option.some.inj same
      exact .noRules (Std.ExtTreeMap.eq_empty_iff_forall_not_mem.mp
        (Std.ExtTreeMap.isEmpty_iff.mp empty))
    | start =>
      obtain ⟨unknown, same⟩ := Option.ite_none_right_eq_some.mp found
      obtain rfl := Option.some.inj same
      exact .noStartRule (Option.isNone_iff_eq_none.mp unknown)
    | node context rule =>
      obtain ⟨flaw, first, rfl⟩ := Option.map_eq_some_iff.mp found
      exact .flawed (Rule.flaw?_eq_some_iff.mp first)
    | reference context target =>
      obtain ⟨missing, same⟩ := Option.ite_none_right_eq_some.mp found
      obtain rfl := Option.some.inj same
      refine .undefinedSymbol fun defined => ?_
      have known := Std.ExtTreeSet.mem_iff_contains.mp (Grammar.mem_definedNames.mpr defined)
      simp [known] at missing
    | declaration key target =>
      obtain ⟨missing, same⟩ := Option.ite_none_right_eq_some.mp found
      obtain rfl := Option.some.inj same
      refine .undeclaredRule fun ruled => ?_
      simp [Std.ExtTreeMap.mem_iff_contains.mp ruled] at missing
  · intro finds
    cases finds with
    | badName bad => simp [defect?, Grammar.nameDefect?, isIdentifier_iff, bad]
    | noRules empty => simp [defect?, Std.ExtTreeMap.eq_empty_iff_forall_not_mem.mpr empty]
    | noStartRule unknown => simp [defect?, unknown]
    | flawed wrong => simp [defect?, Rule.flaw?_eq_some_iff.mpr wrong]
    | undefinedSymbol missing => simp [defect?, Grammar.mem_definedNames, missing]
    | undeclaredRule missing => simp [defect?, missing]

end Check

namespace Grammar

variable {grammar : Grammar} {report? : String → Option String}

/-- All that is checked of a grammar, in the order in which it is checked: its name, its rules as a
whole, the nodes of its trees, the references in its rules and extras, and its declarations. -/
def checks (grammar : Grammar) : List Check :=
  [.name, .rules, .start] ++
    (grammar.allTrees.flatMap fun (context, tree) => tree.walk.map (.node context)) ++
    (grammar.referringTrees.flatMap fun (context, tree) =>
      tree.references.map (.reference context)) ++
    grammar.declarations.map fun (key, name) => .declaration key name

/-- The first defect is what the first check finds that finds any. -/
theorem defect?_eq_findSome? :
    grammar.defect? report? = grammar.checks.findSome? (Check.defect? report? grammar) := by
  have flaws : grammar.flawDefect? report? =
      (grammar.allTrees.flatMap fun (context, tree) =>
        tree.walk.map (Check.node context)).findSome? (Check.defect? report? grammar) := by
    simp only [flawDefect?, findSome?_flatMap, List.findSome?_map]
    rfl
  have symbols : grammar.symbolDefect? =
      (grammar.referringTrees.flatMap fun (context, tree) =>
        tree.references.map (Check.reference context)).findSome?
          (Check.defect? report? grammar) := by
    simp only [symbolDefect?, undefinedIn?, map_find?, findSome?_flatMap, List.findSome?_map]
    rfl
  have declared : grammar.declarationDefect? =
      (grammar.declarations.map fun (key, name) =>
        Check.declaration key name).findSome? (Check.defect? report? grammar) := by
    simp only [declarationDefect?, map_find?, List.findSome?_map]
    rfl
  have whole : grammar.nameDefect?.or grammar.startDefect? =
      [Check.name, .rules, .start].findSome? (Check.defect? report? grammar) := by
    simp only [List.findSome?_cons, List.findSome?_nil, Check.defect?, startDefect?]
    cases grammar.nameDefect? with
    | some defect => rfl
    | none =>
      by_cases empty : grammar.rules.isEmpty
      · simp [empty]
      · by_cases unknown : grammar.startRule.isNone <;> simp [empty, unknown]
  simp only [defect?, checks, List.findSome?_append, flaws, symbols, declared, ← whole,
    Option.orElse_eq_orElse, Option.orElse_eq_or, Option.or_assoc]

/-- The nodes that are checked are those of the rule bodies, the extras and the externals. -/
theorem node_mem_checks {context : String} {node : Rule} :
    .node context node ∈ grammar.checks ↔
      ∃ tree, (context, tree) ∈ grammar.allTrees ∧ node.Within tree := by
  simp [checks, Rule.mem_walk_iff]

/-- The references that are checked are those of the rule bodies and the extras. -/
theorem reference_mem_checks {context name : String} :
    .reference context name ∈ grammar.checks ↔
      ∃ tree, (context, tree) ∈ grammar.referringTrees ∧
        ∃ node : Rule, node.Within tree ∧ node.kind = .symbol ∧ node.name = some name := by
  simp [checks, Rule.references, Rule.mem_walk_iff, Rule.symbolName, Rule.isSymbol]

/-- The declared names that are checked are those of the four declarations. -/
theorem declaration_mem_checks {key : Declaration} {name : String} :
    .declaration key name ∈ grammar.checks ↔ (key, name) ∈ grammar.declarations := by
  simp [checks]

/-- All declared names are names of rules if those of each declaration are. -/
theorem forall_mem_declarations {holds : String → Prop} :
    (∀ key name, (key, name) ∈ grammar.declarations → holds name) ↔
      (∀ name ∈ grammar.inlinedNames, holds name) ∧
        (∀ name ∈ grammar.supertypeNames, holds name) ∧
        (∀ name ∈ grammar.conflictNames, holds name) ∧
        ∀ name, grammar.word = some name → holds name := by
  simp only [declarations, List.mem_append, List.mem_map, Prod.mk.injEq, Option.mem_toList]
  constructor
  · intro all
    refine ⟨fun name listed => ?_, fun name listed => ?_, fun name listed => ?_,
      fun name listed => ?_⟩
    · exact all .inlined name (.inl (.inl (.inl ⟨name, listed, rfl, rfl⟩)))
    · exact all .supertypes name (.inl (.inl (.inr ⟨name, listed, rfl, rfl⟩)))
    · exact all .conflicts name (.inl (.inr ⟨name, listed, rfl, rfl⟩))
    · exact all .word name (.inr ⟨name, listed, rfl, rfl⟩)
  · rintro ⟨inlined, supertypes, conflicts, word⟩ key name declared
    rcases declared with ((⟨_, listed, _, rfl⟩ | ⟨_, listed, _, rfl⟩) | ⟨_, listed, _, rfl⟩) |
      ⟨_, listed, _, rfl⟩
    · exact inlined _ listed
    · exact supertypes _ listed
    · exact conflicts _ listed
    · exact word _ listed

/-- A grammar is consistent if no check finds anything, and only then. -/
theorem consistent_iff :
    (grammar.Consistent fun source => report? source = none) ↔
      ∀ check ∈ grammar.checks, ∀ defect, ¬ check.Finds report? grammar defect := by
  constructor
  · intro consistent check made defect finds
    cases finds with
    | badName bad => exact bad consistent.name
    | noRules empty =>
      obtain ⟨start, entry⟩ := consistent.start
      exact empty start (mem_rules_of_startRule entry)
    | noStartRule unknown =>
      obtain ⟨start, entry⟩ := consistent.start
      exact absurd (unknown.symm.trans entry) (by simp)
    | flawed wrong =>
      obtain ⟨tree, listed, within⟩ := node_mem_checks.mp made
      have checked := exists_mem_allTrees.mp ⟨_, listed⟩
      exact (consistent.wellFormed tree checked _ within).not_hasFlaw wrong.1
    | undefinedSymbol missing =>
      obtain ⟨tree, listed, node, within, kind, named⟩ := reference_mem_checks.mp made
      have refers := exists_mem_referringTrees.mp ⟨_, listed⟩
      exact missing (consistent.defined tree refers node within kind _ named)
    | undeclaredRule missing =>
      have ruled := forall_mem_declarations.mpr ⟨consistent.inlined, consistent.supertypes,
        consistent.conflicts, consistent.word⟩
      exact missing (ruled _ _ (declaration_mem_checks.mp made))
  · -- Where a clause fails, there is a check that finds it.
    intro sound
    have ruled : ∀ key name, (key, name) ∈ grammar.declarations → name ∈ grammar.rules := by
      intro key name declared
      by_contra missing
      exact sound _ (declaration_mem_checks.mpr declared) _ (.undeclaredRule missing)
    obtain ⟨inlined, supertypes, conflicts, word⟩ := forall_mem_declarations.mp ruled
    refine ⟨?_, ?_, ?_, ?_, inlined, supertypes, conflicts, word⟩
    · by_contra bad
      exact sound .name (by simp [checks]) _ (.badName bad)
    · exact Option.ne_none_iff_exists'.mp fun unknown =>
        sound .start (by simp [checks]) _ (.noStartRule unknown)
    · intro tree listed node within
      obtain ⟨context, tree⟩ := exists_mem_allTrees.mpr listed
      refine Rule.flaw?_eq_none_iff.mp (Option.eq_none_iff_forall_ne_some.mpr fun flaw found => ?_)
      exact sound _ (node_mem_checks.mpr ⟨_, tree, within⟩) _
        (.flawed (Rule.flaw?_eq_some_iff.mp found))
    · intro tree listed node within kind name named
      obtain ⟨context, tree⟩ := exists_mem_referringTrees.mpr listed
      by_contra missing
      exact sound _ (reference_mem_checks.mpr ⟨_, tree, node, within, kind, named⟩) _
        (.undefinedSymbol missing)

/-- Exactly the consistent grammars have no defect. -/
theorem defect?_eq_none_iff :
    grammar.defect? report? = none ↔ grammar.Consistent fun source => report? source = none := by
  rw [defect?_eq_findSome?, List.findSome?_eq_none_iff, consistent_iff]
  simp only [Option.eq_none_iff_forall_ne_some, ne_eq, Check.defect?_eq_some_iff]

/-- The grammars that are accepted are the consistent ones, the patterns that are accepted being
those that do not fail. -/
theorem accepted_iff :
    grammar.defect? = none ↔ grammar.Consistent fun source => Pattern.failure? source = none := by
  simp only [defect?_eq_none_iff, Pattern.report?, Option.map_eq_none_iff]

/-- The verdict on a grammar is right and complete, whatever is reported on patterns: exactly the
consistent grammars are accepted, and of any other grammar the defect is what the first check finds
that finds any, in the order of `Grammar.checks`. -/
theorem verdict_exact (report? : String → Option String) (grammar : Grammar) :
    (grammar.defect? report? = none ↔
        grammar.Consistent fun source => report? source = none) ∧
      ∀ defect, grammar.defect? report? = some defect ↔
        ∃ before check after, grammar.checks = before ++ check :: after ∧
          (∀ earlier ∈ before, ∀ other, ¬ earlier.Finds report? grammar other) ∧
          check.Finds report? grammar defect := by
  refine ⟨defect?_eq_none_iff, fun defect => ?_⟩
  rw [defect?_eq_findSome?, List.findSome?_eq_some_iff]
  simp only [Option.eq_none_iff_forall_ne_some, ne_eq, Check.defect?_eq_some_iff]
  constructor
  · rintro ⟨before, check, after, order, finds, quiet⟩
    exact ⟨before, check, after, order, quiet, finds⟩
  · rintro ⟨before, check, after, order, quiet, finds⟩
    exact ⟨before, check, after, order, finds, quiet⟩

end Grammar

end GrammarAtlas
