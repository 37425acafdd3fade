import GrammarAtlas.Grammar.Advice
import GrammarAtlas.Proofs.ByName
import GrammarAtlas.Proofs.Rule.Alike

/-!
# Grammars whose rules read alike

Where every rule body is like the one that it takes the place of, the grammar keeps its entry rule,
the order of its rules, its first defect, the rules out of reach, and all that it numbers.
-/

namespace GrammarAtlas

namespace Rule.Alike

variable {rule rule' : Rule}

/-- No plain node has a property that only some other kind has. -/
theorem silent_of_kind {α : Type} {read : Rule → Option α} {kind : RuleKind}
    (only : ∀ {node value}, read node = some value → node.kind = kind)
    (other : kind.isPrecedence = false ∧ kind.isGroup = false) {node : Rule}
    (plain : node.isPlain) : read node = none := by
  refine Option.eq_none_iff_forall_ne_some.mpr fun value found => ?_
  rw [isPlain, only found, other.1, other.2] at plain
  cases plain

/-- Trees that are alike refer to the same rules. -/
theorem references_eq (alike : Alike rule rule') : rule.references = rule'.references :=
  alike.filterMap_walk (fun _ => rfl) fun _ => silent_of_kind kind_of_symbolName ⟨rfl, rfl⟩

/-- The aliases in trees that are alike give the same kinds. -/
theorem aliasNodes_eq (alike : Alike rule rule') : rule.aliasNodes = rule'.aliasNodes :=
  alike.filterMap_walk (fun _ => rfl) fun _ => silent_of_kind kind_of_aliasNode ⟨rfl, rfl⟩

/-- Trees that are alike have the same field labels. -/
theorem fieldNames_eq (alike : Alike rule rule') :
    rule.walk.filterMap fieldName = rule'.walk.filterMap fieldName := by
  have only {node : Rule} {label : String} (named : node.fieldName = some label) :
      node.kind = .field := by
    by_contra other
    rw [fieldName, if_neg other] at named
    cases named
  exact alike.filterMap_walk (fun _ => rfl) fun _ => silent_of_kind only ⟨rfl, rfl⟩

/-- Trees that are alike have the same first flaw. -/
theorem flawIn?_eq (alike : Alike rule rule') (context : String) :
    Grammar.flawIn? context rule = Grammar.flawIn? context rule' := by
  rw [Grammar.flawIn?, Grammar.flawIn?, ← List.head?_filterMap, ← List.head?_filterMap,
    alike.filterMap_walk]
  · intro node
    rw [flaw?_gist]
    rfl
  · intro node plain
    rw [isPlain, Bool.and_eq_true] at plain
    rw [Option.isNone_iff_eq_none.mp plain.2, Option.map_none]

/-- Trees that are alike have the same first undefined reference. -/
theorem undefinedIn?_eq (alike : Alike rule rule') (defined : NameSet) (context : String) :
    Grammar.undefinedIn? defined context rule = Grammar.undefinedIn? defined context rule' := by
  rw [Grammar.undefinedIn?, Grammar.undefinedIn?, alike.references_eq]

end Rule.Alike

/-! ## Searching for rules out of reach -/

/-- Where rules are alike, the same ones are out of reach. -/
theorem related_unreached {rules rules' : ByName Rule}
    (alike : ByName.Related Rule.Alike rules rules') (pending : List String) :
    ByName.Related Rule.Alike (unreached rules pending) (unreached rules' pending) := by
  fun_induction unreached rules pending generalizing rules' with
  | case1 rules => simpa only [unreached] using alike
  | case2 rules name pending lacking ih =>
    rw [unreached]
    split
    · exact ih alike
    · rename_i body found
      exact absurd ((alike.lacks lacking).symm.trans found) (by simp)
  | case3 rules name pending body found ih =>
    obtain ⟨body', found', same⟩ := alike.exists_related found
    rw [unreached]
    split
    · rename_i lacking
      exact absurd (lacking.symm.trans found') (by simp)
    · rename_i other held
      obtain rfl := Option.some.inj (held.symm.trans found')
      rw [← same.references_eq]
      exact ih (alike.erase name)

namespace Grammar

/-- The grammar with other rule bodies. -/
def withBodies (grammar : Grammar) (rules : ByName Rule) : Grammar := { grammar with rules }

section

variable {grammar : Grammar} {rules : ByName Rule} {start : String}

/-! ## The entry rule -/

/-- The same rules are mentioned. -/
theorem mentions_withBodies (alike : ByName.Related Rule.Alike grammar.rules rules) :
    (grammar.withBodies rules).mentions = grammar.mentions := by
  have bodies := alike.map_toList (fun entry => entry.2.references.filter (· != entry.1))
    fun same => by simp only [same.references_eq]
  simp only [mentions, List.flatMap_def, bodies, withBodies]
  rfl

/-- The same rules are roots. -/
theorem roots_withBodies (alike : ByName.Related Rule.Alike grammar.rules rules) :
    (grammar.withBodies rules).roots = grammar.roots := by
  rw [roots, roots, mentions_withBodies alike, alike.keys_eq]
  rfl

/-- The entry rule is the same. -/
theorem startRule_withBodies (alike : ByName.Related Rule.Alike grammar.rules rules) :
    (grammar.withBodies rules).startRule = grammar.startRule := by
  rw [startRule, startRule, roots_withBodies alike, alike.contains_eq]
  rfl

/-- The rules come in the same order, each with its other body. -/
theorem orderedRules_withBodies (alike : ByName.Related Rule.Alike grammar.rules rules) :
    (grammar.withBodies rules).orderedRules =
      grammar.orderedRules.map fun entry => (entry.1, rules[entry.1]?.getD entry.2) := by
  rw [orderedRules, orderedRules, startRule_withBodies alike]
  cases grammar.startRule with
  | none => exact alike.toList_eq
  | some start =>
    have others : (rules.toList.filter fun entry => entry.1 != start) =
        (grammar.rules.toList.filter fun entry => entry.1 != start).map
          fun entry => (entry.1, rules[entry.1]?.getD entry.2) := by
      rw [alike.toList_eq, List.filter_map]
      rfl
    simp only [withBodies, others, List.map_append]
    cases held : grammar.rules[start]? with
    | none => simp [alike.lacks held]
    | some body =>
      obtain ⟨body', held', -⟩ := alike.exists_related held
      simp [held']

/-- What is the same for rules that are alike is so along the rules in order. -/
theorem map_orderedRules {α : Type} {view : String × Rule → α}
    (alike : ByName.Related Rule.Alike grammar.rules rules)
    (same : ∀ {name body body'}, Rule.Alike body body' → view (name, body) = view (name, body')) :
    grammar.orderedRules.map view = (grammar.withBodies rules).orderedRules.map view := by
  rw [orderedRules_withBodies alike, List.map_map]
  refine List.map_congr_left fun entry listed => ?_
  obtain ⟨body', held', bodies⟩ := alike.exists_related (mem_orderedRules.mp listed)
  rw [Function.comp_apply, held', Option.getD_some]
  exact same bodies

/-- What is picked is the same along the rules in order if it is so for rules that are alike. -/
theorem filterMap_orderedRules {α : Type} {view : String × Rule → Option α}
    (alike : ByName.Related Rule.Alike grammar.rules rules)
    (same : ∀ {name body body'}, Rule.Alike body body' → view (name, body) = view (name, body')) :
    (grammar.withBodies rules).orderedRules.filterMap view =
      grammar.orderedRules.filterMap view := by
  have mapped := congrArg (List.filterMap id) (map_orderedRules alike same)
  rw [List.filterMap_map, List.filterMap_map] at mapped
  exact mapped.symm

/-- What is listed is the same along the rules in order if it is so for rules that are alike. -/
theorem flatMap_orderedRules {α : Type} {view : String × Rule → List α}
    (alike : ByName.Related Rule.Alike grammar.rules rules)
    (same : ∀ {name body body'}, Rule.Alike body body' → view (name, body) = view (name, body')) :
    (grammar.withBodies rules).orderedRules.flatMap view = grammar.orderedRules.flatMap view := by
  rw [List.flatMap_def, List.flatMap_def, map_orderedRules alike same]

/-- What is found is the same along the rules in order if it is so for rules that are alike. -/
theorem findSome?_orderedRules {α : Type} {view : String × Rule → Option α}
    (alike : ByName.Related Rule.Alike grammar.rules rules)
    (same : ∀ {name body body'}, Rule.Alike body body' → view (name, body) = view (name, body')) :
    (grammar.withBodies rules).orderedRules.findSome? view =
      grammar.orderedRules.findSome? view := by
  rw [← List.head?_filterMap, ← List.head?_filterMap, filterMap_orderedRules alike same]

/-- The order of the rules is the same. -/
theorem ruleOrder_withBodies (alike : ByName.Related Rule.Alike grammar.rules rules) :
    (grammar.withBodies rules).ruleOrder = grammar.ruleOrder :=
  (map_orderedRules alike fun _ => rfl).symm

/-! ## Defects and advice -/

/-- The same rules are out of reach. -/
theorem unreachable_withBodies (alike : ByName.Related Rule.Alike grammar.rules rules) :
    (grammar.withBodies rules).unreachable = grammar.unreachable := by
  have names : (grammar.withBodies rules).entryNames = grammar.entryNames := by
    rw [entryNames, startRule_withBodies alike]
    rfl
  rw [unreachable, names, ruleOrder_withBodies alike]
  refine List.filter_congr fun name _ => ?_
  rw [(related_unreached alike grammar.entryNames).contains_eq]
  rfl

/-- The first defect is the same. -/
theorem defect?_withBodies (alike : ByName.Related Rule.Alike grammar.rules rules) :
    (grammar.withBodies rules).defect? = grammar.defect? := by
  have starts : (grammar.withBodies rules).startDefect? = grammar.startDefect? := by
    rw [startDefect?, startDefect?, startRule_withBodies alike, ← Std.ExtTreeMap.isEmpty_keys,
      ← Std.ExtTreeMap.isEmpty_keys, alike.keys_eq]
    rfl
  have flaws : (grammar.withBodies rules).flawDefect? = grammar.flawDefect? := by
    simp only [flawDefect?, allTrees, referringTrees, List.findSome?_append]
    rw [findSome?_orderedRules alike fun same => same.flawIn?_eq _]
    rfl
  have names : (grammar.withBodies rules).definedNames = grammar.definedNames := by
    rw [definedNames, definedNames, alike.keys_eq]
    rfl
  have references : (grammar.withBodies rules).symbolDefect? = grammar.symbolDefect? := by
    simp only [symbolDefect?, referringTrees, List.findSome?_append, names]
    rw [findSome?_orderedRules alike fun same => same.undefinedIn?_eq _ _]
    rfl
  have declared : (grammar.withBodies rules).declarationDefect? = grammar.declarationDefect? := by
    simp only [declarationDefect?, alike.contains_eq]
    rfl
  rw [defect?, starts, flaws, references, declared]
  rfl

/-! ## Entries -/

/-- Rules that are alike become tokens together. -/
theorem isToken_eq {body body' : Rule} (same : Rule.Alike body body') (start name : String) :
    isToken start name body = isToken start name body' := by
  rw [isToken, isToken, same.lexical]

/-- The same rules are tokens. -/
theorem tokenNames_withBodies (alike : ByName.Related Rule.Alike grammar.rules rules)
    (start : String) : (grammar.withBodies rules).tokenNames start = grammar.tokenNames start := by
  simp only [tokenNames, ← List.filterMap_eq_map, List.filterMap_filter]
  rw [filterMap_orderedRules alike fun same => by rw [isToken_eq same]; rfl]

/-- The fields have the same names. -/
theorem fieldNames_withBodies (alike : ByName.Related Rule.Alike grammar.rules rules) :
    (grammar.withBodies rules).fieldNames = grammar.fieldNames := by
  have labels := alike.map_toList (fun entry => entry.2.walk.filterMap Rule.fieldName)
    fun same => same.fieldNames_eq
  simp only [fieldNames, withBodies, List.flatMap_def, labels]

/-- The same is numbered. -/
theorem entries_withBodies (alike : ByName.Related Rule.Alike grammar.rules rules)
    (start : String) : (grammar.withBodies rules).entries start = grammar.entries start := by
  have tokens : (grammar.withBodies rules).tokenEntries start = grammar.tokenEntries start :=
    flatMap_orderedRules alike fun same => by dsimp only; rw [isToken_eq same, same.literals]
  have externals : (grammar.withBodies rules).externalEntries = grammar.externalEntries := by
    refine List.filterMap_congr fun token _ => ?_
    rw [externalEntry, externalEntry]
    cases token.symbolName with
    | none => rfl
    | some name => dsimp only; rw [alike.contains_eq]; rfl
  have composed : (grammar.withBodies rules).ruleEntries start = grammar.ruleEntries start :=
    filterMap_orderedRules alike fun same => by dsimp only; rw [isToken_eq same]
  have aliases : (grammar.withBodies rules).aliasEntries = grammar.aliasEntries :=
    flatMap_orderedRules alike fun same => by dsimp only; rw [same.aliasNodes_eq]
  rw [entries, entries, tokens, externals, composed, aliases]
  rfl

end

end Grammar

end GrammarAtlas
