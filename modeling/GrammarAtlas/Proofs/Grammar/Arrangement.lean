import GrammarAtlas.Grammar.Advice
import GrammarAtlas.Grammar.Defect
import GrammarAtlas.Proofs.ByName
import GrammarAtlas.Proofs.Symbol.Entries
import GrammarAtlas.Symbol.Entries
import Mathlib.Data.List.Induction

/-!
# Rules in any order

The definitions of the library go through the rules of a grammar in the order of their names. Rules
may also come as they were put together, or as a hash table happens to hold them. An `Arrangement`
is a grammar with its rules in some such order, and the definitions on it go through them in that
order wherever the order is not fixed otherwise. What they come to is the same in every order, up to
the order of the advice on precedence levels.

The one search for which this needs an argument is that for the entry rule
(`Arrangement.startRule_eq`): it takes the first candidate that it meets, but only if it meets no
second one.
-/

namespace GrammarAtlas

namespace Grammar

variable {base : Grammar} {calls calls' : List (String × Rule)} {name : String}

/-! ## Putting rules together -/

/-- The grammar with further rules, which are added one after another. A rule that comes again takes
the place of the one before. -/
def extend (base : Grammar) (calls : List (String × Rule)) : Grammar :=
  calls.foldl (fun grammar call => grammar.withRule call.1 call.2) base

/-- The body that comes last under a name. -/
def lastBody? (calls : List (String × Rule)) (name : String) : Option Rule :=
  (calls.reverse.find? (·.1 = name)).map Prod.snd

/-- Adding one more rule gives its name its body. -/
theorem lastBody?_append (calls : List (String × Rule)) (call : String × Rule) (name : String) :
    lastBody? (calls ++ [call]) name =
      if call.1 = name then some call.2 else lastBody? calls name := by
  rw [lastBody?, List.reverse_append, List.reverse_singleton, List.singleton_append,
    List.find?_cons]
  by_cases same : call.1 = name
  · simp [same]
  · simp [same, lastBody?]

/-- A name under which no body comes has none. -/
theorem lastBody?_eq_none (absent : ∀ call ∈ calls, call.1 ≠ name) :
    lastBody? calls name = none := by
  rw [lastBody?, Option.map_eq_none_iff, List.find?_eq_none]
  intro call listed
  rw [decide_eq_true_eq]
  exact absent call (List.mem_reverse.mp listed)

/-- A rule has the body that comes last under its name, or else the one that it had before. -/
theorem getElem?_extend (base : Grammar) (calls : List (String × Rule)) (name : String) :
    (base.extend calls).rules[name]? = (lastBody? calls name).or base.rules[name]? := by
  induction calls using List.reverseRecOn with
  | nil => rfl
  | append_singleton calls call ih =>
    rw [lastBody?_append, extend, List.foldl_append, List.foldl_cons, List.foldl_nil, ← extend,
      withRule, Std.ExtTreeMap.getElem?_insert, ih]
    by_cases same : call.1 = name
    · simp [same]
    · simp [same]

/-- Adding rules changes nothing but the rules. -/
theorem extend_eq (base : Grammar) (calls : List (String × Rule)) :
    base.extend calls = { base with rules := (base.extend calls).rules } := by
  induction calls using List.reverseRecOn with
  | nil => rfl
  | append_singleton calls call ih =>
    rw [extend, List.foldl_append, List.foldl_cons, List.foldl_nil, ← extend, withRule, ih]

/-- Rules that leave the same last body under each name make the same grammar. -/
theorem extend_eq_of_lastBody? (same : ∀ name, lastBody? calls name = lastBody? calls' name) :
    base.extend calls = base.extend calls' := by
  have rules : (base.extend calls).rules = (base.extend calls').rules := by
    refine Std.ExtTreeMap.ext_getElem? fun name => ?_
    rw [getElem?_extend, getElem?_extend, same]
  rw [extend_eq base calls, extend_eq base calls', rules]

/-! ## The order of the rules -/

/-- The names in order are those of the rules. -/
theorem mem_ruleOrder {grammar : Grammar} : name ∈ grammar.ruleOrder ↔ name ∈ grammar.rules := by
  rw [ruleOrder, List.mem_map, Std.ExtTreeMap.mem_iff_isSome_getElem?, Option.isSome_iff_exists]
  simp only [Prod.exists, exists_and_right, exists_eq_right, mem_orderedRules]

/-- The entry rule comes first, and the other rules by name. -/
theorem ruleOrder_eq (grammar : Grammar) :
    grammar.ruleOrder =
      grammar.startRule.toList ++ grammar.rules.keys.filter (some · ≠ grammar.startRule) := by
  have keys := Std.ExtTreeMap.map_fst_toList_eq_keys (t := grammar.rules)
  rw [ruleOrder, orderedRules]
  cases entry : grammar.startRule with
  | none => simp [keys]
  | some start =>
    obtain ⟨body, rule⟩ := ByName.exists_of_mem (mem_rules_of_startRule entry)
    have others : (grammar.rules.toList.filter (·.1 != start)).map Prod.fst =
        grammar.rules.keys.filter (some · ≠ some start) := by
      rw [← keys, List.filter_map]
      refine congrArg (List.map Prod.fst) (List.filter_congr fun entry _ => ?_)
      simp [bne, beq_eq_decide]
    dsimp only
    rw [rule, List.map_append, others]
    rfl

end Grammar

/-! ## Arrangements -/

/-- The rules of a grammar in some order. -/
structure Arrangement (grammar : Grammar) where
  /-- The rules with their bodies. -/
  rules : List (String × Rule)
  /-- They are those of the grammar, each once. -/
  all : rules.Perm grammar.rules.toList

namespace Arrangement

variable {grammar : Grammar}

/-- The names of the rules. -/
def names (arranged : Arrangement grammar) : List String := arranged.rules.map Prod.fst

/-- The names that are referred to from elsewhere: in the body of another rule or in an extra. -/
def mentioned (arranged : Arrangement grammar) : NameSet :=
  .ofList ((arranged.rules.flatMap fun entry => entry.2.references.filter (· != entry.1)) ++
    grammar.extraRules.flatMap Rule.references)

/-- The rules that nothing else refers to. -/
def roots (arranged : Arrangement grammar) : List String :=
  arranged.names.filter fun name => !arranged.mentioned.contains name

/-- The first element of a list, if no second one follows. -/
def first? {α : Type} : List α → Option α
  | [] => none
  | element :: others => if others.isEmpty then some element else none

/-- The entry rule: the one that has the conventional name, or else the only root, or else the first
root that no declaration names, if no second one follows. -/
def startRule (arranged : Arrangement grammar) : Option String :=
  if grammar.rules.contains defaultStartRule then some defaultStartRule
  else
    match arranged.roots with
    | [root] => some root
    | roots =>
      let declared : NameSet := .ofList grammar.declaredNames
      first? (roots.filter fun name => !declared.contains name)

/-- The names of the rules, the entry rule first and the others sorted. -/
def ruleOrder (arranged : Arrangement grammar) : List String :=
  let start := arranged.startRule
  start.toList ++ (arranged.names.filter (some · ≠ start)).mergeSort fun name other => name ≤ other

/-- The names of the fields in the rule bodies, in order. -/
def fieldNames (arranged : Arrangement grammar) : List String :=
  let names : NameSet :=
    .ofList (arranged.rules.flatMap fun entry => entry.2.walk.filterMap Rule.fieldName)
  names.toList

/-- The names that a reference may have. -/
def definedNames (arranged : Arrangement grammar) : NameSet :=
  .ofList (arranged.names ++ grammar.externalNames)

/-! ## The entry rule -/

/-- The names are those of the grammar. -/
theorem perm_names (arranged : Arrangement grammar) : arranged.names.Perm grammar.rules.keys := by
  rw [names, ← Std.ExtTreeMap.map_fst_toList_eq_keys]
  exact arranged.all.map Prod.fst

/-- The same names are referred to in every order. -/
theorem mentioned_eq (arranged : Arrangement grammar) :
    arranged.mentioned = .ofList grammar.mentions :=
  NameSet.ofList_eq_of_perm ((arranged.all.flatMap_right _).append_right _)

/-- The roots are those of the grammar, in some order. -/
theorem perm_roots (arranged : Arrangement grammar) : arranged.roots.Perm grammar.roots := by
  rw [roots, Grammar.roots, arranged.mentioned_eq]
  exact arranged.perm_names.filter _

/-- The first element with no second one is the only element. -/
theorem first?_eq {α : Type} (elements : List α) : first? elements = Grammar.only? elements := by
  match elements with
  | [] => rfl
  | [_] => rfl
  | _ :: _ :: _ => rfl

/-- The only element of a list is that of every rearrangement. -/
theorem only?_eq_of_perm {α : Type} {elements others : List α} (same : elements.Perm others) :
    Grammar.only? elements = Grammar.only? others := by
  match elements, same with
  | [], same => rw [same.nil_eq]
  | [element], same => rw [List.singleton_perm.mp same]
  | _ :: _ :: _, same =>
    match others, same.length_eq with
    | _ :: _ :: _, _ => rfl

/-- The entry rule is the same in every order. -/
theorem startRule_eq (arranged : Arrangement grammar) :
    arranged.startRule = grammar.startRule := by
  have same := arranged.perm_roots
  rw [startRule, Grammar.startRule]
  by_cases conventional : grammar.rules.contains defaultStartRule
  · rw [if_pos conventional, if_pos conventional]
  · rw [if_neg conventional, if_neg conventional]
    dsimp only
    generalize arranged.roots = roots at same
    generalize grammar.roots = roots' at same
    -- With none or several, all candidates are gone through, and only a single one counts.
    rcases roots with _ | ⟨root, _ | ⟨second, others⟩⟩
    · rw [← same.nil_eq]
      exact first?_eq _
    · rw [← List.singleton_perm.mp same]
    · rcases roots' with _ | ⟨root', _ | ⟨second', others'⟩⟩
      · cases same.length_eq
      · cases same.length_eq
      · exact (first?_eq _).trans (only?_eq_of_perm (same.filter _))

/-! ## Names in order -/

/-- Names that are strictly in order are sorted. -/
theorem pairwise_le {names : List String}
    (ordered : names.Pairwise fun name other => compare name other = .lt) :
    names.Pairwise fun name other => decide (name ≤ other) = true := by
  refine ordered.imp fun less => decide_eq_true ?_
  exact String.not_lt.mp (String.lt_asymm (compareOfLessAndEq_eq_lt.mp less))

/-- Sorting names that are known in order gives these. -/
theorem mergeSort_eq {names sorted : List String} (same : names.Perm sorted)
    (ordered : sorted.Pairwise fun name other => compare name other = .lt) :
    (names.mergeSort fun name other => name ≤ other) = sorted := by
  have permuted := (names.mergeSort_perm fun name other => name ≤ other).trans same
  refine permuted.eq_of_pairwise ?_ (List.pairwise_mergeSort ?_ ?_ names) (pairwise_le ordered)
  · intro name other _ _ less more
    exact String.le_antisymm (of_decide_eq_true less) (of_decide_eq_true more)
  · intro name middle other less more
    exact decide_eq_true (String.le_trans (of_decide_eq_true less) (of_decide_eq_true more))
  · intro name other
    rw [Bool.or_eq_true, decide_eq_true_eq, decide_eq_true_eq]
    exact String.le_total name other

/-- The names of the rules come in the same order. -/
theorem ruleOrder_eq (arranged : Arrangement grammar) :
    arranged.ruleOrder = grammar.ruleOrder := by
  rw [ruleOrder, arranged.startRule_eq, Grammar.ruleOrder_eq]
  refine congrArg (grammar.startRule.toList ++ ·) (mergeSort_eq (arranged.perm_names.filter _) ?_)
  exact Std.ExtTreeMap.ordered_keys.filter _

/-- The fields are the same in every order. -/
theorem fieldNames_eq (arranged : Arrangement grammar) :
    arranged.fieldNames = grammar.fieldNames := by
  rw [fieldNames, Grammar.fieldNames, NameSet.ofList_eq_of_perm (arranged.all.flatMap_right _)]

/-- The same names are defined in every order. -/
theorem definedNames_eq (arranged : Arrangement grammar) :
    arranged.definedNames = grammar.definedNames :=
  NameSet.ofList_eq_of_perm (arranged.perm_names.append_right _)

/-! ## Advice -/

/-- The rules that nothing leads to, neither a reference nor a declaration. -/
def unreachable (arranged : Arrangement grammar) : List String :=
  let rest := unreached grammar.rules
    (arranged.startRule.toList ++ grammar.extraRules.flatMap Rule.references)
  arranged.ruleOrder.filter fun name => rest.contains name && !grammar.isDeclaredOnly name

/-- The rules out of reach are the same, and they come in the same order. -/
theorem unreachable_eq (arranged : Arrangement grammar) :
    arranged.unreachable = grammar.unreachable := by
  rw [unreachable, Grammar.unreachable, Grammar.entryNames, arranged.startRule_eq,
    arranged.ruleOrder_eq]

/-- The precedence levels of the rules that have any. -/
def levels (arranged : Arrangement grammar) : ByName (List Int) :=
  .ofList ((arranged.rules.map fun entry => (entry.1, entry.2.levels)).filter (!·.2.isEmpty))

/-- Advice on precedence levels: the rules with more than one, the levels being gone through in any
order. -/
def Advises (arranged : Arrangement grammar) (advice : List (String × List Int)) : Prop :=
  ∃ visited : List (String × List Int), visited.Perm arranged.levels.toList ∧
    advice = visited.filter fun entry => 1 < entry.2.length

/-- The advice on precedence levels is the same up to its order. -/
theorem perm_of_advises (arranged : Arrangement grammar) {advice : List (String × List Int)}
    (advises : arranged.Advises advice) : advice.Perm grammar.mixedPrecedence := by
  obtain ⟨visited, perm, rfl⟩ := advises
  have distinct : (((arranged.rules.map fun entry => (entry.1, entry.2.levels)).filter
      (!·.2.isEmpty)).map Prod.fst).Nodup := by
    have keys := (arranged.all.map Prod.fst).nodup_iff.mpr (ByName.nodup_names _)
    refine List.Nodup.sublist (List.filter_sublist.map Prod.fst) ?_
    rw [List.map_map]
    exact keys
  -- Rules without levels are left out, but there would be no advice on them.
  have several : (fun entry : String × List Int =>
      decide (1 < entry.2.length) && !entry.2.isEmpty) =
        fun entry => decide (1 < entry.2.length) := by
    funext ⟨name, levels⟩
    cases levels with
    | nil => rfl
    | cons level levels => simp
  have same := (perm.trans (ByName.perm_toList_ofList distinct)).filter fun entry =>
    decide (1 < entry.2.length)
  rw [List.filter_filter, several] at same
  exact same.trans ((arranged.all.map _).filter _)

end Arrangement

end GrammarAtlas
