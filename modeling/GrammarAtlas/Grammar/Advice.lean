import GrammarAtlas.Grammar

/-!
# Advice on a grammar

A grammar without defects may still be worth a second look: rules may be out of reach of the entry
rule, and one rule may mix several precedence levels.

`unreached` removes the rules within reach from a table of rules. Every step takes a name from
those that are still to be followed, or a rule from the table, so the search ends.
-/

namespace GrammarAtlas

/-- The rules of the table that no reference leads to, following the pending names first and then
the references in every rule that they lead to. -/
def unreached (rules : ByName Rule) : (pending : List String) → ByName Rule
  | [] => rules
  | name :: pending =>
    match _found : rules[name]? with
    | none => unreached rules pending
    | some body => unreached (rules.erase name) (body.references ++ pending)
termination_by pending => (rules.size, pending.length)
decreasing_by
  · exact Prod.Lex.right _ (by simp)
  · refine Prod.Lex.left _ _ ?_
    have present : name ∈ rules := by
      rw [Std.ExtTreeMap.mem_iff_isSome_getElem?, _found]
      rfl
    have nonempty : rules.size ≠ 0 := by
      intro zero
      rw [Std.ExtTreeMap.eq_empty_iff_size_eq_zero.mpr zero] at present
      exact Std.ExtTreeMap.not_mem_empty present
    rw [Std.ExtTreeMap.size_erase, if_pos (Std.ExtTreeMap.contains_iff_mem.mpr present)]
    omega

/-- Advice on a grammar. -/
structure Advice where
  /-- The rules that nothing leads to. -/
  unreachable : List String
  /-- The rules with more than one precedence level, and their levels in order. -/
  mixedPrecedence : List (String × List Int)
  deriving DecidableEq, Repr

/-- The wording of a set of precedence levels. -/
def levelsText (levels : List Int) : String :=
  "\x7b" ++ ", ".intercalate (levels.map toString) ++ "\x7d"

/-- The numbered precedence levels in a rule tree, in order. -/
def Rule.levels (rule : Rule) : List Int :=
  (Std.ExtTreeSet.ofList (rule.walk.filterMap Rule.level) : Std.ExtTreeSet Int).toList

namespace Grammar

/-- The names that the entry rule and the extras lead to directly. -/
def entryNames (grammar : Grammar) : List String :=
  grammar.startRule.toList ++ grammar.extraRules.flatMap Rule.references

/-- Whether a declaration uses the rule, so that no reference has to lead to it. -/
def isDeclaredOnly (grammar : Grammar) (name : String) : Bool :=
  grammar.isInlined name || grammar.word = some name || grammar.isSupertype name

/-- The rules that nothing leads to, neither a reference nor a declaration. -/
def unreachable (grammar : Grammar) : List String :=
  let rest := unreached grammar.rules grammar.entryNames
  grammar.ruleOrder.filter fun name => rest.contains name && !grammar.isDeclaredOnly name

/-- The rules with more than one precedence level, in the order of their names. -/
def mixedPrecedence (grammar : Grammar) : List (String × List Int) :=
  (grammar.rules.toList.map fun (name, body) => (name, body.levels)).filter
    fun (_, levels) => 1 < levels.length

/-- The advice on a grammar. -/
def advice (grammar : Grammar) : Advice :=
  { unreachable := grammar.unreachable, mixedPrecedence := grammar.mixedPrecedence }

end Grammar

end GrammarAtlas
