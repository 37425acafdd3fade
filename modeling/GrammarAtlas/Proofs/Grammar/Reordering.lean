import GrammarAtlas.Proofs.ByName
import GrammarAtlas.Proofs.NodeType.Alias

/-!
# Grammars whose declarations come in another order

The external tokens, the extras, the inlined rules and the supertypes of a grammar are listed in
some order. What can be told from the grammar without numbers is the same in every order: the entry
rule, the order of the rules, which names have symbols, what references stand for, and which kinds
of node there are.
-/

namespace GrammarAtlas

/-- Two grammars differ at most in the order of what they declare as external tokens, as extras, as
inlined or as supertypes. -/
structure Grammar.Reordered (grammar grammar' : Grammar) : Prop where
  /-- The external tokens are the same, in any order. -/
  externals : Option.Rel List.Perm grammar.externals grammar'.externals
  /-- The extras are the same, in any order. -/
  extras : Option.Rel List.Perm grammar.extras grammar'.extras
  /-- The inlined rules are the same, in any order. -/
  inlined : Option.Rel List.Perm grammar.inlined grammar'.inlined
  /-- The supertypes are the same, in any order. -/
  supertypes : Option.Rel List.Perm grammar.supertypes grammar'.supertypes
  /-- Everything else is the same. -/
  others : grammar' =
    { grammar with
      externals := grammar'.externals
      extras := grammar'.extras
      inlined := grammar'.inlined
      supertypes := grammar'.supertypes }

/-- Declarations that list the same items do so where a missing one counts as empty. -/
theorem perm_getD {α : Type} {items items' : Option (List α)}
    (same : Option.Rel List.Perm items items') : (items.getD []).Perm (items'.getD []) := by
  cases same with
  | none => exact .refl []
  | some perm => exact perm

namespace Grammar.Reordered

variable {grammar grammar' : Grammar} {name words : String} {kind : NodeKind}

/-- The order may be changed back. -/
theorem symm (reordered : grammar.Reordered grammar') : grammar'.Reordered grammar := by
  have back {α : Type} {items items' : Option (List α)}
      (same : Option.Rel List.Perm items items') : Option.Rel List.Perm items' items := by
    cases same with
    | none => exact .none
    | some perm => exact .some perm.symm
  refine ⟨back reordered.externals, back reordered.extras, back reordered.inlined,
    back reordered.supertypes, ?_⟩
  rw [reordered.others]

/-! ## Declarations -/

/-- The rules are the same. -/
theorem rules_eq (reordered : grammar.Reordered grammar') : grammar'.rules = grammar.rules := by
  rw [reordered.others]

/-- The names of the external tokens are the same, in any order. -/
theorem perm_externalNames (reordered : grammar.Reordered grammar') :
    grammar.externalNames.Perm grammar'.externalNames :=
  (perm_getD reordered.externals).filterMap _

/-- The extras are the same, in any order. -/
theorem perm_extraRules (reordered : grammar.Reordered grammar') :
    grammar.extraRules.Perm grammar'.extraRules :=
  perm_getD reordered.extras

/-- The same rules are inlined. -/
theorem isInlined_eq (reordered : grammar.Reordered grammar') (name : String) :
    grammar'.isInlined name = grammar.isInlined name :=
  (perm_getD reordered.inlined).contains_eq.symm

/-- The same rules are declared supertypes. -/
theorem isSupertype_eq (reordered : grammar.Reordered grammar') (name : String) :
    grammar'.isSupertype name = grammar.isSupertype name :=
  (perm_getD reordered.supertypes).contains_eq.symm

/-! ## The entry rule -/

/-- The entry rule is the same. -/
theorem startRule_eq (reordered : grammar.Reordered grammar') :
    grammar'.startRule = grammar.startRule := by
  have mentions : grammar.mentions.Perm grammar'.mentions := by
    rw [mentions, mentions, reordered.rules_eq]
    exact (reordered.perm_extraRules.flatMap_right _).append_left _
  have roots : grammar'.roots = grammar.roots := by
    rw [roots, roots, reordered.rules_eq, NameSet.ofList_eq_of_perm mentions]
  have declared : grammar.declaredNames.Perm grammar'.declaredNames := by
    have word : grammar'.word = grammar.word := by rw [reordered.others]
    have conflicts : grammar'.conflictNames = grammar.conflictNames := by
      rw [reordered.others]
      rfl
    have ranked : grammar'.rankedNames = grammar.rankedNames := by
      rw [reordered.others]
      rfl
    rw [declaredNames, declaredNames, word, conflicts, ranked]
    have supertypes := perm_getD reordered.supertypes
    have inlined := perm_getD reordered.inlined
    exact ((((supertypes.append_left _).append inlined).append_right _).append_right _)
  rw [startRule, startRule, reordered.rules_eq, roots, NameSet.ofList_eq_of_perm declared]

/-- The rules come in the same order. -/
theorem orderedRules_eq (reordered : grammar.Reordered grammar') :
    grammar'.orderedRules = grammar.orderedRules := by
  rw [orderedRules, orderedRules, reordered.startRule_eq, reordered.rules_eq]

/-- The entry rule is the same. -/
theorem isEntry_eq (reordered : grammar.Reordered grammar') (name : String) :
    grammar'.isEntry name = grammar.isEntry name := by
  rw [isEntry, isEntry, reordered.startRule_eq]

/-! ## Symbols and references -/

/-- The same names are those of external tokens. -/
theorem contains_externalNames (reordered : grammar.Reordered grammar') (name : String) :
    grammar'.externalNames.contains name = grammar.externalNames.contains name :=
  reordered.perm_externalNames.contains_eq.symm

/-- The symbols of rules that are made of other symbols are the same. -/
theorem ruleSymbol_eq (reordered : grammar.Reordered grammar') (start name : String) :
    grammar'.ruleSymbol start name = grammar.ruleSymbol start name := by
  rw [ruleSymbol, ruleSymbol, reordered.isSupertype_eq]

/-- A name has the same symbol. -/
theorem ownSymbol?_eq (reordered : grammar.Reordered grammar') (start name : String) :
    grammar'.ownSymbol? start name = grammar.ownSymbol? start name := by
  simp only [ownSymbol?, reordered.rules_eq, reordered.isInlined_eq, reordered.ruleSymbol_eq,
    reordered.contains_externalNames]

/-- References stand for the same. -/
theorem referent_eq (reordered : grammar.Reordered grammar') :
    grammar'.referent = grammar.referent := by
  funext name
  simp only [referent, reordered.rules_eq, reordered.isEntry_eq, reordered.isInlined_eq,
    reordered.isSupertype_eq, reordered.contains_externalNames]

/-- The same literals are tokens. -/
theorem spells_iff (reordered : grammar.Reordered grammar') :
    grammar'.Spells words ↔ grammar.Spells words := by
  simp only [Spells, reordered.rules_eq, reordered.isEntry_eq,
    reordered.perm_extraRules.mem_iff, (perm_getD reordered.externals).mem_iff, externalRules]

/-- The same aliases give a kind. -/
theorem gives_iff (reordered : grammar.Reordered grammar') {wrapper : Rule} :
    grammar'.Gives wrapper kind ↔ grammar.Gives wrapper kind := by
  rw [Gives, Gives, reordered.rules_eq]

/-- The same rule is renamed first. -/
theorem renamesFirst_iff (reordered : grammar.Reordered grammar') {body : Rule} :
    grammar'.RenamesFirst kind body ↔ grammar.RenamesFirst kind body := by
  simp only [RenamesFirst, Renames, reordered.orderedRules_eq, reordered.rules_eq,
    reordered.isEntry_eq]

/-- The names of the extras are the same. -/
theorem extraNames_eq (reordered : grammar.Reordered grammar') :
    NodeType.extraNames grammar' = NodeType.extraNames grammar :=
  (NameSet.ofList_eq_of_perm (reordered.perm_extraRules.filterMap _)).symm

end Grammar.Reordered

end GrammarAtlas
