import GrammarAtlas.Proofs.Derivation.Trail

/-!
# Completing derivations

A way down to a node is the beginning of a derivation. The rest of it can be filled in if all rules
on both sides of the way have derivations (`Completable`), and then the node is in the word of the
derivation (`Leads.complete`). They have if the rules that are put in place of references do
(`Filled.completable`). Where no rule is replaced inside its own body (`NonRecursive`), all trails
are simple.
-/

namespace GrammarAtlas

/-! ## Recursion -/

namespace Rule

/-- A derivation of the rule can replace a reference to that name. -/
def Reaches (referent : String → Referent) (rule : Rule) (name : String) : Prop :=
  ∃ field trail inner part body, Descends referent field rule trail inner part ∧
    part.shape referent = .replaced name body

/-- No rule whose body a derivation can put in place of a reference comes up again inside this
body. -/
def NonRecursive (referent : String → Referent) (rule : Rule) : Prop :=
  ∀ name body, rule.Reaches referent name → referent name = .body body →
    ¬ body.Reaches referent name

end Rule

section

variable {referent : String → Referent} {field inner : Option String} {rule last : Rule}
  {trail : Trail}

/-- Rules further down do not recur either. -/
theorem Rule.NonRecursive.descends (nonRecursive : rule.NonRecursive referent)
    (way : Descends referent field rule trail inner last) : last.NonRecursive referent := by
  rintro name body ⟨_, _, _, part, body', further, shape⟩
  obtain ⟨_, _, further⟩ := further.inField inner
  exact nonRecursive name body ⟨_, _, _, part, body', way.trans further, shape⟩

/-- Without recursion all trails are simple. -/
theorem Rule.NonRecursive.simple (nonRecursive : rule.NonRecursive referent)
    (way : Descends referent field rule trail inner last) : Trail.Simple [] trail := by
  refine ⟨?_, fun _ _ => List.not_mem_nil⟩
  by_contra repeats
  obtain ⟨before, name, around, between, around', after, rfl⟩ := Trail.exists_repeat repeats
  obtain ⟨part, body, first, shape, rest⟩ := (List.append_assoc .. ▸ way).split
  obtain ⟨part', body', again, shape', _⟩ := rest.split
  exact nonRecursive name body ⟨_, _, _, part, body, first, shape⟩
    (Rule.referent_of_shape referent shape) ⟨_, _, _, part', body', again, shape'⟩

/-! ## Completion -/

/-- Every rule that a derivation can come to has a derivation. -/
def Completable (referent : String → Referent) (field : Option String) (rule : Rule) : Prop :=
  ∀ trail inner part, Descends referent field rule trail inner part →
    ∃ word, Derives referent inner part word

/-- Rules further down are completable too. -/
theorem Descends.completable (way : Descends referent field rule trail inner last)
    (completable : Completable referent field rule) : Completable referent inner last :=
  fun _ _ _ further => completable _ _ _ (way.trans further)

/-- A derivation of some members of a sequence is part of one of all members. -/
theorem DerivesEach.complete {chosen members : List Rule} {word : List Emission}
    (derived : DerivesEach referent field chosen word) (among : chosen.Sublist members)
    (others : ∀ member ∈ members, ∃ word, Derives referent field member word) :
    ∃ whole, DerivesEach referent field members whole ∧ word.Sublist whole := by
  induction among generalizing word with
  | slnil => exact ⟨word, derived, List.Sublist.refl word⟩
  | cons member _ ih =>
    obtain ⟨first, head⟩ := others member List.mem_cons_self
    obtain ⟨rest, tail, inside⟩ :=
      ih derived fun other listed => others other (List.mem_cons_of_mem _ listed)
    exact ⟨first ++ rest, .cons head tail, inside.trans (List.sublist_append_right first rest)⟩
  | cons_cons member _ ih =>
    cases derived with
    | cons head derived =>
      obtain ⟨rest, tail, inside⟩ :=
        ih derived fun other listed => others other (List.mem_cons_of_mem _ listed)
      exact ⟨_, .cons head tail, inside.append_left _⟩

/-- A derivation of a rule that is entered is part of one of the rule around it. -/
theorem Derives.complete {part : Rule} {word : List Emission}
    (completable : Completable referent field rule)
    (entered : part ∈ (rule.shape referent).parts)
    (derived : Derives referent ((rule.shape referent).fieldBelow field) part word) :
    ∃ whole, Derives referent field rule whole ∧ word.Sublist whole := by
  cases shape : rule.shape referent with
  | sequence members =>
    rw [shape] at entered derived
    have one : DerivesEach referent field [part] (word ++ []) := .cons derived .nil
    obtain ⟨whole, all, inside⟩ := one.complete (List.singleton_sublist.mpr entered)
      fun member listed => completable _ _ _ (.into shape listed)
    exact ⟨whole, .sequence shape all, (List.sublist_append_left word []).trans inside⟩
  | choice members =>
    rw [shape] at entered derived
    exact ⟨word, .choice shape entered derived, List.Sublist.refl word⟩
  | repetition atLeastOnce content =>
    rw [shape] at entered derived
    obtain rfl := List.mem_singleton.mp entered
    exact ⟨word, .once shape derived, List.Sublist.refl word⟩
  | labelled name content =>
    rw [shape] at entered derived
    obtain rfl := List.mem_singleton.mp entered
    exact ⟨word, .labelled shape derived, List.Sublist.refl word⟩
  | wrapper content =>
    rw [shape] at entered derived
    obtain rfl := List.mem_singleton.mp entered
    exact ⟨word, .wrapper shape derived, List.Sublist.refl word⟩
  | silent | node kind | replaced name body =>
    rw [shape] at entered
    exact absurd entered List.not_mem_nil

/-- A derivation of a rule further down is part of one of the rule. -/
theorem Descends.complete {word : List Emission}
    (way : Descends referent field rule trail inner last)
    (completable : Completable referent field rule)
    (derived : Derives referent inner last word) :
    ∃ whole, Derives referent field rule whole ∧ word.Sublist whole := by
  induction way with
  | here => exact ⟨word, derived, List.Sublist.refl word⟩
  | enter entered _ ih =>
    have below := (Descends.enter entered .here).completable completable
    obtain ⟨part, derived, inside⟩ := ih below derived
    obtain ⟨whole, derived, inside'⟩ := derived.complete completable entered
    exact ⟨whole, derived, inside.trans inside'⟩
  | replaced shape _ ih =>
    have below := (Descends.replaced shape .here).completable completable
    obtain ⟨whole, derived, inside⟩ := ih below derived
    exact ⟨whole, .replaced shape derived, inside⟩

/-- A node to which a trail leads is in a derivation. -/
theorem Leads.complete {emission : Emission} (leads : Leads referent field rule trail emission)
    (completable : Completable referent field rule) :
    ∃ word, Derives referent field rule word ∧ emission ∈ word := by
  obtain ⟨last, way, node⟩ := leads
  obtain ⟨word, derived, inside⟩ := way.complete completable (.node node)
  exact ⟨word, derived, List.singleton_sublist.mp inside⟩

/-- Two nodes to which a fork leads are in a derivation, one after the other. -/
theorem Fork.complete {first second : Trail} {emission emission' : Emission}
    (fork : Fork referent field rule first emission second emission')
    (completable : Completable referent field rule) :
    ∃ word, Derives referent field rule word ∧ [emission, emission'].Sublist word := by
  cases fork with
  | apart reached shape two one other =>
    have deeper := reached.completable completable
    have left := (Descends.into shape (two.subset List.mem_cons_self)).completable deeper
    have right := (Descends.into shape
      (two.subset (List.mem_cons_of_mem _ List.mem_cons_self))).completable deeper
    obtain ⟨before, head, listed⟩ := one.complete left
    obtain ⟨after, tail, listed'⟩ := other.complete right
    obtain ⟨whole, all, inside⟩ := (DerivesEach.cons head (.cons tail .nil)).complete two
      fun member listed => deeper _ _ _ (.into shape listed)
    obtain ⟨word, derived, inside'⟩ := reached.complete completable (.sequence shape all)
    refine ⟨word, derived, (List.Sublist.trans ?_ inside).trans inside'⟩
    rw [List.append_nil]
    exact (List.singleton_sublist.mpr listed).append (List.singleton_sublist.mpr listed')
  | repeated reached shape one other =>
    have below := (Descends.into shape (List.mem_singleton.mpr rfl)).completable
      (reached.completable completable)
    obtain ⟨before, head, listed⟩ := one.complete below
    obtain ⟨after, tail, listed'⟩ := other.complete below
    obtain ⟨word, derived, inside⟩ :=
      reached.complete completable (.again shape head (.once shape tail))
    refine ⟨word, derived, List.Sublist.trans ?_ inside⟩
    exact (List.singleton_sublist.mpr listed).append (List.singleton_sublist.mpr listed')

/-- A place where a derivation forks gets several nodes in some derivation. -/
theorem ForkIn.complete {allowed : Trail → Prop} {place : Option String}
    (fork : ForkIn referent allowed place field rule)
    (completable : Completable referent field rule) :
    ∃ word, Derives referent field rule word ∧ 2 ≤ Emission.count place word := by
  obtain ⟨_, emission, _, emission', fork, _, _, isIn, isIn'⟩ := fork
  obtain ⟨word, derived, inside⟩ := fork.complete completable
  have two : Emission.count place [emission, emission'] = 2 := by
    simp [Emission.count, isIn, isIn']
  exact ⟨word, derived, two ▸ inside.countP_le⟩

/-! ## Rules with derivations -/

/-- All choices that a derivation can come to have members. -/
def Filled (referent : String → Referent) (field : Option String) (rule : Rule) : Prop :=
  ∀ trail inner part members, Descends referent field rule trail inner part →
    part.shape referent = .choice members → members ≠ []

/-- The choices further down have members too. -/
theorem Descends.filled (way : Descends referent field rule trail inner last)
    (filled : Filled referent field rule) : Filled referent inner last :=
  fun _ _ _ _ further => filled _ _ _ _ (way.trans further)

/-- All rule bodies that are put in place of references have derivations. -/
def Productive (referent : String → Referent) : Prop :=
  ∀ name body, referent name = .body body → ∃ field word, Derives referent field body word

mutual

/-- A rule that has a derivation in one field has one in any other. -/
theorem Derives.inField {field : Option String} {rule : Rule} {word : List Emission} :
    Derives referent field rule word → ∀ other, ∃ word', Derives referent other rule word'
  | .silent shape, _ => ⟨[], .silent shape⟩
  | .node shape, _ => ⟨_, .node shape⟩
  | .replaced shape derived, other => by
    obtain ⟨word, derived⟩ := derived.inField other
    exact ⟨word, .replaced shape derived⟩
  | .sequence shape derived, other => by
    obtain ⟨word, derived⟩ := derived.inField other
    exact ⟨word, .sequence shape derived⟩
  | .choice shape chosen derived, other => by
    obtain ⟨word, derived⟩ := derived.inField other
    exact ⟨word, .choice shape chosen derived⟩
  | .skipped shape, _ => ⟨[], .skipped shape⟩
  | .once shape derived, other => by
    obtain ⟨word, derived⟩ := derived.inField other
    exact ⟨word, .once shape derived⟩
  | .again shape head _, other => by
    obtain ⟨word, derived⟩ := head.inField other
    exact ⟨word, .once shape derived⟩
  | .labelled shape derived, _ => ⟨_, .labelled shape derived⟩
  | .wrapper shape derived, other => by
    obtain ⟨word, derived⟩ := derived.inField other
    exact ⟨word, .wrapper shape derived⟩

/-- Rules that have derivations in one field have some in any other. -/
theorem DerivesEach.inField {field : Option String} {rules : List Rule} {word : List Emission} :
    DerivesEach referent field rules word →
      ∀ other, ∃ word', DerivesEach referent other rules word'
  | .nil, _ => ⟨[], .nil⟩
  | .cons head tail, other => by
    obtain ⟨first, head⟩ := head.inField other
    obtain ⟨rest, tail⟩ := tail.inField other
    exact ⟨first ++ rest, .cons head tail⟩

end

/-- A rule has a derivation if its choices have members and all references have derivations. -/
theorem Filled.exists_derivation (productive : Productive referent)
    (filled : Filled referent field rule) : ∃ word, Derives referent field rule word := by
  induction rule using Rule.byParts referent generalizing field with
  | step rule parts =>
    have below (part : Rule) (entered : part ∈ (rule.shape referent).parts) :
        ∃ word, Derives referent ((rule.shape referent).fieldBelow field) part word :=
      parts part entered ((Descends.into rfl entered).filled filled)
    cases shape : rule.shape referent with
    | silent => exact ⟨[], .silent shape⟩
    | node kind => exact ⟨_, .node shape⟩
    | replaced name body =>
      obtain ⟨_, _, derived⟩ := productive name body (Rule.referent_of_shape referent shape)
      obtain ⟨word, derived⟩ := derived.inField field
      exact ⟨word, .replaced shape derived⟩
    | sequence members =>
      rw [shape] at below
      obtain ⟨word, derived, _⟩ := DerivesEach.nil.complete (List.nil_sublist members) below
      exact ⟨word, .sequence shape derived⟩
    | choice members =>
      rw [shape] at below
      obtain ⟨member, listed⟩ := List.exists_mem_of_ne_nil members (filled _ _ _ _ .here shape)
      obtain ⟨word, derived⟩ := below member listed
      exact ⟨word, .choice shape listed derived⟩
    | repetition atLeastOnce content =>
      rw [shape] at below
      obtain ⟨word, derived⟩ := below content (List.mem_singleton.mpr rfl)
      exact ⟨word, .once shape derived⟩
    | labelled name content =>
      rw [shape] at below
      obtain ⟨word, derived⟩ := below content (List.mem_singleton.mpr rfl)
      exact ⟨word, .labelled shape derived⟩
    | wrapper content =>
      rw [shape] at below
      obtain ⟨word, derived⟩ := below content (List.mem_singleton.mpr rfl)
      exact ⟨word, .wrapper shape derived⟩

/-- Where all references have derivations, every way down can be completed. -/
theorem Filled.completable (filled : Filled referent field rule)
    (productive : Productive referent) : Completable referent field rule :=
  fun _ _ _ way => (way.filled filled).exists_derivation productive

end

end GrammarAtlas
