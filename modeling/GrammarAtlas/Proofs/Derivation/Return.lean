import GrammarAtlas.Proofs.Derivation.Completion

/-!
# Rules that come back

Two nodes of a place may be reached along trails that are not simple. Loops can be cut out of such
trails, but not all of them: a rule may come back on one of two branches only, so that cutting the
loop would leave the other branch without its beginning, and it may come back in another field, so
that the nodes below would move there. `ComesBack` says that one of the two happens, and
`forkIn_iff_simple_or_comesBack` that forks along arbitrary trails come down to forks along simple
ones where neither does.
-/

namespace GrammarAtlas

/-- A derivation of the rule goes through both rules: they are two members of a sequence, in either
order, or the content of a repetition in two rounds. -/
inductive Rule.Pairs (referent : String → Referent) (rule : Rule) : Rule → Rule → Prop where
  /-- They are two members of a sequence. -/
  | apart {left right : Rule} {members : List Rule}
    (shape : rule.shape referent = .sequence members)
    (two : [left, right].Sublist members ∨ [right, left].Sublist members) :
    Pairs referent rule left right
  /-- They are the content of a repetition. -/
  | repeated {content : Rule} {atLeastOnce : Bool}
    (shape : rule.shape referent = .repetition atLeastOnce content) :
    Pairs referent rule content content

/-- A derivation of the rule can put a node into the place, at the end of the trail. -/
def Puts (referent : String → Referent) (place field : Option String) (rule : Rule)
    (trail : Trail) : Prop :=
  ∃ emission, Leads referent field rule trail emission ∧ emission.isIn place

/-- On the way to two nodes of a place, a rule comes back inside its own body. -/
inductive ComesBack (referent : String → Referent) :
    Option String → Option String → Rule → Prop where
  /-- It comes back in the field where it stood, beside a node of the place. -/
  | beside {place field around inner : Option String}
    {rule part body last left right again : Rule} {name : String}
    {before between after rest : Trail}
    (reached : Descends referent field rule before around part)
    (shape : part.shape referent = .replaced name body)
    (further : Descends referent around body between inner last)
    (pairs : last.Pairs referent left right)
    (back : Descends referent inner left after around again)
    (shape' : again.shape referent = .replaced name body)
    (puts : Puts referent place inner right rest) : ComesBack referent place field rule
  /-- It comes back in another field on the way to one of two nodes that stand in a field, where
  nothing comes back in the field where it stood. -/
  | elsewhere {label : String} {field inner around around' : Option String}
    {rule last left right : Rule} {name : String} {shared first second : Trail}
    (reached : Descends referent field rule shared inner last)
    (pairs : last.Pairs referent left right)
    (one : Puts referent (some label) inner left first)
    (other : Puts referent (some label) inner right second)
    (nodup : (shared ++ first).Nodup) (nodup' : (shared ++ second).Nodup)
    (here : (name, around) ∈ shared ++ first) (there : (name, around') ∈ shared ++ first)
    (moves : around ≠ around') : ComesBack referent (some label) field rule

section

variable {referent : String → Referent} {place field inner : Option String}
  {rule last left right : Rule} {trail shared first second : Trail}

/-! ## Forks by their branches -/

/-- The two rules can be told in either order. -/
theorem Rule.Pairs.symm (pairs : rule.Pairs referent left right) :
    rule.Pairs referent right left := by
  cases pairs with
  | apart shape two => exact .apart shape two.symm
  | repeated shape => exact .repeated shape

/-- A derivation enters both rules. -/
theorem Rule.Pairs.descends (pairs : rule.Pairs referent left right) :
    Descends referent field rule [] field left := by
  cases pairs with
  | apart shape two =>
    have among : [left, right] ⊆ _ ∨ [right, left] ⊆ _ := two.imp (·.subset) (·.subset)
    exact .into shape (by rcases among with all | all <;> exact all (by simp))
  | repeated shape => exact .into shape (List.mem_singleton.mpr rfl)

/-- A node further down is a node of the rule. -/
theorem Descends.puts (way : Descends referent field rule trail inner last)
    (puts : Puts referent place inner last first) :
    Puts referent place field rule (trail ++ first) := by
  obtain ⟨emission, ⟨end', further, node⟩, isIn⟩ := puts
  exact ⟨emission, ⟨end', way.trans further, node⟩, isIn⟩

/-- A fork is a way down to two rules that a derivation goes through both, each of which puts a node
into the place. -/
theorem forkIn_iff {allowed : Trail → Prop} :
    ForkIn referent allowed place field rule ↔
      ∃ shared inner last left right first second,
        Descends referent field rule shared inner last ∧ last.Pairs referent left right ∧
          Puts referent place inner left first ∧ Puts referent place inner right second ∧
          allowed (shared ++ first) ∧ allowed (shared ++ second) := by
  constructor
  · rintro ⟨_, emission, _, emission', fork, simple, simple', isIn, isIn'⟩
    cases fork with
    | apart reached shape two one other =>
      exact ⟨_, _, _, _, _, _, _, reached, .apart shape (.inl two), ⟨_, one, isIn⟩,
        ⟨_, other, isIn'⟩, simple, simple'⟩
    | repeated reached shape one other =>
      exact ⟨_, _, _, _, _, _, _, reached, .repeated shape, ⟨_, one, isIn⟩, ⟨_, other, isIn'⟩,
        simple, simple'⟩
  · rintro ⟨_, _, _, _, _, _, _, reached, pairs, ⟨emission, one, isIn⟩, ⟨emission', other, isIn'⟩,
      simple, simple'⟩
    cases pairs with
    | apart shape two =>
      rcases two with two | two
      · exact ⟨_, _, _, _, .apart reached shape two one other, simple, simple', isIn, isIn'⟩
      · exact ⟨_, _, _, _, .apart reached shape two other one, simple', simple, isIn', isIn⟩
    | repeated shape =>
      exact ⟨_, _, _, _, .repeated reached shape one other, simple, simple', isIn, isIn'⟩

/-! ## Cutting loops -/

/-- All loops through one rule in one field are cut out of the way to a node of a place. -/
theorem Puts.straighten (puts : Puts referent place field rule trail) :
    ∃ trail', Puts referent place field rule trail' ∧ trail'.Nodup := by
  obtain ⟨emission, ⟨last, way, node⟩, isIn⟩ := puts
  obtain ⟨trail', way', nodup, _⟩ := way.straighten
  exact ⟨trail', ⟨emission, ⟨last, way', node⟩, isIn⟩, nodup⟩

/-- A rule comes back if it stands in one field on the shared trail and on one branch. -/
theorem ComesBack.of_common {step : String × Option String}
    (reached : Descends referent field rule shared inner last)
    (pairs : last.Pairs referent left right) (one : Puts referent place inner left first)
    (other : Puts referent place inner right second) (here : step ∈ shared)
    (there : step ∈ first) : ComesBack referent place field rule := by
  obtain ⟨name, around⟩ := step
  obtain ⟨before, between, rfl⟩ := List.append_of_mem here
  obtain ⟨after, behind, rfl⟩ := List.append_of_mem there
  obtain ⟨part, body, outer, shape, further⟩ := reached.split
  obtain ⟨_, ⟨_, way, _⟩, _⟩ := one
  obtain ⟨again, body', back, shape', _⟩ := way.split
  obtain rfl := Rule.body_eq_of_shape referent shape shape'
  exact .beside outer shape further pairs back shape' other

/-- A fork goes along trails on which no rule stands in one field twice, unless a rule comes back. -/
theorem ForkIn.nodup_or_comesBack (fork : ForkIn referent (fun _ => True) place field rule) :
    ForkIn referent List.Nodup place field rule ∨ ComesBack referent place field rule := by
  obtain ⟨_, inner, last, left, right, _, _, reached, pairs, one, other, _⟩ := forkIn_iff.mp fork
  -- Loops within the shared trail and within each branch do not matter: they are cut out.
  obtain ⟨shared, reached, nodup, _⟩ := reached.straighten
  obtain ⟨first, one, nodup'⟩ := one.straighten
  obtain ⟨second, other, nodup''⟩ := other.straighten
  by_cases common : ∃ step ∈ shared, step ∈ first ∨ step ∈ second
  · obtain ⟨step, here, there | there⟩ := common
    · exact .inr (.of_common reached pairs one other here there)
    · exact .inr (.of_common reached pairs.symm other one here there)
  · have apart : shared.Disjoint first := fun step here there => common ⟨step, here, .inl there⟩
    have apart' : shared.Disjoint second := fun step here there => common ⟨step, here, .inr there⟩
    exact .inl (forkIn_iff.mpr ⟨shared, inner, last, left, right, first, second, reached, pairs,
      one, other, List.nodup_append'.mpr ⟨nodup, nodup', apart⟩,
      List.nodup_append'.mpr ⟨nodup, nodup'', apart'⟩⟩)

/-! ## Forks along simple trails -/

/-- A fork along trails on which no rule stands in one field twice goes along simple trails, unless
a rule stands in two fields. -/
theorem ForkIn.simple_or_comesBack (fork : ForkIn referent List.Nodup place field rule) :
    ForkIn referent (Trail.Simple []) place field rule ∨ ComesBack referent place field rule := by
  obtain ⟨shared, inner, last, _, _, _, _, reached, pairs, one, other, nodup, nodup'⟩ :=
    forkIn_iff.mp fork
  by_contra neither
  obtain ⟨notSimple, notBack⟩ := not_or.mp neither
  have steady {left right : Rule} {first second : Trail} (pairs : last.Pairs referent left right)
      (one : Puts referent place inner left first) (other : Puts referent place inner right second)
      (nodup : (shared ++ first).Nodup) (nodup' : (shared ++ second).Nodup) :
      Trail.Steady (shared ++ first) := by
    intro name around around' here there
    by_contra moves
    cases place with
    | none =>
      -- What leads to a child stands outside all fields, so there is nowhere to move to.
      obtain ⟨_, ⟨_, way, _⟩, isIn⟩ := reached.puts (pairs.descends.puts one)
      exact moves (way.steady (Emission.field_eq_of_isIn isIn) name around around' here there)
    | some label =>
      exact notBack (.elsewhere reached pairs one other nodup nodup' here there moves)
  exact notSimple (forkIn_iff.mpr ⟨_, _, _, _, _, _, _, reached, pairs, one, other,
    Trail.simple_of_nodup nodup (steady pairs one other nodup nodup'),
    Trail.simple_of_nodup nodup' (steady pairs.symm other one nodup' nodup)⟩)

/-- A rule that comes back makes a fork. -/
theorem ComesBack.fork (back : ComesBack referent place field rule) :
    ForkIn referent (fun _ => True) place field rule := by
  rw [forkIn_iff]
  cases back with
  | @beside _ _ _ inner _ _ _ last left right _ _ _ _ _ _ reached shape further pairs back shape'
      puts =>
    have round := further.trans pairs.symm.descends
    have again := back.trans (.replaced shape' round)
    exact ⟨_, _, _, _, _, _, _, reached.trans (.replaced shape further), pairs, again.puts puts,
      puts, trivial, trivial⟩
  | elsewhere reached pairs one other =>
    exact ⟨_, _, _, _, _, _, _, reached, pairs, one, other, trivial, trivial⟩

/-- A derivation forks along arbitrary trails exactly if it forks along simple ones or a rule comes
back on the way. -/
theorem forkIn_iff_simple_or_comesBack :
    ForkIn referent (fun _ => True) place field rule ↔
      ForkIn referent (Trail.Simple []) place field rule ∨ ComesBack referent place field rule := by
  constructor
  · intro fork
    rcases fork.nodup_or_comesBack with nodup | back
    · exact nodup.simple_or_comesBack
    · exact .inr back
  · rintro (fork | back)
    · obtain ⟨first, emission, second, emission', fork, _, _, isIn⟩ := fork
      exact ⟨first, emission, second, emission', fork, trivial, trivial, isIn⟩
    · exact back.fork

end

end GrammarAtlas
