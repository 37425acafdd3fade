import GrammarAtlas.Proofs.Grammar.EntryRule
import Mathlib.Logic.Relation
import Mathlib.Order.Bounds.Basic
import Mathlib.Order.WellFounded

/-!
# Which rules are within reach

A rule is within reach if it is the entry rule, or an extra refers to it, or a rule within reach
does. The names within reach can be gathered by a search that keeps the names it has still to follow
on a stack, where a name may stand more than once (`Search`). Every such search ends, since a step
either takes a name off the stack for good or reaches a rule that has not been reached before
(`Search.wellFounded_step`).

`Grammar.Explores` is what a search keeps: all names that the search knows of are within reach, and
what its names lead to is known too. So nothing within reach is missing when no name is left to
follow. The advice on a grammar is found by a search that removes rules from a table instead of
noting names, and keeps the same.
-/

namespace GrammarAtlas

namespace Grammar

variable {grammar : Grammar} {name : String}

/-- The names hold the entry rule and what the extras refer to, and with each rule what its body
refers to. -/
structure Closed (grammar : Grammar) (names : Set String) : Prop where
  /-- The entry rule is among them. -/
  entry : ∀ start, grammar.startRule = some start → start ∈ names
  /-- What the extras refer to is among them. -/
  extras : ∀ tree ∈ grammar.extraRules, ∀ node : Rule, node.Within tree →
    ∀ target, node.symbolName = some target → target ∈ names
  /-- What their bodies refer to is among them. -/
  bodies : ∀ name ∈ names, ∀ body, grammar.rules[name]? = some body →
    ∀ node : Rule, node.Within body → ∀ target, node.symbolName = some target → target ∈ names

/-- The name is within reach. -/
inductive InReach (grammar : Grammar) : String → Prop
  /-- The entry rule is, and what the extras refer to. -/
  | entry {name : String} : name ∈ grammar.entryNames → InReach grammar name
  /-- What the body of a rule within reach refers to is. -/
  | reference {name target : String} {body : Rule} : InReach grammar name →
    grammar.rules[name]? = some body → target ∈ body.references → InReach grammar target

/-- The names to begin with are the entry rule and what the extras refer to. -/
theorem mem_entryNames :
    name ∈ grammar.entryNames ↔ grammar.startRule = some name ∨
      ∃ tree ∈ grammar.extraRules, ∃ node : Rule, node.Within tree ∧
        node.symbolName = some name := by
  simp only [entryNames, List.mem_append, Option.mem_toList, List.mem_flatMap,
    mem_references]

/-- The names within reach are the least set that holds with each rule what its body refers to. -/
theorem isLeast_inReach (grammar : Grammar) :
    IsLeast {names | grammar.Closed names} {name | grammar.InReach name} := by
  constructor
  · constructor
    · exact fun start entry => .entry (mem_entryNames.mpr (.inl entry))
    · exact fun tree extra node within target refers =>
        .entry (mem_entryNames.mpr (.inr ⟨tree, extra, node, within, refers⟩))
    · exact fun name reached body rule node within target refers =>
        .reference reached rule (mem_references.mpr ⟨node, within, refers⟩)
  · intro names closed name reached
    induction reached with
    | entry first =>
      rcases mem_entryNames.mp first with start | ⟨tree, extra, node, within, refers⟩
      · exact closed.entry _ start
      · exact closed.extras tree extra node within _ refers
    | reference _ rule among ih =>
      obtain ⟨node, within, refers⟩ := mem_references.mp among
      exact closed.bodies _ ih _ rule node within _ refers

/-! ## What a search keeps -/

/-- Some names have been reached, and others are still to be followed. All of them are within reach,
and so far nothing has been lost. -/
structure Explores (grammar : Grammar) (reached : String → Prop) (pending : List String) :
    Prop where
  /-- The names are within reach. -/
  sound : ∀ name, reached name ∨ name ∈ pending → grammar.InReach name
  /-- The names to begin with are among them. -/
  entries : ∀ name ∈ grammar.entryNames, reached name ∨ name ∈ pending
  /-- What the rules refer to that have been reached is among them. -/
  bodies : ∀ name, reached name → ∀ body, grammar.rules[name]? = some body →
    ∀ target ∈ body.references, reached target ∨ target ∈ pending

namespace Explores

variable {reached : String → Prop} {pending pending' : List String}

/-- At first, nothing has been reached. -/
theorem initial (begins : ∀ name, name ∈ pending ↔ name ∈ grammar.entryNames) :
    grammar.Explores (fun _ => False) pending where
  sound name known := .entry ((begins name).mp (known.resolve_left id))
  entries name first := .inr ((begins name).mpr first)
  bodies _ known := known.elim

/-- A name that has been reached need not be followed again. -/
theorem skip (explores : grammar.Explores reached (name :: pending)) (known : reached name) :
    grammar.Explores reached pending := by
  have kept {target : String} (among : reached target ∨ target ∈ name :: pending) :
      reached target ∨ target ∈ pending := by
    rcases among with here | there
    · exact .inl here
    · rcases List.mem_cons.mp there with rfl | later
      · exact .inl known
      · exact .inr later
  constructor
  · exact fun target among => explores.sound target (among.imp_right (List.mem_cons_of_mem name))
  · exact fun target first => kept (explores.entries target first)
  · exact fun source here body rule target among =>
      kept (explores.bodies source here body rule target among)

/-- A name is followed by going on with what its body refers to. -/
theorem follow (explores : grammar.Explores reached (name :: pending))
    (goesOn : ∀ target, target ∈ pending' ↔ target ∈ pending ∨
      ∃ body, grammar.rules[name]? = some body ∧ target ∈ body.references) :
    grammar.Explores (fun other => other = name ∨ reached other) pending' := by
  have within := explores.sound name (.inr List.mem_cons_self)
  have kept {target : String} (among : reached target ∨ target ∈ name :: pending) :
      (target = name ∨ reached target) ∨ target ∈ pending' := by
    rcases among with here | there
    · exact .inl (.inr here)
    · rcases List.mem_cons.mp there with rfl | later
      · exact .inl (.inl rfl)
      · exact .inr ((goesOn target).mpr (.inl later))
  constructor
  · rintro target ((rfl | here) | there)
    · exact within
    · exact explores.sound target (.inl here)
    · rcases (goesOn target).mp there with later | ⟨body, rule, among⟩
      · exact explores.sound target (.inr (List.mem_cons_of_mem name later))
      · exact .reference within rule among
  · exact fun target first => kept (explores.entries target first)
  · rintro source (rfl | here) body rule target among
    · exact .inr ((goesOn target).mpr (.inr ⟨body, rule, among⟩))
    · exact kept (explores.bodies source here body rule target among)

/-- With nothing left to follow, exactly the names within reach have been reached. -/
theorem done (explores : grammar.Explores reached []) : reached name ↔ grammar.InReach name := by
  constructor
  · exact fun known => explores.sound name (.inl known)
  · intro within
    induction within with
    | entry first => exact (explores.entries _ first).resolve_right List.not_mem_nil
    | reference _ rule among ih =>
      exact (explores.bodies _ ih _ rule _ among).resolve_right List.not_mem_nil

end Explores

end Grammar

/-! ## A search with a stack -/

/-- A search along the references: the names that have been reached, and the stack of those that are
still to be followed. -/
structure Search where
  /-- The names that have been reached. -/
  reached : NameSet := ∅
  /-- The names that are still to be followed, the top of the stack first. -/
  pending : List String

namespace Search

variable {rules : ByName Rule} {search after final : Search} {grammar : Grammar} {name : String}

/-- The search that begins with the entry rule and the extras. -/
def initial (grammar : Grammar) : Search := { pending := grammar.entryNames.reverse }

/-- What is put on the stack for a name: what the body of the rule refers to, if it is a rule. -/
def targets (rules : ByName Rule) (name : String) : List String :=
  rules[name]?.toList.flatMap Rule.references

/-- The search after one more name has been taken off the stack. -/
def next? (rules : ByName Rule) : Search → Option Search
  | ⟨_, []⟩ => none
  | ⟨reached, name :: pending⟩ =>
    if reached.contains name then some ⟨reached, pending⟩
    else some ⟨reached.insert name, (targets rules name).reverse ++ pending⟩

/-- One search comes directly after another. -/
def Step (rules : ByName Rule) (before after : Search) : Prop := before.next? rules = some after

/-- A step passes over a name that has been reached, or it reaches the name. -/
theorem step_cases (step : Step rules search after) :
    ∃ name pending, search.pending = name :: pending ∧
      (name ∈ search.reached ∧ after = ⟨search.reached, pending⟩ ∨
        name ∉ search.reached ∧
          after = ⟨search.reached.insert name, (targets rules name).reverse ++ pending⟩) := by
  obtain ⟨reached, pending⟩ := search
  cases pending with
  | nil => cases step
  | cons name pending =>
    refine ⟨name, pending, rfl, ?_⟩
    rw [Step, next?] at step
    split at step
    · rename_i known
      exact .inl ⟨Std.ExtTreeSet.mem_iff_contains.mpr known, (Option.some.inj step).symm⟩
    · rename_i unknown
      exact .inr ⟨fun known => unknown (Std.ExtTreeSet.mem_iff_contains.mp known),
        (Option.some.inj step).symm⟩

/-! ### The search ends -/

/-- The rules that have not been reached. -/
def missing (rules : ByName Rule) (search : Search) : List String :=
  rules.keys.filter fun name => !search.reached.contains name

/-- A name that is reached is missing no more. -/
theorem missing_insert (rules : ByName Rule) (reached : NameSet) (pending pending' : List String)
    (name : String) :
    missing rules ⟨reached.insert name, pending'⟩ =
      (missing rules ⟨reached, pending⟩).filter (· ≠ name) := by
  rw [missing, missing, List.filter_filter]
  refine List.filter_congr fun other _ => ?_
  by_cases same : name = other
  · simp [same]
  · simp [Ne.symm same, same]

/-- A step leaves fewer rules missing, or it leaves as many and fewer names to follow. -/
theorem lex_of_step (step : Step rules search after) :
    Prod.Lex (· < ·) (· < ·) ((after.missing rules).length, after.pending.length)
      ((search.missing rules).length, search.pending.length) := by
  obtain ⟨name, pending, stack, ⟨_, rfl⟩ | ⟨unknown, rfl⟩⟩ := step_cases step
  · have shorter : pending.length < search.pending.length := by simp [stack]
    exact .right _ shorter
  · have fewer := missing_insert rules search.reached search.pending
      ((targets rules name).reverse ++ pending) name
    by_cases rule : name ∈ rules
    · -- The name was missing before.
      have absent : name ∈ search.missing rules := by
        simp only [missing, List.mem_filter, Std.ExtTreeMap.mem_keys, Bool.not_eq_true',
          ← Bool.not_eq_true, ← Std.ExtTreeSet.mem_iff_contains]
        exact ⟨rule, unknown⟩
      refine .left _ _ ?_
      rw [fewer]
      exact List.length_filter_lt_length_iff_exists.mpr ⟨name, absent, by simp⟩
    · have none : targets rules name = [] := by
        rw [targets, Std.ExtTreeMap.getElem?_eq_none rule]
        rfl
      have same : missing rules ⟨search.reached.insert name, pending⟩ = search.missing rules := by
        rw [missing_insert rules search.reached search.pending, List.filter_eq_self]
        rintro other listed
        have ruled := Std.ExtTreeMap.mem_keys.mp (List.mem_filter.mp listed).1
        exact decide_eq_true fun equal => rule (equal ▸ ruled)
      rw [none, List.reverse_nil, List.nil_append, same]
      have shorter : pending.length < search.pending.length := by simp [stack]
      exact .right _ shorter

/-- No search goes on for ever. -/
theorem wellFounded_step (rules : ByName Rule) :
    WellFounded fun after before => Step rules before after :=
  Subrelation.wf lex_of_step
    (InvImage.wf (fun search : Search => ((search.missing rules).length, search.pending.length))
      (WellFounded.prod_lex Nat.lt_wfRel.wf Nat.lt_wfRel.wf))

/-- Every search comes to an end. -/
theorem exists_final (rules : ByName Rule) (search : Search) :
    ∃ final, Relation.ReflTransGen (Step rules) search final ∧ final.next? rules = none := by
  induction search using (wellFounded_step rules).induction with
  | _ search ih =>
    cases next : search.next? rules with
    | none => exact ⟨search, .refl, next⟩
    | some after =>
      obtain ⟨final, run, ended⟩ := ih after next
      exact ⟨final, .head next run, ended⟩

/-! ### What the search finds -/

/-- What a search keeps, it keeps in every step. -/
theorem explores_of_step
    (explores : grammar.Explores (· ∈ search.reached) search.pending)
    (step : Step grammar.rules search after) :
    grammar.Explores (· ∈ after.reached) after.pending := by
  obtain ⟨name, pending, stack, ⟨known, rfl⟩ | ⟨_, rfl⟩⟩ := step_cases step
  · rw [stack] at explores
    exact explores.skip known
  · rw [stack] at explores
    have more : (· ∈ search.reached.insert name) =
        fun other => other = name ∨ other ∈ search.reached := by
      funext other
      rw [Std.ExtTreeSet.mem_insert, Std.LawfulEqCmp.compare_eq_iff_eq, eq_comm (a := other)]
    rw [more]
    refine explores.follow fun target => ?_
    simp [targets, or_comm]

/-- What a search keeps, it keeps from the beginning to the end. -/
theorem explores_of_run (run : Relation.ReflTransGen (Step grammar.rules) (initial grammar) final) :
    grammar.Explores (· ∈ final.reached) final.pending := by
  induction run with
  | refl =>
    have nothing : (· ∈ (initial grammar).reached) = fun _ : String => False := by
      funext name
      simp [initial]
    rw [nothing]
    exact .initial fun name => List.mem_reverse
  | tail _ step ih => exact explores_of_step ih step

/-- A search that has ended has reached exactly the names within reach. -/
theorem mem_reached_iff
    (run : Relation.ReflTransGen (Step grammar.rules) (initial grammar) final)
    (ended : final.next? grammar.rules = none) :
    name ∈ final.reached ↔ grammar.InReach name := by
  have explores := explores_of_run run
  obtain ⟨reached, pending⟩ := final
  cases pending with
  | nil => exact explores.done
  | cons name pending =>
    rw [next?] at ended
    split at ended <;> cases ended

end Search

/-! ## The advice on a grammar -/

namespace Grammar

variable {grammar : Grammar} {name : String}

/-- The rules that remain in the table are those out of reach, if the rules that are missing from it
have been reached. -/
theorem mem_unreached {reached : String → Prop} {rest : ByName Rule} {pending : List String}
    (explores : grammar.Explores reached pending)
    (remain : ∀ name body, rest[name]? = some body ↔
      grammar.rules[name]? = some body ∧ ¬ reached name) :
    name ∈ unreached rest pending ↔ name ∈ grammar.rules ∧ ¬ grammar.InReach name := by
  induction rest, pending using unreached.induct generalizing reached with
  | case1 rest =>
    rw [unreached, Std.ExtTreeMap.mem_iff_isSome_getElem?, Std.ExtTreeMap.mem_iff_isSome_getElem?,
      Option.isSome_iff_exists, Option.isSome_iff_exists, ← explores.done]
    simp only [remain, exists_and_right]
  | case2 rest next pending found ih =>
    rw [unreached]
    split
    · by_cases known : reached next
      · exact ih (explores.skip known) remain
      · -- A name that is neither missing nor in the table is no rule.
        have unruled : grammar.rules[next]? = none := by
          cases rule : grammar.rules[next]? with
          | none => rfl
          | some body => cases found.symm.trans ((remain next body).mpr ⟨rule, known⟩)
        refine ih (explores.follow fun target => by simp [unruled]) fun other body => ?_
        rw [remain, not_or, ← and_assoc]
        refine and_congr_left fun _ => (and_iff_left_of_imp fun rule => ?_).symm
        rintro rfl
        cases unruled.symm.trans rule
    · rename_i held
      cases found.symm.trans held
  | case3 rest next pending body found ih =>
    rw [unreached]
    split
    · rename_i lacking
      cases found.symm.trans lacking
    · rename_i body' held
      obtain rfl := Option.some.inj (found.symm.trans held)
      obtain ⟨rule, _⟩ := (remain next body).mp found
      refine ih (explores.follow fun target => by simp [rule, or_comm]) fun other body => ?_
      rw [Std.ExtTreeMap.getElem?_erase]
      split
      · rename_i same
        obtain rfl := Std.LawfulEqCmp.eq_of_compare same
        simp
      · rename_i different
        rw [remain, not_or]
        refine and_congr_right fun _ => (and_iff_right_of_imp fun _ => ?_).symm
        rintro rfl
        exact different Std.ReflCmp.compare_self

/-- The declarations that use a rule without a reference to it. -/
theorem isDeclaredOnly_iff :
    grammar.isDeclaredOnly name = true ↔
      name ∈ grammar.inlinedNames ∨ name ∈ grammar.supertypeNames ∨ grammar.word = some name := by
  simp only [isDeclaredOnly, isInlined, isSupertype, Bool.or_eq_true, List.contains_iff_mem,
    decide_eq_true_eq, or_assoc, or_comm (a := grammar.word = some name)]

/-- The search along the references ends, and what it has reached by then is the least set that
holds the entry rule, what the extras refer to, and with each rule what its body refers to. The
rules that the advice on a grammar calls unreachable are, in order, those that are not in the set
and are neither inlined nor supertypes nor the keyword token. -/
theorem unreachable_exact (grammar : Grammar) :
    WellFounded (fun after before => Search.Step grammar.rules before after) ∧
      ∃ final, Relation.ReflTransGen (Search.Step grammar.rules) (.initial grammar) final ∧
        final.next? grammar.rules = none ∧
        IsLeast {names | grammar.Closed names} {name | name ∈ final.reached} ∧
        grammar.unreachable = grammar.ruleOrder.filter fun name =>
          name ∉ final.reached ∧ name ∉ grammar.inlinedNames ∧ name ∉ grammar.supertypeNames ∧
            grammar.word ≠ some name := by
  obtain ⟨final, run, ended⟩ := Search.exists_final grammar.rules (.initial grammar)
  have reached (name : String) : name ∈ final.reached ↔ grammar.InReach name :=
    Search.mem_reached_iff run ended
  refine ⟨Search.wellFounded_step grammar.rules, final, run, ended, ?_, ?_⟩
  · simp only [reached]
    exact isLeast_inReach grammar
  · rw [unreachable]
    refine List.filter_congr fun name listed => ?_
    have ruled := mem_ruleOrder.mp listed
    have rest : name ∈ unreached grammar.rules grammar.entryNames ↔ _ :=
      mem_unreached (.initial fun _ => Iff.rfl) (by simp)
    rw [Bool.eq_iff_iff, Bool.and_eq_true, ← Std.ExtTreeMap.mem_iff_contains, rest,
      Bool.not_eq_true', ← Bool.not_eq_true, isDeclaredOnly_iff, decide_eq_true_eq, reached]
    simp only [ruled, true_and, not_or, ne_eq]

end Grammar

end GrammarAtlas
