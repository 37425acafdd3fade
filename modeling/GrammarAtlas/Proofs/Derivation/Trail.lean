import GrammarAtlas.Proofs.Derivation
import Mathlib.Data.List.Duplicate

/-!
# Trails of derivations

On its way down to one node, a derivation replaces references by rule bodies. The trail to the node
lists the rules that it replaces, each with the field around the reference. A summary follows only
trails that are simple, on which no rule is replaced inside its own body, so what it can tell
depends on which nodes have simple trails. `Descends.simplify` cuts loops out of a trail: that
works where a rule always stands in the same field, and so outside all fields.
-/

namespace GrammarAtlas

/-- The rules that are replaced inside each other, from the outermost to the innermost, with the
fields around the references to them. -/
abbrev Trail := List (String × Option String)

/-- No rule on the trail is replaced inside its own body, nor inside the bodies of others that are
being replaced already. -/
structure Trail.Simple (visiting : List String) (trail : Trail) : Prop where
  /-- No rule stands on the trail twice. -/
  nodup : (trail.map Prod.fst).Nodup
  /-- No rule on the trail is being replaced already. -/
  fresh : ∀ name ∈ trail.map Prod.fst, name ∉ visiting

/-- The empty trail is simple. -/
theorem Trail.Simple.nil {visiting : List String} : Trail.Simple visiting [] :=
  ⟨List.nodup_nil, fun _ listed => absurd listed List.not_mem_nil⟩

/-- A trail from a rule on is simple if the rule is not being replaced yet and the trail in its body
is simple. -/
theorem Trail.simple_cons {visiting : List String} {name : String} {field : Option String}
    {trail : Trail} :
    Trail.Simple visiting ((name, field) :: trail) ↔
      name ∉ visiting ∧ Trail.Simple (name :: visiting) trail := by
  constructor
  · rintro ⟨nodup, fresh⟩
    rw [List.map_cons, List.nodup_cons] at nodup
    refine ⟨fresh name (by simp), nodup.2, fun other listed => ?_⟩
    rw [List.mem_cons, not_or]
    exact ⟨fun same => nodup.1 (same ▸ listed), fresh other (List.mem_cons_of_mem _ listed)⟩
  · rintro ⟨unvisited, nodup, fresh⟩
    refine ⟨List.nodup_cons.mpr ⟨fun listed => fresh name listed (by simp), nodup⟩, ?_⟩
    intro other listed
    rcases List.mem_cons.mp listed with rfl | listed
    · exact unvisited
    · exact fun visited => fresh other listed (List.mem_cons_of_mem _ visited)

/-- The beginning of a simple trail is simple. -/
theorem Trail.Simple.of_append {visiting : List String} {first rest : Trail}
    (simple : Trail.Simple visiting (first ++ rest)) : Trail.Simple visiting first := by
  obtain ⟨nodup, fresh⟩ := simple
  rw [List.map_append] at nodup fresh
  exact ⟨nodup.of_append_left, fun name listed => fresh name (List.mem_append_left _ listed)⟩

/-- Every rule on the trail stands in one field only. -/
def Trail.Steady (trail : Trail) : Prop :=
  ∀ name around around', (name, around) ∈ trail → (name, around') ∈ trail → around = around'

/-- A trail is simple if no rule stands on it in one field twice or in two fields. -/
theorem Trail.simple_of_nodup {trail : Trail} (nodup : trail.Nodup) (steady : trail.Steady) :
    Trail.Simple [] trail := by
  refine ⟨nodup.map_on ?_, fun _ _ => List.not_mem_nil⟩
  rintro ⟨name, around⟩ here ⟨_, around'⟩ there rfl
  rw [steady name around around' here there]

/-- Two images in order come from two elements in order. -/
theorem exists_pair_of_sublist_map {α β : Type} {image : α → β} {list : List α} {left right : β}
    (among : [left, right].Sublist (list.map image)) :
    ∃ first second, [first, second].Sublist list ∧ image first = left ∧ image second = right := by
  obtain ⟨pair, inside, same⟩ := List.sublist_map_iff.mp among
  obtain ⟨first, rest, rfl, head, same⟩ := List.map_eq_cons_iff.mp same.symm
  obtain ⟨second, rfl, tail⟩ := List.map_eq_singleton_iff.mp same
  exact ⟨first, second, inside, head, tail⟩

/-- Two elements in order stand somewhere in the list, one behind the other. -/
theorem exists_append_of_pair_sublist {α : Type} {list : List α} {first second : α}
    (among : [first, second].Sublist list) :
    ∃ before between after, list = before ++ first :: between ++ second :: after := by
  obtain ⟨front, back, rfl, inFront, inBack⟩ := List.cons_sublist_iff.mp among
  obtain ⟨before, between, rfl⟩ := List.append_of_mem inFront
  obtain ⟨between', after, rfl⟩ := List.append_of_mem (List.singleton_sublist.mp inBack)
  exact ⟨before, between ++ between', after, by simp⟩

/-- Some element comes back in a list whose elements are not all distinct. -/
theorem exists_again_of_not_nodup {α : Type} {list : List α} (repeats : ¬ list.Nodup) :
    ∃ before element between after, list = before ++ element :: between ++ element :: after := by
  obtain ⟨element, twice⟩ := List.exists_duplicate_iff_not_nodup.mpr repeats
  obtain ⟨before, between, after, rfl⟩ :=
    exists_append_of_pair_sublist (List.duplicate_iff_sublist.mp twice)
  exact ⟨before, element, between, after, rfl⟩

/-- Some rule comes back on a trail whose rules are not all distinct. -/
theorem Trail.exists_repeat {trail : Trail} (repeats : ¬ (trail.map Prod.fst).Nodup) :
    ∃ before name around between around' after,
      trail = before ++ (name, around) :: between ++ (name, around') :: after := by
  obtain ⟨name, twice⟩ := List.exists_duplicate_iff_not_nodup.mpr repeats
  obtain ⟨⟨first, around⟩, ⟨second, around'⟩, listed, here, again⟩ :=
    exists_pair_of_sublist_map (List.duplicate_iff_sublist.mp twice)
  obtain rfl : first = name := here
  obtain rfl : second = first := again
  obtain ⟨before, between, after, rfl⟩ := exists_append_of_pair_sublist listed
  exact ⟨before, second, around, between, around', after, rfl⟩

/-- A derivation of the first rule, standing in the first field, can come along the trail to the
last rule, standing in the last field. -/
inductive Descends (referent : String → Referent) :
    Option String → Rule → Trail → Option String → Rule → Prop where
  /-- It is there already. -/
  | here {field : Option String} {rule : Rule} : Descends referent field rule [] field rule
  /-- It enters a rule directly below. -/
  | enter {field inner : Option String} {rule part last : Rule} {trail : Trail}
    (entered : part ∈ (rule.shape referent).parts)
    (further : Descends referent ((rule.shape referent).fieldBelow field) part trail inner last) :
    Descends referent field rule trail inner last
  /-- It replaces a reference by the body of the rule. -/
  | replaced {field inner : Option String} {rule body last : Rule} {name : String} {trail : Trail}
    (shape : rule.shape referent = .replaced name body)
    (further : Descends referent field body trail inner last) :
    Descends referent field rule ((name, field) :: trail) inner last

/-- A derivation of the rule can put the node into the tree at the end of the trail. -/
def Leads (referent : String → Referent) (field : Option String) (rule : Rule) (trail : Trail)
    (emission : Emission) : Prop :=
  ∃ last, Descends referent field rule trail emission.field last ∧
    last.shape referent = .node emission.node

/-- A derivation of the rule can put both nodes into the tree, each at the end of its trail: they
come from two members of a sequence, or from two rounds of a repetition. -/
inductive Fork (referent : String → Referent) :
    Option String → Rule → Trail → Emission → Trail → Emission → Prop where
  /-- The nodes come from two members of a sequence. -/
  | apart {field inner : Option String} {rule last left right : Rule} {members : List Rule}
    {shared first second : Trail} {emission emission' : Emission}
    (reached : Descends referent field rule shared inner last)
    (shape : last.shape referent = .sequence members) (two : [left, right].Sublist members)
    (one : Leads referent inner left first emission)
    (other : Leads referent inner right second emission') :
    Fork referent field rule (shared ++ first) emission (shared ++ second) emission'
  /-- The nodes come from two rounds of a repetition. -/
  | repeated {field inner : Option String} {rule last content : Rule} {atLeastOnce : Bool}
    {shared first second : Trail} {emission emission' : Emission}
    (reached : Descends referent field rule shared inner last)
    (shape : last.shape referent = .repetition atLeastOnce content)
    (one : Leads referent inner content first emission)
    (other : Leads referent inner content second emission') :
    Fork referent field rule (shared ++ first) emission (shared ++ second) emission'

section

variable {referent : String → Referent}

namespace Descends

variable {field inner field' : Option String} {rule last rule' : Rule} {trail trail' : Trail}

/-- One step down to a rule that is entered. -/
theorem into {shape : RuleShape} {part : Rule} (is : rule.shape referent = shape)
    (entered : part ∈ shape.parts) :
    Descends referent field rule [] (shape.fieldBelow field) part := by
  subst is
  exact .enter entered .here

/-- One way down after another. -/
theorem trans (first : Descends referent field rule trail inner last)
    (second : Descends referent inner last trail' field' rule') :
    Descends referent field rule (trail ++ trail') field' rule' := by
  induction first with
  | here => exact second
  | enter entered _ ih => exact .enter entered (ih second)
  | replaced shape _ ih => exact .replaced shape (ih second)

/-- The way down to a rule can be taken in any other field. -/
theorem inField (way : Descends referent field rule trail inner last) (other : Option String) :
    ∃ trail' inner', Descends referent other rule trail' inner' last := by
  induction way generalizing other with
  | here => exact ⟨[], other, .here⟩
  | enter entered _ ih =>
    obtain ⟨_, _, further⟩ := ih _
    exact ⟨_, _, .enter entered further⟩
  | replaced shape _ ih =>
    obtain ⟨_, _, further⟩ := ih other
    exact ⟨_, _, .replaced shape further⟩

/-- A way down can be taken apart at any rule on its trail. -/
theorem split {name : String} {around : Option String}
    (way : Descends referent field rule (trail ++ (name, around) :: trail') inner last) :
    ∃ part body, Descends referent field rule trail around part ∧
      part.shape referent = .replaced name body ∧
      Descends referent around body trail' inner last := by
  generalize whole : trail ++ (name, around) :: trail' = steps at way
  induction way generalizing trail with
  | here => simp at whole
  | enter entered _ ih =>
    obtain ⟨part, body, before, shape, after⟩ := ih whole
    exact ⟨part, body, .enter entered before, shape, after⟩
  | @replaced field inner rule body last outer steps shape further ih =>
    cases trail with
    | nil =>
      obtain ⟨⟨rfl, rfl⟩, rfl⟩ := by simpa using whole
      exact ⟨rule, body, .here, shape, further⟩
    | cons step trail =>
      obtain ⟨rfl, rest⟩ := by simpa using whole
      obtain ⟨part, inside, before, shape', after⟩ := ih rest
      exact ⟨part, inside, .replaced shape before, shape', after⟩

/-- What is reached outside all fields is reached along a trail outside all fields. -/
theorem outside (way : Descends referent field rule trail inner last) (outer : inner = none) :
    field = none ∧ ∀ step ∈ trail, step.2 = none := by
  induction way with
  | here => exact ⟨outer, by simp⟩
  | @enter field inner rule part last trail entered _ ih =>
    obtain ⟨within, outside⟩ := ih outer
    refine ⟨?_, outside⟩
    cases shape : rule.shape referent <;> simp_all [RuleShape.fieldBelow]
  | replaced _ _ ih =>
    obtain ⟨rfl, outside⟩ := ih outer
    exact ⟨rfl, by simpa using outside⟩

/-- On the way to what is reached outside all fields, no rule stands in two fields. -/
theorem steady (way : Descends referent field rule trail inner last) (outer : inner = none) :
    trail.Steady := by
  obtain ⟨_, outside⟩ := way.outside outer
  exact fun _ _ _ here there => (outside _ here).trans (outside _ there).symm

/-- What lies between two visits to one rule in one field is cut out of a way down. -/
theorem cut {step : String × Option String} {before between after : Trail}
    (way : Descends referent field rule (before ++ step :: between ++ step :: after) inner last) :
    Descends referent field rule (before ++ step :: after) inner last := by
  obtain ⟨part, body, first, shape, _⟩ := (List.append_assoc .. ▸ way).split
  obtain ⟨part', body', _, shape', last⟩ := way.split
  obtain rfl := Rule.body_eq_of_shape referent shape shape'
  exact first.trans (.replaced shape last)

/-- All loops through one rule in one field are cut out of a way down. -/
theorem straighten (way : Descends referent field rule trail inner last) :
    ∃ trail', Descends referent field rule trail' inner last ∧ trail'.Nodup ∧ trail' ⊆ trail := by
  induction size : trail.length using Nat.strongRecOn generalizing trail with
  | ind count ih =>
    by_cases nodup : trail.Nodup
    · exact ⟨trail, way, nodup, List.Subset.refl trail⟩
    · obtain ⟨before, step, between, after, rfl⟩ := exists_again_of_not_nodup nodup
      have shorter : (before ++ step :: after).length < count := by
        rw [← size]
        simp only [List.length_append, List.length_cons]
        omega
      have kept : before ++ step :: after ⊆ before ++ step :: between ++ step :: after := by
        intro other
        simp only [List.mem_append, List.mem_cons]
        grind
      obtain ⟨trail', way', nodup', inside⟩ := ih _ shorter way.cut rfl
      exact ⟨trail', way', nodup', List.Subset.trans inside kept⟩

/-- Loops are cut out of a way down on which each rule stands in one field only. -/
theorem simplify (way : Descends referent field rule trail inner last) (steady : trail.Steady) :
    ∃ trail', Descends referent field rule trail' inner last ∧ Trail.Simple [] trail' := by
  obtain ⟨trail', way', nodup, inside⟩ := way.straighten
  exact ⟨trail', way', Trail.simple_of_nodup nodup fun name around around' here there =>
    steady name around around' (inside here) (inside there)⟩

end Descends

section Nodes

variable {field : Option String} {rule : Rule} {trail : Trail} {emission : Emission}

/-- A node below a rule that is entered. -/
theorem Leads.enter {shape : RuleShape} {part : Rule} (is : rule.shape referent = shape)
    (entered : part ∈ shape.parts)
    (further : Leads referent (shape.fieldBelow field) part trail emission) :
    Leads referent field rule trail emission := by
  subst is
  obtain ⟨last, way, node⟩ := further
  exact ⟨last, .enter entered way, node⟩

/-- A node below a rule body that replaces a reference. -/
theorem Leads.replaced {name : String} {body : Rule}
    (shape : rule.shape referent = .replaced name body)
    (further : Leads referent field body trail emission) :
    Leads referent field rule ((name, field) :: trail) emission := by
  obtain ⟨last, way, node⟩ := further
  exact ⟨last, .replaced shape way, node⟩

mutual

/-- Every node that a derivation puts into the tree has a trail. -/
theorem Derives.leads {field : Option String} {rule : Rule} {word : List Emission} :
    Derives referent field rule word →
      ∀ emission ∈ word, ∃ trail, Leads referent field rule trail emission
  | .silent _ => by simp
  | .node shape => by
    intro emission listed
    obtain rfl := List.mem_singleton.mp listed
    exact ⟨[], rule, .here, shape⟩
  | .replaced shape derived => by
    intro emission listed
    obtain ⟨trail, further⟩ := derived.leads emission listed
    exact ⟨_, further.replaced shape⟩
  | .sequence shape derived => by
    intro emission listed
    obtain ⟨member, among, trail, further⟩ := derived.leads emission listed
    exact ⟨trail, .enter shape among further⟩
  | .choice shape chosen derived => by
    intro emission listed
    obtain ⟨trail, further⟩ := derived.leads emission listed
    exact ⟨trail, .enter shape chosen further⟩
  | .skipped _ => by simp
  | .once shape derived => by
    intro emission listed
    obtain ⟨trail, further⟩ := derived.leads emission listed
    exact ⟨trail, .enter shape (List.mem_singleton.mpr rfl) further⟩
  | .again shape head tail => by
    intro emission listed
    rcases List.mem_append.mp listed with first | rest
    · obtain ⟨trail, further⟩ := head.leads emission first
      exact ⟨trail, .enter shape (List.mem_singleton.mpr rfl) further⟩
    · exact tail.leads emission rest
  | .labelled shape derived => by
    intro emission listed
    obtain ⟨trail, further⟩ := derived.leads emission listed
    exact ⟨trail, .enter shape (List.mem_singleton.mpr rfl) further⟩
  | .wrapper shape derived => by
    intro emission listed
    obtain ⟨trail, further⟩ := derived.leads emission listed
    exact ⟨trail, .enter shape (List.mem_singleton.mpr rfl) further⟩

/-- Every node that a sequence puts into the tree has a trail in one of the members. -/
theorem DerivesEach.leads {field : Option String} {rules : List Rule} {word : List Emission} :
    DerivesEach referent field rules word →
      ∀ emission ∈ word, ∃ rule ∈ rules, ∃ trail, Leads referent field rule trail emission
  | .nil => by simp
  | .cons head tail => by
    intro emission listed
    rcases List.mem_append.mp listed with first | rest
    · exact ⟨_, List.mem_cons_self, head.leads emission first⟩
    · obtain ⟨rule, among, further⟩ := tail.leads emission rest
      exact ⟨rule, List.mem_cons_of_mem _ among, further⟩

end

end Nodes

section Pairs

variable {field : Option String} {rule : Rule} {first second : Trail}
  {emission emission' : Emission}

/-- Each of two nodes has its trail. -/
theorem Fork.leads (fork : Fork referent field rule first emission second emission') :
    Leads referent field rule first emission ∧ Leads referent field rule second emission' := by
  have below {shared trail : Trail} {inner : Option String} {last : Rule}
      {emission : Emission} (reached : Descends referent field rule shared inner last)
      (further : Leads referent inner last trail emission) :
      Leads referent field rule (shared ++ trail) emission := by
    obtain ⟨end', way, node⟩ := further
    exact ⟨end', reached.trans way, node⟩
  cases fork with
  | apart reached shape two one other =>
    exact ⟨below reached (.enter shape (two.subset (by simp)) one),
      below reached (.enter shape (two.subset (by simp)) other)⟩
  | repeated reached shape one other =>
    exact ⟨below reached (.enter shape (List.mem_singleton.mpr rfl) one),
      below reached (.enter shape (List.mem_singleton.mpr rfl) other)⟩

/-- A derivation of the rule can put two nodes into the place, along trails of some sort. -/
def ForkIn (referent : String → Referent) (allowed : Trail → Prop) (place field : Option String)
    (rule : Rule) : Prop :=
  ∃ first emission second emission', Fork referent field rule first emission second emission' ∧
    allowed first ∧ allowed second ∧ emission.isIn place ∧ emission'.isIn place

variable {allowed inside : Trail → Prop} {place : Option String}

/-- Two nodes below a rule that is entered. -/
theorem ForkIn.enter {shape : RuleShape} {part : Rule} (is : rule.shape referent = shape)
    (entered : part ∈ shape.parts)
    (further : ForkIn referent allowed place (shape.fieldBelow field) part) :
    ForkIn referent allowed place field rule := by
  subst is
  obtain ⟨first, emission, second, emission', fork, rest⟩ := further
  refine ⟨first, emission, second, emission', ?_, rest⟩
  cases fork with
  | apart reached shape two one other => exact .apart (.enter entered reached) shape two one other
  | repeated reached shape one other => exact .repeated (.enter entered reached) shape one other

/-- Two nodes below a rule body that replaces a reference. -/
theorem ForkIn.replaced {name : String} {body : Rule}
    (shape : rule.shape referent = .replaced name body)
    (grows : ∀ trail, inside trail → allowed ((name, field) :: trail))
    (further : ForkIn referent inside place field body) :
    ForkIn referent allowed place field rule := by
  obtain ⟨first, emission, second, emission', fork, one, other, rest⟩ := further
  refine ⟨_, emission, _, emission', ?_, grows first one, grows second other, rest⟩
  cases fork with
  | apart reached shape' two one other =>
    exact .apart (.replaced shape reached) shape' two one other
  | repeated reached shape' one other =>
    exact .repeated (.replaced shape reached) shape' one other

/-- A node below a repetition is a node below its content. -/
theorem Leads.of_repetition {atLeastOnce : Bool} {content : Rule} {trail : Trail}
    (shape : rule.shape referent = .repetition atLeastOnce content)
    (leads : Leads referent field rule trail emission) :
    Leads referent field content trail emission := by
  obtain ⟨last, way, node⟩ := leads
  cases way with
  | here => exact absurd (shape.symm.trans node) RuleShape.noConfusion
  | enter entered further =>
    rw [shape] at entered further
    obtain rfl := List.mem_singleton.mp entered
    exact ⟨last, further, node⟩
  | replaced shape' further => exact absurd (shape.symm.trans shape') RuleShape.noConfusion

mutual

/-- A derivation that puts several nodes into a place forks. -/
theorem Derives.fork {place field : Option String} {rule : Rule} {word : List Emission} :
    Derives referent field rule word → 2 ≤ Emission.count place word →
      ForkIn referent (fun _ => True) place field rule
  | .silent _, several => by simp at several
  | .node shape, several => by
    exact absurd several (Nat.not_le_of_lt (Nat.lt_succ_of_le List.countP_le_length))
  | .replaced shape derived, several =>
    (derived.fork several).replaced shape fun _ _ => trivial
  | .sequence shape derived, several => by
    rcases derived.fork several with ⟨member, among, fork⟩ | ⟨left, right, two, one, other⟩
    · exact fork.enter shape among
    · obtain ⟨first, emission, leads, isIn⟩ := one
      obtain ⟨second, emission', leads', isIn'⟩ := other
      exact ⟨_, emission, _, emission', .apart .here shape two leads leads', trivial, trivial, isIn,
        isIn'⟩
  | .choice shape chosen derived, several => (derived.fork several).enter shape chosen
  | .skipped _, several => by simp at several
  | .once shape derived, several =>
    (derived.fork several).enter shape (List.mem_singleton.mpr rfl)
  | @Derives.again _ _ _ _ _ first rest shape head tail, several => by
    rw [Emission.count_append] at several
    by_cases two : 2 ≤ Emission.count place first
    · exact (head.fork two).enter shape (List.mem_singleton.mpr rfl)
    by_cases two' : 2 ≤ Emission.count place rest
    · exact tail.fork two'
    obtain ⟨emission, listed, isIn⟩ := (Emission.one_le_count_iff place first).mp (by omega)
    obtain ⟨emission', listed', isIn'⟩ := (Emission.one_le_count_iff place rest).mp (by omega)
    obtain ⟨trail, leads⟩ := head.leads emission listed
    obtain ⟨trail', leads'⟩ := tail.leads emission' listed'
    exact ⟨_, emission, _, emission', .repeated .here shape leads (leads'.of_repetition shape),
      trivial, trivial, isIn, isIn'⟩
  | .labelled shape derived, several =>
    (derived.fork several).enter shape (List.mem_singleton.mpr rfl)
  | .wrapper shape derived, several =>
    (derived.fork several).enter shape (List.mem_singleton.mpr rfl)

/-- A sequence that puts several nodes into a place forks in one of its members, or puts nodes
there in two of them. -/
theorem DerivesEach.fork {place field : Option String} {rules : List Rule}
    {word : List Emission} :
    DerivesEach referent field rules word → 2 ≤ Emission.count place word →
      (∃ rule ∈ rules, ForkIn referent (fun _ => True) place field rule) ∨
        ∃ left right, [left, right].Sublist rules ∧
          (∃ trail emission, Leads referent field left trail emission ∧ emission.isIn place) ∧
          ∃ trail emission, Leads referent field right trail emission ∧ emission.isIn place
  | .nil, several => by simp at several
  | @DerivesEach.cons _ _ _ _ first rest head tail, several => by
    rw [Emission.count_append] at several
    by_cases two : 2 ≤ Emission.count place first
    · exact .inl ⟨_, List.mem_cons_self, head.fork two⟩
    by_cases two' : 2 ≤ Emission.count place rest
    · rcases tail.fork two' with ⟨rule, among, fork⟩ | ⟨left, right, among, both⟩
      · exact .inl ⟨rule, List.mem_cons_of_mem _ among, fork⟩
      · exact .inr ⟨left, right, among.cons _, both⟩
    obtain ⟨emission, listed, isIn⟩ := (Emission.one_le_count_iff place first).mp (by omega)
    obtain ⟨emission', listed', isIn'⟩ := (Emission.one_le_count_iff place rest).mp (by omega)
    obtain ⟨trail, leads⟩ := head.leads emission listed
    obtain ⟨right, among, trail', leads'⟩ := tail.leads emission' listed'
    exact .inr ⟨_, right, (List.singleton_sublist.mpr among).cons_cons _,
      ⟨trail, emission, leads, isIn⟩, trail', emission', leads', isIn'⟩

end

end Pairs

end

end GrammarAtlas
