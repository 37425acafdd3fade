import GrammarAtlas.Proofs.Derivation.Referent
import GrammarAtlas.Proofs.NodeType.Expansion
import GrammarAtlas.Proofs.Symbol.Layout
import Mathlib.Logic.Relation

/-!
# Summarizing step by step

To summarize a rule is to call for the summaries of the rules in it, for the contents of its
wrappers, and for what references contribute, which may be the summaries of further rule bodies.
That these calls come to an end cannot be read off their arguments: a reference leads to a body of
any size, and bodies may lead to each other. What stops them is a stack of the names whose bodies
are being summarized. A name that is on the stack contributes nothing, and it is taken off again
when its body has been summarized.

An `Evaluation` is such a computation between two steps, with everything laid open that a recursion
keeps to itself: the calls that wait for answers, as a list of frames, and the stack of names. No
evaluation goes on for ever (`Evaluation.wellFounded_step`), every call is answered with the stack
as it was when the call was made (`Evaluation.answers`), and what is on the stack at any time is
described by `Evaluation.Sound`. The answers are the summaries of `GrammarAtlas.NodeType.Listing`,
so the limit that is set there to replacements inside each other is never reached.
-/

namespace GrammarAtlas

open Relation (ReflTransGen)

/-- What a summary is called for, with the field around it. -/
inductive Call where
  /-- The summary of a rule tree. -/
  | tree (field : Option String) (rule : Rule)
  /-- The summary of what a wrapper wraps, if there is anything. -/
  | wrapped (field : Option String) (content : Option Rule)
  /-- What a reference to that name contributes. -/
  | reference (field : Option String) (name : String)

/-- What is to be done with the answer to a call. -/
inductive Frame where
  /-- It is that of a rule that is repeated. -/
  | repetition (atLeastOnce : Bool)
  /-- It is that of the members so far, and these are still to be called for. -/
  | others (join : Quantity → Quantity → Quantity) (field : Option String) (members : List Rule)
  /-- It is that of a member, and this is the answer for the members before it. -/
  | after (join : Quantity → Quantity → Quantity) (before : Summary)
  /-- It is that of the body of a rule, whose name is to be taken off the stack. -/
  | leave

/-- Whether the frame is that of a body that takes the place of a reference. -/
def Frame.isLeave : Frame → Bool
  | leave => true
  | repetition _ | others _ _ _ | after _ _ => false

/-- What is done next. -/
inductive Task where
  /-- A summary is called for. -/
  | call (call : Call)
  /-- A call is answered. -/
  | answer (summary : Summary)

/-- A computation of a summary between two steps. -/
structure Evaluation where
  /-- What is done next. -/
  task : Task
  /-- What is to be done with the answers, the innermost call first. -/
  frames : List Frame := []
  /-- The names of the rules whose bodies are being summarized, the top of the stack first. -/
  visiting : List String := []

/-! ## Steps -/

namespace Task

/-- The members of a sequence or a choice are called for one after another. -/
def ofMembers (join : Quantity → Quantity → Quantity) (field : Option String) :
    List Rule → Task × List Frame
  | [] => (.answer {}, [])
  | member :: members => (.call (.tree field member), [.others join field members])

/-- What the summary of a rule comes to: an answer, or a call whose answer has to be worked on. -/
def ofRule (field : Option String) : Rule → Task × List Frame
  | ⟨kind, value, name, content, members, named, _, _⟩ =>
    match kind with
    | .blank | .pattern | .token | .immediateToken => (.answer {}, [])
    | .text =>
      match value with
      | some (.text words) => (.answer (.occurrence field ⟨words, false⟩), [])
      | _ => (.answer {}, [])
    | .symbol =>
      match name with
      | some name => (.call (.reference field name), [])
      | none => (.answer {}, [])
    | .seq => ofMembers Quantity.followedBy field members
    | .choice => ofMembers Quantity.either field members
    | .zeroOrMore => (.call (.wrapped field content), [.repetition false])
    | .oneOrMore => (.call (.wrapped field content), [.repetition true])
    | .field => (.call (.wrapped (name.or field) content), [])
    | .aliased =>
      match value with
      | some (.text words) => (.answer (.occurrence field ⟨words, named.getD false⟩), [])
      | _ => (.answer {}, [])
    | .prec | .precLeft | .precRight | .precDynamic | .reserved =>
      (.call (.wrapped field content), [])

end Task

namespace Evaluation

/-- The evaluation that summarizes a body in a field, or outside all fields. -/
def start (field : Option String) (body : Rule) : Evaluation := { task := .call (.tree field body) }

/-- The evaluation after one more step. It has ended when no call waits for the answer. -/
def next? (grammar : Grammar) (table : SymbolTable) : Evaluation → Option Evaluation
  | ⟨.call (.tree field rule), frames, visiting⟩ =>
    some ⟨(Task.ofRule field rule).1, (Task.ofRule field rule).2 ++ frames, visiting⟩
  | ⟨.call (.wrapped field content), frames, visiting⟩ =>
    match content with
    | none => some ⟨.answer {}, frames, visiting⟩
    | some rule => some ⟨.call (.tree field rule), frames, visiting⟩
  | ⟨.call (.reference field name), frames, visiting⟩ =>
    match Referent.of grammar table name with
    | .node kind => some ⟨.answer (.occurrence field kind), frames, visiting⟩
    | .nothing => some ⟨.answer {}, frames, visiting⟩
    | .body body =>
      if visiting.contains name then some ⟨.answer {}, frames, visiting⟩
      else some ⟨.call (.tree field body), .leave :: frames, name :: visiting⟩
  | ⟨.answer _, [], _⟩ => none
  | ⟨.answer summary, .repetition atLeastOnce :: frames, visiting⟩ =>
    some ⟨.answer (summary.repeated atLeastOnce), frames, visiting⟩
  | ⟨.answer summary, .others _ _ [] :: frames, visiting⟩ =>
    some ⟨.answer summary, frames, visiting⟩
  | ⟨.answer summary, .others join field (member :: members) :: frames, visiting⟩ =>
    some ⟨.call (.tree field member), .after join summary :: .others join field members :: frames,
      visiting⟩
  | ⟨.answer summary, .after join before :: frames, visiting⟩ =>
    some ⟨.answer (before.combine join summary), frames, visiting⟩
  | ⟨.answer summary, .leave :: frames, visiting⟩ =>
    some ⟨.answer summary, frames, visiting.tail⟩

variable (grammar : Grammar) (table : SymbolTable)

/-- One evaluation comes directly after another. -/
def Step (before after : Evaluation) : Prop := before.next? grammar table = some after

/-- One evaluation comes after another, or it is the same. -/
abbrev Steps : Evaluation → Evaluation → Prop := ReflTransGen (Step grammar table)

/-- The number of bodies inside each other that are being summarized in place of references. -/
def depth (evaluation : Evaluation) : Nat := evaluation.frames.countP Frame.isLeave

end Evaluation

/-! ## Answers -/

/-- The number of rules that are not on the stack. -/
def Grammar.unvisited (grammar : Grammar) (visiting : List String) : Nat :=
  (grammar.rules.keys.filter fun name => !visiting.contains name).length

namespace Grammar

variable {grammar : Grammar} {visiting : List String} {name : String}

/-- At first, no rule is on the stack. -/
theorem unvisited_nil (grammar : Grammar) : grammar.unvisited [] = grammar.rules.size := by
  simp [unvisited]

/-- Putting the name of a rule on the stack leaves one rule less. -/
theorem unvisited_cons (rule : name ∈ grammar.rules) (fresh : name ∉ visiting) :
    grammar.unvisited visiting = grammar.unvisited (name :: visiting) + 1 := by
  have smaller : grammar.rules.keys.filter (fun other => !(name :: visiting).contains other) =
      (grammar.rules.keys.filter fun other => !visiting.contains other).erase name := by
    rw [(Std.ExtTreeMap.nodup_keys.filter _).erase_eq_filter, List.filter_filter]
    refine List.filter_congr fun other _ => ?_
    rw [List.contains_cons, Bool.not_or]
    rfl
  have present : name ∈ grammar.rules.keys.filter fun other => !visiting.contains other := by
    simpa [fresh] using rule
  have positive := List.length_pos_of_mem present
  rw [unvisited, unvisited, smaller, List.length_erase_of_mem present]
  omega

end Grammar

/-- What references contribute, with those names on the stack. As many bodies can still go inside
each other as there are other rules. -/
abbrev Rule.expansionAt (grammar : Grammar) (table : SymbolTable) (visiting : List String) :
    Expansion :=
  expansion grammar table (grammar.unvisited visiting) visiting

/-- The answer to a call, with those names on the stack. -/
def Call.summary (grammar : Grammar) (table : SymbolTable) (visiting : List String) : Call → Summary
  | .tree field rule => rule.summarizeWith (Rule.expansionAt grammar table visiting) field
  | .wrapped field content =>
    Rule.summarizeContent (Rule.expansionAt grammar table visiting) field content
  | .reference field name => Rule.expansionAt grammar table visiting field name

namespace Call

variable {grammar : Grammar} {table : SymbolTable} {visiting : List String}
  {field : Option String} {name : String} {body : Rule}

/-- A name that is on the stack contributes nothing. -/
theorem summary_again (stands : Referent.of grammar table name = .body body)
    (again : name ∈ visiting) : (reference field name).summary grammar table visiting = {} := by
  rw [summary, Rule.expansionAt, Rule.expansion, stands]
  cases grammar.unvisited visiting with
  | zero => rfl
  | succ limit => simp [again]

/-- Another name contributes the summary of the body that it leads to, and is on the stack there. -/
theorem summary_fresh (stands : Referent.of grammar table name = .body body)
    (fresh : name ∉ visiting) :
    (reference field name).summary grammar table visiting =
      (tree field body).summary grammar table (name :: visiting) := by
  have rule := Rule.known_of_referent grammar table stands
  rw [summary, summary, Rule.expansionAt, Grammar.unvisited_cons rule fresh, Rule.expansion, stands]
  simp [fresh]

end Call

namespace Evaluation

variable {grammar : Grammar} {table : SymbolTable} {visiting : List String}

/-- A call is answered, with the stack as it was, whatever calls wait for the answer. If none does,
the evaluation has ended then. -/
def Answers (grammar : Grammar) (table : SymbolTable) (visiting : List String) (call : Call) :
    Prop :=
  ∀ frames, Steps grammar table ⟨.call call, frames, visiting⟩
    ⟨.answer (call.summary grammar table visiting), frames, visiting⟩

/-- The content of a wrapper is answered for if it is a rule that is. -/
theorem answers_wrapped {field : Option String} {content : Option Rule}
    (inner : ∀ rule, content = some rule → Answers grammar table visiting (.tree field rule)) :
    Answers grammar table visiting (.wrapped field content) := by
  intro frames
  cases content with
  | none => exact .single rfl
  | some rule => exact .head rfl (inner rule rfl frames)

/-- Members that are answered for one by one are answered for together with those before them. -/
theorem answers_others {join : Quantity → Quantity → Quantity} {field : Option String}
    {members : List Rule}
    (each : ∀ member ∈ members, Answers grammar table visiting (.tree field member))
    (before : Summary) (frames : List Frame) :
    Steps grammar table ⟨.answer before, .others join field members :: frames, visiting⟩
      ⟨.answer (Rule.summarizeRest (Rule.expansionAt grammar table visiting) field join before
        members), frames, visiting⟩ := by
  induction members generalizing before with
  | nil => exact .single rfl
  | cons member members ih =>
    have first := each member List.mem_cons_self
      (.after join before :: .others join field members :: frames)
    have rest := ih (fun other listed => each other (List.mem_cons_of_mem member listed))
      (before.combine join ((Call.tree field member).summary grammar table visiting))
    exact .head rfl (first.trans (.head rfl rest))

/-- Members that are answered for one by one are answered for together. -/
theorem answers_members {join : Quantity → Quantity → Quantity} {field : Option String}
    {members : List Rule}
    (each : ∀ member ∈ members, Answers grammar table visiting (.tree field member))
    (frames : List Frame) :
    Steps grammar table
      ⟨(Task.ofMembers join field members).1, (Task.ofMembers join field members).2 ++ frames,
        visiting⟩
      ⟨.answer (Rule.summarizeMembers (Rule.expansionAt grammar table visiting) field join members),
        frames, visiting⟩ := by
  cases members with
  | nil => exact .refl
  | cons member members =>
    have first := each member List.mem_cons_self (.others join field members :: frames)
    exact first.trans (answers_others
      (fun other listed => each other (List.mem_cons_of_mem member listed)) _ frames)

/-- Rules are answered for if references are. -/
theorem answers_tree
    (references : ∀ field name, Answers grammar table visiting (.reference field name))
    (field : Option String) (rule : Rule) : Answers grammar table visiting (.tree field rule) := by
  -- The stack is the same for all parts, since each of them leaves it as it was.
  have parts (part : Rule) (below : part ∈ rule.children) (field : Option String) :
      Answers grammar table visiting (.tree field part) :=
    have := Rule.sizeOf_lt_of_mem_children below
    answers_tree references field part
  obtain ⟨kind, value, name, content, members, named, flags, contextName⟩ := rule
  have member (field : Option String) (part : Rule) (listed : part ∈ members) :
      Answers grammar table visiting (.tree field part) :=
    parts part (List.mem_append_right _ listed) field
  have wrapped (field : Option String) : Answers grammar table visiting (.wrapped field content) :=
    answers_wrapped fun part present =>
      parts part (List.mem_append_left _ (Option.mem_toList.mpr present)) field
  intro frames
  cases kind
  case blank | pattern | token | immediateToken => exact .single rfl
  case text | aliased =>
    cases value with
    | none => exact .single rfl
    | some value => cases value <;> exact .single rfl
  case symbol =>
    cases name with
    | none => exact .single rfl
    | some name => exact .head rfl (references field name frames)
  case seq | choice => exact .head rfl (answers_members (member field) frames)
  case zeroOrMore => exact .head rfl ((wrapped field (.repetition false :: frames)).tail rfl)
  case oneOrMore => exact .head rfl ((wrapped field (.repetition true :: frames)).tail rfl)
  case field => exact .head rfl (wrapped (name.or field) frames)
  case prec | precLeft | precRight | precDynamic | reserved =>
    exact .head rfl (wrapped field frames)
termination_by sizeOf rule

/-- A reference goes on with the body that its name leads to, unless the name is on the stack. -/
theorem step_enter {field : Option String} {name : String} {body : Rule}
    (stands : Referent.of grammar table name = .body body) (fresh : name ∉ visiting)
    (frames : List Frame) :
    Step grammar table ⟨.call (.reference field name), frames, visiting⟩
      ⟨.call (.tree field body), .leave :: frames, name :: visiting⟩ := by
  simp [Step, next?, stands, fresh]

/-- References are answered for. When one goes on with a body, there is one rule less that is not on
the stack. -/
theorem answers_reference (visiting : List String) (field : Option String) (name : String) :
    Answers grammar table visiting (.reference field name) := by
  intro frames
  cases stands : Referent.of grammar table name with
  | node kind =>
    have summary : (Call.reference field name).summary grammar table visiting =
        .occurrence field kind := by
      rw [Call.summary, Rule.expansionAt, Rule.expansion, stands]
    rw [summary]
    exact .single (by simp only [Step, next?, stands])
  | nothing =>
    have summary : (Call.reference field name).summary grammar table visiting = {} := by
      rw [Call.summary, Rule.expansionAt, Rule.expansion, stands]
    rw [summary]
    exact .single (by simp only [Step, next?, stands])
  | body body =>
    by_cases again : name ∈ visiting
    · rw [Call.summary_again stands again]
      exact .single (by simp [Step, next?, stands, again])
    · -- The body is of any size, but it is answered for with one name more on the stack.
      have fewer := Grammar.unvisited_cons (Rule.known_of_referent grammar table stands) again
      have inside := answers_tree (answers_reference (name :: visiting)) field body
        (.leave :: frames)
      rw [Call.summary_fresh stands again]
      exact .head (step_enter stands again frames) (inside.tail rfl)
termination_by grammar.unvisited visiting

/-- Every call is answered, with the stack as it was, whatever calls wait for the answer. -/
theorem answers (visiting : List String) (call : Call) : Answers grammar table visiting call := by
  cases call with
  | tree field rule => exact answers_tree (answers_reference visiting) field rule
  | wrapped field content =>
    exact answers_wrapped fun rule _ => answers_tree (answers_reference visiting) field rule
  | reference field name => exact answers_reference visiting field name

/-! ## No evaluation goes on for ever -/

variable {before after : Evaluation}

/-- An evaluation comes to an end if it does so after some steps. -/
theorem acc_of_steps (steps : Steps grammar table before after)
    (ends : Acc (fun after before => Step grammar table before after) after) :
    Acc (fun after before => Step grammar table before after) before := by
  induction steps using ReflTransGen.head_induction_on with
  | refl => exact ends
  | head first _ ih =>
    refine ⟨_, fun other step => ?_⟩
    obtain rfl := Option.some.inj (first.symm.trans step)
    exact ih

/-- With an answer, an evaluation comes to an end, whatever calls wait for it. -/
theorem acc_answer (frames : List Frame) (summary : Summary) (visiting : List String) :
    Acc (fun after before => Step grammar table before after)
      ⟨.answer summary, frames, visiting⟩ := by
  induction frames generalizing summary visiting with
  | nil => exact ⟨_, fun after step => nomatch step⟩
  | cons frame frames ih =>
    cases frame with
    | repetition atLeastOnce => exact acc_of_steps (.single rfl) (ih _ visiting)
    | after join before => exact acc_of_steps (.single rfl) (ih _ visiting)
    | leave => exact acc_of_steps (.single rfl) (ih summary visiting.tail)
    | others join field members =>
      -- The members are gone through in one go, so that the frame is done with.
      have each (member : Rule) (_ : member ∈ members) :
          Answers grammar table visiting (.tree field member) := answers visiting _
      exact acc_of_steps (answers_others each summary frames) (ih _ visiting)

/-- No evaluation goes on for ever. -/
theorem wellFounded_step (grammar : Grammar) (table : SymbolTable) :
    WellFounded fun after before => Step grammar table before after := by
  refine ⟨fun ⟨task, frames, visiting⟩ => ?_⟩
  cases task with
  | call call => exact acc_of_steps (answers visiting call frames) (acc_answer frames _ visiting)
  | answer summary => exact acc_answer frames summary visiting

end Evaluation

/-! ## What is on the stack -/

namespace Grammar

variable {grammar : Grammar} {table : SymbolTable} {name : String}

/-- A name is that of a rule without nodes of its own: the symbol of the rule, if it has one, is
neither visible nor that of a supertype nor that of a token. -/
structure Unshown (grammar : Grammar) (table : SymbolTable) (name : String) : Prop where
  /-- It is the name of a rule. -/
  rule : name ∈ grammar.rules
  /-- The symbol of the rule does not show up, and it is that of a rule made of other symbols. -/
  silent : ∀ symbol, (table.ruleSymbol? name).bind table.get? = some symbol →
    ¬ symbol.visible ∧ ¬ symbol.supertype ∧ symbol.kind = .nonTerminal

/-- The rules that are hidden or inlined. -/
def concealed (grammar : Grammar) : List String :=
  grammar.rules.keys.filter fun name => isHidden name || grammar.isInlined name

/-- A name that leads to a body is that of a rule without nodes of its own. -/
theorem unshown_of_referent {body : Rule} (stands : Referent.of grammar table name = .body body) :
    grammar.Unshown table name := by
  constructor
  case rule => exact Rule.known_of_referent grammar table stands
  case silent =>
    intro symbol known
    rw [Referent.of, known] at stands
    dsimp only at stands
    split at stands
    · cases stands
    · rename_i hidden
      split at stands
      · rename_i kind
        rw [Symbol.isFindable, Bool.or_eq_true, not_or] at hidden
        exact ⟨hidden.1, hidden.2, kind⟩
      · cases stands

/-- A rule without nodes of its own is hidden or inlined. -/
theorem Unshown.mem_concealed (unshown : grammar.Unshown table name) {start : String}
    (describes : table.Describes grammar start) : name ∈ grammar.concealed := by
  obtain ⟨rule, silent⟩ := unshown
  refine List.mem_filter.mpr ⟨Std.ExtTreeMap.mem_keys.mpr rule, ?_⟩
  obtain ⟨body, present⟩ := Option.isSome_iff_exists.mp
    (Std.ExtTreeMap.mem_iff_isSome_getElem?.mp rule)
  simp only [describes.symbol_of_name, ownSymbol?, present] at silent
  by_cases inlined : grammar.isInlined name
  · rw [inlined, Bool.or_true]
  · by_cases token : isToken start name body
    · rw [if_pos token] at silent
      cases (silent _ rfl).2.2
    · rw [if_neg token, if_neg inlined] at silent
      have shown := (silent _ rfl).1
      rw [ruleSymbol, Bool.or_eq_true, not_or] at shown
      have hidden : isHidden name := by simpa using shown.2
      rw [hidden, Bool.true_or]

end Grammar

/-- Nothing is taken off the stack after a part of a rule tree. -/
theorem Task.not_isLeave_of_mem_ofRule (field : Option String) (rule : Rule) :
    ∀ frame ∈ (Task.ofRule field rule).2, ¬ frame.isLeave := by
  obtain ⟨kind, value, name, content, members, named, flags, contextName⟩ := rule
  have member (join : Quantity → Quantity → Quantity) :
      ∀ frame ∈ (Task.ofMembers join field members).2, ¬ frame.isLeave := by
    cases members <;> simp [Task.ofMembers, Frame.isLeave]
  cases kind
  case seq | choice => exact member _
  case text | aliased =>
    cases value with
    | none => simp [Task.ofRule]
    | some value => cases value <;> simp [Task.ofRule]
  case symbol => cases name <;> simp [Task.ofRule]
  all_goals simp [Task.ofRule, Frame.isLeave]

namespace Evaluation

variable {grammar : Grammar} {table : SymbolTable} {before after : Evaluation}

/-- A step leaves the stack alone, or it goes on with the body that a name leads to and puts the
name on the stack, or it is done with a body and takes the top off the stack. -/
theorem step_cases (step : Step grammar table before after) :
    (after.visiting = before.visiting ∧ after.depth = before.depth) ∨
      (∃ name body, Referent.of grammar table name = .body body ∧ name ∉ before.visiting ∧
        after.visiting = name :: before.visiting ∧ after.depth = before.depth + 1) ∨
      (after.visiting = before.visiting.tail ∧ before.depth = after.depth + 1) := by
  obtain ⟨task, frames, visiting⟩ := before
  cases task with
  | call call =>
    cases call with
    | tree field rule =>
      obtain rfl := Option.some.inj step
      have none := List.countP_eq_zero.mpr (Task.not_isLeave_of_mem_ofRule field rule)
      refine .inl ⟨rfl, ?_⟩
      rw [depth, depth, List.countP_append, none, Nat.zero_add]
    | wrapped field content =>
      cases content with
      | none | some =>
        obtain rfl := Option.some.inj step
        exact .inl ⟨rfl, rfl⟩
    | reference field name =>
      rw [Step, next?] at step
      split at step
      · obtain rfl := Option.some.inj step
        exact .inl ⟨rfl, rfl⟩
      · obtain rfl := Option.some.inj step
        exact .inl ⟨rfl, rfl⟩
      · rename_i body stands
        split at step
        · obtain rfl := Option.some.inj step
          exact .inl ⟨rfl, rfl⟩
        · rename_i fresh
          obtain rfl := Option.some.inj step
          rw [List.contains_iff_mem] at fresh
          exact .inr (.inl ⟨name, body, stands, fresh, rfl, List.countP_cons_of_pos rfl⟩)
  | answer summary =>
    cases frames with
    | nil => cases step
    | cons frame frames =>
      cases frame with
      | repetition | after =>
        obtain rfl := Option.some.inj step
        exact .inl ⟨rfl, rfl⟩
      | others join field members =>
        cases members with
        | nil | cons =>
          obtain rfl := Option.some.inj step
          exact .inl ⟨rfl, rfl⟩
      | leave =>
        obtain rfl := Option.some.inj step
        exact .inr (.inr ⟨rfl, List.countP_cons_of_pos rfl⟩)

/-- What holds of an evaluation at any time. -/
structure Sound (grammar : Grammar) (table : SymbolTable) (evaluation : Evaluation) : Prop where
  /-- No name is on the stack twice. -/
  nodup : evaluation.visiting.Nodup
  /-- The names on the stack are those of rules without nodes of their own. -/
  unshown : ∀ name ∈ evaluation.visiting, grammar.Unshown table name
  /-- There is a name on the stack for every body that is being summarized. -/
  height : evaluation.depth = evaluation.visiting.length

/-- What holds of an evaluation holds after a step. -/
theorem Sound.step (sound : before.Sound grammar table) (step : Step grammar table before after) :
    after.Sound grammar table := by
  obtain ⟨nodup, unshown, height⟩ := sound
  rcases step_cases step with ⟨same, level⟩ | ⟨name, body, stands, fresh, pushed, deeper⟩ |
    ⟨popped, shallower⟩
  · exact ⟨same ▸ nodup, same ▸ unshown, by rw [level, height, same]⟩
  · refine ⟨pushed ▸ List.nodup_cons.mpr ⟨fresh, nodup⟩, fun other listed => ?_, ?_⟩
    · rw [pushed] at listed
      rcases List.mem_cons.mp listed with rfl | below
      · exact Grammar.unshown_of_referent stands
      · exact unshown other below
    · rw [deeper, height, pushed, List.length_cons]
  · refine ⟨popped ▸ nodup.tail, fun other listed => ?_, ?_⟩
    · exact unshown other (List.mem_of_mem_tail (popped ▸ listed))
    · rw [popped, List.length_tail]
      omega

/-- What holds of an evaluation at any time holds from the start to the end. -/
theorem sound_of_steps {field : Option String} {body : Rule} {evaluation : Evaluation}
    (steps : Steps grammar table (start field body) evaluation) :
    evaluation.Sound grammar table := by
  induction steps with
  | refl => exact ⟨List.nodup_nil, fun name listed => absurd listed List.not_mem_nil, rfl⟩
  | tail _ step ih => exact ih.step step

/-- No more bodies are summarized inside each other than there are hidden or inlined rules. -/
theorem Sound.depth_le {evaluation : Evaluation} (sound : evaluation.Sound grammar table)
    {start : String} (describes : table.Describes grammar start) :
    evaluation.depth ≤ grammar.concealed.length := by
  have among : evaluation.visiting ⊆ grammar.concealed :=
    fun name listed => (sound.unshown name listed).mem_concealed describes
  rw [sound.height]
  exact (sound.nodup.subperm among).length_le

/-! ## Summaries come to an end -/

/-- Summarizing a rule tree ends, with its summary and with the stack empty again. At any time the
names on the stack are distinct, they are those of rules without nodes of their own, and there are
no more of them than hidden or inlined rules. Every call that is made is answered with the stack as
it was, whatever calls wait for the answer. So the members of a sequence or a choice are answered
for as if each of them were alone. -/
theorem summarizing_ends {grammar : Grammar} {table : SymbolTable}
    (built : SymbolTable.build grammar = .ok table) (field : Option String) (body : Rule) :
    (WellFounded fun after before => Step grammar table before after) ∧
      Steps grammar table (start field body)
        ⟨.answer (body.summarizeWith (Rule.expansion grammar table grammar.rules.size []) field),
          [], []⟩ ∧
      (∀ evaluation, Steps grammar table (start field body) evaluation →
        evaluation.Sound grammar table ∧ evaluation.depth ≤ grammar.concealed.length ∧
          ∀ call, evaluation.task = .call call → Answers grammar table evaluation.visiting call) ∧
      ∀ visiting field rule,
        (rule.kind = .seq → (Call.tree field rule).summary grammar table visiting =
          .joined Quantity.followedBy
            (rule.members.map fun member =>
              (Call.tree field member).summary grammar table visiting)) ∧
        (rule.kind = .choice → (Call.tree field rule).summary grammar table visiting =
          .joined Quantity.either
            (rule.members.map fun member =>
              (Call.tree field member).summary grammar table visiting)) := by
  obtain ⟨entry, describes⟩ := SymbolTable.describes_of_build built
  refine ⟨wellFounded_step grammar table, ?_, fun evaluation steps => ?_, ?_⟩
  · rw [← grammar.unvisited_nil]
    exact answers [] (.tree field body) []
  · have sound := sound_of_steps steps
    exact ⟨sound, sound.depth_le describes, fun call _ => answers evaluation.visiting call⟩
  · rintro visiting field ⟨kind, value, name, content, members, named, flags, contextName⟩
    constructor
    · rintro rfl
      exact Rule.summarizeMembers_eq_joined ..
    · rintro rfl
      exact Rule.summarizeMembers_eq_joined ..

/-- Groups and blocks that contain each other. Neither has nodes of its own: blocks are hidden, and
groups are inlined. -/
def nests : Grammar :=
  { Grammar.empty "nests"
      |>.withRule "source_file" (.symbol "_block")
      |>.withRule "_block" (.choice [.symbol "group", .symbol "item"])
      |>.withRule "group" (.seq [.text "(", .field "inner" (.symbol "_block"), .text ")"])
      |>.withRule "item" (.text "x") with
    inlined := some ["group"] }

/-- Summarizing the entry rule of the nests ends, although blocks lead to groups and groups to
blocks. Both are on the stack at one time, and never more than that. -/
theorem summarizing_nests :
    ∃ table, SymbolTable.build nests = .ok table ∧
      Steps nests table (start none (.symbol "_block"))
        ⟨.answer (Rule.summary nests table (.symbol "_block")), [], []⟩ ∧
      (∃ evaluation, Steps nests table (start none (.symbol "_block")) evaluation ∧
        evaluation.visiting = ["group", "_block"]) ∧
      ∀ evaluation, Steps nests table (start none (.symbol "_block")) evaluation →
        evaluation.depth ≤ 2 := by
  obtain ⟨table, built, _⟩ := exists_of_any
    (show (SymbolTable.build nests).toOption.any fun table => table.size = 6 by decide +kernel)
  obtain ⟨entry, describes⟩ := SymbolTable.describes_of_build built
  obtain ⟨_, ends, sound, _⟩ := summarizing_ends built none (.symbol "_block")
  refine ⟨table, built, ends, ?_, fun evaluation steps => ?_⟩
  · have block : Referent.of nests table "_block" =
        .body (.choice [.symbol "group", .symbol "item"]) := by
      rw [describes.referent]
      decide +kernel
    have group : Referent.of nests table "group" =
        .body (.seq [.text "(", .field "inner" (.symbol "_block"), .text ")"]) := by
      rw [describes.referent]
      decide +kernel
    refine ⟨_, .head rfl (.head (step_enter block List.not_mem_nil _)
      (.head rfl (.head rfl (.single (step_enter group (by decide) _))))), rfl⟩
  · have few : nests.concealed.length = 2 := by decide +kernel
    exact few ▸ (sound evaluation steps).2.1

end Evaluation

end GrammarAtlas
