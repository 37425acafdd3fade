import GrammarAtlas.Proofs.NodeType.Correspondence
import GrammarAtlas.Proofs.NodeType.Structure
import GrammarAtlas.Proofs.Symbol.Fields

/-!
# References between entries

The entry of a rule names the kinds of node that may stand in its fields and among its children. All
of these have entries themselves (`NodeType.resolves_of_build`). A summary enters only rules that
are no tokens, and no token inside these (`Descends.stands`). Whatever node it meets there has a
symbol: literals outside tokens and the kinds that aliases give are numbered wherever they stand,
and references are nodes only where their names have symbols that can be found.
-/

namespace GrammarAtlas

namespace Rule

variable {referent : String → Referent} {rule root part : Rule}

/-- What is directly below an exposed node that is no token is exposed. -/
theorem Exposed.child (exposed : rule.Exposed root) (assembled : ¬ rule.kind.isWhole)
    (among : part ∈ rule.children) : part.Exposed root := by
  induction exposed with
  | root => exact .inside assembled among .root
  | inside outer inside _ ih => exact .inside outer inside ih

/-- An exposed node is a node of the tree. -/
theorem Exposed.mem_walk (exposed : rule.Exposed root) : rule ∈ root.walk := by
  induction exposed with
  | root =>
    rw [walk_eq]
    exact List.mem_cons_self
  | @inside tree part _ among _ ih =>
    rw [walk_eq]
    exact List.mem_cons_of_mem _ (List.mem_flatMap.mpr ⟨part, among, ih⟩)

/-- A derivation enters nothing below a token. -/
theorem parts_eq_nil (whole : rule.kind.isWhole) : (rule.shape referent).parts = [] := by
  rw [shape]
  cases kind : rule.kind <;> simp only [kind, RuleKind.isWhole, Bool.false_eq_true] at whole ⊢
  case text => cases rule.literal <;> rfl
  case pattern | token | immediateToken => rfl

end Rule

/-! ## Where summaries go -/

namespace Grammar

variable {grammar : Grammar} {rule body part : Rule} {field : Option String} {name : String}
  {kind : NodeKind}

/-- The tree is the body of a rule that is no token. -/
def Assembles (grammar : Grammar) (body : Rule) : Prop :=
  ∃ name, grammar.rules[name]? = some body ∧ (grammar.isEntry name || !body.isLexical)

/-- A node stands outside all tokens in the body of a rule that is no token, and the field around it
is one that is labelled in some rule. -/
structure Stands (grammar : Grammar) (field : Option String) (node : Rule) : Prop where
  /-- It stands in the body of a rule that is no token, outside all tokens. -/
  exposed : ∃ body, grammar.Assembles body ∧ node.Exposed body
  /-- The field around it is one of the fields. -/
  known : ∀ name, field = some name → name ∈ grammar.fieldNames

/-- A body stands outside all fields. -/
theorem Assembles.stands (assembles : grammar.Assembles body) : grammar.Stands none body :=
  ⟨⟨body, assembles, .root⟩, fun _ field => nomatch field⟩

/-- A body that a reference is replaced by is that of a rule that is no token. -/
theorem assembles_of_referent (stands : grammar.referent name = .body body) :
    grammar.Assembles body := by
  have rule := rule_of_referent stands
  refine ⟨name, rule, ?_⟩
  by_contra token
  have lexical : (!grammar.isEntry name && body.isLexical) = true := by simpa using token
  rw [referent, rule] at stands
  simp only [lexical, if_true] at stands
  split at stands <;> cases stands

/-- What a derivation enters from a node stands there too. -/
theorem Stands.enter (stands : grammar.Stands field rule)
    (entered : part ∈ (rule.shape grammar.referent).parts) :
    grammar.Stands ((rule.shape grammar.referent).fieldBelow field) part := by
  obtain ⟨⟨body, assembles, exposed⟩, known⟩ := stands
  have composed : ¬ rule.kind.isWhole := by
    intro whole
    rw [Rule.parts_eq_nil whole] at entered
    exact List.not_mem_nil entered
  have below := Rule.mem_children_of_mem_parts _ entered
  refine ⟨⟨body, assembles, exposed.child composed below⟩, fun name inside => ?_⟩
  cases shape : rule.shape grammar.referent with
  | labelled label content =>
    rw [shape] at inside
    obtain rfl : label = name := Option.some.inj inside
    obtain ⟨target, listed, _⟩ := assembles
    have labelled := Rule.fieldName_of_shape _ shape
    exact mem_fieldNames_iff.mpr ⟨target, body, listed, rule, exposed.mem_walk, labelled⟩
  | _ =>
    rw [shape] at inside
    exact known name inside

/-- The body that replaces a reference stands in the same field. -/
theorem Stands.replaced (stands : grammar.Stands field rule)
    (shape : rule.shape grammar.referent = .replaced name body) : grammar.Stands field body := by
  have assembles := assembles_of_referent (Rule.referent_of_shape _ shape)
  exact ⟨⟨body, assembles, .root⟩, stands.known⟩

/-- There are nodes of every kind that a derivation finds, or an alias gives it. -/
theorem Stands.knows_or_gives (stands : grammar.Stands field rule)
    (shape : rule.shape grammar.referent = .node kind) :
    grammar.Knows kind ∨ ∃ wrapper, grammar.Gives wrapper kind := by
  obtain ⟨body, ⟨name, listed, assembled⟩, exposed⟩ := stands.exposed
  rcases Rule.source_of_shape _ shape with ⟨words, text, rfl⟩ | gives | ⟨target, refers⟩
  · have spelled : words ∈ body.literals := Rule.mem_literals_iff.mpr ⟨rule, exposed, text⟩
    exact .inl (.literal (.inl ⟨name, body, listed, assembled, spelled⟩))
  · have within := Rule.mem_walk_iff.mp exposed.mem_walk
    exact .inr ⟨rule, name, body, listed, within, gives⟩
  · obtain rfl : kind = ⟨target, true⟩ := node_of_referent refers
    exact .inl (.reference refers)

end Grammar

/-- Wherever a derivation comes from the body of a rule that is no token, it stands in such a body
outside all tokens. -/
theorem Descends.stands {grammar : Grammar} {field inner : Option String} {rule last : Rule}
    {trail : Trail} (way : Descends grammar.referent field rule trail inner last)
    (stands : grammar.Stands field rule) : grammar.Stands inner last := by
  induction way with
  | here => exact stands
  | enter entered _ ih => exact ih (stands.enter entered)
  | replaced shape _ ih => exact ih (stands.replaced shape)

/-! ## What entries list -/

/-- An entry without a structure lists nothing. -/
theorem NodeType.occupancy?_eq_none {entry : NodeType} (unlabelled : entry.fields = none)
    (childless : entry.children = none) (place : Option String) :
    entry.occupancy? place = none := by
  cases place with
  | none => exact childless
  | some name => rw [occupancy?, unlabelled, Option.bind_none]

namespace SymbolTable

namespace Describes

variable {table : SymbolTable} {grammar : Grammar} {start : String} {kind : NodeKind}
  {entry : NodeType} {place : Option String} {occupancy : Occupancy}

/-- A kind of node that there is apart from aliases has a findable symbol. -/
theorem exists_symbol_of_knows (describes : table.Describes grammar start)
    (knows : grammar.Knows kind) :
    ∃ symbol ∈ table.symbols, symbol.isFindable ∧ symbol.node = kind := by
  have first := describes.isSome_find?_plainEntries.mpr knows
  obtain ⟨id, found⟩ := Option.isSome_iff_exists.mp first
  have found := Numbering.find?_append grammar.aliasEntries found
  rw [← Grammar.entries_eq, ← describes.numbering] at found
  exact Numbering.exists_of_find? (Option.isSome_iff_exists.mpr ⟨id, found⟩)

/-- The kinds with findable symbols are those that there are apart from aliases and those that
aliases give. -/
theorem exists_findable_iff (describes : table.Describes grammar start) :
    (∃ symbol ∈ table.symbols, symbol.isFindable ∧ symbol.node = kind) ↔
      grammar.Knows kind ∨ ∃ wrapper, grammar.Gives wrapper kind := by
  constructor
  · rintro ⟨symbol, listed, findable, rfl⟩
    rw [symbols, describes.numbering] at listed
    rcases Numbering.mem_symbols_ofEntries listed with rfl | own | shared
    · cases findable
    · have known := Grammar.own_mem_entries.mp own
      rw [Grammar.node_of_ownSymbol? known]
      exact .inl (.reference (describes.referent_eq_node_iff.mpr ⟨symbol, known, findable⟩))
    · rw [Grammar.entries_eq] at shared
      rcases List.mem_append.mp shared with plain | aliased
      · obtain ⟨words, rfl⟩ := Grammar.literal_of_shared plain
        exact .inl (.literal ((Grammar.literal_mem_plainEntries describes.entry).mp plain))
      · obtain ⟨kind, rfl⟩ := Grammar.alternative_of_shared aliased
        exact .inr (Grammar.alternative_mem_aliasEntries.mp aliased)
  · rintro (knows | ⟨wrapper, gives⟩)
    · exact describes.exists_symbol_of_knows knows
    · exact describes.exists_symbol_of_gives gives

/-- An entry lists only what the summary of the body of a rule that is no token holds. -/
theorem exists_body_of_occupancy? (describes : table.Describes grammar start)
    (listed : entry ∈ NodeType.listing grammar table)
    (occupied : entry.occupancy? place = some occupancy) :
    ∃ body, grammar.Assembles body ∧
      entry.occupancy? place = (body.slotOf grammar table none place).occupancy? := by
  obtain ⟨id, symbol, here, made⟩ := NodeType.exists_numbered listed
  have among := Array.mem_of_getElem? here
  cases NodeType.made_of_ofSymbol? made with
  | plain _ _ _ unlabelled childless | unstructured _ _ unlabelled childless =>
    rw [NodeType.occupancy?_eq_none unlabelled childless] at occupied
    cases occupied
  | @rule body bare kind _ _ rule =>
    have known := describes.ownSymbol_of_nonTerminal among kind
    have composed : ¬ Grammar.isToken start symbol.node.name body := by
      intro token
      simp only [Grammar.ownSymbol?, rule, token, if_true, Option.some.injEq] at known
      rw [← known] at kind
      cases kind
    have assembled := (Grammar.not_isToken_iff describes.entry _ body).mp composed
    exact ⟨body, ⟨_, rule, assembled⟩, NodeType.occupancy?_withSummary bare _ place⟩
  | @renamed body bare _ first =>
    obtain ⟨_, _, _, _, ⟨_, target, _, rule, assembled⟩, _⟩ :=
      describes.aliasedBody?_eq_some_iff.mp first
    exact ⟨body, ⟨target, rule, assembled⟩, NodeType.occupancy?_withSummary bare _ place⟩

/-- A node that a derivation finds in such a body is of the kind of a findable symbol, and the field
around it is one of the fields of the table. -/
theorem resolves_of_leads (describes : table.Describes grammar start) {body : Rule} {trail : Trail}
    {emission : Emission} (assembles : grammar.Assembles body)
    (leads : Leads (Referent.of grammar table) none body trail emission) :
    (∃ symbol ∈ table.symbols, symbol.isFindable ∧ symbol.node = emission.node) ∧
      ∀ name, emission.field = some name → (table.fieldId? name).isSome := by
  rw [describes.referent] at leads
  obtain ⟨last, way, shape⟩ := leads
  have stands := way.stands assembles.stands
  constructor
  · rcases stands.knows_or_gives shape with knows | ⟨wrapper, gives⟩
    · exact describes.exists_symbol_of_knows knows
    · exact describes.exists_symbol_of_gives gives
  · intro name inside
    have known := stands.known name inside
    rw [isSome_fieldId?_iff, describes.fields]
    exact List.mem_toArray.mpr known

/-- A kind with a findable symbol is found in the table. -/
theorem isSome_idForNodeKind? (describes : table.Describes grammar start)
    (numbered : ∃ symbol ∈ table.symbols, symbol.isFindable ∧ symbol.node = kind) :
    (table.idForNodeKind? kind).isSome := by
  by_cases failure : kind = Symbol.error.node
  · rw [idForNodeKind?, if_pos failure]
    rfl
  · exact (describes.isSome_idForNodeKind?_iff failure).mpr numbered

end Describes

end SymbolTable

/-- What is listed for a slot is at least one kind, and the kinds are strictly in order. -/
theorem Slot.kinds_of_occupancy? {slot : Slot} {occupancy : Occupancy}
    (listed : slot.occupancy? = some occupancy) :
    occupancy.kinds ≠ [] ∧
      occupancy.kinds.Pairwise fun kind other => kind.compare other = .lt := by
  obtain ⟨kind, among⟩ := slot.isSome_occupancy?.mp (Option.isSome_iff_exists.mpr ⟨_, listed⟩)
  have filled : kind ∈ occupancy.kinds := ((eq_of_occupancy? listed).2.2 kind).mpr among
  refine ⟨List.ne_nil_of_mem filled, ?_⟩
  rw [occupancy?] at listed
  obtain ⟨_, same⟩ := Option.ite_none_left_eq_some.mp listed
  rw [← Option.some.inj same]
  exact Std.ExtTreeSet.ordered_toList

namespace NodeType

/-- What an entry lists for a place, a field or the children outside all fields, can be looked up:
the place if it is a field, and every kind that is listed there. -/
structure Resolves (table : SymbolTable) (entries : List NodeType) (place : Option String)
    (occupancy : Occupancy) : Prop where
  /-- Some kind is listed. -/
  nonempty : occupancy.kinds ≠ []
  /-- The kinds are strictly in order: by name, and anonymous before named. -/
  increasing : occupancy.kinds.Pairwise fun kind other => kind.compare other = .lt
  /-- Every kind has an entry, and a look-up of it finds a symbol. -/
  described : ∀ kind ∈ occupancy.kinds,
    (∃ target ∈ entries, target.kind = kind) ∧ (table.idForNodeKind? kind).isSome
  /-- Children outside all fields are named. -/
  named : place = none → ∀ kind ∈ occupancy.kinds, kind.named
  /-- A field has a number. -/
  numbered : ∀ name, place = some name → (table.fieldId? name).isSome

/-- Everything that the entries of a listing refer to is described by the listing and the table. -/
theorem resolves_of_build {grammar : Grammar} {table : SymbolTable} {entry : NodeType}
    {place : Option String} {occupancy : Occupancy} (built : SymbolTable.build grammar = .ok table)
    (listed : entry ∈ listing grammar table)
    (occupied : entry.occupancy? place = some occupancy) :
    Resolves table (listing grammar table) place occupancy := by
  obtain ⟨start, describes⟩ := SymbolTable.describes_of_build built
  obtain ⟨body, assembles, slots⟩ := describes.exists_body_of_occupancy? listed occupied
  have found {kind : NodeKind} (among : kind ∈ occupancy.kinds) :
      ∃ trail emission, Leads (Referent.of grammar table) none body trail emission ∧
        emission.isIn place ∧ emission.node = kind := by
    obtain ⟨trail, emission, leads, _, isIn, node⟩ :=
      (lists_iff slots kind).mp ⟨occupancy, occupied, among⟩
    exact ⟨trail, emission, leads, isIn, node⟩
  obtain ⟨nonempty, increasing⟩ := Slot.kinds_of_occupancy? (slots.symm.trans occupied)
  constructor
  case nonempty => exact nonempty
  case increasing => exact increasing
  case described =>
    intro kind among
    obtain ⟨trail, emission, leads, _, rfl⟩ := found among
    have symbol := (describes.resolves_of_leads assembles leads).1
    exact ⟨describes.exists_entry_iff.mpr symbol, describes.isSome_idForNodeKind? symbol⟩
  case named =>
    rintro rfl kind among
    obtain ⟨_, emission, _, isIn, rfl⟩ := found among
    rw [Emission.isIn, Bool.and_eq_true, Option.isSome_none, Bool.false_or] at isIn
    exact isIn.2
  case numbered =>
    rintro name rfl
    obtain ⟨kind, among⟩ := List.exists_mem_of_ne_nil _ nonempty
    obtain ⟨trail, emission, leads, isIn, _⟩ := found among
    rw [Emission.isIn, Bool.and_eq_true, decide_eq_true_eq] at isIn
    exact (describes.resolves_of_leads assembles leads).2 name isIn.1

/-- The word that is called and the statements of a source file are described. -/
theorem resolves_statements :
    ∃ table, SymbolTable.build SymbolTable.statements = .ok table ∧
      ∃ call ∈ listing SymbolTable.statements table,
        ∃ occupancy, call.occupancy? (some "callee") = some occupancy ∧
          occupancy.kinds = [⟨"word", true⟩] ∧
          Resolves table (listing SymbolTable.statements table) (some "callee") occupancy := by
  obtain ⟨table, built, checked⟩ := exists_of_any
    (show (SymbolTable.build SymbolTable.statements).toOption.any fun table =>
      (listing SymbolTable.statements table).any fun entry =>
        (entry.occupancy? (some "callee")).any fun occupancy =>
          occupancy.kinds = [⟨"word", true⟩] by
      decide +kernel)
  obtain ⟨call, listed, checked⟩ := List.any_eq_true.mp checked
  obtain ⟨occupancy, occupied, kinds⟩ := (Option.any_eq_true _ _).mp checked
  exact ⟨table, built, call, listed, occupancy, occupied, of_decide_eq_true kinds,
    resolves_of_build built listed occupied⟩

end NodeType

end GrammarAtlas
