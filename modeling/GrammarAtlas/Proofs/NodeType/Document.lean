import GrammarAtlas.NodeType.Reader
import GrammarAtlas.NodeType.Writer
import GrammarAtlas.Proofs.ByName
import GrammarAtlas.Proofs.Json.RoundTrip

/-!
# Documents with node types

Node types are read back from the document that they are written to
(`NodeType.document_round_trip`). The layout of each record is met member by member, with the levels
that lists and objects take: a document nests them six deep, well within the limit.
-/

namespace GrammarAtlas

open Json

namespace NodeKind

/-- A kind of node is read back. -/
theorem reads {depth : Nat} (deep : depth ≠ 0) (kind : NodeKind) :
    Reads (layout.read depth) kind.writer kind := by
  have steps : Steps layout.member layout.draft
      [("type", .text kind.name), ("named", .flag kind.named)]
      { name := some kind.name, named := some kind.named } :=
    .step (member_of_field rfl rfl (reads_text kind.name))
      (.step (member_of_field rfl rfl (reads_flag kind.named)) .stay)
  exact reads_object deep steps rfl

/-- A list of kinds is read back. -/
theorem reads_readList {depth : Nat} (deep : 1 < depth) (kinds : List NodeKind) :
    Reads (readList depth) (listWriter kinds) kinds :=
  reads_list (by omega) fun kind _ => reads (by omega) kind

end NodeKind

namespace Occupancy

/-- What may occupy a field is read back. -/
theorem reads {depth : Nat} (deep : 2 < depth) (occupancy : Occupancy) :
    Reads (read depth) occupancy.writer occupancy := by
  have kinds : Reads (NodeKind.readList (depth - 1)) (NodeKind.listWriter occupancy.kinds)
      occupancy.kinds := NodeKind.reads_readList (by omega) occupancy.kinds
  have steps : Steps (layout (depth - 1)).member (layout (depth - 1)).draft
      [("multiple", .flag occupancy.multiple), ("required", .flag occupancy.required),
        ("types", NodeKind.listWriter occupancy.kinds)]
      { multiple := some occupancy.multiple, required := some occupancy.required,
        kinds := some occupancy.kinds } :=
    .step (member_of_field rfl rfl (reads_flag occupancy.multiple))
      (.step (member_of_field rfl rfl (reads_flag occupancy.required))
        (.step (member_of_field rfl rfl kinds) .stay))
  exact reads_object (by omega) steps rfl

/-- The fields of a node type are read back, in the order of their names. -/
theorem reads_table {depth : Nat} (deep : 3 < depth) (fields : ByName Occupancy) :
    Reads (table depth (read (depth - 1))) (tableWriter fields) fields.toList :=
  Json.reads_table (by omega) fun entry _ => reads (by omega) entry.2

end Occupancy

namespace NodeType

/-- The draft of a node type that has been read. -/
def Draft.ofEntry (entry : NodeType) : Draft where
  name := some entry.kind.name
  named := some entry.kind.named
  root := entry.root.map some
  extra := entry.extra.map some
  fields := entry.fields.map fun fields => some fields.toList
  children := entry.children.map some
  subtypes := entry.subtypes.map some

/-- What has been read for a value that may be absent is that value. -/
theorem join_map_some {α : Type} (value : Option α) : (value.map some).join = value := by
  cases value <;> rfl

/-- The draft of a node type that has been read makes the node type. -/
theorem build_ofEntry (entry : NodeType) : (Draft.ofEntry entry).build = .ok entry := by
  have fields : ((entry.fields.map fun fields => some fields.toList).join.map fun fields =>
      (.ofList fields : ByName Occupancy)) = entry.fields := by
    cases entry.fields with
    | none => rfl
    | some fields => exact congrArg some (ByName.ofList_toList fields)
  simp only [Draft.ofEntry, Draft.build, join_map_some, fields]

/-- Reading the properties of a node type fills a draft with them, one property after another. -/
theorem steps_ofEntry {depth : Nat} (deep : 4 < depth) (entry : NodeType) :
    Steps (layout (depth - 1)).member {}
      ([("type", .text entry.kind.name), ("named", .flag entry.kind.named)] ++
        Writer.ifPresent "root" .flag entry.root ++
        Writer.ifPresent "extra" .flag entry.extra ++
        Writer.ifPresent "fields" Occupancy.tableWriter entry.fields ++
        Writer.ifPresent "children" Occupancy.writer entry.children ++
        Writer.ifPresent "subtypes" NodeKind.listWriter entry.subtypes)
      (.ofEntry entry) := by
  -- What has been read so far is the draft of the node type that has only these properties.
  obtain ⟨kind, root, extra, fields, children, subtypes⟩ := entry
  have withKind : Steps (layout (depth - 1)).member {}
      [("type", .text kind.name), ("named", .flag kind.named)] (.ofEntry { kind }) :=
    .step (member_of_field rfl rfl (reads_text kind.name))
      (.step (member_of_field rfl rfl (reads_flag kind.named)) .stay)
  have withRoot : Steps (layout (depth - 1)).member (.ofEntry { kind })
      (Writer.ifPresent "root" .flag root) (.ofEntry { kind, root }) :=
    steps_ifPresent rfl rfl reads_flag (by cases root <;> rfl)
  have withExtra : Steps (layout (depth - 1)).member (.ofEntry { kind, root })
      (Writer.ifPresent "extra" .flag extra) (.ofEntry { kind, root, extra }) :=
    steps_ifPresent rfl rfl reads_flag (by cases extra <;> rfl)
  have withFields : Steps (layout (depth - 1)).member (.ofEntry { kind, root, extra })
      (Writer.ifPresent "fields" Occupancy.tableWriter fields)
      (.ofEntry { kind, root, extra, fields }) :=
    steps_ifPresent rfl rfl (Occupancy.reads_table (by omega)) (by cases fields <;> rfl)
  have withChildren : Steps (layout (depth - 1)).member (.ofEntry { kind, root, extra, fields })
      (Writer.ifPresent "children" Occupancy.writer children)
      (.ofEntry { kind, root, extra, fields, children }) :=
    steps_ifPresent rfl rfl (Occupancy.reads (by omega)) (by cases children <;> rfl)
  have withSubtypes : Steps (layout (depth - 1)).member
      (.ofEntry { kind, root, extra, fields, children })
      (Writer.ifPresent "subtypes" NodeKind.listWriter subtypes)
      (.ofEntry { kind, root, extra, fields, children, subtypes }) :=
    steps_ifPresent rfl rfl (NodeKind.reads_readList (by omega)) (by cases subtypes <;> rfl)
  exact ((((withKind.append withRoot).append withExtra).append withFields).append
    withChildren).append withSubtypes

/-- A node type is read back. -/
theorem reads {depth : Nat} (deep : 4 < depth) (entry : NodeType) :
    Reads (read depth) entry.writer entry :=
  reads_object (by omega) (steps_ofEntry deep entry) (build_ofEntry entry)

/-- A list of node types is read back. -/
theorem reads_readList {depth : Nat} (deep : 5 < depth) (entries : List NodeType) :
    Reads (readList depth) (.list (entries.map writer)) entries :=
  reads_list (by omega) fun entry _ => reads (by omega) entry

/-- A document is read as the node types that are written to it. -/
theorem ofDocument_document (entries : List NodeType) :
    ofDocument (document entries) = .ok entries := by
  have reads : Reads (readList maxDepth) (.list (entries.map writer)) entries :=
    reads_readList (by decide) entries
  rw [ofDocument, document, readDocument_of_reads reads]

/-- Node types are read back from the document that they are written to, so different node types
have different documents; and what any document is read as and then written to is read and written
the same again. -/
theorem document_round_trip :
    (∀ entries, ofDocument (document entries) = .ok entries) ∧
      (∀ entries entries', document entries = document entries' ↔ entries = entries') ∧
      ∀ text, (do document <$> ofDocument (← document <$> ofDocument text)) =
        document <$> ofDocument text := by
  refine ⟨ofDocument_document, fun entries entries' => ⟨fun same => ?_, congrArg document⟩, ?_⟩
  · have read := congrArg ofDocument same
    rw [ofDocument_document, ofDocument_document] at read
    exact Except.ok.inj read
  · intro text
    cases read : ofDocument text with
    | error error => rfl
    | ok entries => exact congrArg (document <$> ·) (ofDocument_document entries)

end NodeType

end GrammarAtlas
