import GrammarAtlas.Proofs.Json.Record

/-!
# Reading back what is written

A reader undoes a writer on a value (`Reads`) if it takes what the writer writes from the front of
the characters, whatever follows, and gives the value. Each combinator of readers keeps this law
with the combinator of writers beside it: texts, truth values, lists, tables and records. What the
writer puts for a text is one of its spellings, so that part of the law is a case of decoding
(`SpellsText.readText`).

An object is read member by member, so its law follows from what each member does to the state of
its reader (`Steps`).
-/

namespace GrammarAtlas.Json

/-! ## Blanks -/

/-- A line break and its indentation are blanks. -/
theorem skipBlanks_newLine (level : Nat) (rest : List Char) :
    skipBlanks (Writer.newLine level ++ rest) = skipBlanks rest := by
  have spaces (count : Nat) : skipBlanks (List.replicate count ' ' ++ rest) = skipBlanks rest := by
    induction count with
    | zero => rfl
    | succ count ih => exact ih
  exact spaces (2 * level)

/-! ## Texts -/

/-- A text is read back from behind its opening quote. -/
theorem readText_escaped (value : String) (rest : List Char) :
    readText (value.toList.flatMap escaped ++ '"' :: rest) = .ok (value, rest) := by
  obtain ⟨inner, begins, read⟩ := (spellsText_text value 0).readText rest
  have written : Writer.text value 0 ++ rest =
      '"' :: (value.toList.flatMap escaped ++ '"' :: rest) := by simp [Writer.text]
  rw [(List.cons.inj (written.symm.trans begins)).2, read]

/-! ## Values -/

/-- The reader gives the value from what the writer writes, whatever follows. -/
structure Reads {α : Type} (read : Reader α) (write : Writer) (value : α) : Prop where
  /-- What is written begins as a value does. -/
  opens : ∀ level, Opens (write level)
  /-- A space in front of it makes no difference. -/
  blank : ∀ rest, read (' ' :: rest) = read rest
  /-- It is taken from the front, and nothing else is. -/
  exact : ∀ level rest, read (write level ++ rest) = .ok (value, rest)

section

variable {α : Type} {read : Reader α} {write : Writer} {value : α}

/-- Texts are read back. -/
theorem reads_text (value : String) : Reads text (.text value) value where
  opens _ := ⟨'"', _, rfl, by decide, by decide, by decide⟩
  blank _ := rfl
  exact level rest := by
    have written : Writer.text value level ++ rest =
        '"' :: (value.toList.flatMap escaped ++ '"' :: rest) := by
      simp [Writer.text]
    rw [written]
    exact readText_escaped value rest

/-- Truth values are read back. -/
theorem reads_flag (value : Bool) : Reads flag (.flag value) value where
  opens level := by
    cases value
    · exact ⟨'f', _, rfl, by decide, by decide, by decide⟩
    · exact ⟨'t', _, rfl, by decide, by decide, by decide⟩
  blank _ := rfl
  exact level rest := by
    cases value
    · rfl
    · rfl

/-- A value is read back where null may stand instead of it. -/
theorem Reads.orNull (reads : Reads read write value) : Reads (orNull read) write (some value) where
  opens := reads.opens
  blank _ := rfl
  exact level rest := by
    have opens := ((reads.opens level).append rest).skipBlanks_eq
    have exact := reads.exact level rest
    obtain ⟨char, others, written, _, other, _⟩ := reads.opens level
    rw [written, List.cons_append] at opens exact ⊢
    rw [Json.orNull, opens]
    split
    · rename_i same
      exact absurd (List.cons.inj same).1 other
    · rw [exact]
      rfl

/-- A value is read back from behind a colon. -/
theorem Reads.afterColon (reads : Reads read write value) (level : Nat) (rest : List Char) :
    afterColon read (':' :: ' ' :: (write level ++ rest)) = .ok (value, rest) := by
  have behind : Json.afterColon read (':' :: ' ' :: (write level ++ rest)) =
      read (' ' :: (write level ++ rest)) := rfl
  rw [behind, reads.blank, reads.exact]

end

/-! ## Lists -/

/-- Parts on lines of their own, with commas between them. -/
def joined (level : Nat) (parts : List Writer) : List Char :=
  (',' :: Writer.newLine level).intercalate (parts.map fun part => part level)

/-- A single part is joined to nothing. -/
theorem joined_singleton (level : Nat) (part : Writer) : joined level [part] = part level := by
  simp [joined, List.intercalate]

/-- A part is joined to the next one by a comma. -/
theorem joined_cons (level : Nat) (part next : Writer) (parts : List Writer) :
    joined level (part :: next :: parts) =
      part level ++ ',' :: (Writer.newLine level ++ joined level (next :: parts)) := by
  simp [joined, List.intercalate]

/-- Brackets around nothing. -/
theorem bracketed_nil (opening closing : Char) (level : Nat) (rest : List Char) :
    Writer.bracketed opening closing [] level ++ rest = opening :: closing :: rest := rfl

/-- Brackets around some parts. -/
theorem bracketed_cons (opening closing : Char) (part : Writer) (parts : List Writer) (level : Nat)
    (rest : List Char) :
    Writer.bracketed opening closing (part :: parts) level ++ rest =
      opening :: (Writer.newLine (level + 1) ++ (joined (level + 1) (part :: parts) ++
        (Writer.newLine level ++ closing :: rest))) := by
  simp [Writer.bracketed, joined]

/-- There are no more parts than characters in which they are written. -/
theorem length_le_joined {level : Nat} {parts : List Writer}
    (opens : ∀ part ∈ parts, Opens (part level)) : parts.length ≤ (joined level parts).length := by
  induction parts with
  | nil => exact Nat.zero_le _
  | cons part parts ih =>
    have others := ih fun other listed => opens other (List.mem_cons_of_mem _ listed)
    cases parts with
    | nil =>
      obtain ⟨char, rest, written, _⟩ := opens part List.mem_cons_self
      rw [joined_singleton, written, List.length_cons, List.length_cons]
      exact Nat.succ_le_succ (Nat.zero_le _)
    | cons next parts =>
      rw [List.length_cons, joined_cons]
      simp only [List.length_append, List.length_cons] at others ⊢
      omega

/-- Joined parts begin as the first one does. -/
theorem joined_opens {level : Nat} {part : Writer} (opens : Opens (part level))
    (parts : List Writer) : Opens (joined level (part :: parts)) := by
  cases parts with
  | nil =>
    rw [joined_singleton]
    exact opens
  | cons next parts =>
    rw [joined_cons]
    exact opens.append _

section

variable {α : Type} {item : Reader α} {counts : List Char} {done : List α} {value : α}
  {rest : List Char}

/-- The items of a list are read back one by one. -/
theorem moreItems_exact {write : α → Writer} {values : List α} (level : Nat)
    (reads : ∀ other ∈ value :: values, Reads item (write other) other)
    (enough : values.length < counts.length) :
    moreItems item counts done (joined (level + 1) ((value :: values).map write) ++
        (Writer.newLine level ++ ']' :: rest)) =
      .ok (done.reverse ++ value :: values, rest) := by
  -- On the items behind the first one: each comma takes one from the count.
  induction values generalizing value done counts with
  | nil =>
    obtain ⟨count, counts, rfl⟩ := List.exists_cons_of_length_pos enough
    rw [List.map_singleton, joined_singleton]
    rw [moreItems_last ((reads value List.mem_cons_self).exact _ _) (skipBlanks_newLine _ _),
      List.reverse_cons]
  | cons next values ih =>
    obtain ⟨count, counts, rfl⟩ := List.exists_cons_of_length_pos (Nat.zero_lt_of_lt enough)
    have others : ∀ other ∈ next :: values, Reads item (write other) other :=
      fun other listed => reads other (List.mem_cons_of_mem _ listed)
    have opens := (joined_opens ((others next List.mem_cons_self).opens (level + 1))
      (values.map write)).append (Writer.newLine level ++ ']' :: rest)
    have written : joined (level + 1) ((value :: next :: values).map write) ++
        (Writer.newLine level ++ ']' :: rest) =
        write value (level + 1) ++ ',' :: (Writer.newLine (level + 1) ++
          (joined (level + 1) ((next :: values).map write) ++
            (Writer.newLine level ++ ']' :: rest))) := by
      simp only [List.map_cons, joined_cons, List.append_assoc, List.cons_append]
    rw [written, moreItems_next ((reads value List.mem_cons_self).exact _ _) rfl opens
      ((skipBlanks_newLine _ _).trans opens.skipBlanks_eq)]
    rw [List.length_cons, List.length_cons] at enough
    rw [← List.map_cons, ih others (Nat.lt_of_succ_lt_succ enough), List.reverse_cons,
      List.append_assoc, List.singleton_append]

/-- A list is read back if its items are. -/
theorem reads_list {depth : Nat} {write : α → Writer} {values : List α} (deep : depth ≠ 0)
    (reads : ∀ value ∈ values, Reads item (write value) value) :
    Reads (list depth item) (.list (values.map write)) values where
  opens level := by
    cases values with
    | nil => exact ⟨'[', _, rfl, by decide, by decide, by decide⟩
    | cons value values => exact ⟨'[', _, rfl, by decide, by decide, by decide⟩
  blank _ := rfl
  exact level rest := by
    have bracket (behind : List Char) : list depth item ('[' :: behind) = items item behind :=
      if_neg deep
    cases values with
    | nil =>
      rw [List.map_nil, Writer.list, bracketed_nil, bracket]
      rfl
    | cons value values =>
      have each : ∀ part ∈ (value :: values).map write, Opens (part (level + 1)) := by
        intro part listed
        obtain ⟨other, among, rfl⟩ := List.mem_map.mp listed
        exact (reads other among).opens _
      have opens := (joined_opens (each _ List.mem_cons_self) (values.map write)).append
        (Writer.newLine level ++ ']' :: rest)
      have enough := length_le_joined each
      rw [List.length_map, List.length_cons] at enough
      rw [List.map_cons, Writer.list, bracketed_cons, bracket,
        items_eq opens ((skipBlanks_newLine _ _).trans opens.skipBlanks_eq), ← List.map_cons,
        moreItems_exact level reads (by rw [List.length_append]; omega)]
      rfl

end

/-! ## Objects -/

/-- Reading members one after another takes a state to another. -/
inductive Steps {σ : Type} (member : String → σ → Reader σ) :
    (state : σ) → List (String × Writer) → (last : σ) → Prop
  /-- Without members the state stays. -/
  | stay {state : σ} : Steps member state [] state
  /-- A member is read from behind its key, and then the others. -/
  | step {key : String} {write : Writer} {state next last : σ} {parts : List (String × Writer)} :
    (∀ level rest, member key state (':' :: ' ' :: (write level ++ rest)) = .ok (next, rest)) →
    Steps member next parts last → Steps member state ((key, write) :: parts) last

/-- Members come behind others. -/
theorem Steps.append {σ : Type} {member : String → σ → Reader σ} {state middle last : σ}
    {parts others : List (String × Writer)} (first : Steps member state parts middle)
    (second : Steps member middle others last) : Steps member state (parts ++ others) last := by
  induction first with
  | stay => exact second
  | step read _ ih => exact .step read (ih second)

section

variable {σ : Type} {member : String → σ → Reader σ} {key : String} {counts rest : List Char}
  {state last : σ} {write : Writer} {parts : List (String × Writer)}

/-- How members are written. -/
def written (parts : List (String × Writer)) : List Writer :=
  parts.map fun (key, write) => Writer.member key write

/-- A member is written in front of the others. -/
theorem written_cons (key : String) (write : Writer) (parts : List (String × Writer)) :
    written ((key, write) :: parts) = Writer.member key write :: written parts := rfl

/-- A member is written as its key, a colon and its value. -/
theorem member_append (key : String) (write : Writer) (level : Nat) (rest : List Char) :
    Writer.member key write level ++ rest =
      '"' :: (key.toList.flatMap escaped ++ '"' :: ':' :: ' ' :: (write level ++ rest)) := by
  simp [Writer.member, Writer.text]

/-- Members that are joined begin with the quote of the first key. -/
theorem exists_quote (level : Nat) (key : String) (write : Writer)
    (parts : List (String × Writer)) (rest : List Char) :
    ∃ chars, '"' :: chars = joined level (written ((key, write) :: parts)) ++ rest := by
  cases parts with
  | nil => exact ⟨_, by rw [written_cons, written, List.map_nil, joined_singleton, member_append]⟩
  | cons next parts =>
    obtain ⟨nextKey, nextWrite⟩ := next
    exact ⟨_, by rw [written_cons, written_cons, joined_cons, List.append_assoc, member_append]⟩

/-- The members of an object are read back one by one. -/
theorem moreMembers_exact (level : Nat) {chars : List Char}
    (steps : Steps member state ((key, write) :: parts) last)
    (enough : parts.length < counts.length)
    (same : '"' :: chars = joined (level + 1) (written ((key, write) :: parts)) ++
      (Writer.newLine level ++ '\x7d' :: rest)) :
    moreMembers member counts state chars = .ok (last, rest) := by
  -- Members are read from behind the quote of a key, so it is taken off what is written.
  induction parts generalizing key write state chars counts with
  | nil =>
    obtain ⟨count, counts, rfl⟩ := List.exists_cons_of_length_pos enough
    rw [written_cons, written, List.map_nil, joined_singleton, member_append] at same
    obtain ⟨_, rfl⟩ := List.cons.inj same
    cases steps with
    | step read others =>
      cases others with
      | stay => exact moreMembers_last (readText_escaped _ _) (read _ _) (skipBlanks_newLine _ _)
  | cons part parts ih =>
    obtain ⟨nextKey, nextWrite⟩ := part
    obtain ⟨count, counts, rfl⟩ := List.exists_cons_of_length_pos (Nat.zero_lt_of_lt enough)
    obtain ⟨more, quoted⟩ := exists_quote (level + 1) nextKey nextWrite parts
      (Writer.newLine level ++ '\x7d' :: rest)
    rw [written_cons, written_cons, joined_cons, ← written_cons, List.append_assoc,
      member_append, List.cons_append, List.append_assoc, ← quoted] at same
    obtain ⟨_, rfl⟩ := List.cons.inj same
    cases steps with
    | step read others =>
      -- The comma leads to the quote of the next key, from behind which the others are read.
      rw [List.length_cons, List.length_cons] at enough
      rw [moreMembers_next (readText_escaped _ _) (read _ _) rfl (skipBlanks_newLine _ _)]
      exact ih others (Nat.lt_of_succ_lt_succ enough) quoted

/-- An object is read back from behind its brace. -/
theorem members_exact (level : Nat) {chars : List Char} (steps : Steps member state parts last)
    (same : '\x7b' :: chars = Writer.object parts level ++ rest) :
    members member state chars = .ok (last, rest) := by
  have object : Writer.object parts = Writer.bracketed '\x7b' '\x7d' (written parts) := rfl
  rw [object] at same
  cases parts with
  | nil =>
    rw [written, List.map_nil, bracketed_nil] at same
    obtain ⟨_, rfl⟩ := List.cons.inj same
    cases steps with
    | stay => rfl
  | cons part parts =>
    obtain ⟨key, write⟩ := part
    have opens : ∀ part ∈ written ((key, write) :: parts), Opens (part (level + 1)) := by
      intro part listed
      obtain ⟨_, _, rfl⟩ := List.mem_map.mp listed
      exact ⟨'"', _, rfl, by decide, by decide, by decide⟩
    have enough := length_le_joined opens
    obtain ⟨more, quoted⟩ := exists_quote (level + 1) key write parts
      (Writer.newLine level ++ '\x7d' :: rest)
    rw [written_cons, bracketed_cons, ← written_cons, ← quoted] at same
    obtain ⟨_, rfl⟩ := List.cons.inj same
    have first : skipBlanks (Writer.newLine (level + 1) ++ '"' :: more) = '"' :: more :=
      skipBlanks_newLine _ _
    have size : (written ((key, write) :: parts)).length = parts.length + 1 := by simp [written]
    have counted := congrArg List.length quoted
    rw [List.length_append] at counted
    simp only [members, first]
    refine moreMembers_exact level steps ?_ quoted
    rw [List.length_append]
    omega

end

/-- An object begins with its brace. -/
theorem exists_brace (parts : List (String × Writer)) (level : Nat) :
    ∃ chars, Writer.object parts level = '\x7b' :: chars := by
  cases parts with
  | nil => exact ⟨_, rfl⟩
  | cons part parts => exact ⟨_, rfl⟩

/-- An object begins as a value does. -/
theorem object_opens (parts : List (String × Writer)) (level : Nat) :
    Opens (Writer.object parts level) := by
  obtain ⟨chars, same⟩ := exists_brace parts level
  exact ⟨'\x7b', chars, same, by decide, by decide, by decide⟩

/-- A table is read back if its values are. -/
theorem reads_table {α : Type} {depth : Nat} {read : Reader α} {write : α → Writer}
    {entries : List (String × α)} (deep : depth ≠ 0)
    (reads : ∀ entry ∈ entries, Reads read (write entry.2) entry.2) :
    Reads (table depth read) (.object (entries.map fun entry => (entry.1, write entry.2)))
      entries where
  opens := object_opens _
  blank _ := rfl
  exact level rest := by
    have steps (done : List (String × α)) :
        Steps (tableMember read) done (entries.map fun entry => (entry.1, write entry.2))
          (entries.reverse ++ done) := by
      induction entries generalizing done with
      | nil => exact .stay
      | cons entry entries ih =>
        rw [List.reverse_cons, List.append_assoc, List.singleton_append]
        refine .step (fun level rest => ?_)
          (ih (fun other listed => reads other (List.mem_cons_of_mem _ listed)) _)
        rw [tableMember, (reads entry List.mem_cons_self).afterColon]
        rfl
    obtain ⟨chars, same⟩ :=
      exists_brace (entries.map fun entry => (entry.1, write entry.2)) level
    have brace (behind : List Char) : table depth read ('\x7b' :: behind) =
        (members (tableMember read) [] behind).map fun read => (read.1.reverse, read.2) :=
      if_neg deep
    have exact : members (tableMember read) [] (chars ++ rest) =
        .ok (entries.reverse ++ [], rest) :=
      members_exact level (steps []) (by rw [same, List.cons_append])
    rw [same, List.cons_append, brace, exact, List.append_nil]
    exact congrArg (fun entries => Except.ok (entries, rest)) entries.reverse_reverse

/-- A record is read back if reading its members completes its draft to the value. -/
theorem reads_object {δ α : Type} {layout : Layout δ α} {depth : Nat}
    {parts : List (String × Writer)} {draft : δ} {value : α} (deep : depth ≠ 0)
    (steps : Steps layout.member layout.draft parts draft)
    (complete : layout.build draft = .ok value) :
    Reads (layout.read depth) (.object parts) value where
  opens := object_opens parts
  blank _ := rfl
  exact level rest := by
    obtain ⟨chars, same⟩ := exists_brace parts level
    have exact : members layout.member layout.draft (chars ++ rest) = .ok (draft, rest) :=
      members_exact level steps (by rw [same, List.cons_append])
    have brace : skipBlanks ('\x7b' :: (chars ++ rest)) = '\x7b' :: (chars ++ rest) := rfl
    rw [same, List.cons_append, Layout.read, brace]
    simp only [if_neg deep, exact, complete]

section

variable {δ α β γ : Type} {layout : Layout δ α} {name : String} {draft next : δ} {read : Reader β}

/-- A field that the draft lacks is set to what is read back. -/
theorem member_of_field {get : δ → Option β} {set : β → δ → δ} {write : Writer} {value : β}
    (found : layout.fields.find? (fun field => field.name == name) = some (.of name get set read))
    (unset : get draft = none) (reads : Reads read write value) (level : Nat) (rest : List Char) :
    layout.member name draft (':' :: ' ' :: (write level ++ rest)) =
      .ok (set value draft, rest) := by
  have absent : ¬ (Field.of name get set read).isSet draft := by simp [Field.of, unset]
  have behind : afterColon ((Field.of name get set read).read leaveObject draft)
      (':' :: ' ' :: (write level ++ rest)) =
      (read (' ' :: (write level ++ rest))).map fun read => (set read.1 draft, read.2) := rfl
  rw [Layout.member, found]
  dsimp only
  rw [if_neg absent, behind, reads.blank, reads.exact]
  rfl

/-- A field for a value that may be absent is set if there is one. -/
theorem steps_ifPresent {get : δ → Option (Option β)} {set : Option β → δ → δ}
    {write : γ → Writer} {held : γ → β} {value : Option γ}
    (found : layout.fields.find? (fun field => field.name == name) =
      some (.of name get set (orNull read)))
    (unset : get draft = none) (reads : ∀ inner, Reads read (write inner) (held inner))
    (becomes : next = value.elim draft fun inner => set (some (held inner)) draft) :
    Steps layout.member draft (Writer.ifPresent name write value) next := by
  rw [becomes]
  cases value with
  | none => exact .stay
  | some inner => exact .step (member_of_field found unset (reads inner).orNull) .stay

end

/-! ## Documents -/

/-- A document that holds what is written for a value is read as the value. -/
theorem readDocument_of_reads {α : Type} {read : Nat → Reader α} {write : Writer} {value : α}
    (reads : Reads (read maxDepth) write value) :
    readDocument read (String.ofList (write 0)) = .ok value := by
  have exact := reads.exact 0 []
  rw [List.append_nil] at exact
  rw [readDocument, String.toList_ofList, exact]
  rfl

end GrammarAtlas.Json
