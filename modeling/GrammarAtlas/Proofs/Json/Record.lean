import GrammarAtlas.Proofs.Json.Skipping

/-!
# Decoding objects

An object is read member by member, each member taking the state of its reader to another
(`Passes`). A table collects its members that way. A record keeps what it has found in a draft, and
decodes every spelling of a value if four things hold (`Describes`): its draft begins with nothing
found, each field reads what the property of its name spells, unknown keys leave the draft as it is,
and a draft that has found everything that may not be left out makes the value. The order of the
members makes no difference then.
-/

namespace GrammarAtlas.Json

/-! ## Members -/

/-- Reading the members one after another takes a state to another. -/
inductive Passes {σ : Type} (member : String → σ → Reader σ) :
    (state : σ) → List Member → (last : σ) → Prop
  /-- Without members the state stays. -/
  | stay {state : σ} : Passes member state [] state
  /-- A member is read from behind its key, and then the others. -/
  | step {key : String} {part : Member} {state next last : σ} {parts : List Member} :
    SpellsText key part.key →
    (∀ rest, Ends rest →
      member key state (part.before ++ ':' :: (part.after ++ (part.value ++ rest))) =
        .ok (next, rest)) →
    Passes member next parts last → Passes member state (part :: parts) last

section

variable {σ : Type} {member : String → σ → Reader σ} {key : String} {count : Char}
  {counts chars behind after rest : List Char} {state next : σ}

/-- The last member of an object is the one that the brace follows. -/
theorem moreMembers_last (quoted : readText chars = .ok (key, behind))
    (read : member key state behind = .ok (next, after))
    (closes : skipBlanks after = '\x7d' :: rest) :
    moreMembers member (count :: counts) state chars = .ok (next, rest) := by
  simp only [moreMembers, quoted, read, closes]

/-- An object goes on behind a comma. -/
theorem moreMembers_next {left : List Char} (quoted : readText chars = .ok (key, behind))
    (read : member key state behind = .ok (next, after))
    (comma : skipBlanks after = ',' :: left) (quote : skipBlanks left = '"' :: rest) :
    moreMembers member (count :: counts) state chars = moreMembers member counts next rest := by
  simp only [moreMembers, quoted, read, comma, quote]

end

section

variable {σ : Type} {member : String → σ → Reader σ} {state last : σ} {members : List Member}
  {parts : List (List Char)} {chars : List Char}

/-- The key of a member is read from behind its quote, and the rest of the member is left. -/
theorem Member.readKey {part : Member} {key : String} (spelled : SpellsText key part.key)
    (rest : List Char) :
    ∃ inner, part.chars ++ rest = '"' :: inner ∧
      readText inner = .ok (key, part.before ++ ':' :: (part.after ++ (part.value ++ rest))) := by
  obtain ⟨inner, begins, read⟩ :=
    spelled.readText (part.before ++ ':' :: (part.after ++ (part.value ++ rest)))
  exact ⟨inner, by rw [← begins]; simp [Member.chars], read⟩

/-- The members of an object are read one by one, from behind the first quote. -/
theorem Passes.moreMembers {counts : List Char} (passes : Passes member state members last)
    (joined : Joined parts chars) (same : members.map Member.chars = parts)
    (enough : parts.length ≤ counts.length) (rest : List Char) :
    ∃ inner, chars ++ '\x7d' :: rest = '"' :: inner ∧
      moreMembers member counts state inner = .ok (last, rest) := by
  -- On how the members are joined: each comma takes one from the count.
  induction joined generalizing members counts state with
  | @last _ after blank =>
    obtain ⟨count, counts, rfl⟩ := List.exists_cons_of_length_pos enough
    cases passes with
    | stay => cases same
    | @step key part state next last members spelled read others =>
      obtain ⟨rfl, nothing⟩ := List.cons.inj same
      obtain rfl := List.map_eq_nil_iff.mp nothing
      cases others
      obtain ⟨inner, begins, quoted⟩ := Member.readKey spelled (after ++ '\x7d' :: rest)
      refine ⟨inner, by rw [List.append_assoc, begins], ?_⟩
      exact moreMembers_last quoted (read _ (.append blank (ends_cons '\x7d' (by decide) rest)))
        (skipBlanks_solid blank (by decide) rest)
  | @next _ after before chars _ blank blank' joined ih =>
    obtain ⟨count, counts, rfl⟩ := List.exists_cons_of_length_pos (Nat.zero_lt_of_lt enough)
    cases passes with
    | stay => cases same
    | @step key part state next last members spelled read others =>
      obtain ⟨rfl, same'⟩ := List.cons.inj same
      obtain ⟨inner, begins, quoted⟩ :=
        Member.readKey spelled (after ++ ',' :: (before ++ (chars ++ '\x7d' :: rest)))
      refine ⟨inner, by rw [← begins]; simp, ?_⟩
      rw [List.length_cons, List.length_cons] at enough
      obtain ⟨more, begins', passed⟩ := ih others same' (Nat.le_of_succ_le_succ enough)
      rw [moreMembers_next quoted (read _ (.append blank (ends_cons ',' (by decide) _)))
        (skipBlanks_solid blank (by decide) _)
        (by rw [begins']; exact skipBlanks_solid blank' (by decide) more)]
      exact passed

/-- An object is read from behind its brace. -/
theorem Passes.object (passes : Passes member state members last)
    (object : IsObject members chars) (rest : List Char) :
    ∃ inner, chars ++ rest = '\x7b' :: inner ∧
      Json.members member state inner = .ok (last, rest) := by
  obtain ⟨_, bracketed⟩ := object
  generalize same : members.map Member.chars = parts at bracketed
  cases bracketed with
  | @none inside blank =>
    obtain rfl := List.map_eq_nil_iff.mp same
    cases passes
    refine ⟨inside ++ '\x7d' :: rest, by simp, ?_⟩
    rw [Json.members, skipBlanks_solid blank (by decide)]
    rfl
  | @some parts before chars blank joined =>
    have filled : ∀ part ∈ parts, part ≠ [] := by
      intro part listed
      obtain ⟨member, _, rfl⟩ := List.mem_map.mp (same ▸ listed)
      simp [Member.chars]
    have enough := joined.length_le filled
    have counted : parts.length ≤ (before ++ (chars ++ '\x7d' :: rest)).length := by
      simp only [List.length_append]
      omega
    obtain ⟨inner, begins, passed⟩ := passes.moreMembers joined same counted rest
    refine ⟨before ++ (chars ++ '\x7d' :: rest), by simp, ?_⟩
    have quote : skipBlanks (before ++ (chars ++ '\x7d' :: rest)) = '"' :: inner := by
      rw [begins]
      exact skipBlanks_solid blank (by decide) inner
    simp only [Json.members, quote, passed]

/-- An object begins as a value does. -/
theorem IsObject.opens (object : IsObject members chars) : Opens chars := by
  obtain ⟨_, bracketed⟩ := object
  generalize members.map Member.chars = parts at bracketed
  cases bracketed with
  | none _ => exact ⟨'\x7b', _, rfl, by decide, by decide, by decide⟩
  | some _ _ => exact ⟨'\x7b', _, rfl, by decide, by decide, by decide⟩

end

/-! ## Tables -/

/-- Tables are decoded if their values are. -/
theorem Decodes.table {α : Type} {depth : Nat} {read : Reader α} {spells : α → List Char → Prop}
    (decodes : Decodes read spells) : Decodes (table depth read) (SpellsTable depth spells) where
  opens spelled := by
    obtain ⟨_, members, _, object⟩ := spelled
    exact object.opens
  takes {entries chars} spelled before rest blank _ := by
    obtain ⟨deep, parts, each, object⟩ := spelled
    have passes (done : List (String × α)) (spaced : ∀ part ∈ parts, part.Spaced) :
        Passes (tableMember read) done parts (entries.reverse ++ done) := by
      clear object
      induction each generalizing done with
      | nil => exact .stay
      | @cons entry part _ _ spelled _ ih =>
        obtain ⟨blank, blank'⟩ := spaced part List.mem_cons_self
        rw [List.reverse_cons, List.append_assoc, List.singleton_append]
        refine .step spelled.1 (fun rest ends => ?_)
          (ih _ fun other listed => spaced other (List.mem_cons_of_mem _ listed))
        rw [tableMember, (decodes.takes spelled.2).afterColon blank blank' ends]
        rfl
    obtain ⟨inner, begins, passed⟩ := (passes [] object.1).object object rest
    have brace (behind : List Char) : Json.table depth read (before ++ '\x7b' :: behind) =
        (members (tableMember read) [] behind).map fun read => (read.1.reverse, read.2) := by
      rw [Json.table, skipBlanks_solid blank (by decide)]
      exact if_neg (Nat.ne_of_gt deep)
    rw [begins, brace, passed, List.append_nil]
    exact congrArg (fun entries => Except.ok (entries, rest)) entries.reverse_reverse

/-! ## Records -/

/-- What a draft holds for a key of a record: its value, once the key has been found. -/
def noted {α : Type} (seen : List String) (name : String) (value : α) : Option α :=
  if name ∈ seen then some value else none

/-- A key that has not been found has no value. -/
theorem noted_of_not_mem {α : Type} {seen : List String} {name : String}
    (absent : name ∉ seen) (value : α) : noted seen name value = none := if_neg absent

/-- Other keys make no difference. -/
theorem noted_cons_of_ne {α : Type} {name key : String} (other : name ≠ key) (seen : List String)
    (value : α) : noted (key :: seen) name value = noted seen name value := by
  simp only [noted, List.mem_cons, other, false_or]

/-- A value that may be missing is had from what has been noted, if its key is left out only where
it is missing. -/
theorem join_noted {α : Type} {seen : List String} {name : String} {value : Option α}
    (complete : value = none ∨ name ∈ seen) : (noted seen name value).join = value := by
  by_cases found : name ∈ seen
  · rw [noted, if_pos found, Option.join_some]
  · rw [noted_of_not_mem found, Option.join_none, complete.resolve_right found]

section

variable {δ α β : Type} {fits : (seen : List String) → δ → Prop} {fields : List (Field δ)}
  {properties : List Property}

/-- A field reads what a property spells. In `fits`, a draft is compared with the keys that have
been found so far, the latest first. -/
structure Serves (fits : (seen : List String) → δ → Prop) (field : Field δ)
    (property : Property) : Prop where
  /-- The field has the name of the property. -/
  named : field.name = property.name
  /-- The field is not set before the property has been found. -/
  unset : ∀ {seen draft}, fits seen draft → property.name ∉ seen → ¬ field.isSet draft
  /-- What the property spells is taken, and found then. -/
  reads : ∀ {seen draft chars}, fits seen draft → property.spells chars →
    ∃ next, Takes (field.read leaveObject draft) next chars ∧ fits (property.name :: seen) next

/-- Reading what the properties spell makes the value of a record. -/
structure Describes (properties : List Property) (layout : Layout δ α) (value : α)
    (fits : (seen : List String) → δ → Prop) : Prop where
  /-- Nothing has been found to begin with. -/
  starts : fits [] layout.draft
  /-- Each field reads what its property spells. -/
  fields : List.Forall₂ (Serves fits) layout.fields properties
  /-- Other keys make no difference. -/
  ignores : ∀ {seen draft key}, fits seen draft → key ∉ properties.map Property.name →
    fits (key :: seen) draft
  /-- The value is made of a draft that lacks only what may be left out. -/
  builds : ∀ {seen draft}, fits seen draft →
    (∀ property ∈ properties, property.optional ∨ property.name ∈ seen) →
    layout.build draft = .ok value

/-- A key is that of a property, and its field is looked up then, or there is no field for it. -/
theorem find?_of_serves (serves : List.Forall₂ (Serves fits) fields properties) (key : String) :
    (∃ field property, fields.find? (fun field => field.name == key) = some field ∧
      property ∈ properties ∧ property.name = key ∧ Serves fits field property) ∨
    fields.find? (fun field => field.name == key) = none ∧
      key ∉ properties.map Property.name := by
  induction serves with
  | nil => exact .inr ⟨rfl, List.not_mem_nil⟩
  | @cons field property fields properties serves _ ih =>
    by_cases named : property.name = key
    · have found : (field.name == key) = true := by simp [serves.named, named]
      exact .inl ⟨field, property, List.find?_cons_of_pos found, List.mem_cons_self, named, serves⟩
    · have other : ¬ (field.name == key) = true := by simp [serves.named, named]
      have behind : (field :: fields).find? (fun field => field.name == key) =
          fields.find? fun field => field.name == key := List.find?_cons_of_neg other
      rw [behind]
      rcases ih with ⟨field, property, found, listed, same, serves⟩ | ⟨missing, foreign⟩
      · exact .inl ⟨field, property, found, List.mem_cons_of_mem _ listed, same, serves⟩
      · refine .inr ⟨missing, ?_⟩
        rw [List.map_cons, List.mem_cons, not_or]
        exact ⟨fun same => named same.symm, foreign⟩

/-- What is made of a taken value is taken. -/
theorem Takes.map {read : Reader α} {value : α} {chars : List Char} (takes : Takes read value chars)
    (make : α → β) :
    Takes (fun rest => (read rest).map fun found => (make found.1, found.2)) (make value)
      chars := by
  intro before rest blank ends
  exact congrArg (Except.map fun found => (make found.1, found.2)) (takes before rest blank ends)

/-- A field that is set to a value serves the property that the value is taken from. -/
theorem serves_of {property : Property} {name : String} {get : δ → Option β} {set : β → δ → δ}
    {read : Reader β} (named : name = property.name)
    (unset : ∀ {seen draft}, fits seen draft → property.name ∉ seen → get draft = none)
    (reads : ∀ {chars}, property.spells chars → ∃ held, Takes read held chars ∧
      ∀ {seen draft}, fits seen draft → fits (property.name :: seen) (set held draft)) :
    Serves fits (.of name get set read) property where
  named := named
  unset fit absent := by simp [Field.of, unset fit absent]
  reads fit spelled := by
    obtain ⟨held, takes, fits'⟩ := reads spelled
    exact ⟨set held _, takes.map fun found => set found _, fits' fit⟩

/-- A field for a value that may be missing serves the property that holds it. -/
theorem serves_ofOption {name : String} {get : δ → Option (Option β)} {set : Option β → δ → δ}
    {read : Reader β} {spells : β → List Char → Prop} {value : Option β}
    (decodes : Decodes read spells)
    (unset : ∀ {seen draft}, fits seen draft → name ∉ seen → get draft = none)
    (sets : ∀ {seen draft}, fits seen draft → fits (name :: seen) (set value draft)) :
    Serves fits (.of name get set (orNull read)) (.ofOption name spells value) :=
  serves_of rfl unset fun spelled => ⟨value, decodes.orNull spelled, sets⟩

variable {layout : Layout δ α} {value : α}

/-- A member of a record is read: one with the key of a property sets its field, and any other is
skipped. -/
theorem Describes.member (describes : Describes properties layout value fits)
    {key : String} {part : Member} {seen : List String} {draft : δ} (fit : fits seen draft)
    (spaced : part.Spaced)
    (fresh : ∀ property ∈ properties, property.name = key → key ∉ seen)
    (known : ∀ property ∈ properties, property.name = key → property.spells part.value)
    (unknown : key ∉ properties.map Property.name → IsValue part.value) :
    ∃ next, fits (key :: seen) next ∧ ∀ rest, Ends rest →
      layout.member key draft (part.before ++ ':' :: (part.after ++ (part.value ++ rest))) =
        .ok (next, rest) := by
  rcases find?_of_serves describes.fields key with
    ⟨field, property, found, listed, rfl, serves⟩ | ⟨missing, foreign⟩
  · obtain ⟨next, takes, fit'⟩ := serves.reads fit (known property listed rfl)
    refine ⟨next, fit', fun rest ends => ?_⟩
    rw [Layout.member, found]
    dsimp only
    rw [if_neg (serves.unset fit (fresh property listed rfl)),
      takes.afterColon spaced.1 spaced.2 ends]
  · refine ⟨draft, describes.ignores fit foreign, fun rest ends => ?_⟩
    rw [Layout.member, missing]
    dsimp only
    rw [(unknown foreign).takes.afterColon spaced.1 spaced.2 ends]
    rfl

/-- The members of a record are read one by one. -/
theorem Describes.passes (describes : Describes properties layout value fits)
    {members : List (String × Member)} {seen : List String} {draft : δ} (fit : fits seen draft)
    (spaced : ∀ part ∈ members.map Prod.snd, part.Spaced)
    (single : ∀ property ∈ properties,
      seen.count property.name + (members.map Prod.fst).count property.name ≤ 1)
    (keys : ∀ entry ∈ members, SpellsText entry.1 entry.2.key)
    (known : ∀ entry ∈ members, ∀ property ∈ properties, property.name = entry.1 →
      property.spells entry.2.value)
    (unknown : ∀ entry ∈ members, entry.1 ∉ properties.map Property.name →
      IsValue entry.2.value) :
    ∃ last, Passes layout.member draft (members.map Prod.snd) last ∧
      fits ((members.map Prod.fst).reverse ++ seen) last := by
  -- On the members: what has been found is not found again, as no property is repeated.
  induction members generalizing seen draft with
  | nil => exact ⟨draft, .stay, fit⟩
  | cons entry members ih =>
    obtain ⟨key, part⟩ := entry
    have counted (property : Property) (listed : property ∈ properties) :
        (key :: seen).count property.name + (members.map Prod.fst).count property.name ≤ 1 := by
      have bound := single property listed
      simp only [List.map_cons, List.count_cons] at bound ⊢
      omega
    have fresh (property : Property) (listed : property ∈ properties)
        (same : property.name = key) : key ∉ seen := by
      have bound := counted property listed
      rw [same, List.count_cons_self] at bound
      exact List.count_eq_zero.mp (by omega)
    obtain ⟨next, fit', read⟩ := describes.member fit (spaced part List.mem_cons_self) fresh
      (known _ List.mem_cons_self) (unknown _ List.mem_cons_self)
    obtain ⟨last, passes, fits'⟩ := ih fit'
      (fun other listed => spaced other (List.mem_cons_of_mem _ listed)) counted
      (fun other listed => keys other (List.mem_cons_of_mem _ listed))
      (fun other listed => known other (List.mem_cons_of_mem _ listed))
      (fun other listed => unknown other (List.mem_cons_of_mem _ listed))
    refine ⟨last, .step (keys _ List.mem_cons_self) read passes, ?_⟩
    rw [List.map_cons, List.reverse_cons, List.append_assoc, List.singleton_append]
    exact fits'

/-- A record begins as a value does. -/
theorem SpellsRecord.opens {depth : Nat} {chars : List Char}
    (spelled : SpellsRecord depth properties chars) : Opens chars := by
  obtain ⟨_, members, _, object⟩ := spelled
  exact object.opens

/-- A record takes every spelling of a value that it describes. -/
theorem Describes.takes (describes : Describes properties layout value fits) {depth : Nat}
    {chars : List Char} (spelled : SpellsRecord depth properties chars) :
    Takes (layout.read depth) value chars := by
  intro before rest blank _
  obtain ⟨deep, members, makes, object⟩ := spelled
  obtain ⟨last, passes, fit⟩ := describes.passes describes.starts object.1
    (by simpa using makes.single) makes.keys makes.known makes.unknown
  have built : layout.build last = .ok value := by
    refine describes.builds fit fun property listed => (makes.complete property listed).imp_right ?_
    exact fun found => List.mem_append_left _ (List.mem_reverse.mpr found)
  obtain ⟨inner, begins, passed⟩ := passes.object object rest
  have brace : skipBlanks (before ++ '\x7b' :: inner) = '\x7b' :: inner :=
    skipBlanks_solid blank (by decide) inner
  rw [begins]
  simp only [Layout.read, brace, if_neg (Nat.ne_of_gt deep), passed, built]

end

end GrammarAtlas.Json
