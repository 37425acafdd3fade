import GrammarAtlas.Json.Skip

/-!
# Reading values of a known shape

Each reader here calls for one shape of value: a text, a truth value, a list, a table of named
values, or a record. `Layout` describes a record by its fields, and `Layout.read` accepts it in
both of its forms, an object with the fields in any order and a list with the fields in theirs.

Lists and objects nest to a limited depth. The readers for them take the number of levels that are
left, and expect the readers for their parts to have been given one less.
-/

namespace GrammarAtlas.Json

/-- The failure of a value that is not of the shape called for. A scalar is read to its end. -/
def mismatch (wanted : String) (rest : List Char) : Failure :=
  let scalar {α : Type} (found : α → Found) (read : Result α) : Failure :=
    match read with
    | .error failure => failure
    | .ok (value, behind) => stop (.wrongShape (found value) wanted) behind
  match rest with
  | 'n' :: behind => scalar (fun _ => .null) (readWord "ull".toList behind)
  | 't' :: behind => scalar (fun _ => .flag true) (readWord "rue".toList behind)
  | 'f' :: behind => scalar (fun _ => .flag false) (readWord "alse".toList behind)
  | '"' :: behind => scalar .text (readText behind)
  | '[' :: _ => stop (.wrongShape .list wanted) rest
  | '\x7b' :: _ => stop (.wrongShape .object wanted) rest
  | '-' :: _ => scalar .number (readNumber rest)
  | char :: _ =>
    if char.isDigit then scalar .number (readNumber rest) else stopAhead .noValue rest
  | [] => stopAhead .endInValue []

/-- Reads a value that must be a text. -/
def text : Reader String := fun rest =>
  match skipBlanks rest with
  | '"' :: behind => readText behind
  | rest => .error (mismatch "a string" rest)

/-- Reads a value that must be a truth value. -/
def flag : Reader Bool := fun rest =>
  match skipBlanks rest with
  | 't' :: behind => (readWord "rue".toList behind).map fun read => (true, read.2)
  | 'f' :: behind => (readWord "alse".toList behind).map fun read => (false, read.2)
  | rest => .error (mismatch "a boolean" rest)

/-- Reads a value that must be null. -/
def unit : Reader Unit := fun rest =>
  match skipBlanks rest with
  | 'n' :: behind => readWord "ull".toList behind
  | rest => .error (mismatch "unit" rest)

/-- Reads a value that may be null instead. -/
def orNull {α : Type} (read : Reader α) : Reader (Option α) := fun rest =>
  match skipBlanks rest with
  | 'n' :: behind => (readWord "ull".toList behind).map fun read => (none, read.2)
  | rest => (read rest).map fun found => (some found.1, found.2)

/-- Reads a value behind a colon. -/
def afterColon {α : Type} (read : Reader α) : Reader α := fun rest =>
  match skipBlanks rest with
  | [] => .error (stopAhead .endInObject [])
  | ':' :: behind => read behind
  | rest => .error (stopAhead .noColon rest)

/-! ## Lists and objects -/

/-- Reads further items of a list, the reversed items `done` being read already. Each item is
followed by a character of its own, so the characters to begin with are enough to count them. -/
def moreItems {α : Type} (item : Reader α) : (count : List Char) → (done : List α) →
    Reader (List α)
  | [], _, rest => .error (stopAhead .endInList rest)
  | _ :: count, done, rest =>
    match item rest with
    | .error failure => .error failure
    | .ok (value, behind) =>
      match skipBlanks behind with
      | [] => .error (stopAhead .endInList [])
      | ']' :: behind => .ok ((value :: done).reverse, behind)
      | ',' :: behind =>
        match skipBlanks behind with
        | [] => .error (stopAhead .endInValue [])
        | ']' :: behind => .error (stopAhead .trailingComma (']' :: behind))
        | rest => moreItems item count (value :: done) rest
      | rest => .error (stopAhead .listGoesOn rest)

/-- Reads the items of a list from behind its bracket. -/
def items {α : Type} (item : Reader α) : Reader (List α) := fun rest =>
  match skipBlanks rest with
  | [] => .error (stopAhead .endInList [])
  | ']' :: behind => .ok ([], behind)
  | rest => moreItems item rest [] rest

/-- Reads further members of an object from behind the quote that opens a key, each of them by a
step that is given the key and what the members before it have come to. Each member has a quote of
its own, so the characters from the first quote on are enough to count them. -/
def moreMembers {σ : Type} (member : String → σ → Reader σ) : (count : List Char) → (state : σ) →
    Reader σ
  | [], _, rest => .error (stopAhead .endInObject rest)
  | _ :: count, state, rest =>
    match readText rest with
    | .error failure => .error failure
    | .ok (key, behind) =>
      match member key state behind with
      | .error failure => .error failure
      | .ok (state, behind) =>
        match skipBlanks behind with
        | [] => .error (stopAhead .endInObject [])
        | '\x7d' :: behind => .ok (state, behind)
        | ',' :: behind =>
          match skipBlanks behind with
          | [] => .error (stopAhead .endInValue [])
          | '\x7d' :: behind => .error (stopAhead .trailingComma ('\x7d' :: behind))
          | '"' :: behind => moreMembers member count state behind
          | rest => .error (stopAhead .noKey rest)
        | rest => .error (stopAhead .objectGoesOn rest)

/-- Reads the members of an object from behind its brace. -/
def members {σ : Type} (member : String → σ → Reader σ) (state : σ) : Reader σ := fun rest =>
  match skipBlanks rest with
  | [] => .error (stopAhead .endInObject [])
  | '\x7d' :: behind => .ok (state, behind)
  | '"' :: behind => moreMembers member rest state behind
  | rest => .error (stopAhead .noKey rest)

/-- Reads a value that must be a list. -/
def list {α : Type} (depth : Nat) (item : Reader α) : Reader (List α) := fun rest =>
  match skipBlanks rest with
  | '[' :: behind =>
    if depth = 0 then .error (stopAhead .tooDeep ('[' :: behind)) else items item behind
  | rest => .error (mismatch "a sequence" rest)

/-- Appends a member to the reversed members of a table. -/
def tableMember {α : Type} (value : Reader α) (key : String) (done : List (String × α)) :
    Reader (List (String × α)) := fun rest =>
  (afterColon value rest).map fun read => ((key, read.1) :: done, read.2)

/-- Reads a value that must be an object of any keys, its members in the order of the document. -/
def table {α : Type} (depth : Nat) (value : Reader α) : Reader (List (String × α)) := fun rest =>
  match skipBlanks rest with
  | '\x7b' :: behind =>
    if depth = 0 then .error (stopAhead .tooDeep ('\x7b' :: behind))
    else (members (tableMember value) [] behind).map fun read => (read.1.reverse, read.2)
  | rest => .error (mismatch "a map" rest)

/-! ## Records -/

/-- The characters behind an object that is given up in front of `rest`: a closing brace is still
taken. -/
def leaveObject (rest : List Char) : List Char :=
  match skipBlanks rest with
  | '\x7d' :: behind => behind
  | rest => rest

/-- The characters behind a list that is given up in front of `rest`: a closing bracket is still
taken, and so is a comma. -/
def leaveList (rest : List Char) : List Char :=
  match skipBlanks rest with
  | ']' :: behind => behind
  | ',' :: behind => skipBlanks behind
  | rest => rest

/-- A field of a record. While the record is read, the fields found so far are kept in a draft. -/
structure Field (δ : Type) where
  /-- The key of the field. -/
  name : String
  /-- Whether the draft has the field. -/
  isSet : δ → Bool
  /-- Reads the field into the draft. The first argument says where a failure lies that gives up
  the record as a whole. -/
  read : (leave : List Char → List Char) → δ → Reader δ

/-- A record: its fields in order, and how a draft becomes a value. -/
structure Layout (δ α : Type) where
  /-- The wording for what the record is. -/
  title : String
  /-- The fields in order. -/
  fields : List (Field δ)
  /-- The draft without any field. -/
  draft : δ
  /-- The value of a draft, or the first field that it lacks. -/
  build : δ → Except String α

/-- A field that a record may have once. -/
def Field.of {δ α : Type} (name : String) (get : δ → Option α) (set : α → δ → δ)
    (value : Reader α) : Field δ where
  name := name
  isSet draft := (get draft).isSome
  read _ draft rest := (value rest).map fun read => (set read.1 draft, read.2)

namespace Layout

variable {δ α : Type}

/-- Reads a member of the object form. Keys that are not fields are skipped with their values. -/
def member (layout : Layout δ α) (key : String) (draft : δ) : Reader δ := fun rest =>
  match layout.fields.find? fun field => field.name == key with
  | none => (afterColon skipValue rest).map fun read => (draft, read.2)
  | some field =>
    if field.isSet draft then .error (stop (.repeatedField key) (leaveObject rest))
    else afterColon (field.read leaveObject draft) rest

/-- Reads what follows the last field of the list form. -/
def closeItems (draft : δ) : Reader δ := fun rest =>
  match skipBlanks rest with
  | [] => .error (stopAhead .endInList [])
  | ']' :: behind => .ok (draft, behind)
  | ',' :: behind =>
    match skipBlanks behind with
    | ']' :: behind => .error (stopAhead .trailingComma (']' :: behind))
    | rest => .error (stopAhead .trailingCharacters rest)
  | rest => .error (stopAhead .trailingCharacters rest)

/-- Reads further fields of the list form, from behind the field before. -/
def moreFields : (fields : List (Field δ)) → (draft : δ) → Reader δ
  | [], draft, rest => closeItems draft rest
  | field :: fields, draft, rest =>
    match skipBlanks rest with
    | [] => .error (stopAhead .endInList [])
    | ']' :: behind => .ok (draft, behind)
    | ',' :: behind =>
      match skipBlanks behind with
      | [] => .error (stopAhead .endInValue [])
      | ']' :: behind => .error (stopAhead .trailingComma (']' :: behind))
      | rest =>
        match field.read leaveList draft rest with
        | .error failure => .error failure
        | .ok (draft, behind) => moreFields fields draft behind
    | rest => .error (stopAhead .listGoesOn rest)

/-- Reads the list form from behind its bracket. -/
def readItems (layout : Layout δ α) : Reader δ := fun rest =>
  match skipBlanks rest with
  | [] => .error (stopAhead .endInList [])
  | ']' :: behind => .ok (layout.draft, behind)
  | rest =>
    match layout.fields with
    | [] => closeItems layout.draft rest
    | field :: fields =>
      match field.read leaveList layout.draft rest with
      | .error failure => .error failure
      | .ok (draft, behind) => moreFields fields draft behind

/-- Reads a value that must be such a record. -/
def read (layout : Layout δ α) (depth : Nat) : Reader α := fun rest =>
  match skipBlanks rest with
  | '\x7b' :: behind =>
    if depth = 0 then .error (stopAhead .tooDeep ('\x7b' :: behind))
    else
      match members layout.member layout.draft behind with
      | .error failure => .error failure
      | .ok (draft, behind) =>
        match layout.build draft with
        | .error name => .error (stop (.missingField name) behind)
        | .ok value => .ok (value, behind)
  | '[' :: behind =>
    if depth = 0 then .error (stopAhead .tooDeep ('[' :: behind))
    else
      match layout.readItems behind with
      | .error failure => .error failure
      | .ok (draft, behind) =>
        match layout.build draft with
        | .error name =>
          let position := layout.fields.findIdx fun field => field.name == name
          .error (stop (.tooShort position layout.title layout.fields.length) behind)
        | .ok value => .ok (value, behind)
  | rest => .error (mismatch layout.title rest)

end Layout

/-! ## Tags -/

/-- The value of a tag behind which the characters follow. -/
def tagged {α : Type} (known : List String) (ofTag? : String → Option α) (tag : String)
    (behind : List Char) : Result α :=
  match ofTag? tag with
  | none => .error (stop (.unknownTag tag known) behind)
  | some value => .ok (value, behind)

/-- Reads a value that must be one of the known tags: a text, or an object with the tag as its
only key and null as its value. -/
def tag {α : Type} (depth : Nat) (known : List String) (ofTag? : String → Option α) :
    Reader α := fun rest =>
  match skipBlanks rest with
  | [] => .error (stopAhead .endInValue [])
  | '"' :: behind =>
    match readText behind with
    | .error failure => .error failure
    | .ok (name, behind) => tagged known ofTag? name behind
  | '\x7b' :: behind =>
    if depth = 0 then .error (stopAhead .tooDeep ('\x7b' :: behind))
    else
      match skipBlanks behind with
      | [] => .error (stopAhead .endInObject [])
      | '\x7d' :: behind => .error (stopAhead .noValue ('\x7d' :: behind))
      | '"' :: behind =>
        match readText behind with
        | .error failure => .error failure
        | .ok (name, behind) =>
          match tagged known ofTag? name behind with
          | .error failure => .error failure
          | .ok (value, behind) =>
            match afterColon unit behind with
            | .error failure => .error failure
            | .ok ((), behind) =>
              match skipBlanks behind with
              | [] => .error (stop .endInObject [])
              | '\x7d' :: behind => .ok (value, behind)
              | rest => .error (stop .noValue rest)
      | rest => .error (stopAhead .noKey rest)
  | rest => .error (stopAhead .noValue rest)

/-! ## Values of any shape -/

/-- A value of any shape, as far as it matters when a text or a whole number is called for. -/
inductive Loose where
  /-- A text. -/
  | text (value : String)
  /-- A whole number. -/
  | whole (value : Int)
  /-- Anything else. -/
  | other
  deriving DecidableEq, Repr

/-- Reads a value of any shape, given the reader for the values in it. -/
def looseWith (depth : Nat) (inner : Reader Loose) : Reader Loose := fun rest =>
  match skipBlanks rest with
  | [] => .error (stopAhead .endInValue [])
  | 'n' :: behind => (readWord "ull".toList behind).map fun read => (.other, read.2)
  | 't' :: behind => (readWord "rue".toList behind).map fun read => (.other, read.2)
  | 'f' :: behind => (readWord "alse".toList behind).map fun read => (.other, read.2)
  | '"' :: behind => (readText behind).map fun read => (.text read.1, read.2)
  | '[' :: behind => (list depth inner ('[' :: behind)).map fun read => (.other, read.2)
  | '\x7b' :: behind => (table depth inner ('\x7b' :: behind)).map fun read => (.other, read.2)
  | char :: behind =>
    if char = '-' || char.isDigit then
      match readNumber (char :: behind) with
      | .error failure => .error failure
      | .ok (.whole value, behind) => .ok (.whole value, behind)
      | .ok (.floating _ _, behind) => .ok (.other, behind)
    else .error (stopAhead .noValue (char :: behind))

/-- Reads a value of any shape. -/
def loose : (depth : Nat) → Reader Loose
  | 0 => looseWith 0 fun rest => .error (stopAhead .tooDeep rest)
  | depth + 1 => looseWith (depth + 1) (loose depth)

/-! ## Whole documents -/

/-- How deep lists and objects may be nested in a document. -/
def maxDepth : Nat := 127

/-- Reads a document that holds one value and nothing else. -/
def readDocument {α : Type} (read : Nat → Reader α) (text : String) : Except Failure α :=
  match read maxDepth text.toList with
  | .error failure => .error failure
  | .ok (value, behind) =>
    match skipBlanks behind with
    | [] => .ok value
    | rest => .error (stopAhead .trailingCharacters rest)

end GrammarAtlas.Json
