import GrammarAtlas.Json.Reader
import GrammarAtlas.Json.Writer
import Mathlib.Data.List.Forall2

/-!
# How values are spelled

A document can spell one value in many ways: blanks may stand between its parts, a character of a
text may stand as it is or in an escape, and the members of an object may come in any order. The
relations here say which characters spell which value. They speak of how a document is written
only, not of how it is read.

Lists and objects nest to a limited depth, so the relations for them take the number of levels that
are left, and expect the relations for their parts to have been given one less. Where nothing is
asked for, any value will do (`IsValue`), nested to any depth.
-/

namespace GrammarAtlas.Json

/-- Characters that may stand between the parts of a document. -/
def Blank (chars : List Char) : Prop := ∀ char ∈ chars, isBlank char

instance (chars : List Char) : Decidable (Blank chars) :=
  List.decidableBAll (fun char => isBlank char) chars

/-! ## Words and numbers -/

/-- A truth value is a word. -/
def SpellsFlag (value : Bool) (chars : List Char) : Prop :=
  chars = (if value then "true" else "false").toList

/-- A whole number is written in decimal, with a minus sign if it is below zero. -/
def SpellsWhole (value : Int) (chars : List Char) : Prop := chars = (toString value).toList

/-- A value that may be missing is null or spelled as values of its kind are. -/
def SpellsOption {α : Type} (spells : α → List Char → Prop) : Option α → List Char → Prop
  | none, chars => chars = "null".toList
  | some value, chars => spells value chars

/-! ## Texts -/

/-- A hexadecimal digit, in either case. -/
def SpellsDigit (value : Nat) (char : Char) : Prop :=
  char = hexDigit value ∨ char = (hexDigit value).toUpper

/-- A number of 16 bits in four hexadecimal digits. -/
def SpellsUnit (unit : Nat) (chars : List Char) : Prop :=
  unit < 0x10000 ∧
    List.Forall₂ SpellsDigit [unit / 0x1000, unit / 0x100 % 16, unit / 0x10 % 16, unit % 16] chars

/-- The escapes of one letter: what they stand for, and the letter. -/
def shortEscapes : List (Char × Char) :=
  [('"', '"'), ('\\', '\\'), ('/', '/'), ('\x08', 'b'), ('\x0c', 'f'), ('\n', 'n'), ('\r', 'r'),
    ('\t', 't')]

/-- A character that may stand in a text as it is. -/
def IsPlain (char : Char) : Prop := char ≠ '"' ∧ char ≠ '\\' ∧ 0x20 ≤ char.toNat

instance (char : Char) : Decidable (IsPlain char) := inferInstanceAs (Decidable (_ ∧ _ ∧ _))

/-- How a character may stand in a text. -/
inductive SpellsChar (char : Char) : List Char → Prop
  /-- As it is. -/
  | plain : IsPlain char → SpellsChar char [char]
  /-- As an escape of one letter. -/
  | short {letter : Char} : (char, letter) ∈ shortEscapes → SpellsChar char ['\\', letter]
  /-- By its number, if that has 16 bits. -/
  | numbered {digits : List Char} :
    SpellsUnit char.toNat digits → SpellsChar char ('\\' :: 'u' :: digits)
  /-- By the numbers of a surrogate pair, if its own has more. -/
  | paired {leading trailing : List Char} : 0x10000 ≤ char.toNat →
    SpellsUnit (0xD800 + (char.toNat - 0x10000) / 0x400) leading →
    SpellsUnit (0xDC00 + (char.toNat - 0x10000) % 0x400) trailing →
    SpellsChar char ('\\' :: 'u' :: (leading ++ '\\' :: 'u' :: trailing))

/-- Parts of a text between quotes. -/
def quote (parts : List (List Char)) : List Char := '"' :: (parts.flatten ++ ['"'])

/-- A text is spelled character by character. -/
def SpellsText (value : String) (chars : List Char) : Prop :=
  ∃ parts, List.Forall₂ SpellsChar value.toList parts ∧ chars = quote parts

/-! ## Lists and objects -/

/-- Parts one after another, with commas between them and blanks around the commas. -/
inductive Joined : (parts : List (List Char)) → List Char → Prop
  /-- The last part. -/
  | last {part after : List Char} : Blank after → Joined [part] (part ++ after)
  /-- A part in front of others. -/
  | next {part after before chars : List Char} {parts : List (List Char)} :
    Blank after → Blank before → Joined parts chars →
    Joined (part :: parts) (part ++ (after ++ ',' :: (before ++ chars)))

/-- Parts between brackets. -/
inductive Bracketed (opening closing : Char) : (parts : List (List Char)) → List Char → Prop
  /-- Without any part. -/
  | none {blank : List Char} :
    Blank blank → Bracketed opening closing [] (opening :: (blank ++ [closing]))
  /-- With some parts. -/
  | some {parts : List (List Char)} {before chars : List Char} :
    Blank before → Joined parts chars →
    Bracketed opening closing parts (opening :: (before ++ (chars ++ [closing])))

/-- How a member of an object is written. -/
structure Member where
  /-- The key with its quotes. -/
  key : List Char
  /-- What stands between the key and its colon. -/
  before : List Char
  /-- What stands between the colon and the value. -/
  after : List Char
  /-- The value. -/
  value : List Char

/-- The characters of a member. -/
def Member.chars (member : Member) : List Char :=
  member.key ++ (member.before ++ ':' :: (member.after ++ member.value))

/-- There are only blanks around the colon of a member. -/
def Member.Spaced (member : Member) : Prop := Blank member.before ∧ Blank member.after

instance (member : Member) : Decidable member.Spaced := inferInstanceAs (Decidable (_ ∧ _))

/-- An object with the members. -/
def IsObject (members : List Member) (chars : List Char) : Prop :=
  (∀ member ∈ members, member.Spaced) ∧
    Bracketed '\x7b' '\x7d' (members.map Member.chars) chars

/-- A list is spelled item by item. -/
def SpellsList {α : Type} (depth : Nat) (spells : α → List Char → Prop) (values : List α)
    (chars : List Char) : Prop :=
  0 < depth ∧ ∃ parts, List.Forall₂ spells values parts ∧ Bracketed '[' ']' parts chars

/-- A table is spelled as an object with its entries. -/
def SpellsTable {α : Type} (depth : Nat) (spells : α → List Char → Prop)
    (entries : List (String × α)) (chars : List Char) : Prop :=
  0 < depth ∧ ∃ members,
    List.Forall₂ (fun entry member => SpellsText entry.1 member.key ∧ spells entry.2 member.value)
      entries members ∧ IsObject members chars

/-! ## Values of any shape -/

/-- A part of a text that nothing asks for: a character or an escape. Half a surrogate pair may
stand alone. -/
inductive IsPiece : List Char → Prop
  /-- A character as it is. -/
  | plain {char : Char} : IsPlain char → IsPiece [char]
  /-- An escape of one letter. -/
  | short {char letter : Char} : (char, letter) ∈ shortEscapes → IsPiece ['\\', letter]
  /-- An escape by number. -/
  | numbered {unit : Nat} {digits : List Char} :
    SpellsUnit unit digits → IsPiece ('\\' :: 'u' :: digits)

/-- The characters are a text. -/
def IsText (chars : List Char) : Prop := ∃ parts, (∀ part ∈ parts, IsPiece part) ∧
  chars = quote parts

/-- The characters are digits, one at least. -/
def IsDigits (chars : List Char) : Prop := chars ≠ [] ∧ ∀ char ∈ chars, char.isDigit

/-- The characters are the digits of a whole number: zero does not stand in front of others. -/
def IsWhole (chars : List Char) : Prop :=
  chars = ['0'] ∨ ∃ digit digits, chars = digit :: digits ∧ digit ≠ '0' ∧ IsDigits chars

/-- The characters are a decimal point with digits, or nothing. -/
def IsFraction (chars : List Char) : Prop :=
  chars = [] ∨ ∃ digits, IsDigits digits ∧ chars = '.' :: digits

/-- The characters are an exponent, or nothing. -/
def IsExponent (chars : List Char) : Prop :=
  chars = [] ∨ ∃ letter ∈ ['e', 'E'], ∃ sign ∈ [[], ['+'], ['-']], ∃ digits,
    IsDigits digits ∧ chars = letter :: (sign ++ digits)

/-- The characters are a number. -/
def IsNumber (chars : List Char) : Prop :=
  ∃ sign ∈ [[], ['-']], ∃ whole fraction exponent, IsWhole whole ∧ IsFraction fraction ∧
    IsExponent exponent ∧ chars = sign ++ (whole ++ (fraction ++ exponent))

/-- The characters are a value of some shape. -/
inductive IsValue : List Char → Prop
  /-- Null. -/
  | null : IsValue "null".toList
  /-- A truth value. -/
  | flag {value : Bool} {chars : List Char} : SpellsFlag value chars → IsValue chars
  /-- A number. -/
  | number {chars : List Char} : IsNumber chars → IsValue chars
  /-- A text. -/
  | text {chars : List Char} : IsText chars → IsValue chars
  /-- A list of values. -/
  | list {parts : List (List Char)} {chars : List Char} :
    (∀ part ∈ parts, IsValue part) → Bracketed '[' ']' parts chars → IsValue chars
  /-- An object of values. -/
  | object {members : List Member} {chars : List Char} :
    (∀ member ∈ members, IsText member.key) → (∀ member ∈ members, IsValue member.value) →
    IsObject members chars → IsValue chars

/-! ## Records -/

/-- A key of a record, and what it holds. -/
structure Property where
  /-- The key. -/
  name : String
  /-- Whether the key may be left out. -/
  optional : Prop
  /-- How what it holds is spelled. -/
  spells : List Char → Prop

/-- The property for a value that may be missing: it is left out then, or null. -/
def Property.ofOption {α : Type} (name : String) (spells : α → List Char → Prop)
    (value : Option α) : Property := ⟨name, value = none, SpellsOption spells value⟩

/-- The members, each with the text that is its key, make up the properties. -/
structure MakesUp (properties : List Property) (members : List (String × Member)) : Prop where
  /-- Keys are spelled as texts are. -/
  keys : ∀ entry ∈ members, SpellsText entry.1 entry.2.key
  /-- No property is repeated. -/
  single : ∀ property ∈ properties, (members.map Prod.fst).count property.name ≤ 1
  /-- No property is left out unless it may be. -/
  complete : ∀ property ∈ properties, property.optional ∨ property.name ∈ members.map Prod.fst
  /-- The key of a property holds what it ought to. -/
  known : ∀ entry ∈ members, ∀ property ∈ properties, property.name = entry.1 →
    property.spells entry.2.value
  /-- Any other key holds any value. -/
  unknown : ∀ entry ∈ members, entry.1 ∉ properties.map Property.name → IsValue entry.2.value

/-- A record is spelled as an object whose members make up its properties, in any order. -/
def SpellsRecord (depth : Nat) (properties : List Property) (chars : List Char) : Prop :=
  0 < depth ∧ ∃ members, MakesUp properties members ∧ IsObject (members.map Prod.snd) chars

/-- A document holds a value with blanks around it. -/
def IsDocument (spells : List Char → Prop) (text : String) : Prop :=
  ∃ before chars after, Blank before ∧ Blank after ∧ spells chars ∧
    text.toList = before ++ (chars ++ after)

/-! ## Other levels -/

section

variable {α : Type} {spells spells' : α → List Char → Prop} {depth depth' : Nat}
  {chars : List Char}

/-- A value that may be missing is spelled in another way if what it holds is. -/
theorem SpellsOption.imp {value : Option α}
    (held : ∀ inner ∈ value, ∀ chars, spells inner chars → spells' inner chars)
    (spelled : SpellsOption spells value chars) : SpellsOption spells' value chars := by
  cases value with
  | none => exact spelled
  | some inner => exact held inner rfl chars spelled

/-- A list is spelled where other levels are left if its items are. -/
theorem SpellsList.imp {values : List α} (deep : 0 < depth')
    (held : ∀ value ∈ values, ∀ chars, spells value chars → spells' value chars)
    (spelled : SpellsList depth spells values chars) : SpellsList depth' spells' values chars := by
  obtain ⟨_, parts, each, bracketed⟩ := spelled
  have both := (List.forall₂_and_left values parts).mpr ⟨held, each⟩
  exact ⟨deep, parts, both.imp fun _ _ spelled => spelled.1 _ spelled.2, bracketed⟩

/-- A table is spelled where other levels are left if its values are. -/
theorem SpellsTable.imp {entries : List (String × α)} (deep : 0 < depth')
    (held : ∀ entry ∈ entries, ∀ chars, spells entry.2 chars → spells' entry.2 chars)
    (spelled : SpellsTable depth spells entries chars) :
    SpellsTable depth' spells' entries chars := by
  obtain ⟨_, members, each, object⟩ := spelled
  have both := (List.forall₂_and_left entries members).mpr ⟨held, each⟩
  exact ⟨deep, members, both.imp fun _ _ spelled => ⟨spelled.2.1, spelled.1 _ spelled.2.2⟩, object⟩

/-- What one property spells, another of the same key does too, and it is left out no less. -/
structure Property.Within (property property' : Property) : Prop where
  /-- The keys are the same. -/
  name : property.name = property'.name
  /-- The other one may be left out if the one may. -/
  optional : property.optional → property'.optional
  /-- What the one spells, the other spells. -/
  spells : ∀ chars, property.spells chars → property'.spells chars

/-- A record is spelled where other levels are left if what its properties hold is. -/
theorem SpellsRecord.imp {properties properties' : List Property} (deep : 0 < depth')
    (within : List.Forall₂ Property.Within properties properties')
    (spelled : SpellsRecord depth properties chars) : SpellsRecord depth' properties' chars := by
  obtain ⟨_, members, makes, object⟩ := spelled
  refine ⟨deep, members, ?_, object⟩
  have exists_within (property' : Property) (listed : property' ∈ properties') :
      ∃ property ∈ properties, property.Within property' := by
    clear makes
    induction within with
    | nil => exact absurd listed List.not_mem_nil
    | @cons property other _ _ first _ ih =>
      rcases List.mem_cons.mp listed with rfl | listed
      · exact ⟨property, List.mem_cons_self, first⟩
      · obtain ⟨property, among, within⟩ := ih listed
        exact ⟨property, List.mem_cons_of_mem _ among, within⟩
  have names : properties.map Property.name = properties'.map Property.name := by
    clear makes exists_within
    induction within with
    | nil => rfl
    | cons first _ ih => rw [List.map_cons, List.map_cons, first.name, ih]
  constructor
  · exact makes.keys
  · intro property' listed
    obtain ⟨property, among, within⟩ := exists_within property' listed
    exact within.name ▸ makes.single property among
  · intro property' listed
    obtain ⟨property, among, within⟩ := exists_within property' listed
    exact (makes.complete property among).imp within.optional fun found => within.name ▸ found
  · intro entry held property' listed same
    obtain ⟨property, among, within⟩ := exists_within property' listed
    exact within.spells _ (makes.known entry held property among (within.name.trans same))
  · intro entry held foreign
    exact makes.unknown entry held (names ▸ foreign)

/-- A document holds a value that is spelled in another way if each spelling is one in that way. -/
theorem IsDocument.imp {spells spells' : List Char → Prop} {text : String}
    (held : ∀ chars, spells chars → spells' chars) (document : IsDocument spells text) :
    IsDocument spells' text := by
  obtain ⟨before, chars, after, blank, blank', spelled, holds⟩ := document
  exact ⟨before, chars, after, blank, blank', held chars spelled, holds⟩

/-- A property for a value that may be missing is within another for the same value. -/
theorem Property.Within.ofOption (name : String) {value : Option α}
    (held : ∀ inner ∈ value, ∀ chars, spells inner chars → spells' inner chars) :
    (Property.ofOption name spells value).Within (.ofOption name spells' value) :=
  ⟨rfl, id, fun _ spelled => SpellsOption.imp held spelled⟩

/-- A property is within itself. -/
theorem Property.Within.refl (property : Property) : property.Within property :=
  ⟨rfl, id, fun _ spelled => spelled⟩

end

end GrammarAtlas.Json
