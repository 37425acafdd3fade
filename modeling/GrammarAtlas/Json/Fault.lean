import GrammarAtlas.Number.Shortest
import GrammarAtlas.Text.Quoted

/-!
# What can be wrong with a document

A `Fault` says why a document cannot be read, and `Fault.message` words it. A `Failure` adds the
place, as the number of bytes of the document that lie behind it: a reader knows only what it has
not read yet. `Failure.report` turns that number into a line and a column.
-/

namespace GrammarAtlas.Json

/-- A number in a document: whole, or with a 53-bit significand. -/
inductive Number where
  /-- A whole number of at most 64 bits. -/
  | whole (value : Int)
  /-- Any other number; zero below zero is one of them. -/
  | floating (negative : Bool) (magnitude : Binary64)
  deriving DecidableEq, Repr

/-- What a document holds in place of the value that is called for. -/
inductive Found where
  /-- The null value. -/
  | null
  /-- A truth value. -/
  | flag (value : Bool)
  /-- A number. -/
  | number (value : Number)
  /-- A text. -/
  | text (value : String)
  /-- The opening of a list. -/
  | list
  /-- The opening of an object. -/
  | object
  deriving DecidableEq, Repr

/-- The wording for a value that is not called for. -/
def Found.words : Found → String
  | .null => "null"
  | .flag value => "boolean `" ++ (if value then "true" else "false") ++ "`"
  | .number (.whole value) => "integer `" ++ toString value ++ "`"
  | .number (.floating negative magnitude) =>
    "floating point `" ++ (if negative then "-" else "") ++ magnitude.text ++ "`"
  | .text value => "string " ++ Text.quoted value
  | .list => "sequence"
  | .object => "map"

/-- Why a document cannot be read. -/
inductive Fault where
  /-- The document ends where a value is due. -/
  | endInValue
  /-- The document ends inside an object. -/
  | endInObject
  /-- The document ends inside a list. -/
  | endInList
  /-- The document ends inside a text. -/
  | endInText
  /-- No value starts here. -/
  | noValue
  /-- A word begins like `null`, `true` or `false` but goes on differently. -/
  | noWord
  /-- An object holds something other than a text in place of a key. -/
  | noKey
  /-- A key is not followed by a colon. -/
  | noColon
  /-- A member of an object is followed by neither a comma nor the closing brace. -/
  | objectGoesOn
  /-- An item of a list is followed by neither a comma nor the closing bracket. -/
  | listGoesOn
  /-- A comma is followed by the closing bracket or brace. -/
  | trailingComma
  /-- Something follows where everything has been read. -/
  | trailingCharacters
  /-- A text holds a control character. -/
  | controlCharacter
  /-- A text holds an unknown escape. -/
  | badEscape
  /-- The first half of a surrogate pair is not followed by an escape. -/
  | brokenPair
  /-- Half a surrogate pair stands alone. -/
  | loneSurrogate
  /-- A number is written in a wrong way. -/
  | badNumber
  /-- A number is too large. -/
  | numberOutOfRange
  /-- Lists and objects are nested too deep. -/
  | tooDeep
  /-- A value of another shape is called for. -/
  | wrongShape (found : Found) (wanted : String)
  /-- A record lacks a field. -/
  | missingField (name : String)
  /-- A record has a field twice. -/
  | repeatedField (name : String)
  /-- A record written as a list ends before a field that it needs. -/
  | tooShort (items : Nat) (wanted : String) (fields : Nat)
  /-- A tag is not one of the known ones. -/
  | unknownTag (tag : String) (known : List String)
  /-- A value is none of the alternatives of a type. -/
  | noAlternative (type : String)
  deriving DecidableEq, Repr

/-- The wording of a fault. -/
def Fault.message : Fault → String
  | .endInValue => "EOF while parsing a value"
  | .endInObject => "EOF while parsing an object"
  | .endInList => "EOF while parsing a list"
  | .endInText => "EOF while parsing a string"
  | .noValue => "expected value"
  | .noWord => "expected ident"
  | .noKey => "key must be a string"
  | .noColon => "expected `:`"
  | .objectGoesOn => "expected `,` or `\x7d`"
  | .listGoesOn => "expected `,` or `]`"
  | .trailingComma => "trailing comma"
  | .trailingCharacters => "trailing characters"
  | .controlCharacter => "control character (\\u0000-\\u001F) found while parsing a string"
  | .badEscape => "invalid escape"
  | .brokenPair => "unexpected end of hex escape"
  | .loneSurrogate => "lone leading surrogate in hex escape"
  | .badNumber => "invalid number"
  | .numberOutOfRange => "number out of range"
  | .tooDeep => "recursion limit exceeded"
  | .wrongShape found wanted => "invalid type: " ++ found.words ++ ", expected " ++ wanted
  | .missingField name => "missing field `" ++ name ++ "`"
  | .repeatedField name => "duplicate field `" ++ name ++ "`"
  | .tooShort items wanted fields =>
    "invalid length " ++ toString items ++ ", expected " ++ wanted ++ " with " ++
      toString fields ++ " elements"
  | .unknownTag tag known =>
    "unknown variant `" ++ tag ++ "`, expected one of " ++
      ", ".intercalate (known.map fun name => "`" ++ name ++ "`")
  | .noAlternative type => "data did not match any variant of untagged enum " ++ type

/-- A fault and its place. -/
structure Failure where
  /-- What is wrong. -/
  fault : Fault
  /-- The number of bytes of the document behind the place. -/
  left : Nat
  deriving DecidableEq, Repr

/-- The number of bytes that a part of a document takes up. -/
def byteCount (text : List Char) : Nat := text.foldl (fun count char => count + char.utf8Size) 0

/-- A place in a document as diagnostics give it. -/
structure Place where
  /-- One more than the number of line breaks before the place. -/
  line : Nat
  /-- The number of bytes between the last of them and the place. -/
  column : Nat
  deriving DecidableEq, Repr

/-- The place behind a number of bytes of the text. -/
def Place.advance (place : Place) : (bytes : Nat) → List Char → Place
  | 0, _ => place
  | bytes, [] => { place with column := place.column + bytes }
  | bytes, char :: rest =>
    if bytes < char.utf8Size then { place with column := place.column + bytes }
    else if char = '\n' then advance ⟨place.line + 1, 0⟩ (bytes - char.utf8Size) rest
    else
      advance { place with column := place.column + char.utf8Size } (bytes - char.utf8Size) rest

/-- The place of a failure in the document that it was found in. -/
def Failure.place (failure : Failure) (text : List Char) : Place :=
  Place.advance ⟨1, 0⟩ (byteCount text - failure.left) text

/-- The wording of a failure with its place in the document. -/
def Failure.report (failure : Failure) (text : List Char) : String :=
  let place := failure.place text
  failure.fault.message ++ " at line " ++ toString place.line ++ " column " ++
    toString place.column

end GrammarAtlas.Json
