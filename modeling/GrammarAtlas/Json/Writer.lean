/-!
# Writing documents

A writer gives the characters of a value. Lists and objects are written over several lines, each
item or member on a line of its own and indented by two spaces more than what encloses it; those
without items or members are written as a pair of brackets. Texts escape quotes, backslashes and
control characters, and nothing else.
-/

namespace GrammarAtlas.Json

/-- Writes a value in a line that is indented by so many levels. -/
abbrev Writer := (level : Nat) → List Char

/-- The hexadecimal digit of a number below sixteen. -/
def hexDigit (value : Nat) : Char :=
  if value < 10 then Char.ofNat ('0'.toNat + value) else Char.ofNat ('a'.toNat + (value - 10))

/-- A character as it stands in a text. -/
def escaped (char : Char) : List Char :=
  if char = '"' then ['\\', '"']
  else if char = '\\' then ['\\', '\\']
  else if char = '\x08' then ['\\', 'b']
  else if char = '\x0c' then ['\\', 'f']
  else if char = '\n' then ['\\', 'n']
  else if char = '\r' then ['\\', 'r']
  else if char = '\t' then ['\\', 't']
  else if char.toNat < 32 then
    ['\\', 'u', '0', '0', hexDigit (char.toNat / 16), hexDigit (char.toNat % 16)]
  else [char]

namespace Writer

/-- Writes a text. -/
def text (value : String) : Writer := fun _ => '"' :: value.toList.flatMap escaped ++ ['"']

/-- Writes a truth value. -/
def flag (value : Bool) : Writer := fun _ => (if value then "true" else "false").toList

/-- A line break with the indentation behind it. -/
def newLine (level : Nat) : List Char := '\n' :: List.replicate (2 * level) ' '

/-- Writes parts between brackets, each on a line of its own. -/
def bracketed (opening closing : Char) (parts : List Writer) : Writer := fun level =>
  if parts.isEmpty then [opening, closing]
  else
    opening :: newLine (level + 1) ++
      (',' :: newLine (level + 1)).intercalate (parts.map fun part => part (level + 1)) ++
      newLine level ++ [closing]

/-- Writes a list. -/
def list (items : List Writer) : Writer := bracketed '[' ']' items

/-- Writes a member of an object. -/
def member (key : String) (value : Writer) : Writer := fun level =>
  text key level ++ ':' :: ' ' :: value level

/-- Writes an object. -/
def object (members : List (String × Writer)) : Writer :=
  bracketed '\x7b' '\x7d' (members.map fun (key, value) => member key value)

/-- The member of an object for a value that may be absent. -/
def ifPresent {α : Type} (key : String) (write : α → Writer) : Option α → List (String × Writer)
  | none => []
  | some value => [(key, write value)]

end Writer

end GrammarAtlas.Json
