import GrammarAtlas.Pattern.Span

/-!
# What can be wrong with a pattern

A `Fault` says why a pattern is refused, and `Fault.message` words it. A `Failure` adds the part
of the pattern that is to blame, and a second part where two of them collide.
-/

namespace GrammarAtlas.Pattern

/-- How deep groups, classes, repetitions and sequences may be nested in a pattern. -/
def maxNesting : Nat := 250

/-- Why a pattern is refused. -/
inductive Fault where
  /-- An escape in a class that is no character and no class. -/
  | classEscape
  /-- A range of a class that goes downwards. -/
  | rangeOrder
  /-- A range of a class with a class for a boundary. -/
  | rangeBoundary
  /-- A class that is not closed. -/
  | classUnclosed
  /-- A number of repetitions that is too large. -/
  | countTooLarge
  /-- A number of repetitions without digits. -/
  | countMissing
  /-- A counted repetition that is not closed. -/
  | countUnclosed
  /-- A counted repetition whose bounds are the wrong way round. -/
  | countOrder
  /-- A repetition of nothing. -/
  | repetitionOfNothing
  /-- A hexadecimal escape without digits. -/
  | hexMissing
  /-- A hexadecimal escape that is no character. -/
  | hexNoCharacter
  /-- A hexadecimal escape with another character. -/
  | hexDigit
  /-- An escape that the pattern ends in. -/
  | escapeUnfinished
  /-- An unknown escape. -/
  | escapeUnknown
  /-- A negation of flags that no flag follows. -/
  | flagsDangling
  /-- A flag that is given twice. -/
  | flagRepeated
  /-- A second negation of flags. -/
  | negationRepeated
  /-- Flags that the pattern ends in. -/
  | flagsUnfinished
  /-- An unknown flag. -/
  | flagUnknown
  /-- A group name that is given twice. -/
  | nameRepeated
  /-- A group name without characters. -/
  | nameEmpty
  /-- A character that no group name may have. -/
  | nameCharacter
  /-- A group name that the pattern ends in. -/
  | nameUnclosed
  /-- A group that is not closed. -/
  | groupUnclosed
  /-- A closing parenthesis without a group. -/
  | groupUnopened
  /-- Nesting that is too deep. -/
  | tooDeep
  /-- A named word boundary that is not closed. -/
  | boundaryUnclosed
  /-- A named word boundary of an unknown name. -/
  | boundaryUnknown
  /-- A word boundary with a brace that the pattern ends in. -/
  | boundaryUnfinished
  /-- A property that is named by a backslash. -/
  | propertyInvalid
  /-- A reference back to a group. -/
  | backreference
  /-- A condition on the text around. -/
  | lookAround
  /-- A character beyond the bytes where bytes are matched. -/
  | noCharacterHere
  /-- A match that is not valid text. -/
  | notText
  /-- An unknown property. -/
  | propertyUnknown
  /-- An unknown value of a property. -/
  | propertyValueUnknown
  deriving DecidableEq, Repr

/-- The wording of a fault. -/
def Fault.message : Fault → String
  | classEscape => "invalid escape sequence found in character class"
  | rangeOrder => "invalid character class range, the start must be <= the end"
  | rangeBoundary => "invalid range boundary, must be a literal"
  | classUnclosed => "unclosed character class"
  | countTooLarge => "decimal literal invalid"
  | countMissing => "repetition quantifier expects a valid decimal"
  | countUnclosed => "unclosed counted repetition"
  | countOrder => "invalid repetition count range, the start must be <= the end"
  | repetitionOfNothing => "repetition operator missing expression"
  | hexMissing => "hexadecimal literal empty"
  | hexNoCharacter => "hexadecimal literal is not a Unicode scalar value"
  | hexDigit => "invalid hexadecimal digit"
  | escapeUnfinished => "incomplete escape sequence, reached end of pattern prematurely"
  | escapeUnknown => "unrecognized escape sequence"
  | flagsDangling => "dangling flag negation operator"
  | flagRepeated => "duplicate flag"
  | negationRepeated => "flag negation operator repeated"
  | flagsUnfinished => "expected flag but got end of regex"
  | flagUnknown => "unrecognized flag"
  | nameRepeated => "duplicate capture group name"
  | nameEmpty => "empty capture group name"
  | nameCharacter => "invalid capture group character"
  | nameUnclosed => "unclosed capture group name"
  | groupUnclosed => "unclosed group"
  | groupUnopened => "unopened group"
  | tooDeep =>
    "exceed the maximum number of nested parentheses/brackets (" ++ toString maxNesting ++ ")"
  | boundaryUnclosed =>
    "special word boundary assertion is either unclosed or contains an invalid character"
  | boundaryUnknown =>
    "unrecognized special word boundary assertion, valid choices are: start, end, start-half " ++
      "or end-half"
  | boundaryUnfinished =>
    "found either the beginning of a special word boundary or a bounded repetition on a \\b " ++
      "with an opening brace, but no closing brace"
  | propertyInvalid => "invalid Unicode character class"
  | backreference => "backreferences are not supported"
  | lookAround => "look-around, including look-ahead and look-behind, is not supported"
  | noCharacterHere => "Unicode not allowed here"
  | notText => "pattern can match invalid UTF-8"
  | propertyUnknown => "Unicode property not found"
  | propertyValueUnknown => "Unicode property value not found"

/-- A fault and the parts of the pattern that it lies in. -/
structure Failure where
  /-- What is wrong. -/
  fault : Fault
  /-- The part that is to blame. -/
  span : Span
  /-- The earlier part that it collides with, where it does. -/
  earlier : Option Span := none
  deriving DecidableEq, Repr

end GrammarAtlas.Pattern
