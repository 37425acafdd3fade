import GrammarAtlas.Pattern.Node
import GrammarAtlas.Pattern.Scanner

/-!
# Escapes

A backslash begins a character by number, a class of characters, a condition on the place, or a
character that would otherwise mean something else. `scanEscape` reads all of them, inside classes
and outside; what a class admits is decided there.
-/

namespace GrammarAtlas.Pattern

/-- What stands for itself: a character, a condition or a class without brackets. -/
inductive Primitive where
  /-- A character. -/
  | literal (char : Literal)
  /-- A condition on the place. -/
  | assertion (span : Span)
  /-- Any character. -/
  | dot (span : Span)
  /-- The characters with a property. -/
  | property (span : Span) (query : Query)
  /-- Digits, spaces, word characters or all others. -/
  | perl (span : Span) (negated : Bool)

namespace Primitive

/-- Where a primitive stands. -/
def span : Primitive → Span
  | literal char => char.span
  | assertion span => span
  | dot span => span
  | property span _ => span
  | perl span _ => span

/-- A primitive as a part of a pattern. -/
def toNode : Primitive → Node
  | literal char => .literal char
  | assertion span => .assertion span
  | dot span => .dot span
  | property span query => .property span query
  | perl span negated => .perl span negated

/-- A primitive as an item of a class. -/
def toItem : Primitive → Scanner ClassItem
  | literal char => return .literal char
  | property span query => return .property span query
  | perl span negated => return .perl span negated
  | assertion span => Scanner.fail .classEscape span
  | dot span => Scanner.fail .classEscape span

/-- A primitive as a boundary of a range. -/
def toBoundary : Primitive → Scanner Literal
  | literal char => return char
  | other => Scanner.fail .rangeBoundary other.span

end Primitive

/-! ## Characters by number -/

/-- Whether a character is a hexadecimal digit. -/
def isHex (char : Char) : Bool :=
  char.isDigit || ('a' ≤ char && char ≤ 'f') || ('A' ≤ char && char ≤ 'F')

/-- The number that hexadecimal digits write. -/
def hexNumber (digits : List Char) : Nat :=
  digits.foldl
    (fun number digit =>
      number * 16 +
        (if digit.isDigit then digit.toNat - '0'.toNat
          else if 'a' ≤ digit then digit.toNat - 'a'.toNat + 10
          else digit.toNat - 'A'.toNat + 10))
    0

/-- The character of a number. -/
def charOf? (number : Nat) : Option Char :=
  if number.isValidChar then some (Char.ofNat number) else none

/-- Reads that many hexadecimal digits, the last one without going over it. -/
def scanHexDigits : (count : Nat) → Scanner (List Char)
  | 0 => return []
  | count + 1 => do
    match ← Scanner.look with
    | none => Scanner.fail .escapeUnfinished (← Scanner.emptySpan)
    | some digit =>
      if isHex digit then
        if count = 0 then return [digit]
        else if ← Scanner.bumpSpace then return digit :: (← scanHexDigits count)
        else Scanner.fail .escapeUnfinished (← Scanner.emptySpan)
      else Scanner.fail .hexDigit (← Scanner.charSpan)

/-- Reads a character by that many digits; `start` is where its backslash stands. -/
def scanHexFixed (start : Mark) (count : Nat) : Scanner Primitive := do
  let digitsStart ← Scanner.mark
  let digits ← scanHexDigits count
  discard Scanner.bumpSpace
  match charOf? (hexNumber digits) with
  | none => Scanner.fail .hexNoCharacter (← Scanner.spanFrom digitsStart)
  | some char => return .literal ⟨← Scanner.spanFrom start, char, count = 2⟩

/-- Reads a character by the digits between braces. -/
def scanHexBraced (start : Mark) : Scanner Primitive := do
  let brace ← Scanner.mark
  let digitsStart := (← Scanner.charSpan).stop
  discard Scanner.bumpSpace
  let digits ← Scanner.takeAll isHex
  match ← Scanner.look with
  | none => Scanner.fail .escapeUnfinished (← Scanner.spanFrom brace)
  | some '\x7d' =>
    let digitsStop ← Scanner.mark
    discard Scanner.bumpSpace
    if digits.isEmpty then Scanner.fail .hexMissing (← Scanner.spanFrom brace)
    else
      match charOf? (hexNumber digits) with
      | none => Scanner.fail .hexNoCharacter ⟨digitsStart, digitsStop⟩
      | some char => return .literal ⟨← Scanner.spanFrom start, char, false⟩
  | some _ => Scanner.fail .hexDigit (← Scanner.charSpan)

/-- Reads a character by its number from the letter that says how many digits it has. -/
def scanHex (start : Mark) (count : Nat) : Scanner Primitive := do
  if ← Scanner.bumpSpace then
    if (← Scanner.look) = some '\x7b' then scanHexBraced start else scanHexFixed start count
  else Scanner.fail .escapeUnfinished (← Scanner.emptySpan)

/-! ## Properties -/

/-- Splits a text at the first place where another one stands. -/
def splitAt? (separator : List Char) : (before : List Char) → List Char →
    Option (List Char × List Char)
  | _, [] => none
  | before, char :: rest =>
    if separator.isPrefixOf (char :: rest) then
      some (before.reverse, (char :: rest).drop separator.length)
    else splitAt? separator (char :: before) rest

/-- What the text between the braces of a property asks for: the first of three separators that
occurs tells the value from the property. -/
def queryOf (text : List Char) : Query :=
  match splitAt? ['!', '='] [] text <|> splitAt? [':'] [] text <|> splitAt? ['='] [] text with
  | some (property, value) => .value (String.ofList property) (String.ofList value)
  | none => .name (String.ofList text)

/-- Reads a property from the letter that begins it. -/
def scanProperty (start : Mark) : Scanner Primitive := do
  if ← Scanner.bumpSpace then
    match ← Scanner.look with
    | none => Scanner.fail .escapeUnfinished (← Scanner.emptySpan)
    | some '\x7b' =>
      discard Scanner.bumpSpace
      let text ← Scanner.takeAll (· ≠ '\x7d')
      if ← Scanner.atEnd then Scanner.fail .escapeUnfinished (← Scanner.emptySpan)
      else
        discard Scanner.bump
        return .property (← Scanner.spanFrom start) (queryOf text)
    | some '\\' => Scanner.fail .propertyInvalid (← Scanner.charSpan)
    | some char =>
      discard Scanner.bumpSpace
      return .property (← Scanner.spanFrom start) (.name (String.ofList [char]))
  else Scanner.fail .escapeUnfinished (← Scanner.emptySpan)

/-! ## Word boundaries -/

/-- Whether a character may be part of the name of a word boundary. -/
def isBoundaryChar (char : Char) : Bool := char.isAlpha || char = '-'

/-- Reads the name of a word boundary in braces behind `\b`, unless the braces hold something else,
which then counts repetitions. -/
def scanBoundaryName (start : Mark) : Scanner Unit := do
  let brace := (← get).cursor
  if ← Scanner.bumpSpace then
    let nameStart ← Scanner.mark
    if (← Scanner.look).any isBoundaryChar then
      let name ← Scanner.takeAll isBoundaryChar
      if (← Scanner.look) = some '\x7d' then
        let nameStop ← Scanner.mark
        discard Scanner.bump
        unless ["start", "end", "start-half", "end-half"].contains (String.ofList name) do
          Scanner.fail .boundaryUnknown ⟨nameStart, nameStop⟩
      else Scanner.fail .boundaryUnclosed (← Scanner.spanFrom brace.mark)
    else Scanner.goTo brace
  else Scanner.fail .boundaryUnfinished (← Scanner.spanFrom start)

/-! ## All escapes -/

/-- The characters that mean something when they are not escaped. -/
def metaChars : List Char := "\\.+*?()|[]\x7b\x7d^$#&-~".toList

/-- Whether an escaped character stands for itself: meta characters do, and so do all characters
below 128 but letters, digits and angle brackets. -/
def isPlainEscape (char : Char) : Bool :=
  metaChars.contains char || (char.toNat < 128 && !char.isAlphanum && char ≠ '<' && char ≠ '>')

/-- The control characters that letters stand for. -/
def controlChar? : Char → Option Char
  | 'a' => some '\x07'
  | 'f' => some '\x0c'
  | 't' => some '\t'
  | 'n' => some '\n'
  | 'r' => some '\r'
  | 'v' => some '\x0b'
  | _ => none

/-- Reads an escape of one character that has been gone over. -/
def scanShortEscape (start : Mark) (char : Char) : Scanner Primitive := do
  let span ← Scanner.spanFrom start
  if isPlainEscape char then return .literal ⟨span, char, false⟩
  else
    match controlChar? char with
    | some control => return .literal ⟨span, control, false⟩
    | none =>
      match char with
      | 'b' =>
        if (← Scanner.look) = some '\x7b' then scanBoundaryName start
        return .assertion (← Scanner.spanFrom start)
      | 'A' | 'z' | 'B' | '<' | '>' => return .assertion span
      | _ => Scanner.fail .escapeUnknown span

/-- Reads an escape. -/
def scanEscape : Scanner Primitive := do
  let start ← Scanner.mark
  if ← Scanner.bump then
    match ← Scanner.look with
    | none => Scanner.fail .escapeUnfinished (← Scanner.spanFrom start)
    | some char =>
      match char with
      | 'x' => scanHex start 2
      | 'u' => scanHex start 4
      | 'U' => scanHex start 8
      | 'p' | 'P' => scanProperty start
      | 'd' | 's' | 'w' =>
        discard Scanner.bump
        return .perl (← Scanner.spanFrom start) false
      | 'D' | 'S' | 'W' =>
        discard Scanner.bump
        return .perl (← Scanner.spanFrom start) true
      | _ =>
        if char.isDigit then
          Scanner.fail .backreference ⟨start, (← Scanner.charSpan).stop⟩
        else
          discard Scanner.bump
          scanShortEscape start char
  else Scanner.fail .escapeUnfinished (← Scanner.spanFrom start)

end GrammarAtlas.Pattern
