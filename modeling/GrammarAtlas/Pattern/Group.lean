import GrammarAtlas.Pattern.Escape
import GrammarAtlas.Text.Letters

/-!
# Openings of groups

A parenthesis opens a group, which may have a name or flags of its own, or it encloses flags for
what follows. `scanGroup` reads the opening, up to where the group's content begins.
-/

namespace GrammarAtlas.Pattern

/-- What a parenthesis opens. -/
inductive Opening where
  /-- Flags for what follows; the parenthesis is closed already. -/
  | flags (span : Span) (items : List FlagItem)
  /-- A group, with the part that opens it. -/
  | group (span : Span) (flags : Option (List FlagItem))

/-- Whether a character may stand in the name of a group. -/
def isNameChar (first : Bool) (char : Char) : Bool :=
  if first then char = '_' || Text.isLetter char
  else char = '_' || char = '.' || char = '[' || char = ']' || Text.isLetterOrNumeral char

/-- Reads the characters of a name up to its closing bracket. -/
def scanNameChars (first : Bool) : (limit : Nat) → Scanner (List Char)
  | 0 => return []
  | limit + 1 => do
    match ← Scanner.look with
    | none => return []
    | some char =>
      if char = '>' then return []
      else if isNameChar first char then
        discard Scanner.bump
        return char :: (← scanNameChars false limit)
      else Scanner.fail .nameCharacter (← Scanner.charSpan)

/-- Reads the name of a group from behind its opening bracket. -/
def scanName : Scanner Unit := do
  let start ← Scanner.mark
  let name ← scanNameChars true (← Scanner.rest).length
  let span ← Scanner.spanFrom start
  if ← Scanner.atEnd then Scanner.fail .nameUnclosed (← Scanner.emptySpan)
  discard Scanner.bump
  if name.isEmpty then Scanner.fail .nameEmpty (.empty start)
  match (← get).names.find? fun known => known.1 = name with
  | some known => throw { fault := .nameRepeated, span, earlier := some known.2 }
  | none => modify fun scan => { scan with names := (name, span) :: scan.names }

/-- The flag or negation that a character stands for. -/
def flagItem? : Char → Option FlagItem
  | '-' => some .negation
  | char => (Flag.ofChar? char).map .flag

/-- The fault of an item that has been given before. -/
def FlagItem.repeatedFault : FlagItem → Fault
  | .negation => .negationRepeated
  | .flag _ => .flagRepeated

/-- Reads flags up to the character that ends them, the items before in reverse in `done`. -/
def scanFlags : (limit : Nat) → (done : List (FlagItem × Span)) → Scanner (List FlagItem)
  | 0, done => return (done.map Prod.fst).reverse
  | limit + 1, done => do
    let span ← Scanner.charSpan
    match ← Scanner.look with
    | none => Scanner.fail .flagsUnfinished span
    | some char =>
      if char = ':' || char = ')' then
        match done with
        | (.negation, dash) :: _ => Scanner.fail .flagsDangling dash
        | _ => return (done.map Prod.fst).reverse
      else
        match flagItem? char with
        | none => Scanner.fail .flagUnknown span
        | some item =>
          match done.find? fun known => known.1 = item with
          | some known => throw { fault := item.repeatedFault, span, earlier := some known.2 }
          | none =>
            discard Scanner.bump
            scanFlags limit ((item, span) :: done)

/-- Goes over the beginning of a condition on the text around, if it is one. -/
def scanLookAround : Scanner Bool := do
  if ← Scanner.bumpIf "?=" then return true
  if ← Scanner.bumpIf "?!" then return true
  if ← Scanner.bumpIf "?<=" then return true
  Scanner.bumpIf "?<!"

/-- Reads the opening of a group from its parenthesis. -/
def scanGroup : Scanner Opening := do
  let parenthesis ← Scanner.charSpan
  discard Scanner.bump
  Scanner.skipSpace
  if ← scanLookAround then
    Scanner.fail .lookAround (← Scanner.spanFrom parenthesis.start)
  let inner ← Scanner.emptySpan
  if ← (do if ← Scanner.bumpIf "?P<" then return true else Scanner.bumpIf "?<") then
    scanName
    return .group parenthesis none
  else if ← Scanner.bumpIf "?" then
    if ← Scanner.atEnd then Scanner.fail .groupUnclosed parenthesis
    let items ← scanFlags ((← Scanner.rest).length + 1) []
    let closed := (← Scanner.look) = some ')'
    discard Scanner.bump
    if closed then
      if items.isEmpty then Scanner.fail .repetitionOfNothing inner
      return .flags (← Scanner.spanFrom parenthesis.start) items
    else return .group parenthesis (some items)
  else return .group parenthesis none

end GrammarAtlas.Pattern
