import GrammarAtlas.Pattern.Fault
import GrammarAtlas.Text.CodeSet

/-!
# Going through a pattern

A scanner goes through the characters of a pattern from the left. It knows its place, whether
blanks and comments count, and the group names so far, and it may fail.
-/

namespace GrammarAtlas.Pattern

/-- A place in a pattern with the characters behind it. -/
structure Cursor where
  /-- The place. -/
  mark : Mark
  /-- The characters behind the place. -/
  rest : List Char

/-- Where a scanner is and what it knows. -/
structure Scan where
  /-- The place. -/
  cursor : Cursor
  /-- Whether blanks and comments do not count. -/
  extended : Bool
  /-- The group names so far. -/
  names : List (List Char × Span)

/-- A step through a pattern. -/
abbrev Scanner := StateT Scan (Except Failure)

/-- The cursor behind the blanks and comments in front of it. -/
def skipComments : (inComment : Bool) → Mark → List Char → Cursor
  | _, mark, [] => ⟨mark, []⟩
  | true, mark, char :: rest => skipComments (char ≠ '\n') (mark.after char) rest
  | false, mark, char :: rest =>
    if Text.isBlank char then skipComments false (mark.after char) rest
    else if char = '#' then skipComments true (mark.after char) rest
    else ⟨mark, char :: rest⟩

/-- The next character that counts behind the one at the front, blanks and comments aside. A
comment is passed over up to its first character only. -/
def peekCounted : (inComment : Bool) → (behind : List Char) → List Char → Option Char
  | _, behind, [] => behind.head?
  | inComment, behind, char :: rest =>
    if Text.isBlank char then peekCounted inComment behind rest
    else if !inComment && char = '#' then peekCounted true behind rest
    else some char

namespace Scanner

/-- Fails with a part of the pattern to blame. -/
def fail {α : Type} (fault : Fault) (span : Span) : Scanner α := throw { fault, span }

/-- The place. -/
def mark : Scanner Mark := return (← get).cursor.mark

/-- The characters behind the place. -/
def rest : Scanner (List Char) := return (← get).cursor.rest

/-- The character behind the place. -/
def look : Scanner (Option Char) := return (← get).cursor.rest.head?

/-- Whether nothing is left. -/
def atEnd : Scanner Bool := return (← get).cursor.rest.isEmpty

/-- Goes to a place. -/
def goTo (cursor : Cursor) : Scanner Unit := modify fun scan => { scan with cursor }

/-- Goes over one character. Tells whether another one follows. -/
def bump : Scanner Bool := do
  match ← rest with
  | [] => return false
  | char :: rest =>
    goTo ⟨(← mark).after char, rest⟩
    return !rest.isEmpty

/-- Goes over blanks and comments, where they do not count. -/
def skipSpace : Scanner Unit := do
  let scan ← get
  if scan.extended then goTo (skipComments false scan.cursor.mark scan.cursor.rest)

/-- Goes over one character and what does not count behind it. Tells whether another one
follows. -/
def bumpSpace : Scanner Bool := do
  if ← bump then
    skipSpace
    return !(← atEnd)
  else return false

/-- Goes over the given characters, if they come next. -/
def bumpIf (word : String) : Scanner Bool := do
  if word.toList.isPrefixOf (← rest) then
    for _ in word.toList do
      discard bump
    return true
  else return false

/-- The part from the place up to behind the next character. -/
def charSpan : Scanner Span := do
  let start ← mark
  match ← look with
  | none => return .empty start
  | some char => return ⟨start, start.after char⟩

/-- The part from an earlier place up to here. -/
def spanFrom (start : Mark) : Scanner Span := return ⟨start, ← mark⟩

/-- The empty part at the place. -/
def emptySpan : Scanner Span := return .empty (← mark)

/-- The character behind the next one. -/
def peek : Scanner (Option Char) := return (← rest).tail.head?

/-- The character that counts behind the next one. -/
def peekSpace : Scanner (Option Char) := do
  let behind := (← rest).tail
  if (← get).extended then return peekCounted false behind behind else return behind.head?

/-- Goes over characters as long as they pass a test, at most `limit` of them, and over what does
not count behind each of them. -/
def takeWhile (test : Char → Bool) : (limit : Nat) → Scanner (List Char)
  | 0 => return []
  | limit + 1 => do
    match ← look with
    | none => return []
    | some char =>
      if test char then
        discard bumpSpace
        return char :: (← takeWhile test limit)
      else return []

/-- Goes over all characters that pass a test. -/
def takeAll (test : Char → Bool) : Scanner (List Char) := do
  takeWhile test (← rest).length

/-- Goes over blanks. -/
def skipBlanks : (limit : Nat) → Scanner Unit
  | 0 => return ()
  | limit + 1 => do
    match ← look with
    | none => return ()
    | some char =>
      if Text.isBlank char then
        discard bump
        skipBlanks limit

end Scanner

end GrammarAtlas.Pattern
