/-!
# Places in a pattern

A diagnosis of a pattern marks a part of it. Places are counted in characters, with the line and
the column that a reader sees, both from one.
-/

namespace GrammarAtlas.Pattern

/-- A place between two characters of a pattern. -/
structure Mark where
  /-- The number of characters before the place. -/
  offset : Nat
  /-- The line of the place, from one. -/
  line : Nat
  /-- The column of the place, from one. -/
  column : Nat
  deriving DecidableEq, Repr

namespace Mark

/-- The place before the first character. -/
def first : Mark := ⟨0, 1, 1⟩

/-- The place behind a character that stands at this place. -/
def after (mark : Mark) (char : Char) : Mark :=
  if char = '\n' then ⟨mark.offset + 1, mark.line + 1, 1⟩
  else ⟨mark.offset + 1, mark.line, mark.column + 1⟩

end Mark

/-- A part of a pattern. -/
structure Span where
  /-- Where the part begins. -/
  start : Mark
  /-- Where the part ends. -/
  stop : Mark
  deriving DecidableEq, Repr

namespace Span

/-- The empty part at a place. -/
def empty (mark : Mark) : Span := ⟨mark, mark⟩

/-- Whether the part lies on one line. -/
def isOneLine (span : Span) : Bool := span.start.line = span.stop.line

/-- Whether a part comes before another one, or is it. -/
def precedes (left right : Span) : Bool :=
  left.start.offset < right.start.offset ||
    (left.start.offset = right.start.offset && left.stop.offset ≤ right.stop.offset)

end Span

end GrammarAtlas.Pattern
