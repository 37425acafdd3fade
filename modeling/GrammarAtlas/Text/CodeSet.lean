/-!
# Sets of characters

A set of characters is given by the ranges of code points that make it up, as the tables of
character properties are.
-/

namespace GrammarAtlas.Text

/-- A set of characters, given by inclusive ranges of code points. -/
structure CodeSet where
  /-- The first and the last code point of each range. -/
  ranges : List (Nat × Nat)

/-- Whether a character lies in one of the ranges. -/
def CodeSet.contains (set : CodeSet) (char : Char) : Bool :=
  set.ranges.any fun range => range.1 ≤ char.toNat && char.toNat ≤ range.2

/-- The characters with the property that tells blanks from marks: spaces, tabs, line breaks and
the other separators of text. -/
def blanks : CodeSet :=
  ⟨[(0x09, 0x0D), (0x20, 0x20), (0x85, 0x85), (0xA0, 0xA0), (0x1680, 0x1680), (0x2000, 0x200A),
    (0x2028, 0x2029), (0x202F, 0x202F), (0x205F, 0x205F), (0x3000, 0x3000)]⟩

/-- Whether a character separates words. -/
def isBlank (char : Char) : Bool := blanks.contains char

end GrammarAtlas.Text
