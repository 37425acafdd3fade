import GrammarAtlas.Pattern.Escape

/-!
# Character classes

A class in brackets is a union of characters, ranges and other classes. Doubled operators split it
into parts that are combined from the left, and classes may stand in classes. `scanClass` keeps
the classes that are still open on a stack.
-/

namespace GrammarAtlas.Pattern

/-- The items of a class so far, in reverse, and where they stand. -/
structure Union where
  /-- Where the items stand. -/
  span : Span
  /-- The items, the last one first. -/
  items : List ClassItem

namespace Union

/-- No items at a place. -/
def empty (mark : Mark) : Union := ⟨.empty mark, []⟩

/-- The items with a further one. -/
def push (union : Union) (item : ClassItem) : Union :=
  { span := ⟨if union.items.isEmpty then item.span.start else union.span.start, item.span.stop⟩
    items := item :: union.items }

/-- The items as one. -/
def toItem (union : Union) : ClassItem :=
  match union.items with
  | [] => .empty union.span
  | [item] => item
  | items => .union union.span items.reverse

end Union

/-- What encloses the items that are being read. -/
inductive ClassFrame where
  /-- A class: the items before it, its opening, and whether it is negated. -/
  | brackets (before : Union) (opening : Span) (negated : Bool)
  /-- An operation with its left side. -/
  | operation (left : ClassItem)

/-- Combines an item with the left side that waits for it, if there is one. -/
def closeOperation (stack : List ClassFrame) (right : ClassItem) : ClassItem × List ClassFrame :=
  match stack with
  | .operation left :: outer =>
    (.operation ⟨left.span.start, right.span.stop⟩ left right, outer)
  | stack => (right, stack)

/-- The opening of the innermost class. -/
def innermost (start : Mark) : List ClassFrame → Span
  | [] => .empty start
  | .brackets _ opening _ :: _ => opening
  | .operation _ :: outer => innermost start outer

/-- The names of the classes of characters below 128. -/
def asciiClassNames : List String :=
  ["alnum", "alpha", "ascii", "blank", "cntrl", "digit", "graph", "lower", "print", "punct",
    "space", "upper", "word", "xdigit"]

/-- Reads a named class from its bracket, if it is one. -/
def scanAscii? : Scanner (Option ClassItem) := do
  let opening := (← get).cursor
  match opening.rest with
  | '[' :: ':' :: text =>
    let negated := text.head? = some '^'
    let named := if negated then text.tail else text
    let name := named.takeWhile (· ≠ ':')
    match named.drop name.length with
    | ':' :: ']' :: _ =>
      if asciiClassNames.contains (String.ofList name) then
        for _ in List.range (name.length + if negated then 5 else 4) do
          discard Scanner.bump
        return some (.ascii (← Scanner.spanFrom opening.mark) negated)
      else return none
    | _ => return none
  | _ => return none

/-- Reads the dashes that a class may begin with. -/
def scanDashes (start : Mark) : (limit : Nat) → Union → Scanner Union
  | 0, union => return union
  | limit + 1, union => do
    if (← Scanner.look) = some '-' then
      let dash ← Scanner.charSpan
      if ← Scanner.bumpSpace then
        scanDashes start limit (union.push (.literal ⟨dash, '-', false⟩))
      else Scanner.fail .classUnclosed (.empty start)
    else return union

/-- Reads the opening of a class, with the characters that stand for themselves only there. Gives
the frame of the class and its first items. -/
def scanOpening (before : Union) : Scanner (ClassFrame × Union) := do
  let start ← Scanner.mark
  let goOn (more : Bool) : Scanner Unit := do
    unless more do
      Scanner.fail .classUnclosed (← Scanner.spanFrom start)
  goOn (← Scanner.bumpSpace)
  let negated := (← Scanner.look) = some '^'
  if negated then goOn (← Scanner.bumpSpace)
  let union ← scanDashes start (← Scanner.rest).length (.empty (← Scanner.mark))
  if union.items.isEmpty && (← Scanner.look) = some ']' then
    let bracket ← Scanner.charSpan
    goOn (← Scanner.bumpSpace)
    return (.brackets before (← Scanner.spanFrom start) negated,
      union.push (.literal ⟨bracket, ']', false⟩))
  else return (.brackets before (← Scanner.spanFrom start) negated, union)

/-- Reads a character of a class or an escape. -/
def scanClassPrimitive : Scanner Primitive := do
  match ← Scanner.look with
  | some '\\' => scanEscape
  | some char =>
    let span ← Scanner.charSpan
    discard Scanner.bump
    return .literal ⟨span, char, false⟩
  | none => Scanner.fail .classUnclosed (← Scanner.emptySpan)

/-- Reads a character, a class by name or a range, in the class with that opening. -/
def scanRange (opening : Span) : Scanner ClassItem := do
  let first ← scanClassPrimitive
  Scanner.skipSpace
  match ← Scanner.look with
  | none => Scanner.fail .classUnclosed opening
  | some char =>
    let next ← Scanner.peekSpace
    if char ≠ '-' || next = some ']' || next = some '-' then first.toItem
    else if ← Scanner.bumpSpace then
      let last ← scanClassPrimitive
      let span : Span := ⟨first.span.start, last.span.stop⟩
      let first ← first.toBoundary
      let last ← last.toBoundary
      if first.char ≤ last.char then return .range span first last
      else Scanner.fail .rangeOrder span
    else Scanner.fail .classUnclosed opening

/-- Whether a character operates on classes where it is doubled. -/
def isOperator (char : Char) : Bool := char = '&' || char = '-' || char = '~'

/-- Reads a class with the given stack of open ones, none of which is closed in more than `limit`
steps. Each step takes at least one character. -/
def scanClassFrom (start : Mark) : (limit : Nat) → List ClassFrame → Union → Scanner Node
  | 0, stack, _ => Scanner.fail .classUnclosed (innermost start stack)
  | limit + 1, stack, union => do
    Scanner.skipSpace
    match ← Scanner.look with
    | none => Scanner.fail .classUnclosed (innermost start stack)
    | some '[' =>
      let named ← if stack.isEmpty then pure none else scanAscii?
      match named with
      | some item => scanClassFrom start limit stack (union.push item)
      | none =>
        let (frame, items) ← scanOpening union
        scanClassFrom start limit (frame :: stack) items
    | some ']' =>
      match closeOperation stack union.toItem with
      | (item, .brackets before opening negated :: outer) =>
        discard Scanner.bump
        let span ← Scanner.spanFrom opening.start
        if outer.isEmpty then return .brackets span negated item
        else scanClassFrom start limit outer (before.push (.brackets span negated item))
      | (_, stack) => Scanner.fail .classUnclosed (innermost start stack)
    | some char =>
      if isOperator char && (← Scanner.peek) = some char then
        discard Scanner.bump
        discard Scanner.bump
        let (left, outer) := closeOperation stack union.toItem
        scanClassFrom start limit (.operation left :: outer) (.empty (← Scanner.mark))
      else
        let item ← scanRange (innermost start stack)
        scanClassFrom start limit stack (union.push item)

/-- Reads a class from its opening bracket. -/
def scanClass : Scanner Node := do
  let start ← Scanner.mark
  scanClassFrom start ((← Scanner.rest).length + 1) [] (.empty start)

end GrammarAtlas.Pattern
