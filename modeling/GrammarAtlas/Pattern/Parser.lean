import GrammarAtlas.Pattern.Class
import GrammarAtlas.Pattern.Group

/-!
# Reading a pattern

`Node.ofPattern` reads a whole pattern into a tree, or fails at the first part that cannot be read.
Groups that are still open, and alternatives that are still to be joined by others, wait on a
stack.
-/

namespace GrammarAtlas.Pattern

/-- The parts of a sequence so far, in reverse. -/
structure Sequence where
  /-- Where the sequence begins. -/
  start : Mark
  /-- The parts, the last one first. -/
  nodes : List Node

namespace Sequence

/-- The sequence with a further part. -/
def push (sequence : Sequence) (node : Node) : Sequence :=
  { sequence with nodes := node :: sequence.nodes }

/-- The sequence as one part that ends at a place. -/
def toNode (sequence : Sequence) (stop : Mark) : Node :=
  match sequence.nodes with
  | [] => .empty ⟨sequence.start, stop⟩
  | [node] => node
  | nodes => .concat ⟨sequence.start, stop⟩ nodes.reverse

end Sequence

/-- What encloses the sequence that is being read. -/
inductive Frame where
  /-- A group: the sequence before it, its opening, its flags, and whether blanks and comments did
  not count before it. -/
  | group (before : Sequence) (opening : Span) (flags : Option (List FlagItem)) (extended : Bool)
  /-- Earlier alternatives, the last one first, and where they begin. -/
  | alternation (start : Mark) (nodes : List Node)

/-- Joins the alternatives before with the last one. -/
def joinAlternatives (start : Mark) (nodes : List Node) (last : Node) (stop : Mark) : Node :=
  .alternation ⟨start, stop⟩ (nodes.reverse ++ [last])

/-- What a part is that no repetition may follow. -/
def isRepeatable : Node → Bool
  | .empty _ => false
  | .flags _ _ => false
  | _ => true

/-- Takes the last part of a sequence in order to repeat it. -/
def popRepeatable (sequence : Sequence) : Scanner (Node × Sequence) := do
  match sequence.nodes with
  | [] => Scanner.fail .repetitionOfNothing (← Scanner.emptySpan)
  | node :: nodes =>
    if isRepeatable node then return (node, { sequence with nodes })
    else Scanner.fail .repetitionOfNothing (← Scanner.emptySpan)

/-- Puts the repetition of a part back into its sequence. -/
def pushRepetition (node : Node) (sequence : Sequence) : Scanner Sequence := do
  return sequence.push (.repetition (← Scanner.spanFrom node.span.start) node)

/-- Reads a repetition from its operator. -/
def scanRepetition (sequence : Sequence) : Scanner Sequence := do
  let (node, sequence) ← popRepeatable sequence
  if ← Scanner.bump then
    if (← Scanner.look) = some '?' then discard Scanner.bump
  pushRepetition node sequence

/-- The largest number of repetitions. -/
def maxCount : Nat := 0xFFFFFFFF

/-- The number that decimal digits write. -/
def decimalNumber (digits : List Char) : Nat :=
  digits.foldl (fun number digit => number * 10 + (digit.toNat - '0'.toNat)) 0

/-- Reads a number of repetitions, with the blanks around it. A number that cannot be had is given
as the failure that it would be. -/
def scanCount : Scanner (Except Failure Nat) := do
  Scanner.skipBlanks (← Scanner.rest).length
  let start ← Scanner.mark
  let digits ← Scanner.takeAll Char.isDigit
  let span ← Scanner.spanFrom start
  discard (Scanner.takeAll Text.isBlank)
  if digits.isEmpty then return .error { fault := .countMissing, span }
  else if maxCount < decimalNumber digits then return .error { fault := .countTooLarge, span }
  else return .ok (decimalNumber digits)

/-- Reads the bounds of a counted repetition from behind its brace at `start`. Tells whether they
are the right way round. -/
def scanBounds (start : Mark) : Scanner Bool := do
  let least ← scanCount
  match ← Scanner.look with
  | none => Scanner.fail .countUnclosed (← Scanner.spanFrom start)
  | some ',' =>
    if ← Scanner.bumpSpace then
      if (← Scanner.look) = some '\x7d' then
        discard (liftM least)
        return true
      else
        let least ← liftM least
        let greatest ← scanCount
        return least ≤ (← liftM greatest)
    else Scanner.fail .countUnclosed (← Scanner.spanFrom start)
  | some _ =>
    discard (liftM least)
    return true

/-- Reads a counted repetition from its brace. -/
def scanCounted (sequence : Sequence) : Scanner Sequence := do
  let start ← Scanner.mark
  let (node, sequence) ← popRepeatable sequence
  if ← Scanner.bumpSpace then
    let ordered ← scanBounds start
    if (← Scanner.look) = some '\x7d' then
      if ← Scanner.bumpSpace then
        if (← Scanner.look) = some '?' then discard Scanner.bump
      if ordered then pushRepetition node sequence
      else Scanner.fail .countOrder (← Scanner.spanFrom start)
    else Scanner.fail .countUnclosed (← Scanner.spanFrom start)
  else Scanner.fail .countUnclosed (← Scanner.spanFrom start)

/-- Opens a group, or sets flags for what follows. -/
def openGroup (stack : List Frame) (sequence : Sequence) : Scanner (List Frame × Sequence) := do
  match ← scanGroup with
  | .flags span items =>
    match flagState .extended false items with
    | some extended => modify fun scan => { scan with extended }
    | none => pure ()
    return (stack, sequence.push (.flags span items))
  | .group span flags =>
    let extended := (← get).extended
    match flags.bind (flagState .extended false) with
    | some extended => modify fun scan => { scan with extended }
    | none => pure ()
    return (.group sequence span flags extended :: stack, ⟨← Scanner.mark, []⟩)

/-- Closes the innermost group. -/
def closeGroup (stack : List Frame) (sequence : Sequence) : Scanner (List Frame × Sequence) := do
  let stop ← Scanner.mark
  let last := sequence.toNode stop
  let (node, stack) :=
    match stack with
    | .alternation start nodes :: outer => (joinAlternatives start nodes last stop, outer)
    | stack => (last, stack)
  match stack with
  | .group before opening flags extended :: outer =>
    modify fun scan => { scan with extended }
    discard Scanner.bump
    return (outer, before.push (.group (← Scanner.spanFrom opening.start) flags node))
  | _ => Scanner.fail .groupUnopened (← Scanner.charSpan)

/-- Ends an alternative. -/
def endAlternative (stack : List Frame) (sequence : Sequence) :
    Scanner (List Frame × Sequence) := do
  let stop ← Scanner.mark
  let last := sequence.toNode stop
  discard Scanner.bump
  let next : Sequence := ⟨← Scanner.mark, []⟩
  match stack with
  | .alternation start nodes :: outer => return (.alternation start (last :: nodes) :: outer, next)
  | stack => return (.alternation sequence.start [last] :: stack, next)

/-- Reads one character that stands for itself, an escape, a dot or an anchor. -/
def scanPrimitive : Scanner Primitive := do
  let span ← Scanner.charSpan
  match ← Scanner.look with
  | none => Scanner.fail .escapeUnfinished span
  | some '\\' => scanEscape
  | some char =>
    discard Scanner.bump
    match char with
    | '.' => return .dot span
    | '^' | '$' => return .assertion span
    | _ => return .literal ⟨span, char, false⟩

/-- Reads the next part of a pattern. -/
def scanPart (char : Char) (stack : List Frame) (sequence : Sequence) :
    Scanner (List Frame × Sequence) := do
  match char with
  | '(' => openGroup stack sequence
  | ')' => closeGroup stack sequence
  | '|' => endAlternative stack sequence
  | '[' => return (stack, sequence.push (← scanClass))
  | '?' | '*' | '+' => return (stack, ← scanRepetition sequence)
  | '\x7b' => return (stack, ← scanCounted sequence)
  | _ => return (stack, sequence.push (← scanPrimitive).toNode)

/-- Ends a pattern: no group may be open. -/
def endPattern (stack : List Frame) (sequence : Sequence) : Scanner Node := do
  let stop ← Scanner.mark
  let last := sequence.toNode stop
  let (node, stack) :=
    match stack with
    | .alternation start nodes :: outer => (joinAlternatives start nodes last stop, outer)
    | stack => (last, stack)
  match stack with
  | [] => return node
  | .group _ opening _ _ :: _ => Scanner.fail .groupUnclosed opening
  | .alternation start _ :: _ => Scanner.fail .groupUnclosed (.empty start)

/-- Reads a pattern to its end in at most `limit` steps, each of which takes at least one
character. -/
def scanParts : (limit : Nat) → List Frame → Sequence → Scanner Node
  | 0, stack, sequence => endPattern stack sequence
  | limit + 1, stack, sequence => do
    Scanner.skipSpace
    match ← Scanner.look with
    | none => endPattern stack sequence
    | some char =>
      let (stack, sequence) ← scanPart char stack sequence
      scanParts limit stack sequence

/-- The tree of a pattern. -/
def Node.ofPattern (source : List Char) : Except Failure Node :=
  match (scanParts (source.length + 1) [] ⟨.first, []⟩).run ⟨⟨.first, source⟩, false, []⟩ with
  | .error failure => .error failure
  | .ok (node, _) => .ok node

end GrammarAtlas.Pattern
