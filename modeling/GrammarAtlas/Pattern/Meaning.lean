import GrammarAtlas.Pattern.Property

/-!
# Patterns without a meaning

A pattern that can be read may still be refused for what it stands for. A property that it names
may be unknown. And where the flag for characters is cleared, it goes by bytes: there it has no
character beyond the bytes, and it may not match anything that is no valid text.

The flag holds from where it is set or cleared up to the end of the innermost group, across the
alternatives of that group. The checks below therefore go through a pattern from the left and
return the flag as they leave it.
-/

namespace GrammarAtlas.Pattern

/-- Refuses a part of a pattern. -/
def refuse {α : Type} (fault : Fault) (span : Span) : Except Failure α := .error { fault, span }

/-- A byte from here on is no character of its own. -/
def firstNonAscii : Nat := 128

/-- Refuses what may match something that is no valid text, where bytes are matched. -/
def checkText (unicode : Bool) (matchesOther : Bool) (span : Span) : Except Failure Unit :=
  if !unicode && matchesOther then refuse .notText span else .ok ()

/-- Refuses an unknown property, and every property where bytes are matched. -/
def checkProperty (unicode : Bool) (query : Query) (span : Span) : Except Failure Unit :=
  if unicode then
    match query.fault? with
    | some fault => refuse fault span
    | none => .ok ()
  else refuse .noCharacterHere span

namespace Literal

/-- Whether a character stands for a byte that is no text of its own. -/
def isLoneByte (char : Literal) : Bool := char.isByte && firstNonAscii ≤ char.char.toNat

/-- Refuses a lone byte where bytes are matched. -/
def check (unicode : Bool) (char : Literal) : Except Failure Unit :=
  checkText unicode char.isLoneByte char.span

/-- Refuses a lone byte, and a character beyond the bytes, in a class where bytes are matched. -/
def checkInClass (unicode : Bool) (char : Literal) : Except Failure Unit :=
  match char.check unicode with
  | .error failure => .error failure
  | .ok () =>
    if !unicode && firstNonAscii ≤ char.char.toNat then refuse .noCharacterHere char.span
    else .ok ()

end Literal

mutual

/-- Refuses a class item without a meaning. -/
def ClassItem.check (unicode : Bool) : ClassItem → Except Failure Unit
  | empty _ => .ok ()
  | literal char => char.checkInClass unicode
  | range _ first last =>
    match first.checkInClass unicode with
    | .error failure => .error failure
    | .ok () => last.checkInClass unicode
  | ascii span negated => checkText unicode negated span
  | property span query => checkProperty unicode query span
  | perl span negated => checkText unicode negated span
  | brackets span negated item =>
    match item.check unicode with
    | .error failure => .error failure
    | .ok () => checkText unicode negated span
  | union _ items => checkItems unicode items
  | operation _ left right =>
    match left.check unicode with
    | .error failure => .error failure
    | .ok () => right.check unicode

/-- Refuses the first of several class items without a meaning. -/
def ClassItem.checkItems (unicode : Bool) : List ClassItem → Except Failure Unit
  | [] => .ok ()
  | item :: items =>
    match item.check unicode with
    | .error failure => .error failure
    | .ok () => checkItems unicode items

end

mutual

/-- Refuses a part of a pattern without a meaning. Otherwise the flag behind the part is
returned. -/
def Node.check (unicode : Bool) : Node → Except Failure Bool
  | empty _ => .ok unicode
  | flags _ items => .ok ((flagState .unicode false items).getD unicode)
  | literal char => (char.check unicode).map fun _ => unicode
  | dot span => (checkText unicode true span).map fun _ => unicode
  | assertion _ => .ok unicode
  | property span query => (checkProperty unicode query span).map fun _ => unicode
  | perl span negated => (checkText unicode negated span).map fun _ => unicode
  | brackets span negated item =>
    match item.check unicode with
    | .error failure => .error failure
    | .ok () => (checkText unicode negated span).map fun _ => unicode
  | repetition _ node => node.check unicode
  | group _ own node =>
    (node.check ((own.bind (flagState .unicode false)).getD unicode)).map fun _ => unicode
  | alternation _ nodes => checkNodes unicode nodes
  | concat _ nodes => checkNodes unicode nodes

/-- Refuses the first of several parts without a meaning. Otherwise the flag behind them is
returned. -/
def Node.checkNodes (unicode : Bool) : List Node → Except Failure Bool
  | [] => .ok unicode
  | node :: nodes =>
    match node.check unicode with
    | .error failure => .error failure
    | .ok unicode => checkNodes unicode nodes

end

end GrammarAtlas.Pattern
