import GrammarAtlas.Pattern.Span

/-!
# The parts of a pattern

A pattern is a tree of nodes, and a character class within it a tree of class items. The trees keep
what decides whether a pattern is accepted and how a failure is shown: the place of every part, the
flags, the properties that classes name, and which literals stand for bytes. What a pattern matches
beyond that does not matter here.
-/

namespace GrammarAtlas.Pattern

/-- A flag that may be set or cleared inside a pattern. -/
inductive Flag where
  /-- Letters match in either case. -/
  | ignoreCase
  /-- Line anchors match at every line. -/
  | multiLine
  /-- The dot matches line breaks. -/
  | dotAll
  /-- Repetitions are lazy where they would be greedy. -/
  | swapGreed
  /-- Characters rather than bytes are matched. -/
  | unicode
  /-- A carriage return belongs to a line break. -/
  | carriageReturn
  /-- Blanks and comments in the pattern do not count. -/
  | extended
  deriving DecidableEq, Repr

/-- The flag that a letter stands for. -/
def Flag.ofChar? : Char → Option Flag
  | 'i' => some .ignoreCase
  | 'm' => some .multiLine
  | 's' => some .dotAll
  | 'U' => some .swapGreed
  | 'u' => some .unicode
  | 'R' => some .carriageReturn
  | 'x' => some .extended
  | _ => none

/-- An element of a list of flags. -/
inductive FlagItem where
  /-- The flags behind are cleared. -/
  | negation
  /-- A flag. -/
  | flag (flag : Flag)
  deriving DecidableEq, Repr

/-- What a list of flags does to one flag: sets it, clears it or leaves it. -/
def flagState (wanted : Flag) : (negated : Bool) → List FlagItem → Option Bool
  | _, [] => none
  | _, .negation :: items => flagState wanted true items
  | negated, .flag flag :: items =>
    if flag = wanted then some (!negated) else flagState wanted negated items

/-- A single character. -/
structure Literal where
  /-- Where it stands. -/
  span : Span
  /-- The character. -/
  char : Char
  /-- Whether it is written with two hexadecimal digits, and so may stand for a byte. -/
  isByte : Bool
  deriving DecidableEq, Repr

/-- A property that a class of characters is named by. -/
inductive Query where
  /-- A property, category or script by its name alone. -/
  | name (name : String)
  /-- A property with a value. -/
  | value (property value : String)
  deriving DecidableEq, Repr

/-- An item of a character class. -/
inductive ClassItem where
  /-- Nothing. -/
  | empty (span : Span)
  /-- A character. -/
  | literal (char : Literal)
  /-- The characters from one to another. -/
  | range (span : Span) (first last : Literal)
  /-- A named class of characters below 128. -/
  | ascii (span : Span) (negated : Bool)
  /-- The characters with a property. -/
  | property (span : Span) (query : Query)
  /-- Digits, spaces, word characters or all others. -/
  | perl (span : Span) (negated : Bool)
  /-- A class within the class. -/
  | brackets (span : Span) (negated : Bool) (item : ClassItem)
  /-- Several items. -/
  | union (span : Span) (items : List ClassItem)
  /-- Two items combined by an intersection or a difference. -/
  | operation (span : Span) (left right : ClassItem)

/-- Where an item stands. -/
def ClassItem.span : ClassItem → Span
  | empty span => span
  | literal char => char.span
  | range span _ _ => span
  | ascii span _ => span
  | property span _ => span
  | perl span _ => span
  | brackets span _ _ => span
  | union span _ => span
  | operation span _ _ => span

/-- A part of a pattern. -/
inductive Node where
  /-- Nothing. -/
  | empty (span : Span)
  /-- Flags for what follows. -/
  | flags (span : Span) (items : List FlagItem)
  /-- A character. -/
  | literal (char : Literal)
  /-- Any character. -/
  | dot (span : Span)
  /-- A condition on the place. -/
  | assertion (span : Span)
  /-- A character with a property. -/
  | property (span : Span) (query : Query)
  /-- A digit, a space, a word character or any other character. -/
  | perl (span : Span) (negated : Bool)
  /-- A character of a class. -/
  | brackets (span : Span) (negated : Bool) (item : ClassItem)
  /-- Repetitions. -/
  | repetition (span : Span) (node : Node)
  /-- A group, possibly with flags of its own. -/
  | group (span : Span) (flags : Option (List FlagItem)) (node : Node)
  /-- One of several parts. -/
  | alternation (span : Span) (nodes : List Node)
  /-- Several parts one after another. -/
  | concat (span : Span) (nodes : List Node)

/-- Where a part stands. -/
def Node.span : Node → Span
  | empty span => span
  | flags span _ => span
  | literal char => char.span
  | dot span => span
  | assertion span => span
  | property span _ => span
  | perl span _ => span
  | brackets span _ _ => span
  | repetition span _ => span
  | group span _ _ => span
  | alternation span _ => span
  | concat span _ => span

end GrammarAtlas.Pattern
