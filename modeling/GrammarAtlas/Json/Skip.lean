import GrammarAtlas.Json.Reader

/-!
# Skipping a value

A value that nothing asks for is skipped without being held: it may be nested to any depth, and
its texts and numbers are checked for their writing only. `skipValue` keeps the lists and objects
that are still open on a stack and goes through the document once.
-/

namespace GrammarAtlas.Json

/-- A container of values. -/
inductive Container where
  /-- Items between brackets. -/
  | list
  /-- Members between braces. -/
  | object
  deriving DecidableEq, Repr

/-- The character that closes a container. -/
def Container.closer : Container → Char
  | .list => ']'
  | .object => '\x7d'

/-- The fault of a document that ends in a container. -/
def Container.ending : Container → Fault
  | .list => .endInList
  | .object => .endInObject

/-- The fault of a container that goes on without a comma. -/
def Container.goingOn : Container → Fault
  | .list => .listGoesOn
  | .object => .objectGoesOn

/-- The container that a character opens. -/
def Container.opened? : Char → Option Container
  | '[' => some .list
  | '\x7b' => some .object
  | _ => none

/-- Skips an escape, from behind its backslash. Half a surrogate pair may stand alone. -/
def skipEscape (rest : List Char) : Result Unit :=
  match rest with
  | [] => .error (stop .endInText [])
  | char :: behind =>
    if char = 'u' then
      match readUnit behind with
      | .error failure => .error failure
      | .ok (_, left) => .ok ((), left)
    else if "\"\\/bfnrt".toList.contains char then .ok ((), behind)
    else .error (stopAhead .badEscape rest)

/-- A skipped escape is taken from the front. -/
theorem skipEscape_length {rest behind : List Char}
    (skipped : skipEscape rest = .ok ((), behind)) : behind.length < rest.length := by
  unfold skipEscape at skipped
  split at skipped
  · simp at skipped
  · split at skipped
    · split at skipped
      · simp at skipped
      · rename_i read
        have shorter := readUnit_length read
        simp only [Except.ok.injEq, Prod.mk.injEq, true_and] at skipped
        simp only [← skipped, List.length_cons]
        omega
    · split at skipped
      · simp only [Except.ok.injEq, Prod.mk.injEq, true_and] at skipped
        simp [← skipped]
      · simp at skipped

/-- Skips a text from behind its opening quote. -/
def skipText (rest : List Char) : Result Unit :=
  match rest with
  | [] => .error (stop .endInText [])
  | char :: behind =>
    if char = '"' then .ok ((), behind)
    else if char = '\\' then
      match _skipped : skipEscape behind with
      | .error failure => .error failure
      | .ok ((), left) => skipText left
    else if char.toNat < 0x20 then .error (stop .controlCharacter rest)
    else skipText behind
termination_by rest.length
decreasing_by
  · have shorter := skipEscape_length _skipped
    simp only [List.length_cons]
    omega
  · simp

/-- Skips an exponent from behind its letter. -/
def skipExponent (rest : List Char) : Result Unit :=
  let rest :=
    match rest with
    | '+' :: behind => behind
    | '-' :: behind => behind
    | _ => rest
  match rest with
  | [] => .error (stop .badNumber [])
  | digit :: behind =>
    if digit.isDigit then .ok ((), (spanDigits behind).2) else .error (stopAhead .badNumber rest)

/-- Skips the exponent of a number, if it has one. -/
def skipScale (rest : List Char) : Result Unit :=
  match rest with
  | 'e' :: behind => skipExponent behind
  | 'E' :: behind => skipExponent behind
  | _ => .ok ((), rest)

/-- Skips what may follow the digits of a whole number. -/
def skipWholeEnd (rest : List Char) : Result Unit :=
  match rest with
  | '.' :: behind =>
    match spanDigits behind with
    | ([], behind) => .error (stopAhead .badNumber behind)
    | (_, behind) => skipScale behind
  | _ => skipScale rest

/-- Skips a number from behind its sign. -/
def skipMagnitude (rest : List Char) : Result Unit :=
  match rest with
  | [] => .error (stop .badNumber [])
  | '0' :: behind =>
    match behind with
    | digit :: _ =>
      if digit.isDigit then .error (stopAhead .badNumber behind) else skipWholeEnd behind
    | [] => .ok ((), [])
  | digit :: behind =>
    if digit.isDigit then skipWholeEnd (spanDigits behind).2
    else .error (stopAhead .badNumber rest)

/-- Skips a value that holds no other. -/
def skipScalar (rest : List Char) : Result Unit :=
  match rest with
  | [] => .error (stopAhead .endInValue [])
  | 'n' :: behind => readWord "ull".toList behind
  | 't' :: behind => readWord "rue".toList behind
  | 'f' :: behind => readWord "alse".toList behind
  | '"' :: behind => skipText behind
  | '-' :: behind => skipMagnitude behind
  | char :: _ => if char.isDigit then skipMagnitude rest else .error (stopAhead .noValue rest)

/-- Skips the key of a member with its colon, if the container has keys. -/
def skipKey (container : Container) (rest : List Char) : Result Unit :=
  match container with
  | .list => .ok ((), rest)
  | .object =>
    match skipBlanks rest with
    | [] => .error (stopAhead .endInObject [])
    | '"' :: behind =>
      match skipText behind with
      | .error failure => .error failure
      | .ok ((), behind) =>
        match skipBlanks behind with
        | [] => .error (stopAhead .endInObject [])
        | ':' :: behind => .ok ((), behind)
        | rest => .error (stopAhead .noColon rest)
    | rest => .error (stopAhead .noKey rest)

/-- Skips what closes containers behind a value, and the comma and the key in front of the next
one. Gives the containers that are open there; none, if the whole value has been skipped. -/
def skipEnds : (opened : List Container) → List Char → Result (List Container)
  | [], rest => .ok ([], rest)
  | container :: outer, rest =>
    match skipBlanks rest with
    | [] => .error (stopAhead container.ending [])
    | char :: behind =>
      if char = ',' then
        match skipKey container behind with
        | .error failure => .error failure
        | .ok ((), behind) => .ok (container :: outer, behind)
      else if char = container.closer then skipEnds outer behind
      else .error (stopAhead container.goingOn (char :: behind))

/-- Skips from the front of a value up to the front of the next one. -/
def skipStep (opened : List Container) (rest : List Char) : Result (List Container) :=
  match skipBlanks rest with
  | [] => .error (stopAhead .endInValue [])
  | char :: behind =>
    match Container.opened? char with
    | none =>
      match skipScalar (char :: behind) with
      | .error failure => .error failure
      | .ok ((), behind) => skipEnds opened behind
    | some container =>
      match skipBlanks behind with
      | [] => .error (stopAhead container.ending [])
      | next :: behind =>
        if next = container.closer then skipEnds opened behind
        else
          match skipKey container (next :: behind) with
          | .error failure => .error failure
          | .ok ((), behind) => .ok (container :: opened, behind)

/-- Skips values until no container is open. Each of them takes at least one character, so the
characters to begin with are enough to count them. -/
def skipAll : (count : List Char) → (opened : List Container) → Reader Unit
  | [], _, rest => .error (stopAhead .endInValue rest)
  | _ :: count, opened, rest =>
    match skipStep opened rest with
    | .error failure => .error failure
    | .ok ([], behind) => .ok ((), behind)
    | .ok (opened, behind) => skipAll count opened behind

/-- Skips a value. -/
def skipValue : Reader Unit := fun rest => skipAll (' ' :: rest) [] rest

end GrammarAtlas.Json
