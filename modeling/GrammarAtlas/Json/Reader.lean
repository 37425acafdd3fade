import GrammarAtlas.Json.Fault

/-!
# Reading the parts of a document

A reader takes the characters of a document that have not been read yet and gives a value together
with those behind it, or a failure. This module reads what holds no other value: blanks, words,
texts and numbers.

A failure lies either where its reader stopped (`stop`) or one byte further, at the end of the
document at the latest (`stopAhead`).
-/

namespace GrammarAtlas.Json

/-- What a reader gives: a value and the characters behind it. -/
abbrev Result (α : Type) := Except Failure (α × List Char)

/-- Takes a value from the front of the characters. -/
abbrev Reader (α : Type) := List Char → Result α

/-- A failure in front of the characters. -/
def stop (fault : Fault) (rest : List Char) : Failure := ⟨fault, byteCount rest⟩

/-- A failure behind the first byte of the characters. -/
def stopAhead (fault : Fault) (rest : List Char) : Failure := ⟨fault, byteCount rest - 1⟩

/-- The characters that may stand between the parts of a document. -/
def isBlank (char : Char) : Bool := char == ' ' || char == '\n' || char == '\t' || char == '\r'

/-- The characters behind the blanks. -/
def skipBlanks : List Char → List Char
  | [] => []
  | char :: rest => if isBlank char then skipBlanks rest else char :: rest

/-- Reads the given characters. -/
def readWord : (word : List Char) → Reader Unit
  | [], rest => .ok ((), rest)
  | _ :: _, [] => .error (stop .endInValue [])
  | expected :: word, char :: rest =>
    if char = expected then readWord word rest else .error (stopAhead .noWord (char :: rest))

/-! ## Texts -/

/-- The value of a hexadecimal digit. -/
def hexValue? (char : Char) : Option Nat :=
  if '0' ≤ char ∧ char ≤ '9' then some (char.toNat - '0'.toNat)
  else if 'a' ≤ char ∧ char ≤ 'f' then some (char.toNat - 'a'.toNat + 10)
  else if 'A' ≤ char ∧ char ≤ 'F' then some (char.toNat - 'A'.toNat + 10)
  else none

/-- Reads four hexadecimal digits. Other characters are counted by their bytes, of which four are
taken. -/
def readUnit (rest : List Char) : Result Nat :=
  match rest with
  | a :: b :: c :: d :: behind =>
    match hexValue? a, hexValue? b, hexValue? c, hexValue? d with
    | some a, some b, some c, some d => .ok (((a * 16 + b) * 16 + c) * 16 + d, behind)
    | _, _, _, _ => .error ⟨.badEscape, byteCount rest - 4⟩
  | _ =>
    if byteCount rest < 4 then .error ⟨.endInText, 0⟩
    else .error ⟨.badEscape, byteCount rest - 4⟩

/-- Whether a unit is the first half of a surrogate pair. -/
def isLeading (unit : Nat) : Bool := 0xD800 ≤ unit && unit ≤ 0xDBFF

/-- Whether a unit is the second half of a surrogate pair. -/
def isTrailing (unit : Nat) : Bool := 0xDC00 ≤ unit && unit ≤ 0xDFFF

/-- Reads the second half of a surrogate pair and puts the pair together. -/
def readPair (leading : Nat) (rest : List Char) : Result Char :=
  match rest with
  | [] => .error (stop .endInText [])
  | '\\' :: behind =>
    match behind with
    | [] => .error (stop .endInText [])
    | 'u' :: digits =>
      match readUnit digits with
      | .error failure => .error failure
      | .ok (trailing, behind) =>
        if isTrailing trailing then
          .ok (Char.ofNat (0x10000 + (leading - 0xD800) * 0x400 + (trailing - 0xDC00)), behind)
        else .error (stop .loneSurrogate behind)
    | _ => .error (stopAhead .brokenPair behind)
  | _ => .error (stopAhead .brokenPair rest)

/-- Reads an escape by number. -/
def readNumbered (rest : List Char) : Result Char :=
  match readUnit rest with
  | .error failure => .error failure
  | .ok (unit, behind) =>
    if isTrailing unit then .error (stop .loneSurrogate behind)
    else if isLeading unit then readPair unit behind
    else .ok (Char.ofNat unit, behind)

/-- Reads an escape, from behind its backslash. -/
def readEscape (rest : List Char) : Result Char :=
  match rest with
  | [] => .error (stop .endInText [])
  | '"' :: behind => .ok ('"', behind)
  | '\\' :: behind => .ok ('\\', behind)
  | '/' :: behind => .ok ('/', behind)
  | 'b' :: behind => .ok ('\x08', behind)
  | 'f' :: behind => .ok ('\x0c', behind)
  | 'n' :: behind => .ok ('\n', behind)
  | 'r' :: behind => .ok ('\r', behind)
  | 't' :: behind => .ok ('\t', behind)
  | 'u' :: behind => readNumbered behind
  | _ => .error (stopAhead .badEscape rest)

/-- Four digits are taken from the front. -/
theorem readUnit_length {rest behind : List Char} {unit : Nat}
    (read : readUnit rest = .ok (unit, behind)) : behind.length < rest.length := by
  unfold readUnit at read
  split at read
  · split at read
    · simp only [Except.ok.injEq, Prod.mk.injEq] at read
      simp only [← read.2, List.length_cons]
      omega
    · simp at read
  · split at read <;> simp at read

/-- The second half of a pair is taken from the front. -/
theorem readPair_length {leading : Nat} {rest behind : List Char} {char : Char}
    (read : readPair leading rest = .ok (char, behind)) : behind.length < rest.length := by
  unfold readPair at read
  split at read
  · simp at read
  · split at read
    · simp at read
    · split at read
      · simp at read
      · rename_i digits _ trailing left unit
        have shorter := readUnit_length unit
        split at read
        · simp only [Except.ok.injEq, Prod.mk.injEq] at read
          simp only [← read.2, List.length_cons]
          omega
        · simp at read
    · simp at read
  · simp at read

/-- An escape by number is taken from the front. -/
theorem readNumbered_length {rest behind : List Char} {char : Char}
    (read : readNumbered rest = .ok (char, behind)) : behind.length < rest.length := by
  unfold readNumbered at read
  split at read
  · simp at read
  · rename_i unit left found
    have shorter := readUnit_length found
    split at read
    · simp at read
    · split at read
      · have further := readPair_length read
        omega
      · simp only [Except.ok.injEq, Prod.mk.injEq] at read
        simpa only [← read.2] using shorter

/-- An escape is taken from the front. -/
theorem readEscape_length {rest behind : List Char} {char : Char}
    (read : readEscape rest = .ok (char, behind)) : behind.length < rest.length := by
  unfold readEscape at read
  split at read
  all_goals first
    | (simp only [Except.ok.injEq, Prod.mk.injEq] at read
       simp only [← read.2, List.length_cons]
       omega)
    | (have shorter := readNumbered_length read
       simp only [List.length_cons]
       omega)
    | simp at read

/-- Reads a text from behind its opening quote, in front of which the reversed characters `done`
have been read. -/
def readTextOnto (done rest : List Char) : Result String :=
  match rest with
  | [] => .error (stop .endInText [])
  | char :: behind =>
    if char = '"' then .ok (String.ofList done.reverse, behind)
    else if char = '\\' then
      match _read : readEscape behind with
      | .error failure => .error failure
      | .ok (escaped, left) => readTextOnto (escaped :: done) left
    else if char.toNat < 0x20 then .error (stop .controlCharacter behind)
    else readTextOnto (char :: done) behind
termination_by rest.length
decreasing_by
  · have shorter := readEscape_length _read
    simp only [List.length_cons]
    omega
  · simp

/-- Reads a text from behind its opening quote. -/
def readText : Reader String := readTextOnto []

/-! ## Numbers -/

/-- The largest whole number of 64 bits. -/
def maxWhole : Nat := 0xFFFFFFFFFFFFFFFF

/-- The digits at the front of the characters, and what follows them. -/
def spanDigits (rest : List Char) : List Char × List Char := rest.span Char.isDigit

/-- Appends digits to a whole number as long as it keeps within 64 bits, and counts the digits
that were appended and those that were not. -/
def appendDigits : (value appended : Nat) → List Char → Nat × Nat × Nat
  | value, appended, [] => (value, appended, 0)
  | value, appended, digit :: digits =>
    let longer := value * 10 + (digit.toNat - '0'.toNat)
    if longer ≤ maxWhole then appendDigits longer (appended + 1) digits
    else (value, appended, digits.length + 1)

/-- Gives the number with that sign, significand and power of ten. -/
def finishNumber (negative : Bool) (significand : Nat) (power : Int) (rest : List Char) :
    Result Number :=
  match Binary64.ofDecimal? significand power with
  | none => .error (stop .numberOutOfRange rest)
  | some magnitude => .ok (.floating negative magnitude, rest)

/-- The largest power of ten that is written out. -/
def maxPower : Nat := 0x7FFFFFFF

/-- Reads the digits of an exponent; `none` stands for one that is too large. -/
def readPower (overflows : Bool) : (power : Nat) → List Char → Result (Option Nat)
  | power, [] => .ok (some power, [])
  | power, char :: rest =>
    if char.isDigit then
      let longer := power * 10 + (char.toNat - '0'.toNat)
      if longer ≤ maxPower then readPower overflows longer rest
      else if overflows then .error (stop .numberOutOfRange rest)
      else .ok (none, (spanDigits rest).2)
    else .ok (some power, char :: rest)

/-- Reads an exponent from behind its letter. -/
def readExponent (negative : Bool) (significand : Nat) (power : Int) (rest : List Char) :
    Result Number :=
  let (down, rest) :=
    match rest with
    | '+' :: behind => (false, behind)
    | '-' :: behind => (true, behind)
    | _ => (false, rest)
  match rest with
  | [] => .error (stop .endInValue [])
  | digit :: behind =>
    if digit.isDigit then
      match readPower (significand ≠ 0 && !down) (digit.toNat - '0'.toNat) behind with
      | .error failure => .error failure
      | .ok (none, behind) => .ok (.floating negative .zero, behind)
      | .ok (some steps, behind) =>
        finishNumber negative significand (if down then power - steps else power + steps) behind
    else .error (stopAhead .badNumber rest)

/-- Reads what may follow the digits of a number that is not whole: an exponent or nothing. -/
def readScale (negative : Bool) (significand : Nat) (power : Int) (rest : List Char) :
    Result Number :=
  match rest with
  | 'e' :: behind => readExponent negative significand power behind
  | 'E' :: behind => readExponent negative significand power behind
  | _ => finishNumber negative significand power rest

/-- Reads the digits behind a decimal point. Digits beyond 64 bits are read but not counted. -/
def readFraction (negative : Bool) (significand : Nat) (power : Int) (rest : List Char) :
    Result Number :=
  match spanDigits rest with
  | ([], []) => .error (stopAhead .endInValue [])
  | ([], behind) => .error (stopAhead .badNumber behind)
  | (digits, behind) =>
    let (longer, appended, _) := appendDigits significand 0 digits
    readScale negative longer (power - appended) behind

/-- Gives a whole number, unless it needs more than 64 bits with its sign. Zero below zero is no
whole number. -/
def finishWhole (negative : Bool) (value : Nat) (rest : List Char) : Result Number :=
  if negative then
    if value ≠ 0 ∧ value ≤ 0x8000000000000000 then .ok (.whole (-value), rest)
    else finishNumber true value 0 rest
  else .ok (.whole value, rest)

/-- Reads what follows the digits of a whole number of 64 bits. -/
def readWholeEnd (negative : Bool) (value : Nat) (rest : List Char) : Result Number :=
  match rest with
  | '.' :: behind => readFraction negative value 0 behind
  | 'e' :: behind => readExponent negative value 0 behind
  | 'E' :: behind => readExponent negative value 0 behind
  | _ => finishWhole negative value rest

/-- Reads a number from behind its sign. -/
def readMagnitude (negative : Bool) (rest : List Char) : Result Number :=
  match rest with
  | [] => .error (stop .endInValue [])
  | '0' :: behind =>
    match behind with
    | digit :: _ =>
      if digit.isDigit then .error (stopAhead .badNumber behind)
      else readWholeEnd negative 0 behind
    | [] => readWholeEnd negative 0 []
  | digit :: _ =>
    if digit.isDigit then
      let (digits, behind) := spanDigits rest
      match appendDigits 0 0 digits with
      | (value, _, 0) => readWholeEnd negative value behind
      | (value, _, dropped) =>
        match behind with
        | '.' :: behind => readFraction negative value dropped behind
        | _ => readScale negative value dropped behind
    else .error (stopAhead .badNumber rest)

/-- Reads a number. -/
def readNumber (rest : List Char) : Result Number :=
  match rest with
  | '-' :: behind => readMagnitude true behind
  | _ => readMagnitude false rest

end GrammarAtlas.Json
