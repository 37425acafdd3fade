import GrammarAtlas.Json.Shape
import GrammarAtlas.Proofs.Json.Spelling
import Mathlib.Data.List.TakeDrop
import Mathlib.Tactic.SplitIfs

/-!
# Decoding spelled values

A reader decodes what some characters spell if it takes them from the front, whatever blanks stand
before them, and gives the value (`Takes`). What follows must not carry a number on (`Ends`): in a
document, it is a blank, a comma, the end of what encloses the value, or the end of the document.

A way of spelling values is decoded if every value is taken from every spelling of it (`Decodes`).
-/

namespace GrammarAtlas.Json

/-! ## Blanks -/

/-- Blanks are skipped, as many as there are. -/
theorem skipBlanks_append {before : List Char} (blank : Blank before) (rest : List Char) :
    skipBlanks (before ++ rest) = skipBlanks rest := by
  induction before with
  | nil => rfl
  | cons char before ih =>
    rw [List.cons_append, skipBlanks, if_pos (blank char List.mem_cons_self)]
    exact ih fun other listed => blank other (List.mem_cons_of_mem _ listed)

/-- Blanks are skipped up to a character that is none. -/
theorem skipBlanks_solid {before : List Char} {char : Char} (blank : Blank before)
    (solid : ¬ isBlank char) (rest : List Char) :
    skipBlanks (before ++ char :: rest) = char :: rest := by
  rw [skipBlanks_append blank, skipBlanks, if_neg solid]

/-- The characters begin as a value does that is written in full: with no blank, and not as the
value null or the end of a list does. -/
def Opens (chars : List Char) : Prop :=
  ∃ char rest, chars = char :: rest ∧ ¬ isBlank char ∧ char ≠ 'n' ∧ char ≠ ']'

/-- There are no blanks in front of a value. -/
theorem Opens.skipBlanks_eq {chars : List Char} (opens : Opens chars) :
    skipBlanks chars = chars := by
  obtain ⟨char, others, rfl, solid, _⟩ := opens
  rw [skipBlanks, if_neg solid]

/-- What follows does not matter. -/
theorem Opens.append {chars : List Char} (opens : Opens chars) (rest : List Char) :
    Opens (chars ++ rest) := by
  obtain ⟨char, others, rfl, begins⟩ := opens
  exact ⟨char, others ++ rest, rfl, begins⟩

/-- Blanks are skipped up to a value. -/
theorem Opens.skipBlanks_append {before chars : List Char} (opens : Opens chars)
    (blank : Blank before) (rest : List Char) :
    skipBlanks (before ++ (chars ++ rest)) = chars ++ rest := by
  rw [Json.skipBlanks_append blank, (opens.append rest).skipBlanks_eq]

/-- There is something that begins a value. -/
theorem Opens.ne_nil {chars : List Char} (opens : Opens chars) : chars ≠ [] := by
  obtain ⟨char, others, rfl, _⟩ := opens
  exact List.cons_ne_nil char others

/-- No blanks are blanks. -/
theorem blank_nil : Blank [] := fun _ listed => absurd listed List.not_mem_nil

/-- A value may end in front of the characters: they do not carry a number on. -/
def Ends (rest : List Char) : Prop :=
  ∀ char ∈ rest.head?, ¬ char.isDigit ∧ char ≠ '.' ∧ char ≠ 'e' ∧ char ≠ 'E'

/-- A value may end in front of blanks. -/
theorem Ends.append {before rest : List Char} (blank : Blank before) (ends : Ends rest) :
    Ends (before ++ rest) := by
  cases before with
  | nil => exact ends
  | cons char before =>
    intro other first
    obtain rfl : char = other := by simpa using first
    have kinds := blank char List.mem_cons_self
    simp only [isBlank, Bool.or_eq_true, beq_iff_eq] at kinds
    rcases kinds with ((rfl | rfl) | rfl) | rfl
    all_goals decide

/-- A value may end in front of a comma or of what closes a list or an object. -/
theorem ends_cons (char : Char) (closes : char ∈ [',', ']', '\x7d']) (rest : List Char) :
    Ends (char :: rest) := by
  intro other first
  obtain rfl : char = other := by simpa using first
  simp only [List.mem_cons, List.not_mem_nil, or_false] at closes
  rcases closes with rfl | rfl | rfl
  all_goals decide

/-! ## The law -/

section

variable {α : Type}

/-- The reader takes the characters from behind any blanks and gives the value. -/
def Takes (read : Reader α) (value : α) (chars : List Char) : Prop :=
  ∀ before rest, Blank before → Ends rest → read (before ++ (chars ++ rest)) = .ok (value, rest)

/-- The reader takes every spelling of every value. -/
structure Decodes (read : Reader α) (spells : α → List Char → Prop) : Prop where
  /-- A spelling begins as a value does that is written in full. -/
  opens : ∀ {value : α} {chars : List Char}, spells value chars → Opens chars
  /-- A spelling is taken, and nothing else is. -/
  takes : ∀ {value : α} {chars : List Char}, spells value chars → Takes read value chars

/-- A value is taken from the front. -/
theorem Takes.front {read : Reader α} {value : α} {chars rest : List Char}
    (takes : Takes read value chars) (ends : Ends rest) :
    read (chars ++ rest) = .ok (value, rest) := takes [] rest blank_nil ends

/-- A value is taken from behind a colon with blanks around it. -/
theorem Takes.afterColon {read : Reader α} {value : α} {chars before after rest : List Char}
    (takes : Takes read value chars) (blank : Blank before) (blank' : Blank after)
    (ends : Ends rest) :
    afterColon read (before ++ ':' :: (after ++ (chars ++ rest))) = .ok (value, rest) := by
  rw [Json.afterColon, skipBlanks_solid blank (by decide)]
  exact takes after rest blank' ends

end

/-- The value in a document is read if it is taken within the greatest depth. -/
theorem readDocument_of_takes {α : Type} {read : Nat → Reader α} {value : α} {text : String}
    (document : IsDocument (Takes (read maxDepth) value) text) :
    readDocument read text = .ok value := by
  obtain ⟨before, chars, after, blank, blank', takes, holds⟩ := document
  have ends : Ends (after ++ []) := .append blank' fun char first => by cases first
  have nothing : skipBlanks (after ++ []) = [] := skipBlanks_append blank' []
  rw [List.append_nil] at ends nothing
  simp only [readDocument, holds, takes before after blank ends, nothing]

/-! ## Texts -/

/-- A hexadecimal digit has the value that it is written for. -/
theorem hexValue?_hexDigit : ∀ value < 16, hexValue? (hexDigit value) = some value := by
  decide

/-- A hexadecimal digit of either case has the value that it stands for. -/
theorem hexValue?_of_spelled {value : Nat} {char : Char} (bound : value < 16)
    (spelled : SpellsDigit value char) : hexValue? char = some value := by
  have upper : ∀ value < 16, hexValue? (hexDigit value).toUpper = some value := by decide
  rcases spelled with rfl | rfl
  · exact hexValue?_hexDigit value bound
  · exact upper value bound

/-- A number of 16 bits is read from its digits. -/
theorem readUnit_spelled {unit : Nat} {digits : List Char} (spelled : SpellsUnit unit digits)
    (rest : List Char) : readUnit (digits ++ rest) = .ok (unit, rest) := by
  obtain ⟨bound, each⟩ := spelled
  rcases each with _ | ⟨first, _ | ⟨second, _ | ⟨third, _ | ⟨fourth, _ | _⟩⟩⟩⟩
  have first := hexValue?_of_spelled (by omega) first
  have second := hexValue?_of_spelled (by omega) second
  have third := hexValue?_of_spelled (by omega) third
  have fourth := hexValue?_of_spelled (by omega) fourth
  have number : ((unit / 0x1000 * 16 + unit / 0x100 % 16) * 16 + unit / 0x10 % 16) * 16 +
      unit % 16 = unit := by omega
  simp only [List.cons_append, List.nil_append, readUnit, first, second, third, fourth, number]

/-- An escape of one letter stands for its character. -/
theorem readEscape_short {char letter : Char} (escape : (char, letter) ∈ shortEscapes)
    (rest : List Char) : readEscape (letter :: rest) = .ok (char, rest) := by
  simp only [shortEscapes, List.mem_cons, List.not_mem_nil, or_false, Prod.mk.injEq] at escape
  rcases escape with h | h | h | h | h | h | h | h
  all_goals
    obtain ⟨rfl, rfl⟩ := h
    rfl

/-- No character has half of a surrogate pair for its number. -/
theorem not_surrogate (char : Char) : char.toNat < 0xD800 ∨
    0xDFFF < char.toNat ∧ char.toNat < 0x110000 := char.valid

/-- A character is read from its number. -/
theorem readNumbered_spelled {char : Char} {digits : List Char}
    (spelled : SpellsUnit char.toNat digits) (rest : List Char) :
    readNumbered (digits ++ rest) = .ok (char, rest) := by
  have single : ¬ isTrailing char.toNat ∧ ¬ isLeading char.toNat := by
    have number := not_surrogate char
    simp only [isTrailing, isLeading, Bool.and_eq_true, decide_eq_true_eq]
    omega
  rw [readNumbered, readUnit_spelled spelled]
  dsimp only
  rw [if_neg single.1, if_neg single.2, Char.ofNat_toNat]

/-- A character is read from the numbers of its surrogate pair. -/
theorem readNumbered_paired {char : Char} {leading trailing : List Char}
    (large : 0x10000 ≤ char.toNat)
    (first : SpellsUnit (0xD800 + (char.toNat - 0x10000) / 0x400) leading)
    (second : SpellsUnit (0xDC00 + (char.toNat - 0x10000) % 0x400) trailing) (rest : List Char) :
    readNumbered (leading ++ '\\' :: 'u' :: (trailing ++ rest)) = .ok (char, rest) := by
  have number := not_surrogate char
  have leads : ¬ isTrailing (0xD800 + (char.toNat - 0x10000) / 0x400) ∧
      isLeading (0xD800 + (char.toNat - 0x10000) / 0x400) := by
    simp only [isTrailing, isLeading, Bool.and_eq_true, decide_eq_true_eq]
    omega
  have trails : isTrailing (0xDC00 + (char.toNat - 0x10000) % 0x400) := by
    simp only [isTrailing, Bool.and_eq_true, decide_eq_true_eq]
    omega
  have whole : 0x10000 + (0xD800 + (char.toNat - 0x10000) / 0x400 - 0xD800) * 0x400 +
      (0xDC00 + (char.toNat - 0x10000) % 0x400 - 0xDC00) = char.toNat := by omega
  rw [readNumbered, readUnit_spelled first]
  dsimp only
  rw [if_neg leads.1, if_pos leads.2, readPair, readUnit_spelled second]
  dsimp only
  rw [if_pos trails, whole, Char.ofNat_toNat]

/-- A text goes on behind an escape. -/
theorem readTextOnto_escape {char : Char} {left rest : List Char} (done : List Char)
    (read : readEscape left = .ok (char, rest)) :
    readTextOnto done ('\\' :: left) = readTextOnto (char :: done) rest := by
  rw [readTextOnto, if_neg (by decide), if_pos rfl]
  split
  · rename_i failed
    cases failed.symm.trans read
  · rename_i found
    cases found.symm.trans read
    rfl

/-- A character is read from how it stands in a text. -/
theorem readTextOnto_spelled {char : Char} {part : List Char} (spelled : SpellsChar char part)
    (done rest : List Char) :
    readTextOnto done (part ++ rest) = readTextOnto (char :: done) rest := by
  cases spelled with
  | plain plain =>
    obtain ⟨quote, slash, plain⟩ := plain
    rw [List.singleton_append, readTextOnto, if_neg quote, if_neg slash, if_neg (by omega)]
  | short escape => exact readTextOnto_escape done (readEscape_short escape rest)
  | numbered digits => exact readTextOnto_escape done (readNumbered_spelled digits rest)
  | paired large first second =>
    rename_i leading trailing
    have behind : leading ++ '\\' :: 'u' :: trailing ++ rest =
        leading ++ '\\' :: 'u' :: (trailing ++ rest) := by simp
    refine readTextOnto_escape done ?_
    exact (congrArg readNumbered behind).trans (readNumbered_paired large first second rest)

/-- The characters of a text are read one by one, up to the closing quote. -/
theorem readTextOnto_parts {chars : List Char} {parts : List (List Char)}
    (each : List.Forall₂ SpellsChar chars parts) (done rest : List Char) :
    readTextOnto done (parts.flatten ++ '"' :: rest) =
      .ok (String.ofList (done.reverse ++ chars), rest) := by
  induction each generalizing done with
  | nil => rw [List.flatten_nil, List.nil_append, readTextOnto, if_pos rfl, List.append_nil]
  | cons spelled _ ih =>
    rw [List.flatten_cons, List.append_assoc, readTextOnto_spelled spelled, ih, List.reverse_cons,
      List.append_assoc, List.singleton_append]

/-- A text begins as a value does. -/
theorem SpellsText.opens {value : String} {chars : List Char} (spelled : SpellsText value chars) :
    Opens chars := by
  obtain ⟨parts, _, rfl⟩ := spelled
  exact ⟨'"', _, rfl, by decide, by decide, by decide⟩

/-- A text is read from behind its opening quote. -/
theorem SpellsText.readText {value : String} {chars : List Char}
    (spelled : SpellsText value chars) (rest : List Char) :
    ∃ inner, chars ++ rest = '"' :: inner ∧ readText inner = .ok (value, rest) := by
  obtain ⟨parts, each, rfl⟩ := spelled
  refine ⟨parts.flatten ++ '"' :: rest, by simp [quote], ?_⟩
  rw [Json.readText, readTextOnto_parts each, List.reverse_nil, List.nil_append,
    String.ofList_toList]

/-- A character as the writer puts it in a text is spelled. -/
theorem spellsChar_escaped (char : Char) : SpellsChar char (escaped char) := by
  rw [escaped]
  split_ifs with quote slash back feed line carriage tab control
  · exact .short (by rw [quote]; decide)
  · exact .short (by rw [slash]; decide)
  · exact .short (by rw [back]; decide)
  · exact .short (by rw [feed]; decide)
  · exact .short (by rw [line]; decide)
  · exact .short (by rw [carriage]; decide)
  · exact .short (by rw [tab]; decide)
  · have high : char.toNat / 0x10 % 16 = char.toNat / 16 := by omega
    have zero : char.toNat / 0x1000 = 0 ∧ char.toNat / 0x100 % 16 = 0 := by omega
    refine .numbered ⟨by omega, ?_⟩
    rw [high, zero.1, zero.2]
    exact .cons (.inl rfl) (.cons (.inl rfl) (.cons (.inl rfl) (.cons (.inl rfl) .nil)))
  · exact .plain ⟨quote, slash, Nat.le_of_not_lt control⟩

/-- A text as the writer puts it is spelled. -/
theorem spellsText_text (value : String) (level : Nat) :
    SpellsText value (Writer.text value level) := by
  refine ⟨value.toList.map escaped, ?_, ?_⟩
  · rw [List.forall₂_map_right_iff, List.forall₂_same]
    exact fun char _ => spellsChar_escaped char
  · rw [Writer.text, quote, List.flatMap_def]
    rfl

/-- Texts are decoded. -/
theorem decodes_text : Decodes text SpellsText where
  opens := SpellsText.opens
  takes spelled before rest blank _ := by
    obtain ⟨inner, begins, read⟩ := spelled.readText rest
    rw [text, spelled.opens.skipBlanks_append blank, begins]
    exact read

/-! ## Truth values, tags and null -/

/-- Truth values are decoded. -/
theorem decodes_flag : Decodes flag SpellsFlag where
  opens {value _} spelled := by
    rw [spelled]
    cases value
    · exact ⟨'f', _, rfl, by decide, by decide, by decide⟩
    · exact ⟨'t', _, rfl, by decide, by decide, by decide⟩
  takes {value _} spelled before rest blank _ := by
    rw [spelled, flag, skipBlanks_append blank]
    cases value
    · rfl
    · rfl

/-- A known tag is taken. -/
theorem takes_tag {α : Type} {depth : Nat} {known : List String} {ofTag? : String → Option α}
    {name : String} {value : α} {chars : List Char} (found : ofTag? name = some value)
    (spelled : SpellsText name chars) : Takes (tag depth known ofTag?) value chars := by
  intro before rest blank _
  obtain ⟨inner, begins, read⟩ := spelled.readText rest
  rw [tag, spelled.opens.skipBlanks_append blank, begins]
  simp only [read, tagged, found]

/-- A value that may be missing is taken if its kind is decoded. -/
theorem Decodes.orNull {α : Type} {read : Reader α} {spells : α → List Char → Prop}
    {value : Option α} {chars : List Char} (decodes : Decodes read spells)
    (spelled : SpellsOption spells value chars) : Takes (orNull read) value chars := by
  intro before rest blank ends
  cases value with
  | none =>
    rw [spelled, Json.orNull, skipBlanks_append blank]
    rfl
  | some value =>
    have opens := decodes.opens spelled
    have taken := (decodes.takes spelled).front ends
    rw [Json.orNull, opens.skipBlanks_append blank]
    obtain ⟨char, others, rfl, _, other, _⟩ := opens
    rw [List.cons_append] at taken ⊢
    split
    · rename_i same
      exact absurd (List.cons.inj same).1 other
    · rw [taken]
      rfl

/-! ## Whole numbers -/

/-- The characters do not begin with a digit. -/
def Stops (rest : List Char) : Prop := ∀ char ∈ rest.head?, ¬ char.isDigit

/-- Digits are told from what follows them. -/
theorem spanDigits_append {digits rest : List Char} (all : ∀ char ∈ digits, char.isDigit)
    (stops : Stops rest) : spanDigits (digits ++ rest) = (digits, rest) := by
  rw [spanDigits, List.span_eq_takeWhile_dropWhile, List.takeWhile_append_of_pos all,
    List.dropWhile_append_of_pos all]
  cases rest with
  | nil => simp
  | cons char rest => simp [stops char rfl]

/-- Further digits do not make a number less. -/
theorem le_ofDigitChars (digits : List Char) (value : Nat) :
    value ≤ Nat.ofDigitChars 10 digits value := by
  induction digits generalizing value with
  | nil => exact Nat.le_refl _
  | cons digit digits ih =>
    rw [Nat.ofDigitChars_cons]
    have further := ih (10 * value + (digit.toNat - '0'.toNat))
    omega

/-- All digits are appended if the number that they make has 64 bits. -/
theorem appendDigits_eq {digits : List Char} {value : Nat} (appended : Nat)
    (bound : Nat.ofDigitChars 10 digits value ≤ maxWhole) :
    appendDigits value appended digits =
      (Nat.ofDigitChars 10 digits value, appended + digits.length, 0) := by
  induction digits generalizing value appended with
  | nil => rfl
  | cons digit digits ih =>
    rw [Nat.ofDigitChars_cons, Nat.mul_comm] at bound
    have longer := Nat.le_trans (le_ofDigitChars digits _) bound
    rw [appendDigits, if_pos longer, ih _ bound, Nat.ofDigitChars_cons, Nat.mul_comm,
      List.length_cons, Nat.add_assoc, Nat.add_comm 1]

/-- The digits of a number other than zero do not begin with zero. -/
theorem toDigits_head {value : Nat} (positive : 0 < value) :
    ∃ digit digits, Nat.toDigits 10 value = digit :: digits ∧ digit ≠ '0' := by
  induction value using Nat.strongRecOn with
  | _ value ih =>
    by_cases small : value < 10
    · have nonzero : ∀ value < 10, 0 < value → value.digitChar ≠ '0' := by decide
      exact ⟨_, [], Nat.toDigits_of_lt_base small, nonzero value small positive⟩
    · obtain ⟨digit, digits, begins, nonzero⟩ := ih (value / 10) (by omega) (by omega)
      refine ⟨digit, digits ++ [(value % 10).digitChar], ?_, nonzero⟩
      rw [Nat.toDigits_of_base_le (by decide) (by omega), begins, List.cons_append]

/-- Nothing carries on a whole number that ends. -/
theorem readWholeEnd_eq (negative : Bool) (value : Nat) {rest : List Char} (ends : Ends rest) :
    readWholeEnd negative value rest = finishWhole negative value rest := by
  cases rest with
  | nil => rfl
  | cons char rest =>
    obtain ⟨_, point, small, large⟩ := ends char rfl
    unfold readWholeEnd
    split
    · rename_i same
      exact absurd (List.cons.inj same).1 point
    · rename_i same
      exact absurd (List.cons.inj same).1 small
    · rename_i same
      exact absurd (List.cons.inj same).1 large
    · rfl

/-- A whole number of 64 bits is read from its digits. -/
theorem readMagnitude_toDigits (negative : Bool) {value : Nat} {rest : List Char}
    (bound : value ≤ maxWhole) (ends : Ends rest) :
    readMagnitude negative (Nat.toDigits 10 value ++ rest) = finishWhole negative value rest := by
  have stops : Stops rest := fun char first => (ends char first).1
  rcases Nat.eq_zero_or_pos value with rfl | positive
  · have zero : Nat.toDigits 10 0 = ['0'] := rfl
    rw [zero, List.singleton_append]
    cases rest with
    | nil => exact readWholeEnd_eq negative 0 ends
    | cons char rest => exact (if_neg (stops char rfl)).trans (readWholeEnd_eq negative 0 ends)
  · obtain ⟨digit, digits, begins, nonzero⟩ := toDigits_head positive
    have all : ∀ char ∈ digit :: digits, char.isDigit := fun char listed =>
      Nat.isDigit_of_mem_toDigits (by decide) (by decide) (begins ▸ listed)
    have number : Nat.ofDigitChars 10 (digit :: digits) 0 = value :=
      begins ▸ Nat.ofDigitChars_ten_toDigits
    have spanned := spanDigits_append all stops
    have appended := appendDigits_eq 0 (Nat.le_trans (Nat.le_of_eq number) bound)
    rw [begins]
    rw [List.cons_append] at spanned ⊢
    unfold readMagnitude
    split
    · contradiction
    · rename_i same
      exact absurd (List.cons.inj same).1 nonzero
    · rename_i same
      obtain ⟨rfl, rfl⟩ := List.cons.inj same
      rw [if_pos (all digit List.mem_cons_self), spanned]
      dsimp only
      rw [appended, number]
      exact readWholeEnd_eq negative value ends

/-- A whole number is spelled by its digits, from behind a minus sign if it is below zero. -/
theorem SpellsWhole.cases {value : Int} {chars : List Char} (spelled : SpellsWhole value chars) :
    value = value.natAbs ∧ chars = Nat.toDigits 10 value.natAbs ∨
      value.natAbs ≠ 0 ∧ value = -(value.natAbs : Int) ∧
        chars = '-' :: Nat.toDigits 10 value.natAbs := by
  rw [spelled]
  cases value with
  | ofNat value => exact .inl ⟨rfl, String.toList_ofList⟩
  | negSucc value =>
    refine .inr ⟨Nat.succ_ne_zero value, rfl, ?_⟩
    have sign : (toString (Int.negSucc value)).toList = ("-" ++ (value + 1).repr).toList := rfl
    rw [sign, String.toList_append]
    exact congrArg (List.cons '-') String.toList_ofList

/-- A number may begin with the character: it is a minus sign or a digit. -/
def Leads (char : Char) : Prop := char = '-' ∨ char.isDigit

instance (char : Char) : Decidable (Leads char) := inferInstanceAs (Decidable (_ ∨ _))

/-- No other value begins like a number. -/
theorem Leads.apart {char other : Char} (leads : Leads char) (foreign : ¬ Leads other) :
    char ≠ other := fun same => foreign (same ▸ leads)

/-- A number does not begin with a blank. -/
theorem Leads.solid {char : Char} (leads : Leads char) : ¬ isBlank char := by
  simp only [isBlank, Bool.or_eq_true, beq_iff_eq, not_or]
  exact ⟨⟨⟨leads.apart (by decide), leads.apart (by decide)⟩, leads.apart (by decide)⟩,
    leads.apart (by decide)⟩

/-- A whole number begins as numbers do. -/
theorem SpellsWhole.begins {value : Int} {chars : List Char} (spelled : SpellsWhole value chars) :
    ∃ char others, chars = char :: others ∧ Leads char := by
  rcases spelled.cases with ⟨_, rfl⟩ | ⟨_, _, rfl⟩
  · obtain ⟨digit, digits, same⟩ := List.exists_cons_of_ne_nil Nat.toDigits_ne_nil
    refine ⟨digit, digits, same, .inr ?_⟩
    exact Nat.isDigit_of_mem_toDigits (by decide) (by decide) (same ▸ List.mem_cons_self)
  · exact ⟨'-', _, rfl, .inl rfl⟩

/-- A whole number begins as a value does. -/
theorem SpellsWhole.opens {value : Int} {chars : List Char} (spelled : SpellsWhole value chars) :
    Opens chars := by
  obtain ⟨char, others, rfl, leads⟩ := spelled.begins
  exact ⟨char, others, rfl, leads.solid, leads.apart (by decide), leads.apart (by decide)⟩

/-- A whole number of 64 bits is read. -/
theorem SpellsWhole.readNumber {value : Int} {chars rest : List Char}
    (spelled : SpellsWhole value chars) (bound : value.natAbs ≤ 0x8000000000000000)
    (ends : Ends rest) : readNumber (chars ++ rest) = .ok (.whole value, rest) := by
  have fits : value.natAbs ≤ maxWhole := Nat.le_trans bound (by decide)
  rcases spelled.cases with ⟨same, rfl⟩ | ⟨nonzero, same, rfl⟩
  · have read := readMagnitude_toDigits false fits ends
    have whole : finishWhole false value.natAbs rest = .ok (.whole value, rest) := by
      rw [finishWhole, if_neg Bool.false_ne_true, ← same]
    unfold Json.readNumber
    split
    · rename_i sign
      have listed : '-' ∈ Nat.toDigits 10 value.natAbs := by
        obtain ⟨digit, digits, begins⟩ := List.exists_cons_of_ne_nil
          (Nat.toDigits_ne_nil : Nat.toDigits 10 value.natAbs ≠ [])
        rw [begins, List.cons_append] at sign
        rw [begins, (List.cons.inj sign).1]
        exact List.mem_cons_self
      exact absurd (Nat.isDigit_of_mem_toDigits (by decide) (by decide) listed) (by decide)
    · rw [read, whole]
  · have read := readMagnitude_toDigits true fits ends
    have whole : finishWhole true value.natAbs rest = .ok (.whole value, rest) := by
      rw [finishWhole, if_pos rfl, if_pos ⟨nonzero, bound⟩, ← same]
    exact read.trans whole

/-! ## Texts and whole numbers where both may stand -/

/-- A value of any shape is read by the reader for one level, whatever is left. -/
theorem loose_eq (depth : Nat) : ∃ inner, loose depth = looseWith depth inner := by
  cases depth with
  | zero => exact ⟨_, rfl⟩
  | succ depth => exact ⟨_, rfl⟩

/-- A text is taken as such. -/
theorem SpellsText.takes_loose {value : String} {chars : List Char}
    (spelled : SpellsText value chars) (depth : Nat) : Takes (loose depth) (.text value) chars := by
  intro before rest blank _
  obtain ⟨inner, reads⟩ := loose_eq depth
  obtain ⟨behind, begins, read⟩ := spelled.readText rest
  rw [reads, looseWith, spelled.opens.skipBlanks_append blank, begins]
  exact congrArg (Except.map fun read : String × List Char => (Loose.text read.1, read.2)) read

/-- A whole number of 64 bits is taken as such. -/
theorem SpellsWhole.takes_loose {value : Int} {chars : List Char}
    (spelled : SpellsWhole value chars) (bound : value.natAbs ≤ 0x8000000000000000)
    (depth : Nat) : Takes (loose depth) (.whole value) chars := by
  intro before rest blank ends
  obtain ⟨inner, reads⟩ := loose_eq depth
  have read := spelled.readNumber bound ends
  obtain ⟨char, others, rfl, begins⟩ := spelled.begins
  have number : (char = '-' || char.isDigit) = true := by simpa [Leads] using begins
  rw [List.cons_append] at read ⊢
  rw [reads, looseWith, skipBlanks_solid blank begins.solid]
  -- The six forms that are told apart by their first character are not numbers.
  split
  case h_8 same =>
    obtain ⟨rfl, rfl⟩ := List.cons.inj same
    rw [if_pos number, read]
  case h_1 same => cases same
  all_goals
    rename_i same
    exact absurd (List.cons.inj same).1 (begins.apart (by decide))

/-! ## Lists -/

section

variable {α : Type} {item : Reader α} {count : Char} {counts : List Char} {done : List α}
  {value : α} {chars behind rest : List Char}

/-- The last item of a list is the one that the bracket follows. -/
theorem moreItems_last (read : item chars = .ok (value, behind))
    (closes : skipBlanks behind = ']' :: rest) :
    moreItems item (count :: counts) done chars = .ok ((value :: done).reverse, rest) := by
  simp only [moreItems, read, closes]

/-- A list goes on behind a comma. -/
theorem moreItems_next {left : List Char} (read : item chars = .ok (value, behind))
    (comma : skipBlanks behind = ',' :: left) (opens : Opens rest)
    (next : skipBlanks left = rest) :
    moreItems item (count :: counts) done chars = moreItems item counts (value :: done) rest := by
  obtain ⟨char, others, written, _, _, other⟩ := opens
  simp only [moreItems, read, comma, next, written]
  split
  · contradiction
  · rename_i same
    exact absurd (List.cons.inj same).1 other
  · rfl

/-- A list that is not closed at once has items. -/
theorem items_eq (opens : Opens rest) (next : skipBlanks behind = rest) :
    items item behind = moreItems item rest [] rest := by
  obtain ⟨char, others, written, _, _, other⟩ := opens
  rw [items, next, written]
  split
  · contradiction
  · rename_i same
    exact absurd (List.cons.inj same).1 other
  · rfl

end

/-- There are no more parts than characters in which they are joined. -/
theorem Joined.length_le {parts : List (List Char)} {chars : List Char}
    (joined : Joined parts chars) (filled : ∀ part ∈ parts, part ≠ []) :
    parts.length ≤ chars.length := by
  induction joined with
  | last _ =>
    have first := List.length_pos_of_ne_nil (filled _ List.mem_cons_self)
    simp only [List.length_append, List.length_cons, List.length_nil]
    omega
  | next _ _ _ ih =>
    have others := ih fun part listed => filled part (List.mem_cons_of_mem _ listed)
    simp only [List.length_append, List.length_cons]
    omega

/-- Parts that are joined begin as the first of them does. -/
theorem Joined.opens {parts : List (List Char)} {chars : List Char} (joined : Joined parts chars)
    (opens : ∀ part ∈ parts, Opens part) : Opens chars := by
  cases joined with
  | last _ => exact (opens _ List.mem_cons_self).append _
  | next _ _ _ => exact (opens _ List.mem_cons_self).append _

section

variable {α : Type} {item : Reader α} {spells : α → List Char → Prop} {values : List α}
  {parts : List (List Char)} {chars : List Char}

/-- What values are spelled in begins as values do. -/
theorem Decodes.opens_of_forall₂ (decodes : Decodes item spells)
    (each : List.Forall₂ spells values parts) : ∀ part ∈ parts, Opens part := by
  induction each with
  | nil => exact fun part listed => absurd listed List.not_mem_nil
  | cons spelled _ ih =>
    exact fun part listed => (List.mem_cons.mp listed).elim (· ▸ decodes.opens spelled) (ih part)

/-- The items of a list are read one by one. -/
theorem Decodes.moreItems (decodes : Decodes item spells) {counts : List Char} {done : List α}
    (joined : Joined parts chars) (each : List.Forall₂ spells values parts)
    (enough : parts.length ≤ counts.length) (rest : List Char) :
    moreItems item counts done (chars ++ ']' :: rest) = .ok (done.reverse ++ values, rest) := by
  -- On how the parts are joined: each comma takes one from the count.
  induction joined generalizing values counts done with
  | last blank =>
    rcases each with _ | ⟨spelled, _ | _⟩
    obtain ⟨count, counts, rfl⟩ := List.exists_cons_of_length_pos enough
    have read := (decodes.takes spelled).front (.append blank (ends_cons ']' (by decide) rest))
    rw [List.append_assoc, moreItems_last read (skipBlanks_solid blank (by decide) rest),
      List.reverse_cons]
  | @next part after before chars parts blank blank' joined ih =>
    rcases each with _ | ⟨spelled, each⟩
    obtain ⟨count, counts, rfl⟩ := List.exists_cons_of_length_pos (Nat.zero_lt_of_lt enough)
    have opens := joined.opens (decodes.opens_of_forall₂ each)
    have read := (decodes.takes spelled).front
      (.append blank (ends_cons ',' (by decide) (before ++ (chars ++ ']' :: rest))))
    have written : part ++ (after ++ ',' :: (before ++ chars)) ++ ']' :: rest =
        part ++ (after ++ ',' :: (before ++ (chars ++ ']' :: rest))) := by simp
    rw [written, moreItems_next read (skipBlanks_solid blank (by decide) _) (opens.append _)
      (opens.skipBlanks_append blank' _)]
    rw [List.length_cons, List.length_cons] at enough
    rw [ih each (Nat.le_of_succ_le_succ enough), List.reverse_cons, List.append_assoc,
      List.singleton_append]

/-- Lists are decoded if their items are. -/
theorem Decodes.list {depth : Nat} (decodes : Decodes item spells) :
    Decodes (list depth item) (SpellsList depth spells) where
  opens spelled := by
    obtain ⟨_, parts, _, bracketed⟩ := spelled
    cases bracketed with
    | none _ => exact ⟨'[', _, rfl, by decide, by decide, by decide⟩
    | some _ _ => exact ⟨'[', _, rfl, by decide, by decide, by decide⟩
  takes {values _} spelled before rest blank _ := by
    obtain ⟨deep, parts, each, bracketed⟩ := spelled
    have bracket (behind : List Char) :
        Json.list depth item (before ++ '[' :: behind) = items item behind := by
      rw [Json.list, skipBlanks_solid blank (by decide)]
      exact if_neg (Nat.ne_of_gt deep)
    cases bracketed with
    | @none inside blank' =>
      cases each
      have written : '[' :: (inside ++ [']']) ++ rest = '[' :: (inside ++ ']' :: rest) := by simp
      rw [written, bracket, items, skipBlanks_solid blank' (by decide)]
      rfl
    | @some parts inside chars blank' joined =>
      have written : '[' :: (inside ++ (chars ++ [']'])) ++ rest =
          '[' :: (inside ++ (chars ++ ']' :: rest)) := by simp
      have each' := decodes.opens_of_forall₂ each
      have opens := joined.opens each'
      have enough := joined.length_le fun part listed => (each' part listed).ne_nil
      rw [written, bracket, items_eq (opens.append _) (opens.skipBlanks_append blank' _),
        decodes.moreItems joined each (by rw [List.length_append]; omega)]
      rfl

end

end GrammarAtlas.Json
