import GrammarAtlas.Json.Skip
import GrammarAtlas.Proofs.Json.Decoding

/-!
# Skipping values of any shape

What nothing asks for is skipped in one pass that keeps the open lists and objects on a stack. So
what skipping a value comes to has to be said for any stack: behind the value, the pass goes on with
what closes the containers around it (`Skips`). Every value is skipped in this sense, by induction
on its shape (`IsValue.skips`), and with nothing open to begin with, the pass is over behind it.
-/

namespace GrammarAtlas.Json

/-! ## Texts -/

/-- A text goes on behind an escape. -/
theorem skipText_escape {left rest : List Char} (skipped : skipEscape left = .ok ((), rest)) :
    skipText ('\\' :: left) = skipText rest := by
  rw [skipText, if_neg (by decide), if_pos rfl]
  split
  · rename_i failed
    cases failed.symm.trans skipped
  · rename_i found
    cases found.symm.trans skipped
    rfl

/-- An escape of one letter is skipped. -/
theorem skipEscape_short {char letter : Char} (escape : (char, letter) ∈ shortEscapes)
    (rest : List Char) : skipEscape (letter :: rest) = .ok ((), rest) := by
  simp only [shortEscapes, List.mem_cons, List.not_mem_nil, or_false, Prod.mk.injEq] at escape
  rcases escape with h | h | h | h | h | h | h | h
  all_goals
    obtain ⟨rfl, rfl⟩ := h
    rfl

/-- An escape by number is skipped. -/
theorem skipEscape_numbered {unit : Nat} {digits : List Char} (spelled : SpellsUnit unit digits)
    (rest : List Char) : skipEscape ('u' :: (digits ++ rest)) = .ok ((), rest) := by
  rw [skipEscape, if_pos rfl, readUnit_spelled spelled]

/-- A part of a text is skipped. -/
theorem IsPiece.skipText {part : List Char} (piece : IsPiece part) (rest : List Char) :
    skipText (part ++ rest) = skipText rest := by
  cases piece with
  | plain plain =>
    obtain ⟨quote, slash, plain⟩ := plain
    rw [List.singleton_append, Json.skipText, if_neg quote, if_neg slash, if_neg (by omega)]
  | short escape => exact skipText_escape (skipEscape_short escape rest)
  | numbered digits => exact skipText_escape (skipEscape_numbered digits rest)

/-- A text is skipped from behind its opening quote. -/
theorem IsText.skipText {chars : List Char} (text : IsText chars) (rest : List Char) :
    ∃ inner, chars ++ rest = '"' :: inner ∧ skipText inner = .ok ((), rest) := by
  obtain ⟨parts, pieces, rfl⟩ := text
  refine ⟨parts.flatten ++ '"' :: rest, by simp [quote], ?_⟩
  induction parts with
  | nil => rw [List.flatten_nil, List.nil_append, Json.skipText, if_pos rfl]
  | cons part parts ih =>
    rw [List.flatten_cons, List.append_assoc, (pieces part List.mem_cons_self).skipText]
    exact ih fun other listed => pieces other (List.mem_cons_of_mem _ listed)

/-! ## Numbers -/

/-- A digit is no other character. -/
theorem ne_of_isDigit {digit other : Char} (first : digit.isDigit) (foreign : ¬ other.isDigit) :
    digit ≠ other := fun same => foreign (same ▸ first)

/-- An exponent with what follows it carries on neither digits nor a decimal point. -/
theorem IsExponent.stops {exponent rest : List Char} (scaled : IsExponent exponent)
    (ends : Ends rest) : ∀ char ∈ (exponent ++ rest).head?, ¬ char.isDigit ∧ char ≠ '.' := by
  rcases scaled with rfl | ⟨letter, listed, sign, _, digits, _, rfl⟩
  · exact fun char first => ⟨(ends char first).1, (ends char first).2.1⟩
  · intro char first
    obtain rfl : letter = char := by simpa using first
    simp only [List.mem_cons, List.not_mem_nil, or_false] at listed
    rcases listed with rfl | rfl
    all_goals decide

/-- A fraction with what follows it does not carry digits on. -/
theorem IsFraction.stops {fraction rest : List Char} (fractional : IsFraction fraction)
    (stops : ∀ char ∈ rest.head?, ¬ char.isDigit ∧ char ≠ '.') : Stops (fraction ++ rest) := by
  rcases fractional with rfl | ⟨digits, _, rfl⟩
  · exact fun char first => (stops char first).1
  · intro char first
    obtain rfl : '.' = char := by simpa using first
    decide

/-- The digits of an exponent are skipped with its sign. -/
theorem skipExponent_append {sign digits rest : List Char} (signed : sign ∈ [[], ['+'], ['-']])
    (written : IsDigits digits) (stops : Stops rest) :
    skipExponent (sign ++ (digits ++ rest)) = .ok ((), rest) := by
  obtain ⟨filled, all⟩ := written
  obtain ⟨digit, digits, rfl⟩ := List.exists_cons_of_ne_nil filled
  have first := all digit List.mem_cons_self
  have spanned := spanDigits_append
    (fun char listed => all char (List.mem_cons_of_mem _ listed)) stops
  have skipped : (if digit.isDigit then .ok ((), (spanDigits (digits ++ rest)).2)
      else .error (stopAhead .badNumber (digit :: (digits ++ rest))) : Result Unit) =
      .ok ((), rest) := by
    rw [if_pos first, spanned]
  simp only [List.mem_cons, List.not_mem_nil, or_false] at signed
  rcases signed with rfl | rfl | rfl
  · rw [List.nil_append, List.cons_append, skipExponent.eq_def]
    split
    · rename_i same
      exact absurd (List.cons.inj same).1 (ne_of_isDigit first (by decide))
    · rename_i same
      exact absurd (List.cons.inj same).1 (ne_of_isDigit first (by decide))
    · exact skipped
  · exact skipped
  · exact skipped

/-- The exponent of a number is skipped. -/
theorem IsExponent.skipScale {exponent rest : List Char} (scaled : IsExponent exponent)
    (ends : Ends rest) : skipScale (exponent ++ rest) = .ok ((), rest) := by
  rcases scaled with rfl | ⟨letter, listed, sign, signed, digits, written, rfl⟩
  · cases rest with
    | nil => rfl
    | cons char rest =>
      obtain ⟨_, _, small, large⟩ := ends char rfl
      unfold Json.skipScale
      split
      · rename_i same
        exact absurd (List.cons.inj same).1 small
      · rename_i same
        exact absurd (List.cons.inj same).1 large
      · rfl
  · have skipped := skipExponent_append signed written fun char first => (ends char first).1
    rw [← List.append_assoc] at skipped
    simp only [List.mem_cons, List.not_mem_nil, or_false] at listed
    rcases listed with rfl | rfl
    · exact skipped
    · exact skipped

/-- What follows the digits of a whole number is skipped. -/
theorem IsFraction.skipWholeEnd {fraction rest : List Char} (fractional : IsFraction fraction)
    (stops : ∀ char ∈ rest.head?, ¬ char.isDigit ∧ char ≠ '.') :
    skipWholeEnd (fraction ++ rest) = skipScale rest := by
  rcases fractional with rfl | ⟨digits, ⟨filled, all⟩, rfl⟩
  · unfold Json.skipWholeEnd
    split
    · rename_i same
      rw [List.nil_append] at same
      exact absurd rfl (stops '.' (by rw [same]; rfl)).2
    · rfl
  · have spanned := spanDigits_append all fun char first => (stops char first).1
    obtain ⟨digit, digits, rfl⟩ := List.exists_cons_of_ne_nil filled
    rw [List.cons_append, Json.skipWholeEnd, spanned]

/-- The digits of a whole number are skipped. -/
theorem IsWhole.skipMagnitude {whole rest : List Char} (written : IsWhole whole)
    (stops : Stops rest) : skipMagnitude (whole ++ rest) = skipWholeEnd rest := by
  rcases written with rfl | ⟨digit, digits, rfl, nonzero, _, all⟩
  · cases rest with
    | nil => rfl
    | cons char rest => exact if_neg (stops char rfl)
  · have spanned := spanDigits_append
      (fun char listed => all char (List.mem_cons_of_mem _ listed)) stops
    rw [List.cons_append, Json.skipMagnitude, if_pos (all digit List.mem_cons_self), spanned]
    exact nonzero

/-- A whole number without its sign begins as numbers do. -/
theorem IsWhole.begins {whole : List Char} (written : IsWhole whole) :
    ∃ digit others, whole = digit :: others ∧ digit.isDigit := by
  rcases written with rfl | ⟨digit, digits, rfl, _, _, all⟩
  · exact ⟨'0', [], rfl, by decide⟩
  · exact ⟨digit, digits, rfl, all digit List.mem_cons_self⟩

/-! ## Values that hold no others -/

/-- A value of some characters that holds no others: it is skipped by itself. -/
structure IsScalar (chars : List Char) : Prop where
  /-- It begins with neither a blank nor anything that opens or closes a list or an object. -/
  begins : ∃ char others, chars = char :: others ∧ ¬ isBlank char ∧
    char ∉ ['[', ']', '\x7b', '\x7d']
  /-- It is skipped, and nothing else is. -/
  skipped : ∀ rest, Ends rest → skipScalar (chars ++ rest) = .ok ((), rest)

/-- Null is a value of its own. -/
theorem isScalar_null : IsScalar "null".toList :=
  ⟨⟨'n', _, rfl, by decide, by decide⟩, fun _ _ => rfl⟩

/-- A truth value is one. -/
theorem SpellsFlag.isScalar {value : Bool} {chars : List Char} (spelled : SpellsFlag value chars) :
    IsScalar chars := by
  rw [spelled]
  cases value
  · exact ⟨⟨'f', _, rfl, by decide, by decide⟩, fun _ _ => rfl⟩
  · exact ⟨⟨'t', _, rfl, by decide, by decide⟩, fun _ _ => rfl⟩

/-- A text is one. -/
theorem IsText.isScalar {chars : List Char} (text : IsText chars) : IsScalar chars where
  begins := by
    obtain ⟨parts, _, rfl⟩ := text
    exact ⟨'"', _, rfl, by decide, by decide⟩
  skipped rest _ := by
    obtain ⟨inner, begins, skipped⟩ := text.skipText rest
    rw [begins]
    exact skipped

/-- A digit begins a number. -/
theorem skipScalar_digit {digit : Char} (first : digit.isDigit) (behind : List Char) :
    skipScalar (digit :: behind) = skipMagnitude (digit :: behind) := by
  unfold skipScalar
  split
  case h_1 same => cases same
  case h_7 same =>
    obtain ⟨rfl, rfl⟩ := List.cons.inj same
    exact if_pos first
  all_goals
    rename_i same
    exact absurd (List.cons.inj same).1 (ne_of_isDigit first (by decide))

/-- A number is one. -/
theorem IsNumber.isScalar {chars : List Char} (number : IsNumber chars) : IsScalar chars := by
  obtain ⟨sign, signed, whole, fraction, exponent, written, fractional, scaled, rfl⟩ := number
  obtain ⟨digit, others, begins, first⟩ := written.begins
  have magnitude (rest : List Char) (ends : Ends rest) :
      skipMagnitude (whole ++ (fraction ++ exponent) ++ rest) = .ok ((), rest) := by
    have stops := scaled.stops ends
    rw [List.append_assoc, List.append_assoc, written.skipMagnitude (fractional.stops stops),
      fractional.skipWholeEnd stops, scaled.skipScale ends]
  simp only [List.mem_cons, List.not_mem_nil, or_false] at signed
  rcases signed with rfl | rfl
  · have apart : digit ∉ ['[', ']', '\x7b', '\x7d'] := by
      simp only [List.mem_cons, List.not_mem_nil, or_false, not_or]
      exact ⟨ne_of_isDigit first (by decide), ne_of_isDigit first (by decide),
        ne_of_isDigit first (by decide), ne_of_isDigit first (by decide)⟩
    rw [List.nil_append, begins] at *
    exact ⟨⟨digit, others ++ (fraction ++ exponent), rfl, Leads.solid (.inr first), apart⟩,
      fun rest ends => (skipScalar_digit first _).trans (magnitude rest ends)⟩
  · exact ⟨⟨'-', _, rfl, by decide, by decide⟩, magnitude⟩

/-! ## Going on behind a value -/

/-- Goes on with a pass from what one step of it came to. -/
def resume (counts : List Char) : Result (List Container) → Result Unit
  | .error failure => .error failure
  | .ok ([], behind) => .ok ((), behind)
  | .ok (container :: opened, behind) => skipAll counts (container :: opened) behind

/-- A pass makes one step and goes on. -/
theorem skipAll_cons (count : Char) (counts : List Char) (opened : List Container)
    (rest : List Char) :
    skipAll (count :: counts) opened rest = resume counts (skipStep opened rest) := by
  rw [skipAll]
  rcases skipStep opened rest with _ | ⟨_ | _, _⟩
  · rfl
  · rfl
  · rfl

/-- The characters are skipped whatever is open: the pass goes on behind them with what closes or
continues the containers around. It has used up no more of its count than there are characters. -/
structure Skips (chars : List Char) : Prop where
  /-- They begin with neither a blank nor what closes a list or an object. -/
  begins : ∃ char others, chars = char :: others ∧ ¬ isBlank char ∧ char ∉ [']', '\x7d']
  /-- They are skipped. -/
  passed : ∀ counts opened before rest, Blank before → Ends rest →
    chars.length ≤ counts.length → ∃ left, counts.length ≤ left.length + chars.length ∧
      skipAll counts opened (before ++ (chars ++ rest)) = resume left (skipEnds opened rest)

/-- A value that holds no others is skipped. -/
theorem IsScalar.skips {chars : List Char} (scalar : IsScalar chars) : Skips chars := by
  obtain ⟨⟨char, others, rfl, solid, apart⟩, skipped⟩ := scalar
  simp only [List.mem_cons, List.not_mem_nil, or_false, not_or] at apart
  obtain ⟨bracket, closing, brace, closing'⟩ := apart
  refine ⟨⟨char, others, rfl, solid, by simp [closing, closing']⟩, ?_⟩
  intro counts opened before rest blank ends enough
  obtain ⟨count, counts, rfl⟩ :=
    List.exists_cons_of_length_pos (Nat.lt_of_lt_of_le (Nat.zero_lt_succ _) enough)
  refine ⟨counts, by simp only [List.length_cons]; omega, ?_⟩
  have held : Container.opened? char = none := by
    unfold Container.opened?
    split
    · contradiction
    · contradiction
    · rfl
  have read := skipped rest ends
  rw [List.cons_append] at read ⊢
  rw [skipAll_cons, skipStep, skipBlanks_solid blank solid]
  simp only [held, read]

/-! ## Lists and objects -/

namespace Container

/-- The character that opens a container. -/
def opener : Container → Char
  | list => '['
  | object => '\x7b'

/-- A container is told from what opens it. -/
theorem opened?_opener (container : Container) : opened? container.opener = some container := by
  cases container <;> rfl

/-- What opens or closes a container is no blank. -/
theorem solid (container : Container) :
    ¬ isBlank container.opener ∧ ¬ isBlank container.closer ∧ container.closer ≠ ',' := by
  cases container <;> decide

/-- A value may end in front of what closes a container. -/
theorem ends (container : Container) (rest : List Char) : Ends (container.closer :: rest) :=
  ends_cons container.closer (by cases container <;> decide) rest

end Container

section

variable {container : Container} {opened : List Container} {before after rest next : List Char}

/-- What closes a container is skipped. -/
theorem skipEnds_close (blank : Blank after) :
    skipEnds (container :: opened) (after ++ container.closer :: rest) = skipEnds opened rest := by
  obtain ⟨_, solid, comma⟩ := container.solid
  rw [skipEnds, skipBlanks_solid blank solid]
  dsimp only
  rw [if_neg comma, if_pos rfl]

/-- A comma leads to the next value. -/
theorem skipEnds_comma (blank : Blank after) (keyed : skipKey container rest = .ok ((), next)) :
    skipEnds (container :: opened) (after ++ ',' :: rest) = .ok (container :: opened, next) := by
  rw [skipEnds, skipBlanks_solid blank (by decide)]
  dsimp only
  rw [if_pos rfl, keyed]

/-- A container without any value is skipped. -/
theorem skipStep_empty (blank : Blank before) (blank' : Blank after) :
    skipStep opened (before ++ container.opener :: (after ++ container.closer :: rest)) =
      skipEnds opened rest := by
  obtain ⟨solid, solid', _⟩ := container.solid
  rw [skipStep, skipBlanks_solid blank solid]
  simp only [container.opened?_opener, skipBlanks_solid blank' solid', if_pos]

/-- What opens a container leads to the first value in it. -/
theorem skipStep_open {char : Char} (blank : Blank before) (blank' : Blank after)
    (solid' : ¬ isBlank char) (other : char ≠ container.closer)
    (keyed : skipKey container (char :: rest) = .ok ((), next)) :
    skipStep opened (before ++ container.opener :: (after ++ char :: rest)) =
      .ok (container :: opened, next) := by
  rw [skipStep, skipBlanks_solid blank container.solid.1]
  simp only [container.opened?_opener, skipBlanks_solid blank' solid', if_neg other, keyed]

end

/-- A part of a container: a value that is skipped, from behind its key if the container has
keys. -/
structure IsPart (container : Container) (part : List Char) : Prop where
  /-- It begins with neither a blank nor what closes the container. -/
  begins : ∃ char others, part = char :: others ∧ ¬ isBlank char ∧ char ≠ container.closer
  /-- The value is reached. -/
  reached : ∃ value, Skips value ∧ value.length ≤ part.length ∧
    ∀ before rest, Blank before → ∃ blank, Blank blank ∧
      skipKey container (before ++ (part ++ rest)) = .ok ((), blank ++ (value ++ rest))

/-- Parts that are joined begin as the first of them does. -/
theorem Joined.begins {container : Container} {parts : List (List Char)} {chars : List Char}
    (joined : Joined parts chars) (each : ∀ part ∈ parts, IsPart container part) :
    ∃ char others, chars = char :: others ∧ ¬ isBlank char ∧ char ≠ container.closer := by
  cases joined with
  | last _ =>
    obtain ⟨char, others, rfl, begins⟩ := (each _ List.mem_cons_self).begins
    exact ⟨char, _, rfl, begins⟩
  | next _ _ _ =>
    obtain ⟨char, others, rfl, begins⟩ := (each _ List.mem_cons_self).begins
    exact ⟨char, _, rfl, begins⟩

/-- The parts of a container are skipped one by one, from the front of the first to behind the
container. -/
theorem Joined.passed {container : Container} {parts : List (List Char)} {chars : List Char}
    (joined : Joined parts chars) (each : ∀ part ∈ parts, IsPart container part)
    (counts : List Char) (opened : List Container) (before rest : List Char)
    (blank : Blank before) (enough : chars.length ≤ counts.length) :
    ∃ left behind, counts.length ≤ left.length + chars.length ∧
      skipKey container (before ++ (chars ++ container.closer :: rest)) = .ok ((), behind) ∧
      skipAll counts (container :: opened) behind = resume left (skipEnds opened rest) := by
  -- On how the parts are joined: the pass is behind a value where a comma or the end is due.
  induction joined generalizing counts before with
  | @last part after blank' =>
    obtain ⟨value, skips, short, reached⟩ := (each part List.mem_cons_self).reached
    obtain ⟨blanks, solid, keyed⟩ := reached before (after ++ container.closer :: rest) blank
    rw [List.length_append] at enough
    obtain ⟨left, used, passed⟩ := skips.passed counts (container :: opened) blanks _ solid
      (.append blank' (container.ends rest)) (by omega)
    rw [List.append_assoc, List.length_append]
    refine ⟨left, _, by omega, keyed, ?_⟩
    rw [passed, skipEnds_close blank']
  | @next part after before' chars parts blank' blank'' joined ih =>
    have others : ∀ part ∈ parts, IsPart container part :=
      fun other listed => each other (List.mem_cons_of_mem _ listed)
    obtain ⟨value, skips, short, reached⟩ := (each part List.mem_cons_self).reached
    obtain ⟨blanks, solid, keyed⟩ := reached before
      (after ++ ',' :: (before' ++ (chars ++ container.closer :: rest))) blank
    have written : part ++ (after ++ ',' :: (before' ++ chars)) ++ container.closer :: rest =
        part ++ (after ++ ',' :: (before' ++ (chars ++ container.closer :: rest))) := by simp
    simp only [List.length_append, List.length_cons] at enough ⊢
    obtain ⟨middle, used, passed⟩ := skips.passed counts (container :: opened) blanks _ solid
      (.append blank' (ends_cons ',' (by decide) _)) (by omega)
    obtain ⟨left, behind, used', keyed', passed'⟩ := ih others middle before' blank'' (by omega)
    rw [written]
    refine ⟨left, _, by omega, keyed, ?_⟩
    rw [passed, skipEnds_comma blank' keyed']
    exact passed'

/-- A container is skipped if its parts are. -/
theorem Bracketed.skips (container : Container) {parts : List (List Char)} {chars : List Char}
    (bracketed : Bracketed container.opener container.closer parts chars)
    (each : ∀ part ∈ parts, IsPart container part) : Skips chars where
  begins := by
    obtain ⟨solid, _, _⟩ := container.solid
    have apart : container.opener ∉ [']', '\x7d'] := by cases container <;> decide
    cases bracketed with
    | none _ => exact ⟨_, _, rfl, solid, apart⟩
    | some _ _ => exact ⟨_, _, rfl, solid, apart⟩
  passed counts opened before rest blank _ enough := by
    cases bracketed with
    | @none inside blank' =>
      simp only [List.length_cons, List.length_append, List.length_nil] at enough ⊢
      obtain ⟨count, counts, rfl⟩ := List.exists_cons_of_length_pos (l := counts) (by omega)
      have written : container.opener :: (inside ++ [container.closer]) ++ rest =
          container.opener :: (inside ++ container.closer :: rest) := by simp
      refine ⟨counts, by simp only [List.length_cons]; omega, ?_⟩
      rw [skipAll_cons, written, skipStep_empty blank blank']
    | @some parts inside chars blank' joined =>
      simp only [List.length_cons, List.length_append, List.length_nil] at enough ⊢
      obtain ⟨count, counts, rfl⟩ := List.exists_cons_of_length_pos (l := counts) (by omega)
      rw [List.length_cons] at enough
      obtain ⟨left, behind, used, keyed, passed⟩ :=
        joined.passed each counts opened [] rest blank_nil (by omega)
      obtain ⟨char, others, rfl, solid, other⟩ := joined.begins each
      have written : container.opener :: (inside ++ (char :: others ++ [container.closer])) ++
          rest = container.opener ::
            (inside ++ char :: (others ++ container.closer :: rest)) := by simp
      rw [List.nil_append, List.cons_append] at keyed
      refine ⟨left, by simp only [List.length_cons] at *; omega, ?_⟩
      rw [skipAll_cons, written, skipStep_open blank blank' solid other keyed]
      exact passed

/-- An item of a list is a part of it. -/
theorem Skips.isPart {part : List Char} (skips : Skips part) : IsPart .list part where
  begins := by
    obtain ⟨char, others, rfl, solid, apart⟩ := skips.begins
    exact ⟨char, others, rfl, solid, fun same => apart (same ▸ List.mem_cons_self)⟩
  reached := ⟨part, skips, Nat.le_refl _, fun before _ blank => ⟨before, blank, rfl⟩⟩

/-- A member of an object is a part of it. -/
theorem Member.isPart {member : Member} (key : IsText member.key) (spaced : member.Spaced)
    (skips : Skips member.value) : IsPart .object member.chars where
  begins := by
    obtain ⟨parts, _, quoted⟩ := key
    exact ⟨'"', _, by rw [chars, quoted]; rfl, by decide, by decide⟩
  reached := by
    refine ⟨member.value, skips, ?_, fun before rest blank => ⟨member.after, spaced.2, ?_⟩⟩
    · simp only [chars, List.length_append, List.length_cons]
      omega
    · have written : member.chars ++ rest =
          member.key ++ (member.before ++ ':' :: (member.after ++ (member.value ++ rest))) := by
        simp [chars]
      obtain ⟨inner, begins, skipped⟩ :=
        key.skipText (member.before ++ ':' :: (member.after ++ (member.value ++ rest)))
      have quoted : skipBlanks (before ++ '"' :: inner) = '"' :: inner :=
        skipBlanks_solid blank (by decide) inner
      have colon (behind : List Char) : skipBlanks (member.before ++ ':' :: behind) =
          ':' :: behind := skipBlanks_solid spaced.1 (by decide) behind
      rw [written, begins]
      simp only [skipKey, quoted, skipped, colon]

/-! ## Values of any shape -/

/-- Every value is skipped. -/
theorem IsValue.skips {chars : List Char} (value : IsValue chars) : Skips chars := by
  -- On the shape of the value.
  induction value with
  | null => exact isScalar_null.skips
  | flag spelled => exact spelled.isScalar.skips
  | number number => exact number.isScalar.skips
  | text text => exact text.isScalar.skips
  | list _ bracketed ih =>
    exact bracketed.skips .list fun part listed => (ih part listed).isPart
  | object keys _ object ih =>
    obtain ⟨spaced, bracketed⟩ := object
    refine bracketed.skips .object fun part listed => ?_
    obtain ⟨member, among, rfl⟩ := List.mem_map.mp listed
    exact Member.isPart (keys member among) (spaced member among) (ih member among)

/-- Skipping takes every value. -/
theorem IsValue.takes {chars : List Char} (value : IsValue chars) : Takes skipValue () chars := by
  intro before rest blank ends
  obtain ⟨left, _, passed⟩ := value.skips.passed (' ' :: (before ++ (chars ++ rest))) [] before rest
    blank ends (by simp only [List.length_cons, List.length_append]; omega)
  exact passed

end GrammarAtlas.Json
