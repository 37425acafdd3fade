import Mathlib.Data.List.Basic
import Mathlib.Tactic.SplitIfs

/-!
# Texts and their bytes

Tables and sets by name go by code points. The bytes of texts in UTF-8 come in the same order
(`Text.lt_iff_bytes_lt`): the first byte of a character tells how many follow, more of them for
greater characters, and the bytes of one length are the digits of the code point.
-/

namespace GrammarAtlas.Text

/-- The bytes of a text in UTF-8. -/
def bytes (text : String) : List UInt8 := text.toUTF8.data.toList

/-- The bytes of a text are those of its characters, one after another. -/
theorem bytes_eq (text : String) : bytes text = text.toList.flatMap String.utf8EncodeChar := by
  rw [bytes, String.toUTF8_eq_toByteArray, ← String.utf8Encode_toList, List.utf8Encode]
  simp

/-! ## Characters -/

/-- Bytes are in the order of the numbers that they are made of. -/
theorem ofNat_lt_iff {number other : Nat} (small : number < 256) (small' : other < 256) :
    UInt8.ofNat number < UInt8.ofNat other ↔ number < other := by
  rw [UInt8.lt_iff_toNat_lt, UInt8.toNat_ofNat', UInt8.toNat_ofNat', Nat.mod_eq_of_lt small,
    Nat.mod_eq_of_lt small']

/-- Bytes are equal if the numbers are that they are made of. -/
theorem ofNat_eq_iff {number other : Nat} (small : number < 256) (small' : other < 256) :
    UInt8.ofNat number = UInt8.ofNat other ↔ number = other := by
  rw [← UInt8.toNat_inj, UInt8.toNat_ofNat', UInt8.toNat_ofNat', Nat.mod_eq_of_lt small,
    Nat.mod_eq_of_lt small']

/-- Of two numbers in order, the last digits to base 64 are in order if the others are equal. -/
theorem digits_lt {low high : Nat} (less : low < high) :
    low / 64 < high / 64 ∨ low / 64 = high / 64 ∧ low % 64 < high % 64 := by
  omega

/-- The bytes of two characters are in the order of the characters, whatever follows them. -/
theorem utf8EncodeChar_lt {char other : Char} (less : char < other) (rest rest' : List UInt8) :
    String.utf8EncodeChar char ++ rest < String.utf8EncodeChar other ++ rest' := by
  have smaller : char.val.toNat < other.val.toNat := UInt32.lt_iff_toNat_lt.mp less
  have bound : other.val.toNat < 0x110000 := by
    rcases other.valid with low | ⟨_, high⟩
    · exact Nat.lt_trans low (by decide)
    · exact high
  simp only [String.utf8EncodeChar]
  generalize char.val.toNat = low at smaller ⊢
  generalize other.val.toNat = high at smaller bound ⊢
  have first := digits_lt smaller
  have second (less : low / 64 < high / 64) := digits_lt less
  have third (less : low / 64 / 64 < high / 64 / 64) := digits_lt less
  simp only [Nat.div_div_eq_div_mul, Nat.reduceMul] at second third
  -- Each of the two has one to four bytes.
  split_ifs <;>
    simp (disch := omega) only [List.cons_append, List.nil_append, List.cons_lt_cons_iff,
      ofNat_lt_iff, ofNat_eq_iff, Nat.mod_eq_of_lt] <;>
    omega

/-! ## Texts -/

/-- The bytes of characters in order are in order. -/
theorem flatMap_lt {chars others : List Char} (less : chars < others) :
    chars.flatMap String.utf8EncodeChar < others.flatMap String.utf8EncodeChar := by
  induction chars generalizing others with
  | nil =>
    cases others with
    | nil => exact absurd less (List.lt_irrefl [])
    | cons other others =>
      rw [List.flatMap_nil, List.flatMap_cons]
      obtain ⟨byte, bytes, some⟩ := List.exists_cons_of_ne_nil
        (String.utf8EncodeChar_ne_nil (c := other))
      rw [some, List.cons_append]
      exact List.nil_lt_cons _ _
  | cons char chars ih =>
    cases others with
    | nil => cases less
    | cons other others =>
      rw [List.flatMap_cons, List.flatMap_cons]
      rcases List.cons_lt_cons_iff.mp less with first | ⟨rfl, rest⟩
      · exact utf8EncodeChar_lt first _ _
      · exact List.append_left_lt (ih rest)

/-- Texts are in the order of their bytes. -/
theorem lt_iff_bytes_lt {text other : String} : text < other ↔ bytes text < bytes other := by
  have forward {text other : String} (less : text < other) : bytes text < bytes other := by
    rw [bytes_eq, bytes_eq]
    exact flatMap_lt (String.lt_iff.mp less)
  refine ⟨forward, fun less => ?_⟩
  by_contra not
  have after : other ≤ text := String.not_lt.mp not
  by_cases before : text ≤ other
  · obtain rfl := String.le_antisymm before after
    exact List.lt_irrefl _ less
  · exact List.lt_asymm less (forward (String.not_le.mp before))

end GrammarAtlas.Text
