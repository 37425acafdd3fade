/-!
# Numbers with a 53-bit significand

A number that is not a whole number of 64 bits is held with a significand of at most 53 bits and a
binary exponent. `Binary64.ofRatio?` is the one rounding rule: to the nearest such number, a tie to
the even significand, and nothing beyond the largest exponent. Products and quotients are the exact
ones, rounded once.
-/

namespace GrammarAtlas

/-- The number `significand * 2 ^ exponent`, without its sign. -/
structure Binary64 where
  /-- At most 53 bits. -/
  significand : Nat
  /-- The power of two that scales the significand. -/
  exponent : Int
  deriving DecidableEq, Repr

namespace Binary64

/-- Zero. -/
def zero : Binary64 := ⟨0, 0⟩

/-- The least significand that takes up all 53 bits. -/
def leastFull : Nat := 0x10000000000000

/-- The least exponent. -/
def minExponent : Int := -1074

/-- The greatest exponent. -/
def maxExponent : Int := 971

/-- The ratio `num * 2 ^ exponent / den` as a numerator over a denominator. -/
def scaled (num den : Nat) (exponent : Int) : Nat × Nat :=
  if 0 ≤ exponent then (num * Nat.pow 2 exponent.toNat, den)
  else (num, den * Nat.pow 2 (-exponent).toNat)

/-- The quotient rounded to the nearest whole number, a tie to the even one. -/
def roundDiv (num den : Nat) : Nat :=
  let quotient := num / den
  let rest := 2 * (num % den)
  if rest < den then quotient
  else if den < rest then quotient + 1
  else quotient + quotient % 2

/-- The number nearest to a ratio; none if the ratio is too large for any. -/
def ofRatio? (num den : Nat) : Option Binary64 :=
  if num = 0 then some zero
  else
    let guess : Int := (num.log2 : Int) - den.log2 - 53
    let (high, low) := scaled num den (-guess)
    let exponent := max minExponent (if 2 * leastFull * low ≤ high then guess + 1 else guess)
    let (high, low) := scaled num den (-exponent)
    let rounded := roundDiv high low
    let (significand, exponent) :=
      if rounded = 2 * leastFull then (leastFull, exponent + 1) else (rounded, exponent)
    if maxExponent < exponent then none else some ⟨significand, exponent⟩

/-- The number as a numerator over a denominator. -/
def ratio (number : Binary64) : Nat × Nat := scaled number.significand 1 number.exponent

/-- The rounded product. -/
def mul? (left right : Binary64) : Option Binary64 :=
  ofRatio? (left.ratio.1 * right.ratio.1) (left.ratio.2 * right.ratio.2)

/-- The rounded quotient by a number other than zero. -/
def div? (left right : Binary64) : Option Binary64 :=
  ofRatio? (left.ratio.1 * right.ratio.2) (left.ratio.2 * right.ratio.1)

/-- The greatest power of ten that is a number of this kind. -/
def maxTenPower : Nat := 308

/-- The power of ten nearest to the exact one. -/
def tenPower (power : Nat) : Binary64 := (ofRatio? (Nat.pow 10 power) 1).getD zero

/-- The number scaled by a power of ten. A power below the least table entry is reached in several
divisions; three of them take every 64-bit number to zero. -/
def scaleByTen? : (divisions : Nat) → Binary64 → Int → Option Binary64
  | divisions, number, power =>
    if power.natAbs ≤ maxTenPower then
      if 0 ≤ power then number.mul? (tenPower power.natAbs)
      else number.div? (tenPower power.natAbs)
    else if number.significand = 0 then some zero
    else if 0 ≤ power then none
    else
      match divisions with
      | 0 => some zero
      | divisions + 1 =>
        match number.div? (tenPower maxTenPower) with
        | none => none
        | some smaller => scaleByTen? divisions smaller (power + maxTenPower)

/-- The number written as whole digits and a power of ten; none if it is too large. -/
def ofDecimal? (digits : Nat) (power : Int) : Option Binary64 :=
  match ofRatio? digits 1 with
  | none => none
  | some number => scaleByTen? 3 number power

end Binary64

end GrammarAtlas
