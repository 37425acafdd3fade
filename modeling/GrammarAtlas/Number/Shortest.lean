import GrammarAtlas.Number.Binary64

/-!
# The shortest decimal that reads back

`Binary64.shortest` finds the decimal with the fewest digits among those that round to a number,
and of two such decimals the nearer one. `Binary64.text` writes it: positionally from `1e-5` up to
below `1e16`, always with a digit after the point, and with a signed exponent elsewhere.
-/

namespace GrammarAtlas.Binary64

/-- A decimal: `digits * 10 ^ power`. -/
structure Decimal where
  /-- The digits, as a whole number. -/
  digits : Nat
  /-- The power of ten that scales them. -/
  power : Int
  deriving DecidableEq, Repr

/-- A decimal as a numerator over a denominator. -/
def Decimal.ratio (decimal : Decimal) : Nat × Nat :=
  if 0 ≤ decimal.power then (decimal.digits * Nat.pow 10 decimal.power.toNat, 1)
  else (decimal.digits, Nat.pow 10 (-decimal.power).toNat)

/-- The ratios between which every ratio rounds to the number. Below the least significand of an
exponent the numbers lie twice as dense. -/
def bounds (number : Binary64) : (Nat × Nat) × (Nat × Nat) :=
  let below :=
    if number.significand = leastFull ∧ minExponent < number.exponent then
      scaled (4 * number.significand - 1) 1 (number.exponent - 2)
    else scaled (2 * number.significand - 1) 1 (number.exponent - 1)
  (below, scaled (2 * number.significand + 1) 1 (number.exponent - 1))

/-- Whether a decimal rounds to the number; on a bound that is decided by the even significand. -/
def readsFrom (number : Binary64) (decimal : Decimal) : Bool :=
  let (num, den) := decimal.ratio
  let ((lowNum, lowDen), (highNum, highDen)) := number.bounds
  if number.significand % 2 = 0 then
    lowNum * den ≤ num * lowDen && num * highDen ≤ highNum * den
  else lowNum * den < num * lowDen && num * highDen < highNum * den

/-- The position of the first digit: the greatest power of ten that is not above the number. -/
def leadingPower (number : Binary64) : Int :=
  let (num, den) := number.ratio
  (Nat.toDigits 10 (num * Nat.pow 10 400 / den)).length - 401

/-- The best decimal on the grid of a power of ten: one of the two neighbours of the number, if it
rounds to the number, the nearer one if both do. -/
def onGrid? (number : Binary64) (power : Int) : Option Decimal :=
  let (num, den) := number.ratio
  let (num, den) :=
    if 0 ≤ power then (num, den * Nat.pow 10 power.toNat)
    else (num * Nat.pow 10 (-power).toNat, den)
  let lower : Decimal := ⟨num / den, power⟩
  let upper : Decimal := ⟨num / den + 1, power⟩
  let rest := 2 * (num % den)
  match readsFrom number lower, readsFrom number upper with
  | false, false => none
  | true, false => some lower
  | false, true => some upper
  | true, true =>
    if rest < den then some lower
    else if den < rest then some upper
    else if lower.digits % 2 = 0 then some lower else some upper

/-- The decimal with the fewest digits that rounds to the number; seventeen always suffice. -/
def shortest (number : Binary64) : Decimal :=
  let grids := List.range 17
  (grids.findSome? fun count : Nat => number.onGrid? (number.leadingPower - count)).getD ⟨0, 0⟩

/-- The decimal without the zeros at its end. -/
def Decimal.trimmed : (zeros : Nat) → Decimal → Decimal
  | 0, decimal => decimal
  | zeros + 1, decimal =>
    if decimal.digits ≠ 0 ∧ decimal.digits % 10 = 0 then
      trimmed zeros ⟨decimal.digits / 10, decimal.power + 1⟩
    else decimal

/-- A decimal in writing. -/
def Decimal.text (decimal : Decimal) : String :=
  let digits := Nat.toDigits 10 decimal.digits
  let point : Int := digits.length + decimal.power
  if 0 ≤ decimal.power ∧ point ≤ 16 then
    String.ofList (digits ++ List.replicate decimal.power.toNat '0' ++ ['.', '0'])
  else if 0 < point ∧ point ≤ 16 then
    String.ofList (digits.take point.toNat ++ '.' :: digits.drop point.toNat)
  else if -5 < point ∧ point ≤ 0 then
    String.ofList ('0' :: '.' :: List.replicate (-point).toNat '0' ++ digits)
  else
    let fraction := if digits.length = 1 then [] else '.' :: digits.drop 1
    let exponent := point - 1
    let sign := if exponent < 0 then '-' else '+'
    String.ofList (digits.take 1 ++ fraction ++ 'e' :: sign :: Nat.toDigits 10 exponent.natAbs)

/-- The number in writing. -/
def text (number : Binary64) : String :=
  if number.significand = 0 then "0.0" else (number.shortest.trimmed 17).text

end GrammarAtlas.Binary64
