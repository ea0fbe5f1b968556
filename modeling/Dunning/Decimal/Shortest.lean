import Dunning.Decimal.Binary

/-!
# The fewest digits that read back

A double stands for every real number that rounds to it. Of the decimals in that interval, the one
with the fewest digits is chosen, and of those the one nearest to the double itself. For each
number of digits only the two neighbours of the double on that decimal grid have to be tried: if
any point of the grid lies in the interval, one of them does.
-/

namespace Dunning.Decimal

/-- The number `coefficient · 10 ^ exponent`. -/
structure Scientific where
  coefficient : Nat
  exponent : Int
deriving DecidableEq, Repr

/-- Moves zeros at the end of the coefficient into the exponent, `fuel` of them at most. -/
def Scientific.stripZeros : Nat → Scientific → Scientific
  | 0, s => s
  | fuel + 1, s =>
    if s.coefficient ≠ 0 ∧ s.coefficient % 10 = 0 then
      stripZeros fuel ⟨s.coefficient / 10, s.exponent + 1⟩
    else s

/-- The decimal digits of a natural number. -/
def digitsOf (n : Nat) : List Char :=
  Nat.toDigits 10 n

/-- The magnitude in units of the decimal place `places`, rounded down. -/
def Binary.flooredAt (b : Binary) (places : Nat) : Nat :=
  b.significand * b.unitNum * Nat.pow 10 places / b.unitDen

/-- The power of ten just above the magnitude: `10 ^ (p - 1) ≤ magnitude < 10 ^ p`. Any place will
do for finding it at which the magnitude does not round down to zero, as it never does at the
last. -/
def Binary.decimalPoint (b : Binary) : Int :=
  let places := ([0, 30].find? (0 < b.flooredAt ·)).getD 330
  (digitsOf (b.flooredAt places)).length - places

/-- Which of two equally near decimals `onGrid?` takes. -/
inductive Tie where
  | even
  | up
deriving DecidableEq, Repr

/-- The multiple of `10 ^ exponent` nearest to the double among those that round to it. -/
def Binary.onGrid? (b : Binary) (tie : Tie) (exponent : Int) : Option Nat :=
  -- All quantities are counted in quarters of `10 ^ exponent / den`.
  let num := b.unitNum * Nat.pow 10 (-exponent).toNat
  let den := b.unitDen * Nat.pow 10 exponent.toNat
  let value := 4 * b.significand * num
  let above := 2 * num
  let below := if b.lowerGapHalved then num else 2 * num
  let inside (c : Nat) : Bool :=
    let mark := 4 * c * den
    if b.significand % 2 = 0 then value ≤ mark + below && mark ≤ value + above
    else value < mark + below && mark < value + above
  let low := value / (4 * den)
  let toLow := value - 4 * low * den
  let toHigh := 4 * (low + 1) * den - value
  let preferHigh := toHigh < toLow || toHigh = toLow && (tie = .up || low % 2 = 1)
  if inside low && !(inside (low + 1) && preferHigh) then some low
  else if inside (low + 1) then some (low + 1)
  else none

/-- The shortest decimal of a positive magnitude, its `onGrid?` at the coarsest place that has one.
-/
def Binary.shortest (b : Binary) (tie : Tie) : Scientific :=
  let point := b.decimalPoint
  let tryDigits (n : Nat) : Option Scientific :=
    (b.onGrid? tie (point - n)).map fun c => ⟨c, point - n⟩
  -- Seventeen digits always suffice, so the default is never taken.
  let found := ((List.range' 1 17).findSome? tryDigits).getD ⟨b.significand, 0⟩
  found.stripZeros 20

end Dunning.Decimal
