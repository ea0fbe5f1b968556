/-!
# Doubles as exact numbers

A finite double is a whole number times a power of two. Everything that prints or rounds a double
starts from these parts, so that it works on exact natural numbers and never on a rounded result.
-/

namespace Dunning.Decimal

/-- The number `± significand · 2 ^ exponent`. -/
structure Binary where
  negative : Bool
  significand : Nat
  exponent : Int
  /-- The neighbour towards zero is only half as far away as the other one. -/
  lowerGapHalved : Bool
deriving DecidableEq, Repr

/-- The parts of a double; `none` for infinities and for what is not a number. -/
def Binary.ofFloat? (x : Float) : Option Binary :=
  let bits : Nat := x.toBits.toNat
  let negative := bits >>> 63 != 0
  let biased : Nat := (bits >>> 52) % (1 <<< 11)
  let fraction : Nat := bits % (1 <<< 52)
  if biased = 2047 then none
  else if biased = 0 then some ⟨negative, fraction, -1074, false⟩
  else some ⟨negative, fraction + (1 <<< 52), biased - 1075, fraction = 0 && biased != 1⟩

/-- Whether a double is a number and no infinity. -/
def isFinite (x : Float) : Bool :=
  (Binary.ofFloat? x).isSome

/-- The numerator of `2 ^ exponent` in lowest terms. -/
def Binary.unitNum (b : Binary) : Nat := Nat.pow 2 b.exponent.toNat

/-- The denominator of `2 ^ exponent` in lowest terms. -/
def Binary.unitDen (b : Binary) : Nat := Nat.pow 2 (-b.exponent).toNat

/-- The magnitude rounded to a whole number, halves away from zero. -/
def Binary.roundedMagnitude (b : Binary) : Nat :=
  (2 * b.significand * b.unitNum + b.unitDen) / (2 * b.unitDen)

/-- The nearest whole number, by `Binary.roundedMagnitude`; the sign of a zero is kept. -/
def roundHalfAway (x : Float) : Float :=
  match Binary.ofFloat? x with
  | none => x
  | some b =>
    if 0 ≤ b.exponent then x
    else if b.negative then -Float.ofNat b.roundedMagnitude
    else Float.ofNat b.roundedMagnitude

end Dunning.Decimal
