import Dunning.Decimal.Layout

/-!
# A fixed number of places

Rates and times in alert messages are rounded to a fixed number of places. The exact binary value is
rounded, and a half goes to the even neighbour.
-/

namespace Dunning.Decimal

/-- The whole number nearest to `num / den`, a half going to the even one. -/
def roundDivEven (num den : Nat) : Nat :=
  let low := num / den
  let twice := 2 * (num % den)
  if twice < den || twice = den && low % 2 = 0 then low else low + 1

/-- A double with exactly `places` digits after the point. -/
def fixed (places : Nat) (x : Float) : String :=
  match Binary.ofFloat? x with
  | none => Layout.plain.text x
  | some b =>
    let units := roundDivEven (b.significand * b.unitNum * Nat.pow 10 places) b.unitDen
    let whole := digitsOf (units / Nat.pow 10 places)
    let digits := digitsOf (units % Nat.pow 10 places)
    let fraction :=
      if places = 0 then [] else '.' :: (List.replicate (places - digits.length) '0' ++ digits)
    String.ofList ((if b.negative then ['-'] else []) ++ whole ++ fraction)

end Dunning.Decimal
