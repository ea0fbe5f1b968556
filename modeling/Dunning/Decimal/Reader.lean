import Dunning.Decimal.Shortest

/-!
# Reading doubles

The decimal texts that count as numbers: an optional sign, digits with an optional point on either
side of some of them, an optional exponent; or `inf`, `infinity` and `nan` in any case. The value is
the double nearest to the decimal.
-/

namespace Dunning.Decimal

/-- The number that a list `ds` of decimal digits writes. -/
def natOfDigits (ds : List Char) : Nat :=
  ds.foldl (fun n d => 10 * n + (d.toNat - '0'.toNat)) 0

/-- Whether a whole number fits 64 bits, one of which is its sign. -/
def fits64 (n : Int) : Bool :=
  -9223372036854775808 ≤ n && n < 9223372036854775808

/-- The double nearest to `m · 10 ^ e`. -/
def ofScientific (m : Nat) (e : Int) : Float :=
  -- Far outside the range of doubles the power of ten is not worked out.
  let size := (digitsOf m).length + e
  if m = 0 || size < -330 then 0
  else if 310 < size then Float.ofBits 0x7FF0000000000000
  else Float.ofScientific m (decide (e < 0)) e.natAbs

/-- Splits a sign off the front; `true` for a minus, `false` without a sign. -/
def splitSign : List Char → Bool × List Char
  | '+' :: cs => (false, cs)
  | '-' :: cs => (true, cs)
  | cs => (false, cs)

/-- Reads an exponent part like `e-5` to the end of the text; an absent one is zero. -/
def exponentOf? : List Char → Option Int
  | [] => some 0
  | c :: cs =>
    if c = 'e' || c = 'E' then
      let (negative, ds) := splitSign cs
      if ds.isEmpty || !ds.all Char.isDigit then none
      else if negative then some (-(natOfDigits ds)) else some (natOfDigits ds)
    else none

/-- Reads digits, point and exponent to the end of the text. -/
def magnitudeOf? (cs : List Char) : Option Float :=
  let whole := cs.takeWhile Char.isDigit
  let rest := cs.dropWhile Char.isDigit
  let (fraction, rest) :=
    match rest with
    | '.' :: r => (r.takeWhile Char.isDigit, r.dropWhile Char.isDigit)
    | r => ([], r)
  if whole.isEmpty && fraction.isEmpty then none
  else
    (exponentOf? rest).map fun e =>
      ofScientific (natOfDigits (whole ++ fraction)) (e - fraction.length)

/-- Reads a double from the whole of `cs`,. -/
def ofTextList? (cs : List Char) : Option Float :=
  let (negative, rest) := splitSign cs
  let magnitude :=
    match String.ofList (rest.map Char.toLower) with
    | "inf" | "infinity" => some (Float.ofBits 0x7FF0000000000000)
    | "nan" => some (Float.ofBits 0x7FF8000000000000)
    | _ => magnitudeOf? rest
  magnitude.map fun x => if negative then -x else x

/-- Reads a double from the whole of a text, by `ofTextList?`. -/
def ofText? (s : String) : Option Float :=
  ofTextList? s.toList

end Dunning.Decimal
