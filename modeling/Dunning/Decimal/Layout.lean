import Dunning.Decimal.Shortest

/-!
# Doubles as text

Two layouts of the shortest digits. Values inside JSON and in rendered templates turn to scientific
notation for very large and very small magnitudes and always show that they are no integers;
messages write every digit out.
-/

namespace Dunning.Decimal

/-- Where the decimal point goes and how a whole number ends. -/
structure Layout where
  /-- Whether a number `0.d₁d₂… · 10 ^ point` is written without an exponent. -/
  positional : Int → Bool
  /-- Written after the digits of a whole number. -/
  wholeSuffix : List Char
  tie : Tie

/-- Doubles in JSON text: positional from `1e-5` up to, but not including, `1e16`. -/
def Layout.json : Layout where
  positional point := -5 < point && point ≤ 16
  wholeSuffix := ['.', '0']
  tie := .even

/-- Doubles in messages: always positional, whole numbers without a point. -/
def Layout.plain : Layout where
  positional _ := true
  wholeSuffix := []
  tie := .up

/-- The digits `ds` with the decimal point after the first `point` of them. -/
def positionalText (ds : List Char) (point : Int) (wholeSuffix : List Char) : List Char :=
  if point ≤ 0 then '0' :: '.' :: (List.replicate (-point).toNat '0' ++ ds)
  else if point < ds.length then ds.take point.toNat ++ '.' :: ds.drop point.toNat
  else ds ++ List.replicate (point.toNat - ds.length) '0' ++ wholeSuffix

/-- The digits `ds` with one of them before the point, and `exponent` with its sign. -/
def scientificText (ds : List Char) (exponent : Int) : List Char :=
  let fraction := if ds.length ≤ 1 then [] else '.' :: ds.drop 1
  let sign := if exponent < 0 then '-' else '+'
  ds.take 1 ++ fraction ++ 'e' :: sign :: digitsOf exponent.natAbs

/-- The text of a finite magnitude, from `Binary.shortest` of it. -/
def Layout.magnitude (layout : Layout) (b : Binary) : List Char :=
  if b.significand = 0 then '0' :: layout.wholeSuffix
  else
    let s := b.shortest layout.tie
    let ds := digitsOf s.coefficient
    let point := ds.length + s.exponent
    if layout.positional point then positionalText ds point layout.wholeSuffix
    else scientificText ds (point - 1)

/-- The characters of the double `x`, the sign of a zero included. -/
def Layout.textList (layout : Layout) (x : Float) : List Char :=
  match Binary.ofFloat? x with
  | some b => (if b.negative then ['-'] else []) ++ layout.magnitude b
  | none =>
    if x.toBits.toNat = 0x7FF0000000000000 then ['i', 'n', 'f']
    else if x.toBits.toNat = 0xFFF0000000000000 then ['-', 'i', 'n', 'f']
    else ['N', 'a', 'N']

/-- The text of a double, as `textList` has it. -/
def Layout.text (layout : Layout) (x : Float) : String :=
  String.ofList (layout.textList x)

/-- A whole number in decimal. -/
def intText (n : Int) : List Char :=
  if n < 0 then '-' :: digitsOf n.natAbs else digitsOf n.natAbs

end Dunning.Decimal
