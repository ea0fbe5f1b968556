import Dunning.Decimal.Reader
import Dunning.Text.Blank

/-!
# Points in time

A point in time is a day, a second of that day and a fraction of that second, all in UTC. A leap
second is the fraction of the second before it that goes past one. Texts follow RFC 3339; reading is
a little more generous than writing and takes any offset.
-/

namespace Dunning

/-- A point in time in UTC. -/
structure Timestamp where
  /-- Days since 1970-01-01. -/
  day : Int
  /-- Seconds since midnight, below 86400. -/
  second : Nat
  /-- Nanoseconds since that second; from one thousand million on, the leap second after it. -/
  nano : Nat
deriving DecidableEq, Repr

namespace Timestamp

/-- The day number of a date of the Gregorian calendar, counted from 1970-01-01 as `day` is. -/
def dayOfDate (year : Int) (month day : Nat) : Int :=
  -- The year is taken to begin in March, so that a leap day comes last.
  let y := if month ≤ 2 then year - 1 else year
  let era := y.fdiv 400
  let yearOfEra := y - era * 400
  let shifted : Nat := if month ≤ 2 then month + 9 else month - 3
  let dayOfYear : Int := (153 * shifted + 2) / 5 + day - 1
  let dayOfEra := yearOfEra * 365 + yearOfEra.fdiv 4 - yearOfEra.fdiv 100 + dayOfYear
  era * 146097 + dayOfEra - 719468

/-- The year, month and day of the day number `n`, undoing `dayOfDate`. -/
def dateOfDay (n : Int) : Int × Nat × Nat :=
  let z := n + 719468
  let era := z.fdiv 146097
  let doe := (z - era * 146097).toNat
  let yoe := (doe - doe / 1460 + doe / 36524 - doe / 146096) / 365
  let doy := doe - (365 * yoe + yoe / 4 - yoe / 100)
  let shifted := (5 * doy + 2) / 153
  let day := doy - (153 * shifted + 2) / 5 + 1
  let month := if shifted < 10 then shifted + 3 else shifted - 9
  let year := (yoe : Int) + era * 400 + (if month ≤ 2 then 1 else 0)
  (year, month, day)

/-- Whether a date is on the calendar: `dateOfDay` gives it back. -/
def isDate (year : Int) (month day : Nat) : Bool :=
  1 ≤ month && month ≤ 12 && 1 ≤ day && day ≤ 31
    && dateOfDay (dayOfDate year month day) == (year, month, day)

/-- The first day there is, 1 January of the year -262143. -/
def firstDay : Int := dayOfDate (-262143) 1 1

/-- The last day there is, 31 December 262142. -/
def lastDay : Int := dayOfDate 262142 12 31

/-- The longest span of time in whole seconds: as many milliseconds as fit 63 bits. -/
def longestSpan : Nat := 9223372036854775

/-- The same instant `hours` later; `none` past `longestSpan` or past `lastDay`. -/
def addHours? (t : Timestamp) (hours : Nat) : Option Timestamp :=
  let seconds := hours * 3600
  if longestSpan < seconds then none
  else
    let total := t.second + seconds
    let day := t.day + (total / 86400 : Nat)
    if lastDay < day then none else some ⟨day, total % 86400, t.nano⟩

/-- The digits of `n` with zeros before them up to `width`. -/
def padded (width : Nat) (n : Nat) : List Char :=
  let ds := Decimal.digitsOf n
  List.replicate (width - ds.length) '0' ++ ds

/-- A year: four digits, or a sign and at least as many. -/
def yearText (year : Int) : List Char :=
  if 0 ≤ year ∧ year ≤ 9999 then padded 4 year.toNat
  else (if year < 0 then '-' else '+') :: padded 4 year.natAbs

/-- The fraction `nano` of a second in no, three, six or nine digits. -/
def fractionText (nano : Nat) : List Char :=
  if nano = 0 then []
  else if nano % 1000000 = 0 then '.' :: padded 3 (nano / 1000000)
  else if nano % 1000 = 0 then '.' :: padded 6 (nano / 1000)
  else '.' :: padded 9 nano

/-- Date and time without an offset: day, hour, minute and second in `padded` digits. -/
def localText (t : Timestamp) : List Char :=
  let (year, month, day) := dateOfDay t.day
  let leap := 1000000000 ≤ t.nano
  let second := t.second % 60 + if leap then 1 else 0
  let nano := if leap then t.nano - 1000000000 else t.nano
  yearText year ++ '-' :: padded 2 month ++ '-' :: padded 2 day
    ++ 'T' :: padded 2 (t.second / 3600) ++ ':' :: padded 2 (t.second / 60 % 60)
    ++ ':' :: padded 2 second ++ fractionText nano

/-- The `localText` and the letter of UTC. -/
def text (t : Timestamp) : String :=
  String.ofList (t.localText ++ ['Z'])

/-- The `localText` and a numeric offset. -/
def offsetText (t : Timestamp) : String :=
  String.ofList (t.localText ++ ['+', '0', '0', ':', '0', '0'])

/-! ## Reading -/

/-- Drops blanks. -/
def skipBlanks (cs : List Char) : List Char :=
  cs.dropWhile Text.isBlank

/-- A number of at least one and at most `width` digits. -/
def readDigits? (width : Nat) (cs : List Char) : Option (Nat × List Char) :=
  let ds := (cs.take width).takeWhile Char.isDigit
  if ds.isEmpty then none else some (Decimal.natOfDigits ds, cs.drop ds.length)

/-- A number of at least one and at most `width` digits after `skipBlanks`. -/
def readNumber? (width : Nat) (cs : List Char) : Option (Nat × List Char) :=
  readDigits? width (skipBlanks cs)

/-- A year: up to four digits, or any number of them after a sign. -/
def readYear? (cs : List Char) : Option (Int × List Char) :=
  match skipBlanks cs with
  | '-' :: rest => (readDigits? rest.length rest).map fun (n, r) => (-(n : Int), r)
  | '+' :: rest => (readDigits? rest.length rest).map fun (n, r) => ((n : Int), r)
  | rest => (readDigits? 4 rest).map fun (n, r) => ((n : Int), r)

/-- The character `c` after blanks. -/
def expect? (c : Char) (cs : List Char) : Option (List Char) :=
  match skipBlanks cs with
  | d :: rest => if d = c then some rest else none
  | [] => none

/-- A fraction of a second, in nanoseconds; digits past the ninth are dropped. -/
def readFraction? : List Char → Option (Nat × List Char)
  | '.' :: cs =>
    let ds := cs.takeWhile Char.isDigit
    if ds.isEmpty then none
    else
      let kept := ds.take 9
      some (Decimal.natOfDigits kept * Nat.pow 10 (9 - kept.length), cs.drop ds.length)
  | cs => some (0, cs)

/-- Exactly two digits. -/
def readTwo? : List Char → Option (Nat × List Char)
  | a :: b :: rest =>
    if a.isDigit && b.isDigit then some (Decimal.natOfDigits [a, b], rest) else none
  | _ => none

/-- Hours and minutes of an offset in seconds, each by `readTwo?`. -/
def readOffsetSize? (cs : List Char) : Option (Nat × List Char) := do
  let (hours, rest) ← readTwo? cs
  let (minutes, rest) ← readTwo? (rest.dropWhile fun c => c = ':' || Text.isBlank c)
  if minutes < 60 then some (hours * 3600 + minutes * 60, rest) else none

/-- An offset from UTC in seconds, `Z` or a sign and `readOffsetSize?`. -/
def readOffset? : List Char → Option (Int × List Char)
  | 'Z' :: rest | 'z' :: rest => some (0, rest)
  | '+' :: rest => (readOffsetSize? rest).map fun (n, r) => ((n : Int), r)
  | '-' :: rest | '\u2212' :: rest => (readOffsetSize? rest).map fun (n, r) => (-(n : Int), r)
  | u :: t :: c :: rest =>
    if [u, t, c].map Char.toLower = ['u', 't', 'c'] then some (0, rest) else none
  | _ => none

/-- Reads a point in time from the whole of a text. -/
def ofText? (s : String) : Option Timestamp := do
  let (year, rest) ← readYear? s.toList
  let (month, rest) ← readNumber? 2 (← expect? '-' rest)
  let (day, rest) ← readNumber? 2 (← expect? '-' rest)
  let rest ←
    match rest with
    | 'T' :: rest | 't' :: rest | ' ' :: rest => some rest
    | _ => none
  let (hour, rest) ← readNumber? 2 rest
  let (minute, rest) ← readNumber? 2 (← expect? ':' rest)
  let (second, rest) ← readNumber? 2 (← expect? ':' rest)
  let (nano, rest) ← readFraction? rest
  let (offset, rest) ← readOffset? (skipBlanks rest)
  let leap := second = 60
  let ofDay : Int := hour * 3600 + minute * 60 + (if leap then 59 else second) - offset
  let date := dayOfDate year month day
  let shifted := date + ofDay.fdiv 86400
  let inRange := isDate year month day && hour < 24 && minute < 60 && second ≤ 60
    && offset.natAbs < 86400 && firstDay ≤ date && date ≤ lastDay
    && firstDay ≤ shifted && shifted ≤ lastDay
  if !inRange || !(skipBlanks rest).isEmpty then none
  else
    some {
      day := shifted
      second := (ofDay.fmod 86400).toNat
      nano := nano + if leap then 1000000000 else 0 }

end Timestamp

end Dunning
