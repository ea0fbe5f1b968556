import Dunning.Json.Basic
import Dunning.Decimal.Reader

/-!
# Reading JSON

A reader for JSON text. Each step takes the characters that are left and returns what it read with
the characters after it. Whole numbers that fit 64 bits stay whole; `-0`, larger ones and every
number with a point or an exponent are doubles.
-/

namespace Dunning.Json

/-- Drops blanks; JSON knows four of them. -/
def skipBlanks (cs : List Char) : List Char :=
  cs.dropWhile fun c => c = ' ' || c = '\n' || c = '\r' || c = '\t'

/-- The value of a hexadecimal digit. -/
def hexValue? (c : Char) : Option Nat :=
  if '0' ≤ c ∧ c ≤ '9' then some (c.toNat - '0'.toNat)
  else if 'a' ≤ c ∧ c ≤ 'f' then some (c.toNat - 'a'.toNat + 10)
  else if 'A' ≤ c ∧ c ≤ 'F' then some (c.toNat - 'A'.toNat + 10)
  else none

/-- The number written by hexadecimal digits, each by `hexValue?`. -/
def hexNumber? (cs : List Char) : Option Nat :=
  cs.foldlM (fun n c => (hexValue? c).map (16 * n + ·)) 0

/-- Reads the four digits of an escaped code unit, by `hexNumber?`. -/
def readUnit? : List Char → Option (Nat × List Char)
  | a :: b :: c :: d :: rest => (hexNumber? [a, b, c, d]).map (·, rest)
  | _ => none

/-- Reads an escape after its backslash. -/
def readEscape? : List Char → Option (Char × List Char)
  | '"' :: rest => some ('"', rest)
  | '\\' :: rest => some ('\\', rest)
  | '/' :: rest => some ('/', rest)
  | 'b' :: rest => some (Char.ofNat 8, rest)
  | 'f' :: rest => some (Char.ofNat 12, rest)
  | 'n' :: rest => some ('\n', rest)
  | 'r' :: rest => some ('\r', rest)
  | 't' :: rest => some ('\t', rest)
  | 'u' :: rest => do
    let (unit, rest) ← readUnit? rest
    if 0xD800 ≤ unit ∧ unit < 0xDC00 then
      -- A high surrogate needs its low half right after it.
      match rest with
      | '\\' :: 'u' :: rest =>
        let (low, rest) ← readUnit? rest
        if 0xDC00 ≤ low ∧ low < 0xE000 then
          some (Char.ofNat (0x10000 + (unit - 0xD800) * 0x400 + (low - 0xDC00)), rest)
        else none
      | _ => none
    else if 0xDC00 ≤ unit ∧ unit < 0xE000 then none
    else some (Char.ofNat unit, rest)
  | _ => none

/-- Reads a string after its opening mark; `fuel` bounds the characters taken. -/
def readString? : Nat → List Char → Option (List Char × List Char)
  | 0, _ => none
  | fuel + 1, cs =>
    match cs with
    | [] => none
    | '"' :: rest => some ([], rest)
    | '\\' :: rest => do
      let (c, rest) ← readEscape? rest
      let (text, rest) ← readString? fuel rest
      some (c :: text, rest)
    | c :: rest =>
      if c.toNat < 32 then none
      else do
        let (text, rest) ← readString? fuel rest
        some (c :: text, rest)

/-- The characters that a number may hold. -/
def isNumberChar (c : Char) : Bool :=
  c.isDigit || c = '-' || c = '+' || c = '.' || c = 'e' || c = 'E'

/-- The value of a number's text. -/
def numberOf? (cs : List Char) : Option Number :=
  let (negative, magnitude) :=
    match cs with
    | '-' :: rest => (true, rest)
    | rest => (false, rest)
  let whole := magnitude.takeWhile Char.isDigit
  let rest := magnitude.dropWhile Char.isDigit
  let wellFormed :=
    match whole with
    | [] => false
    | ['0'] => true
    | d :: _ => d != '0'
  let fractionOk :=
    match rest with
    | '.' :: r => (r.head?.map Char.isDigit).getD false
    | _ => true
  if !wellFormed || !fractionOk then none
  else
    let n := Decimal.natOfDigits whole
    if rest.isEmpty && !negative && n < UInt64.size then some (.whole n)
    else if rest.isEmpty && negative && n ≠ 0 && Decimal.fits64 (-n) then some (.whole (-n))
    else do
      let x ← Decimal.ofTextList? cs
      if Decimal.isFinite x then some (.double x) else none

/-- Reads each `item` up to the bracket `close`, with a comma between two; `fuel` bounds their
number. -/
def readItems? {α : Type} (item : List Char → Option (α × List Char)) (close : Char) :
    Nat → List Char → Option (List α × List Char)
  | 0, _ => none
  | fuel + 1, cs => do
    let (x, cs) ← item cs
    match skipBlanks cs with
    | [] => none
    | c :: rest =>
      if c = close then some ([x], rest)
      else if c = ',' then do
        let (xs, rest) ← readItems? item close fuel rest
        some (x :: xs, rest)
      else none

/-- Reads a member, its value by `value`; `fuel` bounds the characters of its name. -/
def readMember? (fuel : Nat) (value : List Char → Option (Json × List Char)) (cs : List Char) :
    Option ((String × Json) × List Char) :=
  match skipBlanks cs with
  | '"' :: rest => do
    let (name, rest) ← readString? fuel rest
    match skipBlanks rest with
    | ':' :: rest =>
      let (v, rest) ← value rest
      some ((String.ofList name, v), rest)
    | _ => none
  | _ => none

/-- Reads a value nested at most `depth` levels deep; `fuel` exceeds the number of characters. -/
def readValue? (fuel : Nat) : (depth : Nat) → List Char → Option (Json × List Char)
  | depth, cs =>
    match skipBlanks cs with
    | 'n' :: 'u' :: 'l' :: 'l' :: rest => some (null, rest)
    | 't' :: 'r' :: 'u' :: 'e' :: rest => some (bool true, rest)
    | 'f' :: 'a' :: 'l' :: 's' :: 'e' :: rest => some (bool false, rest)
    | '"' :: rest => do
      let (text, rest) ← readString? fuel rest
      some (str (String.ofList text), rest)
    | '[' :: rest =>
      match depth, skipBlanks rest with
      | 0, _ => none
      | _ + 1, ']' :: rest => some (arr [], rest)
      | depth + 1, _ => do
        let (items, rest) ← readItems? (readValue? fuel depth) ']' fuel rest
        some (arr items, rest)
    | '\x7b' :: rest =>
      match depth, skipBlanks rest with
      | 0, _ => none
      | _ + 1, '\x7d' :: rest => some (obj [], rest)
      | depth + 1, _ => do
        let (members, rest) ←
          readItems? (readMember? fuel (readValue? fuel depth)) '\x7d' fuel rest
        some (ofMembers members, rest)
    | cs => do
      let n ← numberOf? (cs.takeWhile isNumberChar)
      some (num n, cs.dropWhile isNumberChar)

/-- The deepest nesting that `ofText?` reads. -/
def maxDepth : Nat := 127

/-- The value that the whole of a text writes, nested at most `depth` levels deep. -/
def ofTextWithin? (depth : Nat) (s : String) : Option Json := do
  let cs := s.toList
  let (value, rest) ← readValue? (cs.length + 1) depth cs
  if (skipBlanks rest).isEmpty then some value else none

/-- The value that the whole of a text writes, nested at most `maxDepth` levels deep. -/
def ofText? : String → Option Json :=
  ofTextWithin? maxDepth

end Dunning.Json
