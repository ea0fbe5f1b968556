import Dunning.Json.Reader
import Dunning.Settings.Layer
import Dunning.Timestamp

/-!
# TOML scalars

Texts in four kinds of quotes, whole numbers in four bases, doubles, truth values, dates and times.
Each reader takes the characters that are left and returns what it read with the characters after
it.
-/

namespace Dunning.Toml

/-- Drops spaces and tabs. -/
def skipBlanks (cs : List Char) : List Char :=
  cs.dropWhile fun c => c = ' ' || c = '\t'

/-- Whether a character may stand in a comment or, apart from the quotes, in a text. -/
def isTextChar (c : Char) : Bool :=
  c = '\t' || (32 ≤ c.toNat && c.toNat ≠ 127)

/-- Takes a line break off the front. -/
def lineBreak? : List Char → Option (List Char)
  | '\n' :: rest => some rest
  | '\r' :: '\n' :: rest => some rest
  | _ => none

/-- Drops blanks and a comment; none if the comment holds what is no `isTextChar`. -/
def skipComment? (cs : List Char) : Option (List Char) :=
  match skipBlanks cs with
  | '#' :: rest =>
    match rest.dropWhile isTextChar with
    | [] => some []
    | rest => (lineBreak? rest).map fun _ => rest
  | rest => some rest

/-- Drops blanks, comments and line breaks, by `skipComment?`. -/
def skipLines? : Nat → List Char → Option (List Char)
  | 0, _ => none
  | fuel + 1, cs => do
    let cs ← skipComment? cs
    match lineBreak? cs with
    | some rest => skipLines? fuel rest
    | none => some cs

/-! ## Texts -/

/-- Reads an escape after its backslash. -/
def escape? : List Char → Option (Char × List Char)
  | 'b' :: rest => some (Char.ofNat 8, rest)
  | 't' :: rest => some ('\t', rest)
  | 'n' :: rest => some ('\n', rest)
  | 'f' :: rest => some (Char.ofNat 12, rest)
  | 'r' :: rest => some ('\r', rest)
  | '"' :: rest => some ('"', rest)
  | '\\' :: rest => some ('\\', rest)
  | letter :: rest =>
    let width := if letter = 'u' then 4 else if letter = 'U' then 8 else 0
    if width = 0 || rest.length < width then none
    else do
      let n ← Json.hexNumber? (rest.take width)
      if (0xD800 ≤ n ∧ n ≤ 0xDFFF) ∨ 0x10FFFF < n then none
      else some (Char.ofNat n, rest.drop width)
  | [] => none

/-- Reads the rest of a text on one line up to its closing `quote`. -/
def lineText? (quote : Char) : Nat → List Char → Option (List Char × List Char)
  | 0, _ => none
  | _ + 1, [] => none
  | fuel + 1, c :: rest =>
    if c = quote then some ([], rest)
    else if c = '\\' && quote = '"' then do
      let (d, rest) ← escape? rest
      (lineText? quote fuel rest).map fun (text, rest) => (d :: text, rest)
    else if isTextChar c then
      (lineText? quote fuel rest).map fun (text, rest) => (c :: text, rest)
    else none

/-- Drops blanks and line breaks. -/
def skipGap : Nat → List Char → List Char
  | 0, cs => cs
  | fuel + 1, cs =>
    let cs := skipBlanks cs
    match lineBreak? cs with
    | some rest => skipGap fuel rest
    | none => cs

/-- Reads the rest of a text of several lines up to three times its closing `quote`; one or two
quotes before them belong to the text. -/
def blockText? (quote : Char) : Nat → List Char → Option (List Char × List Char)
  | 0, _ => none
  | _ + 1, [] => none
  | fuel + 1, c :: rest =>
    let go (d : Char) (rest : List Char) : Option (List Char × List Char) :=
      (blockText? quote fuel rest).map fun (text, rest) => (d :: text, rest)
    if c = quote then
      let run := (c :: rest).takeWhile (· = quote)
      if run.length < 3 then go c rest
      else if 5 < run.length then none
      else some (List.replicate (run.length - 3) quote, (c :: rest).drop run.length)
    else if c = '\\' && quote = '"' then
      match lineBreak? (skipBlanks rest) with
      | some after => blockText? quote fuel (skipGap after.length after)
      | none => do
        let (d, rest) ← escape? rest
        go d rest
    else
      match lineBreak? (c :: rest) with
      | some after => go '\n' after
      | none => if isTextChar c then go c rest else none

/-- Reads a text in any of the quotes. -/
def text? (cs : List Char) : Option (List Char × List Char) :=
  let block (quote : Char) (rest : List Char) : Option (List Char × List Char) :=
    blockText? quote (rest.length + 1) ((lineBreak? rest).getD rest)
  match cs with
  | '"' :: '"' :: '"' :: rest => block '"' rest
  | '\'' :: '\'' :: '\'' :: rest => block '\'' rest
  | '"' :: rest => lineText? '"' (rest.length + 1) rest
  | '\'' :: rest => lineText? '\'' (rest.length + 1) rest
  | _ => none

/-! ## Other scalars -/

/-- The digits of a number without the underscores between them; none unless every underscore has a
digit on both sides. -/
def digits? (isDigit : Char → Bool) : List Char → Option (List Char)
  | [] => none
  | [c] => if isDigit c then some [c] else none
  | c :: '_' :: rest => if isDigit c then (digits? isDigit rest).map (c :: ·) else none
  | c :: rest => if isDigit c then (digits? isDigit rest).map (c :: ·) else none

/-- Whether digits begin with a zero that is not the only one. -/
def isPadded (ds : List Char) : Bool :=
  1 < ds.length && ds.head? = some '0'

/-- The number that digits write in `base`. -/
def based? (base : Nat) (cs : List Char) : Option Nat := do
  let ds ← digits? (fun c => ((Json.hexValue? c).filter (· < base)).isSome) cs
  some (ds.foldl (fun n c => base * n + (Json.hexValue? c).getD 0) 0)

/-- The whole number that a word writes, in any base by `based?`. -/
def whole? (cs : List Char) : Option Int :=
  let n : Option Int :=
    match cs with
    | '0' :: 'x' :: rest => (based? 16 rest).map fun n => (n : Int)
    | '0' :: 'o' :: rest => (based? 8 rest).map fun n => (n : Int)
    | '0' :: 'b' :: rest => (based? 2 rest).map fun n => (n : Int)
    | _ => do
      let (negative, ds) := Decimal.splitSign cs
      let ds ← digits? Char.isDigit ds
      let n : Int := Decimal.natOfDigits ds
      if isPadded ds then none else some (if negative then -n else n)
  n.filter Decimal.fits64

/-- The double that a word writes. One too large for a double is refused, but one below them all
is minus infinity. -/
def double? (cs : List Char) : Option Float :=
  let (negative, rest) := Decimal.splitSign cs
  let signed (x : Float) : Float := if negative then -x else x
  if rest == ['i', 'n', 'f'] then some (signed (1.0 / 0.0))
  else if rest == ['n', 'a', 'n'] then some (signed (0.0 / 0.0))
  else
    let isPart (c : Char) : Bool := c.isDigit || c = '_'
    let whole := rest.takeWhile isPart
    let more := rest.drop whole.length
    let (fraction, more) :=
      match more with
      | '.' :: r =>
        let f := r.takeWhile isPart
        (some f, r.drop f.length)
      | r => (none, r)
    let exponent : Option (Bool × List Char) :=
      match more with
      | c :: r => if c = 'e' || c = 'E' then some (Decimal.splitSign r) else none
      | [] => none
    if fraction.isNone && exponent.isNone || (exponent.isNone && !more.isEmpty) then none
    else do
      let whole ← digits? Char.isDigit whole
      let fraction ← fraction.mapM (digits? Char.isDigit)
      let exponent ← exponent.mapM fun (down, ds) =>
        (digits? Char.isDigit ds).map fun ds => (if down then '-' else '+') :: ds
      if isPadded whole then none
      else
        let x ← Decimal.ofTextList?
          (whole ++ '.' :: fraction.getD ['0'] ++ 'e' :: exponent.getD ['0'])
        if negative || Decimal.isFinite x then some (signed x) else none

/-- Reads a date, a time or both; returns the usual text of it. An offset of nothing has a plus
sign, whichever was written. -/
def moment? (cs : List Char) : Option (List Char) :=
  let number (width : Nat) (cs : List Char) : Option (Nat × List Char) :=
    let ds := cs.take width
    if ds.length = width && ds.all Char.isDigit then
      some (Decimal.natOfDigits ds, cs.drop width) else none
  let expect (c : Char) : List Char → Option (List Char)
    | d :: rest => if c = d then some rest else none
    | [] => none
  let date (cs : List Char) : Option (List Char × List Char) := do
    let (year, rest) ← number 4 cs
    let (month, rest) ← number 2 (← expect '-' rest)
    let (day, rest) ← number 2 (← expect '-' rest)
    if Timestamp.isDate year month day then some (cs.take 10, rest) else none
  let time (cs : List Char) : Option (List Char × List Char) := do
    let (hour, rest) ← number 2 cs
    let (minute, rest) ← number 2 (← expect ':' rest)
    let (second, rest) ← number 2 (← expect ':' rest)
    if 23 < hour || 59 < minute || 60 < second then none
    else
      let (nano, rest) ← Timestamp.readFraction? rest
      let shown := (Timestamp.padded 9 nano).reverse.dropWhile (· = '0')
      some (cs.take 8 ++ (if nano = 0 then [] else '.' :: shown.reverse), rest)
  let offset (cs : List Char) : Option (List Char × List Char) :=
    match cs with
    | 'Z' :: rest | 'z' :: rest => some (['Z'], rest)
    | '+' :: rest | '-' :: rest => do
      let (hour, after) ← number 2 rest
      let (minute, after) ← number 2 (← expect ':' after)
      if 23 < hour || 59 < minute then none
      else some ((if hour = 0 && minute = 0 then ['+'] else cs.take 1) ++ rest.take 5, after)
    | _ => some ([], cs)
  let whole (r : Option (List Char × List Char)) : Option (List Char) :=
    r.bind fun (text, rest) => if rest.isEmpty then some text else none
  match date cs with
  | none => whole (time cs)
  | some (day, []) => some day
  | some (day, separator :: rest) =>
    if separator ≠ 'T' && separator ≠ 't' && separator ≠ ' ' then none
    else do
      let (clock, rest) ← time rest
      let zone ← whole (offset rest)
      some (day ++ 'T' :: clock ++ zone)

/-- The setting that a word gives: `whole?`, `double?`, a truth value or a `moment?`. -/
def word? (cs : List Char) : Option Setting :=
  match String.ofList cs with
  | "true" => some (.flag true)
  | "false" => some (.flag false)
  | _ =>
    ((whole? cs).map .whole).or (((double? cs).map .double).or
      ((moment? cs).map fun text => .text (String.ofList text)))

/-- Whether a character may stand in a word. -/
def isWordChar (c : Char) : Bool :=
  c.isAlphanum || c = '+' || c = '-' || c = '_' || c = '.' || c = ':'

/-- Reads a word of `isWordChar`. A date and a time may be parted by a space. -/
def takeWord (cs : List Char) : List Char × List Char :=
  let word := cs.takeWhile isWordChar
  let rest := cs.drop word.length
  match rest with
  | ' ' :: more =>
    let time := more.takeWhile isWordChar
    if word.length = 10 && (moment? word).isSome && (time.head?.any Char.isDigit) then
      (word ++ ' ' :: time, more.drop time.length)
    else (word, rest)
  | _ => (word, rest)

end Dunning.Toml
