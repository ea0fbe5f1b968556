import Dunning.Json.Reader
import Dunning.Yaml.Cursor

/-!
# YAML scalars

The text of a scalar in each of its styles. Words that stand on different lines are folded: a single
line break becomes a space, and of several ones the first is dropped.
-/

namespace Dunning.Yaml

/-- How a scalar is written. -/
inductive Style where
  | plain
  | singleQuoted
  | doubleQuoted
  | literal
  | folded
deriving DecidableEq, Repr

/-- What stands between two words: blanks on a line, or line breaks. -/
structure Gap where
  blanks : List Char := []
  breaks : List Char := []
  /-- Whether there is a line break, an escaped one included. -/
  broken : Bool := false

/-- The text that a `Gap` stands for. -/
def Gap.fold (g : Gap) : List Char :=
  if !g.broken then g.blanks
  else
    match g.breaks with
    | ['\n'] => [' ']
    | '\n' :: more => more
    | breaks => breaks

/-- Reads a gap. In a broken gap no blank before the column `indent` may be a tab; `fuel` bounds its
length. -/
def gap? (indent : Nat) : Nat → Gap → Cursor → Option (Gap × Cursor)
  | 0, _, _ => none
  | fuel + 1, g, c =>
    match c.rest with
    | [] => some (g, c)
    | b :: _ =>
      if isSpace b then
        if g.broken then
          if b = '\t' && decide (c.column < indent) then none else gap? indent fuel g (c.skip 1)
        else gap? indent fuel { g with blanks := g.blanks ++ [b] } (c.skip 1)
      else
        match c.break? with
        | some lineBreak =>
          gap? indent fuel { blanks := [], breaks := g.breaks ++ [lineBreak], broken := true }
            c.skipBreak
        | none => some (g, c)

/-! ## Plain scalars -/

/-- The brackets and the comma that end a plain scalar inside brackets. -/
def isFlowIndicator (c : Char) : Bool :=
  c = ',' || c = '[' || c = ']' || c = '\x7b' || c = '\x7d'

/-- The length of the word at the front of a text; none if a colon inside brackets is followed by an
indicator. -/
def wordLength? (inFlow : Bool) : List Char → Option Nat
  | [] => some 0
  | c :: rest =>
    if isSpace c || isBreak c then some 0
    else if inFlow && c = ':' && rest.head?.any (fun d => isFlowIndicator d || d = '?') then none
    else if c = ':' && atGap rest then some 0
    else if inFlow && isFlowIndicator c then some 0
    else (wordLength? inFlow rest).map (· + 1)

/-- Reads the rest of a plain scalar after some text and a gap. Texts are given backwards. The last
component says whether the scalar ends in a gap with a line break. -/
def plainFrom? (inFlow : Bool) (indent : Nat) :
    Nat → List Char → Gap → Cursor → Option (List Char × Cursor × Bool)
  | 0, _, _, _ => none
  | fuel + 1, read, g, c => do
    let stop := some (read, c, g.broken)
    if c.atDocumentMarker || c.next? = some '#' then stop
    else
      let n ← wordLength? inFlow c.rest
      if n = 0 then stop
      else
        let read := (g.fold ++ c.rest.take n).reverse ++ read
        let c := c.skip n
        if c.rest.isEmpty || !atGap c.rest then some (read, c, false)
        else
          let (g, c) ← gap? indent c.bound {} c
          if !inFlow && decide (c.column < indent) then some (read, c, g.broken)
          else plainFrom? inFlow indent fuel read g c

/-- Reads a plain scalar whose further lines begin at the column `indent` or after it. -/
def plain? (inFlow : Bool) (indent : Nat) (c : Cursor) : Option (List Char × Cursor × Bool) :=
  (plainFrom? inFlow indent c.bound [] {} c).map fun (read, rest) => (read.reverse, rest)

/-! ## Quoted scalars -/

/-- The character that an escape of one letter stands for. -/
def simpleEscape? : Char → Option Char
  | '0' => some (Char.ofNat 0)
  | 'a' => some (Char.ofNat 7)
  | 'b' => some (Char.ofNat 8)
  | 't' => some '\t'
  | '\t' => some '\t'
  | 'n' => some '\n'
  | 'v' => some (Char.ofNat 11)
  | 'f' => some (Char.ofNat 12)
  | 'r' => some '\r'
  | 'e' => some (Char.ofNat 27)
  | ' ' => some ' '
  | '"' => some '"'
  | '/' => some '/'
  | '\\' => some '\\'
  | 'N' => some '\u0085'
  | '_' => some '\u00a0'
  | 'L' => some '\u2028'
  | 'P' => some '\u2029'
  | _ => none

/-- The number of hexadecimal digits after the letter of an escape. -/
def escapeWidth? : Char → Option Nat
  | 'x' => some 2
  | 'u' => some 4
  | 'U' => some 8
  | _ => none

/-- Reads an escape after its backslash, by `simpleEscape?` or `escapeWidth?`: its character and its
length. -/
def escape? : List Char → Option (Char × Nat)
  | [] => none
  | letter :: rest =>
    match simpleEscape? letter, escapeWidth? letter with
    | some c, _ => some (c, 1)
    | none, some width => do
      if rest.length < width then none
      else
        let n ← Json.hexNumber? (rest.take width)
        if (0xD800 ≤ n ∧ n ≤ 0xDFFF) ∨ 0x10FFFF < n then none
        else some (Char.ofNat n, width + 1)
    | none, none => none

/-- Reads the rest of a quoted scalar after some text. Texts are given backwards. -/
def quotedFrom? (double : Bool) : Nat → List Char → Cursor → Option (List Char × Cursor)
  | 0, _, _ => none
  | fuel + 1, read, c =>
    let quote := if double then '"' else '\''
    if c.atDocumentMarker then none
    else
      match c.rest with
      | [] => none
      | d :: rest =>
        if isSpace d || isBreak d then do
          let (g, c) ← gap? 0 c.bound {} c
          quotedFrom? double fuel (g.fold.reverse ++ read) c
        else if d = quote then
          if !double && rest.head? = some quote then
            quotedFrom? double fuel (quote :: read) (c.skip 2)
          else some (read, c.skip 1)
        else if double && d = '\\' then
          if rest.head?.any isBreak then do
            let (g, c) ← gap? 0 c.bound { broken := true } (c.skip 1).skipBreak
            quotedFrom? double fuel (g.breaks.reverse ++ read) c
          else do
            let (e, n) ← escape? rest
            quotedFrom? double fuel (e :: read) (c.skip (n + 1))
        else quotedFrom? double fuel (d :: read) (c.skip 1)

/-- Reads a quoted scalar from its opening mark, a `double` one or a single one. -/
def quoted? (double : Bool) (c : Cursor) : Option (List Char × Cursor) :=
  (quotedFrom? double c.bound [] (c.skip 1)).map fun (read, rest) => (read.reverse, rest)

/-! ## Block scalars -/

/-- What becomes of the line breaks at the end of a block scalar. -/
inductive Chomping where
  | strip
  | clip
  | keep
deriving DecidableEq, Repr

/-- Reads an indicator of `Chomping`. -/
def chomping? : List Char → Option (Chomping × List Char)
  | '+' :: rest => some (.keep, rest)
  | '-' :: rest => some (.strip, rest)
  | _ => none

/-- Reads an indicator of indentation, a digit other than zero; none of it leaves the indentation to
be found, and zero is refused. -/
def increment? : List Char → Option (Nat × List Char)
  | c :: rest =>
    if c = '0' then none
    else if c.isDigit then some (c.toNat - '0'.toNat, rest)
    else some (0, c :: rest)
  | [] => some (0, [])

/-- Reads the indicators of a block scalar in either order: chomping, then the increment of the
indentation, zero when it is to be found. -/
def header? (cs : List Char) : Option (Chomping × Nat × List Char) :=
  match chomping? cs with
  | some (chomping, rest) => (increment? rest).map fun (n, rest) => (chomping, n, rest)
  | none =>
    (increment? cs).map fun (n, rest) =>
      if n = 0 then (.clip, n, rest)
      else
        match chomping? rest with
        | some (chomping, rest) => (chomping, n, rest)
        | none => (.clip, n, rest)

/-- Reads the blank lines before a line of a block scalar, and that line's indentation up to
`indent`, or as far as it goes while `indent` is zero. The third component is the widest indentation
met. -/
def blankLines? (indent : Nat) : Nat → List Char → Nat → Cursor → Option (List Char × Nat × Cursor)
  | 0, _, _, _ => none
  | fuel + 1, breaks, widest, c =>
    let spaces := (c.rest.takeWhile (· = ' ')).length
    let c := c.skip (if indent = 0 then spaces else min spaces (indent - c.column))
    let widest := max widest c.column
    if c.next? = some '\t' && (indent = 0 || c.column < indent) then none
    else
      match c.break? with
      | some lineBreak => blankLines? indent fuel (breaks ++ [lineBreak]) widest c.skipBreak
      | none => some (breaks, widest, c)

/-- Reads the lines of a block scalar. `read` is what was read, `last` the break at the end of its
last line, `breaks` the blank lines after it, and `indented` tells whether that line began with a
blank. The text read and the result are given backwards. -/
def blockLines? (literal : Bool) (chomping : Chomping) (indent : Nat) :
    Nat → List Char → List Char → List Char → Bool → Cursor → Option (List Char × Cursor)
  | 0, _, _, _, _, _ => none
  | fuel + 1, read, last, breaks, indented, c =>
    if c.column = indent && !c.rest.isEmpty then do
      let blank := c.next?.any isSpace
      let joint :=
        if !literal && last == ['\n'] && !indented && !blank then
          if breaks.isEmpty then [' '] else []
        else last
      let line := c.rest.takeWhile (!isBreak ·)
      let c := c.skip line.length
      let (more, _, next) ← blankLines? indent c.bound [] 0 c.skipBreak
      blockLines? literal chomping indent fuel ((joint ++ breaks ++ line).reverse ++ read)
        c.break?.toList more blank next
    else
      match chomping with
      | .strip => some (read, c)
      | .clip => some (last.reverse ++ read, c)
      | .keep => some ((last ++ breaks).reverse ++ read, c)

/-- Reads a block scalar from its indicator, inside a collection whose indentation is one less than
`base`. -/
def block? (literal : Bool) (base : Nat) (c : Cursor) : Option (List Char × Cursor) := do
  let (chomping, increment, rest) ← header? (c.rest.drop 1)
  let c := (c.skip (c.rest.length - rest.length)).skipComment
  if !atLineEnd c.rest then none
  else
    let c := c.skipBreak
    let stated := if increment = 0 then 0 else base - 1 + increment
    let (breaks, widest, c) ← blankLines? stated c.bound [] 0 c
    let indent := if stated = 0 then max widest (max base 1) else stated
    let (read, c) ← blockLines? literal chomping indent c.bound [] [] breaks false c
    some (read.reverse, c)

end Dunning.Yaml
