import Dunning.Yaml.Scalar

/-!
# Scalars of strict YAML texts

The strict rules break lines at line feeds and carriage returns only, and let any other character
stand in a scalar. In return they hold every line to its indentation: the lines of a plain or a
quoted scalar have to lie deeper than the collection around it, tabs do not indent, and a comment
needs a blank before it. The indentation that a collection asks for is its `width`: one more than
its column, and zero outside all collections.
-/

namespace Dunning.Yaml.Strict

/-! ## Lines -/

/-- Whether a character breaks a line. -/
def isBreak (c : Char) : Bool :=
  c = '\n' || c = '\r'

/-- Whether a text begins with `isSpace` or `isBreak`, or is at its end. -/
def atGap : List Char → Bool
  | [] => true
  | c :: _ => isSpace c || isBreak c

/-- Whether a text begins with `isBreak`, or is at its end. -/
def atLineEnd : List Char → Bool
  | [] => true
  | c :: _ => isBreak c

/-- Moves over a line break, if there is one. -/
def skipBreak (c : Cursor) : Cursor :=
  if c.next?.any isBreak then c.skipBreak else c

/-- Whether a line with a document marker begins here: three times `mark`. -/
def atMarker (mark : Char) (c : Cursor) : Bool :=
  c.column = 0 && c.rest.take 3 == [mark, mark, mark] && atGap (c.rest.drop 3)

/-- Whether a line with either document marker begins here, by `atMarker`. -/
def atDocumentMarker (c : Cursor) : Bool :=
  atMarker '-' c || atMarker '.' c

/-- Moves over blanks, then over a comment; refuses a comment without a blank before it. -/
def trailing? (c : Cursor) : Option Cursor :=
  let after := c.skipWhile isSpace
  if after.next? = some '#' then
    if after.index = c.index then none else some (after.skipWhile (!isBreak ·))
  else some after

/-- Reads what stands between two words. In a broken gap `onTab?` moves over a tab, or refuses
it. -/
def gap? (onTab? : Cursor → Option Cursor) : Nat → Gap → Cursor → Option (Gap × Cursor)
  | 0, _, _ => none
  | fuel + 1, g, c =>
    match c.rest with
    | [] => some (g, c)
    | b :: _ =>
      if isBreak b then
        let g : Gap := { blanks := [], breaks := g.breaks ++ ['\n'], broken := true }
        gap? onTab? fuel g (skipBreak c)
      else if !isSpace b then some (g, c)
      else if !g.broken then gap? onTab? fuel { g with blanks := g.blanks ++ [b] } (c.skip 1)
      else if b = '\t' then (onTab? c).bind (gap? onTab? fuel g)
      else gap? onTab? fuel g (c.skip 1)

/-! ## Plain scalars -/

/-- The length of the word at the front of a text. -/
def wordLength (inFlow : Bool) : List Char → Nat
  | [] => 0
  | c :: rest =>
    if isSpace c || isBreak c then 0
    else if c = ':' && (atGap rest || (inFlow && rest.head?.any isFlowIndicator)) then 0
    else if inFlow && isFlowIndicator c then 0
    else wordLength inFlow rest + 1

/-- A tab before the column at which the lines of a plain scalar begin may stand on a blank line or
before a comment only. The line of such a comment leaves no trace in the scalar. -/
def plainTab? (width : Nat) (c : Cursor) : Option Cursor :=
  if width ≤ c.column then some (c.skip 1)
  else
    let after := c.skipWhile isSpace
    if after.next? = some '#' then some (skipBreak (after.skipWhile (!isBreak ·)))
    else if atLineEnd after.rest then some after
    else none

/-- Reads the rest of a plain scalar after some text and a gap. Texts are given backwards. The last
component says whether the scalar ends in a gap with a line break. -/
def plainFrom? (inFlow : Bool) (width : Nat) :
    Nat → List Char → Gap → Cursor → Option (List Char × Cursor × Bool)
  | 0, _, _, _ => none
  | fuel + 1, read, g, c => do
    let n := wordLength inFlow c.rest
    if atDocumentMarker c || c.next? = some '#' || n = 0 then some (read, c, g.broken)
    else if inFlow && c.next? = some '-' && (c.rest.drop 1).head?.any isFlowIndicator then none
    else
      let read := (g.fold ++ c.rest.take n).reverse ++ read
      let c := c.skip n
      if c.rest.isEmpty || !atGap c.rest then some (read, c, false)
      else
        let (g, c) ← gap? (plainTab? width) c.bound {} c
        if !inFlow && decide (c.column < width) then some (read, c, g.broken)
        else plainFrom? inFlow width fuel read g c

/-- Reads a plain scalar inside collections of the given `width`. -/
def plain? (inFlow : Bool) (width : Nat) (c : Cursor) : Option (List Char × Cursor × Bool) :=
  if inFlow && decide (c.column < width) then none
  else (plainFrom? inFlow width c.bound [] {} c).map fun (read, rest) => (read.reverse, rest)

/-! ## Quoted scalars -/

/-- A tab does not indent a line of a quoted scalar. -/
def quotedTab? (width : Nat) (c : Cursor) : Option Cursor :=
  if c.column + 1 < width then none else some (c.skip 1)

/-- Reads the rest of a quoted scalar after some text. Texts are given backwards. -/
def quotedFrom? (double : Bool) (width : Nat) :
    Nat → List Char → Cursor → Option (List Char × Cursor)
  | 0, _, _ => none
  | fuel + 1, read, c =>
    let quote := if double then '"' else '\''
    if atDocumentMarker c || decide (c.column + 1 < width) then none
    else
      match c.rest with
      | [] => none
      | d :: rest =>
        if isSpace d || isBreak d then do
          let (g, c) ← gap? (quotedTab? width) c.bound {} c
          quotedFrom? double width fuel (g.fold.reverse ++ read) c
        else if d = quote then
          if !double && rest.head? = some quote then
            quotedFrom? double width fuel (quote :: read) (c.skip 2)
          else some (read, c.skip 1)
        else if double && d = '\\' then
          if rest.head?.any isBreak then do
            -- A mark right after an escaped break ends the scalar, at whatever column it stands.
            let next := skipBreak (c.skip 1)
            if next.next? = some quote then some (read, next.skip 1)
            else
              let (g, c) ← gap? (quotedTab? width) c.bound { broken := true } next
              quotedFrom? double width fuel (g.breaks.reverse ++ read) c
          else do
            let (e, n) ← escape? rest
            quotedFrom? double width fuel (e :: read) (c.skip (n + 1))
        else quotedFrom? double width fuel (d :: read) (c.skip 1)

/-- Whether a quoted scalar that began on a line may end here: before a line's end, before the colon
of a key, which outside brackets lies on one line, and inside brackets before a comma or a closing
bracket. -/
def mayEnd (inFlow : Bool) (line : Nat) (c : Cursor) : Bool :=
  match c.next? with
  | none => true
  | some d =>
    isBreak d || (d = ':' && (inFlow || line = c.line)) || (inFlow && ",]\x7d".toList.contains d)

/-- Reads a quoted scalar from its opening mark, and the blanks and the comment after it. -/
def quoted? (inFlow double : Bool) (width : Nat) (c : Cursor) : Option (List Char × Cursor) := do
  let (read, after) ← quotedFrom? double width c.bound [] (c.skip 1)
  let after ← trailing? after
  if mayEnd inFlow c.line after then some (read.reverse, after) else none

/-! ## Block scalars -/

/-- Reads the blank lines before a line of a block scalar, and that line's indentation up to
`limit`, or as far as it goes if there is none. The second component is the widest indentation
met. -/
def blankLines (limit : Option Nat) : Nat → List Char → Nat → Cursor → List Char × Nat × Cursor
  | 0, breaks, widest, c => (breaks, widest, c)
  | fuel + 1, breaks, widest, c =>
    let spaces := (c.rest.takeWhile (· = ' ')).length
    let c := c.skip ((limit.map fun n => min spaces (n - c.column)).getD spaces)
    let widest := max widest c.column
    if c.next?.any isBreak then blankLines limit fuel (breaks ++ ['\n']) widest (skipBreak c)
    else (breaks, widest, c)

/-- What the end of a block scalar adds to its text: `last` is the break at the end of its last
line, `breaks` the blank lines after it. An indented last line without a break counts as one with
it. -/
def chomped (chomping : Chomping) (indent : Nat) (last breaks : List Char) (c : Cursor) :
    List Char :=
  let unbroken := c.rest.isEmpty && decide (max indent 1 ≤ c.column)
  let last := last ++ if unbroken then ['\n'] else []
  match chomping with
  | .strip => []
  | .clip => last
  | .keep => last ++ breaks

/-- Reads the lines of a block scalar. `read` is what was read, `last` the break at the end of its
last line, `breaks` the blank lines after it, and `indented` tells whether that line began with a
blank. The text read and the result are given backwards. -/
def blockLines? (literal : Bool) (chomping : Chomping) (indent : Nat) :
    Nat → List Char → List Char → List Char → Bool → Cursor → Option (List Char × Cursor)
  | 0, _, _, _, _, _ => none
  | fuel + 1, read, last, breaks, indented, c =>
    if c.column = indent && !c.rest.isEmpty then
      let blank := c.next?.any isSpace
      let joint :=
        if !literal && last == ['\n'] && !indented && !blank then
          if breaks.isEmpty then [' '] else []
        else last
      let line := c.rest.takeWhile (!isBreak ·)
      let read := (joint ++ breaks ++ line).reverse ++ read
      let c := c.skip line.length
      if c.rest.isEmpty then some ((chomped chomping indent [] [] c).reverse ++ read, c)
      else
        let (more, _, next) := blankLines (some indent) c.bound [] 0 (skipBreak c)
        blockLines? literal chomping indent fuel read ['\n'] more blank next
    else some ((chomped chomping indent last breaks c).reverse ++ read, c)

/-- The text of a block scalar without any line: of the line break after its indicator, if there is
one, and of the blank lines after that. -/
def linelessText (chomping : Chomping) (lineBreak breaks : List Char) : List Char :=
  match chomping with
  | .strip => []
  | .clip => lineBreak
  | .keep => if breaks.isEmpty then lineBreak else breaks

/-- Reads a block scalar from its indicator, inside collections of the given `width`. -/
def block? (literal : Bool) (width : Nat) (c : Cursor) : Option (List Char × Cursor) := do
  let (chomping, increment, rest) ← header? (c.rest.drop 1)
  let c ← trailing? (c.skip (c.rest.length - rest.length))
  let lineBreak := if c.rest.isEmpty then [] else ['\n']
  let below := skipBreak c
  if !atLineEnd c.rest || below.next? = some '\t' then none
  else
    let stated := if increment = 0 then none else some (width - 1 + increment)
    let (breaks, widest, c) := blankLines stated below.bound [] 0 below
    let indent := stated.getD (max widest width)
    if c.rest.isEmpty then some (linelessText chomping lineBreak breaks, c)
    else if c.column < indent && width ≤ c.column then none
    else do
      let (read, c) ← blockLines? literal chomping indent c.bound [] [] breaks false c
      some (read.reverse, c)

end Dunning.Yaml.Strict
