/-!
# Places in a YAML text

YAML gives meaning to columns, so the text that is left is kept together with its place. Besides the
line feed and the carriage return, three more characters break a line.
-/

namespace Dunning.Yaml

/-- Whether a character breaks a line. -/
def isBreak (c : Char) : Bool :=
  c = '\n' || c = '\r' || c = '\u0085' || c = '\u2028' || c = '\u2029'

/-- Whether a character is a space or a tab. -/
def isSpace (c : Char) : Bool :=
  c = ' ' || c = '\t'

/-- Whether a character may stand in a YAML text. -/
def isAllowed (c : Char) : Bool :=
  let n := c.toNat
  n = 0x09 || n = 0x0A || n = 0x0D || (0x20 ≤ n && n ≤ 0x7E) || n = 0x85
    || (0xA0 ≤ n && n ≤ 0xFFFD) || 0x10000 ≤ n

/-- The characters of anchors, handles and directives. -/
def isNameChar (c : Char) : Bool :=
  c.isAlphanum || c = '_' || c = '-'

/-- Whether a text begins with `isSpace` or `isBreak`, or is at its end. -/
def atGap : List Char → Bool
  | [] => true
  | c :: _ => isSpace c || isBreak c

/-- Whether a text begins with `isBreak`, or is at its end. -/
def atLineEnd : List Char → Bool
  | [] => true
  | c :: _ => isBreak c

/-- The text that is left, and its place: characters before it, lines before it, and characters
before it on its line. -/
structure Cursor where
  rest : List Char
  index : Nat := 0
  line : Nat := 0
  column : Nat := 0
  /-- More than the number of characters of the whole text, so that many steps are enough for
  anything that moves on with each step. -/
  bound : Nat

namespace Cursor

/-- The beginning of `text`. -/
def atStart (text : List Char) : Cursor :=
  { rest := text, bound := text.length + 1 }

/-- The next character. -/
def next? (c : Cursor) : Option Char :=
  c.rest.head?

/-- Moves over `n` characters of the line. -/
def skip (c : Cursor) (n : Nat) : Cursor :=
  { c with rest := c.rest.drop n, index := c.index + n, column := c.column + n }

/-- Moves over the characters of the line that satisfy `p`. -/
def skipWhile (c : Cursor) (p : Char → Bool) : Cursor :=
  c.skip (c.rest.takeWhile p).length

/-- Moves over a line break, if there is one. A carriage return and the line feed after it are one
line break. -/
def skipBreak (c : Cursor) : Cursor :=
  match c.rest with
  | '\r' :: '\n' :: rest => { c with rest, index := c.index + 2, line := c.line + 1, column := 0 }
  | b :: rest =>
    if isBreak b then { c with rest, index := c.index + 1, line := c.line + 1, column := 0 } else c
  | [] => c

/-- The character that a line break stands for in a scalar, if there is one: itself for the line and
the paragraph separator, a line feed for the others. -/
def break? (c : Cursor) : Option Char :=
  match c.rest with
  | '\u2028' :: _ => some '\u2028'
  | '\u2029' :: _ => some '\u2029'
  | b :: _ => if isBreak b then some '\n' else none
  | [] => none

/-- Whether a line with a document marker begins here: three times `mark`. -/
def atMarker (c : Cursor) (mark : Char) : Bool :=
  c.column = 0 && c.rest.take 3 == [mark, mark, mark] && atGap (c.rest.drop 3)

/-- Whether a line with either document marker begins here, by `atMarker`. -/
def atDocumentMarker (c : Cursor) : Bool :=
  c.atMarker '-' || c.atMarker '.'

/-- Moves over blanks (`isSpace`), then over a comment. -/
def skipComment (c : Cursor) : Cursor :=
  let c := c.skipWhile isSpace
  if c.next? = some '#' then c.skipWhile (!isBreak ·) else c

end Cursor

end Dunning.Yaml
