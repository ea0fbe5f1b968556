import Dunning.Yaml.Scalar

/-!
# YAML tokens

A YAML text as a list of tokens. Indentation becomes opening and closing tokens. Whether something
is the key of a mapping shows only at the colon after it, so the place of every possible key is
kept, and the token of the key is put there when its colon comes. Such a key has to lie on one line
and within 1024 characters.
-/

namespace Dunning.Yaml

/-- A token. -/
inductive Token where
  | version (major minor : Nat)
  | handle (handle tag : String)
  | documentStart
  | documentEnd
  | blockSequence
  | blockMapping
  | blockEnd
  | flowSequence
  | flowSequenceEnd
  | flowMapping
  | flowMappingEnd
  | entry
  | comma
  | key
  | value
  | reference (name : String)
  | anchor (name : String)
  | tag (handle rest : String)
  | scalar (style : Style) (text : String)
  | streamEnd
deriving DecidableEq, Repr

/-- The place of a possible key. -/
structure KeyPlace where
  /-- The number of tokens before it. -/
  number : Nat
  index : Nat
  line : Nat
  column : Nat
  /-- Whether a colon has to come. -/
  needed : Bool

/-- The tokens read so far, and what is known at the present place. -/
structure Lexer where
  here : Cursor
  /-- The tokens, latest first. -/
  tokens : List Token := []
  count : Nat := 0
  /-- The columns of the open block collections, innermost first. -/
  indents : List Nat := []
  /-- The place of the latest possible key inside each open bracket, innermost first, and outside
  all of them. -/
  keys : List (Option KeyPlace) := [none]
  /-- Whether a key may begin here. -/
  keyAllowed : Bool := true

namespace Lexer

/-- Whether the present place is inside brackets. -/
def inFlow (l : Lexer) : Bool :=
  1 < l.keys.length

/-- One more than the column of the innermost block collection, zero outside all of them. -/
def base (l : Lexer) : Nat :=
  match l.indents with
  | [] => 0
  | column :: _ => column + 1

/-- Adds the token `t`. -/
def emit (l : Lexer) (t : Token) : Lexer :=
  { l with tokens := t :: l.tokens, count := l.count + 1 }

/-- Adds `t` in front of the tokens after the first `number` ones. -/
def insert (l : Lexer) (number : Nat) (t : Token) : Lexer :=
  let later := l.count - number
  { l with
    tokens := l.tokens.take later ++ t :: l.tokens.drop later
    count := l.count + 1 }

/-- Moves over `n` characters of the line. -/
def skip (l : Lexer) (n : Nat) : Lexer :=
  { l with here := l.here.skip n }

/-- Says whether a key may begin: `allowed`. -/
def allowKey (l : Lexer) (allowed : Bool) : Lexer :=
  { l with keyAllowed := allowed }

/-- Forgets the possible key of the innermost bracket; refuses if its colon had to come. -/
def dropKey? (l : Lexer) : Option Lexer :=
  match l.keys with
  | some place :: rest => if place.needed then none else some { l with keys := none :: rest }
  | _ => some l

/-- Keeps the present place as that of a possible key. -/
def saveKey? (l : Lexer) : Option Lexer :=
  if !l.keyAllowed then some l
  else do
    let l ← l.dropKey?
    let c := l.here
    let needed := !l.inFlow && l.indents.head? == some c.column
    let place : KeyPlace :=
      { number := l.count, index := c.index, line := c.line, column := c.column, needed }
    some { l with keys := some place :: l.keys.drop 1 }

/-- Whether the possible key at `place` lies too far back. -/
def isStale (l : Lexer) (place : KeyPlace) : Bool :=
  place.line < l.here.line || place.index + 1024 < l.here.index

/-- Forgets the possible keys that are stale by `isStale`; refuses if the colon of one had to come.
-/
def dropStale? (l : Lexer) : Option Lexer :=
  let stale (key : Option KeyPlace) : Bool := key.any l.isStale
  if l.keys.any fun key => stale key && key.any (·.needed) then none
  else some { l with keys := l.keys.map fun key => if stale key then none else key }

/-- Opens a block collection at `column`, unless one is open there, with its token in front of those
after the first `number` ones. -/
def openBlock (l : Lexer) (column number : Nat) (t : Token) : Lexer :=
  if l.inFlow || column < l.base then l
  else { l.insert number t with indents := column :: l.indents }

/-- Closes block collections while `close` holds of their columns. -/
def closeBlocks (l : Lexer) (close : Nat → Bool) : Lexer :=
  let closed := l.indents.takeWhile close
  { closed.foldl (fun l _ => l.emit .blockEnd) l with indents := l.indents.drop closed.length }

/-- Closes the block collections to the right of the present place. -/
def closeDeeper (l : Lexer) : Lexer :=
  if l.inFlow then l else l.closeBlocks (l.here.column < ·)

/-- Closes all block collections. -/
def closeAll (l : Lexer) : Lexer :=
  if l.inFlow then l else l.closeBlocks fun _ => true

/-- Moves over blanks, comments and line breaks. Tabs are blanks where no key may begin, and inside
brackets; outside, a key may begin after a line break. A byte order mark may begin a line, and
takes up a column of it. -/
def skipToToken : Nat → Lexer → Lexer
  | 0, l => l
  | fuel + 1, l =>
    let c := if l.here.column = 0 && l.here.next? = some '\ufeff' then l.here.skip 1 else l.here
    let c := c.skipWhile fun b => b = ' ' || ((l.inFlow || !l.keyAllowed) && b = '\t')
    let c := if c.next? = some '#' then c.skipWhile (!isBreak ·) else c
    if c.next?.any isBreak then
      skipToToken fuel { l with here := c.skipBreak, keyAllowed := l.keyAllowed || !l.inFlow }
    else { l with here := c }

/-! ## Directives, anchors and tags -/

/-- Reads a number of at most nine digits. -/
def number? (cs : List Char) : Option (Nat × List Char) :=
  let ds := cs.takeWhile Char.isDigit
  if ds.isEmpty || 9 < ds.length then none
  else some (Decimal.natOfDigits ds, cs.drop ds.length)

/-- The characters of a tag. -/
def isTagChar (inBrackets : Bool) (c : Char) : Bool :=
  isNameChar c || ";/?:@&=+$.%!~*'()".toList.contains c || (inBrackets && ",[]".toList.contains c)

/-- The byte that a percent sign and two digits stand for. -/
def octet? : List Char → Option (Nat × List Char)
  | '%' :: a :: b :: rest => (Json.hexNumber? [a, b]).map (·, rest)
  | _ => none

/-- Reads the given number of further bytes of an escaped character. -/
def trail? : Nat → Nat → List Char → Option (Nat × List Char)
  | 0, n, cs => some (n, cs)
  | more + 1, n, cs => do
    let (b, cs) ← octet? cs
    if b / 64 = 2 then trail? more (n * 64 + b % 64) cs else none

/-- Reads an escaped character of a tag. -/
def escaped? (cs : List Char) : Option (Char × List Char) := do
  let (b, cs) ← octet? cs
  if b < 0x80 then some (Char.ofNat b, cs)
  else if b / 32 = 6 then (trail? 1 (b % 32) cs).map fun (n, cs) => (Char.ofNat n, cs)
  else if b / 16 = 14 then (trail? 2 (b % 16) cs).map fun (n, cs) => (Char.ofNat n, cs)
  else if b / 8 = 30 then (trail? 3 (b % 8) cs).map fun (n, cs) => (Char.ofNat n, cs)
  else none

/-- Reads the characters of a tag. -/
def tagText? (inBrackets : Bool) : Nat → List Char → Option (List Char × List Char)
  | 0, _ => none
  | _ + 1, [] => some ([], [])
  | fuel + 1, c :: rest =>
    if !isTagChar inBrackets c then some ([], c :: rest)
    else if c = '%' then do
      let (d, rest) ← escaped? (c :: rest)
      (tagText? inBrackets fuel rest).map fun (text, rest) => (d :: text, rest)
    else (tagText? inBrackets fuel rest).map fun (text, rest) => (c :: text, rest)

/-- Reads at least one character of a tag. -/
def nonemptyTagText? (inBrackets : Bool) (cs : List Char) : Option (List Char × List Char) :=
  (tagText? inBrackets (cs.length + 1) cs).filter fun (text, rest) =>
    !text.isEmpty || rest.length < cs.length

/-- Reads what may be a handle: an exclamation mark, a name, and a second mark if there is one. -/
def handle? : List Char → Option (List Char × List Char)
  | '!' :: rest =>
    let name := rest.takeWhile isNameChar
    match rest.drop name.length with
    | '!' :: rest => some ('!' :: name ++ ['!'], rest)
    | rest => some ('!' :: name, rest)
  | _ => none

/-- Reads a tag: its handle and the rest of it. -/
def tag? : List Char → Option (List Char × List Char × List Char)
  | '!' :: '<' :: rest => do
    let (text, rest) ← nonemptyTagText? true rest
    match rest with
    | '>' :: rest => some ([], text, rest)
    | _ => none
  | cs => do
    let (handle, rest) ← handle? cs
    if 1 < handle.length && handle.getLast? = some '!' then
      let (text, rest) ← nonemptyTagText? false rest
      some (handle, text, rest)
    else
      let (text, rest) ← tagText? false (rest.length + 1) rest
      match handle.drop 1 ++ text with
      | [] => some ([], ['!'], rest)
      | text => some (['!'], text, rest)

/-- Reads the value of the directive `name`. -/
def directive? (name : String) (cs : List Char) : Option (Token × List Char) :=
  let cs := cs.dropWhile isSpace
  if name = "YAML" then do
    let (major, rest) ← number? cs
    match rest with
    | '.' :: rest => (number? rest).map fun (minor, rest) => (.version major minor, rest)
    | _ => none
  else if name = "TAG" then do
    let (handle, rest) ← handle? cs
    if handle != ['!'] && handle.getLast? != some '!' then none
    else if !rest.head?.any isSpace then none
    else
      let (text, rest) ← nonemptyTagText? true (rest.dropWhile isSpace)
      if atGap rest then some (.handle (String.ofList handle) (String.ofList text), rest) else none
  else none

/-! ## Single tokens -/

/-- Moves to where the text that is left is `rest`, on the same line. -/
def moveTo (l : Lexer) (rest : List Char) : Lexer :=
  l.skip (l.here.rest.length - rest.length)

/-- A directive. -/
def lexDirective? (l : Lexer) : Option Lexer := do
  let l ← l.closeAll.dropKey?
  let cs := l.here.rest.drop 1
  let name := cs.takeWhile isNameChar
  let cs := cs.drop name.length
  if name.isEmpty || !atGap cs then none
  else
    let (token, rest) ← directive? (String.ofList name) cs
    let c := (l.moveTo rest).here.skipComment
    if atLineEnd c.rest then some { (l.emit token).allowKey false with here := c.skipBreak }
    else none

/-- A document marker. -/
def lexMarker? (l : Lexer) (t : Token) : Option Lexer := do
  let l ← l.closeAll.dropKey?
  some (((l.emit t).allowKey false).skip 3)

/-- An opening bracket. -/
def lexOpen? (l : Lexer) (t : Token) : Option Lexer := do
  let l ← l.saveKey?
  some { ((l.emit t).allowKey true).skip 1 with keys := none :: l.keys }

/-- A closing bracket. -/
def lexClose? (l : Lexer) (t : Token) : Option Lexer := do
  let l ← l.dropKey?
  let keys := if l.inFlow then l.keys.drop 1 else l.keys
  some { ((l.emit t).allowKey false).skip 1 with keys }

/-- A comma. -/
def lexComma? (l : Lexer) : Option Lexer := do
  let l ← l.dropKey?
  some (((l.emit .comma).allowKey true).skip 1)

/-- The dash of a list entry. -/
def lexEntry? (l : Lexer) : Option Lexer := do
  if !l.inFlow && !l.keyAllowed then none
  else
    let l ← (l.openBlock l.here.column l.count .blockSequence).dropKey?
    some (((l.emit .entry).allowKey true).skip 1)

/-- The question mark before a key. -/
def lexKey? (l : Lexer) : Option Lexer := do
  if !l.inFlow && !l.keyAllowed then none
  else
    let l ← (l.openBlock l.here.column l.count .blockMapping).dropKey?
    some (((l.emit .key).allowKey (!l.inFlow)).skip 1)

/-- The colon before a value. -/
def lexValue? (l : Lexer) : Option Lexer :=
  match l.keys with
  | some place :: rest =>
    let l := (l.insert place.number .key).openBlock place.column place.number .blockMapping
    some { ((l.emit .value).allowKey false).skip 1 with keys := none :: rest }
  | _ =>
    if !l.inFlow && !l.keyAllowed then none
    else
      let l := l.openBlock l.here.column l.count .blockMapping
      some (((l.emit .value).allowKey (!l.inFlow)).skip 1)

/-- An anchor or an alias. -/
def lexAnchor? (l : Lexer) (t : String → Token) : Option Lexer := do
  let l ← l.saveKey?
  let cs := l.here.rest.drop 1
  let name := cs.takeWhile isNameChar
  let rest := cs.drop name.length
  let ends := atGap rest || rest.head?.any ("?:,]\x7d%@`".toList.contains ·)
  if name.isEmpty || !ends then none
  else some (((l.emit (t (String.ofList name))).allowKey false).moveTo rest)

/-- A tag. -/
def lexTag? (l : Lexer) : Option Lexer := do
  let l ← l.saveKey?
  let (handle, text, rest) ← tag? l.here.rest
  if atGap rest || (l.inFlow && rest.head? = some ',') then
    some (((l.emit (.tag (String.ofList handle) (String.ofList text))).allowKey false).moveTo rest)
  else none

/-- A block scalar. -/
def lexBlockScalar? (l : Lexer) (literal : Bool) : Option Lexer := do
  let l ← l.dropKey?
  let (text, c) ← block? literal l.base l.here
  let style := if literal then Style.literal else .folded
  some { (l.emit (.scalar style (String.ofList text))).allowKey true with here := c }

/-- A quoted scalar. -/
def lexQuoted? (l : Lexer) (double : Bool) : Option Lexer := do
  let l ← l.saveKey?
  let (text, c) ← quoted? double l.here
  let style := if double then Style.doubleQuoted else .singleQuoted
  some { (l.emit (.scalar style (String.ofList text))).allowKey false with here := c }

/-- A plain scalar. -/
def lexPlain? (l : Lexer) : Option Lexer := do
  let l ← l.saveKey?
  let (text, c, broken) ← plain? l.inFlow l.base l.here
  some { (l.emit (.scalar .plain (String.ofList text))).allowKey broken with here := c }

/-- Whether a plain scalar may begin here. -/
def startsPlain (inFlow : Bool) : List Char → Bool
  | [] => false
  | c :: rest =>
    let indicator := atGap [c] || "-?:,[]\x7b\x7d#&*!|>'\"%@`".toList.contains c
    !indicator || (c = '-' && !rest.head?.any isSpace)
      || (!inFlow && (c = '?' || c = ':') && !atGap rest)

/-- The end of the text. -/
def lexEnd? (l : Lexer) : Option Lexer := do
  let l ← l.closeAll.dropKey?
  some (l.emit .streamEnd)

/-- The token at the present place, which is not the end of the text; `c` is its first character. -/
def lexToken? (l : Lexer) (c : Char) (rest : List Char) : Option Lexer :=
  let inFlow := l.inFlow
  if l.here.column = 0 && c = '%' then l.lexDirective?
  else if l.here.atMarker '-' then l.lexMarker? .documentStart
  else if l.here.atMarker '.' then l.lexMarker? .documentEnd
  else if c = '[' then l.lexOpen? .flowSequence
  else if c = '\x7b' then l.lexOpen? .flowMapping
  else if c = ']' then l.lexClose? .flowSequenceEnd
  else if c = '\x7d' then l.lexClose? .flowMappingEnd
  else if c = ',' then l.lexComma?
  else if c = '-' && atGap rest then l.lexEntry?
  else if c = '?' && (inFlow || atGap rest) then l.lexKey?
  else if c = ':' && (inFlow || atGap rest) then l.lexValue?
  else if c = '*' then l.lexAnchor? .reference
  else if c = '&' then l.lexAnchor? .anchor
  else if c = '!' then l.lexTag?
  else if c = '|' && !inFlow then l.lexBlockScalar? true
  else if c = '>' && !inFlow then l.lexBlockScalar? false
  else if c = '\'' then l.lexQuoted? false
  else if c = '"' then l.lexQuoted? true
  else if startsPlain inFlow (c :: rest) then l.lexPlain?
  else none

/-- Reads tokens up to the end of the text, by `lexToken?`. -/
def run? : Nat → Lexer → Option Lexer
  | 0, _ => none
  | fuel + 1, l => do
    let l ← (l.skipToToken l.here.bound).dropStale?
    match l.here.rest with
    | [] => l.lexEnd?
    | c :: rest => do
      let l ← l.closeDeeper.lexToken? c rest
      run? fuel l

end Lexer

/-- The tokens of a text, by `run?`; none if it is malformed. -/
def tokens? (text : String) : Option (List Token) :=
  let cs := text.toList
  if cs.all isAllowed then
    (Lexer.run? (cs.length + 1) { here := .atStart cs }).map (·.tokens.reverse)
  else none

end Dunning.Yaml
