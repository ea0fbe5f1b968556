import Dunning.Yaml.Strict.Scalar
import Dunning.Yaml.Token

/-!
# Tokens of strict YAML texts

The strict rules give the same tokens as the others, but they are harder on the layout: after the
colon of a key, whatever belongs to the value has to lie deeper than the key, also inside brackets
and quotes, and no other collection opens there. Such a depth is an indentation that stands for no
collection. Inside brackets a key may lie on several lines; after a quoted key or a closing bracket
the colon needs no blank behind it.
-/

namespace Dunning.Yaml.Strict

/-- A depth that lines have to reach. -/
structure Indent where
  width : Nat
  /-- Whether it is that of a block collection. -/
  isBlock : Bool

/-- The tokens read so far, and what is known at the present place. -/
structure Lexer where
  here : Cursor
  /-- The tokens, latest first. -/
  tokens : List Token := []
  count : Nat := 0
  /-- The depths asked for, innermost first. -/
  indents : List Indent := []
  /-- The place of the latest possible key inside each open bracket, innermost first, and outside
  all of them. -/
  keys : List (Option KeyPlace) := [none]
  /-- Whether a key may begin here. -/
  keyAllowed : Bool := true
  /-- Whether only blanks stand before the present place on its line. -/
  leading : Bool := true
  /-- The place where a colon needs no blank behind it. -/
  adjacent : Nat := 0
  /-- Whether a brace or a question mark has announced a mapping inside brackets. -/
  announced : Bool := false
  /-- Whether an entry of a list in brackets is a mapping that no brace closes. -/
  braceless : Bool := false

namespace Lexer

/-- Whether the present place is inside brackets. -/
def inFlow (l : Lexer) : Bool :=
  1 < l.keys.length

/-- The depth asked for at the present place. -/
def width (l : Lexer) : Nat :=
  (l.indents.head?.map Indent.width).getD 0

/-- Adds the token `t`. -/
def emit (l : Lexer) (t : Token) : Lexer :=
  { l with tokens := t :: l.tokens, count := l.count + 1 }

/-- Adds `t` in front of the tokens after the first `number` ones. -/
def insert (l : Lexer) (number : Nat) (t : Token) : Lexer :=
  let later := l.count - number
  { l with
    tokens := l.tokens.take later ++ t :: l.tokens.drop later
    count := l.count + 1 }

/-- Moves over `n` characters of the line that are no blanks. -/
def skip (l : Lexer) (n : Nat) : Lexer :=
  { l with here := l.here.skip n, leading := false }

/-- Moves to where the text that is left is `rest`, on the same line. -/
def moveTo (l : Lexer) (rest : List Char) : Lexer :=
  l.skip (l.here.rest.length - rest.length)

/-- Moves over a line break; outside brackets a key may begin after it. -/
def skipLine (l : Lexer) : Lexer :=
  { l with here := skipBreak l.here, leading := true, keyAllowed := l.keyAllowed || !l.inFlow }

/-- Moves over blanks and a comment. -/
def skipTrailing? (l : Lexer) : Option Lexer :=
  (trailing? l.here).map fun c => { l with here := c }

/-- Says whether a key may begin. -/
def allowKey (l : Lexer) (allowed : Bool) : Lexer :=
  { l with keyAllowed := allowed }

/-! ## Possible keys -/

/-- Forgets the possible key of the innermost bracket; refuses if its colon had to come. -/
def dropKey? (l : Lexer) : Option Lexer :=
  match l.keys with
  | some place :: rest => if place.needed then none else some { l with keys := none :: rest }
  | _ => some l

/-- Keeps the present place as that of a possible key. -/
def saveKey (l : Lexer) : Lexer :=
  if !l.keyAllowed then l
  else
    let c := l.here
    let needed := !l.inFlow && l.width = c.column + 1 && l.indents.head?.any Indent.isBlock
    let place : KeyPlace :=
      { number := l.count, index := c.index, line := c.line, column := c.column, needed }
    { l with keys := some place :: l.keys.drop 1 }

/-- Whether the possible key at `place` lies too far back. -/
def isStale (l : Lexer) (place : KeyPlace) : Bool :=
  place.line < l.here.line || place.index + 1024 < l.here.index

/-- Forgets the possible key outside all brackets if it `isStale`; refuses if its colon had to come.
-/
def dropStale? (l : Lexer) : Option Lexer :=
  match l.keys with
  | [some place] => if l.isStale place then l.dropKey? else some l
  | _ => some l

/-! ## Indentation -/

/-- Asks for one more column than so far, unless that has been done. -/
def deepen (l : Lexer) : Lexer :=
  if !l.inFlow && l.indents.head?.any Indent.isBlock then
    { l with indents := ⟨l.width + 1, false⟩ :: l.indents }
  else l

/-- Asks for no more than the open block collections do. -/
def settle (l : Lexer) : Lexer :=
  { l with indents := l.indents.dropWhile (!·.isBlock) }

/-- Opens a block collection at a column, unless one is open there, with its token in front of those
after the first `number` ones. It takes the place of a depth without a collection. -/
def openBlock (l : Lexer) (column number : Nat) (t : Token) : Lexer :=
  if l.inFlow then l
  else
    let free := l.width ≤ column + 1 && l.indents.head?.any (!·.isBlock)
    let l := if free then { l with indents := l.indents.drop 1 } else l
    if l.width ≤ column then
      { l.insert number t with indents := ⟨column + 1, true⟩ :: l.indents }
    else l

/-- Gives up the depths beyond the given one, and closes the block collections among them. -/
def closeBeyond (l : Lexer) (width : Nat) : Lexer :=
  if l.inFlow then l
  else
    let closed := l.indents.takeWhile (width < ·.width)
    let l := { l with indents := l.indents.drop closed.length }
    (closed.filter Indent.isBlock).foldl (fun l _ => l.emit .blockEnd) l

/-! ## Between tokens -/

/-- Moves over blanks, comments and line breaks. A tab inside the indentation of a block collection
may stand on a blank line only. -/
def skipToToken? : Nat → Lexer → Option Lexer
  | 0, _ => none
  | fuel + 1, l =>
    match l.here.next? with
    | some '#' => skipToToken? fuel { l with here := l.here.skipWhile (!isBreak ·) }
    | some c =>
      if isBreak c then skipToToken? fuel l.skipLine
      else if c = '\t' && !l.indents.isEmpty && l.leading && decide (l.here.column + 1 < l.width)
      then do
        let l ← l.skipTrailing?
        if atLineEnd l.here.rest then skipToToken? fuel l else none
      else if isSpace c then skipToToken? fuel { l with here := l.here.skip 1 }
      else some l
    | none => some l

/-- Moves over spaces, comments and line breaks, which have to be there. -/
def skipSpaces? (l : Lexer) : Option Lexer :=
  let rec go : Nat → Lexer → Lexer
    | 0, l => l
    | fuel + 1, l =>
      match l.here.next? with
      | some ' ' => go fuel { l with here := l.here.skip 1 }
      | some '#' => go fuel { l with here := l.here.skipWhile (!isBreak ·) }
      | some c => if isBreak c then go fuel l.skipLine else l
      | none => l
  let needed := !l.here.next?.any fun c => c = ' ' || isBreak c
  if needed then none
  else
    let l := go l.here.bound l
    if l.here.next? = some '\t' then none else some l

/-! ## Directives, anchors and tags -/

/-- The characters of a URI. -/
def isUriChar (c : Char) : Bool :=
  Dunning.Yaml.Lexer.isTagChar true c || c = '#'

/-- The characters of a tag without its handle. -/
def isTagChar (c : Char) : Bool :=
  isUriChar c && !isFlowIndicator c && c ≠ '!'

/-- The characters of an anchor. -/
def isAnchorChar (c : Char) : Bool :=
  !isSpace c && !isBreak c && !isFlowIndicator c && c ≠ '\ufeff'

/-- Reads an escaped character of a tag: one octet, or two that make one number. -/
def escaped? (cs : List Char) : Option (Char × List Char) := do
  let (b, cs) ← Dunning.Yaml.Lexer.octet? cs
  if b < 0x80 then some (Char.ofNat b, cs)
  else if 0xC0 ≤ b && b < 0xD8 then
    let (d, cs) ← Dunning.Yaml.Lexer.octet? cs
    if d / 64 = 2 then some (Char.ofNat (256 * b + d), cs) else none
  else none

/-- Reads the characters of a tag, which satisfy `p`. -/
def tagText? (p : Char → Bool) : Nat → List Char → Option (List Char × List Char)
  | 0, _ => none
  | _ + 1, [] => some ([], [])
  | fuel + 1, c :: rest =>
    if !p c then some ([], c :: rest)
    else if c = '%' then do
      let (d, rest) ← escaped? (c :: rest)
      (tagText? p fuel rest).map fun (text, rest) => (d :: text, rest)
    else (tagText? p fuel rest).map fun (text, rest) => (c :: text, rest)

/-- Reads a tag: its handle and the rest of it. A tag in angle brackets has no handle, and the
exclamation mark by itself is a rest without a handle. -/
def tag? : List Char → Option (String × String × List Char)
  | '!' :: '<' :: rest => do
    let (text, rest) ← tagText? isUriChar (rest.length + 1) rest
    match rest with
    | '>' :: rest => some ("", String.ofList text, rest)
    | _ => none
  | cs => do
    let (handle, rest) ← Dunning.Yaml.Lexer.handle? cs
    let (text, after) ← tagText? isTagChar (rest.length + 1) rest
    if 1 < handle.length && handle.getLast? = some '!' then
      if text.isEmpty && after.length = rest.length then none
      else some (String.ofList handle, String.ofList text, after)
    else
      match handle.drop 1 ++ text with
      | [] => some ("", "!", after)
      | text => some ("!", String.ofList text, after)

/-- Reads what the tags with a handle begin with: a tag of its own, or the beginning of a URI. -/
def tagStart? (cs : List Char) : Option (List Char × List Char) :=
  match cs with
  | '!' :: rest =>
    (tagText? isUriChar (rest.length + 1) rest).map fun (text, rest) => ('!' :: text, rest)
  | c :: _ => if isTagChar c then tagText? isUriChar (cs.length + 1) cs else none
  | [] => none

/-- Reads the value of a directive with the given name. What an unknown directive says is passed
over; it counts as one for the empty handle. -/
def directive? (name : String) (cs : List Char) : Option (Token × List Char) :=
  if name = "YAML" then do
    let (major, rest) ← Dunning.Yaml.Lexer.number? (cs.dropWhile isSpace)
    match rest with
    | '.' :: rest =>
      (Dunning.Yaml.Lexer.number? rest).map fun (minor, rest) => (.version major minor, rest)
    | _ => none
  else if name = "TAG" then do
    let (handle, rest) ← Dunning.Yaml.Lexer.handle? (cs.dropWhile isSpace)
    if handle != ['!'] && handle.getLast? != some '!' then none
    else
      let (text, rest) ← tagStart? (rest.dropWhile isSpace)
      if atGap rest then some (.handle (String.ofList handle) (String.ofList text), rest) else none
  else some (.handle "" "", cs.dropWhile (!isBreak ·))

/-! ## Single tokens -/

/-- A directive. -/
def lexDirective? (l : Lexer) : Option Lexer := do
  let l ← (l.closeBeyond 0).dropKey?
  let cs := l.here.rest.drop 1
  let name := cs.takeWhile isNameChar
  let cs := cs.drop name.length
  if name.isEmpty || !atGap cs then none
  else
    let (token, rest) ← directive? (String.ofList name) cs
    let l ← (((l.emit token).allowKey false).moveTo rest).skipTrailing?
    if atLineEnd l.here.rest then some { l with here := skipBreak l.here, leading := true }
    else none

/-- The marker at the beginning of a document. -/
def lexDocumentStart? (l : Lexer) : Option Lexer := do
  let l ← (l.closeBeyond 0).dropKey?
  some (((l.emit .documentStart).allowKey false).skip 3)

/-- The marker at the end of a document, after which only a comment may stand on the line. -/
def lexDocumentEnd? (l : Lexer) : Option Lexer := do
  let l ← (l.closeBeyond 0).dropKey?
  let l ← (((l.emit .documentEnd).allowKey false).skip 3).skipTrailing?
  if atLineEnd l.here.rest then some l else none

/-- The greatest nesting of brackets. -/
def maxFlowDepth : Nat := 255

/-- An opening bracket. -/
def lexOpen? (l : Lexer) (t : Token) : Option Lexer :=
  let l := l.saveKey.deepen
  if maxFlowDepth < l.keys.length then none
  else
    ({ ((l.emit t).allowKey true).skip 1 with
      keys := none :: l.keys
      announced := l.announced || decide (t = Token.flowMapping) }).skipTrailing?

/-- Closes a mapping without braces. -/
def closeBraceless (l : Lexer) : Lexer :=
  if l.braceless then { l.emit .flowMappingEnd with braceless := false, announced := false } else l

/-- A closing bracket. -/
def lexClose? (l : Lexer) (t : Token) : Option Lexer := do
  let l ← l.dropKey?
  let l := { l with keys := if l.inFlow then l.keys.drop 1 else l.keys }
  let l ← (((l.closeBraceless.emit t).allowKey false).skip 1).skipTrailing?
  some (if l.inFlow then { l with adjacent := l.here.index } else l)

/-- A comma. -/
def lexComma? (l : Lexer) : Option Lexer := do
  let l ← l.dropKey?
  (((l.closeBraceless.emit .comma).allowKey true).skip 1).skipTrailing?

/-- The dash of a list entry. Tabs may not stand between two dashes. -/
def lexEntry? (l : Lexer) : Option Lexer :=
  if l.inFlow || !l.keyAllowed then none
  else do
    let l := l.openBlock l.here.column l.count .blockSequence
    let gap := (l.here.rest.drop 1).takeWhile isSpace
    let l ← (l.skip 1).skipTrailing?
    let rest := l.here.rest
    if gap.contains '\t' && rest.head? = some '-' && atGap (rest.drop 1) then none
    else
      let l := if rest.head?.any fun c => isBreak c || isFlowIndicator c then l.deepen else l
      let l ← l.dropKey?
      some ((l.emit .entry).allowKey true)

/-- The question mark before a key. -/
def lexKey? (l : Lexer) : Option Lexer :=
  if !l.inFlow && !l.keyAllowed then none
  else do
    let l := l.openBlock l.here.column l.count .blockMapping
    let l ← { l with announced := l.announced || l.inFlow }.dropKey?
    let l ← ((l.allowKey (!l.inFlow)).skip 1).skipSpaces?
    some (l.emit .key)

/-- Moves over the colon before a value. If only tabs follow it on the line, no word may come after
them. -/
def skipColon? (l : Lexer) : Option Lexer :=
  let l := l.skip 1
  if l.here.next? ≠ some '\t' then some l
  else do
    let after ← l.skipTrailing?
    let isWord := after.here.next?.any isNameChar
    if isWord && !(l.here.rest.takeWhile isSpace).contains ' ' then none else some after

/-- The colon before a value. -/
def lexValue? (l : Lexer) : Option Lexer := do
  let line := l.here.line
  let column := l.here.column
  let l ← { l with braceless := l.inFlow && !l.announced }.skipColon?
  match l.keys with
  | some place :: rest =>
    if l.braceless && place.line < line then none
    else
      let l := l.insert place.number .key
      let l := if l.braceless then l.insert place.number .flowMapping else l
      let l := (l.openBlock place.column place.number .blockMapping).deepen
      some ({ l with keys := none :: rest }.allowKey false |>.emit .value)
  | _ =>
    let l := if l.braceless then l.emit .flowMapping else l
    if !l.inFlow && !l.keyAllowed then none
    else
      let l := (l.openBlock column l.count .blockMapping).deepen
      some ((l.allowKey (!l.inFlow)).emit .value)

/-- An anchor or an alias. -/
def lexAnchor? (l : Lexer) (t : String → Token) : Option Lexer :=
  let name := (l.here.rest.drop 1).takeWhile isAnchorChar
  if name.isEmpty then none
  else some (((l.saveKey.emit (t (String.ofList name))).allowKey false).skip (name.length + 1))

/-- A tag. -/
def lexTag? (l : Lexer) : Option Lexer := do
  let (handle, text, rest) ← tag? l.here.rest
  if atGap rest || (l.inFlow && rest.head?.any isFlowIndicator) then
    some (((l.saveKey.emit (.tag handle text)).allowKey false).moveTo rest)
  else none

/-- A block scalar. -/
def lexBlockScalar? (l : Lexer) (literal : Bool) : Option Lexer := do
  let l := l.saveKey.settle
  let (text, c) ← block? literal l.width l.here
  let style := if literal then Style.literal else .folded
  let l := (l.emit (.scalar style (String.ofList text))).allowKey true
  some { l with here := c, leading := true }

/-- A quoted scalar. -/
def lexQuoted? (l : Lexer) (double : Bool) : Option Lexer := do
  let l := l.saveKey.allowKey false
  let (text, c) ← quoted? l.inFlow double l.width l.here
  let style := if double then Style.doubleQuoted else .singleQuoted
  let l ← skipToToken? c.bound { l with here := c, leading := false }
  some { l.emit (.scalar style (String.ofList text)) with adjacent := l.here.index }

/-- A plain scalar. -/
def lexPlain? (l : Lexer) : Option Lexer := do
  let l := l.saveKey.settle
  let (text, c, broken) ← plain? l.inFlow l.width l.here
  some { (l.emit (.scalar .plain (String.ofList text))).allowKey broken with
    here := c, leading := broken }

/-- The end of the text. -/
def lexEnd? (l : Lexer) : Option Lexer :=
  if l.keys.any fun key => key.any (·.needed) then none
  else some ((l.closeBeyond 0).emit .streamEnd)

/-- Whether a colon before the given text stands before a value. -/
def endsKey (l : Lexer) (rest : List Char) : Bool :=
  atGap rest
    || (l.inFlow && (rest.head?.any isFlowIndicator || decide (l.here.index = l.adjacent)))

/-- The token at the present place, which is not the end of the text. -/
def lexToken? (l : Lexer) (c : Char) (rest : List Char) : Option Lexer :=
  let inFlow := l.inFlow
  if l.here.column = 0 && c = '%' then l.lexDirective?
  else if atMarker '-' l.here then l.lexDocumentStart?
  else if atMarker '.' l.here then l.lexDocumentEnd?
  else if l.here.column + 1 < l.width then none
  else if c = '[' then l.lexOpen? .flowSequence
  else if c = '\x7b' then l.lexOpen? .flowMapping
  else if c = ']' then l.lexClose? .flowSequenceEnd
  else if c = '\x7d' then l.lexClose? .flowMappingEnd
  else if c = ',' then l.lexComma?
  else if c = '-' && atGap rest then l.lexEntry?
  else if c = '?' && atGap rest then l.lexKey?
  else if c = ':' && l.endsKey rest then l.lexValue?
  else if c = '*' then l.lexAnchor? .reference
  else if c = '&' then l.lexAnchor? .anchor
  else if c = '!' then l.lexTag?
  else if c = '|' && !inFlow then l.lexBlockScalar? true
  else if c = '>' && !inFlow then l.lexBlockScalar? false
  else if c = '\'' then l.lexQuoted? false
  else if c = '"' then l.lexQuoted? true
  else if c = '%' || c = '@' || c.toNat = 0x60 then none
  else l.lexPlain?

/-- Reads tokens up to the end of the text, by `lexToken?`. -/
def run? : Nat → Lexer → Option Lexer
  | 0, _ => none
  | fuel + 1, l => do
    let l ← skipToToken? l.here.bound l
    let l ← l.dropStale?
    let l := l.closeBeyond (l.here.column + 1)
    match l.here.rest with
    | [] => l.lexEnd?
    | c :: rest => do
      let l ← l.lexToken? c rest
      run? fuel l

end Lexer

/-- The tokens of a text up to its first null character, by `run?`; none if it is malformed. -/
def tokens? (text : String) : Option (List Token) :=
  let cs := text.toList.takeWhile (·.toNat ≠ 0)
  (Lexer.run? (cs.length + 1) { here := .atStart cs }).map (·.tokens.reverse)

end Dunning.Yaml.Strict
