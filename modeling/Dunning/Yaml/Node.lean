import Dunning.Yaml.Token

/-!
# YAML documents

A document is a tree of scalars, sequences and mappings. Anchors are numbered, and an alias refers
to a number. An anchor gets as its number the count of the different names used before it, so a name
that is used again can take the number of another one; an alias means the last node with its
number.

The trees of strict texts are read in the same way, apart from four things: each anchor has a number
of its own, a colon may come without a key, the word `~` stands where nothing is written, and a
handle that is not known is refused only if it has a name.
-/

namespace Dunning.Yaml

/-- A node of a document. -/
inductive Node where
  | scalar (anchor : Option Nat) (tag : Option String) (style : Style) (text : String)
  | sequence (anchor : Option Nat) (tag : Option String) (items : List Node)
  | mapping (anchor : Option Nat) (tag : Option String) (entries : List (Node × Node))
  | reference (number : Nat)

namespace Node

/-- A plain scalar without anchor and tag. -/
def word (text : String) : Node := scalar none none .plain text

mutual

/-- The anchored nodes of a tree, from the root on and in the order of the text. -/
def anchored : Node → List (Nat × Node)
  | scalar anchor tag style text => anchor.toList.map (·, scalar anchor tag style text)
  | sequence anchor tag items =>
    anchor.toList.map (·, sequence anchor tag items) ++ anchoredItems items
  | mapping anchor tag entries =>
    anchor.toList.map (·, mapping anchor tag entries) ++ anchoredEntries entries
  | reference _ => []

/-- The anchored nodes of a list, each by `anchored`. -/
def anchoredItems : List Node → List (Nat × Node)
  | [] => []
  | n :: ns => anchored n ++ anchoredItems ns

/-- The anchored nodes of the entries of a mapping, each by `anchored`. -/
def anchoredEntries : List (Node × Node) → List (Nat × Node)
  | [] => []
  | (k, v) :: ns => anchored k ++ anchored v ++ anchoredEntries ns

end

mutual

/-- The number of marks that delimit the nodes of a tree: one for a scalar or an alias, two for a
collection. -/
def marks : Node → Nat
  | scalar _ _ _ _ => 1
  | sequence _ _ items => 2 + marksOfItems items
  | mapping _ _ entries => 2 + marksOfEntries entries
  | reference _ => 1

/-- The number of `marks` of a list. -/
def marksOfItems : List Node → Nat
  | [] => 0
  | n :: ns => marks n + marksOfItems ns

/-- The number of `marks` of the entries of a mapping. -/
def marksOfEntries : List (Node × Node) → Nat
  | [] => 0
  | (k, v) :: ns => marks k + marks v + marksOfEntries ns

end

end Node

/-! ## Reading -/

/-- What the tag of a standard kind of node begins with. -/
def standardTagStart : String := "tag:yaml.org,2002:"

/-- The tokens that are left, and what is known from those before. -/
structure Reading where
  tokens : List Token
  /-- Whether the text is a strict one. -/
  strict : Bool := false
  /-- The numbers of the anchors so far, by name. -/
  anchors : Fields Nat := []
  /-- How many anchors there are so far. -/
  anchorCount : Nat := 0
  /-- The tags that handles stand for. -/
  handles : Fields String := []

/-- Something that reads tokens from a `Reading`. -/
abbrev Reader := StateT Reading Option

namespace Reader

/-- The next token. -/
def peek : Reader Token := do
  return ((← get).tokens.head?).getD .streamEnd

/-- Moves over a token. -/
def drop : Reader Unit :=
  modify fun r => { r with tokens := r.tokens.drop 1 }

/-- Moves over a token if it is `t`; says whether it was. -/
def take (t : Token) : Reader Bool := do
  if (← peek) = t then drop; return true else return false

/-- The number of a new anchor `name`. -/
def newAnchor (name : String) : Reader Nat := do
  let r ← get
  let number := if r.strict then r.anchorCount else r.anchors.length
  modify fun r =>
    { r with anchors := r.anchors.insert name number, anchorCount := r.anchorCount + 1 }
  return number

/-- The node that stands where nothing is written. -/
def unwritten : Reader Node := do
  return .word (if (← get).strict then "~" else "")

/-- Whether a colon comes without a key, as it may in a `strict` text. -/
def atBareColon : Reader Bool := do
  return (← get).strict && (← peek) = .value

/-- Whether `handle` has a name, or is the double exclamation mark. -/
def isNamed (handle : String) : Bool :=
  1 < handle.length && handle.startsWith "!" && handle.endsWith "!"

/-- The tag that `handle` and `rest` stand for. In strict texts only a handle makes a tag a standard
one; any other tag belongs to the application, like the exclamation mark by itself. -/
def fullTag (handle rest : String) : Reader String := do
  let r ← get
  match r.handles.get? handle with
  | some start => return if r.strict && start ≠ standardTagStart then "!" else start ++ rest
  | none =>
    if r.strict then if isNamed handle then failure else return "!"
    else if handle = "" then return rest
    else failure

/-- Reads an anchor, if there is one. -/
def anchor? : Reader (Option String) := do
  match ← peek with
  | .anchor name => drop; return some name
  | _ => return none

/-- Reads a tag, if there is one. -/
def tag? : Reader (Option String) := do
  match ← peek with
  | .tag handle rest => drop; return some (← fullTag handle rest)
  | _ => return none

/-- Reads an `anchor?` and a `tag?` in either order. -/
def properties : Reader (Option Nat × Option String) := do
  let before ← anchor?
  let tag ← tag?
  let name ← if before.isNone then anchor? else pure before
  return (← name.mapM newAnchor, tag)

mutual

/-- Reads a node. Outside brackets it may be a block collection, and after a key also a list that is
not indented. -/
def node (block unindented : Bool) : Nat → Reader Node
  | 0 => failure
  | fuel + 1 => do
    if let .reference name ← peek then
      drop
      match (← get).anchors.get? name with
      | some number => return .reference number
      | none => failure
    let (anchor, tag) ← properties
    match ← peek, block with
    | .scalar style text, _ =>
      drop
      return .scalar anchor tag style text
    | .flowSequence, _ => drop; return .sequence anchor tag (← flowItems true fuel)
    | .flowMapping, _ => drop; return .mapping anchor tag (← flowEntries true fuel)
    | .blockSequence, true => drop; return .sequence anchor tag (← blockItems fuel)
    | .blockMapping, true => drop; return .mapping anchor tag (← blockEntries fuel)
    | t, _ =>
      if t = .entry ∧ unindented then return .sequence anchor tag (← unindentedItems fuel)
      else if anchor.isSome || tag.isSome then return .scalar anchor tag .plain ""
      else failure

/-- Reads a node, or nothing in front of one of `stops`. -/
def nodeBefore (stops : List Token) (block unindented : Bool) : Nat → Reader Node
  | 0 => failure
  | fuel + 1 => do
    if stops.contains (← peek) then unwritten else node block unindented fuel

/-- Reads the entries of a list in block form. -/
def blockItems : Nat → Reader (List Node)
  | 0 => failure
  | fuel + 1 => do
    if ← take .blockEnd then return []
    else if ← take .entry then
      let item ← nodeBefore [.entry, .blockEnd] true false fuel
      return item :: (← blockItems fuel)
    else failure

/-- Reads the entries of a list that is not indented. -/
def unindentedItems : Nat → Reader (List Node)
  | 0 => failure
  | fuel + 1 => do
    if ← take .entry then
      let item ← nodeBefore [.entry, .key, .value, .blockEnd] true false fuel
      return item :: (← unindentedItems fuel)
    else return []

/-- Reads the entries of a mapping in block form. -/
def blockEntries : Nat → Reader (List (Node × Node))
  | 0 => failure
  | fuel + 1 => do
    if ← take .blockEnd then return []
    else if ← take .key then
      let k ← nodeBefore [.key, .value, .blockEnd] true true fuel
      let v ← valueBefore [.key, .value, .blockEnd] true true fuel
      return (k, v) :: (← blockEntries fuel)
    else if ← atBareColon then
      let k ← unwritten
      let v ← valueBefore [.key, .value, .blockEnd] true true fuel
      return (k, v) :: (← blockEntries fuel)
    else failure

/-- Reads a colon and a node after it, by `nodeBefore`; nothing is written where there is no colon.
-/
def valueBefore (stops : List Token) (block unindented : Bool) : Nat → Reader Node
  | 0 => failure
  | fuel + 1 => do
    if ← take .value then nodeBefore stops block unindented fuel else unwritten

/-- Reads the items of a list in brackets; each but the first follows a comma. -/
def flowItems (first : Bool) : Nat → Reader (List Node)
  | 0 => failure
  | fuel + 1 => do
    if ← take .flowSequenceEnd then return []
    if !first then
      if !(← take .comma) then failure
    if ← take .flowSequenceEnd then return []
    else if ← take .key then
      -- Where a key has no node, the token after it is lost.
      let lost := [.value, .comma, .flowSequenceEnd].contains (← peek)
      let k ← if lost then (do drop; unwritten) else node false false fuel
      let v ← valueBefore [.comma, .flowSequenceEnd] false false fuel
      return .mapping none none [(k, v)] :: (← flowItems false fuel)
    else
      let item ← node false false fuel
      return item :: (← flowItems false fuel)

/-- Reads the entries of a mapping in braces; each but the first follows a comma. -/
def flowEntries (first : Bool) : Nat → Reader (List (Node × Node))
  | 0 => failure
  | fuel + 1 => do
    if ← take .flowMappingEnd then return []
    if !first then
      if !(← take .comma) then failure
    if ← take .flowMappingEnd then return []
    else if ← take .key then
      let k ← nodeBefore [.value, .comma, .flowMappingEnd] false false fuel
      let v ← valueBefore [.comma, .flowMappingEnd] false false fuel
      return (k, v) :: (← flowEntries false fuel)
    else if ← atBareColon then
      let k ← unwritten
      let v ← valueBefore [.comma, .flowMappingEnd] false false fuel
      return (k, v) :: (← flowEntries false fuel)
    else
      let k ← node false false fuel
      return (k, ← unwritten) :: (← flowEntries false fuel)

end

/-- The tags that handles stand for unless a directive says otherwise. -/
def defaultHandles : Fields String :=
  Fields.ofList [("!", "!"), ("!!", standardTagStart)]

/-- Reads directives; each may stand once only, and the version has to be 1.1 or 1.2. -/
def directives (version : Bool) (handles : Fields String) : Nat → Reader (Fields String)
  | 0 => failure
  | fuel + 1 => do
    match ← peek with
    | .version major minor =>
      if version || major ≠ 1 || (minor ≠ 1 && minor ≠ 2) then failure
      drop
      directives true handles fuel
    | .handle handle tag =>
      if handles.contains handle then failure
      drop
      directives version (handles.insert handle tag) fuel
    | _ => return handles

/-- Whether a `Token` belongs to no node. -/
def isOutside : Token → Bool
  | .version _ _ | .handle _ _ | .documentStart | .documentEnd | .streamEnd => true
  | _ => false

/-- Reads the documents of a text. The first one needs no marker unless it has directives, and no
end marker may stand before it. -/
def documents (size : Nat) (first : Bool) : Nat → Reader (List Node)
  | 0 => failure
  | fuel + 1 => do
    let ended ← if first then pure false else take .documentEnd
    if ended then documents size false fuel
    else if (← peek) = .streamEnd then return []
    else
      let begun := (← get).tokens.length
      let given ← directives false [] size
      let directed := (← get).tokens.length < begun
      modify fun r => { r with anchors := [], handles := defaultHandles.merge given }
      let marked ← take .documentStart
      if !marked && (!first || directed) then failure
      let root ← if marked && isOutside (← peek) then unwritten else node true false size
      let _ ← take .documentEnd
      return root :: (← documents size false fuel)

end Reader

/-- The documents of a text, by `documents`; none if it is malformed. -/
def documents? (text : String) : Option (List Node) := do
  let tokens ← tokens? text
  let size := 4 * tokens.length + 16
  let (nodes, _) ← (Reader.documents size true (tokens.length + 1)).run { tokens }
  some nodes

end Dunning.Yaml
