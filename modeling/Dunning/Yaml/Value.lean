import Dunning.Record
import Dunning.Yaml.Node

/-!
# Values of YAML documents

What a node means where a certain kind of value is wanted. A text may be any scalar. Where any value
will do, a plain scalar is null, a truth value, a number or a text by its spelling, and a tag may
force one of these. Collections may be nested to a certain depth only, and aliases may be followed a
certain number of times only, so that every document has a finite value.
-/

namespace Dunning.Yaml

/-! ## Spellings of plain scalars -/

/-- Whether a text spells `null`. -/
def isNullWord (s : String) : Bool :=
  ["~", "null", "Null", "NULL"].contains s

/-- The truth value that a text spells. -/
def truth? (s : String) : Option Bool :=
  if ["true", "True", "TRUE"].contains s then some true
  else if ["false", "False", "FALSE"].contains s then some false
  else none

/-- The value of a digit in a base of at most sixteen. -/
def digit? (base : Nat) (c : Char) : Option Nat :=
  (Json.hexValue? c).filter (· < base)

/-- The number that digits write in `base`, at least one of them. -/
def digits? (base : Nat) (cs : List Char) : Option Nat :=
  if cs.isEmpty then none else cs.foldlM (fun n c => (digit? base c).map (base * n + ·)) 0

/-- The base that a digit prefix names. -/
def base? : List Char → Option (Nat × List Char)
  | '0' :: 'x' :: rest => some (16, rest)
  | '0' :: 'o' :: rest => some (8, rest)
  | '0' :: 'b' :: rest => some (2, rest)
  | _ => none

/-- The number that an unsigned text writes in its `base?`. Digits after a leading zero write none.
-/
def magnitude? (cs : List Char) : Option Nat :=
  match base? cs with
  | some (base, rest) => digits? base rest
  | none => if 1 < cs.length && cs.head? = some '0' then none else digits? 10 cs

/-- The whole number that a text writes, its `magnitude?` with a sign. -/
def integer? : List Char → Option Int
  | '+' :: rest => (magnitude? rest).map fun n => (n : Int)
  | '-' :: rest => (magnitude? rest).map fun n => -(n : Int)
  | cs => (magnitude? cs).map fun n => (n : Int)

/-- Whether a text is digits that begin with a zero, apart from a sign and the digit zero alone. -/
def isZeroPadded (cs : List Char) : Bool :=
  let ds := match cs with
    | '+' :: rest | '-' :: rest => rest
    | rest => rest
  1 < ds.length && ds.head? = some '0' && ds.all Char.isDigit

/-- The double that a text writes; a sign may stand before it, and infinities and what is not a
number have spellings of their own. -/
def float? (s : String) : Option Float :=
  let unsigned :=
    match s.toList with
    | '+' :: rest => rest
    | rest => rest
  if s.toList.take 2 == ['+', '+'] || s.toList.take 2 == ['+', '-'] then none
  else if [".inf", ".Inf", ".INF"].contains (String.ofList unsigned) then some (1.0 / 0.0)
  else if ["-.inf", "-.Inf", "-.INF"].contains s then some (-1.0 / 0.0)
  else if [".nan", ".NaN", ".NAN"].contains s then some (0.0 / 0.0)
  else (Decimal.ofTextList? unsigned).filter Decimal.isFinite

/-- The number that a text writes as a value: `none` when it writes no whole number, and
`some none` when the number needs more than 64 bits but no more than 128. -/
def number? (s : String) : Option (Option Json) := do
  let n ← integer? s.toList
  if Decimal.fits64 n || (0 ≤ n && n < UInt64.size) then some (some (.int n))
  else if -Int.pow 2 127 ≤ n ∧ n < Int.pow 2 128 then some none
  else none

/-- What a plain scalar without a tag means, a number by `number?`. -/
def plainJson? (s : String) : Option Json :=
  if s = "" ∨ isNullWord s then some .null
  else
    match truth? s, number? s with
    | some b, _ => some (.bool b)
    | none, some n => n
    | none, none =>
      let float := if isZeroPadded s.toList then none else float? s
      some ((float.map Json.ofFloat).getD (.str s))

/-- Whether `tag` belongs to the application. -/
def isLocal (tag : Option String) : Bool :=
  tag.any fun t => t.startsWith "!"

/-- The tag of the standard scalars of `kind`. -/
def standardTag (kind : String) : Option String :=
  some (standardTagStart ++ kind)

/-- What a scalar means where any value will do. -/
def scalarJson? (tag : Option String) (style : Style) (s : String) : Option Json :=
  if isLocal tag then none
  else if tag = standardTag "bool" then (truth? s).map .bool
  else if tag = standardTag "int" then (number? s).join
  else if tag = standardTag "float" then (float? s).map Json.ofFloat
  else if tag = standardTag "null" then if isNullWord s then some .null else none
  else if tag.isNone && style = .plain then plainJson? s
  else some (.str s)

/-! ## Values -/

/-- A node of a document, and how deep it may be nested still. -/
structure Value where
  /-- The anchored nodes of the document. -/
  anchors : List (Nat × Node)
  /-- How many collections may be nested. -/
  depth : Nat
  node : Node

/-- The number of collections that may be nested in a document, the first `depth`. -/
def maxDepth : Nat := 128

/-- Reading that follows aliases. The state is how many more of them may be followed. -/
abbrev Following := StateT Nat Option

open RecordValue (orFail)

/-- The node that a node stands for: for an alias, which is followed, the last one with its
number. -/
def settle (anchors : List (Nat × Node)) : Node → Following Node
  | .reference number => do
    let left ← get
    if left = 0 then failure
    set (left - 1)
    orFail ((anchors.findRev? (·.1 = number)).map (·.2))
  | n => return n

/-- The text of `n`, which is a scalar. -/
def text? (anchors : List (Nat × Node)) (n : Node) : Following String := do
  match ← settle anchors n with
  | .scalar _ _ _ s => return s
  | _ => failure

/-- What a node means where any value will do. -/
def json? (anchors : List (Nat × Node)) : (depth : Nat) → Node → Following Json
  | depth, n => do
    match ← settle anchors n, depth with
    | .scalar _ tag style s, _ => orFail (scalarJson? tag style s)
    | .sequence _ tag items, depth + 1 =>
      if isLocal tag then failure else return .arr (← items.mapM (json? anchors depth))
    | .mapping _ tag entries, depth + 1 =>
      if isLocal tag then failure
      else
        let members ← entries.mapM fun (k, v) => do
          return (← text? anchors k, ← json? anchors depth v)
        return .ofMembers members
    | _, _ => failure

namespace Value

/-- The value of the document `root`. -/
def ofDocument (root : Node) : Value where
  anchors := root.anchored
  depth := maxDepth
  node := root

/-- The value of the node `n` inside a collection. -/
def inner (v : Value) (n : Node) : Value :=
  { v with node := n, depth := v.depth - 1 }

/-- The node that the value's node stands for, by `settle`. -/
def settled (v : Value) : Following Node :=
  settle v.anchors v.node

/-- The entries of a mapping by their texts. Nothing at all is an empty mapping. -/
def entries? (v : Value) : Following (List (String × Value)) := do
  match ← v.settled with
  | .mapping _ _ entries =>
    if v.depth = 0 then failure
    else entries.mapM fun (k, e) => do return (← text? v.anchors k, v.inner e)
  | .scalar _ _ .plain "" => return []
  | _ => failure

/-- The fields `names` of a mapping, each of which may stand once only. -/
def fields? (names : List String) (v : Value) : Following (List (Option Value)) := do
  let entries ← v.entries?
  names.mapM fun name =>
    match entries.filter (·.1 = name) with
    | [] => return none
    | [(_, e)] => return some e
    | _ => failure

/-- The items of a sequence. Nothing at all is an empty sequence. -/
def asItems? (v : Value) : Following (List Value) := do
  match ← v.settled with
  | .sequence _ _ items => if v.depth = 0 then failure else return items.map v.inner
  | .scalar _ _ .plain "" => return []
  | _ => failure

/-- The text of a scalar that may be read as a number: a plain one, or a literal one with the tag of
`kind`. -/
def numeral? (kind : String) (v : Value) : Following String := do
  match ← v.settled with
  | .scalar _ tag style s =>
    if style = .plain ∨ (style = .literal ∧ tag = standardTag kind) then return s else failure
  | _ => failure

/-- A whole number below `limit`, written without a minus sign. -/
def asNatBelow? (limit : Nat) (v : Value) : Following Nat := do
  let cs := (← v.numeral? "int").toList
  let n ← orFail (magnitude? (if cs.head? = some '+' then cs.drop 1 else cs))
  if n < limit then return n else failure

/-- What there is at a value: nothing where a plain scalar spells null, or is empty and has no tag.
A plain scalar with the tag of null has to spell it. -/
def given? (v : Value) : Following (Option Value) := do
  let n ← v.settled
  let given := some { v with node := n }
  match n with
  | .scalar _ tag .plain s =>
    if tag = standardTag "null" then if isNullWord s then return none else failure
    else return if tag.isNone && (s = "" || isNullWord s) then none else given
  | _ => return given

instance : RecordValue Value Following where
  given? := given?
  fields? := fields?
  asItems? := asItems?
  asEntries? v := do return Fields.ofList (← v.entries?)
  asText? v := text? v.anchors v.node
  asBool? v := do orFail (truth? (← v.numeral? "bool"))
  asFloat? v := do orFail (float? (← v.numeral? "float"))
  asCount? := asNatBelow? UInt64.size
  asId? v := do return UInt32.ofNat (← v.asNatBelow? UInt32.size)
  asCase? v := text? v.anchors v.node
  asJson? v := json? v.anchors v.depth v.node

end Value

/-- What a document means to `read?`. For each of its marks a hundred aliases may be followed. -/
def Node.read? {α : Type} (read? : Value → Following α) (root : Node) : Option α :=
  ((read? (.ofDocument root)).run (100 * root.marks)).map (·.1)

/-- What the only document of a text means to `read?`. A text without documents is an empty one. -/
def read? {α : Type} (read? : Value → Following α) (text : String) : Option α := do
  match ← documents? text with
  | [] => Node.read? read? (.word "")
  | [root] => root.read? read?
  | _ => none

end Dunning.Yaml
