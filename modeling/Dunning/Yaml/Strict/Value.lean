import Dunning.Decimal.Reader
import Dunning.Yaml.Strict.Document

/-!
# Values of strict YAML documents

A plain scalar is a value of the kind that it spells, unless a tag says otherwise: null is `~` or
`null`, the truth values are `true` and `false`, whole numbers have 64 bits. Other spellings are
texts. A scalar that is not of the kind that its tag names has no value, and so has an alias inside
the node that it refers to. Where a key has no value, the next node takes its place.
-/

namespace Dunning.Yaml.Strict

/-- A value. -/
inductive Value where
  | missing
  | null
  | flag (b : Bool)
  | whole (n : Int)
  /-- A double, as it is written. -/
  | double (spelling : String)
  | text (s : String)
  | list (items : List Value)
  | mapping (entries : List (Value × Value))

namespace Value

/-! ## Scalars -/

/-- The number of 64 bits that digits of a base write, with or without a sign. -/
def based? (base : Nat) (cs : List Char) : Option Int :=
  let (negative, ds) := Decimal.splitSign cs
  let digit (c : Char) : Option Nat := (Json.hexValue? c).filter (· < base)
  if ds.isEmpty then none
  else
    (ds.foldlM (fun n c => (digit c).map (base * n + ·)) 0).bind fun (n : Nat) =>
      let n : Int := if negative then -n else n
      if Decimal.fits64 n then some n else none

/-- The whole number that a text spells, by `based?`. A plus sign may stand before a number with a
sign of its own. -/
def whole? (s : String) : Option Int :=
  match s.toList with
  | '0' :: 'x' :: rest => based? 16 rest
  | '0' :: 'o' :: rest => based? 8 rest
  | '+' :: rest => based? 10 rest
  | cs => based? 10 cs

/-- The truth value that a text spells. -/
def truth? (s : String) : Option Bool :=
  if s = "true" then some true else if s = "false" then some false else none

/-- Whether a text spells `null`. -/
def isNullWord (s : String) : Bool :=
  s = "~" || s = "null"

/-- Spellings of doubles that other readers of doubles do not know. -/
def specialDoubles : List String :=
  [".inf", ".Inf", ".INF", "+.inf", "+.Inf", "+.INF", "-.inf", "-.Inf", "-.INF", ".nan", "NaN",
    ".NAN"]

/-- Whether a text spells a double. -/
def isDouble (s : String) : Bool :=
  specialDoubles.contains s || (Decimal.ofText? s).isSome

/-- The value of a plain scalar without a tag. -/
def ofPlain (s : String) : Value :=
  match whole? s, truth? s with
  | some n, _ => whole n
  | none, some b => flag b
  | none, none => if isNullWord s then null else if isDouble s then double s else text s

/-- The value of a plain scalar with the tag of the standard kind `kind`. -/
def ofKind (kind s : String) : Value :=
  match kind with
  | "bool" => ((truth? s).map flag).getD missing
  | "int" => ((based? 10 s.toList).map whole).getD missing
  | "float" => if isDouble s then double s else missing
  | "null" => if isNullWord s then null else missing
  | _ => text s

/-- The value of a scalar. Only a plain one can be anything but a text. -/
def ofScalar (tag : Option String) (style : Style) (s : String) : Value :=
  if style ≠ .plain then text s
  else
    match tag with
    | none => ofPlain s
    | some tag =>
      let start := standardTagStart.toList
      if start.isPrefixOf tag.toList then ofKind (String.ofList (tag.toList.drop start.length)) s
      else text s

/-! ## Collections -/

/-- Makes entries of values that follow each other; one without a value cannot be a key, and a key
at the end has none. -/
def entries : List Value → List (Value × Value)
  | [] => []
  | missing :: rest => entries rest
  | [_] => []
  | k :: v :: rest => (k, v) :: entries rest

/-- The text or the number that a key is. -/
def key? : Value → Option (String ⊕ Int)
  | text s => some (.inl s)
  | whole n => some (.inr n)
  | _ => none

/-- Whether no two keys have the same `key?`. -/
def areDistinct (entries : List (Value × Value)) : Bool :=
  (entries.filterMap fun (k, _) => k.key?).Nodup

/-! ## Trees -/

/-- Something that knows the values of the anchors read so far. -/
abbrev Building := StateT (List (Nat × Value)) Option

/-- Keeps `v` as the value of `anchor`, if there is one. -/
def keep (anchor : Option Nat) (v : Value) : Building Value := do
  anchor.forM fun number => modify ((number, v) :: ·)
  return v

mutual

/-- The value of a node; refuses mappings with two keys that are the same. -/
def ofNode : Node → Building Value
  | .scalar anchor tag style s => keep anchor (ofScalar tag style s)
  | .sequence anchor _ items => do keep anchor (list (← ofNodes items))
  | .mapping anchor _ nodes => do
    let entries := entries (← ofEntries nodes)
    if areDistinct entries then keep anchor (mapping entries) else failure
  | .reference number => do return ((← get).lookup number).getD missing

/-- The values of nodes, each by `ofNode`. -/
def ofNodes : List Node → Building (List Value)
  | [] => return []
  | n :: ns => do
    let v ← ofNode n
    return v :: (← ofNodes ns)

/-- The values of keys and of what belongs to them, one after the other, each by `ofNode`. -/
def ofEntries : List (Node × Node) → Building (List Value)
  | [] => return []
  | (k, n) :: ns => do
    let key ← ofNode k
    let v ← ofNode n
    return key :: v :: (← ofEntries ns)

end

end Value

/-- The value of the only document of a text by `ofNode`, if there is one; none if the text is
malformed. -/
def value? (text : String) : Option (Option Value) := do
  match ← document? text with
  | none => some none
  | some root => ((Value.ofNode root).run []).map fun (v, _) => some v

end Dunning.Yaml.Strict
