import Dunning.Decimal.Layout
import Dunning.Decimal.Reader
import Dunning.Record
import Dunning.Text.Lowercase

/-!
# Layers of settings

Settings come from several places, one laid over the other. Names do not depend on case. A table is
laid over another one entry by entry, so a place that says one thing leaves everything else as it
was; any other value replaces what was there.
-/

namespace Dunning

/-- A value given for a setting. -/
inductive Setting where
  | absent
  | flag (b : Bool)
  | whole (n : Int)
  | double (x : Float)
  | text (s : String)
  | list (items : List Setting)
  | table (entries : List (String × Setting))

namespace Setting

/-- The entries of a `table`; nothing else has any. -/
def entries : Setting → Fields Setting
  | table entries => entries
  | _ => []

/-- The items of a `list`; nothing else has any. -/
def items : Setting → List Setting
  | list items => items
  | _ => []

mutual

/-- Lays a value over the one that `base` has under `name`. What is no table becomes one. -/
def put (base : Setting) (name : String) : Setting → Setting
  | table incoming =>
    let old := (Fields.get? base.entries (Text.lower name)).getD (table [])
    table (Fields.insert base.entries (Text.lower name) (putAll old incoming))
  | value => table (Fields.insert base.entries (Text.lower name) value)

/-- Lays entries over `base`, one after another by `put`. -/
def putAll (base : Setting) : List (String × Setting) → Setting
  | [] => base
  | (name, value) :: rest => putAll (put base name value) rest

end

/-! ## Names that are paths -/

/-- A step from a value to a part of it, by name or by position. -/
inductive Step where
  | entry (name : String)
  | item (index : Int)
deriving DecidableEq, Repr

/-- The position that `index` means; negative ones count from the end. -/
def position (index : Int) (length : Nat) : Nat :=
  if 0 ≤ index then index.toNat else length - index.natAbs

/-- Lays `value` over the part of a table that a path leads to. Whatever stands in the way is
replaced by what the path needs. -/
def putAt (value : Setting) : Setting → List Step → Setting
  | _, [] => value
  | base, [.entry name] => put base name value
  | base, .entry name :: rest =>
    let old := (Fields.get? base.entries (Text.lower name)).getD absent
    table (Fields.insert base.entries (Text.lower name) (putAt value old rest))
  | base, .item index :: rest =>
    let place := position index base.items.length
    let items := base.items ++ List.replicate (place + 1 - base.items.length) absent
    list (items.set place (putAt value ((items[place]?).getD absent) rest))

/-- Whether a character may stand in a name that is part of a path. -/
def isPathChar (c : Char) : Bool :=
  c.isAlphanum || c = ' ' || c = '_' || c = '-'

/-- Reads a number of 64 signed bits between brackets; spaces and tabs around it do not count. -/
def index? (cs : List Char) : Option Int :=
  let blank (c : Char) : Bool := c = ' ' || c = '\t'
  let cs := ((cs.dropWhile blank).reverse.dropWhile blank).reverse
  let (negative, ds) :=
    match cs with
    | '-' :: rest => (true, rest)
    | rest => (false, rest)
  if ds.isEmpty || !ds.all Char.isDigit then none
  else
    let n : Int := Decimal.natOfDigits ds
    some (if negative then -n else n) |>.filter Decimal.fits64

/-- Reads the further steps of a `path`; `fuel` bounds their number. -/
def steps? : Nat → List Char → Option (List Step)
  | _, [] => some []
  | 0, _ => none
  | fuel + 1, '.' :: rest =>
    let name := rest.takeWhile isPathChar
    if name.isEmpty then none
    else (steps? fuel (rest.drop name.length)).map (.entry (String.ofList name) :: ·)
  | fuel + 1, '[' :: rest => do
    let inner := rest.takeWhile (· ≠ ']')
    let i ← index? inner
    match rest.drop inner.length with
    | ']' :: rest => (steps? fuel rest).map (.item i :: ·)
    | _ => none
  | _, _ => none

/-- The path that a name writes, such as `engine.initial_state`; a name that writes none is a step
by itself. -/
def path (name : String) : List Step :=
  let cs := name.toList
  let first := cs.takeWhile isPathChar
  match if first.isEmpty then none else steps? cs.length (cs.drop first.length) with
  | some rest => .entry (String.ofList first) :: rest
  | none => [.entry name]

/-- Lays the entries of `layer` over what the places before it gave; their names may be paths. -/
def layOver (base : Setting) (layer : Fields Setting) : Setting :=
  layer.foldl (fun base (name, value) => putAt value base (path name)) base

/-- The settings of all `layers` together, later ones over earlier ones. -/
def merged (layers : List (Fields Setting)) : Setting :=
  layers.foldl layOver (table [])

/-! ## Reading values -/

/-- The whole number that a text writes, with or without a sign. -/
def integer? (s : String) : Option Int :=
  let (negative, ds) := Decimal.splitSign s.toList
  if ds.isEmpty || !ds.all Char.isDigit then none
  else
    let n : Int := Decimal.natOfDigits ds
    some (if negative then -n else n)

/-- The whole number of 64 signed bits that a text writes. -/
def int64? (s : String) : Option Int :=
  (integer? s).filter Decimal.fits64

/-- The number of 64 bits that a text writes; no minus sign may stand before it. -/
def count? (s : String) : Option Nat :=
  if s.toList.head? = some '-' then none
  else ((integer? s).map Int.toNat).filter (· < UInt64.size)

/-- The truth value that a word stands for. -/
def word? (s : String) : Option Bool :=
  let s := Text.lower s
  if ["true", "on", "yes"].contains s then some true
  else if ["false", "off", "no"].contains s then some false
  else none

/-- A truth value: also a number other than zero, and a text that stands for one. -/
def asBool? : Setting → Option Bool
  | flag b => some b
  | whole n => some (n ≠ 0)
  | double x => some (x != 0)
  | text s => if s = "1" then some true else if s = "0" then some false else word? s
  | _ => none

/-- A number that is not negative: doubles are rounded, truth values count as one and zero. -/
def asCount? : Setting → Option Nat
  | flag b => some b.toNat
  | whole n => if 0 ≤ n then some n.toNat else none
  | double x => some (Decimal.roundHalfAway x).toUInt64.toNat
  | text s => ((word? s).map Bool.toNat).or (count? s)
  | _ => none

/-- A double: also a whole number, a truth value or a text that stands for one. -/
def asFloat? : Setting → Option Float
  | flag b => some (if b then 1 else 0)
  | whole n => some (Number.whole n).toFloat
  | double x => some x
  | text s => ((word? s).map fun b => if b then 1 else 0).or (Decimal.ofText? s)
  | _ => none

/-- A text: also that of a number or of a truth value. -/
def asText? : Setting → Option String
  | flag true => some "true"
  | flag false => some "false"
  | whole n => some (String.ofList (Decimal.intText n))
  | double x => some (Decimal.Layout.plain.text x)
  | text s => some s
  | _ => none

/-- The name of a case, by itself or as the only entry of a table, in lower case. -/
def asCase? : Setting → Option String
  | text s => some (Text.lower s)
  | table [(name, _)] => some (Text.lower name)
  | _ => none

/-- The values given for the fields `names`: the entries of a table, or the first items of a list.
-/
def fields? (names : List String) : Setting → Option (List (Option Setting))
  | table entries => some (names.map (Fields.get? entries))
  | list items => some ((List.range names.length).map (items[·]?))
  | _ => none

mutual

/-- The same value as JSON. -/
def toJson : Setting → Json
  | absent => .null
  | flag b => .bool b
  | whole n => .int n
  | double x => .ofFloat x
  | text s => .str s
  | list items => .arr (listToJson items)
  | table entries => .obj (tableToJson entries)

/-- The items of a list, each by `toJson`. -/
def listToJson : List Setting → List Json
  | [] => []
  | item :: items => toJson item :: listToJson items

/-- The entries of a table, each by `toJson`. -/
def tableToJson : List (String × Setting) → List (String × Json)
  | [] => []
  | (name, value) :: entries => (name, toJson value) :: tableToJson entries

end

instance : RecordValue Setting Option where
  given?
    | absent => some none
    | value => some (some value)
  fields? := fields?
  asItems?
    | list items => some items
    | _ => none
  asEntries?
    | table entries => some entries
    | _ => none
  asText? := asText?
  asBool? := asBool?
  asFloat? := asFloat?
  asCount? := asCount?
  asId? v := ((asCount? v).filter (· < UInt32.size)).map UInt32.ofNat
  asCase? := asCase?
  asJson? v := some v.toJson

end Setting

end Dunning
