import Dunning.Fields
import Dunning.Decimal.Layout
import Dunning.Decimal.Reader

/-!
# JSON values

Whole numbers and doubles are kept apart: `1` and `1.0` are different values with different texts.
Objects are `Fields`, so their members are in ascending order of the names.
-/

namespace Dunning

/-- A JSON number: a whole number from `-2^63` to `2^64 - 1`, or a finite double. -/
inductive Number where
  | whole (n : Int)
  | double (x : Float)

namespace Number

/-- The nearest double. -/
def toFloat : Number → Float
  | whole n => if n < 0 then -Float.ofNat n.natAbs else Float.ofNat n.natAbs
  | double x => x

/-- Whole numbers are equal to whole numbers only, doubles to doubles only. -/
protected def beq : Number → Number → Bool
  | whole m, whole n => m == n
  | double x, double y => x == y
  | _, _ => false

instance : BEq Number := ⟨Number.beq⟩

/-- The text of a number inside JSON, a double in `Decimal.Layout.json`. -/
def textList : Number → List Char
  | whole n => Decimal.intText n
  | double x => Decimal.Layout.json.textList x

end Number

/-- A JSON value. -/
inductive Json where
  | null
  | bool (b : Bool)
  | num (n : Number)
  | str (s : String)
  | arr (items : List Json)
  | obj (members : List (String × Json))

namespace Json

mutual

/-- Equality of values, with `Number.beq` for numbers. -/
protected def beq : Json → Json → Bool
  | null, null => true
  | bool a, bool b => a == b
  | num a, num b => a == b
  | str a, str b => a == b
  | arr a, arr b => Json.beqItems a b
  | obj a, obj b => Json.beqMembers a b
  | _, _ => false

/-- Equality of lists of values, each by `Json.beq`. -/
protected def beqItems : List Json → List Json → Bool
  | [], [] => true
  | a :: as, b :: bs => Json.beq a b && Json.beqItems as bs
  | _, _ => false

/-- Equality of lists of members: equal names, and values by `Json.beq`. -/
protected def beqMembers : List (String × Json) → List (String × Json) → Bool
  | [], [] => true
  | (k, a) :: as, (l, b) :: bs => k == l && Json.beq a b && Json.beqMembers as bs
  | _, _ => false

end

instance : BEq Json := ⟨Json.beq⟩

/-- The whole number `n` as a value. -/
def int (n : Int) : Json := num (.whole n)

/-- The count `n` as a value. -/
def nat (n : Nat) : Json := num (.whole n)

/-- A double as a value; infinities and what is not a number have no JSON form and become `null`. -/
def ofFloat (x : Float) : Json :=
  if Decimal.isFinite x then num (.double x) else null

/-- An object with the given `members` in any order. -/
def ofMembers (members : List (String × Json)) : Json :=
  obj (Fields.ofList members)

/-- An optional value, `null` when absent. -/
def ofOption {α : Type} (f : α → Json) : Option α → Json
  | none => null
  | some a => f a

/-- The text of a string value. -/
def asString? : Json → Option String
  | str s => some s
  | _ => none

/-- The items of an array value. -/
def asArray? : Json → Option (List Json)
  | arr items => some items
  | _ => none

/-- The member of an object value under `name`. -/
def member? : Json → String → Option Json
  | obj members, name => Fields.get? members name
  | _, _ => none

/-- The whole number of a number value, when it `fits64`. -/
def asInt64? : Json → Option Int
  | num (.whole n) => if Decimal.fits64 n then some n else none
  | _ => none

/-- Whether a value counts as set: `null`, `false`, zero, the empty text and empty collections do
not. -/
def isTruthy : Json → Bool
  | null => false
  | bool b => b
  | num n => n.toFloat != 0
  | str s => s != ""
  | arr items => !items.isEmpty
  | obj members => !members.isEmpty

end Json

end Dunning
