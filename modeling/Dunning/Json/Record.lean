import Dunning.Record

/-!
# Records in JSON

A record in JSON is an object, whose unknown members are ignored, or an array of its fields in
declared order, whose last items may be missing. Numbers are not converted, except that a whole
number is also taken for a double.
-/

namespace Dunning.Json

/-- The values given for the fields `names`, `none` for each that is absent. -/
def record? (names : List String) : Json → Option (List (Option Json))
  | obj members => some (names.map (Fields.get? members))
  | arr items =>
    if items.length ≤ names.length then
      some (items.map some ++ List.replicate (names.length - items.length) none)
    else none
  | _ => none

/-- A truth value. -/
def asBool? : Json → Option Bool
  | bool b => some b
  | _ => none

/-- A double; whole numbers are taken for their nearest double by `Number.toFloat`. -/
def asFloat? : Json → Option Float
  | num n => some n.toFloat
  | _ => none

/-- A whole number from zero up to, but not including, `limit`. -/
def asNatBelow? (limit : Nat) : Json → Option Nat
  | num (.whole n) => if 0 ≤ n ∧ n < limit then some n.toNat else none
  | _ => none

/-- A whole number of 32 bits. -/
def asUInt32? (value : Json) : Option UInt32 :=
  (asNatBelow? UInt32.size value).map UInt32.ofNat

/-- A whole number of 64 bits. -/
def asCount? : Json → Option Nat :=
  asNatBelow? UInt64.size

/-- The members of an object. -/
def asMembers? : Json → Option (Fields Json)
  | obj members => some members
  | _ => none

/-- The name of a case, by itself or as the only member of an object, which is `null`. -/
def asCase? : Json → Option String
  | str name => some name
  | obj [(name, null)] => some name
  | _ => none

/-- A value, unless it is `null`. -/
def nonNull? : Json → Option Json
  | null => none
  | value => some value

instance : RecordValue Json Option where
  given? value := some value.nonNull?
  fields? := record?
  asItems? := asArray?
  asEntries? := asMembers?
  asText? := asString?
  asBool? := asBool?
  asFloat? := asFloat?
  asCount? := asCount?
  asId? := asUInt32?
  asCase? := asCase?
  asJson? := some

/-- Reading back a whole number of 32 bits that `int` wrote. -/
@[simp] theorem asUInt32?_int (n : UInt32) : asUInt32? (int n.toNat) = some n := by
  have h : n.toNat < UInt32.size := n.toNat_lt
  simp only [asUInt32?, int, asNatBelow?]
  rw [if_pos (by omega)]
  simp

end Dunning.Json
