import Dunning.Json.Basic

/-!
# Records

How typed records are read from values of some notation: JSON, a YAML document, or settings merged
from several places. The notations differ in what they take for a text, a number or a record, and
that is what an instance of `RecordValue` says. What an absent field means is the same in all of
them and is said here: an error, a default, or nothing.

Reading may fail, so it happens in `Option`, or in a monad above it where reading one value can have
consequences for the next: in YAML every alias that is followed counts against a limit.
-/

namespace Dunning

/-- Values of a notation that records are read from, in a monad `m` that may fail. -/
class RecordValue (ν : Type) (m : outParam (Type → Type)) where
  /-- The value itself, unless it stands for an absent one. -/
  given? : ν → m (Option ν)
  /-- The values given for the named fields of a record, in that order, `none` for each that is
  absent. -/
  fields? : List String → ν → m (List (Option ν))
  /-- The items of a list. -/
  asItems? : ν → m (List ν)
  /-- The entries of a map. -/
  asEntries? : ν → m (Fields ν)
  /-- A text. -/
  asText? : ν → m String
  /-- A truth value. -/
  asBool? : ν → m Bool
  /-- A double. -/
  asFloat? : ν → m Float
  /-- A whole number of 64 bits. -/
  asCount? : ν → m Nat
  /-- A whole number of 32 bits. -/
  asId? : ν → m UInt32
  /-- The name of one of finitely many cases. -/
  asCase? : ν → m String
  /-- Any value at all. -/
  asJson? : ν → m Json

namespace RecordValue

variable {ν α : Type} {m : Type → Type} [Monad m] [MonadExceptOf Unit m]

/-- What there is of something, or failure when there is `none`. -/
def orFail : Option α → m α
  | some a => return a
  | none => throw ()

/-- A field that must be given, read by `decode`. -/
def required (decode : ν → m α) : Option ν → m α
  | none => throw ()
  | some value => decode value

/-- A field with the default `fallback`, read by `decode` when it is given. -/
def defaulted (fallback : α) (decode : ν → m α) : Option ν → m α
  | none => return fallback
  | some value => decode value

variable [RecordValue ν m]

/-- A field that may be absent, read by `decode` when it is given. -/
def optional (decode : ν → m α) : Option ν → m (Option α)
  | none => return none
  | some value => do (← given? value).mapM decode

/-- A list whose items are all readable by `decode`. -/
def asListOf? (decode : ν → m α) (value : ν) : m (List α) := do
  (← asItems? value).mapM decode

/-- A map whose values are all readable by `decode`. -/
def asFieldsOf? (decode : ν → m α) (value : ν) : m (Fields α) := do
  (← asEntries? value).mapM fun (name, value) => do return (name, ← decode value)

end RecordValue

end Dunning
