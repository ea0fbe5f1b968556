import Dunning.Json.Basic
import Dunning.Decimal.Reader
import Dunning.Text.Blank

/-!
# The context of a conversation

What is known about a customer so far: fields with JSON values. Conditions and actions agree on the
names. The latest message is one of the fields; older flows keep it under another name.
-/

namespace Dunning

/-- The fields known in a conversation. -/
structure Context where
  fields : Fields Json

namespace Context

/-- The field that holds the latest message. -/
def messageKey : String := "message"

/-- The field that older flows use in place of `messageKey`. -/
def oldMessageKey : String := "mensaje"

/-- The context that knows nothing. -/
def empty : Context := ⟨[]⟩

instance : EmptyCollection Context := ⟨empty⟩

/-- The value of the field `name`. -/
def get? (ctx : Context) (name : String) : Option Json :=
  Fields.get? ctx.fields name

/-- The text of the field `name` if it holds one. -/
def text? (ctx : Context) (name : String) : Option String :=
  (ctx.get? name).bind Json.asString?

/-- The number in the field `name`: a number, a numeric text between blanks, or a truth value. -/
def number? (ctx : Context) (name : String) : Option Float :=
  match ctx.get? name with
  | some (.num n) => some n.toFloat
  | some (.str s) => Decimal.ofTextList? (Text.trimList s.toList)
  | some (.bool b) => some (if b then 1 else 0)
  | _ => none

/-- Whether the field `name` has a value. -/
def contains (ctx : Context) (name : String) : Bool :=
  Fields.contains ctx.fields name

/-- Sets the field `name` to `value`. -/
def insert (ctx : Context) (name : String) (value : Json) : Context :=
  ⟨Fields.insert ctx.fields name value⟩

/-- Forgets the field `name`. -/
def erase (ctx : Context) (name : String) : Context :=
  ⟨Fields.erase ctx.fields name⟩

/-- Overwrites fields by the ones in `delta`. -/
def merge (ctx : Context) (delta : Fields Json) : Context :=
  ⟨Fields.merge ctx.fields delta⟩

/-- The latest message: under `messageKey`, else under `oldMessageKey`, else empty. -/
def message (ctx : Context) : String :=
  ((ctx.text? messageKey).or (ctx.text? oldMessageKey)).getD ""

/-- Stores the latest message under `messageKey`. -/
def setMessage (ctx : Context) (message : String) : Context :=
  ctx.insert messageKey (.str message)

/-- The context that knows a message only. -/
def ofMessage (message : String) : Context :=
  empty.setMessage message

/-- Whether the field `name` is present and counts as set. -/
def isTruthy (ctx : Context) (name : String) : Bool :=
  match ctx.get? name with
  | some value => value.isTruthy
  | none => false

/-- The number of fields. -/
def size (ctx : Context) : Nat :=
  ctx.fields.length

/-- The context as an object. -/
def toJson (ctx : Context) : Json :=
  .obj ctx.fields

/-- The context that an object describes. -/
def ofJson? : Json → Option Context
  | .obj members => some ⟨members⟩
  | _ => none

@[simp] theorem get?_insert_self (ctx : Context) (name : String) (value : Json) :
    (ctx.insert name value).get? name = some value :=
  Fields.get?_insert_self ctx.fields name value

theorem get?_insert_of_ne (ctx : Context) {name other : String} (value : Json)
    (h : other ≠ name) : (ctx.insert name value).get? other = ctx.get? other :=
  Fields.get?_insert_of_ne ctx.fields value h

theorem get?_insert (ctx : Context) (name other : String) (value : Json) :
    (ctx.insert name value).get? other = if other = name then some value else ctx.get? other :=
  Fields.get?_insert ctx.fields name other value

@[simp] theorem insert_insert_self (ctx : Context) (name : String) (value other : Json) :
    (ctx.insert name other).insert name value = ctx.insert name value := by
  simp [insert]

/-- Different fields can be set in either order. -/
theorem insert_comm (ctx : Context) {name other : String} (h : name ≠ other)
    (value value' : Json) :
    (ctx.insert name value).insert other value' = (ctx.insert other value').insert name value := by
  simp [insert, Fields.insert_comm ctx.fields h]

/-- A field that `merge` sets has its last new value, or else its old one. -/
theorem get?_merge (ctx : Context) (delta : Fields Json) (name : String) :
    (ctx.merge delta).get? name = (Fields.get? delta.reverse name).or (ctx.get? name) :=
  Fields.get?_merge ctx.fields delta name

@[simp] theorem message_setMessage (ctx : Context) (message : String) :
    (ctx.setMessage message).message = message := by
  simp [Context.message, setMessage, text?, Json.asString?]

end Context

end Dunning
