import Dunning.Condition.Builtin
import Dunning.Condition.Expr

/-!
# Deciding conditions

An evaluator knows the built-in conditions and any predicates that were registered by name. Deciding
never fails: an expression that is malformed or uses an unknown name is false as a whole, and so is
a predicate that reports an error or crashes.
-/

namespace Dunning

/-- Why a predicate could not answer. -/
inductive ConditionError where
  | missingField (name : String)
  | invalidValue (field message : String)
  | failed (message : String)
deriving DecidableEq, Repr

/-- The wording of a `ConditionError`. -/
def ConditionError.message : ConditionError → String
  | missingField name => s!"Missing context field: {name}"
  | invalidValue field message => s!"Invalid value for {field}: {message}"
  | failed message => s!"Predicate failed: {message}"

/-- What came of asking a predicate: an answer, a `ConditionError` or a crash. -/
inductive Verdict where
  | answered (holds : Bool)
  | failed (error : ConditionError)
  | crashed

/-- A question about the context. -/
abbrev Predicate := Context → Verdict

/-- Registered predicates by name, in `custom`. -/
structure Evaluator where
  custom : Fields Predicate

namespace Evaluator

open Condition (Expr)

/-- The evaluator that knows the built-in conditions only. -/
def empty : Evaluator := ⟨[]⟩

/-- Registers `predicate` in place of an earlier one of that name. The names of built-in conditions
are taken; the second component says whether the predicate was accepted. -/
def register (ev : Evaluator) (name : String) (predicate : Predicate) : Evaluator × Bool :=
  if (Builtin.ofName? name).isSome then (ev, false)
  else (⟨Fields.insert ev.custom name predicate⟩, true)

/-- Registers the question whether the context field `name` counts as set. -/
def registerFlag (ev : Evaluator) (name : String) : Evaluator × Bool :=
  ev.register name fun ctx => .answered (ctx.isTruthy name)

/-- Whether the predicate name `name` is known. -/
def has (ev : Evaluator) (name : String) : Bool :=
  (Builtin.ofName? name).isSome || Fields.contains ev.custom name

/-- Every known predicate name, ascending. -/
def names (ev : Evaluator) : List String :=
  (Builtin.all.map Builtin.name ++ Fields.names ev.custom).mergeSort fun a b => decide (a ≤ b)

/-- The expression that `text` writes, if it is well formed and all of its names are known. -/
def resolve? (ev : Evaluator) (text : String) : Option Expr :=
  (Expr.ofText? text).filter fun e => e.names.all ev.has

/-- Whether `text` is a well-formed expression over known names. -/
def isKnown (ev : Evaluator) (text : String) : Bool :=
  (ev.resolve? text).isSome

/-- Whether the predicate `name` holds in `ctx`. -/
def holdsName (ev : Evaluator) (ctx : Context) (name : String) : Bool :=
  match Builtin.ofName? name with
  | some builtin => builtin.holds ctx
  | none =>
    match Fields.get? ev.custom name with
    | none => false
    | some predicate =>
      match predicate ctx with
      | .answered holds => holds
      | .failed _ => false
      | .crashed => false

/-- Whether the condition expression `text` holds in `ctx`. -/
def evaluate (ev : Evaluator) (text : String) (ctx : Context) : Bool :=
  match ev.resolve? text with
  | none => false
  | some e => e.eval (ev.holdsName ctx)

end Evaluator

end Dunning
