import Dunning.Action.Call
import Dunning.Action.Kind

/-!
# The registry of actions

The registry finds the handler for an action and bounds its time. A handler works for a while and
then ends; when its time is up, or when the caller stops waiting, it is stopped, and what it would
have done after its wait never happens. A limit of no time at all stops a handler before it starts.
-/

namespace Dunning

/-- How a handler ends when it is not stopped. -/
inductive Ending where
  | answered (result : Except ActionError (Fields Json))
  | crashed

/-- What a handler does with a call: its effects before and after a wait, and its `Ending`. -/
structure Work where
  opening : List String := []
  seconds : Nat := 0
  closing : List String := []
  ending : Ending

/-- The work of a handler that answers at once. -/
def Work.immediate (result : Except ActionError (Fields Json)) : Work :=
  { ending := .answered result }

/-- A way to carry out a kind of action. -/
structure Handler where
  /-- The time limit in seconds, if the handler has one of its own. -/
  limit : Option Nat := none
  run : Circumstances → Json → Context → Work

/-- The handler that answers at once with what `run` gives. -/
def Handler.immediate (run : Circumstances → Json → Context → Except ActionError (Fields Json)) :
    Handler :=
  { run := fun around payload ctx => .immediate (run around payload ctx) }

/-- What is seen of the work `w` of the named action under a time limit, by a caller who waits only
so long. -/
def Work.observe (w : Work) (action : String) (limit : Nat) (patience : Option Nat) : Execution :=
  let started := decide (0 < limit) && patience.all (0 < ·)
  let opening := if started then w.opening else []
  if decide (w.seconds < limit) && patience.all (w.seconds < ·) then
    { effects := opening ++ w.closing
      reply :=
        match w.ending with
        | .answered (.ok changes) => .delta changes
        | .answered (.error error) => .failed error
        | .crashed => .failed (.failed s!"{action} panicked") }
  else if patience.all (limit ≤ ·) then
    { effects := opening, reply := .failed (.timeout action limit) }
  else { effects := opening, reply := .abandoned }

/-- Handlers by the `ActionKind` that they carry out. -/
structure Registry where
  handlers : List (ActionKind × Handler) := []
  /-- The time limit in seconds of handlers that have none of their own. -/
  defaultLimit : Nat := 30

namespace Registry

/-- Sets the default time limit, which is at least one second. -/
def withLimit (r : Registry) (seconds : Nat) : Registry :=
  { r with defaultLimit := max seconds 1 }

/-- The handler of a kind. -/
def get? (r : Registry) (kind : ActionKind) : Option Handler :=
  (r.handlers.find? (·.1 = kind)).map (·.2)

/-- Registers `handler` in place of an earlier one of its kind. -/
def register (r : Registry) (kind : ActionKind) (handler : Handler) : Registry :=
  { r with handlers := (kind, handler) :: r.handlers.filter (·.1 ≠ kind) }

/-- Whether an action of the given `type` can be carried out. -/
def has (r : Registry) (type : String) : Bool :=
  (r.get? (.ofText type)).isSome

/-- The number of kinds that can be carried out. -/
def size (r : Registry) : Nat :=
  r.handlers.length

/-- The names of the kinds that can be carried out, ascending. -/
def types (r : Registry) : List String :=
  (r.handlers.map (·.1.name)).mergeSort fun a b => decide (a ≤ b)

/-- Carries out an action by the handler of its kind, under the handler's own limit or
`defaultLimit`. -/
def execute (r : Registry) : Executor := fun around call =>
  let kind := ActionKind.ofText call.type
  match r.get? kind with
  | none => { effects := [], reply := .failed (.unknownAction call.type) }
  | some handler =>
    (handler.run around call.payload call.context).observe kind.name
      (handler.limit.getD r.defaultLimit) around.patience

end Registry

end Dunning
