import Dunning.Action.Error
import Dunning.Context
import Dunning.Timestamp

/-!
# Calling actions

What an action is asked, what the outside world adds to it, and what comes of it. An execution lists
the effects that took place, also those of a handler that was stopped half way, and what the caller
learned: the fields to change, an error, or nothing when the caller stopped waiting.
-/

namespace Dunning

/-- What an action is asked to do: its type as a flow writes it, with the payload and the context.
-/
structure ActionCall where
  type : String
  payload : Json
  context : Context

/-- What the outside world supplies while a message is handled. -/
structure Circumstances where
  /-- The time. -/
  now : Timestamp
  /-- A fresh random number in 32 hexadecimal digits. -/
  token : String
  /-- The caller stops waiting after so many seconds; with `none` it waits for ever. -/
  patience : Option Nat := none
  /-- How long it takes in all, in milliseconds. -/
  elapsedMs : Float := 0

/-- What a caller learns of an `ActionCall`. -/
inductive Reply where
  | delta (changes : Fields Json)
  | failed (error : ActionError)
  | abandoned

/-- What came of an `ActionCall`. -/
structure Execution where
  effects : List String
  reply : Reply

/-- Something that carries out actions: the `Execution` that it gives for each call. -/
abbrev Executor := Circumstances → ActionCall → Execution

end Dunning
