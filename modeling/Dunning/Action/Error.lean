/-!
# Action errors

What can keep an action from giving a result.
-/

namespace Dunning

/-- Why an action gave no result. -/
inductive ActionError where
  | unknownAction (type : String)
  | invalidPayload (action message : String)
  | unavailable (message : String)
  | failed (message : String)
  | timeout (action : String) (seconds : Nat)
  | cancelled (action : String)
deriving DecidableEq, Repr

/-- The wording of an `ActionError`. -/
def ActionError.message : ActionError → String
  | unknownAction type => s!"Unknown action type: {type}"
  | invalidPayload action message => s!"Invalid payload for {action}: {message}"
  | unavailable message => s!"Action backend unavailable: {message}"
  | failed message => s!"Action failed: {message}"
  | timeout action seconds => s!"Action {action} timed out after {seconds}s"
  | cancelled action => s!"Action {action} was cancelled"

end Dunning
