import Dunning.Condition.Builtin
import Dunning.Decision

/-!
# Routing by rule

The intention of a message typed by a customer, found by fixed rules: a document number is handed
over before anything else, frustration comes before the choice of a plan, and the rest is small
talk.
-/

namespace Dunning.Routing

/-- The context field that holds the document number. -/
def documentKey : String := "documento"

/-- The intention of `message`, from its document number or the phrases it mentions. -/
def intention (message : String) : String :=
  if (Document.extract? message).isSome then "entregar_documento"
  else
    let ctx := Context.ofMessage message
    if Builtin.showsFrustration.holds ctx then "objecion"
    else if Builtin.planSelected.holds ctx then "seleccionar_plan"
    else "conversacion"

/-- The decision by rule for the `intention` of `message`. -/
def route (message : String) : Decision :=
  .byRule (intention message)

end Dunning.Routing
