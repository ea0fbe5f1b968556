import Dunning.Action.Contact
import Dunning.Action.Payment
import Dunning.Action.Query

/-!
# The standard registry

Every action that is always there. Queries fail until there is a backend to answer them.
-/

namespace Dunning.Registry

/-- What an action of each of the `ActionKind.builtins` answers to a payload in a context. -/
def standardAnswer (backend : Option QueryBackend) (around : Circumstances) (payload : Json)
    (ctx : Context) : ActionKind → Except ActionError (Fields Json)
  | .runQuery => Action.runQuery backend payload ctx
  | .sendTemplate => Action.sendTemplate payload ctx
  | .createPaymentPlans => Action.createPaymentPlans ctx
  | .generateProposal => Action.generateProposal ctx
  | .verifyContact => Action.verifyContact ctx
  | .scheduleReminder => Action.scheduleReminder around.now payload ctx
  | .escalateSupervisor => Action.escalateSupervisor around.token payload
  | .custom name => .error (.unknownAction name)

/-- The handler of each of the `ActionKind.builtins`; it answers at once. -/
def standardHandler (backend : Option QueryBackend) (kind : ActionKind) : Handler :=
  .immediate fun around payload ctx => standardAnswer backend around payload ctx kind

/-- The registry of all actions that are always there. -/
def standard (backend : Option QueryBackend) : Registry :=
  ActionKind.builtins.foldl (fun r kind => r.register kind (standardHandler backend kind)) {}

end Dunning.Registry
