import Dunning.Action.Registry
import Dunning.Template

/-!
# Sending a reply

The reply is the payload's template, filled in from the context. It is stored in the context under
a name that the payload may choose.
-/

namespace Dunning.Action

/-- The text of the member `name` of an object, if it is one. -/
def textMember? (payload : Json) (name : String) : Option String :=
  (payload.member? name).bind Json.asString?

/-- The field that takes the reply, unless the payload names another by `output_key`. -/
def replyKey : String := "respuesta"

/-- The template of a payload: the payload itself when it is a text, else its member `template`. -/
def template? : Json → Option String
  | .str s => some s
  | payload => textMember? payload "template"

/-- Fills in the template of `payload` from `ctx`. -/
def sendTemplate (payload : Json) (ctx : Context) : Except ActionError (Fields Json) :=
  match template? payload with
  | none => .error (.invalidPayload ActionKind.sendTemplate.name "template is required")
  | some template =>
    let key := (textMember? payload "output_key").getD replyKey
    .ok [(key, .str (Template.render template ctx))]

end Dunning.Action
