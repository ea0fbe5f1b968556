import Dunning.Text.Blank

/-!
# Kinds of actions

Flows name actions by text. The text is read once, blanks around it aside: it names one of the
actions that are always there, or one of the application's own.
-/

namespace Dunning

/-- What an action does. -/
inductive ActionKind where
  | runQuery
  | sendTemplate
  | createPaymentPlans
  | generateProposal
  | verifyContact
  | scheduleReminder
  | escalateSupervisor
  | custom (name : String)
deriving DecidableEq, Repr

namespace ActionKind

/-- The kinds that are always there, all but `custom`. -/
def builtins : List ActionKind :=
  [runQuery, sendTemplate, createPaymentPlans, generateProposal, verifyContact, scheduleReminder,
    escalateSupervisor]

/-- The name that flows use. -/
def name : ActionKind → String
  | runQuery => "run_query"
  | sendTemplate => "send_template"
  | createPaymentPlans => "crear_planes_pago"
  | generateProposal => "generar_propuesta"
  | verifyContact => "verificar_contacto"
  | scheduleReminder => "enviar_recordatorio"
  | escalateSupervisor => "escalar_supervisor"
  | custom name => name

/-- The kind with a given `name`. -/
def ofName (name : String) : ActionKind :=
  (builtins.find? (·.name = name)).getD (custom name)

/-- The kind that `text` names once it is trimmed. -/
def ofText (text : String) : ActionKind :=
  ofName (Text.trim text)

/-- Whether the action is one of the application's own (`custom`). -/
def isCustom : ActionKind → Bool
  | custom _ => true
  | _ => false

end ActionKind

end Dunning
