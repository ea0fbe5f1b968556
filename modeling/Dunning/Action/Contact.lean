import Dunning.Action.Reply

/-!
# Contact and follow-up

Checking how a customer can be reached, scheduling a reminder, and handing over to a supervisor.
-/

namespace Dunning.Action

/-- The least length of a telephone number. -/
def minPhoneLength : Nat := 10

/-- The channel for customers who prefer none. -/
def defaultChannel : String := "whatsapp"

/-- The hours until a reminder, unless the payload says otherwise under `delay_hours`. -/
def defaultDelayHours : Nat := 24

/-- The supervisor, unless the payload names another. -/
def defaultSupervisor : String := "Supervisor_001"

/-- Checks the telephone number and the address in `ctx`. -/
def verifyContact (ctx : Context) : Except ActionError (Fields Json) :=
  let phone := (ctx.text? "telefono").any fun s =>
    minPhoneLength ≤ (Text.trimList s.toList).length
  let email := (ctx.text? "email").any fun s => s.toList.contains '@'
  .ok (Fields.ofList [("telefono_valido", .bool phone), ("email_valido", .bool email),
    ("requiere_actualizacion", .bool !(phone && email))])

/-- The hours until a reminder, from `delay_hours`; none when the payload gives no whole number that
is at least zero. -/
def delayHours? (payload : Json) : Option Nat :=
  match payload.member? "delay_hours" with
  | none => some defaultDelayHours
  | some .null => some defaultDelayHours
  | some value => (value.asInt64?.filter (0 ≤ ·)).map Int.toNat

/-- The channel that the customer of `ctx` prefers, or `defaultChannel`. -/
def channel (ctx : Context) : String :=
  ((ctx.text? "canal_preferido").filter fun s => !(Text.trimList s.toList).isEmpty).getD
    defaultChannel

/-- Schedules a reminder `delayHours?` after `now`. -/
def scheduleReminder (now : Timestamp) (payload : Json) (ctx : Context) :
    Except ActionError (Fields Json) :=
  let refuse (message : String) : Except ActionError (Fields Json) :=
    .error (.invalidPayload ActionKind.scheduleReminder.name message)
  match delayHours? payload with
  | none => refuse "delay_hours must be a non-negative integer"
  | some hours =>
    match now.addHours? hours with
    | none => refuse s!"delay_hours {hours} is out of range"
    | some time =>
      .ok (Fields.ofList [("recordatorio_programado", .bool true), ("canal", .str (channel ctx)),
        ("recordatorio_en", .str time.offsetText)])

/-- The number of an escalation: eight digits of the fresh random number `token`, in capitals. -/
def escalationId (token : String) : String :=
  String.ofList (['E', 'S', 'C'] ++ (token.toList.take 8).map Char.toUpper)

/-- Hands over to a supervisor, `defaultSupervisor` unless the payload names another. -/
def escalateSupervisor (token : String) (payload : Json) : Except ActionError (Fields Json) :=
  .ok (Fields.ofList [("escalado", .bool true),
    ("supervisor_asignado", .str ((textMember? payload "supervisor").getD defaultSupervisor)),
    ("escalamiento_id", .str (escalationId token))])

end Dunning.Action
