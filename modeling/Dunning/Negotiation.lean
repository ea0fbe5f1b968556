import Dunning.Action.Query
import Dunning.Flow.Definition

/-!
# The negotiation flow

The flow that agents come with: a customer gives a document number, hears of the debt, is offered
payment plans, and agrees to one or is handed over to a supervisor. Every state but the last one
has a transition without a condition after all others, so a message is always taken there. The
customer records answer the one query that the flow makes.
-/

namespace Dunning.Negotiation

/-- The states, numbered from one on, with `start` first. -/
def states : List FlowState :=
  [⟨1, "start"⟩, ⟨2, "validar_documento"⟩, ⟨3, "informar_deuda"⟩, ⟨4, "proponer_planes_pago"⟩,
    ⟨5, "gestionar_objecion"⟩, ⟨6, "generar_acuerdo"⟩, ⟨7, "escalamiento"⟩, ⟨8, "fin"⟩]

/-- The customer has given a document number. -/
def documentGiven : FlowCondition := ⟨1, "tiene_documento_valido"⟩

/-- The customer has chosen a plan. -/
def planChosen : FlowCondition := ⟨2, "cliente_selecciona_plan"⟩

/-- The customer is frustrated. -/
def frustrated : FlowCondition := ⟨3, "cliente_muestra_frustracion"⟩

/-- The customer is `frustrated`, and not for the first time. -/
def frustratedAgain : FlowCondition :=
  ⟨4, "cliente_muestra_frustracion and not primera_conversacion"⟩

/-- The customer is known. -/
def customerFound : FlowCondition := ⟨5, "cliente_encontrado"⟩

/-- The conditions that `transitions` refer to. -/
def conditions : List FlowCondition :=
  [documentGiven, planChosen, frustrated, frustratedAgain, customerFound]

/-- An action that sends a reply by the template `template`. -/
def reply (id : UInt32) (name template : String) : FlowAction :=
  ⟨id, name, "send_template", .ofMembers [("template", .str template)]⟩

/-- Greets and asks for a document number. -/
def greeting : FlowAction :=
  reply 1 "saludo" <|
    "Hola, soy el asistente virtual de cobranza. Para continuar, indíqueme su número de "
      ++ "cédula."

/-- The query that the flow makes. -/
def customerQuery : String := "cliente_por_documento"

/-- Looks the customer up by the document number, with `customerQuery`. -/
def lookup : FlowAction :=
  ⟨2, "consultar_cliente", "run_query",
    .ofMembers [("query", .str customerQuery), ("params", .arr [.str "documento"])]⟩

/-- Asks for the document number again. -/
def askDocument : FlowAction :=
  reply 3 "pedir_documento"
    "No logré identificar su documento. Escríbalo sin puntos ni espacios, por favor."

/-- Makes the payment plans. -/
def offerPlans : FlowAction := ⟨4, "crear_planes", "crear_planes_pago", .null⟩

/-- Schedules a reminder for the next day. -/
def remind : FlowAction :=
  ⟨5, "programar_recordatorio", "enviar_recordatorio", .ofMembers [("delay_hours", .int 24)]⟩

/-- Hands over to a supervisor. -/
def escalate : FlowAction := ⟨6, "escalar", "escalar_supervisor", .null⟩

/-- Makes a proposal to a customer who objects. -/
def propose : FlowAction := ⟨7, "propuesta_personalizada", "generar_propuesta", .null⟩

/-- Names the plans again. -/
def recallPlans : FlowAction :=
  reply 8 "recordar_planes" <|
    "Tenemos tres opciones: 1) pago único con descuento, 2) dos cuotas sin interés, 3) seis "
      ++ "cuotas. ¿Cuál prefiere?"

/-- Confirms an agreement. -/
def confirm : FlowAction :=
  reply 9 "confirmar_acuerdo" <|
    "Gracias \x7bnombre\x7d, su acuerdo quedó registrado. Le enviaremos un recordatorio por "
      ++ "\x7bcanal\x7d."

/-- Takes leave of a customer who was handed over. -/
def farewell : FlowAction :=
  reply 10 "despedida_supervisor" <|
    "Un asesor (\x7bsupervisor_asignado\x7d) se comunicará con usted. Radicado "
      ++ "\x7bescalamiento_id\x7d."

/-- The actions that `transitions` refer to. -/
def actions : List FlowAction :=
  [greeting, lookup, askDocument, offerPlans, remind, escalate, propose, recallPlans, confirm,
    farewell]

/-- The transitions, those of a state in the order in which they are tried. -/
def transitions : List FlowTransition :=
  [⟨1, 1, none, some 1, 2⟩,
    ⟨2, 2, some 1, some 2, 3⟩, ⟨3, 2, none, some 3, 2⟩,
    ⟨4, 3, some 3, some 7, 5⟩, ⟨5, 3, some 5, some 4, 4⟩, ⟨6, 3, none, some 3, 2⟩,
    ⟨7, 4, some 4, some 6, 7⟩, ⟨8, 4, some 3, some 7, 5⟩, ⟨9, 4, some 2, some 5, 6⟩,
    ⟨10, 4, none, some 8, 4⟩,
    ⟨11, 5, some 2, some 5, 6⟩, ⟨12, 5, some 3, some 6, 7⟩, ⟨13, 5, none, some 4, 4⟩,
    ⟨14, 6, none, some 9, 8⟩,
    ⟨15, 7, none, some 10, 8⟩]

/-- The flow of `states`, `conditions`, `actions` and `transitions`. -/
def flow : FlowDefinition :=
  { states, conditions, actions, transitions }

/-- A customer who owes much. -/
def ana : Fields Json :=
  Fields.ofList [("nombre", .str "Ana Martínez"), ("saldo", .int 2500000),
    ("conversaciones_previas", .int 0), ("canal_preferido", .str "whatsapp"),
    ("telefono", .str "3001234567"), ("email", .str "ana.martinez@example.com")]

/-- A customer who was talked to before. -/
def luis : Fields Json :=
  Fields.ofList [("nombre", .str "Luis Gómez"), ("saldo", .int 850),
    ("conversaciones_previas", .int 3), ("canal_preferido", .str "sms"),
    ("telefono", .str "310555")]

/-- The records of customers, by their document numbers, for `customerQuery`. -/
def customers : QueryTables :=
  (QueryTables.withRow {} customerQuery "documento" "93388915" ana).withRow
    customerQuery "documento" "1020304050" luis

end Dunning.Negotiation
