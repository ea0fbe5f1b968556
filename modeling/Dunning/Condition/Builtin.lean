import Dunning.Context
import Dunning.Document
import Dunning.Text.Search

/-!
# Conditions that every flow may use

Five questions about the context that need no registration.
-/

namespace Dunning

/-- A condition that is always known. -/
inductive Builtin where
  /-- The customer has chosen a payment plan. -/
  | planSelected
  /-- The message shows frustration. -/
  | showsFrustration
  /-- A document number is known or mentioned. -/
  | hasValidDocument
  /-- The balance is above the threshold. -/
  | balanceAboveThreshold
  /-- There has been no earlier conversation. -/
  | firstConversation
deriving DecidableEq, Repr

namespace Builtin

/-- All of them. -/
def all : List Builtin :=
  [planSelected, showsFrustration, hasValidDocument, balanceAboveThreshold, firstConversation]

/-- The name that flows use for the condition. -/
def name : Builtin → String
  | planSelected => "cliente_selecciona_plan"
  | showsFrustration => "cliente_muestra_frustracion"
  | hasValidDocument => "tiene_documento_valido"
  | balanceAboveThreshold => "saldo_mayor_1000"
  | firstConversation => "primera_conversacion"

/-- The condition with the name `s`. -/
def ofName? (s : String) : Option Builtin :=
  all.find? fun b => b.name = s

@[simp] theorem ofName?_name (b : Builtin) : ofName? b.name = some b := by
  cases b <;> decide

theorem name_of_ofName? {s : String} {b : Builtin} (h : ofName? s = some b) : b.name = s := by
  simpa using List.find?_some h

/-- Phrases that choose a plan. -/
def planPhrases : List String :=
  ["1", "2", "3", "uno", "dos", "tres", "primero", "segundo", "tercero", "pago único", "cuotas",
    "plan"]

/-- Phrases that show frustration. -/
def frustrationPhrases : List String :=
  ["no puedo", "imposible", "no tengo", "dificil", "problema", "no entiendo", "complicado", "ayuda",
    "perdido", "confundido", "no sé"]

/-- The least `documentLength` of a valid document number. -/
def minDocumentLength : Nat := 7

/-- The balance above which a debt counts as high. -/
def balanceThreshold : Float := 1000

/-- The length of the document number in `ctx`, zero when there is none. -/
def documentLength (ctx : Context) : Nat :=
  match ctx.get? "documento" with
  | some (.str s) => (Text.trimList s.toList).length
  | some (.num n) => n.textList.length
  | _ => 0

/-- Whether the condition holds in `ctx`. -/
def holds (ctx : Context) : Builtin → Bool
  | planSelected =>
    ctx.isTruthy "plan_seleccionado" || Text.mentionsAny ctx.message planPhrases
  | showsFrustration => Text.mentionsAny ctx.message frustrationPhrases
  | hasValidDocument =>
    decide (minDocumentLength ≤ documentLength ctx) || Document.isMentioned ctx.message
  | balanceAboveThreshold =>
    match ctx.number? "saldo" with
    | some balance => decide (balance > balanceThreshold)
    | none => false
  | firstConversation =>
    match ctx.get? "conversaciones_previas" with
    | none => true
    | some .null => true
    | some (.num n) => n.toFloat == 0
    | some _ => false

end Builtin

end Dunning
