import Dunning.Action.Registry
import Dunning.Decimal.Binary

/-!
# Payment plans

Both actions derive amounts from the balance in the context, which may be a number or a numeric
text, and round them to cents.
-/

namespace Dunning.Action

/-- The balance of which plans are made when none is known. -/
def defaultPlanBalance : Float := 15000

/-- The share taken off a single payment. -/
def singlePaymentDiscount : Float := 0.30

/-- The balance `saldo` in a context, `fallback` when there is none; none when what is there is no
finite number. -/
def balance? (ctx : Context) (fallback : Float) : Option Float :=
  match ctx.get? "saldo" with
  | none => some fallback
  | some .null => some fallback
  | some _ => (ctx.number? "saldo").filter Decimal.isFinite

/-- An amount rounded to cents, by `Decimal.roundHalfAway`. -/
def money (amount : Float) : Json :=
  .ofFloat (Decimal.roundHalfAway (amount * 100) / 100)

/-- The three standard plans for the balance `saldo`. -/
def plans (saldo : Float) : Json :=
  .ofMembers [
    ("plan_1", .ofMembers [("tipo", .str "Pago único con descuento"),
      ("monto", money (saldo * (1 - singlePaymentDiscount))), ("descuento", .str "30%"),
      ("cuotas", .nat 1)]),
    ("plan_2", .ofMembers [("tipo", .str "Plan en 2 cuotas sin interés"), ("monto", money saldo),
      ("cuota", money (saldo / 2)), ("cuotas", .nat 2)]),
    ("plan_3", .ofMembers [("tipo", .str "Plan en 6 cuotas"), ("monto", money saldo),
      ("cuota", money (saldo / 6)), ("cuotas", .nat 6)])]

/-- Offers the three standard `plans`. -/
def createPaymentPlans (ctx : Context) : Except ActionError (Fields Json) :=
  match balance? ctx defaultPlanBalance with
  | none => .error (.invalidPayload ActionKind.createPaymentPlans.name "saldo is not numeric")
  | some saldo =>
    .ok (Fields.ofList [("planes_creados", plans saldo), ("saldo_original", .ofFloat saldo)])

/-- The amounts of a proposal for the balance `saldo`. -/
def proposal (saldo : Float) : Json :=
  .ofMembers [("pago_unico", money (saldo * (1 - singlePaymentDiscount))),
    ("plan_2_cuotas", money (saldo * 0.5)), ("plan_6_cuotas", money (saldo / 6)),
    ("descuento_maximo", money (saldo * singlePaymentDiscount))]

/-- Makes a `proposal`. -/
def generateProposal (ctx : Context) : Except ActionError (Fields Json) :=
  match balance? ctx 0 with
  | none => .error (.invalidPayload ActionKind.generateProposal.name "saldo is not numeric")
  | some saldo =>
    .ok (Fields.ofList [("propuesta", proposal saldo), ("saldo_original", .ofFloat saldo)])

end Dunning.Action
