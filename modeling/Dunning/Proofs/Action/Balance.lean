import Dunning.Proofs.Action.Standard
import Dunning.Proofs.Condition.Meaning
import Dunning.Proofs.Decimal.Finite
import Dunning.Proofs.Engine.Step

/-!
# What the payment actions make of a balance above the threshold

The condition `Builtin.balanceAboveThreshold` compares whatever number `saldo` is, and the payment
actions `createPaymentPlans` and `generateProposal` ask in addition that it be finite. They agree on
every balance but infinity, which is above the threshold and which no payment action takes
(`takes_of_balanceAboveThreshold`). No number in JSON is infinite
(`Number.Proper.isFinite_toFloat`), so such a balance is a text.
-/

namespace Dunning.Action

open Decimal

/-- What the payment actions set in the context for a balance `saldo`. -/
def changesFor (saldo : Float) : ActionKind → Fields Json
  | .createPaymentPlans =>
    Fields.ofList [("planes_creados", plans saldo), ("saldo_original", .ofFloat saldo)]
  | .generateProposal =>
    Fields.ofList [("propuesta", proposal saldo), ("saldo_original", .ofFloat saldo)]
  | _ => []

/-- The actions that work out amounts from `saldo`. -/
def paymentKinds : List ActionKind := [.createPaymentPlans, .generateProposal]

/-- What an action of `paymentKinds` answers when `saldo` is this number. -/
def paymentAnswer (saldo : Float) (kind : ActionKind) : Except ActionError (Fields Json) :=
  if isFinite saldo then .ok (changesFor saldo kind)
  else .error (.invalidPayload kind.name "saldo is not numeric")

variable {ctx : Context} {x : Float} {kind : ActionKind}

theorem balance?_of_number? (h : ctx.number? "saldo" = some x) (fallback : Float) :
    balance? ctx fallback = if isFinite x then some x else none := by
  unfold balance?
  split
  · rename_i hnone
    simp [Context.number?, hnone] at h
  · rename_i hnull
    simp [Context.number?, hnull] at h
  · rw [h, Option.filter_some]

theorem createPaymentPlans_of_number? (h : ctx.number? "saldo" = some x) :
    createPaymentPlans ctx = paymentAnswer x .createPaymentPlans := by
  simp only [createPaymentPlans, balance?_of_number? h, paymentAnswer]
  cases isFinite x <;> rfl

theorem generateProposal_of_number? (h : ctx.number? "saldo" = some x) :
    generateProposal ctx = paymentAnswer x .generateProposal := by
  simp only [generateProposal, balance?_of_number? h, paymentAnswer]
  cases isFinite x <;> rfl

theorem standardAnswer_of_number? (h : ctx.number? "saldo" = some x) (hkind : kind ∈ paymentKinds)
    (backend : Option QueryBackend) (around : Circumstances) (payload : Json) :
    Registry.standardAnswer backend around payload ctx kind = paymentAnswer x kind := by
  simp only [paymentKinds, List.mem_cons, List.not_mem_nil, or_false] at hkind
  obtain rfl | rfl := hkind
  · exact createPaymentPlans_of_number? h
  · exact generateProposal_of_number? h

theorem mem_builtins_of_mem_paymentKinds (h : kind ∈ paymentKinds) :
    kind ∈ ActionKind.builtins := by
  simp only [paymentKinds, List.mem_cons, List.not_mem_nil, or_false] at h
  obtain rfl | rfl := h <;> decide

theorem exists_number?_of_holds (h : Builtin.balanceAboveThreshold.holds ctx = true) :
    ∃ x, ctx.number? "saldo" = some x ∧ (1000 : Float) < x := by
  simp only [Builtin.holds] at h
  split at h
  · rename_i x hx
    exact ⟨x, hx, of_decide_eq_true h⟩
  · cases h

/-- A balance that is no text is finite, if the numbers of the context are `Number.Proper`. -/
theorem isFinite_of_number? (h : ctx.number? "saldo" = some x)
    (proper : ∀ n, ctx.get? "saldo" = some (.num n) → n.Proper)
    (htext : ∀ s, ctx.get? "saldo" ≠ some (.str s)) : isFinite x = true := by
  unfold Context.number? at h
  split at h
  · rename_i n hn
    obtain rfl := Option.some.inj h
    exact (proper n hn).isFinite_toFloat
  · rename_i s hs
    exact absurd hs (htext s)
  · rename_i b hb
    obtain rfl := Option.some.inj h
    cases b <;> rfl
  · cases h

/-- What the payment actions make of a balance `x` above the threshold. -/
structure Takes (ctx : Context) (x : Float) : Prop where
  /-- `x` is the balance that the condition compares. -/
  balance : ctx.number? "saldo" = some x
  /-- A finite balance gives both actions their amounts (`paymentAnswer`), another one makes both
  fail. -/
  plans : createPaymentPlans ctx = paymentAnswer x .createPaymentPlans
  proposal : generateProposal ctx = paymentAnswer x .generateProposal
  /-- The only such balance that is not finite is infinity, given here by its bits. -/
  infinite : isFinite x = false → x.toBits = 0x7FF0000000000000
  /-- Infinity is written as a text `s`, in a context whose numbers are proper. -/
  written : isFinite x = false → (∀ n, ctx.get? "saldo" = some (.num n) → n.Proper) →
    ∃ s, ctx.get? "saldo" = some (.str s) ∧ ofTextList? (Text.trimList s.toList) = some x
  /-- A step that carries out a payment action for `t` succeeds with a finite balance, and fails in
  the action with any other one. -/
  guarded : ∀ (e : Engine) (backend : Option QueryBackend) (seconds : Nat)
    (around : Circumstances) (state : String) (i : Nat) (t : Transition) (a : FlowAction),
    e.executor = ((Registry.standard backend).withLimit seconds).execute →
    around.patience.all (0 < ·) = true → e.Chooses state ctx i t → t.action = some a →
    ActionKind.ofText a.type ∈ paymentKinds →
    (e.step around state ctx).result =
      Engine.resultOf state i t a (Reply.ofAnswer (paymentAnswer x (.ofText a.type)))

/-- `Builtin.balanceAboveThreshold` and the payment actions agree on every balance but infinity. -/
theorem takes_of_balanceAboveThreshold (h : Builtin.balanceAboveThreshold.holds ctx = true) :
    ∃ x, Takes ctx x := by
  obtain ⟨x, hx, hlt⟩ := exists_number?_of_holds h
  refine ⟨x, ?_⟩
  exact {
    balance := hx
    plans := createPaymentPlans_of_number? hx
    proposal := generateProposal_of_number? hx
    infinite := toBits_of_lt hlt
    written := by
      intro hinfinite proper
      -- any other value than a text would give a finite balance
      by_contra hnone
      have hfinite : isFinite x = true := by
        apply isFinite_of_number? hx proper
        intro s hs
        refine hnone ⟨s, hs, ?_⟩
        simpa [Context.number?, hs] using hx
      rw [hfinite] at hinfinite
      cases hinfinite
    guarded := by
      intro e backend seconds around state i t a hexecutor hwaits chooses haction hkind
      have hanswer := standardAnswer_of_number? hx hkind backend around a.payload
      have hbuiltin : ActionKind.ofText (Engine.callOf a ctx).type ∈ ActionKind.builtins :=
        mem_builtins_of_mem_paymentKinds hkind
      have hreply : (e.executor around (Engine.callOf a ctx)).reply =
          Reply.ofAnswer (paymentAnswer x (.ofText a.type)) := by
        rw [hexecutor, Registry.reply_standard, if_pos hbuiltin, if_pos hwaits]
        exact congrArg Reply.ofAnswer hanswer
      rw [Engine.step_of_action chooses haction, hreply] }

theorem takes_of_number : Builtin.balanceAboveThreshold.holds
      ⟨[("saldo", .num (.whole 2500))]⟩ = true ∧
    ∃ x, Takes ⟨[("saldo", .num (.whole 2500))]⟩ x :=
  ⟨by rfl, takes_of_balanceAboveThreshold (by rfl)⟩

/-- A `saldo` of `inf` is above the threshold, and no payment action takes it. -/
theorem refused_above_threshold :
    Builtin.balanceAboveThreshold.holds ⟨[("saldo", .str "inf")]⟩ = true ∧
    createPaymentPlans ⟨[("saldo", .str "inf")]⟩ =
      .error (.invalidPayload "crear_planes_pago" "saldo is not numeric") ∧
    generateProposal ⟨[("saldo", .str "inf")]⟩ =
      .error (.invalidPayload "generar_propuesta" "saldo is not numeric") :=
  ⟨by rfl, by rfl, by rfl⟩

end Dunning.Action
