import Dunning.Action.Standard
import Dunning.Proofs.Except

/-!
# How the standard registry replies

`Registry.standard` has a handler for each kind that is always there and for no other kind. The
handlers answer at once (`Work.immediate`), so no time limit stops them: a caller who waits at all
has their answer (`reply_standard`).
-/

namespace Dunning

/-- The reply of a handler that was not stopped. -/
def Reply.ofAnswer : Except ActionError (Fields Json) → Reply
  | .ok changes => .delta changes
  | .error error => .failed error

/-- Work that is done at once is seen by everyone who waits, unless `limit` leaves it no time at
all. -/
theorem Work.reply_observe_immediate (answer : Except ActionError (Fields Json)) (action : String)
    {limit : Nat} (hlimit : 0 < limit) (patience : Option Nat) :
    ((Work.immediate answer).observe action limit patience).reply =
      if patience.all (0 < ·) then Reply.ofAnswer answer else .abandoned := by
  cases patience with
  | none => cases answer <;> simp [observe, immediate, hlimit, Reply.ofAnswer]
  | some seconds =>
    by_cases hwaits : 0 < seconds
    · cases answer <;> simp [observe, immediate, hlimit, hwaits, Reply.ofAnswer]
    · -- a caller who does not wait at all leaves before the limit is reached
      have hleft : ¬ limit ≤ seconds := by omega
      simp [observe, immediate, hwaits, hleft]

namespace Registry

variable {r : Registry} {kind : ActionKind}

theorem get?_register (r : Registry) (kind other : ActionKind) (handler : Handler) :
    (r.register kind handler).get? other = if other = kind then some handler else r.get? other := by
  unfold register get?
  by_cases hkind : other = kind
  · simp [hkind]
  · have hne : kind ≠ other := Ne.symm hkind
    rw [if_neg hkind, List.find?_cons_of_neg (by simpa using hne), List.find?_filter]
    congr 2
    funext entry
    by_cases hentry : entry.1 = other
    · simp [hentry, hkind]
    · simp [hentry]

/-- Registering `kinds` one after another gives each of them its handler. -/
theorem get?_registerAll (handler : ActionKind → Handler) (kinds : List ActionKind) (r : Registry)
    (kind : ActionKind) :
    (kinds.foldl (fun r k => r.register k (handler k)) r).get? kind =
      if kind ∈ kinds then some (handler kind) else r.get? kind := by
  induction kinds generalizing r with
  | nil => simp
  | cons k kinds ih =>
    -- a kind that comes again has the same handler, so it does not matter which entry wins
    rw [List.foldl_cons, ih, get?_register]
    by_cases hmem : kind ∈ kinds
    · simp [hmem]
    · by_cases hk : kind = k <;> simp [hmem, hk]

@[simp] theorem get?_withLimit (r : Registry) (seconds : Nat) (kind : ActionKind) :
    (r.withLimit seconds).get? kind = r.get? kind := rfl

theorem get?_standard (backend : Option QueryBackend) (kind : ActionKind) :
    (standard backend).get? kind =
      if kind ∈ ActionKind.builtins then some (standardHandler backend kind) else none := by
  rw [standard, get?_registerAll]
  rfl

theorem has_standard_iff {backend : Option QueryBackend} {seconds : Nat} {type : String} :
    ((standard backend).withLimit seconds).has type = true ↔
      ActionKind.ofText type ∈ ActionKind.builtins := by
  rw [has, get?_withLimit, get?_standard]
  split <;> simp_all

/-! ## Carrying out an action -/

theorem execute_of_get? {handler : Handler} (around : Circumstances) (call : ActionCall)
    (h : r.get? (.ofText call.type) = some handler) :
    r.execute around call = (handler.run around call.payload call.context).observe
      (ActionKind.ofText call.type).name (handler.limit.getD r.defaultLimit) around.patience := by
  simp only [execute, h]

theorem execute_of_get?_eq_none (around : Circumstances) (call : ActionCall)
    (h : r.get? (.ofText call.type) = none) :
    r.execute around call = ⟨[], .failed (.unknownAction call.type)⟩ := by
  simp only [execute, h]

/-- A kind of `Registry.standard` answers every caller who waits; another one is refused. -/
theorem reply_standard (backend : Option QueryBackend) (seconds : Nat) (around : Circumstances)
    (call : ActionCall) :
    (((standard backend).withLimit seconds).execute around call).reply =
      if ActionKind.ofText call.type ∈ ActionKind.builtins then
        if around.patience.all (0 < ·) then
          Reply.ofAnswer
            (standardAnswer backend around call.payload call.context (.ofText call.type))
        else .abandoned
      else .failed (.unknownAction call.type) := by
  simp only [execute, get?_withLimit, get?_standard]
  by_cases hkind : ActionKind.ofText call.type ∈ ActionKind.builtins
  · have hlimit : 0 < max seconds 1 := by omega
    rw [if_pos hkind, if_pos hkind]
    exact Work.reply_observe_immediate _ _ hlimit around.patience
  · rw [if_neg hkind, if_neg hkind]

theorem mem_builtins_of_answer {backend : Option QueryBackend} {around : Circumstances}
    {payload : Json} {ctx : Context} {changes : Fields Json}
    (h : standardAnswer backend around payload ctx kind = .ok changes) :
    kind ∈ ActionKind.builtins := by
  cases kind with
  | custom name => cases h
  | _ => decide

/-- A caller learns of `changes` when they are the answer and are waited for. -/
theorem reply_standard_eq_delta_iff {backend : Option QueryBackend} {seconds : Nat}
    {around : Circumstances} {call : ActionCall} {changes : Fields Json} :
    (((standard backend).withLimit seconds).execute around call).reply = .delta changes ↔
      around.patience.all (0 < ·) = true ∧
      standardAnswer backend around call.payload call.context (.ofText call.type) =
        .ok changes := by
  rw [reply_standard]
  constructor
  · intro h
    split at h
    · split at h
      · rename_i hwaits
        refine ⟨hwaits, ?_⟩
        cases hanswer : standardAnswer backend around call.payload call.context
            (.ofText call.type) with
        | ok changes' =>
          rw [hanswer] at h
          obtain rfl := Reply.delta.inj h
          rfl
        | error error =>
          rw [hanswer] at h
          cases h
      · cases h
    · cases h
  · rintro ⟨hwaits, hanswer⟩
    rw [if_pos (mem_builtins_of_answer hanswer), if_pos hwaits, hanswer]
    rfl

/-! ## Unknown actions -/

/-- An action of `Registry.standard` does not say that it is unknown, unless its backend does. -/
theorem standardAnswer_ne_unknownAction {backend : Option QueryBackend}
    (hbackend : ∀ query ∈ backend, ∀ name params type,
      query name params ≠ .error (.unknownAction type))
    (hkind : kind ∈ ActionKind.builtins) (around : Circumstances) (payload : Json) (ctx : Context)
    (type : String) : standardAnswer backend around payload ctx kind ≠ .error (.unknownAction type) := by
  intro h
  cases kind with
  | runQuery =>
    simp only [standardAnswer, Action.runQuery] at h
    split at h
    · cases h
    · rename_i query
      split at h
      · cases h
      · rename_i name _
        cases hquery : query name (Action.queryParams payload ctx) with
        | error error =>
          rw [hquery, error_bind] at h
          obtain rfl := Except.error.inj h
          exact hbackend query rfl _ _ _ hquery
        | ok row =>
          rw [hquery] at h
          cases h
  | sendTemplate =>
    simp only [standardAnswer, Action.sendTemplate] at h
    split at h <;> cases h
  | createPaymentPlans =>
    simp only [standardAnswer, Action.createPaymentPlans] at h
    split at h <;> cases h
  | generateProposal =>
    simp only [standardAnswer, Action.generateProposal] at h
    split at h <;> cases h
  | verifyContact => cases h
  | scheduleReminder =>
    simp only [standardAnswer, Action.scheduleReminder] at h
    split at h
    · cases h
    · split at h <;> cases h
  | escalateSupervisor => cases h
  | custom name => simp [ActionKind.builtins] at hkind

theorem reply_standard_ne_unknownAction {backend : Option QueryBackend}
    (hbackend : ∀ query ∈ backend, ∀ name params type,
      query name params ≠ .error (.unknownAction type))
    (seconds : Nat) (around : Circumstances) (call : ActionCall)
    (hkind : ActionKind.ofText call.type ∈ ActionKind.builtins) (type : String) :
    (((standard backend).withLimit seconds).execute around call).reply ≠
      .failed (.unknownAction type) := by
  intro h
  rw [reply_standard, if_pos hkind] at h
  split at h
  · have hanswer := standardAnswer_ne_unknownAction hbackend hkind around call.payload call.context
    cases hcase : standardAnswer backend around call.payload call.context (.ofText call.type) with
    | ok changes =>
      rw [hcase] at h
      cases h
    | error error =>
      rw [hcase] at h
      obtain rfl := Reply.failed.inj h
      exact hanswer type hcase
  · cases h

end Registry

/-- `QueryTables` say of a query that it is unknown, and never of an action. -/
theorem QueryTables.query_ne_unknownAction (t : QueryTables) (name : String) (params : Fields Json)
    (type : String) : t.query name params ≠ .error (.unknownAction type) := by
  unfold query
  split <;> simp

end Dunning
