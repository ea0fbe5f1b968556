import Dunning.Proofs.Negotiation.Table
import Dunning.Proofs.Template
import Dunning.Session

/-!
# Every action of the negotiation answers

With the records of `customers` to answer the query, each action of the flow has an answer, as long
as the balance in the context is a finite number or there is none (`Context.FiniteBalance`). No
action breaks that: only a row of the records brings a balance, and theirs are finite.
-/

namespace Dunning

/-- A message is waited for, and the next day is still on the calendar: a reminder for it is in
reach. -/
structure Circumstances.Attended (around : Circumstances) : Prop where
  waits : around.patience = none
  second : around.now.second < 86400
  day : around.now.day < Timestamp.lastDay

theorem Circumstances.Attended.exists_tomorrow {around : Circumstances} (h : around.Attended) :
    ∃ time, around.now.addHours? 24 = some time := by
  -- a day later is the same second of the next day
  have hsecond := h.second
  have hday := h.day
  have hspan : ¬ Timestamp.longestSpan < 24 * 3600 := by decide
  have hnext : (around.now.second + 24 * 3600) / 86400 = 1 := by omega
  have hlast : ¬ Timestamp.lastDay < around.now.day + (1 : Nat) := by omega
  unfold Timestamp.addHours?
  simp only [if_neg hspan, hnext, if_neg hlast]
  exact ⟨_, rfl⟩

/-- The `saldo` of `ctx` is a finite number, or there is none. -/
def Context.FiniteBalance (ctx : Context) : Prop :=
  ∀ value, ctx.get? "saldo" = some value → ∃ n, value = .num n ∧ Decimal.isFinite n.toFloat = true

/-- From a finite balance amounts can be made (`Action.balance?`). -/
theorem Context.FiniteBalance.exists_balance {ctx : Context} (h : ctx.FiniteBalance)
    (fallback : Float) : ∃ balance, Action.balance? ctx fallback = some balance := by
  unfold Action.balance?
  cases hvalue : ctx.get? "saldo" with
  | none => exact ⟨fallback, rfl⟩
  | some value =>
    obtain ⟨n, rfl, hfinite⟩ := h value hvalue
    refine ⟨n.toFloat, ?_⟩
    simp [Context.number?, hvalue, hfinite]

namespace Negotiation

/-! ## The customer records -/

theorem queries_customers : customers.queries =
    [(customerQuery, ⟨"documento", [("1020304050", luis), ("93388915", ana)]⟩)] := by rfl

/-- Any row that the records give is `ana` or `luis`. -/
theorem row_of_query {q : String} {params row : Fields Json}
    (h : customers.query q params = .ok (some row)) : row = ana ∨ row = luis := by
  obtain ⟨table, htable, entry, hentry, rfl⟩ := QueryTables.exists_mem_of_query h
  rw [queries_customers, List.mem_singleton] at htable
  subst htable
  simp only [List.mem_cons, List.not_mem_nil, or_false] at hentry
  rcases hentry with rfl | rfl
  · exact .inr rfl
  · exact .inl rfl

theorem saldo_ana : Fields.get? ana.reverse "saldo" = some (.int 2500000) := by rfl

theorem saldo_luis : Fields.get? luis.reverse "saldo" = some (.int 850) := by rfl

/-- The query `customerQuery` of the flow is one that the records know. -/
theorem exists_row (params : Fields Json) : ∃ row, customers.query customerQuery params = .ok row :=
  ⟨_, rfl⟩

/-! ## The actions -/

/-- A template that begins with text, and not as an error does. -/
def opensPlainly (template : String) : Bool :=
  template.toList.head?.any fun c => c ≠ '\x7b' ∧ c ≠ 'e'

/-- `payload` gives an action of that kind what it needs. -/
def suits (payload : Json) : ActionKind → Bool
  | .runQuery => Action.textMember? payload "query" = some customerQuery
  | .sendTemplate => (Action.template? payload).any opensPlainly
  | .createPaymentPlans => true
  | .generateProposal => true
  | .verifyContact => true
  | .scheduleReminder => Action.delayHours? payload = some 24
  | .escalateSupervisor => true
  | .custom _ => false

theorem suits_of_mem_actions : ∀ a ∈ actions, suits a.payload (kindOf a) = true := by
  decide +kernel

variable {around : Circumstances} {ctx : Context} {payload : Json} {kind : ActionKind}
  {changes : Fields Json}

/-- With a payload that `suits` it, an action has an answer. -/
theorem exists_answer (haround : around.Attended) (hctx : ctx.FiniteBalance)
    (h : suits payload kind = true) :
    ∃ changes, Registry.standardAnswer (some customers.query) around payload ctx kind =
      .ok changes := by
  cases kind with
  | runQuery =>
    have hquery : Action.textMember? payload "query" = some customerQuery := of_decide_eq_true h
    obtain ⟨row, hrow⟩ := exists_row (Action.queryParams payload ctx)
    simp [Registry.standardAnswer, Action.runQuery, hquery, hrow]
  | sendTemplate =>
    obtain ⟨template, htemplate, _⟩ := (Option.any_eq_true _ _).1 h
    simp [Registry.standardAnswer, Action.sendTemplate, htemplate]
  | createPaymentPlans =>
    obtain ⟨balance, hbalance⟩ := hctx.exists_balance Action.defaultPlanBalance
    simp [Registry.standardAnswer, Action.createPaymentPlans, hbalance]
  | generateProposal =>
    obtain ⟨balance, hbalance⟩ := hctx.exists_balance 0
    simp [Registry.standardAnswer, Action.generateProposal, hbalance]
  | verifyContact => exact ⟨_, rfl⟩
  | scheduleReminder =>
    have hdelay : Action.delayHours? payload = some 24 := of_decide_eq_true h
    obtain ⟨time, htime⟩ := haround.exists_tomorrow
    simp [Registry.standardAnswer, Action.scheduleReminder, hdelay, htime]
  | escalateSupervisor => exact ⟨_, rfl⟩
  | custom name => cases h

/-- An action that does not have `saldo` in its footprint keeps it finite: only a row of the records
can bring one. -/
theorem finiteBalance_merge (hctx : ctx.FiniteBalance)
    (hfootprint : "saldo" ∉ Action.footprint payload kind)
    (h : Registry.standardAnswer (some customers.query) around payload ctx kind = .ok changes) :
    (ctx.merge changes).FiniteBalance := by
  by_cases hmem : "saldo" ∈ changes.names
  · rcases Action.mem_footprint h hmem with hmem | ⟨rfl, _⟩
    · exact absurd hmem hfootprint
    -- outside the footprint the balance can only come from a row
    have hrun : Action.runQuery (some customers.query) payload ctx = .ok changes := h
    obtain ⟨query, hquery, q, row, _, hrow, rfl⟩ := Action.runQuery_eq_ok hrun
    obtain rfl := Option.some.inj hquery
    have hkey : (Action.textMember? payload "found_key").getD Action.foundKey ≠ "saldo" := by
      simpa [Action.footprint, eq_comm] using hfootprint
    intro value hvalue
    rw [Context.get?_merge, Action.get?_reverse_queryDelta_of_ne row hkey] at hvalue
    cases row with
    | none => exact hctx value hvalue
    | some r =>
      rcases row_of_query hrow with rfl | rfl
      · rw [Option.getD_some, saldo_ana] at hvalue
        obtain rfl := Option.some.inj hvalue
        exact ⟨_, rfl, by decide⟩
      · rw [Option.getD_some, saldo_luis] at hvalue
        obtain rfl := Option.some.inj hvalue
        exact ⟨_, rfl, by decide⟩
  · intro value hvalue
    rw [ctx.get?_merge_of_not_mem hmem] at hvalue
    exact hctx value hvalue

theorem lacks_reply : customers.Lacks Action.replyKey := by
  unfold QueryTables.Lacks
  decide +kernel

theorem exists_of_opensPlainly {template : String} (h : opensPlainly template = true) :
    ∃ c cs, template.toList = c :: cs ∧ c ≠ '\x7b' ∧ c ≠ 'e' := by
  unfold opensPlainly at h
  cases hcs : template.toList with
  | nil =>
    rw [hcs] at h
    cases h
  | cons c cs =>
    rw [hcs] at h
    exact ⟨c, cs, rfl, by simpa using h⟩

/-- A reply does not begin as an error does, by `opensPlainly`. -/
theorem exists_of_reply {name type text : String} (hsuits : suits payload kind = true)
    (hfootprint : kind ≠ .sendTemplate → Action.replyKey ∉ Action.footprint payload kind)
    (h : Registry.standardAnswer (some customers.query) around payload ctx kind = .ok changes)
    (htext : (ActionOutcome.mk name type changes).reply? = some text) :
    ∃ c cs, text.toList = c :: cs ∧ c ≠ 'e' := by
  obtain ⟨value, hvalue, hstring⟩ := Option.bind_eq_some_iff.1 htext
  by_cases hkind : kind = .sendTemplate
  · subst hkind
    obtain ⟨template, htemplate, hopens⟩ := (Option.any_eq_true _ _).1 hsuits
    obtain ⟨c, cs, hcs, hbrace, he⟩ := exists_of_opensPlainly hopens
    obtain ⟨rest, hrest⟩ := Template.exists_toList_render hcs hbrace ctx
    simp only [Registry.standardAnswer, Action.sendTemplate, htemplate, Except.ok.injEq] at h
    subst h
    rw [Fields.get?_cons] at hvalue
    split at hvalue
    · obtain rfl := Option.some.inj hvalue
      obtain rfl := Option.some.inj hstring
      exact ⟨c, rest, hrest, he⟩
    · cases hvalue
  · -- no other action sets the field, and no row of the records has it
    have hmem : Action.replyKey ∈ changes.names :=
      List.mem_map_of_mem (Fields.mem_of_get? hvalue)
    rcases Action.mem_footprint h hmem with hmem | ⟨_, query, hquery, q, params, row, hrow, hmem⟩
    · exact absurd hmem (hfootprint hkind)
    · obtain rfl := Option.some.inj hquery
      exact absurd hmem (lacks_reply.not_mem_names hrow)

end Negotiation

end Dunning
