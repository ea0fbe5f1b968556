import Dunning.Proofs.Conversation.Lines
import Dunning.Proofs.Negotiation.Table

/-!
# Who agrees to a plan

The lookup leaves a flag (`Action.foundKey`) that says whether the customer was found. Of the two
ways on from the debt only the one to the payment plans asks for the flag; the one to an objection
does not. So a conversation that reaches an agreement has found its customer, or it went from the
debt to an objection at once, and then it may have found nobody (`settled_of_agreement`).
-/

namespace Dunning.Negotiation

/-- The flag that the lookup leaves in `ctx`. -/
def flag (ctx : Context) : Option Json :=
  ctx.get? Action.foundKey

/-- The condition `customerFound` asks whether the flag counts as set. -/
theorem evaluate_customerFound (ctx : Context) :
    Agent.standardConditions.evaluate customerFound.expression ctx = ctx.isTruthy Action.foundKey := by
  have hresolve : Agent.standardConditions.resolve? customerFound.expression =
      some ⟨[[⟨0, Action.foundKey⟩]]⟩ := by decide +kernel
  have hname : Agent.standardConditions.holdsName ctx Action.foundKey =
      ctx.isTruthy Action.foundKey := by rfl
  simp [Evaluator.evaluate, hresolve, Condition.Expr.eval, Condition.Term.eval, hname]

/-- A transition with the condition `customerFound` is not open when the flag says no. -/
theorem flag_of_isOpen {t : Transition} {ctx : Context} (h : t.IsOpen Agent.standardConditions ctx)
    (hcondition : t.condition = some customerFound) : flag ctx ≠ some (.bool false) := by
  intro hflag
  rcases h with hnone | ⟨condition, hsome, hholds⟩
  · rw [hcondition] at hnone
    cases hnone
  · obtain rfl := Option.some.inj (hcondition.symm.trans hsome)
    rw [flag] at hflag
    rw [evaluate_customerFound, Context.isTruthy, hflag] at hholds
    cases hholds

/-- The conversation went from `informar_deuda` to an objection. -/
def Objected (history : List TransitionRecord) : Prop :=
  ∃ r ∈ history, r.source = "informar_deuda" ∧ r.target = "gestionar_objecion"

/-- The customer was found, or was not and `Objected`. -/
def Settled (ctx : Context) (history : List TransitionRecord) : Prop :=
  flag ctx = some (.bool true) ∨ flag ctx = some (.bool false) ∧ Objected history

/-- The states after `informar_deuda`. -/
def later : List String :=
  ["proponer_planes_pago", "gestionar_objecion", "generar_acuerdo", "escalamiento", "fin"]

/-- What the flag says in each state of `c`: at the debt it has been set, and after that it is
`Settled`. -/
structure Consistent (c : Conversation) : Prop where
  informed : c.state = "informar_deuda" → ∃ b, flag c.context = some (.bool b)
  settled : c.state ∈ later → Settled c.context c.history

/-! ## What a line does to the flag -/

variable {settings : Settings} {tables : QueryTables} {around : Circumstances} {ctx : Context}
  {changes : Fields Json}

theorem flag_heardLine (c : Conversation) (line : String) :
    flag (c.heardLine line) = flag c.context :=
  c.heardLine_get? line (by decide)

theorem kindOf_lookup : kindOf lookup = .runQuery := by
  decide +kernel

/-- An action that is no `runQuery` does not change the flag. -/
theorem flag_merge {a : FlowAction} {backend : Option QueryBackend} (ha : a ∈ actions)
    (hkind : kindOf a ≠ .runQuery)
    (hanswer : Registry.standardAnswer backend around a.payload ctx (kindOf a) = .ok changes) :
    flag (ctx.merge changes) = flag ctx := by
  apply ctx.get?_merge_of_not_mem
  intro hname
  rcases Action.mem_footprint hanswer hname with hmem | ⟨hquery, _⟩
  · exact flag_not_mem_footprint a ha hkind hmem
  · exact hkind hquery

/-- The `lookup` sets the flag, and no row that it finds overrides it. -/
theorem flag_merge_lookup (hlacks : tables.Lacks Action.foundKey)
    (hanswer : Action.runQuery (some tables.query) lookup.payload ctx = .ok changes) :
    ∃ b, flag (ctx.merge changes) = some (.bool b) := by
  obtain ⟨query, hquery, q, row, -, hrow, rfl⟩ := Action.runQuery_eq_ok hanswer
  obtain rfl := Option.some.inj hquery
  have hkey : (Action.textMember? lookup.payload "found_key").getD Action.foundKey = Action.foundKey :=
    rfl
  have hnames : ∀ r ∈ row, Action.foundKey ∉ Fields.names r := by
    intro r hr
    obtain rfl := Option.mem_def.1 hr
    exact hlacks.not_mem_names hrow
  refine ⟨row.isSome, ?_⟩
  rw [flag, Context.get?_merge, hkey, Action.get?_reverse_queryDelta hnames, Option.some_or]

theorem Settled.record {history : List TransitionRecord} (h : Settled ctx history)
    (r : TransitionRecord) : Settled ctx (history ++ [r]) := by
  rcases h with hfound | ⟨hnone, old, hold, hpath⟩
  · exact .inl hfound
  · exact .inr ⟨hnone, old, List.mem_append_left _ hold, hpath⟩

/-! ## Runs -/

/-- Only the `lookup` leads to `informar_deuda`. -/
theorem action_of_target_debt {edge : String × Transition} (h : edge ∈ table.edges)
    (htarget : edge.2.target = "informar_deuda") : edge.2.action = some lookup := by
  simp only [table, List.mem_cons, List.not_mem_nil, or_false] at h
  rcases h with rfl | rfl | rfl | rfl | rfl | rfl | rfl | rfl | rfl | rfl | rfl | rfl | rfl | rfl |
    rfl <;> first | rfl | exact absurd htarget (by decide)

/-- A state in `later` is reached from such a state, or from the debt by an objection or for the
flag; nothing is looked up on the way. -/
theorem source_of_target_later : ∀ edge ∈ table.edges, edge.2.target ∈ later →
    (edge.2.action.all fun a => kindOf a ≠ .runQuery) = true ∧
    (edge.1 ∈ later ∨ edge.1 = "informar_deuda" ∧
      (edge.2.target = "gestionar_objecion" ∨ edge.2.condition = some customerFound)) := by
  decide +kernel

/-- A line keeps the flag `Consistent` with the state. -/
theorem Consistent.takesLine (hlacks : tables.Lacks Action.foundKey) {c after : Conversation}
    {line : String} {result : StepResult} (hc : Consistent c)
    (h : (agent settings tables.query).engine.TakesLine around c line result after) :
    Consistent after := by
  cases h with
  | stays _ =>
    constructor
    · intro hstate
      rw [flag_heardLine]
      exact hc.informed hstate
    · intro hstate
      rw [Settled, flag_heardLine]
      exact hc.settled hstate
  | passes chooses haction =>
    obtain ⟨a, _, ha⟩ := exists_action (edge_of_chooses chooses).1
    rw [haction] at ha
    cases ha
  | @acts i t a changes chooses haction hreply =>
    have hanswer := ((reply_eq_delta_iff settings).1 hreply).2
    obtain ⟨hedge, hopen⟩ := edge_of_chooses chooses
    -- the debt is reached by the lookup only; what comes after it is reached without one
    constructor
    · intro hstate
      obtain rfl : a = lookup :=
        Option.some.inj (haction.symm.trans (action_of_target_debt hedge hstate))
      rw [kindOf_lookup] at hanswer
      exact flag_merge_lookup hlacks hanswer
    · intro hstate
      obtain ⟨hkind, hsource⟩ := source_of_target_later _ hedge hstate
      obtain ⟨b, hb, hab⟩ := exists_action hedge
      obtain rfl := Option.some.inj (haction.symm.trans hab)
      rw [haction, Option.all_some, decide_eq_true_eq] at hkind
      have hflag : flag ((c.heardLine line).merge changes) = flag c.context :=
        (flag_merge hb hkind hanswer).trans (flag_heardLine c line)
      rcases hsource with hlater | ⟨hdebt, hway⟩
      · have hsettled := (hc.settled hlater).record ⟨c.state, t.target, some a.name, around.now⟩
        rw [Settled, ← hflag] at hsettled
        exact hsettled
      · obtain ⟨found, hfound⟩ := hc.informed hdebt
        rw [Settled, hflag, hfound]
        cases found with
        | true => exact .inl rfl
        | false =>
          -- with the flag unset, only the objection leads on from the debt
          rcases hway with hobjection | hcondition
          · exact .inr ⟨rfl, _, List.mem_append_right _ List.mem_cons_self, hdebt, hobjection⟩
          · exact absurd ((flag_heardLine c line).trans hfound) (flag_of_isOpen hopen hcondition)

/-- A new conversation is consistent, for it has not come to the debt. -/
theorem consistent_greet (a : Agent) (ha : a.table = table) (begun : Circumstances) :
    Consistent (a.greet begun) := by
  have hstate : (a.greet begun).state = "start" := by
    rw [Agent.greet, ha]
    rfl
  constructor
  · intro hdebt
    rw [hstate] at hdebt
    exact absurd hdebt (by decide)
  · intro hlater
    rw [hstate] at hlater
    exact absurd hlater (by decide)

/-- When an agreement is confirmed in `generar_acuerdo`, the customer was found, or was not found
and objected when told of the debt. -/
theorem settled_of_agreement (settings : Settings) {tables : QueryTables}
    (hlacks : tables.Lacks Action.foundKey) (begun : Circumstances) (m : Monitor)
    (lines : List Heard) :
    let a := agent settings tables.query
    let c := (a.engine.hearAll m (a.greet begun) lines).2
    c.state = "generar_acuerdo" → Settled c.context c.history := by
  intro a c hstate
  have hconsistent : Consistent c :=
    Engine.hearAll_invariant (Consistent.takesLine hlacks) (consistent_greet a rfl begun) m lines
  apply hconsistent.settled
  rw [hstate]
  decide

/-- The records of `customers` have no column of the flag's name. -/
theorem lacks_customers : customers.Lacks Action.foundKey := by
  unfold QueryTables.Lacks
  decide +kernel

/-- The beginning of the first day. -/
def firstDay : Circumstances :=
  { now := ⟨0, 0, 0⟩, token := "" }

/-- The lines of a customer who objects to a debt and then chooses a plan. -/
def objection : List Heard :=
  ["hola", "1234567", "no puedo", "plan"].map fun line => { around := firstDay, line }

/-- The conversation with such a customer whom no record knows, after the lines of `objection`. -/
def unknownCustomer : Conversation :=
  ((agent {} customers.query).engine.hearAll (agent {} customers.query).monitor
    ((agent {} customers.query).greet firstDay) objection).2

theorem state_unknownCustomer : unknownCustomer.state = "generar_acuerdo" := by
  decide +kernel

theorem settled_of_unknownCustomer :
    customers.Lacks Action.foundKey ∧ unknownCustomer.state = "generar_acuerdo" ∧
      Settled unknownCustomer.context unknownCustomer.history := by
  have hstate := state_unknownCustomer
  unfold unknownCustomer at hstate ⊢
  exact ⟨lacks_customers, hstate, settled_of_agreement {} lacks_customers firstDay _ objection hstate⟩

/-- An agreement is confirmed with somebody who was not found (`unknownCustomer`). -/
theorem agreement_without_customer :
    customers.Lacks Action.foundKey ∧ unknownCustomer.state = "generar_acuerdo" ∧
      flag unknownCustomer.context ≠ some (.bool true) := by
  have hunset : unknownCustomer.context.isTruthy Action.foundKey = false := by decide +kernel
  refine ⟨lacks_customers, state_unknownCustomer, ?_⟩
  intro hflag
  rw [flag] at hflag
  rw [Context.isTruthy, hflag] at hunset
  cases hunset

end Dunning.Negotiation
