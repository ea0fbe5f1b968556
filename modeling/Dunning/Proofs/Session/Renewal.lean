import Dunning.Proofs.Agent.Start
import Dunning.Proofs.Conversation.Accounts
import Dunning.Proofs.Conversation.Lines

/-!
# A new conversation knows nothing of the old ones

Lines of several customers are typed at one terminal, one conversation after another. A session
keeps two things from line to line. The conversation is what replies are made from, and it is begun
anew by a command; so the lines after the command are answered as in a session of their own. The
monitor is kept for ever and no reply is made from it; so it counts the messages of all customers.

`Session.log` keeps for every line what was shown for it and the step that was taken. Two logs are
compared line by line (`Session.forall₂_log`), and one log is counted (`Session.tallies_run`).
-/

namespace Dunning

/-! ## Circumstances that make no difference -/

/-- The actions of the flow of the agent `a` reply the same in both circumstances. -/
def Agent.Indifferent (a : Agent) (around around' : Circumstances) : Prop :=
  ∀ call, call.type ∈ a.table.actionTypes →
    (a.registry.execute around call).reply = (a.registry.execute around' call).reply

theorem Agent.Indifferent.refl (a : Agent) (around : Circumstances) : a.Indifferent around around :=
  fun _ _ => rfl

/-- Of the actions that are always there only `scheduleReminder` looks at the time, and only an
escalation needs a fresh number. -/
theorem Registry.standardAnswer_congr {backend : Option QueryBackend}
    {around around' : Circumstances} {kind : ActionKind}
    (hnow : kind = .scheduleReminder → around.now = around'.now)
    (htoken : kind = .escalateSupervisor → around.token = around'.token)
    (payload : Json) (ctx : Context) :
    standardAnswer backend around payload ctx kind =
      standardAnswer backend around' payload ctx kind := by
  cases kind with
  | scheduleReminder => simp only [standardAnswer, hnow rfl]
  | escalateSupervisor => simp only [standardAnswer, htoken rfl]
  | _ => rfl

/-- To a flow without reminders the time makes no difference, and to one without escalations the
fresh numbers make none. -/
theorem Agent.indifferent_assemble {settings : Settings} {table : FlowTable}
    {backend : Option QueryBackend} {around around' : Circumstances}
    (hpatience : around.patience = around'.patience)
    (hnow : (∃ type ∈ table.actionTypes, ActionKind.ofText type = .scheduleReminder) →
      around.now = around'.now)
    (htoken : (∃ type ∈ table.actionTypes, ActionKind.ofText type = .escalateSupervisor) →
      around.token = around'.token) :
    (assemble settings table backend).Indifferent around around' := by
  intro call hcall
  have hanswer : Registry.standardAnswer backend around call.payload call.context
      (.ofText call.type) =
        Registry.standardAnswer backend around' call.payload call.context (.ofText call.type) :=
    Registry.standardAnswer_congr (fun hkind => hnow ⟨call.type, hcall, hkind⟩)
      (fun hkind => htoken ⟨call.type, hcall, hkind⟩) call.payload call.context
  rw [assemble, Registry.reply_standard, Registry.reply_standard, hanswer, hpatience]

/-! ## Callers who wait -/

theorem Work.reply_observe_ne_abandoned (w : Work) (action : String) (limit : Nat) :
    (w.observe action limit none).reply ≠ .abandoned := by
  unfold observe
  split
  · dsimp only
    split <;> simp
  · simp

theorem Registry.reply_ne_abandoned (r : Registry) {around : Circumstances}
    (h : around.patience = none) (call : ActionCall) :
    (r.execute around call).reply ≠ .abandoned := by
  cases hget : r.get? (.ofText call.type) with
  | none =>
    rw [execute_of_get?_eq_none around call hget]
    simp
  | some handler =>
    rw [execute_of_get? around call hget, h]
    exact Work.reply_observe_ne_abandoned _ _ _

theorem Step.hasReturned_of_ne_abandoned {s : Step} (h : s.result ≠ .abandoned) :
    s.hasReturned = true := by
  unfold hasReturned
  cases hresult : s.result with
  | advanced o => rfl
  | failed error => rfl
  | abandoned => exact absurd hresult h

/-! ## A log of a session -/

/-- A line that was taken, with what was shown for it and the step that was taken if it was a
message. -/
structure Taken where
  heard : Heard
  shown : List String
  ended : Option (Said × Step)

namespace Session

variable {a : Agent}

/-- The message that the line `h` is, and the step that is taken for it. -/
def ended (a : Agent) (s : Session) (h : Heard) : Option (Said × Step) :=
  match TypedLine.ofText h.line with
  | .message text =>
    some (⟨h.around, text, Routing.route text⟩,
      (a.engine.dispatchLine s.monitor h.around s.conversation text).step)
  | _ => none

/-- Takes lines one after another, and keeps what was `Taken`. -/
def log (a : Agent) (s : Session) : List Heard → List Taken
  | [] => []
  | h :: rest => ⟨h, (s.hear a h).2, s.ended a h⟩ :: (s.hear a h).1.log a rest

theorem run_shown (s : Session) (lines : List Heard) :
    (s.run a lines).2 = (s.log a lines).flatMap Taken.shown := by
  induction lines generalizing s with
  | nil => rfl
  | cons h rest ih =>
    rw [run, log, List.flatMap_cons, ← ih]

theorem length_log (s : Session) (lines : List Heard) :
    (s.log a lines).length = lines.length := by
  induction lines generalizing s with
  | nil => rfl
  | cons h rest ih => rw [log, List.length_cons, ih, List.length_cons]

theorem run_append (s : Session) (lines more : List Heard) :
    (s.run a (lines ++ more)).1 = ((s.run a lines).1.run a more).1 := by
  induction lines generalizing s with
  | nil => rfl
  | cons h rest ih => rw [List.cons_append, run_cons, ih, run_cons]

theorem log_append (s : Session) (lines more : List Heard) :
    s.log a (lines ++ more) = s.log a lines ++ (s.run a lines).1.log a more := by
  induction lines generalizing s with
  | nil => rfl
  | cons h rest ih => rw [List.cons_append, log, ih, log, run_cons, List.cons_append]

/-- The log of what follows the line `h` is kept from where the line has left the session. -/
theorem drop_log (s : Session) (before : List Heard) (h : Heard) (after : List Heard) :
    (s.log a (before ++ h :: after)).drop (before.length + 1) =
      ((s.run a before).1.hear a h).1.log a after := by
  rw [log_append, log, ← s.length_log (a := a) before, List.drop_length_add_append]
  rfl

end Session

/-! ## Sessions that answer alike -/

/-- The same line, in circumstances that are `Agent.Indifferent` for the actions of an agent. -/
structure Heard.Repeats (a : Agent) (h h' : Heard) : Prop where
  line : h.line = h'.line
  indifferent : a.Indifferent h.around h'.around

/-- The same is shown for a line, and its step ends in the same way. Only the figures of a summary
may differ, and the number of a new conversation if another one was supplied. -/
structure Taken.Alike (t t' : Taken) : Prop where
  shown : TypedLine.ofText t.heard.line ≠ .summary →
    (TypedLine.ofText t.heard.line = .newConversation →
      t.heard.around.token = t'.heard.around.token) → t.shown = t'.shown
  result : t.ended.map (·.2.result) = t'.ended.map (·.2.result)

theorem Conversation.heardLine_congr {c c' : Conversation} (h : c.context = c'.context)
    (line : String) : c.heardLine line = c'.heardLine line := by
  apply heard_congr
  unfold knowDocument
  cases Document.extract? line with
  | none => exact h
  | some document => simp only [know, h]

namespace Agent

variable {a : Agent} {around around' : Circumstances}

/-- Circumstances that are `Indifferent` for the actions make no difference to a step. -/
theorem Indifferent.result_step (h : a.Indifferent around around') (state : String)
    (ctx : Context) :
    (a.engine.step around state ctx).result = (a.engine.step around' state ctx).result := by
  apply Engine.result_step_congr
  intro i t action chooses haction
  -- an action that is called is one of the table, and so it replies the same
  obtain ⟨ts, hts, hfirst⟩ := chooses.first
  obtain rfl := Except.ok.inj hts
  have hlisted : t ∈ a.table.transitionsFrom state := List.mem_of_getElem? hfirst.listed
  exact h (Engine.callOf action ctx) (FlowTable.mem_actionTypes hlisted haction)

/-- Conversations that are `Alike` take a line in the same way, whatever the monitors have seen. -/
theorem Indifferent.dispatchLine (h : a.Indifferent around around') {c c' : Conversation}
    (hc : c.Alike c') (m m' : Monitor) (line : String) :
    (a.engine.dispatchLine m around c line).step.result =
      (a.engine.dispatchLine m' around' c' line).step.result ∧
    (a.engine.dispatchLine m around c line).conversation.Alike
      (a.engine.dispatchLine m' around' c' line).conversation := by
  have hheard := Conversation.heardLine_congr hc.context line
  have hresult : (a.engine.dispatchLine m around c line).step.result =
      (a.engine.dispatchLine m' around' c' line).step.result := by
    rw [Engine.dispatchLine_step, Engine.dispatchLine_step, hc.state, hheard]
    exact h.result_step c'.state (c'.heardLine line)
  refine ⟨hresult, ?_⟩
  rw [Engine.dispatchLine_conversation, Engine.dispatchLine_conversation, hresult]
  have hhearing : ({ c with context := c.heardLine line } : Conversation).Alike
      { c' with context := c'.heardLine line } := ⟨hc.state, hheard, hc.history⟩
  exact hhearing.settle around.now around'.now _

theorem alike_greet (a : Agent) (around around' : Circumstances) :
    (a.greet around).Alike (a.greet around') := ⟨rfl, rfl, rfl⟩

end Agent

namespace Session

variable {a : Agent} {s s' : Session}

/-- Sessions with conversations that are `Alike` take a line alike. -/
theorem alike_hear (hs : s.conversation.Alike s'.conversation) {h h' : Heard}
    (hh : h.Repeats a h') :
    (⟨h, (s.hear a h).2, s.ended a h⟩ : Taken).Alike ⟨h', (s'.hear a h').2, s'.ended a h'⟩ ∧
    (s.hear a h).1.conversation.Alike (s'.hear a h').1.conversation := by
  obtain ⟨hline, hindifferent⟩ := hh
  unfold hear ended
  rw [← hline]
  cases hkind : TypedLine.ofText h.line with
  | blank => exact ⟨⟨fun _ _ => rfl, rfl⟩, hs⟩
  | newConversation =>
    refine ⟨⟨?_, rfl⟩, a.alike_greet h.around h'.around⟩
    intro _ htoken
    have hsame : h.around.token = h'.around.token := htoken hkind
    simp only [Agent.greet, Conversation.start, hsame]
  | summary =>
    refine ⟨⟨?_, rfl⟩, hs⟩
    intro hnot
    exact absurd hkind hnot
  | message text =>
    obtain ⟨hresult, halike⟩ := hindifferent.dispatchLine hs s.monitor s'.monitor text
    refine ⟨⟨?_, ?_⟩, halike⟩
    · intro _ _
      simp only [hresult, halike.state]
    · simp only [Option.map_some, hresult]

/-- Sessions with conversations that are `Alike` take lines alike, one by one, and keep their
conversations alike. -/
theorem forall₂_log {R : Heard → Heard → Prop} (hR : ∀ {h h'}, R h h' → h.Repeats a h')
    (hs : s.conversation.Alike s'.conversation) {lines lines' : List Heard}
    (hlines : List.Forall₂ R lines lines') :
    List.Forall₂ (fun t t' => R t.heard t'.heard ∧ t.Alike t') (s.log a lines)
      (s'.log a lines') ∧
    (s.run a lines).1.conversation.Alike (s'.run a lines').1.conversation := by
  -- the monitors of the two sessions differ; only the conversations are carried along as alike
  induction hlines generalizing s s' with
  | nil => exact ⟨.nil, hs⟩
  | cons hh _ ih =>
    obtain ⟨htaken, halike⟩ := alike_hear hs (hR hh)
    obtain ⟨hrest, hend⟩ := ih halike
    rw [run_cons, run_cons]
    exact ⟨.cons ⟨hh, htaken⟩ hrest, hend⟩

/-! ## What the monitor has counted -/

/-- The line `h` is counted by the step that was taken for it. -/
theorem tallies_hear {counted : (Said × Step → Bool) → Nat} (hs : s.monitor.Tallies counted)
    (h : Heard) :
    (s.hear a h).1.monitor.Tallies fun p => counted p + (s.ended a h).toList.countP p := by
  unfold hear ended
  cases TypedLine.ofText h.line with
  | message text =>
    dsimp only
    rw [Engine.dispatchLine, Engine.dispatch_monitor a.engine s.monitor _
      ⟨h.around, text, Routing.route text⟩]
    exact hs.recordStep _ _
  | blank => exact hs
  | newConversation => exact hs
  | summary => exact hs

/-- The messages of the session `s` with the steps that were taken for them. -/
def steps (a : Agent) (s : Session) (lines : List Heard) : List (Said × Step) :=
  (s.log a lines).filterMap Taken.ended

theorem steps_cons (s : Session) (h : Heard) (rest : List Heard) :
    s.steps a (h :: rest) = (s.ended a h).toList ++ (s.hear a h).1.steps a rest := by
  unfold steps
  rw [log, List.filterMap_cons]
  cases s.ended a h <;> rfl

/-- The monitor counts the messages of all conversations (`Monitor.Tallies`). -/
theorem tallies_run {counted : (Said × Step → Bool) → Nat} (hs : s.monitor.Tallies counted)
    (lines : List Heard) :
    (s.run a lines).1.monitor.Tallies fun p => counted p + (s.steps a lines).countP p := by
  -- a new conversation is one more line that counts for nothing, so the lines need no cutting
  induction lines generalizing s counted with
  | nil => exact hs
  | cons h rest ih =>
    rw [run_cons]
    simp only [steps_cons, List.countP_append, ← Nat.add_assoc]
    exact ih (tallies_hear hs h)

/-- A line is a message unless it is blank or one of the commands `/nueva` and `/resumen`. -/
theorem isSome_ended (s : Session) (h : Heard) :
    (s.ended a h).isSome = decide (Text.trim h.line ∉ ["", "/nueva", "/resumen"]) := by
  unfold ended TypedLine.ofText
  dsimp only
  by_cases hblank : Text.trim h.line = ""
  · simp [hblank]
  by_cases hnew : Text.trim h.line = "/nueva"
  · simp [hnew]
  by_cases hsummary : Text.trim h.line = "/resumen"
  · simp [hsummary]
  · simp [hblank, hnew, hsummary]

theorem length_steps (s : Session) (lines : List Heard) :
    (s.steps a lines).length =
      lines.countP fun h => Text.trim h.line ∉ ["", "/nueva", "/resumen"] := by
  induction lines generalizing s with
  | nil => rfl
  | cons h rest ih =>
    rw [steps_cons, List.length_append, ih, List.countP_cons, ← s.isSome_ended (a := a) h]
    cases s.ended a h <;> simp [Nat.add_comm]

/-- Every step that is waited for `hasReturned`. -/
theorem hasReturned_of_mem_steps {lines : List Heard}
    (hwaits : ∀ h ∈ lines, h.around.patience = none) {p : Said × Step}
    (hp : p ∈ s.steps a lines) : p.2.hasReturned = true := by
  induction lines generalizing s with
  | nil => cases hp
  | cons h rest ih =>
    rw [steps_cons, List.mem_append] at hp
    rcases hp with hhead | hrest
    · rw [Option.mem_toList] at hhead
      unfold ended at hhead
      split at hhead
      · obtain rfl := Option.some.inj hhead
        apply Step.hasReturned_of_ne_abandoned
        rw [Engine.dispatchLine_step]
        exact Engine.result_step_ne_abandoned
          (a.registry.reply_ne_abandoned (hwaits h List.mem_cons_self)) _ _
      · cases hhead
    · exact ih (fun g hg => hwaits g (List.mem_cons_of_mem h hg)) hrest

/-- If every reply is waited for, as many steps return as there are messages. -/
theorem countP_hasReturned_steps {lines : List Heard}
    (hwaits : ∀ h ∈ lines, h.around.patience = none) (s : Session) :
    (s.steps a lines).countP (·.2.hasReturned) =
      lines.countP fun h => Text.trim h.line ∉ ["", "/nueva", "/resumen"] := by
  rw [← s.length_steps lines]
  exact List.countP_eq_length.2 fun _ hp => hasReturned_of_mem_steps hwaits hp

/-- The monitor of a session that has just begun counts the lines of that session. -/
theorem tallies_start (a : Agent) (opening : Circumstances) (lines : List Heard) :
    ((start a opening).run a lines).1.monitor.Tallies ((start a opening).steps a lines).countP := by
  have hempty : (start a opening).monitor.Tallies fun _ => 0 :=
    Monitor.tallies_empty a.settings.monitor
  simpa only [Nat.zero_add] using tallies_run hempty lines

/-! ## Two customers at one terminal -/

/-- The line that begins a new conversation. -/
def renewal (around : Circumstances) : Heard :=
  ⟨around, "/nueva"⟩

/-- What is to hold of a session in which the lines `before` are typed, then a new conversation is
begun, and then the lines `after` are typed. -/
structure Renewed (a : Agent) (opening renewing : Circumstances) (before after : List Heard) :
    Prop where
  /-- All that is shown is what the lines are answered, as the `log` keeps it. -/
  printed : ((start a opening).run a (before ++ renewal renewing :: after)).2 =
    ((start a opening).log a (before ++ renewal renewing :: after)).flatMap Taken.shown
  /-- The later lines are answered as in a session that began with them, but for the figures of a
  `summary`. -/
  forgotten : ∀ around, List.Forall₂
    (fun t t' => t.heard = t'.heard ∧
      (TypedLine.ofText t.heard.line ≠ .summary → t.shown = t'.shown))
    (((start a opening).log a (before ++ renewal renewing :: after)).drop (before.length + 1))
    ((start a around).log a after)
  /-- They are answered alike also when they are typed in other circumstances, as long as these make
  no difference to the actions of the flow (`Heard.Repeats`). -/
  anytime : ∀ around after', List.Forall₂ (Heard.Repeats a) after after' →
    List.Forall₂ Taken.Alike
      (((start a opening).log a (before ++ renewal renewing :: after)).drop (before.length + 1))
      ((start a around).log a after')
  /-- In the end the conversation is in the state and knows the fields that the lines `after` alone
  have brought about. -/
  conversation : ∀ around,
    ((start a opening).run a (before ++ renewal renewing :: after)).1.conversation.Alike
      ((start a around).run a after).1.conversation
  /-- If every reply is waited for, the monitor has counted all lines but blank ones and commands. -/
  total : (∀ h ∈ before ++ after, h.around.patience = none) →
    ((start a opening).run a (before ++ renewal renewing :: after)).1.monitor.summary.total =
      (before ++ after).countP fun h => Text.trim h.line ∉ ["", "/nueva", "/resumen"]
  /-- The steps of the session are those of the earlier lines and then those of the later ones, and
  the monitor has counted the ones that failed. -/
  errors : ((start a opening).run a (before ++ renewal renewing :: after)).1.monitor.summary.errors =
    ((start a opening).steps a (before ++ renewal renewing :: after)).countP (·.2.hasFailed)
  /-- These are as many as fail before, and fail in a session that begins with the later lines. -/
  shares : ∀ around,
    ((start a opening).steps a (before ++ renewal renewing :: after)).countP (·.2.hasFailed) =
      ((start a opening).steps a before).countP (·.2.hasFailed) +
      ((start a around).steps a after).countP (·.2.hasFailed)

theorem ofText_renewal (around : Circumstances) :
    TypedLine.ofText (renewal around).line = .newConversation := by
  show TypedLine.ofText "/nueva" = .newConversation
  decide +kernel

theorem hear_renewal (s : Session) (renewing : Circumstances) :
    (s.hear a (renewal renewing)).1 = { s with conversation := a.greet renewing } := by
  unfold hear
  rw [ofText_renewal]
  rfl

theorem steps_append (s : Session) (lines more : List Heard) :
    s.steps a (lines ++ more) = s.steps a lines ++ (s.run a lines).1.steps a more := by
  rw [steps, log_append, List.filterMap_append]
  rfl

theorem steps_renewal (s : Session) (renewing : Circumstances) (after : List Heard) :
    s.steps a (renewal renewing :: after) =
      ({ s with conversation := a.greet renewing } : Session).steps a after := by
  have hended : s.ended a (renewal renewing) = none := by
    unfold ended
    rw [ofText_renewal]
  rw [steps_cons, hended, hear_renewal]
  rfl

/-- Logs that are alike have equally many steps that failed. -/
theorem countP_hasFailed_of_alike {log log' : List Taken} (h : List.Forall₂ Taken.Alike log log') :
    (log.filterMap Taken.ended).countP (·.2.hasFailed) =
      (log'.filterMap Taken.ended).countP (·.2.hasFailed) := by
  -- a step counts by its result, and that is what the logs have in common
  have hresults : (log.filterMap fun t => t.ended.map (·.2.result)) =
      log'.filterMap fun t => t.ended.map (·.2.result) := by
    induction h with
    | nil => rfl
    | cons ht _ ih => rw [List.filterMap_cons, List.filterMap_cons, ht.result, ih]
  have hcount : ∀ log : List Taken, (log.filterMap Taken.ended).countP (·.2.hasFailed) =
      (log.filterMap fun t => t.ended.map (·.2.result)).countP (·.success? = some false) := by
    intro log
    rw [← List.map_filterMap, List.countP_map]
    rfl
  rw [hcount, hcount, hresults]

/-- A new conversation knows nothing of the old one, and the monitor forgets nothing (`Renewed`). -/
theorem renewed_run (a : Agent) (opening renewing : Circumstances) (before after : List Heard) :
    Renewed a opening renewing before after := by
  let renewed : Session :=
    { ((start a opening).run a before).1 with conversation := a.greet renewing }
  have hrenewed : (((start a opening).run a before).1.hear a (renewal renewing)).1 = renewed :=
    hear_renewal _ renewing
  have hend : ((start a opening).run a (before ++ renewal renewing :: after)).1 =
      (renewed.run a after).1 := by
    rw [run_append, run_cons, hrenewed]
  -- both sessions go on from a conversation that has just begun
  have hfresh : ∀ around, renewed.conversation.Alike (start a around).conversation :=
    fun around => a.alike_greet renewing around
  have hsame : List.Forall₂ (· = ·) after after := List.forall₂_refl after
  have hrepeats : ∀ {h h' : Heard}, h = h' → h.Repeats a h' := by
    rintro h _ rfl
    exact ⟨rfl, .refl a h.around⟩
  have hsteps : (start a opening).steps a (before ++ renewal renewing :: after) =
      (start a opening).steps a before ++ renewed.steps a after := by
    rw [steps_append, steps_renewal]
  have htallies := tallies_start a opening (before ++ renewal renewing :: after)
  constructor
  case printed => exact run_shown _ _
  case forgotten =>
    intro around
    rw [drop_log, hrenewed]
    refine (forall₂_log hrepeats (hfresh around) hsame).1.imp ?_
    rintro t t' ⟨hheard, halike⟩
    refine ⟨hheard, fun hnot => halike.shown hnot fun _ => ?_⟩
    rw [hheard]
  case anytime =>
    intro around after' hafter
    rw [drop_log, hrenewed]
    exact (forall₂_log id (hfresh around) hafter).1.imp fun _ _ h => h.2
  case conversation =>
    intro around
    rw [hend]
    exact (forall₂_log hrepeats (hfresh around) hsame).2
  case total =>
    intro hwaits
    have hbefore : ∀ h ∈ before, h.around.patience = none :=
      fun h hh => hwaits h (List.mem_append_left after hh)
    have hafter : ∀ h ∈ after, h.around.patience = none :=
      fun h hh => hwaits h (List.mem_append_right before hh)
    rw [hsteps] at htallies
    refine htallies.total.trans ?_
    rw [List.countP_append, countP_hasReturned_steps hbefore, countP_hasReturned_steps hafter,
      List.countP_append]
  case errors => exact htallies.errors
  case shares =>
    intro around
    have halike := (forall₂_log hrepeats (hfresh around) hsame).1.imp fun _ _ h => h.2
    rw [hsteps, List.countP_append]
    exact congrArg _ (countP_hasFailed_of_alike halike)

/-- The second customer greets, and is asked for a document although the first one has given one; an
hour later the greeting would be taken in the same way. -/
theorem renewed_run_second_customer :
    let document : FlowCondition := ⟨1, "tiene_documento_valido"⟩
    let reply : FlowAction :=
      ⟨1, "responder", "send_template", .ofMembers [("template", .str "Gracias")]⟩
    let table : FlowTable :=
      ⟨"saludo", ["saludo", "fin"], [("saludo", ⟨some document, some reply, "fin"⟩)]⟩
    let a := Agent.assemble {} table none
    let around : Circumstances := { now := ⟨0, 0, 0⟩, token := "a" }
    let later : Circumstances := { now := ⟨0, 3600, 0⟩, token := "b" }
    let before : List Heard := [⟨around, "1234567"⟩, ⟨around, "hola"⟩]
    let after : List Heard := [⟨around, " hola "⟩]
    Renewed a around around before after ∧
      ((start a around).run a before).1.conversation.state = "fin" ∧
      ((start a around).run a (before ++ renewal around :: after)).1.conversation.state = "saludo" ∧
      List.Forall₂ Taken.Alike
        (((start a around).log a (before ++ renewal around :: after)).drop (before.length + 1))
        ((start a later).log a [⟨later, " hola "⟩]) ∧
      ((start a around).run a (before ++ renewal around :: after)).1.monitor.summary.total = 3 ∧
      ((start a around).run a (before ++ renewal around :: after)).1.monitor.summary.errors = 2 := by
  intro document reply table a around later before after
  have hrenewed : Renewed a around around before after := renewed_run a around around before after
  have hkinds : ∀ type ∈ table.actionTypes, ActionKind.ofText type = .sendTemplate := by
    decide +kernel
  have hindifferent : a.Indifferent around later := by
    refine Agent.indifferent_assemble (show around.patience = later.patience from rfl) ?_ ?_
    all_goals
      rintro ⟨type, htype, hkind⟩
      rw [hkinds type htype] at hkind
      cases hkind
  have hrepeats : (⟨around, " hola "⟩ : Heard).Repeats a ⟨later, " hola "⟩ := ⟨rfl, hindifferent⟩
  have hwaits : ∀ h ∈ before ++ after, h.around.patience = none := by
    simp [before, after, around]
  have htotal := hrenewed.total hwaits
  have herrors := hrenewed.errors
  refine ⟨hrenewed, by decide +kernel, by decide +kernel,
    hrenewed.anytime later _ (.cons hrepeats .nil), htotal.trans ?_, herrors.trans ?_⟩
  · decide +kernel
  · decide +kernel

end Session

end Dunning
