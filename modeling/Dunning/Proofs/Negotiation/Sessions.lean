import Dunning.Proofs.Conversation.ClosedFlow
import Dunning.Proofs.Conversation.Lines
import Dunning.Proofs.Negotiation.Answers

/-!
# The negotiation never fails

Whatever is typed, the agent of the negotiation takes it up. In every state but the last one, `fin`,
some transition is open and its action answers, for the balance is finite at any time (`Sound`); in
the last state nothing fits any more. So the only refusal that is ever shown is that nothing fits
(`takesUp_of_run`).
-/

namespace Dunning.Negotiation

variable {settings : Settings} {around : Circumstances} {c : Conversation}

/-! ## What holds of the conversation at any time -/

/-- The conversation `c` is in a state of the flow, and its balance is finite. -/
structure Sound (c : Conversation) : Prop where
  known : c.state ∈ table.states
  finite : c.context.FiniteBalance

theorem sound_greet (settings : Settings) (query : QueryBackend) (around : Circumstances) :
    Sound ((agent settings query).greet around) where
  known := closed_table.initial
  finite := by
    intro value hvalue
    cases hvalue

/-- Hearing a line does not set `saldo`. -/
theorem Sound.finite_heardLine (hc : Sound c) (line : String) : (c.heardLine line).FiniteBalance := by
  intro value hvalue
  rw [c.heardLine_get? line (by decide)] at hvalue
  exact hc.finite value hvalue

theorem Sound.takesLine {line : String} {result : StepResult} {after : Conversation}
    (hc : Sound c)
    (h : (agent settings customers.query).engine.TakesLine around c line result after) :
    Sound after := by
  cases h with
  | stays _ => exact ⟨hc.known, hc.finite_heardLine line⟩
  | passes chooses _ =>
    obtain ⟨hedge, -⟩ := edge_of_chooses chooses
    exact ⟨closed_table.target _ hedge, hc.finite_heardLine line⟩
  | @acts i t a changes chooses haction hreply =>
    obtain ⟨hedge, -⟩ := edge_of_chooses chooses
    obtain ⟨b, hb, hab⟩ := exists_action hedge
    obtain rfl := Option.some.inj (haction.symm.trans hab)
    exact ⟨closed_table.target _ hedge, finiteBalance_merge (hc.finite_heardLine line)
      (saldo_not_mem_footprint a hb) ((reply_eq_delta_iff settings).1 hreply).2⟩

/-! ## What a line comes to -/

/-- Before `fin` some transition is chosen, whatever is known. -/
theorem exists_chooses {state : String} (hstate : state ∈ table.states) (hfin : state ≠ "fin")
    (settings : Settings) (query : QueryBackend) (ctx : Context) :
    ∃ i t, (agent settings query).engine.Chooses state ctx i t := by
  obtain ⟨t, hlisted, hdefault⟩ := exists_default hstate hfin
  exact closed_table.exists_chooses hstate hlisted hdefault _ _ ctx

/-- Before `fin` every line is taken up, and an action of the flow has answered. -/
theorem Sound.advances (hc : Sound c) (hfin : c.state ≠ "fin") (haround : around.Attended)
    (settings : Settings) (m : Monitor) (line : String) :
    ∃ i target, target ∈ table.states ∧ ∃ a ∈ actions, ∃ changes,
      Registry.standardAnswer (some customers.query) around a.payload (c.heardLine line)
        (kindOf a) = .ok changes ∧
      ((agent settings customers.query).engine.dispatchLine m around c line).step.result =
        .advanced ⟨c.state, target, i, some ⟨a.name, a.type, changes⟩⟩ := by
  obtain ⟨i, t, chooses⟩ :=
    exists_chooses hc.known hfin settings customers.query (c.heardLine line)
  obtain ⟨hedge, -⟩ := edge_of_chooses chooses
  obtain ⟨a, ha, haction⟩ := exists_action hedge
  obtain ⟨changes, hanswer⟩ :=
    exists_answer haround (hc.finite_heardLine line) (suits_of_mem_actions a ha)
  have hwaits : around.patience.all (0 < ·) = true := by
    rw [haround.waits]
    rfl
  have hreply := (reply_eq_delta_iff settings).2 ⟨hwaits, hanswer⟩
  refine ⟨i, t.target, closed_table.target _ hedge, a, ha, changes, hanswer, ?_⟩
  rw [Engine.dispatchLine_step, Engine.step_of_action chooses haction]
  dsimp only
  rw [hreply, Engine.resultOf]

/-- In `fin` nothing fits. -/
theorem refuses (hfin : c.state = "fin") (settings : Settings) (query : QueryBackend)
    (around : Circumstances) (m : Monitor) (line : String) :
    ((agent settings query).engine.dispatchLine m around c line).step.result =
      .failed (.noApplicableTransition "fin") := by
  have hselect : (agent settings query).engine.select c.state (c.heardLine line) =
      .error (.noApplicableTransition "fin") := by
    rw [hfin]
    exact closed_table.select_of_nil (by decide) transitionsFrom_fin _ _ _
  rw [Engine.dispatchLine_step, Engine.step_of_error hselect]

theorem state_of_fin (hfin : c.state = "fin") (settings : Settings) (query : QueryBackend)
    (around : Circumstances) (m : Monitor) (line : String) :
    ((agent settings query).engine.dispatchLine m around c line).conversation.state = "fin" := by
  rw [Engine.dispatchLine_conversation, refuses hfin]
  exact hfin

/-! ## What is shown -/

/-- `text` is one that stands in for a reply when handling a message went wrong. -/
def IsErrorReply (text : String) : Prop :=
  ∃ state ∈ table.states, ∃ cause : String, text = s!"[{state}] error: {cause}"

theorem bracket_not_mem_states : ∀ state ∈ table.states, ']' ∉ state.toList := by
  decide +kernel

theorem dropWhile_state {state : String} (h : state ∈ table.states) (rest : List Char) :
    (state.toList ++ ']' :: rest).dropWhile (· ≠ ']') = ']' :: rest := by
  have hname : ∀ c ∈ state.toList, decide (c ≠ ']') = true := by
    intro c hc
    rw [decide_eq_true_eq]
    rintro rfl
    exact bracket_not_mem_states state h hc
  rw [List.dropWhile_append_of_pos hname, List.dropWhile_cons_of_neg (by simp)]

/-- A text that names a state in brackets is no `IsErrorReply` unless it goes on as one. -/
theorem not_isErrorReply_of_state {target : String} (htarget : target ∈ table.states)
    {text : String} {rest : List Char} (htext : text.toList = '[' :: (target.toList ++ ']' :: rest))
    (hrest : ∀ cs, rest ≠ ' ' :: 'e' :: cs) : ¬ IsErrorReply text := by
  rintro ⟨state, hstate, cause, rfl⟩
  have herror : (s!"[{state}] error: {cause}").toList =
      '[' :: (state.toList ++ ']' :: ' ' :: 'e' :: ("rror: ".toList ++ cause.toList)) := by
    simp [toString]
  rw [herror] at htext
  have hafter := congrArg (List.dropWhile (· ≠ ']')) (List.cons.inj htext).2
  rw [dropWhile_state hstate, dropWhile_state htarget] at hafter
  exact hrest _ (List.cons.inj hafter).2.symm

/-- A text that does not begin with a bracket is no error. -/
theorem not_isErrorReply_of_head {text : String} (h : text.toList.head? ≠ some '[') :
    ¬ IsErrorReply text := by
  rintro ⟨state, _, cause, rfl⟩
  apply h
  simp [toString]

/-- What an action `a` of the flow brings is never shown as an error. -/
theorem not_isErrorReply_show {source target state : String} {i : Nat} {a : ActionOutcome}
    (htarget : target ∈ table.states)
    (hreply : ∀ text, a.reply? = some text → ∃ c cs, text.toList = c :: cs ∧ c ≠ 'e') :
    ¬ IsErrorReply (StepResult.show state (.advanced ⟨source, target, i, some a⟩)) := by
  cases hcase : a.reply? with
  | none =>
    have hshow : (StepResult.show state (.advanced ⟨source, target, i, some a⟩)).toList =
        '[' :: (target.toList ++ ']' :: []) := by
      simp [StepResult.show, hcase, toString]
    exact not_isErrorReply_of_state htarget hshow (by simp)
  | some text =>
    have hshow : (StepResult.show state (.advanced ⟨source, target, i, some a⟩)).toList =
        '[' :: (target.toList ++ ']' :: ' ' :: text.toList) := by
      simp [StepResult.show, hcase, toString]
    obtain ⟨c, cs, htext, hne⟩ := hreply text hcase
    apply not_isErrorReply_of_state htarget hshow
    intro rest heq
    rw [htext] at heq
    exact hne (List.cons.inj (List.cons.inj heq).2).1

theorem not_isErrorReply_refusal :
    ¬ IsErrorReply (StepResult.show "fin" (.failed (.noApplicableTransition "fin"))) := by
  have hshow : (StepResult.show "fin" (.failed (.noApplicableTransition "fin"))).toList =
      '[' :: ("fin".toList ++ ']' :: ' ' :: "(sin transición para este mensaje)".toList) := by
    decide +kernel
  apply not_isErrorReply_of_state (by decide) hshow
  simp

theorem head?_summary (s : Session) (around : Circumstances) :
    (s.summary around).toList.head? = some '\x7b' := by
  rw [Session.summary, Json.indented, String.toList_ofList, Summary.toJson, Json.indentedList]
  rfl

/-! ## Sessions -/

/-- What is to hold of a line `h` that is typed in the session `s`. -/
structure TakesUp (a : Agent) (s : Session) (h : Heard) : Prop where
  /-- Before `fin` a message takes the conversation on. -/
  advanced : ∀ text, TypedLine.ofText h.line = .message text → s.conversation.state ≠ "fin" →
    ∃ o, (a.engine.dispatchLine s.monitor h.around s.conversation text).step.result = .advanced o
  /-- In `fin` no transition fits. -/
  refused : ∀ text, TypedLine.ofText h.line = .message text → s.conversation.state = "fin" →
    (a.engine.dispatchLine s.monitor h.around s.conversation text).step.result =
      .failed (.noApplicableTransition "fin")
  /-- No error (`IsErrorReply`) is shown. -/
  shown : ∀ text ∈ (s.hear a h).2, ¬ IsErrorReply text
  /-- A conversation stays in `fin` until there is a new one. -/
  stays : s.conversation.state = "fin" → TypedLine.ofText h.line ≠ .newConversation →
    (s.hear a h).1.conversation.state = "fin"

theorem shown_of_sound {s : Session} {h : Heard} (hs : Sound s.conversation)
    (hh : h.around.Attended) (settings : Settings) :
    ∀ text ∈ (s.hear (agent settings customers.query) h).2, ¬ IsErrorReply text := by
  intro text htext
  unfold Session.hear at htext
  split at htext
  · cases htext
  -- of all that is shown, only the line for a message begins with a state in brackets
  · obtain rfl := List.mem_singleton.1 htext
    apply not_isErrorReply_of_head
    simp
  · obtain rfl := List.mem_singleton.1 htext
    apply not_isErrorReply_of_head
    rw [head?_summary]
    decide
  · rename_i line _
    obtain rfl := List.mem_singleton.1 htext
    by_cases hfin : s.conversation.state = "fin"
    · rw [refuses hfin, state_of_fin hfin]
      exact not_isErrorReply_refusal
    · obtain ⟨i, target, htarget, a, ha, changes, hanswer, hresult⟩ :=
        hs.advances hfin hh settings s.monitor line
      rw [hresult]
      exact not_isErrorReply_show htarget fun text htext =>
        exists_of_reply (suits_of_mem_actions a ha) (reply_not_mem_footprint a ha) hanswer htext

/-- A conversation that has come to `fin` stays there until there is a new one. -/
theorem state_hear_of_fin {s : Session} (hfin : s.conversation.state = "fin") {h : Heard}
    (hnew : TypedLine.ofText h.line ≠ .newConversation) (settings : Settings)
    (query : QueryBackend) : (s.hear (agent settings query) h).1.conversation.state = "fin" := by
  unfold Session.hear
  split
  · exact hfin
  · rename_i hline
    exact absurd hline hnew
  · exact hfin
  · exact state_of_fin hfin settings query h.around s.monitor _

/-- Whatever was typed `before`, the agent of the negotiation with the records of `customers` takes
up every line: no message fails but in the last state, and there only because nothing fits. -/
theorem takesUp_of_run (settings : Settings) (begun : Circumstances) (before : List Heard)
    (h : Heard) (hattended : ∀ g ∈ before ++ [h], g.around.Attended) :
    TakesUp (agent settings customers.query)
      ((Session.start (agent settings customers.query) begun).run (agent settings customers.query)
        before).1 h := by
  have hbefore : ∀ g ∈ before, g.around.Attended := by
    intro g hg
    exact hattended g (List.mem_append_left [h] hg)
  have hh : h.around.Attended := hattended h (List.mem_append_right before List.mem_cons_self)
  have hsound : Sound ((Session.start (agent settings customers.query) begun).run
      (agent settings customers.query) before).1.conversation :=
    Session.run_invariant (sound_greet settings customers.query)
      (fun _ hc htakes => Sound.takesLine hc htakes) (sound_greet settings customers.query begun)
      hbefore
  constructor
  · intro text _ hfin
    obtain ⟨_, _, _, _, _, _, _, hresult⟩ := hsound.advances hfin hh settings _ text
    exact ⟨_, hresult⟩
  · intro text _ hfin
    exact refuses hfin settings customers.query h.around _ text
  · exact shown_of_sound hsound hh settings
  · intro hfin hnew
    exact state_hear_of_fin hfin hnew settings customers.query

/-- After an agreement the conversation is at its end, and the next message fits nothing. -/
theorem takesUp_after_agreement :
    let around : Circumstances := { now := ⟨0, 0, 0⟩, token := "" }
    let hear (line : String) : Heard := { around, line }
    let a := agent {} customers.query
    let before := ["hola", "93388915", "no puedo", "el plan 2", "gracias"].map hear
    let s := ((Session.start a around).run a before).1
    (∀ g ∈ before ++ [hear "hola"], g.around.Attended) ∧ s.conversation.state = "fin" ∧
      TakesUp a s (hear "hola") := by
  intro around hear a before s
  have hattended : ∀ g ∈ before ++ [hear "hola"], g.around.Attended := by
    have haround : around.Attended := ⟨rfl, by decide, by decide⟩
    intro g hg
    rcases List.mem_append.1 hg with hg | hg
    · obtain ⟨line, _, rfl⟩ := List.mem_map.1 hg
      exact haround
    · obtain rfl := List.mem_singleton.1 hg
      exact haround
  have hfin : s.conversation.state = "fin" := by decide +kernel
  have htakes := takesUp_of_run {} around before (hear "hola") hattended
  exact ⟨hattended, hfin, htakes⟩

end Dunning.Negotiation
