import Dunning.Proofs.Conversation.Dispatches
import Mathlib.Logic.Function.Basic

/-!
# Conversations that share a dispatcher

Many conversations share one engine and one monitor. A dispatch takes its time: it begins when the
conversation hears the message and takes a step, and it ends when the step is settled and recorded.
In between the other conversations go on, so what is run is a schedule of such moments. A
conversation is lent to one dispatch at a time; its own moments therefore come in pairs, and any
order that respects this is a schedule. If nothing comes in between, the two moments are
`Engine.dispatch` (`Desk.run_moments`).

A moment touches one conversation and the monitor, and no conversation looks at the monitor. So each
conversation sees its own moments only (`Desk.exchanges_run`), and these are its messages dispatched
one after another (`Exchange.foldl_pass_flatMap`).
-/

namespace Dunning

/-! ## A conversation alone -/

/-- A record of the history without its time. -/
def TransitionRecord.untimed (r : TransitionRecord) : String × String × Option String :=
  (r.source, r.target, r.action)

/-- Two conversations are in the same state, know the same and have the same history, whenever the
transitions were taken. -/
structure Conversation.Alike (c c' : Conversation) : Prop where
  state : c.state = c'.state
  context : c.context = c'.context
  history : c.history.map TransitionRecord.untimed = c'.history.map TransitionRecord.untimed

/-- The same message under the same decision, in whatever circumstances `around`. -/
structure Said.SameWords (s s' : Said) : Prop where
  message : s.message = s'.message
  decision : s.decision = s'.decision

/-- What the executor `x` replies to a call is the same in all circumstances. -/
def Executor.IsSteady (x : Executor) : Prop :=
  ∀ around around' call, (x around call).reply = (x around' call).reply

namespace Conversation

theorem heard_congr {c c' : Conversation} (h : c.context = c'.context) (message : String)
    (d : Decision) : c.heard message d = c'.heard message d := by
  unfold heard knowIntention
  cases d.intention with
  | none => rw [h]
  | some intention => simp only [know, h]

namespace Alike

theorem refl (c : Conversation) : c.Alike c := ⟨rfl, rfl, rfl⟩

variable {c c' : Conversation}

theorem hear (h : c.Alike c') (message : String) (d : Decision) :
    (c.hear message d).Alike (c'.hear message d) :=
  ⟨h.state, heard_congr h.context message d, h.history⟩

theorem settle (h : c.Alike c') (now now' : Timestamp) (r : StepResult) :
    (c.settle now r).Alike (c'.settle now' r) := by
  cases r with
  | advanced o =>
    refine ⟨rfl, ?_, ?_⟩
    · simp only [Conversation.settle, advance, h.context]
    · simp only [Conversation.settle, advance, List.map_append, h.history]
      rfl
  | failed error => exact h
  | abandoned => exact h

end Alike

end Conversation

namespace Engine

/-- An executor that `IsSteady` makes the steps of an engine end in the same way in all
circumstances. -/
theorem result_step_of_isSteady {e : Engine} (h : e.executor.IsSteady)
    (around around' : Circumstances) (state : String) (ctx : Context) :
    (e.step around state ctx).result = (e.step around' state ctx).result :=
  result_step_congr fun _ _ a _ _ => h around around' (callOf a ctx)

/-- The conversation `c` after messages were dispatched one after another, and the steps that were
taken. -/
def converse (e : Engine) (m : Monitor) (c : Conversation) (said : List Said) :
    Conversation × List Step :=
  let dispatched := e.dispatchAll m c said
  ((dispatched.getLast?.map (·.conversation)).getD c, dispatched.map (·.step))

theorem converse_cons (e : Engine) (m : Monitor) (c : Conversation) (s : Said) (rest : List Said) :
    e.converse m c (s :: rest) =
      let d := e.dispatch m s.around c s.message s.decision
      ((e.converse d.monitor d.conversation rest).1,
        d.step :: (e.converse d.monitor d.conversation rest).2) := by
  unfold converse
  rw [dispatchAll]
  dsimp only
  rw [List.getLast?_cons, List.map_cons]
  cases (dispatchAll _ _ _ rest).getLast? <;> rfl

theorem length_converse (e : Engine) (m : Monitor) (c : Conversation) (said : List Said) :
    (e.converse m c said).2.length = said.length := by
  induction said generalizing m c with
  | nil => rfl
  | cons s rest ih => rw [converse_cons, List.length_cons, ih, List.length_cons]

/-- With a steady executor the same words make the same of a conversation (`Conversation.Alike`),
whenever they are said and whatever else the monitor has seen. -/
theorem alike_converse {e : Engine} (h : e.executor.IsSteady) {c c' : Conversation}
    (hc : c.Alike c') (m m' : Monitor) {said said' : List Said}
    (hsaid : List.Forall₂ Said.SameWords said said') :
    (e.converse m c said).1.Alike (e.converse m' c' said').1 ∧
    (e.converse m c said).2.map (·.result) = (e.converse m' c' said').2.map (·.result) := by
  induction hsaid generalizing c c' m m' with
  | nil => exact ⟨hc, rfl⟩
  | @cons s s' rest rest' hs _ ih =>
    obtain ⟨hmessage, hdecision⟩ := hs
    have hresult : (e.dispatch m s.around c s.message s.decision).step.result =
        (e.dispatch m' s'.around c' s'.message s'.decision).step.result := by
      rw [dispatch_step, dispatch_step, hmessage, hdecision, hc.state,
        Conversation.heard_congr hc.context]
      exact result_step_of_isSteady h _ _ _ _
    have hnext : (e.dispatch m s.around c s.message s.decision).conversation.Alike
        (e.dispatch m' s'.around c' s'.message s'.decision).conversation := by
      rw [dispatch_conversation, dispatch_conversation, hresult, hmessage, hdecision]
      exact (hc.hear _ _).settle _ _ _
    obtain ⟨halike, hresults⟩ := ih hnext (e.dispatch m s.around c s.message s.decision).monitor
      (e.dispatch m' s'.around c' s'.message s'.decision).monitor
    rw [converse_cons, converse_cons]
    refine ⟨halike, ?_⟩
    dsimp only
    rw [List.map_cons, List.map_cons, hresult, hresults]

end Engine

/-! ## Moments -/

/-- One of the two moments of a dispatch that the other conversations can tell. -/
inductive Moment where
  /-- The conversation hears the message of `s` and takes a step. -/
  | begins (s : Said)
  /-- The step is settled and recorded. -/
  | ends

/-- The moments of a dispatch, in order. -/
def Said.moments (s : Said) : List Moment :=
  [.begins s, .ends]

/-- The monitor `m` after a step has ended; one that was abandoned is not recorded. -/
def Monitor.recordStep (m : Monitor) (s : Said) (step : Step) : Monitor :=
  match step.result.success? with
  | some success =>
    m.record s.around.now ⟨s.decision.tier, s.around.elapsedMs, success, s.decision.confidence⟩
  | none => m

theorem Engine.dispatch_monitor (e : Engine) (m : Monitor) (c : Conversation) (s : Said) :
    (e.dispatch m s.around c s.message s.decision).monitor =
      m.recordStep s (e.dispatch m s.around c s.message s.decision).step := by
  simp only [dispatch, e.handle_knowIntention]
  rfl

/-- A conversation with the dispatch that is under way in it, and with those that have ended, oldest
first. -/
structure Exchange where
  conversation : Conversation
  pending : Option (Said × Step) := none
  done : List (Said × Step) := []

namespace Exchange

/-- What a moment does to the conversation of `x`, to which it belongs. -/
def pass (e : Engine) (x : Exchange) : Moment → Exchange
  | .begins s =>
    { x with
      conversation := x.conversation.hear s.message s.decision
      pending := some (s, e.step s.around x.conversation.state
        (x.conversation.heard s.message s.decision)) }
  | .ends =>
    match x.pending with
    | none => x
    | some (s, step) =>
      { conversation := x.conversation.settle s.around.now step.result
        pending := none
        done := x.done ++ [(s, step)] }

/-- The dispatch that ends at a moment, if one does. -/
def ended (x : Exchange) : Moment → Option (Said × Step)
  | .begins _ => none
  | .ends => x.pending

theorem done_pass (e : Engine) (x : Exchange) (moment : Moment) :
    (x.pass e moment).done = x.done ++ (x.ended moment).toList := by
  unfold pass ended
  cases moment with
  | begins s => simp
  | ends => cases hpending : x.pending <;> simp

/-- The moments of a dispatch, when nothing of this conversation comes in between, are
`Engine.dispatch`. -/
theorem foldl_pass_moments (e : Engine) (m : Monitor) (s : Said) (x : Exchange) :
    s.moments.foldl (pass e) x =
      let d := e.dispatch m s.around x.conversation s.message s.decision
      { conversation := d.conversation, done := x.done ++ [(s, d.step)] } := by
  dsimp only
  rw [e.dispatch_conversation, e.dispatch_step]
  rfl

/-- A conversation that only sees its own moments goes through its messages one after another, as
`converse` has it. -/
theorem foldl_pass_flatMap (e : Engine) (m : Monitor) (c : Conversation)
    (done : List (Said × Step)) (said : List Said) :
    (said.flatMap Said.moments).foldl (pass e) { conversation := c, done } =
      { conversation := (e.converse m c said).1
        done := done ++ said.zip (e.converse m c said).2 } := by
  induction said generalizing m c done with
  | nil => simp [Engine.converse, Engine.dispatchAll]
  | cons s rest ih =>
    rw [List.flatMap_cons, List.foldl_append, foldl_pass_moments e m, Engine.converse_cons]
    dsimp only
    rw [ih (e.dispatch m s.around c s.message s.decision).monitor, List.zip_cons_cons,
      List.append_assoc, List.singleton_append]

end Exchange

/-! ## Schedules -/

/-- What shares a dispatcher: the monitor, and a number of conversations. -/
structure Desk (ι : Type) where
  monitor : Monitor
  exchanges : ι → Exchange

/-- The moments of the conversation `i` in a schedule, in order. -/
def momentsOf {ι : Type} [DecidableEq ι] (i : ι) (schedule : List (ι × Moment)) : List Moment :=
  (schedule.filter (·.1 = i)).map (·.2)

namespace Desk

variable {ι : Type} [DecidableEq ι]

/-- A desk with a new monitor, and conversations in which no dispatch is under way. -/
def opened (config : MonitorConfig) (begun : ι → Conversation) : Desk ι :=
  ⟨.empty config, fun i => { conversation := begun i }⟩

/-- What a moment of the conversation that `event` names does. -/
def pass (e : Engine) (d : Desk ι) (event : ι × Moment) : Desk ι where
  monitor :=
    match (d.exchanges event.1).ended event.2 with
    | none => d.monitor
    | some (s, step) => d.monitor.recordStep s step
  exchanges := Function.update d.exchanges event.1 ((d.exchanges event.1).pass e event.2)

/-- What a schedule does. -/
def run (e : Engine) (d : Desk ι) (schedule : List (ι × Moment)) : Desk ι :=
  schedule.foldl (pass e) d

theorem exchanges_pass_self (e : Engine) (d : Desk ι) (i : ι) (moment : Moment) :
    (d.pass e (i, moment)).exchanges i = (d.exchanges i).pass e moment :=
  Function.update_self ..

theorem exchanges_pass_of_ne (e : Engine) (d : Desk ι) {i j : ι} (h : j ≠ i) (moment : Moment) :
    (d.pass e (i, moment)).exchanges j = d.exchanges j :=
  Function.update_of_ne h ..

/-- A dispatch that nothing comes in between is `Engine.dispatch`, for the monitor too. -/
theorem run_moments (e : Engine) (d : Desk ι) (i : ι) (s : Said) :
    d.run e (s.moments.map (i, ·)) =
      let x := d.exchanges i
      let r := e.dispatch d.monitor s.around x.conversation s.message s.decision
      { monitor := r.monitor
        exchanges := Function.update d.exchanges i
          { conversation := r.conversation, done := x.done ++ [(s, r.step)] } } := by
  dsimp only
  rw [e.dispatch_monitor, ← Exchange.foldl_pass_moments e d.monitor, e.dispatch_step]
  simp [run, Said.moments, pass, Exchange.pass, Exchange.ended]

/-- The conversation `i` sees its own moments only. -/
theorem exchanges_run (e : Engine) (d : Desk ι) (schedule : List (ι × Moment)) (i : ι) :
    (d.run e schedule).exchanges i =
      (momentsOf i schedule).foldl (Exchange.pass e) (d.exchanges i) := by
  unfold run momentsOf
  induction schedule generalizing d with
  | nil => rfl
  | cons event rest ih =>
    obtain ⟨j, moment⟩ := event
    rw [List.foldl_cons, ih]
    by_cases hj : j = i
    · subst hj
      rw [exchanges_pass_self]
      simp
    · rw [exchanges_pass_of_ne e d (Ne.symm hj)]
      simp [hj]

/-- After a schedule the conversation `i` has gone through its messages one after another, and the
monitor has no part in it. -/
theorem exchanges_run_opened (e : Engine) (config : MonitorConfig) (begun : ι → Conversation)
    {said : ι → List Said} {schedule : List (ι × Moment)} {i : ι}
    (h : momentsOf i schedule = (said i).flatMap Said.moments) (m : Monitor) :
    ((opened config begun).run e schedule).exchanges i =
      { conversation := (e.converse m (begun i) (said i)).1
        done := (said i).zip (e.converse m (begun i) (said i)).2 } := by
  rw [exchanges_run, h]
  exact Exchange.foldl_pass_flatMap e m (begun i) [] (said i)

end Desk

end Dunning
