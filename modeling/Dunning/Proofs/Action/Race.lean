import Dunning.Proofs.Action.Standard
import Mathlib.Logic.Relation

/-!
# A call against the clock

A handler runs on a task of its own while its caller waits: for the end of the task, for the time
limit, or until it gives up. When the caller no longer waits the task is stopped, and a task that
was stopped has no further turn. `Attempt.Step` takes what is due (`Attempt.Event`) in any order,
and lets a second pass only when nothing is due. The main statement is that three different instants
(`Attempt.Apart`) leave one outcome: the least of them decides what the caller learns and which
effects take place, and from then on nothing changes but the clock (`phase_of_reachable`).
-/

namespace Dunning

/-- What the end of a handler for `action` tells its caller. -/
def Reply.ofEnding (action : String) : Ending → Reply
  | .answered answer => .ofAnswer answer
  | .crashed => .failed (.failed s!"{action} panicked")

/-- What has become of the task of a handler. -/
inductive TaskState where
  /-- It has not had a turn. -/
  | queued
  /-- It is in its wait. -/
  | waiting
  /-- It has come to its end. -/
  | ended
  /-- It was stopped before its end. -/
  | stopped
deriving DecidableEq

/-- Stopping a task that has `ended` changes nothing. -/
def TaskState.stop : TaskState → TaskState
  | ended => ended
  | _ => stopped

/-- The clock, the task and the caller at a moment of a call to a handler. -/
structure Race where
  /-- The seconds that have passed since the call. -/
  clock : Nat
  task : TaskState
  /-- The effects that have taken place. -/
  effects : List String
  /-- What the caller has learned, nothing while it waits. -/
  reply : Option Reply

/-- A call before anything has happened: the task is `queued` and the clock at zero. -/
def Race.called : Race :=
  ⟨0, .queued, [], none⟩

/-- An attempt to carry out `action` by a handler's `work`, under a time limit and for a caller who
waits only so long. -/
structure Attempt where
  work : Work
  action : String
  limit : Nat
  patience : Option Nat

namespace Attempt

/-- What can happen at a moment of the attempt `a`. -/
inductive Event (a : Attempt) : Race → Race → Prop where
  /-- The task has its first turn, in which `a.work.opening` takes place. -/
  | start {x : Race} (task : x.task = .queued) :
      a.Event x { x with task := .waiting, effects := x.effects ++ a.work.opening }
  /-- The task has its second turn, in which `a.work.closing` takes place after its wait. -/
  | wake {x : Race} (task : x.task = .waiting) (due : a.work.seconds ≤ x.clock) :
      a.Event x { x with task := .ended, effects := x.effects ++ a.work.closing }
  /-- The caller is told how the task ended (`Reply.ofEnding`). -/
  | answer {x : Race} (waits : x.reply = none) (task : x.task = .ended) :
      a.Event x { x with reply := some (.ofEnding a.action a.work.ending) }
  /-- The caller is told that the task was stopped. -/
  | cancel {x : Race} (waits : x.reply = none) (task : x.task = .stopped) :
      a.Event x { x with reply := some (.failed (.cancelled a.action)) }
  /-- The caller has waited until `a.limit`. -/
  | expire {x : Race} (waits : x.reply = none) (due : a.limit ≤ x.clock) :
      a.Event x { x with
        task := x.task.stop, reply := some (.failed (.timeout a.action a.limit)) }
  /-- The caller gives up after its patience of `c` seconds. -/
  | leave {x : Race} {c : Nat} (patience : c ∈ a.patience) (waits : x.reply = none)
      (due : c ≤ x.clock) : a.Event x { x with task := x.task.stop, reply := some .abandoned }

/-- An `Event` happens, or a second passes in which none can happen. -/
inductive Step (a : Attempt) : Race → Race → Prop where
  | event {x y : Race} (happens : a.Event x y) : a.Step x y
  | tick {x : Race} (idle : ∀ y, ¬ a.Event x y) : a.Step x { x with clock := x.clock + 1 }

/-- What a call can come to: every state that `Step` reaches from `Race.called`. -/
def Reachable (a : Attempt) (x : Race) : Prop :=
  Relation.ReflTransGen a.Step .called x

variable {a : Attempt} {x y : Race}

/-! ## The clock goes on -/

/-- The number of turns and replies that may still come; an `Event` lowers it. -/
def pending (x : Race) : Nat :=
  (match x.task with
    | .queued => 2
    | .waiting => 1
    | .ended | .stopped => 0) +
  if x.reply.isNone then 1 else 0

theorem Event.pending_lt (h : a.Event x y) : pending y < pending x := by
  cases h with
  | start task => simp [pending, task]
  | wake task due => simp [pending, task]
  | answer waits task => simp [pending, waits, task]
  | cancel waits task => simp [pending, waits, task]
  | expire waits due => cases htask : x.task <;> simp [pending, waits, htask, TaskState.stop]
  | leave patience waits due =>
    cases htask : x.task <;> simp [pending, waits, htask, TaskState.stop]

theorem Event.clock_eq (h : a.Event x y) : y.clock = x.clock := by
  cases h <;> rfl

/-- Only so much can happen before the next second, as `pending` bounds it. -/
theorem exists_next_second (a : Attempt) (x : Race) :
    ∃ y, Relation.ReflTransGen a.Step x y ∧ y.clock = x.clock + 1 := by
  induction hpending : pending x using Nat.strongRecOn generalizing x with
  | _ n ih =>
    by_cases hevent : ∃ y, a.Event x y
    · obtain ⟨y, happens⟩ := hevent
      obtain ⟨z, hsteps, hclock⟩ := ih (pending y) (hpending ▸ happens.pending_lt) y rfl
      exact ⟨z, .head (.event happens) hsteps, by rw [hclock, happens.clock_eq]⟩
    · exact ⟨_, .single (.tick (not_exists.1 hevent)), rfl⟩

/-- Every second comes: the clock is never stuck. -/
theorem exists_reachable_clock (a : Attempt) (seconds : Nat) :
    ∃ x, a.Reachable x ∧ x.clock = seconds := by
  induction seconds with
  | zero => exact ⟨.called, .refl, rfl⟩
  | succ seconds ih =>
    obtain ⟨x, hx, hclock⟩ := ih
    obtain ⟨y, hsteps, hnext⟩ := a.exists_next_second x
    exact ⟨y, hx.trans hsteps, by rw [hnext, hclock]⟩

/-! ## The outcome -/

/-- The end of the wait `a.work.seconds`, `a.limit` and the caller's patience are positive and all
different. -/
structure Apart (a : Attempt) : Prop where
  seconds_pos : 0 < a.work.seconds
  limit_pos : 0 < a.limit
  seconds_ne : a.work.seconds ≠ a.limit
  patience_pos : ∀ c ∈ a.patience, 0 < c
  patience_ne : ∀ c ∈ a.patience, c ≠ a.work.seconds ∧ c ≠ a.limit

/-- The instant that comes first, what has become of the task then, and the `Execution` that comes
of the call. -/
inductive Outcome (a : Attempt) : Nat → TaskState → Execution → Prop where
  /-- The wait is over first: the handler comes to its end, and the caller learns of it. -/
  | finished (limit : a.work.seconds < a.limit) (patience : ∀ c ∈ a.patience, a.work.seconds < c) :
      a.Outcome a.work.seconds .ended
        ⟨a.work.opening ++ a.work.closing, .ofEnding a.action a.work.ending⟩
  /-- The limit is reached first. -/
  | expired (seconds : a.limit < a.work.seconds) (patience : ∀ c ∈ a.patience, a.limit < c) :
      a.Outcome a.limit .stopped ⟨a.work.opening, .failed (.timeout a.action a.limit)⟩
  /-- The caller gives up first. -/
  | left {c : Nat} (patience : c ∈ a.patience) (seconds : c < a.work.seconds)
      (limit : c < a.limit) : a.Outcome c .stopped ⟨a.work.opening, .abandoned⟩

/-- One of the instants comes first, if they are `Apart`. -/
theorem Apart.exists_outcome (ha : a.Apart) : ∃ instant task ex, a.Outcome instant task ex := by
  by_cases hleft : ∃ c ∈ a.patience, c < a.work.seconds ∧ c < a.limit
  · obtain ⟨c, hc, hseconds, hlimit⟩ := hleft
    exact ⟨_, _, _, .left hc hseconds hlimit⟩
  · have hstays : ∀ c ∈ a.patience, a.work.seconds < c ∨ a.limit < c := by
      intro c hc
      obtain ⟨hseconds, hlimit⟩ := ha.patience_ne c hc
      have hnot : ¬ (c < a.work.seconds ∧ c < a.limit) := fun hfirst => hleft ⟨c, hc, hfirst⟩
      omega
    rcases Nat.lt_or_gt_of_ne ha.seconds_ne with hfirst | hfirst
    · refine ⟨_, _, _, .finished hfirst fun c hc => ?_⟩
      exact (hstays c hc).elim id (Nat.lt_trans hfirst)
    · refine ⟨_, _, _, .expired hfirst fun c hc => ?_⟩
      exact (hstays c hc).elim (Nat.lt_trans hfirst) id

/-- How far a call has come: its task has had no turn yet, waits or has ended, or the caller knows
what the `Outcome` is. -/
inductive Phase (a : Attempt) : Race → Prop where
  | queued : a.Phase .called
  | waiting {t : Nat} (seconds : t ≤ a.work.seconds) (limit : t ≤ a.limit)
      (patience : ∀ c ∈ a.patience, t ≤ c) : a.Phase ⟨t, .waiting, a.work.opening, none⟩
  | ended (limit : a.work.seconds < a.limit) (patience : ∀ c ∈ a.patience, a.work.seconds < c) :
      a.Phase ⟨a.work.seconds, .ended, a.work.opening ++ a.work.closing, none⟩
  | settled {instant t : Nat} {task : TaskState} {ex : Execution}
      (outcome : a.Outcome instant task ex) (clock : instant ≤ t) :
      a.Phase ⟨t, task, ex.effects, some ex.reply⟩

/-- No `Event` happens to a task that is over when its caller knows all. -/
theorem Outcome.not_event {instant t : Nat} {task : TaskState} {ex : Execution}
    (h : a.Outcome instant task ex) {effects : List String} {reply : Reply} :
    ¬ a.Event ⟨t, task, effects, some reply⟩ y := by
  intro happens
  cases h <;> cases happens <;> contradiction

theorem Phase.event (ha : a.Apart) (h : a.Phase x) (happens : a.Event x y) : a.Phase y := by
  cases h with
  | queued =>
    cases happens with
    | start task => exact .waiting (Nat.zero_le _) (Nat.zero_le _) fun c _ => Nat.zero_le c
    | wake task due => cases task
    | answer waits task => cases task
    | cancel waits task => cases task
    | expire waits due => exact absurd ha.limit_pos (Nat.not_lt.2 due)
    | leave patience waits due => exact absurd (ha.patience_pos _ patience) (Nat.not_lt.2 due)
  | @waiting t seconds limit patience =>
    -- whatever is due has come to its instant just now, and so before the others
    cases happens with
    | start task => cases task
    | wake task due =>
      obtain rfl : t = a.work.seconds := Nat.le_antisymm seconds due
      refine .ended (Nat.lt_of_le_of_ne limit ha.seconds_ne) ?_
      exact fun c hc => Nat.lt_of_le_of_ne (patience c hc) (ha.patience_ne c hc).1.symm
    | answer waits task => cases task
    | cancel waits task => cases task
    | expire waits due =>
      obtain rfl : t = a.limit := Nat.le_antisymm limit due
      refine .settled (.expired (Nat.lt_of_le_of_ne seconds ha.seconds_ne.symm) ?_) (Nat.le_refl _)
      exact fun c hc => Nat.lt_of_le_of_ne (patience c hc) (ha.patience_ne c hc).2.symm
    | @leave c hc waits due =>
      obtain rfl : t = c := Nat.le_antisymm (patience c hc) due
      obtain ⟨hseconds, hlimit⟩ := ha.patience_ne t hc
      exact .settled (.left hc (Nat.lt_of_le_of_ne seconds hseconds)
        (Nat.lt_of_le_of_ne limit hlimit)) (Nat.le_refl _)
  | ended limit patience =>
    cases happens with
    | start task => cases task
    | wake task due => cases task
    | answer waits task => exact .settled (.finished limit patience) (Nat.le_refl _)
    | cancel waits task => cases task
    | expire waits due => exact absurd limit (Nat.not_lt.2 due)
    | leave hc waits due => exact absurd (patience _ hc) (Nat.not_lt.2 due)
  | settled outcome clock => exact absurd happens outcome.not_event

theorem Phase.tick (h : a.Phase x) (idle : ∀ y, ¬ a.Event x y) :
    a.Phase { x with clock := x.clock + 1 } := by
  cases h with
  | queued => exact absurd (.start rfl) (idle _)
  | @waiting t seconds limit patience =>
    -- none of the three instants has been reached
    refine .waiting ?_ ?_ ?_
    · exact Nat.lt_of_not_le fun due => idle _ (.wake rfl due)
    · exact Nat.lt_of_not_le fun due => idle _ (.expire rfl due)
    · exact fun c hc => Nat.lt_of_not_le fun due => idle _ (.leave hc rfl due)
  | ended limit patience => exact absurd (.answer rfl rfl) (idle _)
  | settled outcome clock => exact .settled outcome (Nat.le_succ_of_le clock)

/-- Whatever is taken first, a call comes through the same phases to the same outcome. -/
theorem phase_of_reachable (ha : a.Apart) (h : a.Reachable x) : a.Phase x := by
  induction h with
  | refl => exact .queued
  | tail _ hstep ih =>
    cases hstep with
    | event happens => exact ih.event ha happens
    | tick idle => exact ih.tick idle

end Attempt

end Dunning
