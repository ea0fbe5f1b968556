import Dunning.ConfigError
import Dunning.Flow.Definition

/-!
# Checking flow definitions

The checks run table by table, and the first fault is the one that is reported. A state with several
transitions that carry no condition is no fault, but only the first of them can ever be taken.
-/

namespace Dunning

/-- The first element that repeats an earlier one; `earlier` holds those before the list. -/
def firstRepeat? {α : Type} [BEq α] (earlier : List α) : List α → Option α
  | [] => none
  | x :: rest => if earlier.contains x then some x else firstRepeat? (x :: earlier) rest

namespace FlowDefinition

/-- Refuses numbers that repeat an earlier one of `table`. -/
def checkIds (table : String) (ids : List UInt32) : Except ConfigError Unit :=
  match firstRepeat? [] ids with
  | some id => .error (.invalidValue table s!"duplicate id {id.toNat}")
  | none => .ok ()

/-- Refuses a state that repeats the number or the name of an earlier one. -/
def checkStates (earlier : List FlowState) : List FlowState → Except ConfigError Unit
  | [] => .ok ()
  | s :: rest =>
    if earlier.any (·.id = s.id) then
      .error (.invalidValue "states" s!"duplicate state id {s.id.toNat}")
    else if earlier.any (·.name = s.name) then
      .error (.invalidValue "states" s!"duplicate state name {s.name}")
    else checkStates (s :: earlier) rest

/-- Refuses an `initialState` that is not defined. -/
def checkInitial (d : FlowDefinition) : Except ConfigError Unit :=
  if d.states.any (·.name = d.initialState) then .ok ()
  else .error (.invalidValue "initial_state" s!"state {d.initialState} is not defined")

/-- Refuses an action that repeats the name of an earlier one. -/
def checkActionNames (d : FlowDefinition) : Except ConfigError Unit :=
  match firstRepeat? [] (d.actions.map (·.name)) with
  | some name => .error (.invalidValue "actions" s!"duplicate action name {name}")
  | none => .ok ()

/-- Refuses a transition `t` that refers to something undefined. -/
def checkTransition (d : FlowDefinition) (t : FlowTransition) : Except ConfigError Unit :=
  let fault (what : String) (id : UInt32) : ConfigError :=
    .invalidValue "transitions" s!"transition {t.id.toNat} {what} id {id.toNat}"
  let unknown? (ids : List UInt32) (id? : Option UInt32) : Option UInt32 :=
    id?.filter fun id => !ids.contains id
  if !(d.states.any (·.id = t.source)) then .error (fault "starts at unknown state" t.source)
  else if !(d.states.any (·.id = t.target)) then .error (fault "targets unknown state" t.target)
  else
    match unknown? (d.conditions.map (·.id)) t.condition,
        unknown? (d.actions.map (·.id)) t.action with
    | some id, _ => .error (fault "references unknown condition" id)
    | none, some id => .error (fault "references unknown action" id)
    | none, none => .ok ()

/-- Runs every check: numbers and names are unique, and every reference is defined. -/
def validate (d : FlowDefinition) : Except ConfigError Unit := do
  checkStates [] d.states
  d.checkInitial
  checkIds "conditions" (d.conditions.map (·.id))
  checkIds "actions" (d.actions.map (·.id))
  d.checkActionNames
  checkIds "transitions" (d.transitions.map (·.id))
  d.transitions.forM d.checkTransition

/-- The name in the last definition of the state `id`. -/
def stateName? (d : FlowDefinition) (id : UInt32) : Option String :=
  (d.states.findRev? (·.id = id)).map (·.name)

/-- The number of transitions without a condition out of each state that has any, by `stateName?`.
-/
def defaultCounts (d : FlowDefinition) : Fields Nat :=
  let names := (d.transitions.filter (·.condition.isNone)).filterMap fun t => d.stateName? t.source
  names.foldl (fun counts name => counts.insert name ((counts.get? name).getD 0 + 1)) []

/-- The states with more than one transition that carries no condition, ascending, with their
`defaultCounts`. -/
def shadowedDefaults (d : FlowDefinition) : List (String × Nat) :=
  d.defaultCounts.filter fun (_, count) => 1 < count

/-- The condition expressions of the file, each once, in the order in which they stand. -/
def expressions (d : FlowDefinition) : List String :=
  (d.conditions.map (·.expression)).eraseDups

end FlowDefinition

end Dunning
