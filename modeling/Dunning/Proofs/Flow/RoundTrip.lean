import Dunning.Flow.Store
import Dunning.Proofs.Json.Record

/-!
# Flow definitions survive JSON

`FlowDefinition.Written` says what it is for a value to write down some definitions: every record in
it is an object or an array, with the fields of the record under their names or in their order. What
is written down is read back (`read?_of_written`), and serializing is one way of writing down, so
definitions that were read can be written and read again any number of times.
-/

namespace Dunning

open Json RecordValue

/-! ## The four tables -/

/-- `value` is the record of the state `s`. -/
def FlowState.Written (s : FlowState) (value : Json) : Prop :=
  Holds ["id", "name"] [.ofId s.id, .str s.name] value

/-- `value` is the record of the condition `c`. -/
def FlowCondition.Written (c : FlowCondition) (value : Json) : Prop :=
  Holds ["id", "expression"] [.ofId c.id, .str c.expression] value

/-- `value` is the record of the action `a`. -/
def FlowAction.Written (a : FlowAction) (value : Json) : Prop :=
  Holds ["id", "name", "type", "payload"] [.ofId a.id, .str a.name, .str a.type, a.payload] value

/-- `value` is the record of the transition `t`. -/
def FlowTransition.Written (t : FlowTransition) (value : Json) : Prop :=
  Holds ["id", "state_id", "condition_id", "action_id", "next_state_id"]
    [.ofId t.id, .ofId t.source, .ofOption .ofId t.condition, .ofOption .ofId t.action,
      .ofId t.target] value

theorem FlowState.written_toJson (s : FlowState) : s.Written s.toJson :=
  holds_ofMembers rfl rfl (by decide)

theorem FlowCondition.written_toJson (c : FlowCondition) : c.Written c.toJson :=
  holds_ofMembers rfl rfl (by decide)

theorem FlowAction.written_toJson (a : FlowAction) : a.Written a.toJson :=
  holds_ofMembers rfl rfl (by decide)

theorem FlowTransition.written_toJson (t : FlowTransition) : t.Written t.toJson :=
  holds_ofMembers rfl rfl (by decide)

/-! ## Reading the records -/

theorem Json.asId?_ofId (id : UInt32) : (asId? (ofId id) : Option UInt32) = some id :=
  asUInt32?_int id

theorem Json.optional_ofId (id : Option UInt32) :
    optional asId? (some (ofOption ofId id)) = some id :=
  optional_ofOption asUInt32?_int (by simp [int]) id

variable {value : Json}

section
variable {id source condition action target : Json}

/-! A record is read when its fields are. The fields are any values here, so that no proof has to
look into the digits of a number. -/

theorem FlowState.read?_of_fields {s : FlowState} (hid : asId? id = some s.id)
    (h : Holds ["id", "name"] [id, .str s.name] value) : FlowState.read? value = some s := by
  simp only [FlowState.read?, h.fields?_eq rfl, List.map_cons, List.map_nil, required, hid,
    Option.bind_eq_bind, Option.bind_some]
  rfl

theorem FlowCondition.read?_of_fields {c : FlowCondition} (hid : asId? id = some c.id)
    (h : Holds ["id", "expression"] [id, .str c.expression] value) :
    FlowCondition.read? value = some c := by
  simp only [FlowCondition.read?, h.fields?_eq rfl, List.map_cons, List.map_nil, required, hid,
    Option.bind_eq_bind, Option.bind_some]
  rfl

theorem FlowAction.read?_of_fields {a : FlowAction} (hid : asId? id = some a.id)
    (h : Holds ["id", "name", "type", "payload"] [id, .str a.name, .str a.type, a.payload] value) :
    FlowAction.read? value = some a := by
  simp only [FlowAction.read?, h.fields?_eq rfl, List.map_cons, List.map_nil, required, hid,
    Option.bind_eq_bind, Option.bind_some]
  rfl

theorem FlowTransition.read?_of_fields {t : FlowTransition} (hid : asId? id = some t.id)
    (hsource : asId? source = some t.source)
    (hcondition : optional asId? (some condition) = some t.condition)
    (haction : optional asId? (some action) = some t.action)
    (htarget : asId? target = some t.target)
    (h : Holds ["id", "state_id", "condition_id", "action_id", "next_state_id"]
      [id, source, condition, action, target] value) : FlowTransition.read? value = some t := by
  simp only [FlowTransition.read?, h.fields?_eq rfl, List.map_cons, List.map_nil, required, hid,
    hsource, hcondition, haction, htarget, Option.bind_eq_bind, Option.bind_some]
  rfl

end

theorem FlowState.read?_of_written {s : FlowState} (h : s.Written value) :
    FlowState.read? value = some s :=
  read?_of_fields (asId?_ofId _) h

theorem FlowCondition.read?_of_written {c : FlowCondition} (h : c.Written value) :
    FlowCondition.read? value = some c :=
  read?_of_fields (asId?_ofId _) h

theorem FlowAction.read?_of_written {a : FlowAction} (h : a.Written value) :
    FlowAction.read? value = some a :=
  read?_of_fields (asId?_ofId _) h

theorem FlowTransition.read?_of_written {t : FlowTransition} (h : t.Written value) :
    FlowTransition.read? value = some t :=
  read?_of_fields (asId?_ofId _) (asId?_ofId _) (optional_ofId _) (optional_ofId _) (asId?_ofId _) h

/-! ## Definitions -/

/-- `value` is a list of records, one for each element of `table`. -/
def Json.ListsRecords {α : Type} (written : α → Json → Prop) (table : List α) (value : Json) :
    Prop :=
  ∃ items, value = .arr items ∧ List.Forall₂ written table items

theorem Json.ListsRecords.asListOf?_eq {α : Type} {written : α → Json → Prop}
    {decode : Json → Option α} {table : List α} (h : ListsRecords written table value)
    (hread : ∀ {value a}, written a value → decode value = some a) :
    asListOf? decode value = some table := by
  obtain ⟨items, rfl, hitems⟩ := h
  exact asListOf?_arr (hitems.imp fun _ _ => hread)

theorem Json.listsRecords_map {α : Type} {written : α → Json → Prop} {encode : α → Json}
    (h : ∀ a, written a (encode a)) (table : List α) :
    ListsRecords written table (.arr (table.map encode)) := by
  refine ⟨_, rfl, ?_⟩
  rw [List.forall₂_map_right_iff]
  exact List.forall₂_same.2 fun a _ => h a

namespace FlowDefinition

/-- `value` is a record of the definitions `d`. -/
def Written (d : FlowDefinition) (value : Json) : Prop :=
  ∃ states conditions actions transitions,
    Holds ["initial_state", "states", "conditions", "actions", "transitions"]
      [.str d.initialState, states, conditions, actions, transitions] value ∧
    ListsRecords FlowState.Written d.states states ∧
    ListsRecords FlowCondition.Written d.conditions conditions ∧
    ListsRecords FlowAction.Written d.actions actions ∧
    ListsRecords FlowTransition.Written d.transitions transitions

/-- What is `Written` down is read back, in whichever form its records are. -/
theorem read?_of_written {d : FlowDefinition} (h : d.Written value) :
    FlowDefinition.read? value = some d := by
  obtain ⟨states, conditions, actions, transitions, hrecord, hstates, hconditions, hactions,
    htransitions⟩ := h
  simp only [FlowDefinition.read?, hrecord.fields?_eq rfl, List.map_cons, List.map_nil, defaulted,
    hstates.asListOf?_eq FlowState.read?_of_written,
    hconditions.asListOf?_eq FlowCondition.read?_of_written,
    hactions.asListOf?_eq FlowAction.read?_of_written,
    htransitions.asListOf?_eq FlowTransition.read?_of_written,
    Option.bind_eq_bind, Option.bind_some]
  rfl

/-- `FlowDefinition.toJson` is a way of writing down. -/
theorem written_toJson (d : FlowDefinition) : d.Written d.toJson := by
  refine ⟨_, _, _, _, holds_ofMembers rfl rfl (by decide), ?_, ?_, ?_, ?_⟩
  · exact listsRecords_map FlowState.written_toJson d.states
  · exact listsRecords_map FlowCondition.written_toJson d.conditions
  · exact listsRecords_map FlowAction.written_toJson d.actions
  · exact listsRecords_map FlowTransition.written_toJson d.transitions

/-- What JSON does to the definitions `d`. -/
structure SurvivesJson (d : FlowDefinition) : Prop where
  /-- What `toJson` serialized is read back. -/
  read : FlowDefinition.read? d.toJson = some d
  /-- So is every other way of writing the definitions down. -/
  written : ∀ value : Json, d.Written value → FlowDefinition.read? value = some d
  /-- Whatever was read from the serialized form is checked and resolved like `d`. -/
  same : ∀ d', FlowDefinition.read? d.toJson = some d' → d'.validate = d.validate ∧
    d'.shadowedDefaults = d.shadowedDefaults ∧ d'.resolve = d.resolve
  /-- A `value` that reads as the definitions can be replaced by the serialized form. -/
  again : ∀ value : Json, FlowDefinition.read? value = some d →
    FlowDefinition.read? d.toJson = FlowDefinition.read? value

theorem survivesJson (d : FlowDefinition) : SurvivesJson d := by
  have hread : FlowDefinition.read? d.toJson = some d := read?_of_written d.written_toJson
  constructor
  case read => exact hread
  case written => exact fun value h => read?_of_written h
  case same =>
    intro d' hd'
    obtain rfl := Option.some.inj (hread.symm.trans hd')
    exact ⟨rfl, rfl, rfl⟩
  case again => exact fun value h => hread.trans h.symm

end FlowDefinition

end Dunning
