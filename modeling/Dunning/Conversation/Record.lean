import Dunning.Conversation.Basic

/-!
# Stored conversations

How a conversation is written to JSON and read back. The number and the points in time are brought
into their usual form when they are read.
-/

namespace Dunning

open RecordValue

namespace TransitionRecord

/-- Writes a `TransitionRecord`. -/
def toJson (r : TransitionRecord) : Json :=
  .ofMembers [("from", .str r.source), ("to", .str r.target), ("action", .ofOption .str r.action),
    ("timestamp", .str r.time.text)]

/-- Reads a `TransitionRecord`, undoing `toJson`. -/
def ofJson? (value : Json) : Option TransitionRecord := do
  match ← Json.record? ["from", "to", "action", "timestamp"] value with
  | [source, target, action, time] =>
    some {
      source := ← required Json.asString? source
      target := ← required Json.asString? target
      action := ← optional Json.asString? action
      time := ← required (fun v => v.asString?.bind Timestamp.ofText?) time }
  | _ => none

end TransitionRecord

namespace Conversation

/-- Writes a `Conversation`. -/
def toJson (c : Conversation) : Json :=
  .ofMembers [("id", .str c.id), ("current_state", .str c.state), ("context", c.context.toJson),
    ("history", .arr (c.history.map TransitionRecord.toJson)),
    ("started_at", .str c.startedAt.text)]

/-- Reads a `Conversation`, undoing `toJson`. -/
def ofJson? (value : Json) : Option Conversation := do
  match ← Json.record? ["id", "current_state", "context", "history", "started_at"] value with
  | [id, state, context, history, startedAt] =>
    some {
      id := ← required (fun v => v.asString?.bind ConversationId.ofText?) id
      state := ← required Json.asString? state
      context := ← required Context.ofJson? context
      history := ← required (asListOf? TransitionRecord.ofJson?) history
      startedAt := ← required (fun v => v.asString?.bind Timestamp.ofText?) startedAt }
  | _ => none

end Conversation

end Dunning
