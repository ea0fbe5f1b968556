import Dunning.Agent
import Dunning.Json.Text
import Dunning.Monitor.Summary

/-!
# Sessions at a terminal

A session holds one conversation after another and a monitor for all of them. Every line that is not
blank is a command or a message, and has its reply. The last thing that is shown is the summary of
the monitor.
-/

namespace Dunning

/-- The present conversation, and the monitor of all of them. -/
structure Session where
  conversation : Conversation
  monitor : Monitor

/-- A line that was typed, and the `Circumstances` that the outside world supplies for it. -/
structure Heard where
  around : Circumstances
  line : String

/-- What a typed line asks for. -/
inductive TypedLine where
  | blank
  | newConversation
  | summary
  | message (text : String)
deriving DecidableEq, Repr

/-- Reads a typed line as `Text.trim` leaves it. -/
def TypedLine.ofText (line : String) : TypedLine :=
  let text := Text.trim line
  if text = "" then .blank
  else if text = "/nueva" then .newConversation
  else if text = "/resumen" then .summary
  else .message text

/-- The text that an action sent, from its `delta`. -/
def ActionOutcome.reply? (a : ActionOutcome) : Option String :=
  (Fields.get? a.delta Action.replyKey).bind Json.asString?

/-- The line that shows how a message was taken, when the conversation is in `state` now. -/
def StepResult.show (state : String) : StepResult → String
  | .advanced o =>
    match o.action.bind ActionOutcome.reply? with
    | some text => s!"[{o.target}] {text}"
    | none => s!"[{o.target}]"
  | .failed error =>
    if error.isNoMatch then s!"[{state}] (sin transición para este mensaje)"
    else s!"[{state}] error: {error.message}"
  | .abandoned => s!"[{state}]"

namespace Session

/-- The beginning of a session with the agent `a`. -/
def start (a : Agent) (around : Circumstances) : Session where
  conversation := a.greet around
  monitor := a.monitor

/-- The text of the summary of `s`, indented JSON. -/
def summary (s : Session) (around : Circumstances) : String :=
  (s.monitor.summary.toJson around.now).indented

/-- Takes the line of `h`; returns the texts that are shown for it. -/
def hear (a : Agent) (s : Session) (h : Heard) : Session × List String :=
  match TypedLine.ofText h.line with
  | .blank => (s, [])
  | .newConversation =>
    let conversation := a.greet h.around
    ({ s with conversation }, ["-- nueva conversación " ++ conversation.id])
  | .summary => (s, [s.summary h.around])
  | .message text =>
    let d := a.engine.dispatchLine s.monitor h.around s.conversation text
    (⟨d.conversation, d.monitor⟩, [d.step.result.show d.conversation.state])

/-- Takes lines one after another by `hear`; returns all texts that are shown for them. -/
def run (a : Agent) (s : Session) : List Heard → Session × List String
  | [] => (s, [])
  | h :: rest =>
    let (s, shown) := s.hear a h
    let (s, more) := s.run a rest
    (s, shown ++ more)

/-- Cuts bytes at line feeds; what follows the last one is a line only if it is not empty. -/
def byteLines : List UInt8 → List (List UInt8)
  | [] => []
  | b :: rest =>
    if b = 10 then [] :: byteLines rest
    else
      match byteLines rest with
      | [] => [[b]]
      | line :: lines => (b :: line) :: lines

/-- The lines of an input, by `byteLines`; none for each that is not UTF-8. -/
def inputLines (bytes : List UInt8) : List (Option String) :=
  (byteLines bytes).map fun line => String.fromUTF8? ⟨line.toArray⟩

/-- Takes the lines of an input under circumstances that do not change; returns all texts that are
shown, and whether the input was taken to its end. A line that is not UTF-8 ends everything; at the
end of the input the `summary` is shown. -/
def transcript (a : Agent) (around : Circumstances) (s : Session) :
    List (Option String) → List String × Bool
  | [] => ([s.summary around], true)
  | none :: _ => ([], false)
  | some line :: rest =>
    let (s, shown) := s.hear a { around, line }
    let (more, complete) := s.transcript a around rest
    (shown ++ more, complete)

end Session

end Dunning
