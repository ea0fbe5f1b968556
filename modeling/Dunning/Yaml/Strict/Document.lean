import Dunning.Yaml.Node
import Dunning.Yaml.Strict.Token

/-!
# Strict YAML documents

A strict text is read as one document at most. It may begin with end markers, and end with them.
Directives want a marker at the beginning of the document; of several ones only the last counts for
tags.
-/

namespace Dunning.Yaml.Strict

open Reader

/-- Moves over end markers, `documentEnd` tokens. -/
def dropEnds : Nat → Reader Unit
  | 0 => failure
  | fuel + 1 => do
    if ← take .documentEnd then dropEnds fuel

/-- Reads directives, one of which may be a version; gives what the last one says of a handle. -/
def directives (version : Bool) (handles : Fields String) : Nat → Reader (Fields String)
  | 0 => failure
  | fuel + 1 => do
    match ← peek with
    | .version _ _ =>
      if version then failure
      drop
      directives true [] fuel
    | .handle handle tag =>
      drop
      directives version [(handle, tag)] fuel
    | _ => return handles

/-- The handle that is known unless a directive says otherwise. -/
def defaultHandles : Fields String :=
  [("!!", standardTagStart)]

/-- Reads the only document of a text, if there is one, after its `directives`. -/
def document (size : Nat) : Reader (Option Node) := do
  dropEnds size
  if (← peek) = .streamEnd then return none
  let begun := (← get).tokens.length
  let given ← directives false [] size
  let directed := (← get).tokens.length < begun
  modify fun r => { r with handles := defaultHandles.merge given }
  let marked ← take .documentStart
  if directed && !marked then failure
  let root ← if marked && isOutside (← peek) then unwritten else node true false size
  dropEnds size
  if (← peek) = .streamEnd then return some root else failure

/-- The only document of a text, by `document`, if there is one; none if the text is malformed. -/
def document? (text : String) : Option (Option Node) := do
  let tokens ← tokens? text
  let (root, _) ← (document (4 * tokens.length + 16)).run { tokens, strict := true }
  some root

end Dunning.Yaml.Strict
