import Dunning.Tier
import Dunning.Json.Record

/-!
# Decisions about a message

What the classification made of a message: the tier that decided, the intention it found, and how
sure it was. The confidence matters for the classifier and the general service only.
-/

namespace Dunning

/-- The outcome of classifying one message. -/
structure Decision where
  tier : Tier
  intention : Option String
  confidence : Float

namespace Decision

open RecordValue

/-- A decision by rule for `intention`. -/
def byRule (intention : String) : Decision :=
  ⟨.rule, some intention, 0⟩

/-- The names of the fields, in declared order, for `read?`. -/
def fieldNames : List String := ["tier", "intention", "confidence"]

/-- Reads a `Decision`. -/
def read? {ν : Type} {m : Type → Type} [Monad m] [MonadExceptOf Unit m]
    [RecordValue ν m] (value : ν) : m Decision := do
  match ← fields? fieldNames value with
  | [tier, intention, confidence] =>
    return {
      tier := ← required (fun v => do orFail (Tier.ofTag? (← asCase? v))) tier
      intention := ← optional asText? intention
      confidence := ← defaulted 0 asFloat? confidence }
  | _ => throw ()

/-- Writes a `Decision`. -/
def toJson (d : Decision) : Json :=
  .ofMembers [("tier", .str d.tier.tag), ("intention", .ofOption .str d.intention),
    ("confidence", .ofFloat d.confidence)]

end Decision

end Dunning
