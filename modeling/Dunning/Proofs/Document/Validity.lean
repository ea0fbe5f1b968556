import Dunning.Condition.Builtin
import Dunning.Proofs.Document.Runs
import Dunning.Proofs.Text.Trim

/-!
# What makes a document valid

A context has a valid document if one is stored that is long enough, as a text or as a number, or if
one is mentioned in the latest message. `HasDocument` lists these cases by what stands in the fields
and in the message, and the main statement `holds_hasValidDocument_iff` is that the condition holds
in no other case.
-/

namespace Dunning

/-! ## The latest message -/

/-- The message of `ctx`: the latest one, else the one that an older flow stored, else none. -/
inductive Context.Hears (ctx : Context) : String → Prop where
  | latest {message : String} (stored : ctx.get? "message" = some (.str message)) :
      Hears ctx message
  | older {message : String} (unset : ∀ s, ctx.get? "message" ≠ some (.str s))
      (stored : ctx.get? "mensaje" = some (.str message)) : Hears ctx message
  | silent (unset : ∀ s, ctx.get? "message" ≠ some (.str s))
      (unsetOld : ∀ s, ctx.get? "mensaje" ≠ some (.str s)) : Hears ctx ""

namespace Context

theorem text?_eq_some_iff {ctx : Context} {name s : String} :
    ctx.text? name = some s ↔ ctx.get? name = some (.str s) := by
  unfold text?
  cases ctx.get? name with
  | none => simp
  | some value => cases value <;> simp [Json.asString?]

theorem text?_eq_none_iff {ctx : Context} {name : String} :
    ctx.text? name = none ↔ ∀ s, ctx.get? name ≠ some (.str s) := by
  simp only [Option.eq_none_iff_forall_ne_some, ne_eq, text?_eq_some_iff]

theorem hears_message (ctx : Context) : ctx.Hears ctx.message := by
  unfold message
  cases hlatest : ctx.text? messageKey with
  | some message => exact .latest (text?_eq_some_iff.1 hlatest)
  | none =>
    have unset := text?_eq_none_iff.1 hlatest
    cases holder : ctx.text? oldMessageKey with
    | some message => exact .older unset (text?_eq_some_iff.1 holder)
    | none => exact .silent unset (text?_eq_none_iff.1 holder)

theorem Hears.eq_message {ctx : Context} {message : String} (h : ctx.Hears message) :
    ctx.message = message := by
  unfold Context.message
  cases h with
  | latest stored => rw [messageKey, text?_eq_some_iff.2 stored]; rfl
  | older unset stored =>
    rw [messageKey, text?_eq_none_iff.2 unset, oldMessageKey, text?_eq_some_iff.2 stored]
    rfl
  | silent unset unsetOld =>
    rw [messageKey, text?_eq_none_iff.2 unset, oldMessageKey, text?_eq_none_iff.2 unsetOld]
    rfl

end Context

namespace Builtin

variable {ctx : Context}

/-- How `ctx` comes to have a valid document. -/
inductive HasDocument (ctx : Context) : Prop where
  /-- A text under `documento` that has seven characters without the blanks at its ends. -/
  | text {s : String} {trimmed : List Char} (stored : ctx.get? "documento" = some (.str s))
      (trims : Text.Trims s.toList trimmed) (long : 7 ≤ trimmed.length)
  /-- A number under `documento` whose text has seven characters. -/
  | number {n : Number} (stored : ctx.get? "documento" = some (.num n))
      (long : 7 ≤ n.textList.length)
  /-- A run of seven to ten digits in the latest message. -/
  | mentioned {message : String} {left run right : List Char} (heard : ctx.Hears message)
      (split : message.toList = left ++ run ++ right) (isRun : Document.IsRun left run right)

/-! ## The stored document -/

theorem documentLength_of_text {s : String} {trimmed : List Char}
    (stored : ctx.get? "documento" = some (.str s)) (trims : Text.Trims s.toList trimmed) :
    documentLength ctx = trimmed.length := by
  rw [documentLength, stored]
  exact congrArg List.length trims.trimList_eq

theorem documentLength_of_number {n : Number} (stored : ctx.get? "documento" = some (.num n)) :
    documentLength ctx = n.textList.length := by
  rw [documentLength, stored]

/-- Only a text or a number has a `documentLength`. -/
theorem hasDocument_of_le_documentLength (h : minDocumentLength ≤ documentLength ctx) :
    HasDocument ctx := by
  unfold documentLength at h
  split at h
  case h_1 s stored => exact .text stored (Text.trims_trimList s.toList) h
  case h_2 n stored => exact .number stored h
  case h_3 => simp [minDocumentLength] at h

/-- `hasValidDocument` asks for a valid document, and for nothing else. -/
theorem holds_hasValidDocument_iff : hasValidDocument.holds ctx = true ↔ HasDocument ctx := by
  have hcases : hasValidDocument.holds ctx = true ↔
      minDocumentLength ≤ documentLength ctx ∨ Document.isMentioned ctx.message = true := by
    simp [holds]
  rw [hcases]
  constructor
  · rintro (hlength | hmentioned)
    · exact hasDocument_of_le_documentLength hlength
    · obtain ⟨left, run, right, hsplit, hrun⟩ := Document.isMentioned_iff.1 hmentioned
      exact .mentioned ctx.hears_message hsplit hrun
  · intro h
    cases h with
    | text stored trims long =>
      left
      rw [documentLength_of_text stored trims]
      exact long
    | number stored long =>
      left
      rw [documentLength_of_number stored]
      exact long
    | mentioned heard split isRun =>
      right
      rw [heard.eq_message]
      exact Document.isMentioned_iff.2 ⟨_, _, _, split, isRun⟩

end Builtin

end Dunning
