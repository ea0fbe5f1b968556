import Dunning.Context
import Dunning.Json.Text

/-!
# Reply templates

A template is text with placeholders such as `{nombre}`. It is first cut into pieces, and only then
are fields put in, so braces inside a field's value are never taken for placeholders. Any brace that
is not part of a placeholder stands for itself.
-/

namespace Dunning.Template

/-- A piece of a template. -/
inductive Piece where
  /-- A character that stands for itself. -/
  | literal (c : Char)
  /-- The place of a field's value. -/
  | field (name : String)
deriving DecidableEq, Repr

/-- The characters that a placeholder's name may begin with: ASCII letters and `_`. -/
def isNameStart (c : Char) : Bool :=
  c.isAlpha || c = '_'

/-- The characters that a placeholder's name may go on with: those of `isNameStart` and ASCII
digits. -/
def isNameChar (c : Char) : Bool :=
  c.isAlphanum || c = '_'

/-- The placeholder at the front of a text, with what follows it. -/
def placeholder? : List Char → Option (String × List Char)
  | '\x7b' :: c :: rest =>
    if isNameStart c then
      match rest.dropWhile isNameChar with
      | '\x7d' :: after => some (String.ofList (c :: rest.takeWhile isNameChar), after)
      | _ => none
    else none
  | _ => none

/-- What `placeholder?` takes is some of the text, so that `pieces` ends. -/
theorem length_lt_of_placeholder? {cs : List Char} {name : String} {after : List Char}
    (h : placeholder? cs = some (name, after)) : after.length < cs.length := by
  unfold placeholder? at h
  split at h
  · rename_i c rest
    split at h
    · split at h
      · rename_i after' hd
        have hle := (List.dropWhile_sublist (l := rest) isNameChar).length_le
        rw [hd] at hle
        simp only [Option.some.injEq, Prod.mk.injEq] at h
        obtain ⟨-, rfl⟩ := h
        simp only [List.length_cons] at hle ⊢
        omega
      · simp at h
    · simp at h
  · simp at h

/-- The pieces of a template, from left to right. -/
def pieces : List Char → List Piece
  | [] => []
  | c :: cs =>
    match _hp : placeholder? (c :: cs) with
    | some (name, after) => .field name :: pieces after
    | none => .literal c :: pieces cs
termination_by cs => cs.length
decreasing_by
  · exact length_lt_of_placeholder? _hp
  · exact Nat.lt_succ_self cs.length

/-- What stands in a reply for the field `name`: a text as it is, nothing for a missing or null
field, and the compact JSON text of anything else. -/
def fieldText (ctx : Context) (name : String) : List Char :=
  match ctx.get? name with
  | some (.str s) => s.toList
  | some .null => []
  | none => []
  | some value => value.compactList

/-- What a `Piece` becomes in the reply. -/
def Piece.render (ctx : Context) : Piece → List Char
  | .literal c => [c]
  | .field name => fieldText ctx name

/-- The reply that `template` gives in `ctx`: its `pieces`, each by `Piece.render`. -/
def render (template : String) (ctx : Context) : String :=
  String.ofList ((pieces template.toList).flatMap (Piece.render ctx))

end Dunning.Template
