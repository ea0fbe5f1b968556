import Dunning.Template

/-!
# What replies begin with

A character that is no opening brace stands for itself, so a template that begins with such a
character gives replies that begin with it, whatever the context holds.
-/

namespace Dunning.Template

variable {c : Char} {cs : List Char}

/-- Every placeholder that `placeholder?` finds begins with an opening brace. -/
theorem placeholder?_of_ne (h : c ≠ '\x7b') : placeholder? (c :: cs) = none := by
  unfold placeholder?
  split
  · rename_i heq
    exact absurd (List.cons.inj heq).1 h
  · rfl

theorem pieces_of_none (h : placeholder? (c :: cs) = none) :
    pieces (c :: cs) = .literal c :: pieces cs := by
  rw [pieces]
  split
  · rename_i hplaceholder
    rw [h] at hplaceholder
    cases hplaceholder
  · rfl

theorem pieces_of_ne (h : c ≠ '\x7b') : pieces (c :: cs) = .literal c :: pieces cs :=
  pieces_of_none (placeholder?_of_ne h)

theorem exists_toList_render {template : String} (htemplate : template.toList = c :: cs)
    (h : c ≠ '\x7b') (ctx : Context) : ∃ rest, (render template ctx).toList = c :: rest := by
  rw [render, String.toList_ofList, htemplate, pieces_of_ne h, List.flatMap_cons]
  exact ⟨_, rfl⟩

end Dunning.Template
