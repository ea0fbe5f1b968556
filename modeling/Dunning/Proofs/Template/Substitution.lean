import Dunning.Proofs.Template.Cut
import Mathlib.Data.List.Basic
import Mathlib.Data.List.Forall2

/-!
# What a reply is made of

A reply is its template with every placeholder replaced by what the context shows for the name
(`Shows`), and with everything else left as it is. `Substitutes` says so of the pieces, and then of
a template with a placeholder anywhere in it: what stands before the placeholder and after it is
rendered by itself, so a value never takes part in it, whatever braces it holds.
-/

namespace Dunning.Template

/-- What the context `ctx` shows for `name`. -/
inductive Shows (ctx : Context) (name : String) : List Char → Prop where
  /-- A text `s` as it is. -/
  | text {s : String} (stored : ctx.get? name = some (.str s)) : Shows ctx name s.toList
  /-- Nothing for null. -/
  | null (stored : ctx.get? name = some .null) : Shows ctx name []
  /-- Nothing for a field that is missing. -/
  | missing (unset : ctx.get? name = none) : Shows ctx name []
  /-- The compact JSON text (`Json.compactList`) of any other value. -/
  | value {value : Json} (stored : ctx.get? name = some value) (isSet : value ≠ .null)
      (noText : ∀ s, value ≠ .str s) : Shows ctx name value.compactList

/-- What stands in a reply in the place of a `Piece`. -/
inductive Becomes (ctx : Context) : Piece → List Char → Prop where
  | literal (c : Char) : Becomes ctx (.literal c) [c]
  | field {name : String} {text : List Char} (shows : Shows ctx name text) :
      Becomes ctx (.field name) text

/-- What is to hold of the replies that `render` gives for `template`. -/
structure Substitutes (template : String) : Prop where
  /-- There is one way to cut the template at all its placeholders (`Cuts`). -/
  cut : ∃! ps, Cuts template.toList ps
  /-- A reply is what the pieces become, in their order, as `Becomes` has it. -/
  pieces : ∀ ps, Cuts template.toList ps → ∀ ctx reply, render template ctx = reply ↔
    ∃ texts, List.Forall₂ (Becomes ctx) ps texts ∧ reply.toList = texts.flatten
  /-- What is put in for a placeholder is not looked at again, nor is anything around it. -/
  placeholder : ∀ left name right, IsName name →
    template.toList = left.toList ++ braced name ++ right.toList → ∀ ctx text, Shows ctx name text →
    (render template ctx).toList = (render left ctx).toList ++ text ++ (render right ctx).toList
  /-- Without a placeholder all braces are kept. -/
  verbatim : (∀ name, ¬ Occurs name template.toList) → ∀ ctx, render template ctx = template
  /-- The fields of a context that do not occur do not matter. -/
  congr : ∀ ctx ctx' : Context,
    (∀ name, Occurs name template.toList → ctx.get? name = ctx'.get? name) →
    render template ctx = render template ctx'

variable {ctx ctx' : Context} {name : String} {text : List Char} {p : Piece} {ps : List Piece}
  {texts : List (List Char)} {template left right : String}

/-! ## One piece -/

theorem shows_fieldText (ctx : Context) (name : String) :
    Shows ctx name (fieldText ctx name) := by
  unfold fieldText
  split
  case h_1 s stored => exact .text stored
  case h_2 stored => exact .null stored
  case h_3 unset => exact .missing unset
  case h_4 value noText isSet stored =>
    refine .value stored ?_ ?_
    · rintro rfl
      exact isSet rfl
    · rintro s rfl
      exact noText s rfl

theorem Shows.eq_fieldText (h : Shows ctx name text) : text = fieldText ctx name := by
  unfold fieldText
  cases h with
  | text stored => rw [stored]
  | null stored => rw [stored]
  | missing unset => rw [unset]
  | value stored isSet noText =>
    rw [stored]
    split
    case h_1 s heq => exact absurd (Option.some.inj heq) (noText s)
    case h_2 heq => exact absurd (Option.some.inj heq) isSet
    case h_3 heq => cases heq
    case h_4 value' _ _ heq => rw [Option.some.inj heq]

theorem becomes_iff : Becomes ctx p text ↔ text = p.render ctx := by
  constructor
  · intro h
    cases h with
    | literal c => rfl
    | field shows => exact shows.eq_fieldText
  · rintro rfl
    cases p with
    | literal c => exact .literal c
    | field name => exact .field (shows_fieldText ctx name)

theorem forall₂_becomes_iff : List.Forall₂ (Becomes ctx) ps texts ↔ texts = ps.map (·.render ctx) := by
  induction ps generalizing texts with
  | nil => simp
  | cons p ps ih =>
    cases texts with
    | nil => simp
    | cons text texts => simp [becomes_iff, ih]

/-! ## The whole reply -/

theorem toList_render (template : String) (ctx : Context) :
    (render template ctx).toList = (pieces template.toList).flatMap (·.render ctx) :=
  String.toList_ofList

theorem toList_render_of_braced (hname : IsName name)
    (htemplate : template.toList = left.toList ++ braced name ++ right.toList) (ctx : Context) :
    (render template ctx).toList =
      (render left ctx).toList ++ fieldText ctx name ++ (render right ctx).toList := by
  rw [toList_render, htemplate, pieces_append_braced hname, List.flatMap_append, List.flatMap_cons,
    ← toList_render, ← toList_render, ← List.append_assoc]
  rfl

/-- Where nothing `Occurs`, every piece is written as it is rendered. -/
theorem render_of_not_occurs (h : ∀ name, ¬ Occurs name template.toList) (ctx : Context) :
    render template ctx = template := by
  have hpieces : ∀ p ∈ pieces template.toList, p.render ctx = p.written := by
    intro p hp
    cases p with
    | literal c => rfl
    | field name => exact absurd (field_mem_pieces_iff.1 hp) (h name)
  rw [← String.toList_inj, toList_render, List.flatMap_congr hpieces, flatMap_written_pieces]

theorem render_congr
    (h : ∀ name, Occurs name template.toList → ctx.get? name = ctx'.get? name) :
    render template ctx = render template ctx' := by
  have hpieces : ∀ p ∈ pieces template.toList, p.render ctx = p.render ctx' := by
    intro p hp
    cases p with
    | literal c => rfl
    | field name =>
      have hget := h name (field_mem_pieces_iff.1 hp)
      rw [Piece.render, Piece.render, fieldText, fieldText, hget]
  rw [← String.toList_inj, toList_render, toList_render, List.flatMap_congr hpieces]

/-- `render` substitutes what the context shows for the placeholders, in a single pass. -/
theorem substitutes_render (template : String) : Substitutes template where
  cut := existsUnique_cuts template.toList
  pieces := by
    intro ps hps ctx reply
    obtain rfl : ps = pieces template.toList := hps.unique (cuts_pieces template.toList)
    rw [← String.toList_inj, toList_render, List.flatMap_def]
    constructor
    · intro hreply
      exact ⟨_, forall₂_becomes_iff.2 rfl, hreply.symm⟩
    · rintro ⟨texts, htexts, hreply⟩
      rw [hreply, forall₂_becomes_iff.1 htexts]
  placeholder := by
    intro left name right hname htemplate ctx text hshows
    rw [hshows.eq_fieldText]
    exact toList_render_of_braced hname htemplate ctx
  verbatim := fun h ctx => render_of_not_occurs h ctx
  congr := fun _ _ h => render_congr h

-- `{{a}}, {1} {b` for an `a` that reads like a placeholder itself
example : render "\x7b\x7ba\x7d\x7d, \x7b1\x7d \x7bb"
    ⟨[("a", .str "\x7bb\x7d"), ("b", .str "c")]⟩ = "\x7b\x7bb\x7d\x7d, \x7b1\x7d \x7bb" := by
  decide +kernel

end Dunning.Template
