import Dunning.Json.Record
import Dunning.Proofs.Fields
import Mathlib.Data.List.Forall2

/-!
# How a record stands in JSON

`Json.Holds` says without reading anything what it is for a value to be a record with given fields:
an object that has them under their names, in any order and among other members, or an array that
has them in their order. Reading a record finds its fields in either form.
-/

namespace Dunning.Json

open RecordValue

/-- `value` is a record whose fields, in the order of `names`, are `values`. -/
inductive Holds (names : List String) (values : List Json) : Json → Prop
  | named {members : List (String × Json)}
      (fields : names.map (Fields.get? members) = values.map some) :
      Holds names values (.obj members)
  | positional : Holds names values (.arr values)

variable {names : List String} {values : List Json} {value : Json}

theorem Holds.fields?_eq (h : Holds names values value) (hlength : values.length = names.length) :
    fields? names value = some (values.map some) := by
  show record? names value = some (values.map some)
  cases h with
  | named fields => exact congrArg some fields
  | positional => simp [record?, hlength]

/-- An object with distinct `names` has its values under them. -/
theorem holds_ofMembers {members : List (String × Json)} (hnames : members.map Prod.fst = names)
    (hvalues : members.map Prod.snd = values) (hnodup : names.Nodup) :
    Holds names values (ofMembers members) := by
  subst hnames hvalues
  apply Holds.named
  rw [List.map_map, List.map_map]
  apply List.map_congr_left
  intro member hmem
  exact Fields.get?_ofList_of_mem hnodup hmem

/-! ## Fields of a record -/

variable {α : Type} {decode : Json → Option α}

/-- `asListOf?` reads a list when `decode` reads each of its items. -/
theorem asListOf?_arr {items : List Json} {xs : List α}
    (h : List.Forall₂ (fun x item => decode item = some x) xs items) :
    asListOf? decode (.arr items) = some xs := by
  show items.mapM decode = some xs
  induction h with
  | nil => rfl
  | cons hx _ ih =>
    rw [List.mapM_cons, hx, ih]
    rfl

/-- A value that may be absent is read back by `optional`, provided that `encode` does not write it
as null. -/
theorem optional_ofOption {encode : α → Json} (h : ∀ a, decode (encode a) = some a)
    (hnull : ∀ a, encode a ≠ .null) (x : Option α) :
    optional decode (some (ofOption encode x)) = some x := by
  cases x with
  | none => rfl
  | some a =>
    have hgiven : (encode a).nonNull? = some (encode a) := by
      cases hvalue : encode a with
      | null => exact absurd hvalue (hnull a)
      | _ => rfl
    show (encode a).nonNull?.mapM decode = some (some a)
    rw [hgiven]
    show some <$> decode (encode a) = some (some a)
    rw [h a]
    rfl

end Dunning.Json
