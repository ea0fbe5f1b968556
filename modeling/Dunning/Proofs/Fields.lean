import Dunning.Context
import Mathlib.Order.Defs.LinearOrder
import Mathlib.Data.String.Basic

/-!
# The names that fields have

Setting fields adds their names and no others. Fields that were built by `Fields.insert`, one after
another, have ascending names (`Ascending`), so each name has one value, and it does not matter from
which end it is looked up.
-/

namespace Dunning.Fields

variable {α : Type} {fields others : Fields α} {name : String}

theorem get?_eq_none_iff : get? fields name = none ↔ name ∉ names fields := by
  unfold names
  induction fields with
  | nil => simp
  | cons entry rest ih =>
    obtain ⟨k, v⟩ := entry
    rw [get?_cons, List.map_cons, List.mem_cons]
    by_cases hk : k = name
    · simp [hk]
    · rw [if_neg hk, ih]
      simp [Ne.symm hk]

theorem mem_of_get? {value : α} (h : get? fields name = some value) : (name, value) ∈ fields := by
  induction fields with
  | nil => cases h
  | cons entry rest ih =>
    obtain ⟨k, v⟩ := entry
    rw [get?_cons] at h
    split at h
    · rename_i hk
      obtain rfl := Option.some.inj h
      rw [hk]
      exact List.mem_cons_self
    · exact List.mem_cons_of_mem _ (ih h)

theorem get?_append (fields others : Fields α) (name : String) :
    get? (fields ++ others) name = (get? fields name).or (get? others name) := by
  induction fields with
  | nil => rfl
  | cons entry rest ih =>
    obtain ⟨k, v⟩ := entry
    by_cases hk : k = name
    · simp [get?_cons, hk]
    · simp [get?_cons, hk, ih]

theorem mem_names_reverse : name ∈ names fields.reverse ↔ name ∈ names fields := by
  simp [names]

theorem mem_names_insert {key : String} {value : α} :
    name ∈ names (insert fields key value) ↔ name = key ∨ name ∈ names fields := by
  rw [← not_iff_not, not_or, ← get?_eq_none_iff, ← get?_eq_none_iff, get?_insert]
  by_cases hkey : name = key <;> simp [hkey]

theorem merge_cons (key : String) (value : α) :
    merge fields ((key, value) :: others) = merge (insert fields key value) others := rfl

theorem mem_names_merge :
    name ∈ names (merge fields others) ↔ name ∈ names others ∨ name ∈ names fields := by
  rw [← not_iff_not, not_or, ← get?_eq_none_iff, get?_merge, Option.or_eq_none_iff,
    get?_eq_none_iff, get?_eq_none_iff, mem_names_reverse]

theorem mem_names_ofList {pairs : List (String × α)} :
    name ∈ names (ofList pairs) ↔ name ∈ pairs.map Prod.fst := by
  rw [ofList, mem_names_merge]
  simp [names]

theorem get?_ofList (pairs : List (String × α)) (name : String) :
    get? (ofList pairs) name = get? pairs.reverse name := by
  rw [ofList, get?_merge, get?_nil, Option.or_none]

/-- Where every name stands once, `get?` finds the value that stands with it. -/
theorem get?_of_mem {value : α} (hnodup : (names fields).Nodup) (h : (name, value) ∈ fields) :
    get? fields name = some value := by
  induction fields with
  | nil => cases h
  | cons entry rest ih =>
    obtain ⟨k, v⟩ := entry
    obtain ⟨hk, hrest⟩ := List.nodup_cons.1 hnodup
    rw [get?_cons]
    obtain heq | hmem := List.mem_cons.1 h
    · obtain ⟨rfl, rfl⟩ := Prod.mk.inj heq
      rw [if_pos rfl]
    · have hne : k ≠ name := by
        rintro rfl
        exact hk (List.mem_map.2 ⟨_, hmem, rfl⟩)
      rw [if_neg hne, ih hrest hmem]

theorem get?_ofList_of_mem {pairs : List (String × α)} {value : α}
    (hnodup : (pairs.map Prod.fst).Nodup) (h : (name, value) ∈ pairs) :
    get? (ofList pairs) name = some value := by
  rw [get?_ofList]
  apply get?_of_mem
  · rw [names, List.map_reverse]
    exact List.pairwise_reverse.2 (hnodup.imp Ne.symm)
  · exact List.mem_reverse.2 h

theorem get?_map_mk (f : String → α) (keys : List String) (name : String) :
    get? (keys.map fun key => (key, f key)) name = if name ∈ keys then some (f name) else none := by
  induction keys with
  | nil => rfl
  | cons key keys ih =>
    rw [List.map_cons, get?_cons, ih]
    by_cases hkey : key = name
    · simp [hkey]
    · simp [hkey, Ne.symm hkey]

/-- Fields that `f` gives to some keys have the values of `f`. -/
theorem get?_ofList_map (f : String → α) (keys : List String) (name : String) :
    get? (ofList (keys.map fun key => (key, f key))) name =
      if name ∈ keys then some (f name) else none := by
  rw [get?_ofList, ← List.map_reverse, get?_map_mk]
  simp

/-! ## Ascending names -/

/-- The names of `fields` are ascending, so each stands once. -/
def Ascending (fields : Fields α) : Prop :=
  (names fields).Pairwise (· < ·)

theorem ascending_nil : Ascending ([] : Fields α) := List.Pairwise.nil

theorem ascending_singleton (key : String) (value : α) : Ascending [(key, value)] := by
  simp [Ascending, names]

theorem ascending_insert (h : Ascending fields) (key : String) (value : α) :
    Ascending (insert fields key value) := by
  induction fields with
  | nil => simp [Ascending, insert, names]
  | cons entry rest ih =>
    obtain ⟨k, v⟩ := entry
    obtain ⟨hfirst, hrest⟩ := List.pairwise_cons.1 h
    rw [insert]
    split
    · rename_i hk
      subst hk
      exact List.pairwise_cons.2 ⟨hfirst, hrest⟩
    split
    · rename_i hlt
      apply List.pairwise_cons.2
      refine ⟨?_, h⟩
      intro n hn
      rcases List.mem_cons.1 hn with rfl | hn
      · exact hlt
      · exact lt_trans hlt (hfirst n hn)
    · rename_i hk hlt
      apply List.pairwise_cons.2
      refine ⟨?_, ih hrest⟩
      intro n hn
      rcases mem_names_insert.1 hn with rfl | hn
      · exact lt_of_le_of_ne (not_lt.1 hlt) hk
      · exact hfirst n hn

theorem ascending_merge (h : Ascending fields) (others : Fields α) :
    Ascending (merge fields others) := by
  induction others generalizing fields with
  | nil => exact h
  | cons entry rest ih =>
    obtain ⟨k, v⟩ := entry
    rw [merge_cons]
    exact ih (ascending_insert h k v)

/-- Ascending fields have the same values when they are read from the back. -/
theorem Ascending.get?_reverse (h : Ascending fields) (name : String) :
    get? fields.reverse name = get? fields name := by
  induction fields with
  | nil => rfl
  | cons entry rest ih =>
    obtain ⟨k, v⟩ := entry
    obtain ⟨hfirst, hrest⟩ := List.pairwise_cons.1 h
    rw [List.reverse_cons, get?_append, ih hrest, get?_cons, get?_cons, get?_nil]
    by_cases hk : k = name
    · -- the first name does not come again
      have hnot : name ∉ names rest := by
        intro hmem
        exact absurd (hfirst name hmem) (by simp [hk])
      rw [get?_eq_none_iff.2 hnot, if_pos hk]
      rfl
    · rw [if_neg hk, if_neg hk, Option.or_none]

/-- An entry of `Ascending` fields is the value of its name. -/
theorem Ascending.mem_iff_get? (h : Ascending fields) {value : α} :
    (name, value) ∈ fields ↔ get? fields name = some value :=
  ⟨get?_of_mem (h.imp ne_of_lt), mem_of_get?⟩

end Dunning.Fields

namespace Dunning.Context

/-- What `Context.merge` merges changes the fields that it names and no others. -/
theorem get?_merge_of_not_mem (ctx : Context) {delta : Fields Json} {name : String}
    (h : name ∉ delta.names) : (ctx.merge delta).get? name = ctx.get? name := by
  rw [get?_merge, Fields.get?_eq_none_iff.2 (mt Fields.mem_names_reverse.1 h)]
  rfl

end Dunning.Context
