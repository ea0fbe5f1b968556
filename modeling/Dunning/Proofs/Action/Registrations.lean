import Dunning.Proofs.Action.Standard
import Dunning.Proofs.Text.Trim
import Mathlib.Data.List.Dedup

/-!
# Which handler carries out an action

A registry comes from registrations, one after another (`Registry.ofHistory`). `IsLast` singles out
the last one of a kind by its place among them, without the registry, and `Routes` says that a text
leads to the last registration of the kind that it names and to no other (`routes_ofHistory`). A
kind that has the name of another one, or a name with blanks at its ends, is named by no text at
all.
-/

namespace Dunning

namespace ActionKind

@[simp] theorem name_ofName (name : String) : (ofName name).name = name := by
  unfold ofName
  cases hfind : builtins.find? (·.name = name) with
  | none => rfl
  | some kind => simpa using List.find?_some hfind

/-- The name of the kind that `text` names is a text that names it. -/
@[simp] theorem ofText_name_ofText (text : String) : ofText (ofText text).name = ofText text := by
  rw [ofText, ofText, name_ofName, Text.trim_trim]

/-- If any text names `kind`, then `kind.name` does. -/
theorem exists_ofText_eq_iff {kind : ActionKind} :
    (∃ text, ofText text = kind) ↔ ofText kind.name = kind := by
  constructor
  · rintro ⟨text, rfl⟩
    exact ofText_name_ofText text
  · intro h
    exact ⟨kind.name, h⟩

theorem ofText_congr {text other : String} (h : Text.trim text = Text.trim other) :
    ofText text = ofText other :=
  congrArg ofName h

end ActionKind

namespace Registry

/-- The registry that comes from registrations, oldest first, with a time limit for handlers that
have none. -/
def ofHistory (limit : Nat) (history : List (ActionKind × Handler)) : Registry :=
  history.foldl (fun r entry => r.register entry.1 entry.2) { defaultLimit := limit }

/-- The last registration of `kind`, between the ones before and after it. -/
structure IsLast (history before : List (ActionKind × Handler)) (kind : ActionKind)
    (handler : Handler) (after : List (ActionKind × Handler)) : Prop where
  split : history = before ++ (kind, handler) :: after
  unreplaced : ∀ entry ∈ after, entry.1 ≠ kind

/-- The kinds that `r` can carry out. -/
def kinds (r : Registry) : List ActionKind :=
  r.handlers.map Prod.fst

/-- How a registry `r` that comes from `history` finds the handler of an action. -/
structure Routes (limit : Nat) (history : List (ActionKind × Handler)) (r : Registry) : Prop where
  /-- The last handler of the kind that a text names (`ActionKind.ofText`) carries out the action.
  -/
  runs : ∀ type before handler after, IsLast history before (.ofText type) handler after →
    ∀ around payload ctx, r.execute around ⟨type, payload, ctx⟩ =
      (handler.run around payload ctx).observe (ActionKind.ofText type).name
        (handler.limit.getD limit) around.patience
  /-- No other handler of `history` has any part in it. -/
  alone : ∀ type before handler after, IsLast history before (.ofText type) handler after →
    ∀ around payload ctx, r.execute around ⟨type, payload, ctx⟩ =
      (ofHistory limit [(.ofText type, handler)]).execute around ⟨type, payload, ctx⟩
  /-- An action can be carried out when its kind was registered. -/
  has : ∀ type, r.has type = true ↔
    ∃ before handler after, IsLast history before (.ofText type) handler after
  /-- Otherwise nothing is run and the text is reported as it is, in `ActionError.unknownAction`. -/
  refuses : ∀ type, r.has type = false → ∀ around payload ctx,
    r.execute around ⟨type, payload, ctx⟩ = ⟨[], .failed (.unknownAction type)⟩
  /-- Blanks around a text (`Text.trim`) make no difference to where it leads. -/
  trims : ∀ type other, Text.trim type = Text.trim other →
    r.has type = r.has other ∧
    (∀ before handler after, IsLast history before (.ofText type) handler after ↔
      IsLast history before (.ofText other) handler after) ∧
    (r.has type = true → ∀ around payload ctx,
      r.execute around ⟨type, payload, ctx⟩ = r.execute around ⟨other, payload, ctx⟩)
  /-- Some text leads to a handler that was not replaced exactly if the name of its kind does. -/
  reached : ∀ before kind handler after, IsLast history before kind handler after →
    ((∃ type, IsLast history before (.ofText type) handler after) ↔
      ActionKind.ofText kind.name = kind)
  /-- Reading the name of a kind that was read from a text gives it back. -/
  stable : ∀ type, ActionKind.ofText (ActionKind.ofText type).name = ActionKind.ofText type
  /-- `Registry.size` is the number of different kinds. -/
  size : r.size = (history.map Prod.fst).dedup.length
  /-- `Registry.types` are the names of the different kinds, ascending. -/
  types : r.types.Pairwise (· ≤ ·) ∧
    r.types.Perm ((history.map Prod.fst).dedup.map ActionKind.name)

variable {r : Registry} {limit : Nat} {history before after : List (ActionKind × Handler)}
  {kind other : ActionKind} {handler : Handler}

/-! ## The last registration -/

/-- A kind that occurs in `history` was registered for a last time. -/
theorem exists_isLast (h : kind ∈ history.map Prod.fst) :
    ∃ before handler after, IsLast history before kind handler after := by
  induction history with
  | nil => cases h
  | cons entry history ih =>
    by_cases hlater : kind ∈ history.map Prod.fst
    · obtain ⟨before, handler, after, hlast⟩ := ih hlater
      exact ⟨entry :: before, handler, after, by rw [hlast.split]; rfl, hlast.unreplaced⟩
    · have hentry : kind = entry.1 := by
        rcases List.mem_cons.1 h with hentry | hmem
        · exact hentry
        · exact absurd hmem hlater
      refine ⟨[], entry.2, history, by rw [hentry]; rfl, ?_⟩
      rintro later hmem rfl
      exact hlater (List.mem_map_of_mem hmem)

theorem get?_foldl_of_unreplaced (h : ∀ entry ∈ after, entry.1 ≠ kind) (r : Registry) :
    (after.foldl (fun r entry => r.register entry.1 entry.2) r).get? kind = r.get? kind := by
  induction after generalizing r with
  | nil => rfl
  | cons entry after ih =>
    obtain ⟨hentry, hafter⟩ := List.forall_mem_cons.1 h
    rw [List.foldl_cons, ih hafter, get?_register, if_neg hentry.symm]

theorem IsLast.get?_ofHistory (h : IsLast history before kind handler after) :
    (ofHistory limit history).get? kind = some handler := by
  rw [ofHistory, h.split, List.foldl_append, List.foldl_cons,
    get?_foldl_of_unreplaced h.unreplaced, get?_register, if_pos rfl]

theorem get?_ofHistory_of_not_mem (h : kind ∉ history.map Prod.fst) :
    (ofHistory limit history).get? kind = none := by
  have hunreplaced : ∀ entry ∈ history, entry.1 ≠ kind := by
    rintro entry hentry rfl
    exact h (List.mem_map_of_mem hentry)
  exact get?_foldl_of_unreplaced hunreplaced _

theorem defaultLimit_ofHistory (limit : Nat) (history : List (ActionKind × Handler)) :
    (ofHistory limit history).defaultLimit = limit := by
  have hfold : ∀ r : Registry,
      (history.foldl (fun r entry => r.register entry.1 entry.2) r).defaultLimit =
        r.defaultLimit := by
    induction history with
    | nil => exact fun r => rfl
    | cons entry history ih => exact fun r => ih (r.register entry.1 entry.2)
  exact hfold _

/-! ## What is carried out -/

theorem execute_of_not_has {around : Circumstances} {call : ActionCall}
    (h : r.has call.type = false) :
    r.execute around call = ⟨[], .failed (.unknownAction call.type)⟩ := by
  apply execute_of_get?_eq_none
  simpa [Registry.has] using h

theorem IsLast.execute_eq {type : String}
    (h : IsLast history before (.ofText type) handler after) (around : Circumstances)
    (payload : Json) (ctx : Context) :
    (ofHistory limit history).execute around ⟨type, payload, ctx⟩ =
      (handler.run around payload ctx).observe (ActionKind.ofText type).name
        (handler.limit.getD limit) around.patience := by
  have hget : (ofHistory limit history).get? (.ofText type) = some handler := h.get?_ofHistory
  rw [execute_of_get? around ⟨type, payload, ctx⟩ hget, defaultLimit_ofHistory]

theorem has_ofHistory_iff {type : String} : (ofHistory limit history).has type = true ↔
    ∃ before handler after, IsLast history before (.ofText type) handler after := by
  constructor
  · intro hhas
    by_cases hmem : ActionKind.ofText type ∈ history.map Prod.fst
    · exact exists_isLast hmem
    · rw [Registry.has, get?_ofHistory_of_not_mem hmem] at hhas
      cases hhas
  · rintro ⟨before, handler, after, hlast⟩
    rw [Registry.has, hlast.get?_ofHistory]
    rfl

/-! ## Which kinds there are -/

theorem kinds_register (r : Registry) (kind : ActionKind) (handler : Handler) :
    (r.register kind handler).kinds = kind :: r.kinds.filter (· ≠ kind) := by
  rw [kinds, register, List.map_cons, kinds, List.filter_map]
  rfl

theorem nodup_kinds_register (h : r.kinds.Nodup) : (r.register kind handler).kinds.Nodup := by
  rw [kinds_register, List.nodup_cons]
  exact ⟨by simp, h.filter _⟩

theorem mem_kinds_register :
    other ∈ (r.register kind handler).kinds ↔ other = kind ∨ other ∈ r.kinds := by
  rw [kinds_register, List.mem_cons, List.mem_filter]
  by_cases hkind : other = kind <;> simp [hkind]

theorem nodup_kinds_foldl (h : r.kinds.Nodup) (history : List (ActionKind × Handler)) :
    (history.foldl (fun r entry => r.register entry.1 entry.2) r).kinds.Nodup := by
  induction history generalizing r with
  | nil => exact h
  | cons entry history ih => exact ih (nodup_kinds_register h)

theorem mem_kinds_foldl (r : Registry) (history : List (ActionKind × Handler)) :
    kind ∈ (history.foldl (fun r entry => r.register entry.1 entry.2) r).kinds ↔
      kind ∈ history.map Prod.fst ∨ kind ∈ r.kinds := by
  induction history generalizing r with
  | nil => simp
  | cons entry history ih =>
    rw [List.foldl_cons, ih, mem_kinds_register, List.map_cons, List.mem_cons]
    tauto

/-- The kinds of a registry are the different ones of `history`. -/
theorem kinds_ofHistory_perm (limit : Nat) (history : List (ActionKind × Handler)) :
    (ofHistory limit history).kinds.Perm (history.map Prod.fst).dedup := by
  have hempty : ({ defaultLimit := limit } : Registry).kinds.Nodup := List.nodup_nil
  have hnodup : (ofHistory limit history).kinds.Nodup := nodup_kinds_foldl hempty history
  rw [List.perm_ext_iff_of_nodup hnodup (List.nodup_dedup _)]
  intro kind
  rw [ofHistory, mem_kinds_foldl, List.mem_dedup]
  simp [kinds]

theorem types_pairwise (r : Registry) : r.types.Pairwise (· ≤ ·) := by
  have htrans : ∀ a b c : String, decide (a ≤ b) = true → decide (b ≤ c) = true →
      decide (a ≤ c) = true := by
    simpa using fun a b c => String.le_trans
  have htotal : ∀ a b : String, (decide (a ≤ b) || decide (b ≤ a)) = true := by
    simpa using String.le_total
  have hsorted := List.pairwise_mergeSort htrans htotal (r.handlers.map (·.1.name))
  exact hsorted.imp fun hle => of_decide_eq_true hle

theorem types_perm (r : Registry) : r.types.Perm (r.kinds.map ActionKind.name) := by
  rw [kinds, List.map_map]
  exact List.mergeSort_perm _ _

/-- A text leads to the last registration of the kind that it names, whatever was registered. -/
theorem routes_ofHistory (limit : Nat) (history : List (ActionKind × Handler)) :
    Routes limit history (ofHistory limit history) where
  runs type before handler after hlast := hlast.execute_eq
  alone := by
    intro type before handler after hlast around payload ctx
    have halone : IsLast [(ActionKind.ofText type, handler)] [] (.ofText type) handler [] :=
      ⟨rfl, by simp⟩
    rw [hlast.execute_eq, halone.execute_eq]
  has _ := has_ofHistory_iff
  refuses _ hhas _ _ _ := execute_of_not_has hhas
  trims := by
    intro type other htrim
    have hkind : ActionKind.ofText type = ActionKind.ofText other := ActionKind.ofText_congr htrim
    refine ⟨by rw [Registry.has, Registry.has, hkind], ?_, ?_⟩
    · intro before handler after
      rw [hkind]
    · intro hhas around payload ctx
      obtain ⟨before, handler, after, hlast⟩ := has_ofHistory_iff.1 hhas
      have hlast' : IsLast history before (.ofText other) handler after := hkind ▸ hlast
      rw [hlast.execute_eq, hlast'.execute_eq, hkind]
  reached := by
    intro before kind handler after hlast
    rw [← ActionKind.exists_ofText_eq_iff]
    constructor
    · rintro ⟨type, htype⟩
      have hrest := List.append_cancel_left (htype.split.symm.trans hlast.split)
      have hentry := (List.cons.inj hrest).1
      exact ⟨type, (Prod.mk.inj hentry).1⟩
    · rintro ⟨type, rfl⟩
      exact ⟨type, hlast⟩
  stable := ActionKind.ofText_name_ofText
  size := by
    have hlength := (kinds_ofHistory_perm limit history).length_eq
    rwa [kinds, List.length_map] at hlength
  types := by
    refine ⟨types_pairwise _, (types_perm _).trans ?_⟩
    exact (kinds_ofHistory_perm limit history).map ActionKind.name

end Registry

end Dunning
