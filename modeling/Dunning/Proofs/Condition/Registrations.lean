import Dunning.Proofs.Condition.Meaning
import Dunning.Proofs.Fields
import Mathlib.Data.List.Sort

/-!
# Registering predicates

An evaluator comes from registrations, one after another (`Evaluator.ofRegistrations`). A
registration adds its own name to what is known and changes what that name is worth, and the names
of built-in conditions are refused. So an expression keeps its meaning while the names that it
mentions keep theirs (`unchanged_enterAll`), whatever else is registered in the meantime.
-/

namespace Dunning

/-- A registration: of a predicate, or of the question whether the context field of the same name
counts as set. -/
inductive Registration where
  | predicate (name : String) (ask : Predicate)
  | flag (name : String)

namespace Registration

/-- The name that is registered. -/
def name : Registration → String
  | predicate name _ => name
  | flag name => name

/-- What is asked of a context under the name. -/
def ask : Registration → Predicate
  | predicate _ ask => ask
  | flag name => fun ctx => .answered (ctx.isTruthy name)

/-- The name of `r` is taken by a built-in condition. -/
def IsTaken (r : Registration) : Prop :=
  ∃ b : Builtin, b.name = r.name

end Registration

namespace Evaluator

open Condition

/-- Enters `r` by `register` or `registerFlag`; the second component says whether it was accepted.
-/
def enter (ev : Evaluator) : Registration → Evaluator × Bool
  | .predicate name ask => ev.register name ask
  | .flag name => ev.registerFlag name

/-- Enters registrations one after another. -/
def enterAll (ev : Evaluator) (rs : List Registration) : Evaluator :=
  rs.foldl (fun ev r => (ev.enter r).1) ev

/-- The evaluator that comes from the registrations `rs`, oldest first. -/
def ofRegistrations (rs : List Registration) : Evaluator :=
  empty.enterAll rs

/-- `name` stands in the expression that `text` writes. -/
def Mentions (text name : String) : Prop :=
  ∃ e : ExprTree, e.tokens = Text.words text ∧ name ∈ e.names

variable {ev : Evaluator} {r : Registration} {rs : List Registration} {name text : String}

/-! ## One registration -/

theorem enter_eq_register (ev : Evaluator) (r : Registration) :
    ev.enter r = ev.register r.name r.ask := by
  cases r <;> rfl

theorem enter_of_isTaken (h : r.IsTaken) : ev.enter r = (ev, false) := by
  obtain ⟨b, hname⟩ := h
  rw [enter_eq_register, register, ← hname]
  simp

theorem enter_of_not_isTaken (h : ¬ r.IsTaken) :
    ev.enter r = (⟨Fields.insert ev.custom r.name r.ask⟩, true) := by
  have hfree : Builtin.ofName? r.name = none := ofName?_eq_none_iff.2 fun b hname => h ⟨b, hname⟩
  rw [enter_eq_register, register, hfree]
  rfl

/-- Every name is accepted but those that are `IsTaken`. -/
theorem accepted_iff : (ev.enter r).2 = true ↔ ¬ r.IsTaken := by
  by_cases h : r.IsTaken
  · simp [enter_of_isTaken h, h]
  · simp [enter_of_not_isTaken h, h]

theorem get?_custom_enter_of_ne (h : name ≠ r.name) :
    Fields.get? (ev.enter r).1.custom name = Fields.get? ev.custom name := by
  by_cases htaken : r.IsTaken
  · rw [enter_of_isTaken htaken]
  · rw [enter_of_not_isTaken htaken]
    exact Fields.get?_insert_of_ne _ _ h

/-- A registration makes its own name known and no other (`Knows`). -/
theorem knows_enter_iff : (ev.enter r).1.Knows name ↔ name = r.name ∨ ev.Knows name := by
  by_cases hname : name = r.name
  · -- the name is a built-in condition's, or it was just entered
    refine iff_of_true ?_ (.inl hname)
    rw [hname]
    by_cases htaken : r.IsTaken
    · exact .inl htaken
    · rw [enter_of_not_isTaken htaken]
      exact .inr ⟨r.ask, Fields.get?_insert_self _ _ _⟩
  · rw [Knows, Knows, get?_custom_enter_of_ne hname, or_iff_right hname]

/-- The other names are worth what they were worth before. -/
theorem holdsName_enter_of_ne (h : name ≠ r.name) (ctx : Context) :
    (ev.enter r).1.holdsName ctx name = ev.holdsName ctx name := by
  rw [holdsName, holdsName, get?_custom_enter_of_ne h]

/-! ## Expressions after a registration -/

theorem isKnown_enter (h : ev.isKnown text = true) : (ev.enter r).1.isKnown text = true := by
  obtain ⟨e, htokens, hnames⟩ := isKnown_iff.1 h
  exact isKnown_iff.2 ⟨e, htokens, fun n hn => knows_enter_iff.2 (.inr (hnames n hn))⟩

theorem isKnown_enter_of_not_mentions (h : ¬ Mentions text r.name) :
    (ev.enter r).1.isKnown text = ev.isKnown text := by
  rw [Bool.eq_iff_iff]
  refine ⟨?_, isKnown_enter⟩
  intro hknown
  obtain ⟨e, htokens, hnames⟩ := isKnown_iff.1 hknown
  refine isKnown_iff.2 ⟨e, htokens, ?_⟩
  intro n hn
  rcases knows_enter_iff.1 (hnames n hn) with rfl | hknows
  · exact absurd ⟨e, htokens, hn⟩ h
  · exact hknows

theorem evaluate_enter_of_not_mentions (h : ¬ Mentions text r.name) (ctx : Context) :
    (ev.enter r).1.evaluate text ctx = ev.evaluate text ctx := by
  have hsame : (ev.enter r).1.isKnown text = ev.isKnown text := isKnown_enter_of_not_mentions h
  cases hknown : ev.isKnown text with
  | false =>
    rw [evaluate_of_not_isKnown hknown, evaluate_of_not_isKnown (hsame.trans hknown)]
  | true =>
    obtain ⟨e, htokens, _⟩ := isKnown_iff.1 hknown
    rw [evaluate_of_tokens htokens hknown, evaluate_of_tokens htokens (hsame.trans hknown)]
    refine ExprTree.value_congr fun n hn => holdsName_enter_of_ne ?_ ctx
    rintro rfl
    exact h ⟨e, htokens, hn⟩

/-! ## Expressions after any registrations -/

theorem enterAll_cons (ev : Evaluator) (r : Registration) (rs : List Registration) :
    ev.enterAll (r :: rs) = (ev.enter r).1.enterAll rs := rfl

theorem enterAll_append (ev : Evaluator) (before after : List Registration) :
    ev.enterAll (before ++ after) = (ev.enterAll before).enterAll after :=
  List.foldl_append

/-- What every registration of `rs` keeps holds after all of them. -/
theorem enterAll_invariant {P : Evaluator → Prop} (hstart : P ev)
    (hstep : ∀ r ∈ rs, ∀ ev : Evaluator, P ev → P (ev.enter r).1) : P (ev.enterAll rs) := by
  induction rs generalizing ev with
  | nil => exact hstart
  | cons r rs ih =>
    obtain ⟨hr, hrs⟩ := List.forall_mem_cons.1 hstep
    rw [enterAll_cons]
    exact ih (hr ev hstart) hrs

theorem isKnown_enterAll (h : ev.isKnown text = true) (rs : List Registration) :
    (ev.enterAll rs).isKnown text = true :=
  enterAll_invariant (P := fun ev => ev.isKnown text = true) h fun _ _ _ => isKnown_enter

/-- Registrations leave the expression of `text` alone unless one of them is accepted under a name
that it mentions. -/
theorem unchanged_enterAll (h : ∀ r ∈ rs, Mentions text r.name → r.IsTaken) :
    (ev.enterAll rs).isKnown text = ev.isKnown text ∧
      ∀ ctx, (ev.enterAll rs).evaluate text ctx = ev.evaluate text ctx := by
  refine enterAll_invariant
    (P := fun now => now.isKnown text = ev.isKnown text ∧
      ∀ ctx, now.evaluate text ctx = ev.evaluate text ctx) ⟨rfl, fun _ => rfl⟩ ?_
  intro r hr now hnow
  by_cases htaken : r.IsTaken
  · rwa [enter_of_isTaken htaken]
  · have hmentions : ¬ Mentions text r.name := mt (h r hr) htaken
    refine ⟨(isKnown_enter_of_not_mentions hmentions).trans hnow.1, fun ctx => ?_⟩
    rw [evaluate_enter_of_not_mentions hmentions, hnow.2]

/-- What registrations make known `Mentions` a name that one of them was accepted under. -/
theorem exists_mentions_of_isKnown_enterAll (hbefore : ev.isKnown text = false)
    (hafter : (ev.enterAll rs).isKnown text = true) :
    ∃ r ∈ rs, Mentions text r.name ∧ ¬ r.IsTaken := by
  by_contra hnone
  have hsame : (ev.enterAll rs).isKnown text = ev.isKnown text := by
    refine (unchanged_enterAll ?_).1
    intro r hr hmentions
    by_contra htaken
    exact hnone ⟨r, hr, hmentions, htaken⟩
  rw [hsame, hbefore] at hafter
  cases hafter

/-! ## The names that are listed -/

/-- No name is kept twice in `ev`, and none that a built-in condition has. -/
structure IsOrderly (ev : Evaluator) : Prop where
  ascending : Fields.Ascending ev.custom
  free : ∀ name ∈ Fields.names ev.custom, ∀ b : Builtin, b.name ≠ name

theorem isOrderly_empty : IsOrderly empty where
  ascending := Fields.ascending_nil
  free := by simp [empty, Fields.names]

theorem IsOrderly.enter (h : ev.IsOrderly) (r : Registration) : (ev.enter r).1.IsOrderly := by
  by_cases htaken : r.IsTaken
  · rwa [enter_of_isTaken htaken]
  · rw [enter_of_not_isTaken htaken]
    refine ⟨Fields.ascending_insert h.ascending r.name r.ask, ?_⟩
    intro name hname b hb
    rcases Fields.mem_names_insert.1 hname with rfl | hname
    · exact htaken ⟨b, hb⟩
    · exact h.free name hname b hb

theorem isOrderly_ofRegistrations (rs : List Registration) : (ofRegistrations rs).IsOrderly :=
  enterAll_invariant isOrderly_empty fun r _ _ h => h.enter r

theorem mem_names_iff : name ∈ ev.names ↔ ev.Knows name := by
  have hbuiltin : name ∈ Builtin.all.map Builtin.name ↔ ∃ b : Builtin, b.name = name := by
    rw [List.mem_map]
    refine exists_congr fun b => and_iff_right ?_
    cases b <;> decide
  have hcustom : name ∈ Fields.names ev.custom ↔
      ∃ predicate, Fields.get? ev.custom name = some predicate := by
    rw [← Option.isSome_iff_exists, ← Option.ne_none_iff_isSome, Ne, Fields.get?_eq_none_iff,
      not_not]
  rw [names, List.mem_mergeSort, List.mem_append, hbuiltin, hcustom, Knows]

/-- The names are listed in ascending order, each once. -/
theorem IsOrderly.pairwise_names (h : ev.IsOrderly) : ev.names.Pairwise (· < ·) := by
  have hbuiltin : (Builtin.all.map Builtin.name).Nodup := by decide
  have hcustom : (Fields.names ev.custom).Nodup := h.ascending.imp ne_of_lt
  have hapart : (Builtin.all.map Builtin.name).Disjoint (Fields.names ev.custom) := by
    intro name hname hmem
    obtain ⟨b, _, hb⟩ := List.mem_map.1 hname
    exact h.free name hmem b hb
  have hnodup : ev.names.Nodup := by
    rw [names, (List.mergeSort_perm _ _).nodup_iff]
    exact hbuiltin.append hcustom hapart
  have hsorted : ev.names.Pairwise (· ≤ ·) := List.pairwise_mergeSort' (· ≤ ·) _
  exact (hsorted.and hnodup).imp fun hle => lt_of_le_of_ne hle.1 hle.2

/-! ## What registrations conserve -/

/-- What is to hold of the evaluator `ev` whatever is registered afterwards. -/
structure Conserves (ev : Evaluator) : Prop where
  /-- The name of a built-in condition is refused, and nothing changes. -/
  refused : ∀ r : Registration, r.IsTaken → ev.enter r = (ev, false)
  /-- In every expression the name of a built-in condition `b` means that condition. -/
  builtin : ∀ text ctx (e : ExprTree), e.tokens = Text.words text → ev.isKnown text = true →
    ∃ v, (∀ b : Builtin, v b.name = b.holds ctx) ∧ ev.evaluate text ctx = e.value v
  /-- The names are listed in ascending order, each once. -/
  ascending : ev.names.Pairwise (· < ·)
  /-- Exactly the names that `ev` has are listed. -/
  listed : ∀ name, name ∈ ev.names ↔ ev.has name = true
  /-- What is known stays known, after any `rs`. -/
  kept : ∀ rs text, ev.isKnown text = true → (ev.enterAll rs).isKnown text = true
  /-- An expression keeps its meaning unless a predicate is registered under a name that the
  expression mentions and that is no built-in condition's (`IsTaken`). -/
  unchanged : ∀ rs text, (∀ r ∈ rs, Mentions text r.name → r.IsTaken) → ∀ ctx,
    (ev.enterAll rs).evaluate text ctx = ev.evaluate text ctx
  /-- What becomes known mentions such a name. -/
  learned : ∀ rs text, ev.isKnown text = false → (ev.enterAll rs).isKnown text = true →
    ∃ r ∈ rs, Mentions text r.name ∧ ¬ r.IsTaken

/-- Registering is conservative, whatever `rs` were registered before. -/
theorem conserves_ofRegistrations (rs : List Registration) : (ofRegistrations rs).Conserves where
  refused _ htaken := enter_of_isTaken htaken
  builtin := by
    intro text ctx e htokens hknown
    exact ⟨(ofRegistrations rs).holdsName ctx, fun b => (Denotes.builtin b).holdsName_eq,
      evaluate_of_tokens htokens hknown ctx⟩
  ascending := (isOrderly_ofRegistrations rs).pairwise_names
  listed _ := mem_names_iff.trans has_iff_knows.symm
  kept more _ hknown := isKnown_enterAll hknown more
  unchanged _ _ h := (unchanged_enterAll h).2
  learned _ _ hbefore hafter := exists_mentions_of_isKnown_enterAll hbefore hafter

end Evaluator

end Dunning
