import Dunning.Engine
import Dunning.Proofs.Except

/-!
# Which transition a step takes

`Engine.Chooses` says, without the search, what it is for a transition to be the one to take: the
state exists, the transition is the first of the state that is open, and its target exists. The
lemma that everything else rests on is `selects_select`: it lists every way in which a selection can
end.
-/

namespace Dunning

/-- The transition `t` may be taken: it has no condition, or its condition holds. -/
def Transition.IsOpen (t : Transition) (ev : Evaluator) (ctx : Context) : Prop :=
  t.condition = none ∨ ∃ c, t.condition = some c ∧ ev.evaluate c.expression ctx = true

/-- `t` stands at position `i`, is open, and nothing before it is. -/
structure FirstOpen (ev : Evaluator) (ctx : Context) (ts : List Transition) (i : Nat)
    (t : Transition) : Prop where
  listed : ts[i]? = some t
  isOpen : t.IsOpen ev ctx
  least : ∀ j < i, ∀ u, ts[j]? = some u → ¬ u.IsOpen ev ctx

theorem FirstOpen.unique {ev : Evaluator} {ctx : Context} {ts : List Transition} {i j : Nat}
    {t u : Transition} (ht : FirstOpen ev ctx ts i t) (hu : FirstOpen ev ctx ts j u) :
    i = j ∧ t = u := by
  have hij : ¬ i < j := fun hlt => hu.least i hlt t ht.listed ht.isOpen
  have hji : ¬ j < i := fun hlt => ht.least j hlt u hu.listed hu.isOpen
  obtain rfl : i = j := by omega
  exact ⟨rfl, Option.some.inj (ht.listed.symm.trans hu.listed)⟩

namespace Engine

/-- `t`, at position `i`, is the transition to take from a state in a context. -/
structure Chooses (e : Engine) (state : String) (ctx : Context) (i : Nat) (t : Transition) :
    Prop where
  source : e.store.stateExists state = .ok true
  first : ∃ ts, e.store.transitions state = .ok ts ∧ FirstOpen e.conditions ctx ts i t
  target : e.store.stateExists t.target = .ok true

/-- The ways in which `Engine.select` can end. -/
inductive Selects (e : Engine) (state : String) (ctx : Context) :
    Except FlowError Selection → Prop
  | sourceUnanswered {cause : StoreError} (source : e.store.stateExists state = .error cause) :
      Selects e state ctx (.error (.store cause))
  | sourceMissing (source : e.store.stateExists state = .ok false) :
      Selects e state ctx (.error (.unknownState state))
  | unlisted {cause : StoreError} (source : e.store.stateExists state = .ok true)
      (listing : e.store.transitions state = .error cause) :
      Selects e state ctx (.error (.store cause))
  | closed {ts : List Transition} (source : e.store.stateExists state = .ok true)
      (listing : e.store.transitions state = .ok ts)
      (closed : ∀ t ∈ ts, ¬ t.IsOpen e.conditions ctx) :
      Selects e state ctx (.error (.noApplicableTransition state))
  | targetUnanswered {ts : List Transition} {i : Nat} {t : Transition} {cause : StoreError}
      (source : e.store.stateExists state = .ok true)
      (listing : e.store.transitions state = .ok ts) (first : FirstOpen e.conditions ctx ts i t)
      (target : e.store.stateExists t.target = .error cause) :
      Selects e state ctx (.error (.store cause))
  | targetMissing {ts : List Transition} {i : Nat} {t : Transition}
      (source : e.store.stateExists state = .ok true)
      (listing : e.store.transitions state = .ok ts) (first : FirstOpen e.conditions ctx ts i t)
      (target : e.store.stateExists t.target = .ok false) :
      Selects e state ctx (.error (.danglingTransition state t.target))
  | chosen {i : Nat} {t : Transition} (chooses : e.Chooses state ctx i t) :
      Selects e state ctx (.ok ⟨i, t⟩)

/-! ## Searching the list -/

theorem applies_iff {e : Engine} {ctx : Context} {t : Transition} :
    e.applies ctx t = true ↔ t.IsOpen e.conditions ctx := by
  unfold applies Transition.IsOpen
  cases t.condition with
  | none => simp
  | some c => simp

theorem firstOpen_of_find? {e : Engine} {ctx : Context} {ts : List Transition} {i : Nat}
    {t : Transition} (h : (ts.zipIdx.find? fun (t, _) => e.applies ctx t) = some (t, i)) :
    FirstOpen e.conditions ctx ts i t := by
  obtain ⟨happlies, k, hk, hget, hleast⟩ := List.find?_eq_some_iff_getElem.1 h
  have hpair : ts.zipIdx[k]? = some (t, i) := List.getElem?_eq_some_iff.2 ⟨hk, hget⟩
  obtain ⟨_, hlisted, rfl, rfl⟩ : ∃ u, ts[k]? = some u ∧ u = t ∧ k = i := by
    simpa [List.getElem?_zipIdx] using hpair
  refine ⟨hlisted, applies_iff.1 happlies, ?_⟩
  -- the elements before the first that `find?` accepts are the earlier positions
  intro j hj u hu
  obtain ⟨hlt, rfl⟩ := List.getElem?_eq_some_iff.1 hu
  rw [← applies_iff]
  simpa using hleast j hj

theorem closed_of_find? {e : Engine} {ctx : Context} {ts : List Transition}
    (h : (ts.zipIdx.find? fun (t, _) => e.applies ctx t) = none) :
    ∀ t ∈ ts, ¬ t.IsOpen e.conditions ctx := by
  intro t ht
  obtain ⟨i, hi⟩ := List.mem_iff_getElem?.1 ht
  have hmem : (t, i) ∈ ts.zipIdx := List.mk_mem_zipIdx_iff_getElem?.2 hi
  rw [← applies_iff]
  exact List.find?_eq_none.1 h (t, i) hmem

/-! ## Selecting -/

@[simp] theorem ask_ok {α : Type} (a : α) : ask (.ok a) = .ok a := rfl

@[simp] theorem ask_error {α : Type} (cause : StoreError) :
    ask (.error cause : Except StoreError α) = .error (.store cause) := rfl

/-- Every selection ends in one of the listed ways. -/
theorem selects_select (e : Engine) (state : String) (ctx : Context) :
    e.Selects state ctx (e.select state ctx) := by
  unfold select
  cases source : e.store.stateExists state with
  | error cause => exact .sourceUnanswered source
  | ok known =>
    cases known with
    | false => exact .sourceMissing source
    | true =>
      cases listing : e.store.transitions state with
      | error cause => exact .unlisted source listing
      | ok ts =>
        cases found : ts.zipIdx.find? fun (t, _) => e.applies ctx t with
        | none => simpa [found] using Selects.closed source listing (closed_of_find? found)
        | some pair =>
          obtain ⟨t, i⟩ := pair
          have first := firstOpen_of_find? found
          cases target : e.store.stateExists t.target with
          | error cause =>
            simpa [found, target] using Selects.targetUnanswered source listing first target
          | ok there =>
            cases there with
            | false => simpa [found, target] using Selects.targetMissing source listing first target
            | true => simpa [found, target] using Selects.chosen ⟨source, ⟨ts, listing, first⟩, target⟩

/-- Once there is a transition to take (`Chooses`), there is only one way to end. -/
theorem Selects.eq_of_chooses {e : Engine} {state : String} {ctx : Context} {i : Nat}
    {t : Transition} {answer : Except FlowError Selection} (h : e.Selects state ctx answer)
    (chooses : e.Chooses state ctx i t) : answer = .ok ⟨i, t⟩ := by
  obtain ⟨source, ⟨ts, listing, first⟩, target⟩ := chooses
  cases h with
  | sourceUnanswered source' => simp [source] at source'
  | sourceMissing source' => simp [source] at source'
  | unlisted _ listing' => simp [listing] at listing'
  | closed _ listing' closed =>
    obtain rfl := Except.ok.inj (listing.symm.trans listing')
    exact absurd first.isOpen (closed t (List.mem_of_getElem? first.listed))
  -- from here on both sides have a first open transition of the same list, so it is the same one
  | targetUnanswered _ listing' first' target' =>
    obtain rfl := Except.ok.inj (listing.symm.trans listing')
    obtain ⟨rfl, rfl⟩ := first.unique first'
    simp [target] at target'
  | targetMissing _ listing' first' target' =>
    obtain rfl := Except.ok.inj (listing.symm.trans listing')
    obtain ⟨rfl, rfl⟩ := first.unique first'
    simp [target] at target'
  | chosen chooses' =>
    obtain ⟨ts', listing', first'⟩ := chooses'.first
    obtain rfl := Except.ok.inj (listing.symm.trans listing')
    obtain ⟨rfl, rfl⟩ := first.unique first'
    rfl

theorem select_eq_ok_iff {e : Engine} {state : String} {ctx : Context} {i : Nat}
    {t : Transition} : e.select state ctx = .ok ⟨i, t⟩ ↔ e.Chooses state ctx i t := by
  constructor
  · intro h
    have hselects := e.selects_select state ctx
    rw [h] at hselects
    cases hselects with
    | chosen chooses => exact chooses
  · exact (e.selects_select state ctx).eq_of_chooses

/-- `Engine.select` never fails for an action: it carries out none. -/
theorem isAction_of_select_eq_error {e : Engine} {state : String} {ctx : Context}
    {error : FlowError} (h : e.select state ctx = .error error) : error.isAction = false := by
  have hselects := e.selects_select state ctx
  rw [h] at hselects
  cases hselects <;> rfl

end Engine

end Dunning
