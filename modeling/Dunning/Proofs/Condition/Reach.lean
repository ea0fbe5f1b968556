import Dunning.Proofs.Condition.Registrations
import Mathlib.Data.List.Induction

/-!
# Which predicates an expression can reach

Any text may be registered as a name, but an expression is read word by word. A predicate can be
asked exactly if its name is a token of the grammar that stands for a name: one word, and none that
is reserved (`IsToken`). Under such a name the expression that consists of it asks the predicate
that was registered last (`IsLast`); under any other name a predicate is listed and no expression
ever asks it.
-/

namespace Dunning.Evaluator

open Condition

/-- A text that the grammar takes for a name: one word, and none of the `reserved` ones. -/
def IsToken (name : String) : Prop :=
  Text.words name = [name] ∧ name ∉ reserved

instance (name : String) : Decidable (IsToken name) :=
  inferInstanceAs (Decidable (_ ∧ _))

/-- The last accepted registration `r` of a name, between the ones before and after it. -/
structure IsLast (rs before : List Registration) (r : Registration) (after : List Registration) :
    Prop where
  split : rs = before ++ r :: after
  accepted : ((ofRegistrations before).enter r).2 = true
  unreplaced : ∀ later ∈ after, later.name ≠ r.name

variable {ev : Evaluator} {rs before after : List Registration} {r : Registration}
  {name text : String}

/-! ## Tokens -/

/-- The derivation of the expression that is the name alone. -/
def derivation (h : IsToken name) : ExprTree :=
  ⟨.last ⟨.last (.name name h.2)⟩⟩

theorem tokens_derivation (h : IsToken name) : (derivation h).tokens = Text.words name :=
  h.1.symm

theorem names_derivation (h : IsToken name) : (derivation h).names = [name] := rfl

theorem mentions_self (h : IsToken name) : Mentions name name := by
  refine ⟨derivation h, tokens_derivation h, ?_⟩
  rw [names_derivation]
  exact List.mem_singleton_self name

theorem isToken_of_mentions (h : Mentions text name) : IsToken name := by
  obtain ⟨e, htokens, hname⟩ := h
  obtain ⟨hmem, hfree⟩ := e.mem_tokens_of_mem_names hname
  rw [htokens] at hmem
  exact ⟨Text.words_of_mem_words hmem, hfree⟩

/-- Some expression `Mentions` a name exactly if it is a token. -/
theorem exists_mentions_iff : (∃ text, Mentions text name) ↔ IsToken name :=
  ⟨fun ⟨_, h⟩ => isToken_of_mentions h, fun h => ⟨name, mentions_self h⟩⟩

theorem isKnown_of_isToken (h : IsToken name) (hknows : ev.Knows name) :
    ev.isKnown name = true := by
  refine isKnown_iff.2 ⟨derivation h, tokens_derivation h, ?_⟩
  rw [names_derivation]
  intro n hn
  obtain rfl := List.mem_singleton.1 hn
  exact hknows

/-! ## The last registration -/

theorem get?_custom_enterAll (h : ∀ later ∈ after, later.name ≠ name) :
    Fields.get? (ev.enterAll after).custom name = Fields.get? ev.custom name := by
  refine enterAll_invariant
    (P := fun now => Fields.get? now.custom name = Fields.get? ev.custom name) rfl ?_
  intro r hr now hnow
  exact (get?_custom_enter_of_ne (h r hr).symm).trans hnow

/-- What was registered last under a name is kept under it, in `Evaluator.custom`. -/
theorem IsLast.get?_custom (h : IsLast rs before r after) :
    Fields.get? (ofRegistrations rs).custom r.name = some r.ask := by
  rw [ofRegistrations, h.split, enterAll_append, enterAll_cons,
    get?_custom_enterAll h.unreplaced]
  have htaken : ¬ r.IsTaken := accepted_iff.1 h.accepted
  rw [enter_of_not_isTaken htaken]
  exact Fields.get?_insert_self _ _ _

/-- What `Evaluator.custom` keeps under a name was registered under it for a last time. -/
theorem exists_isLast {predicate : Predicate} (free : ∀ b : Builtin, b.name ≠ name)
    (h : Fields.get? (ofRegistrations rs).custom name = some predicate) :
    ∃ before r after, IsLast rs before r after ∧ r.name = name := by
  induction rs using List.reverseRecOn with
  | nil => cases h
  | append_singleton rs last ih =>
    by_cases hname : last.name = name
    · have hfree : ¬ last.IsTaken := fun ⟨b, hb⟩ => free b (hb.trans hname)
      exact ⟨rs, last, [], ⟨rfl, accepted_iff.2 hfree, by simp⟩, hname⟩
    · have hstep : ofRegistrations (rs ++ [last]) = ((ofRegistrations rs).enter last).1 :=
        enterAll_append _ _ _
      rw [hstep, get?_custom_enter_of_ne (Ne.symm hname)] at h
      obtain ⟨before, r, after, hlast, hr⟩ := ih h
      refine ⟨before, r, after ++ [last], ⟨?_, hlast.accepted, ?_⟩, hr⟩
      · rw [hlast.split, List.append_assoc, List.cons_append]
      · intro later hlater
        rcases List.mem_append.1 hlater with hafter | hlast'
        · exact hlast.unreplaced later hafter
        · obtain rfl := List.mem_singleton.1 hlast'
          exact fun heq => hname (heq.trans hr)

/-! ## Asking by name -/

/-- A name that no built-in condition has asks the predicate that is kept under it. -/
theorem holdsName_iff {ask : Predicate} (free : ∀ b : Builtin, b.name ≠ name)
    (hkept : Fields.get? ev.custom name = some ask) (ctx : Context) :
    ev.holdsName ctx name = true ↔ ask ctx = .answered true := by
  simp only [holdsName, ofName?_eq_none_iff.2 free, hkept]
  cases ask ctx <;> simp

theorem evaluate_iff_of_isToken {ask : Predicate} (h : IsToken name)
    (free : ∀ b : Builtin, b.name ≠ name) (hkept : Fields.get? ev.custom name = some ask)
    (ctx : Context) : ev.evaluate name ctx = true ↔ ask ctx = .answered true := by
  rw [evaluate_of_word h.1 h.2 (.inr ⟨ask, hkept⟩), holdsName_iff free hkept]

/-- What is to hold of the names that an evaluator `ev` lists after the registrations `rs`. -/
structure Reaches (rs : List Registration) (ev : Evaluator) : Prop where
  /-- Every name that is listed is a built-in condition's, or was accepted for a last time
  (`IsLast`). -/
  origin : ∀ name ∈ ev.names, (∃ b : Builtin, b.name = name) ∨
    ∃ before r after, IsLast rs before r after ∧ r.name = name
  /-- Every token that is listed is an expression that is known. -/
  known : ∀ name ∈ ev.names, IsToken name → ev.isKnown name = true
  /-- It asks the predicate that was registered last, and does not hold when that one fails. -/
  asked : ∀ before r after, IsLast rs before r after → IsToken r.name → ∀ ctx,
    (ev.evaluate r.name ctx = true ↔ r.ask ctx = .answered true)
  /-- The names of built-in conditions are tokens. -/
  builtin : ∀ b : Builtin, IsToken b.name
  /-- Exactly the tokens can stand in an expression (`Mentions`). -/
  mentioned : ∀ name, (∃ text, Mentions text name) ↔ IsToken name
  /-- Registering under a name that is no token changes nothing that an expression could show. -/
  lost : ∀ r : Registration, ¬ IsToken r.name → ∀ text,
    (ev.enter r).1.isKnown text = ev.isKnown text ∧
      ∀ ctx, (ev.enter r).1.evaluate text ctx = ev.evaluate text ctx

/-- An expression reaches the predicates whose names are tokens, and no others. -/
theorem reaches_ofRegistrations (rs : List Registration) : Reaches rs (ofRegistrations rs) where
  origin := by
    intro name hname
    by_cases hbuiltin : ∃ b : Builtin, b.name = name
    · exact .inl hbuiltin
    · obtain hknown | ⟨_, hkept⟩ := mem_names_iff.1 hname
      · exact .inl hknown
      · exact .inr (exists_isLast (fun b hb => hbuiltin ⟨b, hb⟩) hkept)
  known _ hname htoken := isKnown_of_isToken htoken (mem_names_iff.1 hname)
  asked := by
    intro before r after hlast htoken ctx
    have htaken : ¬ r.IsTaken := accepted_iff.1 hlast.accepted
    exact evaluate_iff_of_isToken htoken (fun b hb => htaken ⟨b, hb⟩) hlast.get?_custom ctx
  builtin b := by cases b <;> decide +kernel
  mentioned _ := exists_mentions_iff
  lost := by
    intro r htoken text
    have hmentions : ¬ Mentions text r.name := fun h => htoken (isToken_of_mentions h)
    exact ⟨isKnown_enter_of_not_mentions hmentions, evaluate_enter_of_not_mentions hmentions⟩

/-- The name `es vip` of two words is accepted and listed, and still it is no expression. -/
theorem listed_though_unknown :
    let r := Registration.predicate "es vip" fun _ => .answered true
    (empty.enter r).2 = true ∧ "es vip" ∈ (ofRegistrations [r]).names ∧
      (ofRegistrations [r]).isKnown "es vip" = false ∧
      ∀ ctx, (ofRegistrations [r]).evaluate "es vip" ctx = false := by
  intro r
  have hknown : (ofRegistrations [r]).isKnown "es vip" = false := by decide +kernel
  have hkept : Fields.get? (ofRegistrations [r]).custom "es vip" = some r.ask := rfl
  exact ⟨rfl, mem_names_iff.2 (.inr ⟨r.ask, hkept⟩), hknown, evaluate_of_not_isKnown hknown⟩

end Dunning.Evaluator
