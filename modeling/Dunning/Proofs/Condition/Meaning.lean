import Dunning.Condition.Evaluator
import Dunning.Proofs.Condition.Grammar
import Dunning.Proofs.Text.Words
import Mathlib.Logic.ExistsUnique

/-!
# What a condition means

`Evaluator.Knows` says which names an evaluator knows, `Evaluator.Denotes` what a name is worth in a
context. With the derivations of the grammar they give every text a meaning that mentions no
reading, and the evaluator is shown to decide by it: a text is known exactly when it is derivable
and all names of the derivation are known, and then its value is the derivation's.
-/

namespace Dunning.Evaluator

open Condition

/-- `name` is that of a built-in condition, or of a registered predicate. -/
def Knows (ev : Evaluator) (name : String) : Prop :=
  (∃ b : Builtin, b.name = name) ∨ ∃ predicate, Fields.get? ev.custom name = some predicate

/-- What a name is worth in the context `ctx`. A registered predicate is asked only when no built-in
condition has the name, and does not hold when it fails or crashes. -/
inductive Denotes (ev : Evaluator) (ctx : Context) : String → Bool → Prop
  | builtin (b : Builtin) : Denotes ev ctx b.name (b.holds ctx)
  | answered {name : String} {predicate : Predicate} {holds : Bool}
      (free : ∀ b : Builtin, b.name ≠ name)
      (registered : Fields.get? ev.custom name = some predicate)
      (answer : predicate ctx = .answered holds) : Denotes ev ctx name holds
  | failed {name : String} {predicate : Predicate} {error : ConditionError}
      (free : ∀ b : Builtin, b.name ≠ name)
      (registered : Fields.get? ev.custom name = some predicate)
      (answer : predicate ctx = .failed error) : Denotes ev ctx name false
  | crashed {name : String} {predicate : Predicate} (free : ∀ b : Builtin, b.name ≠ name)
      (registered : Fields.get? ev.custom name = some predicate)
      (answer : predicate ctx = .crashed) : Denotes ev ctx name false

/-! ## Names -/

theorem ofName?_eq_none_iff {name : String} :
    Builtin.ofName? name = none ↔ ∀ b : Builtin, b.name ≠ name := by
  constructor
  · rintro h b rfl
    simp at h
  · intro h
    cases hb : Builtin.ofName? name with
    | none => rfl
    | some b => exact absurd (Builtin.name_of_ofName? hb) (h b)

theorem has_iff_knows {ev : Evaluator} {name : String} : ev.has name = true ↔ ev.Knows name := by
  rw [has, Bool.or_eq_true, Option.isSome_iff_exists, Fields.contains, Option.isSome_iff_exists]
  refine or_congr ⟨?_, ?_⟩ Iff.rfl
  · rintro ⟨b, hb⟩
    exact ⟨b, Builtin.name_of_ofName? hb⟩
  · rintro ⟨b, rfl⟩
    exact ⟨b, Builtin.ofName?_name b⟩

theorem denotes_holdsName {ev : Evaluator} {ctx : Context} {name : String}
    (h : ev.Knows name) : ev.Denotes ctx name (ev.holdsName ctx name) := by
  cases hb : Builtin.ofName? name with
  | some b =>
    obtain rfl := Builtin.name_of_ofName? hb
    have hdenotes : ev.Denotes ctx b.name (b.holds ctx) := .builtin b
    simpa [holdsName] using hdenotes
  | none =>
    have free := ofName?_eq_none_iff.1 hb
    obtain ⟨b, hname⟩ | ⟨predicate, registered⟩ := h
    · exact absurd hname (free b)
    · cases answer : predicate ctx with
      | answered holds => simpa [holdsName, hb, registered, answer] using
          Denotes.answered free registered answer
      | failed error => simpa [holdsName, hb, registered, answer] using
          Denotes.failed free registered answer
      | crashed => simpa [holdsName, hb, registered, answer] using
          Denotes.crashed free registered answer

theorem Denotes.holdsName_eq {ev : Evaluator} {ctx : Context} {name : String} {b : Bool}
    (h : ev.Denotes ctx name b) : ev.holdsName ctx name = b := by
  cases h with
  | builtin b => simp [holdsName]
  | answered free registered answer =>
    simp [holdsName, ofName?_eq_none_iff.2 free, registered, answer]
  | failed free registered answer =>
    simp [holdsName, ofName?_eq_none_iff.2 free, registered, answer]
  | crashed free registered answer =>
    simp [holdsName, ofName?_eq_none_iff.2 free, registered, answer]

/-! ## Expressions -/

theorem resolve?_eq_some_iff {ev : Evaluator} {text : String} {x : Expr} :
    ev.resolve? text = some x ↔
      ∃ e : ExprTree, e.tokens = Text.words text ∧ e.expr = x ∧ ∀ n ∈ e.names, ev.Knows n := by
  rw [resolve?, Option.filter_eq_some_iff, Expr.ofText?, ofTokens?_eq_some_iff]
  simp only [List.all_eq_true, has_iff_knows]
  constructor
  · rintro ⟨⟨e, htokens, rfl⟩, hnames⟩
    exact ⟨e, htokens, rfl, by rwa [e.names_expr] at hnames⟩
  · rintro ⟨e, htokens, rfl, hnames⟩
    exact ⟨⟨e, htokens, rfl⟩, by rwa [e.names_expr]⟩

theorem isKnown_iff {ev : Evaluator} {text : String} :
    ev.isKnown text = true ↔
      ∃ e : ExprTree, e.tokens = Text.words text ∧ ∀ n ∈ e.names, ev.Knows n := by
  rw [isKnown, Option.isSome_iff_exists]
  simp only [resolve?_eq_some_iff]
  constructor
  · rintro ⟨_, e, htokens, _, hnames⟩
    exact ⟨e, htokens, hnames⟩
  · rintro ⟨e, htokens, hnames⟩
    exact ⟨e.expr, e, htokens, rfl, hnames⟩

theorem evaluate_of_not_isKnown {ev : Evaluator} {text : String} (h : ev.isKnown text = false)
    (ctx : Context) : ev.evaluate text ctx = false := by
  rw [isKnown, Option.isSome_eq_false_iff, Option.isNone_iff_eq_none] at h
  simp [evaluate, h]

/-- Whatever its derivation `e`, a text is read as one expression. -/
theorem evaluate_of_tokens {ev : Evaluator} {text : String} {e : ExprTree}
    (htokens : e.tokens = Text.words text) (hknown : ev.isKnown text = true) (ctx : Context) :
    ev.evaluate text ctx = e.value (ev.holdsName ctx) := by
  obtain ⟨x, hx⟩ := Option.isSome_iff_exists.1 hknown
  obtain ⟨e', htokens', rfl, -⟩ := resolve?_eq_some_iff.1 hx
  -- both derivations have these tokens, and reading gives one expression for them
  have hread : Expr.ofTokens? (Text.words text) = some e.expr :=
    ofTokens?_eq_some_iff.2 ⟨e, htokens, rfl⟩
  have hread' : Expr.ofTokens? (Text.words text) = some e'.expr :=
    ofTokens?_eq_some_iff.2 ⟨e', htokens', rfl⟩
  have hexpr : e.expr = e'.expr := Option.some.inj (hread.symm.trans hread')
  rw [evaluate, hx, ← e.eval_expr, hexpr]

/-- A name by itself is an expression, and holds when its predicate does (`holdsName`). -/
theorem evaluate_of_word {ev : Evaluator} {name : String} (hword : Text.words name = [name])
    (free : name ∉ reserved) (hknows : ev.Knows name) (ctx : Context) :
    ev.evaluate name ctx = ev.holdsName ctx name := by
  let e : ExprTree := ⟨.last ⟨.last (.name name free)⟩⟩
  have htokens : e.tokens = Text.words name := hword.symm
  have hknown : ev.isKnown name = true := by
    refine isKnown_iff.2 ⟨e, htokens, ?_⟩
    intro n hn
    obtain rfl := List.mem_singleton.1 hn
    exact hknows
  rw [evaluate_of_tokens htokens hknown]
  simp [e, ExprTree.value, ConjTree.value, TermTree.value, Joined.parts]

/-- The name of a built-in condition means that condition, whatever else is registered. -/
theorem evaluate_name (ev : Evaluator) (b : Builtin) (ctx : Context) :
    ev.evaluate b.name ctx = b.holds ctx := by
  have hword : Text.words b.name = [b.name] := by cases b <;> decide +kernel
  have free : b.name ∉ reserved := by cases b <;> decide
  rw [evaluate_of_word hword free (.inl ⟨b, rfl⟩)]
  exact (Denotes.builtin b).holdsName_eq

/-- `Evaluator.evaluate` decides by the grammar, with the grammar's Boolean meaning. -/
theorem evaluate_eq_value (ev : Evaluator) (text : String) :
    Text.Spells ((Text.words text).map String.toList) text.toList ∧
    (ev.isKnown text = true ↔
      ∃ e : ExprTree, e.tokens = Text.words text ∧ ∀ n ∈ e.names, ev.Knows n) ∧
    (ev.isKnown text = false → ∀ ctx, ev.evaluate text ctx = false) ∧
    (ev.isKnown text = true → ∀ ctx (e : ExprTree) (v : String → Bool),
      e.tokens = Text.words text → (∀ n ∈ e.names, ev.Denotes ctx n (v n)) →
        ev.evaluate text ctx = e.value v) ∧
    (∀ ctx n, ev.Knows n → ∃! b, ev.Denotes ctx n b) := by
  refine ⟨Text.spells_words text, isKnown_iff, evaluate_of_not_isKnown, ?_, ?_⟩
  · intro hknown ctx e v htokens hv
    rw [evaluate_of_tokens htokens hknown ctx]
    exact ExprTree.value_congr fun n hn => (hv n hn).holdsName_eq
  · intro ctx n hn
    exact ⟨ev.holdsName ctx n, denotes_holdsName hn, fun b hb => hb.holdsName_eq.symm⟩

end Dunning.Evaluator
