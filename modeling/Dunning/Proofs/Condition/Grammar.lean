import Dunning.Condition.Expr

/-!
# The grammar of condition expressions

    expr := conj ("or" conj)*
    conj := term ("and" term)*
    term := "not" term | NAME

A `NAME` is any token but `or`, `and` and `not`. The trees below are the derivations of this
grammar: a tree stands for the tokens that it derives and, once its names have values, for a value.

`Expr.ofTokens?` never builds such a tree, it cuts the tokens at the connectives. The main statement
(`ofTokens?_eq_some_iff`) is that it reads exactly the derivable token lists, each as what its
derivation says.
-/

namespace Dunning.Condition

/-- The tokens that are no names. -/
def reserved : List String := ["or", "and", "not"]

/-! ## Derivations -/

/-- One part, or several parts `α` joined by a connective. -/
inductive Joined (α : Type) where
  | last (part : α)
  | more (part : α) (rest : Joined α)

namespace Joined

variable {α β : Type}

/-- The parts in order. -/
def parts : Joined α → List α
  | last part => [part]
  | more part rest => part :: rest.parts

/-- The same joints with other parts. -/
def map (f : α → β) : Joined α → Joined β
  | last part => last (f part)
  | more part rest => more (f part) (rest.map f)

/-- The tokens of parts that are given by their tokens, with `connective` at the joints. -/
def join (connective : String) : Joined (List String) → List String
  | last tokens => tokens
  | more tokens rest => tokens ++ connective :: rest.join connective

@[simp] theorem parts_map (f : α → β) (j : Joined α) : (j.map f).parts = j.parts.map f := by
  induction j with
  | last part => rfl
  | more part rest ih => simp [map, parts, ih]

end Joined

/-- A derivation of a `term`. -/
inductive TermTree where
  | name (token : String) (free : token ∉ reserved)
  | not (inner : TermTree)

/-- A derivation of a conjunction, by the `TermTree` of each of its terms. -/
structure ConjTree where
  terms : Joined TermTree

/-- A derivation of an expression, by the `ConjTree` of each of its conjunctions. -/
structure ExprTree where
  alternatives : Joined ConjTree

namespace TermTree

/-- The tokens that are derived. -/
def tokens : TermTree → List String
  | name token _ => [token]
  | not inner => "not" :: inner.tokens

/-- The `NAME` at the end. -/
def leaf : TermTree → String
  | name token _ => token
  | not inner => inner.leaf

/-- The value when names have the values that `v` gives. -/
def value (v : String → Bool) : TermTree → Bool
  | name token _ => v token
  | not inner => !inner.value v

/-- The `Term` that the tokens are read as. -/
def term : TermTree → Term
  | name token _ => ⟨0, token⟩
  | not inner => { inner.term with negations := inner.term.negations + 1 }

end TermTree

namespace ConjTree

/-- The tokens that are derived. -/
def tokens (c : ConjTree) : List String :=
  (c.terms.map TermTree.tokens).join "and"

/-- The names, in order. -/
def names (c : ConjTree) : List String :=
  c.terms.parts.map TermTree.leaf

/-- The value when names have the values that `v` gives: all terms hold. -/
def value (v : String → Bool) (c : ConjTree) : Bool :=
  c.terms.parts.all (TermTree.value v)

/-- The list of `Term` that the tokens are read as. -/
def conjuncts (c : ConjTree) : List Term :=
  c.terms.parts.map TermTree.term

end ConjTree

namespace ExprTree

/-- The tokens that are derived. -/
def tokens (e : ExprTree) : List String :=
  (e.alternatives.map ConjTree.tokens).join "or"

/-- The names, in order. -/
def names (e : ExprTree) : List String :=
  e.alternatives.parts.flatMap ConjTree.names

/-- The value when names have the values that `v` gives: some conjunction holds. -/
def value (v : String → Bool) (e : ExprTree) : Bool :=
  e.alternatives.parts.any (ConjTree.value v)

/-- The `Expr` that the tokens are read as. -/
def expr (e : ExprTree) : Expr :=
  ⟨e.alternatives.parts.map ConjTree.conjuncts⟩

end ExprTree

/-! ## Cutting at a connective -/

theorem splitAt_of_not_mem {connective : String} {tokens : List String}
    (h : connective ∉ tokens) : splitAt connective tokens = [tokens] := by
  induction tokens with
  | nil => rfl
  | cons token rest ih =>
    have hne : token ≠ connective := fun e => h (e ▸ List.mem_cons_self)
    have hrest : connective ∉ rest := fun hm => h (List.mem_cons_of_mem _ hm)
    simp [splitAt, hne, ih hrest]

theorem splitAt_append {connective : String} {group : List String} (h : connective ∉ group)
    (rest : List String) :
    splitAt connective (group ++ connective :: rest) = group :: splitAt connective rest := by
  induction group with
  | nil => simp [splitAt]
  | cons token group ih =>
    have hne : token ≠ connective := fun e => h (e ▸ List.mem_cons_self)
    have hgroup : connective ∉ group := fun hm => h (List.mem_cons_of_mem _ hm)
    simp [splitAt, hne, ih hgroup]

/-- Cutting by `splitAt` undoes `join`. -/
theorem splitAt_join {connective : String} {j : Joined (List String)}
    (h : ∀ group ∈ j.parts, connective ∉ group) :
    splitAt connective (j.join connective) = j.parts := by
  induction j with
  | last group => exact splitAt_of_not_mem (h group List.mem_cons_self)
  | more group rest ih =>
    rw [Joined.join, splitAt_append (h group List.mem_cons_self), Joined.parts]
    rw [ih fun g hg => h g (List.mem_cons_of_mem _ hg)]

/-- Any tokens are joined from groups without `connective`, and the groups hold no new token. -/
theorem exists_join (connective : String) (tokens : List String) :
    ∃ j : Joined (List String), j.join connective = tokens ∧
      ∀ group ∈ j.parts, connective ∉ group ∧ group ⊆ tokens := by
  induction tokens with
  | nil => exact ⟨.last [], rfl, by simp [Joined.parts]⟩
  | cons token rest ih =>
    obtain ⟨j, hjoin, hparts⟩ := ih
    have hsub : ∀ group ∈ j.parts, connective ∉ group ∧ group ⊆ token :: rest := fun g hg =>
      ⟨(hparts g hg).1, List.subset_cons_of_subset _ (hparts g hg).2⟩
    by_cases hc : token = connective
    · refine ⟨.more [] j, by simp [Joined.join, hjoin, hc], ?_⟩
      intro group hg
      rcases List.mem_cons.1 hg with rfl | hg
      · simp
      · exact hsub group hg
    · -- the token belongs to the first of the groups that follow
      have hne : connective ≠ token := fun e => hc e.symm
      have hhead : ∀ group ∈ j.parts, connective ∉ token :: group ∧
          token :: group ⊆ token :: rest := fun g hg =>
        ⟨by simpa [hne] using (hparts g hg).1, List.cons_subset_cons _ (hparts g hg).2⟩
      cases j with
      | last group =>
        refine ⟨.last (token :: group), by simpa [Joined.join] using hjoin, ?_⟩
        simpa [Joined.parts] using hhead group List.mem_cons_self
      | more group j =>
        refine ⟨.more (token :: group) j, by simpa [Joined.join] using hjoin, ?_⟩
        intro g hg
        rcases List.mem_cons.1 hg with rfl | hg
        · exact hhead group List.mem_cons_self
        · exact hsub g (List.mem_cons_of_mem _ hg)

/-! ## Reading joined parts

Both levels of the grammar are read in the same way: the tokens are cut, and every group is read by
itself. `tokens` and `result` say of a derived part what it derives and what it is read as. -/

section

variable {α β : Type} {read : List String → Option β} {tokens : α → List String} {result : α → β}
  {connective : String}

theorem mapM_splitAt_join (complete : ∀ a, read (tokens a) = some (result a))
    (free : ∀ a, connective ∉ tokens a) (j : Joined α) :
    (splitAt connective ((j.map tokens).join connective)).mapM read
      = some (j.parts.map result) := by
  have hfree : ∀ group ∈ (j.map tokens).parts, connective ∉ group := by
    simpa using fun a _ => free a
  rw [splitAt_join hfree, Joined.parts_map]
  induction j.parts with
  | nil => rfl
  | cons a as ih => simp [complete, ih]

/-- When every group that `read` accepts is derived by some part, so are the joined groups. -/
theorem exists_map_of_mapM {j : Joined (List String)} {bs : List β}
    (sound : ∀ group ∈ j.parts, ∀ b, read group = some b → ∃ a, tokens a = group ∧ result a = b)
    (h : j.parts.mapM read = some bs) :
    ∃ k : Joined α, k.map tokens = j ∧ k.parts.map result = bs := by
  induction j generalizing bs with
  | last group =>
    simp only [Joined.parts, List.mapM_cons, List.mapM_nil] at h
    obtain ⟨b, hb, h⟩ := Option.bind_eq_some_iff.1 h
    obtain ⟨a, rfl, rfl⟩ := sound group List.mem_cons_self b hb
    obtain rfl : [result a] = bs := by simpa using h
    exact ⟨.last a, rfl, rfl⟩
  | more group rest ih =>
    simp only [Joined.parts, List.mapM_cons] at h
    obtain ⟨b, hb, h⟩ := Option.bind_eq_some_iff.1 h
    obtain ⟨bs', hbs, h⟩ := Option.bind_eq_some_iff.1 h
    obtain ⟨a, rfl, rfl⟩ := sound group List.mem_cons_self b hb
    obtain ⟨k, rfl, rfl⟩ := ih (fun g hg => sound g (List.mem_cons_of_mem _ hg)) hbs
    obtain rfl : result a :: k.parts.map result = bs := by simpa using h
    exact ⟨.more a k, rfl, rfl⟩

theorem exists_join_of_mapM (tokens : α → List String) (result : α → β) {ts : List String}
    {bs : List β}
    (sound : ∀ group ⊆ ts, connective ∉ group → ∀ b, read group = some b →
      ∃ a, tokens a = group ∧ result a = b)
    (h : (splitAt connective ts).mapM read = some bs) :
    ∃ k : Joined α, (k.map tokens).join connective = ts ∧ k.parts.map result = bs := by
  obtain ⟨j, rfl, hparts⟩ := exists_join connective ts
  rw [splitAt_join fun group hg => (hparts group hg).1] at h
  obtain ⟨k, rfl, hk⟩ := exists_map_of_mapM
    (fun group hg => sound group (hparts group hg).2 (hparts group hg).1) h
  exact ⟨k, rfl, hk⟩

end

/-! ## Terms -/

theorem Term.eval_negated (v : String → Bool) (t : Term) :
    Term.eval v { t with negations := t.negations + 1 } = !t.eval v := by
  rcases Nat.mod_two_eq_zero_or_one t.negations with hm | hm
  · have hodd : (t.negations + 1) % 2 ≠ 0 := by omega
    simp [Term.eval, hm, hodd]
  · have heven : (t.negations + 1) % 2 = 0 := by omega
    simp [Term.eval, hm, heven]

namespace TermTree

theorem tokens_free {token : String} (h : token = "or" ∨ token = "and") (t : TermTree) :
    token ∉ t.tokens := by
  induction t with
  | name n free =>
    intro hm
    obtain rfl : token = n := by simpa [tokens] using hm
    rcases h with rfl | rfl <;> exact free (by decide)
  | not inner ih =>
    have hne : token ≠ "not" := by rcases h with rfl | rfl <;> decide
    simpa [tokens, hne] using ih

theorem ofTokens?_tokens (t : TermTree) : Term.ofTokens? t.tokens = some t.term := by
  induction t with
  | name n free =>
    have hne : n ≠ "not" := fun e => free (by simp [reserved, e])
    simp [tokens, term, Term.ofTokens?, hne]
  | not inner ih => simp [tokens, term, Term.ofTokens?, ih]

theorem exists_of_ofTokens? {ts : List String} {x : Term} (hor : "or" ∉ ts) (hand : "and" ∉ ts)
    (h : Term.ofTokens? ts = some x) : ∃ t : TermTree, t.tokens = ts ∧ t.term = x := by
  induction ts generalizing x with
  | nil => simp [Term.ofTokens?] at h
  | cons token rest ih =>
    by_cases hnot : token = "not"
    · subst hnot
      simp only [Term.ofTokens?, if_true] at h
      obtain ⟨y, hy, rfl⟩ := Option.map_eq_some_iff.1 h
      obtain ⟨t, rfl, rfl⟩ := ih (fun hm => hor (List.mem_cons_of_mem _ hm))
        (fun hm => hand (List.mem_cons_of_mem _ hm)) hy
      exact ⟨.not t, rfl, rfl⟩
    · simp only [Term.ofTokens?, if_neg hnot, List.isEmpty_iff] at h
      obtain ⟨rfl, hx⟩ := Option.ite_none_right_eq_some.1 h
      obtain rfl : ⟨0, token⟩ = x := Option.some.inj hx
      -- a name cannot be a connective, the tokens were cut at those before
      have free : token ∉ reserved := by
        intro hm
        simp only [reserved, List.mem_cons, List.not_mem_nil, or_false] at hm
        rcases hm with rfl | rfl | rfl
        · exact hor List.mem_cons_self
        · exact hand List.mem_cons_self
        · exact hnot rfl
      exact ⟨.name token free, rfl, rfl⟩

/-- A `Term` counts its negations, a `TermTree` carries them out one by one. -/
theorem eval_term (v : String → Bool) (t : TermTree) : t.term.eval v = t.value v := by
  induction t with
  | name n free => rfl
  | not inner ih => rw [value, ← ih, term, Term.eval_negated]

theorem name_term (t : TermTree) : t.term.name = t.leaf := by
  induction t with
  | name n free => rfl
  | not inner ih => exact ih

end TermTree

/-! ## Conjunctions and expressions -/

/-- Reads a conjunction from its tokens. -/
def conjunctsOf? (ts : List String) : Option (List Term) :=
  (splitAt "and" ts).mapM Term.ofTokens?

theorem ConjTree.conjunctsOf?_tokens (c : ConjTree) :
    conjunctsOf? c.tokens = some c.conjuncts :=
  mapM_splitAt_join TermTree.ofTokens?_tokens (TermTree.tokens_free (.inr rfl)) c.terms

theorem ConjTree.exists_of_conjunctsOf? {ts : List String} {terms : List Term} (hor : "or" ∉ ts)
    (h : conjunctsOf? ts = some terms) :
    ∃ c : ConjTree, c.tokens = ts ∧ c.conjuncts = terms := by
  obtain ⟨k, hk, hterms⟩ := exists_join_of_mapM TermTree.tokens TermTree.term
    (fun group hsub hand x hx =>
      TermTree.exists_of_ofTokens? (fun hm => hor (hsub hm)) hand hx) h
  exact ⟨⟨k⟩, hk, hterms⟩

theorem Joined.not_mem_join {j : Joined (List String)} {token connective : String}
    (hne : token ≠ connective) (h : ∀ group ∈ j.parts, token ∉ group) :
    token ∉ j.join connective := by
  induction j with
  | last group => exact h group List.mem_cons_self
  | more group rest ih =>
    have hgroup : token ∉ group := h group List.mem_cons_self
    have hrest : token ∉ rest.join connective := ih fun g hg => h g (List.mem_cons_of_mem _ hg)
    simp [join, hgroup, hne, hrest]

theorem ConjTree.or_not_mem_tokens (c : ConjTree) : "or" ∉ c.tokens := by
  refine Joined.not_mem_join (by decide) ?_
  simpa using fun t _ => TermTree.tokens_free (.inl rfl) t

/-- `Expr.ofTokens?` reads exactly the derivable token lists, each as what its derivation says. -/
theorem ofTokens?_eq_some_iff {ts : List String} {x : Expr} :
    Expr.ofTokens? ts = some x ↔ ∃ e : ExprTree, e.tokens = ts ∧ e.expr = x := by
  have hread : Expr.ofTokens? ts = ((splitAt "or" ts).mapM conjunctsOf?).map Expr.mk := rfl
  constructor
  · intro h
    rw [hread] at h
    obtain ⟨alternatives, halt, rfl⟩ := Option.map_eq_some_iff.1 h
    obtain ⟨k, hk, rfl⟩ := exists_join_of_mapM ConjTree.tokens ConjTree.conjuncts
      (fun group _ hor terms hterms => ConjTree.exists_of_conjunctsOf? hor hterms) halt
    exact ⟨⟨k⟩, hk, rfl⟩
  · rintro ⟨e, rfl, rfl⟩
    have halt : (splitAt "or" e.tokens).mapM conjunctsOf?
        = some (e.alternatives.parts.map ConjTree.conjuncts) :=
      mapM_splitAt_join ConjTree.conjunctsOf?_tokens ConjTree.or_not_mem_tokens e.alternatives
    rw [hread, halt]
    rfl

example : Expr.ofTokens? ["a", "or", "not", "not", "b", "and", "c"]
    = some ⟨[[⟨0, "a"⟩], [⟨2, "b"⟩, ⟨0, "c"⟩]]⟩ := by decide

theorem ConjTree.all_conjuncts (v : String → Bool) (c : ConjTree) :
    c.conjuncts.all (Term.eval v) = c.value v := by
  simp only [conjuncts, value, List.all_map, Function.comp_def, TermTree.eval_term]

theorem ConjTree.map_name_conjuncts (c : ConjTree) : c.conjuncts.map Term.name = c.names := by
  simp only [conjuncts, names, List.map_map, Function.comp_def, TermTree.name_term]

theorem ExprTree.eval_expr (v : String → Bool) (e : ExprTree) : e.expr.eval v = e.value v := by
  simp only [Expr.eval, expr, value, List.any_map, Function.comp_def, ConjTree.all_conjuncts]

theorem ExprTree.names_expr (e : ExprTree) : e.expr.names = e.names := by
  simp only [Expr.names, expr, names, List.flatMap_map, ConjTree.map_name_conjuncts]

/-! ## Values depend on the names only -/

theorem TermTree.value_congr {v v' : String → Bool} {t : TermTree} (h : v t.leaf = v' t.leaf) :
    t.value v = t.value v' := by
  induction t with
  | name n free => exact h
  | not inner ih => rw [value, value, ih h]

theorem ConjTree.value_congr {v v' : String → Bool} {c : ConjTree}
    (h : ∀ n ∈ c.names, v n = v' n) : c.value v = c.value v' := by
  rw [value, value, Bool.eq_iff_iff, List.all_eq_true, List.all_eq_true]
  refine forall_congr' fun t => forall_congr' fun ht => ?_
  rw [TermTree.value_congr (h t.leaf (List.mem_map_of_mem ht))]

theorem ExprTree.value_congr {v v' : String → Bool} {e : ExprTree}
    (h : ∀ n ∈ e.names, v n = v' n) : e.value v = e.value v' := by
  rw [value, value, Bool.eq_iff_iff, List.any_eq_true, List.any_eq_true]
  refine exists_congr fun c => and_congr_right fun hc => ?_
  rw [ConjTree.value_congr fun n hn => h n (List.mem_flatMap.2 ⟨c, hc, hn⟩)]

/-! ## Names are tokens -/

theorem TermTree.leaf_mem_tokens (t : TermTree) : t.leaf ∈ t.tokens ∧ t.leaf ∉ reserved := by
  induction t with
  | name n free => exact ⟨List.mem_singleton_self n, free⟩
  | not inner ih => exact ⟨List.mem_cons_of_mem _ ih.1, ih.2⟩

theorem Joined.mem_join {j : Joined (List String)} {group : List String} {token : String}
    (connective : String) (hgroup : group ∈ j.parts) (htoken : token ∈ group) :
    token ∈ j.join connective := by
  induction j with
  | last tokens =>
    obtain rfl := List.mem_singleton.1 hgroup
    exact htoken
  | more tokens rest ih =>
    rcases List.mem_cons.1 hgroup with rfl | hrest
    · exact List.mem_append_left _ htoken
    · exact List.mem_append_right _ (List.mem_cons_of_mem _ (ih hrest))

theorem ConjTree.mem_tokens_of_mem_names {c : ConjTree} {n : String} (h : n ∈ c.names) :
    n ∈ c.tokens ∧ n ∉ reserved := by
  obtain ⟨t, ht, rfl⟩ := List.mem_map.1 h
  have hgroup : t.tokens ∈ (c.terms.map TermTree.tokens).parts := by
    rw [Joined.parts_map]
    exact List.mem_map_of_mem ht
  exact ⟨Joined.mem_join "and" hgroup t.leaf_mem_tokens.1, t.leaf_mem_tokens.2⟩

/-- The names of an expression are among its tokens, and none of them is `reserved`. -/
theorem ExprTree.mem_tokens_of_mem_names {e : ExprTree} {n : String} (h : n ∈ e.names) :
    n ∈ e.tokens ∧ n ∉ reserved := by
  obtain ⟨c, hc, hn⟩ := List.mem_flatMap.1 h
  have hgroup : c.tokens ∈ (e.alternatives.map ConjTree.tokens).parts := by
    rw [Joined.parts_map]
    exact List.mem_map_of_mem hc
  obtain ⟨htokens, hfree⟩ := ConjTree.mem_tokens_of_mem_names hn
  exact ⟨Joined.mem_join "or" hgroup htokens, hfree⟩

end Dunning.Condition
