import Dunning.Action.Query

/-!
# Rows that are added can be found

A query has one parameter, and it is the parameter that came with the query's first row:
`QueryTables.withRow` files later rows under the value they come with, whatever parameter they name.
The answer to a query depends on its parameter (`parameter?`) and on the row under each value
(`row?`), so both are followed through any number of additions. A text is trimmed before it is
looked up, while a row stays under its value as given.
-/

namespace Dunning.QueryTables

/-- The parameter of `t` whose value selects a row of `query`. -/
def parameter? (t : QueryTables) (query : String) : Option String :=
  (Fields.get? t.queries query).map (·.key)

/-- The row that `query` has in `t` under a value of its parameter. -/
def row? (t : QueryTables) (query value : String) : Option (Fields Json) :=
  (Fields.get? t.queries query).bind fun table => Fields.get? table.rows value

/-- A row together with the place where it is to be found. -/
structure Addition where
  query : String
  key : String
  value : String
  row : Fields Json

/-- Adds one row, by `QueryTables.withRow`. -/
def add (t : QueryTables) (a : Addition) : QueryTables :=
  t.withRow a.query a.key a.value a.row

/-- Adds rows one after another. -/
def addAll (t : QueryTables) (additions : List Addition) : QueryTables :=
  additions.foldl add t

/-- The parameter of `query` after some additions: the one it had before in `t`, or else the `key`
that came with its first row. -/
def searchedBy? (t : QueryTables) (additions : List Addition) (query : String) : Option String :=
  (t.parameter? query).or ((additions.find? (·.query = query)).map (·.key))

variable {t u : QueryTables} {a : Addition} {additions : List Addition}

/-! ## What an answer depends on -/

theorem query_of_unknown {query : String} (h : t.parameter? query = none)
    (params : Fields Json) :
    t.query query params = .error (.failed s!"Unknown query: {query}") := by
  have htable : Fields.get? t.queries query = none := Option.map_eq_none_iff.1 h
  rw [QueryTables.query, htable]

theorem query_of_parameter {query key : String} (h : t.parameter? query = some key)
    (params : Fields Json) :
    t.query query params = .ok ((lookupKey? (Fields.get? params key)).bind (t.row? query)) := by
  obtain ⟨table, htable, rfl⟩ := Option.map_eq_some_iff.1 h
  have hrow : t.row? query = Fields.get? table.rows := by
    funext value
    rw [row?, htable, Option.bind_some]
  rw [QueryTables.query, htable, hrow]

/-- Two backends answer `query` alike when it has the same parameter and the same rows in both. -/
theorem query_congr {query : String} (hparameter : t.parameter? query = u.parameter? query)
    (hrow : ∀ value, t.row? query value = u.row? query value) (params : Fields Json) :
    t.query query params = u.query query params := by
  cases hkey : t.parameter? query with
  | none => rw [query_of_unknown hkey, query_of_unknown (hparameter.symm.trans hkey)]
  | some key =>
    rw [query_of_parameter hkey, query_of_parameter (hparameter.symm.trans hkey), funext hrow]

/-! ## One addition -/

theorem get?_queries_add_of_ne {query : String} (h : query ≠ a.query) :
    Fields.get? (t.add a).queries query = Fields.get? t.queries query :=
  Fields.get?_insert_of_ne _ _ h

theorem parameter?_add_self :
    (t.add a).parameter? a.query = some ((t.parameter? a.query).getD a.key) := by
  rw [parameter?, parameter?, add, withRow, Fields.get?_insert_self]
  cases Fields.get? t.queries a.query <;> rfl

theorem parameter?_add_of_ne {query : String} (h : query ≠ a.query) :
    (t.add a).parameter? query = t.parameter? query := by
  rw [parameter?, parameter?, get?_queries_add_of_ne h]

theorem row?_add_self : (t.add a).row? a.query a.value = some a.row := by
  rw [row?, add, withRow, Fields.get?_insert_self]
  exact Fields.get?_insert_self _ a.value a.row

theorem row?_add_of_ne {query value : String} (h : ¬ (query = a.query ∧ value = a.value)) :
    (t.add a).row? query value = t.row? query value := by
  by_cases hquery : query = a.query
  · subst hquery
    have hvalue : value ≠ a.value := fun hvalue => h ⟨rfl, hvalue⟩
    rw [row?, row?, add, withRow, Fields.get?_insert_self, Option.bind_some,
      Fields.get?_insert_of_ne _ _ hvalue]
    cases Fields.get? t.queries a.query <;> rfl
  · rw [row?, row?, get?_queries_add_of_ne hquery]

/-! ## Any number of additions -/

theorem addAll_append (t : QueryTables) (additions later : List Addition) :
    t.addAll (additions ++ later) = (t.addAll additions).addAll later :=
  List.foldl_append

/-- The parameter of a query never changes once it is known: it is `searchedBy?`. -/
theorem parameter?_addAll (t : QueryTables) (additions : List Addition) (query : String) :
    (t.addAll additions).parameter? query = t.searchedBy? additions query := by
  induction additions generalizing t with
  | nil => exact (Option.or_none).symm
  | cons a additions ih =>
    show ((t.add a).addAll additions).parameter? query = _
    rw [ih (t.add a), searchedBy?, searchedBy?, List.find?_cons]
    by_cases hquery : a.query = query
    · subst hquery
      rw [parameter?_add_self]
      cases t.parameter? a.query <;> simp
    · rw [parameter?_add_of_ne (Ne.symm hquery)]
      simp [hquery]

/-- A row stays where it is until an addition for the same `query` and `value` takes its place. -/
theorem row?_addAll_of_not_replaced {query value : String}
    (h : ∀ b ∈ additions, ¬ (query = b.query ∧ value = b.value)) :
    (t.addAll additions).row? query value = t.row? query value := by
  induction additions generalizing t with
  | nil => rfl
  | cons b additions ih =>
    obtain ⟨hb, hrest⟩ := List.forall_mem_cons.1 h
    show ((t.add b).addAll additions).row? query value = _
    rw [ih hrest, row?_add_of_ne hb]

/-- A row `a` that was added is found, by the parameter of its query, until another row takes its
place; and adding it changes the answers of no other query. -/
theorem finds_added (t : QueryTables) (earlier later : List Addition) (a : Addition)
    (hkept : ∀ b ∈ later, ¬ (a.query = b.query ∧ a.value = b.value)) :
    (∀ (params : Fields Json) (text : String),
      Fields.get? params ((t.searchedBy? earlier a.query).getD a.key) = some (.str text) →
      Text.trim text = a.value →
      (t.addAll (earlier ++ a :: later)).query a.query params = .ok (some a.row)) ∧
    ∀ (other : String) (params : Fields Json), other ≠ a.query →
      (t.addAll (earlier ++ [a])).query other params = (t.addAll earlier).query other params := by
  have hadded : ∀ later,
      t.addAll (earlier ++ a :: later) = ((t.addAll earlier).add a).addAll later :=
    fun later => addAll_append t earlier (a :: later)
  constructor
  · intro params text hparams htext
    have hparameter : (t.addAll (earlier ++ a :: later)).parameter? a.query
        = some ((t.searchedBy? earlier a.query).getD a.key) := by
      rw [hadded, parameter?_addAll, searchedBy?, parameter?_add_self, parameter?_addAll,
        Option.some_or]
    have hrow : (t.addAll (earlier ++ a :: later)).row? a.query a.value = some a.row := by
      rw [hadded, row?_addAll_of_not_replaced hkept, row?_add_self]
    rw [query_of_parameter hparameter, hparams, lookupKey?, htext, Option.bind_some, hrow]
  · intro other params hother
    have hone : t.addAll (earlier ++ [a]) = (t.addAll earlier).add a := hadded []
    rw [hone]
    apply query_congr
    · exact parameter?_add_of_ne hother
    · intro value
      exact row?_add_of_ne fun hplace => hother hplace.1

/-- A row that came with `telefono`, in a query that is asked by `documento`, is found by
`documento`, whatever was added after it. -/
theorem finds_added_under_first_parameter :
    let first : Addition := ⟨"clientes", "documento", "1", []⟩
    let added : Addition := ⟨"clientes", "telefono", "2", [("nombre", .str "Luis")]⟩
    let later : List Addition := [⟨"clientes", "telefono", "3", []⟩, ⟨"pagos", "telefono", "2", []⟩]
    let params := [("documento", Json.str " 2 "), ("telefono", Json.str "1")]
    (∀ b ∈ later, ¬ (added.query = b.query ∧ added.value = b.value)) ∧
    ((⟨[]⟩ : QueryTables).addAll ([first] ++ added :: later)).query "clientes" params
      = .ok (some [("nombre", .str "Luis")]) := by
  intro first added later params
  have hkept : ∀ b ∈ later, ¬ (added.query = b.query ∧ added.value = b.value) := by decide
  refine ⟨hkept, ?_⟩
  exact (finds_added ⟨[]⟩ [first] later added hkept).1 params " 2 " rfl (by decide)

/-- A row cannot be found by the parameter that it came with if its query had another one before. -/
theorem not_found_by_later_parameter :
    Fields.get? [("telefono", Json.str "2")] "telefono" = some (.str "2") ∧
    (((⟨[]⟩ : QueryTables).withRow "clientes" "documento" "1" []).withRow
      "clientes" "telefono" "2" [("nombre", .str "Luis")]).query
        "clientes" [("telefono", .str "2")] = .ok none :=
  ⟨rfl, rfl⟩

end Dunning.QueryTables
