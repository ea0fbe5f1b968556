import Dunning.Proofs.Action.Footprint

/-!
# What an answered query tells

The changes of a query are a flag and the columns of a row. In `queryDelta` the row is written over
the flag, so the flag says whether there was a row unless the row has a column of the flag's name.
That column then stands in the flag's place, and says the same only if it happens to be `true`
(`Relays.flag_iff`).
-/

namespace Dunning.Action

/-- The name of the field that takes the flag of a query: `found_key` of the payload, or `foundKey`.
-/
def flagKey (payload : Json) : String :=
  (textMember? payload "found_key").getD foundKey

/-- The column `name` of the row that a query was answered with, if there is a row; of several
values for a name the last one counts. -/
def column? (row : Option (Fields Json)) (name : String) : Option Json :=
  row.bind fun r => Fields.get? (Fields.ofList r) name

/-- What `changes` tell of the row from which they come, with a flag under `key`. -/
structure Relays (key : String) (row : Option (Fields Json)) (changes : Fields Json) : Prop where
  /-- The flag says whether there was a row, exactly if no column says otherwise in its place. -/
  flag_iff : Fields.get? changes key = some (.bool row.isSome) ↔
    ∀ value, column? row key = some value → value = .bool true
  /-- A column with the name `key` takes the flag's place. -/
  overwritten : ∀ value, column? row key = some value → Fields.get? changes key = some value
  /-- All fields but `key` are the row's columns. -/
  columns : ∀ name, name ≠ key → Fields.get? changes name = column? row name
  /-- Without a row there is the flag and nothing else. -/
  bare : row = none → changes = [(key, .bool false)]

section
variable {key name : String} {row : Option (Fields Json)}

theorem column?_eq_reverse (row : Option (Fields Json)) (name : String) :
    column? row name = Fields.get? (row.getD []).reverse name := by
  cases row with
  | none => rfl
  | some r =>
    show Fields.get? (Fields.merge [] r) name = _
    rw [Fields.get?_merge, Fields.get?_nil, Option.or_none]
    rfl

theorem get?_queryDelta_self_iff :
    Fields.get? (queryDelta key row) key = some (.bool row.isSome) ↔
      ∀ value, column? row key = some value → value = .bool true := by
  rw [get?_queryDelta, ← column?_eq_reverse, if_pos rfl]
  cases row with
  | none =>
    -- no row has no columns
    have hcolumn : column? none key = none := rfl
    simp [hcolumn]
  | some r =>
    cases hcolumn : column? (some r) key with
    | none => simp
    | some value => simp

theorem relays_queryDelta (key : String) (row : Option (Fields Json)) :
    Relays key row (queryDelta key row) := by
  constructor
  case flag_iff => exact get?_queryDelta_self_iff
  case overwritten =>
    intro value hvalue
    rw [get?_queryDelta, ← column?_eq_reverse, hvalue, Option.some_or]
  case columns =>
    intro name hname
    rw [get?_queryDelta, ← column?_eq_reverse, if_neg hname.symm, Option.or_none]
  case bare =>
    rintro rfl
    rfl

end

/-- What `runQuery` changes relays the answer that its backend gave to the query `name` and the
parameters of the payload. -/
theorem relays_runQuery {query : QueryBackend} {payload : Json} {ctx : Context}
    {changes : Fields Json} (h : runQuery (some query) payload ctx = .ok changes) :
    ∃ name row, textMember? payload "query" = some name ∧
      query name (queryParams payload ctx) = .ok row ∧
      Relays (flagKey payload) row changes := by
  obtain ⟨asked, hasked, name, row, hname, hrow, rfl⟩ := runQuery_eq_ok h
  obtain rfl := Option.some.inj hasked
  exact ⟨name, row, hname, hrow, relays_queryDelta (flagKey payload) row⟩

/-- The row of a document, found under the `documento` of the context and flagged as the payload
asks. -/
theorem relays_runQuery_of_document :
    let t : QueryTables := (⟨[]⟩ : QueryTables).withRow "clientes" "documento" "93388915"
      [("nombre", .str "Ana"), ("saldo", .num (.whole 850))]
    let payload := Json.obj [("found_key", .str "hallado"), ("params", .arr [.str "documento"]),
      ("query", .str "clientes")]
    let ctx := (∅ : Context).insert "documento" (.str "93388915")
    let changes := [("hallado", .bool true), ("nombre", .str "Ana"), ("saldo", .num (.whole 850))]
    runQuery (some t.query) payload ctx = .ok changes ∧
    ∃ name row, textMember? payload "query" = some name ∧
      t.query name (queryParams payload ctx) = .ok row ∧
      Relays (flagKey payload) row changes := by
  intro t payload ctx changes
  have h : runQuery (some t.query) payload ctx = .ok changes := by cbv
  exact ⟨h, relays_runQuery h⟩

/-- A row with a column `foundKey` is found and yet flagged as not found. -/
theorem flagged_absent_though_found :
    runQuery (some fun _ _ => .ok (some [(foundKey, .bool false), ("nombre", .str "Ana")]))
      (.obj [("query", .str "clientes")]) ∅
      = .ok [(foundKey, .bool false), ("nombre", .str "Ana")] := rfl

end Dunning.Action
