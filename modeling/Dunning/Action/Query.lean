import Dunning.Action.Reply
import Dunning.Json.Record

/-!
# Running a query

A query is a name with parameters from the context. The row it finds is merged into the context,
after a flag that says whether there was one; a column of the flag's name wins over the flag. The
tables below answer queries from memory, each by the value of a single parameter.
-/

namespace Dunning

/-- Answers queries: a row, no row, or an error. -/
abbrev QueryBackend := String → Fields Json → Except ActionError (Option (Fields Json))

namespace Action

/-- The field that takes the flag, unless the payload names another by `found_key`. -/
def foundKey : String := "cliente_encontrado"

/-- The parameters that `payload` names, with their values in `ctx`. -/
def queryParams (payload : Json) (ctx : Context) : Fields Json :=
  let names := (((payload.member? "params").bind Json.asArray?).getD []).filterMap Json.asString?
  Fields.ofList (names.map fun name => (name, (ctx.get? name).getD .null))

/-- The changes that the outcome `row` of a query asks for, with the flag under `key`. -/
def queryDelta (key : String) (row : Option (Fields Json)) : Fields Json :=
  Fields.merge [(key, .bool row.isSome)] (row.getD [])

/-- Runs the query that `payload` describes, on the backend if there is one. -/
def runQuery (backend : Option QueryBackend) (payload : Json) (ctx : Context) :
    Except ActionError (Fields Json) := do
  match backend with
  | none => throw (.unavailable "no query backend configured")
  | some query =>
    match textMember? payload "query" with
    | none => throw (.invalidPayload ActionKind.runQuery.name "query is required")
    | some name =>
      let row ← query name (queryParams payload ctx)
      return queryDelta ((textMember? payload "found_key").getD foundKey) row

end Action

/-- The rows that a query can give, by the value of one parameter. -/
structure QueryTable where
  key : String
  rows : Fields (Fields Json) := []

/-- A `QueryTable` by the name of the query. -/
structure QueryTables where
  queries : Fields QueryTable := []

namespace QueryTables

/-- Adds `row` to the table of `query`; a table that is already there keeps its parameter. -/
def withRow (t : QueryTables) (query key value : String) (row : Fields Json) : QueryTables :=
  let table := (Fields.get? t.queries query).getD { key }
  ⟨Fields.insert t.queries query { table with rows := Fields.insert table.rows value row }⟩

/-- The value by which a table is searched: a text without the blanks around it, nothing for null,
and the compact JSON text of anything else. -/
def lookupKey? : Option Json → Option String
  | some (.str s) => some (Text.trim s)
  | some .null => none
  | none => none
  | some value => some value.compact

/-- Answers a query from the tables `t`. -/
def query (t : QueryTables) : QueryBackend := fun name params =>
  match Fields.get? t.queries name with
  | none => .error (.failed s!"Unknown query: {name}")
  | some table =>
    .ok ((lookupKey? (Fields.get? params table.key)).bind (Fields.get? table.rows))

section
open RecordValue

variable {ν : Type} {m : Type → Type} [Monad m] [MonadExceptOf Unit m] [RecordValue ν m]

/-- Reads a table. -/
def readTable? (value : ν) : m QueryTable := do
  match ← fields? ["key", "rows"] value with
  | [key, rows] =>
    return {
      key := ← required asText? key
      rows := ← defaulted [] (asFieldsOf? (asFieldsOf? asJson?)) rows }
  | _ => throw ()

/-- Reads tables. -/
def read? (value : ν) : m QueryTables := do
  match ← fields? ["queries"] value with
  | [queries] => return { queries := ← defaulted [] (asFieldsOf? readTable?) queries }
  | _ => throw ()

end

end QueryTables

end Dunning
