import Dunning.Proofs.Action.Standard
import Dunning.Proofs.Fields

/-!
# Which fields an action can change

The fields that an action changes can be read off its payload, whatever the context holds
(`footprint`, `mem_footprint`). A query also changes the fields of the row that it finds, and these
are the backend's to choose.
-/

namespace Dunning.Action

/-- The names of the fields that an action of a kind can change for `payload`, those of a query's
row aside. -/
def footprint (payload : Json) : ActionKind → List String
  | .runQuery => [(textMember? payload "found_key").getD foundKey]
  | .sendTemplate => [(textMember? payload "output_key").getD replyKey]
  | .createPaymentPlans => ["planes_creados", "saldo_original"]
  | .generateProposal => ["propuesta", "saldo_original"]
  | .verifyContact => ["telefono_valido", "email_valido", "requiere_actualizacion"]
  | .scheduleReminder => ["recordatorio_programado", "canal", "recordatorio_en"]
  | .escalateSupervisor => ["escalado", "supervisor_asignado", "escalamiento_id"]
  | .custom _ => []

variable {backend : Option QueryBackend} {around : Circumstances} {payload : Json} {ctx : Context}
  {changes : Fields Json} {name : String}

/-- A `runQuery` that is answered changes the flag and the fields of the row, if there is one
(`queryDelta`). -/
theorem runQuery_eq_ok (h : runQuery backend payload ctx = .ok changes) :
    ∃ query ∈ backend, ∃ q row, textMember? payload "query" = some q ∧
      query q (queryParams payload ctx) = .ok row ∧
      changes = queryDelta ((textMember? payload "found_key").getD foundKey) row := by
  unfold runQuery at h
  split at h
  · cases h
  · rename_i query
    split at h
    · cases h
    · rename_i q hq
      simp only [bind_eq_ok_iff, pure_eq_ok, Except.ok.injEq] at h
      obtain ⟨row, hrow, rfl⟩ := h
      exact ⟨query, rfl, q, row, hq, hrow, rfl⟩

theorem mem_names_queryDelta {key : String} {row : Option (Fields Json)} :
    name ∈ (queryDelta key row).names ↔ name = key ∨ ∃ r ∈ row, name ∈ Fields.names r := by
  rw [queryDelta, Fields.mem_names_merge]
  cases row with
  | none => simp [Fields.names]
  | some r => simp [Fields.names, or_comm]

theorem ascending_queryDelta (key : String) (row : Option (Fields Json)) :
    (queryDelta key row).Ascending :=
  Fields.ascending_merge (Fields.ascending_singleton key _) _

/-- The changes of `queryDelta` have the row's fields, and the flag where the row has none. -/
theorem get?_queryDelta (key name : String) (row : Option (Fields Json)) :
    Fields.get? (queryDelta key row) name = (Fields.get? (row.getD []).reverse name).or
      (if key = name then some (.bool row.isSome) else none) :=
  Fields.get?_merge _ _ name

/-- A row that lacks the name `key` leaves the flag as it is. -/
theorem get?_reverse_queryDelta {key : String} {row : Option (Fields Json)}
    (h : ∀ r ∈ row, key ∉ Fields.names r) :
    Fields.get? (queryDelta key row).reverse key = some (.bool row.isSome) := by
  have hlacks : key ∉ Fields.names (row.getD []).reverse := by
    rw [Fields.mem_names_reverse]
    cases row with
    | none => simp [Fields.names]
    | some r => exact h r rfl
  rw [(ascending_queryDelta key row).get?_reverse, get?_queryDelta,
    Fields.get?_eq_none_iff.2 hlacks, Option.none_or, if_pos rfl]

/-- All fields but `key` are as the row has them. -/
theorem get?_reverse_queryDelta_of_ne {key : String} (row : Option (Fields Json)) (h : key ≠ name) :
    Fields.get? (queryDelta key row).reverse name = Fields.get? (row.getD []).reverse name := by
  rw [(ascending_queryDelta key row).get?_reverse, get?_queryDelta, if_neg h, Option.or_none]

/-- An action changes nothing outside its `footprint`, but for a query that finds a row. -/
theorem mem_footprint {kind : ActionKind}
    (h : Registry.standardAnswer backend around payload ctx kind = .ok changes)
    (hname : name ∈ changes.names) :
    name ∈ footprint payload kind ∨
      kind = .runQuery ∧ ∃ query ∈ backend, ∃ q params row, query q params = .ok (some row) ∧
        name ∈ Fields.names row := by
  cases kind with
  | runQuery =>
    -- the flag comes from the payload, the rest from the row
    obtain ⟨query, hquery, q, row, -, hrow, rfl⟩ := runQuery_eq_ok h
    rcases mem_names_queryDelta.1 hname with rfl | ⟨r, hr, hmem⟩
    · exact .inl (by simp [footprint])
    · obtain rfl := Option.mem_def.1 hr
      exact .inr ⟨rfl, query, hquery, q, _, r, hrow, hmem⟩
  | sendTemplate =>
    simp only [Registry.standardAnswer, sendTemplate] at h
    split at h
    · cases h
    · obtain rfl := Except.ok.inj h
      exact .inl (by simpa [Fields.names, footprint] using hname)
  | createPaymentPlans =>
    simp only [Registry.standardAnswer, createPaymentPlans] at h
    split at h
    · cases h
    · obtain rfl := Except.ok.inj h
      exact .inl (Fields.mem_names_ofList.1 hname)
  | generateProposal =>
    simp only [Registry.standardAnswer, generateProposal] at h
    split at h
    · cases h
    · obtain rfl := Except.ok.inj h
      exact .inl (Fields.mem_names_ofList.1 hname)
  | verifyContact =>
    obtain rfl := Except.ok.inj h
    exact .inl (Fields.mem_names_ofList.1 hname)
  | scheduleReminder =>
    simp only [Registry.standardAnswer, scheduleReminder] at h
    split at h
    · cases h
    · split at h
      · cases h
      · obtain rfl := Except.ok.inj h
        exact .inl (Fields.mem_names_ofList.1 hname)
  | escalateSupervisor =>
    obtain rfl := Except.ok.inj h
    exact .inl (Fields.mem_names_ofList.1 hname)
  | custom _ => cases h

end Dunning.Action

namespace Dunning.QueryTables

/-- A row that `QueryTables.query` finds is a row of some table. -/
theorem exists_mem_of_query {t : QueryTables} {name : String} {params row : Fields Json}
    (h : t.query name params = .ok (some row)) :
    ∃ table ∈ t.queries, ∃ entry ∈ table.2.rows, entry.2 = row := by
  unfold query at h
  split at h
  · cases h
  · rename_i table htable
    obtain ⟨key, _, hkey⟩ := Option.bind_eq_some_iff.1 (Except.ok.inj h)
    exact ⟨_, Fields.mem_of_get? htable, _, Fields.mem_of_get? hkey, rfl⟩

/-- No row of any table in `t` has a field of that name. -/
def Lacks (t : QueryTables) (name : String) : Prop :=
  ∀ table ∈ t.queries, ∀ row ∈ table.2.rows, name ∉ Fields.names row.2

theorem Lacks.not_mem_names {t : QueryTables} {name q : String} {params row : Fields Json}
    (h : t.Lacks name) (hrow : t.query q params = .ok (some row)) : name ∉ Fields.names row := by
  obtain ⟨table, htable, entry, hentry, rfl⟩ := exists_mem_of_query hrow
  exact h table htable entry hentry

end Dunning.QueryTables
