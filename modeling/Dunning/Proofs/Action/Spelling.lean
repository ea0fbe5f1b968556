import Dunning.Proofs.Action.QueryTables
import Dunning.Proofs.Document.Validity
import Dunning.Proofs.Fields
import Dunning.Proofs.Json.Text

/-!
# A value that stands as its text

A document number may reach a context as a number or as a text. The condition
`Builtin.hasValidDocument` measures both, and the tables are searched by both
(`QueryTables.lookupKey?`), in the same way: a text counts without the blanks around it, and what
remains of the text of a value is the compact text by which the value itself is measured and looked
up.
-/

namespace Dunning

/-- `s` is the compact text of `value`, with any blanks around it. -/
def Json.SpelledBy (value : Json) (s : String) : Prop :=
  ∃ before after, s.toList = before ++ value.compactList ++ after ∧
    (∀ c ∈ before, Text.isBlank c = true) ∧ ∀ c ∈ after, Text.isBlank c = true

variable {value : Json} {s : String}

theorem Json.SpelledBy.trims (h : value.SpelledBy s) :
    Text.Trims s.toList value.compactList :=
  ⟨h, value.trims_compactList.starts, value.trims_compactList.ends⟩

theorem Json.SpelledBy.trim_eq (h : value.SpelledBy s) : Text.trim s = value.compact :=
  congrArg String.ofList h.trims.trimList_eq

/-! ## Queries -/

namespace QueryTables

variable {t : QueryTables}

/-- A text is looked up like the value that it spells (`Json.SpelledBy`). -/
theorem lookupKey?_of_spelledBy (h : value.SpelledBy s) (hnull : value ≠ .null)
    (htext : ∀ s, value ≠ .str s) : lookupKey? (some (.str s)) = lookupKey? (some value) := by
  have hkey : lookupKey? (some value) = some value.compact := by
    cases value with
    | null => exact absurd rfl hnull
    | str s => exact absurd rfl (htext s)
    | _ => rfl
  rw [hkey, lookupKey?, h.trim_eq]

/-- The answer of `QueryTables.query` depends on the parameters only by what is looked up for each.
-/
theorem query_congr_params {params params' : Fields Json}
    (h : ∀ key, lookupKey? (Fields.get? params key) = lookupKey? (Fields.get? params' key))
    (query : String) : t.query query params = t.query query params' := by
  cases hkey : t.parameter? query with
  | none => rw [query_of_unknown hkey, query_of_unknown hkey]
  | some key => rw [query_of_parameter hkey, query_of_parameter hkey, h]

end QueryTables

namespace Action

/-- `queryParams` holds what the context holds under the names in the payload. -/
theorem exists_get?_queryParams (payload : Json) : ∃ names : List String, ∀ ctx name,
    Fields.get? (queryParams payload ctx) name =
      if name ∈ names then some ((ctx.get? name).getD .null) else none :=
  ⟨_, fun _ name => Fields.get?_ofList_map _ _ name⟩

/-- Two contexts that differ in the field `name`, by values that are looked up alike, are asked
about alike by `runQuery`. -/
theorem runQuery_insert_congr {value value' : Json}
    (h : QueryTables.lookupKey? (some value) = QueryTables.lookupKey? (some value'))
    (t : QueryTables) (payload : Json) (ctx : Context) (name : String) :
    runQuery (some t.query) payload (ctx.insert name value) =
      runQuery (some t.query) payload (ctx.insert name value') := by
  obtain ⟨names, hnames⟩ := exists_get?_queryParams payload
  have hparams : ∀ key,
      QueryTables.lookupKey? (Fields.get? (queryParams payload (ctx.insert name value)) key) =
      QueryTables.lookupKey? (Fields.get? (queryParams payload (ctx.insert name value')) key) := by
    intro key
    rw [hnames, hnames, Context.get?_insert, Context.get?_insert]
    by_cases hkey : key = name
    · rw [if_pos hkey, if_pos hkey]
      split
      · exact h
      · rfl
    · rw [if_neg hkey, if_neg hkey]
  cases hquery : textMember? payload "query" with
  | none => simp only [runQuery, hquery]
  | some query => simp only [runQuery, hquery, QueryTables.query_congr_params hparams]

end Action

/-! ## Documents -/

namespace Builtin

/-- A number `n` and the text that spells it have one `documentLength`. -/
theorem documentLength_insert_of_spelledBy {n : Number} (h : (Json.num n).SpelledBy s)
    (ctx : Context) : documentLength (ctx.insert "documento" (.str s)) =
      documentLength (ctx.insert "documento" (.num n)) := by
  rw [documentLength_of_text (ctx.get?_insert_self _ _) h.trims,
    documentLength_of_number (ctx.get?_insert_self _ _)]
  rfl

theorem message_insert_document (ctx : Context) (value : Json) :
    (ctx.insert "documento" value).message = ctx.message := by
  rw [Context.message, Context.message, Context.text?, Context.text?, Context.text?, Context.text?,
    Context.get?_insert_of_ne _ _ (by decide), Context.get?_insert_of_ne _ _ (by decide)]

theorem hasValidDocument_of_spelledBy {n : Number} (h : (Json.num n).SpelledBy s)
    (ctx : Context) : hasValidDocument.holds (ctx.insert "documento" (.str s)) =
      hasValidDocument.holds (ctx.insert "documento" (.num n)) := by
  simp only [holds, documentLength_insert_of_spelledBy h, message_insert_document]

end Builtin

/-- What it means for `value` and the text `s` to be taken for the same. -/
structure SameAsText (value : Json) (s : String) : Prop where
  /-- As a `documento` a number is as valid as the text. -/
  document : ∀ n, value = .num n → ∀ ctx : Context,
    Builtin.hasValidDocument.holds (ctx.insert "documento" (.str s)) =
      Builtin.hasValidDocument.holds (ctx.insert "documento" value)
  /-- Its length is the same in characters and in bytes. -/
  bytes : ∀ n, value = .num n → (String.ofList n.textList).utf8ByteSize = n.textList.length
  /-- As a parameter of a query any value but null gives the answer that the text gives. -/
  parameter : value ≠ .null → (∀ t, value ≠ .str t) →
    ∀ (t : QueryTables) (query : String) (params : Fields Json) (name : String),
      Fields.get? params name = some value →
      t.query query (Fields.insert params name (.str s)) = t.query query params
  /-- So it does as a field of a context from which `runQuery` takes its parameters. -/
  field : value ≠ .null → (∀ t, value ≠ .str t) →
    ∀ (t : QueryTables) (payload : Json) (ctx : Context) (name : String),
      Action.runQuery (some t.query) payload (ctx.insert name (.str s)) =
        Action.runQuery (some t.query) payload (ctx.insert name value)

/-- A value is taken for the text that spells it (`Json.SpelledBy`), with blanks around it or
without. -/
theorem sameAsText_of_spelledBy (h : value.SpelledBy s) : SameAsText value s where
  document := by
    rintro n rfl ctx
    exact Builtin.hasValidDocument_of_spelledBy h ctx
  bytes := by
    rintro n rfl
    exact n.utf8ByteSize_textList
  parameter := by
    intro hnull htext t query params name hvalue
    apply QueryTables.query_congr_params
    intro key
    rw [Fields.get?_insert]
    by_cases hkey : key = name
    · subst hkey
      rw [if_pos rfl, hvalue, QueryTables.lookupKey?_of_spelledBy h hnull htext]
    · rw [if_neg hkey]
  field := by
    intro hnull htext t payload ctx name
    exact Action.runQuery_insert_congr (QueryTables.lookupKey?_of_spelledBy h hnull htext)
      t payload ctx name

theorem sameAsText_of_padded_number : (Json.num (.whole 1234567)).SpelledBy " 1234567\n" ∧
    SameAsText (.num (.whole 1234567)) " 1234567\n" := by
  have h : (Json.num (.whole 1234567)).SpelledBy " 1234567\n" :=
    ⟨[' '], ['\n'], by decide +kernel, List.forall_mem_singleton.2 (by decide),
      List.forall_mem_singleton.2 (by decide)⟩
  exact ⟨h, sameAsText_of_spelledBy h⟩

end Dunning
