import Dunning.Proofs.Conversation.ClosedFlow
import Dunning.Proofs.Flow.Listing

/-!
# Transitions without a condition

A transition without a condition can always be taken, so nothing that stands after the first one of
its state ever is. Definitions are searched for such states by number
(`FlowDefinition.defaultCounts`, `FlowDefinition.shadowedDefaults`), and a number may be declared
again; the engine goes through the transitions of a state by its name. Both count the same
transitions (`getD_defaultCounts_eq`), and the first of them bounds what the engine takes
(`FirstOpen.index_le_firstDefault`).
-/

namespace Dunning

/-- The position in `ts` of the first transition without a condition; past the end when there is
none. -/
def firstDefault (ts : List Transition) : Nat :=
  ts.findIdx (·.condition.isNone)

/-! ## Counting names -/

namespace Fields

/-- Counts `name` once more. -/
def tally (counts : Fields Nat) (name : String) : Fields Nat :=
  insert counts name ((get? counts name).getD 0 + 1)

theorem getD_tally (counts : Fields Nat) (name other : String) :
    (get? (tally counts name) other).getD 0
      = (get? counts other).getD 0 + if name = other then 1 else 0 := by
  rw [tally, get?_insert]
  by_cases h : other = name
  · simp [h]
  · simp [h, Ne.symm h]

theorem getD_foldl_tally (names : List String) (counts : Fields Nat) (name : String) :
    (get? (names.foldl tally counts) name).getD 0
      = (get? counts name).getD 0 + names.count name := by
  induction names generalizing counts with
  | nil => simp
  | cons first rest ih =>
    rw [List.foldl_cons, ih, getD_tally, List.count_cons]
    by_cases h : first = name
    · simp [h]; omega
    · simp [h]

theorem ascending_foldl_tally {counts : Fields Nat} (h : Ascending counts) (names : List String) :
    Ascending (names.foldl tally counts) := by
  induction names generalizing counts with
  | nil => exact h
  | cons name rest ih => exact ih (ascending_insert h _ _)

end Fields

namespace FlowDefinition

variable {d : FlowDefinition} {t : FlowTable}

/-- The states that transitions without a condition leave, one for each transition. -/
def defaultSources (d : FlowDefinition) : List String :=
  (d.transitions.filter (·.condition.isNone)).filterMap fun x => d.stateName? x.source

theorem defaultCounts_eq (d : FlowDefinition) :
    d.defaultCounts = d.defaultSources.foldl Fields.tally [] := rfl

theorem getD_defaultCounts (d : FlowDefinition) (name : String) :
    (d.defaultCounts.get? name).getD 0 = d.defaultSources.count name := by
  rw [defaultCounts_eq, Fields.getD_foldl_tally]
  simp

theorem ascending_defaultCounts (d : FlowDefinition) : Fields.Ascending d.defaultCounts := by
  rw [defaultCounts_eq]
  exact Fields.ascending_foldl_tally Fields.ascending_nil _

/-! ## The shadowed ones -/

theorem mem_shadowedDefaults_iff {name : String} {n : Nat} :
    (name, n) ∈ d.shadowedDefaults ↔ n = (d.defaultCounts.get? name).getD 0 ∧ 2 ≤ n := by
  rw [shadowedDefaults, List.mem_filter, d.ascending_defaultCounts.mem_iff_get?,
    decide_eq_true_iff]
  constructor
  · rintro ⟨hget, hn⟩
    rw [hget]
    exact ⟨rfl, hn⟩
  · rintro ⟨hn, htwo⟩
    refine ⟨?_, htwo⟩
    cases hget : d.defaultCounts.get? name with
    | none => simp [hget] at hn; omega
    | some m => rw [hn, hget]; rfl

theorem pairwise_shadowedDefaults (d : FlowDefinition) :
    (d.shadowedDefaults.map (·.1)).Pairwise (· < ·) := by
  have hsublist : (d.shadowedDefaults.map (·.1)).Sublist (Fields.names d.defaultCounts) :=
    List.filter_sublist.map _
  exact d.ascending_defaultCounts.sublist hsublist

/-! ## The file and the table -/

theorem Joins.isNone_condition {x : FlowTransition} {joined : Transition} (h : d.Joins x joined) :
    joined.condition.isNone = x.condition.isNone := by
  have hrel := h.condition
  generalize x.condition = id?, joined.condition = record? at hrel
  cases hrel <;> rfl

/-- The transitions without a condition are the same in the file and in the table `t`. -/
theorem defaultSources_eq (h : d.resolve = .ok t) :
    d.defaultSources = (t.edges.filter (·.2.condition.isNone)).map (·.1) := by
  have hedges := forall₂_edges h
  rw [defaultSources]
  -- the induction is on the pairs, while `d` itself stays in their relation
  generalize d.transitions = transitions at hedges
  generalize t.edges = edges at hedges
  induction hedges with
  | nil => rfl
  | @cons x edge transitions edges hedge _ ih =>
    obtain ⟨hleaves, hjoins⟩ := hedge
    have hname : d.stateName? x.source = some edge.1 := stateName?_eq_some_iff.2 hleaves
    rw [List.filter_cons, List.filter_cons, hjoins.isNone_condition]
    cases x.condition.isNone with
    | false => simpa using ih
    | true => simpa [hname] using ih

end FlowDefinition

theorem FlowTable.countP_transitionsFrom (t : FlowTable) (name : String) :
    (t.transitionsFrom name).countP (·.condition.isNone)
      = ((t.edges.filter (·.2.condition.isNone)).map (·.1)).count name := by
  rw [transitionsFrom, List.countP_map, List.countP_filter, List.count, List.countP_map,
    List.countP_filter]
  refine List.countP_congr fun edge _ => ?_
  simp [and_comm]

theorem FlowDefinition.getD_defaultCounts_eq {d : FlowDefinition} {t : FlowTable}
    (h : d.resolve = .ok t) (name : String) : (d.defaultCounts.get? name).getD 0
      = (t.transitionsFrom name).countP (·.condition.isNone) := by
  rw [getD_defaultCounts, defaultSources_eq h, t.countP_transitionsFrom]

/-! ## What the engine takes -/

theorem exists_firstDefault {ts : List Transition} (h : firstDefault ts < ts.length) :
    ∃ transition, ts[firstDefault ts]? = some transition ∧ transition.condition = none := by
  have hnone := List.findIdx_getElem (w := h)
  exact ⟨ts[firstDefault ts], List.getElem?_eq_getElem h, Option.isNone_iff_eq_none.1 hnone⟩

/-- The first open transition does not stand after the first one without a condition. -/
theorem FirstOpen.index_le_firstDefault {ev : Evaluator} {ctx : Context} {ts : List Transition}
    {i : Nat} {transition : Transition} (h : FirstOpen ev ctx ts i transition) :
    i ≤ firstDefault ts := by
  by_contra hlt
  obtain ⟨hi, _⟩ := List.getElem?_eq_some_iff.1 h.listed
  have hfirst : firstDefault ts < ts.length := by omega
  obtain ⟨default, hlisted, hnone⟩ := exists_firstDefault hfirst
  exact h.least _ (by omega) default hlisted (.inl hnone)

/-- A transition without a condition is the first of them or stands after it. -/
theorem firstDefault_le {ts : List Transition} {i : Nat} {transition : Transition}
    (hlisted : ts[i]? = some transition) (hdefault : transition.condition = none) :
    firstDefault ts ≤ i := by
  by_contra hlt
  obtain ⟨hi, rfl⟩ := List.getElem?_eq_some_iff.1 hlisted
  have hnot := List.not_of_lt_findIdx (not_le.1 hlt)
  simp [hdefault] at hnot

namespace FlowDefinition

/-- What is to hold of the search of `d` for transitions without a condition, and of the table `t`
that the definitions were resolved to. -/
structure ForeseesDefaults (d : FlowDefinition) (t : FlowTable) : Prop where
  /-- The count of a state in `defaultCounts` is the number of its transitions without a condition.
  -/
  counted : ∀ name, ∃ listed, t.store.transitions name = .ok listed ∧
    (d.defaultCounts.get? name).getD 0 = listed.countP (·.condition.isNone)
  /-- The states of `shadowedDefaults` are in ascending order, each once. -/
  ascending : (d.shadowedDefaults.map (·.1)).Pairwise (· < ·)
  /-- They are the states with a count of two at least, each with its count. -/
  shadowed : ∀ name n, (name, n) ∈ d.shadowedDefaults ↔
    n = (d.defaultCounts.get? name).getD 0 ∧ 2 ≤ n
  /-- Where there is a transition without a condition, `Engine.select` gives some transition, and
  none after the first of these. -/
  selected : ∀ name, 1 ≤ (d.defaultCounts.get? name).getD 0 →
    ∀ executor conditions ctx, ∃ s listed,
      { store := t.store, executor, conditions : Engine }.select name ctx = .ok s ∧
      t.store.transitions name = .ok listed ∧ s.index ≤ firstDefault listed
  /-- No step takes another one of them, or anything that stands after the first. -/
  taken : ∀ name listed, t.store.transitions name = .ok listed →
    ∀ executor conditions around ctx o,
      ({ store := t.store, executor, conditions : Engine }.step around name ctx).result =
        .advanced o →
      o.index ≤ firstDefault listed ∧
      ∀ transition, listed[o.index]? = some transition → transition.condition = none →
        o.index = firstDefault listed

/-- The search sees in the file `d` what the engine does over its table. -/
theorem foreseesDefaults_of_resolve {d : FlowDefinition} {t : FlowTable}
    (h : d.resolve = .ok t) : d.ForeseesDefaults t where
  counted name := ⟨t.transitionsFrom name, rfl, getD_defaultCounts_eq h name⟩
  ascending := d.pairwise_shadowedDefaults
  shadowed _ _ := mem_shadowedDefaults_iff
  selected := by
    intro name hcount executor conditions ctx
    have ht : t.Closed := closed_of_resolve h
    rw [getD_defaultCounts_eq h] at hcount
    obtain ⟨transition, hlisted, hdefault⟩ := List.countP_pos_iff.1 hcount
    have hstate : name ∈ t.states := ht.source _ (FlowTable.mem_transitionsFrom_iff.1 hlisted)
    obtain ⟨i, chosen, chooses⟩ :=
      ht.exists_chooses hstate hlisted (by simpa using hdefault) executor conditions ctx
    obtain ⟨listed, hlisting, first⟩ := chooses.first
    exact ⟨⟨i, chosen⟩, listed, Engine.select_eq_ok_iff.2 chooses, hlisting,
      first.index_le_firstDefault⟩
  taken := by
    intro name listed hlisting executor conditions around ctx o ho
    obtain ⟨transition, chooses, _⟩ := Engine.exists_chooses_of_advanced ho
    obtain ⟨ts, hts, first⟩ := chooses.first
    obtain rfl := Except.ok.inj (hlisting.symm.trans hts)
    refine ⟨first.index_le_firstDefault, ?_⟩
    intro taken htaken hdefault
    exact le_antisymm first.index_le_firstDefault (firstDefault_le htaken hdefault)

/-- A state with two numbers, each with a transition without a condition, after one that has a
condition; and a number that is declared twice. -/
theorem foreseesDefaults_of_two_numbers :
    let d : FlowDefinition := {
      initialState := "saludo"
      states := [⟨1, "despedida"⟩, ⟨2, "oferta"⟩, ⟨1, "saludo"⟩, ⟨3, "oferta"⟩]
      conditions := [⟨7, "saldo_mayor_1000"⟩]
      transitions := [⟨10, 2, some 7, none, 1⟩, ⟨11, 2, none, none, 1⟩, ⟨12, 3, none, none, 2⟩,
        ⟨13, 1, none, none, 3⟩] }
    ∃ t, d.resolve = .ok t ∧ d.ForeseesDefaults t ∧
      d.shadowedDefaults = [("oferta", 2)] ∧ (d.defaultCounts.get? "saludo") = some 1 ∧
      (t.transitionsFrom "oferta").length = 3 ∧ firstDefault (t.transitionsFrom "oferta") = 1 :=
  ⟨_, rfl, foreseesDefaults_of_resolve rfl, by decide, by decide, by decide, by decide⟩

end FlowDefinition

end Dunning
