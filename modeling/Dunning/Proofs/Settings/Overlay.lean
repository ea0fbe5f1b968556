import Dunning.Settings.Layer
import Dunning.Proofs.Fields
import Mathlib.Data.List.Induction

/-!
# What a layer of settings does to a place

A place is a field of a section, or an entry outside all sections. What a layer does to a place
depends on nothing but what stands there below it, so it is a function (`exists_lays`), and the same
function tells what the layer gives by itself. `Shows` compares what stands at a place once all
layers are laid over each other with what the topmost layer that says something of the place gives:
it is the same value, but for lists and tables, of which the upper ones may have been laid into the
lower ones.
-/

namespace Dunning.Setting

/-- Whether the value is a table. -/
def isTable : Setting → Bool
  | table _ => true
  | _ => false

theorem eq_table_of_isTable {value : Setting} (h : value.isTable = true) :
    value = table value.entries := by
  cases value <;> first | rfl | cases h

/-- What stands under `name` in a table; nothing in a value that is no table. -/
def under? (name : String) (value : Setting) : Option Setting :=
  Fields.get? value.entries name

/-- What stands where a path goes on with `rest` after `value` was laid at its end. -/
def laid (value : Setting) : List Step → Option Setting → Setting
  | [], old =>
    match value with
    | table incoming => putAll (old.getD (table [])) incoming
    | value => value
  | rest, old => putAt value (old.getD absent) rest

theorem put_eq (base : Setting) (name : String) (value : Setting) :
    put base name value = table (Fields.insert base.entries (Text.lower name)
      (laid value [] (Fields.get? base.entries (Text.lower name)))) := by
  cases value <;> rw [put] <;> first | rfl | simp

theorem putAt_entry (value base : Setting) (name : String) (rest : List Step) :
    putAt value base (.entry name :: rest) = table (Fields.insert base.entries (Text.lower name)
      (laid value rest (Fields.get? base.entries (Text.lower name)))) := by
  cases rest with
  | nil => exact put_eq base name value
  | cons step rest => rfl

theorem under?_putAt (value base : Setting) (name : String) (rest : List Step) (x : String) :
    under? x (putAt value base (.entry name :: rest)) =
      if x = Text.lower name then some (laid value rest (under? x base)) else under? x base := by
  rw [putAt_entry, under?, entries, Fields.get?_insert]
  split
  · rename_i hx
    rw [hx, under?]
  · rfl

theorem under?_put (base : Setting) (name : String) (value : Setting) (x : String) :
    under? x (put base name value) =
      if x = Text.lower name then some (laid value [] (under? x base)) else under? x base :=
  under?_putAt value base name [] x

/-- The entries that stand at a place; none where there is no table. -/
def entriesAt (old : Option Setting) : Fields Setting :=
  (old.getD absent).entries

theorem entries_getD_table (old : Option Setting) :
    (old.getD (table [])).entries = entriesAt old := by
  cases old <;> rfl

/-! ## Tables that grow -/

theorem mem_names_putAll {base : Setting} {incoming : List (String × Setting)} {x : String} :
    x ∈ Fields.names (putAll base incoming).entries ↔
      x ∈ incoming.map (Text.lower ·.1) ∨ x ∈ Fields.names base.entries := by
  induction incoming generalizing base with
  | nil => simp [putAll]
  | cons entry incoming ih =>
    obtain ⟨name, value⟩ := entry
    rw [putAll, ih, put_eq, entries, Fields.mem_names_insert, List.map_cons, List.mem_cons]
    tauto

/-- What every single entry keeps (`put`), a table of entries keeps. -/
theorem putAll_invariant {motive : Setting → Prop} {base : Setting} (h : motive base)
    (hput : ∀ base name value, motive base → motive (put base name value))
    (incoming : List (String × Setting)) : motive (putAll base incoming) := by
  induction incoming generalizing base with
  | nil => exact h
  | cons entry incoming ih =>
    obtain ⟨name, value⟩ := entry
    rw [putAll]
    exact ih (hput base name value h)

theorem ascending_putAll {base : Setting} (h : Fields.Ascending base.entries)
    (incoming : List (String × Setting)) : Fields.Ascending (putAll base incoming).entries := by
  apply putAll_invariant (motive := fun value => Fields.Ascending value.entries) h
  intro base name value hbase
  rw [put_eq]
  exact Fields.ascending_insert hbase _ _

theorem isTable_put (base : Setting) (name : String) (value : Setting) :
    (put base name value).isTable = true := by
  rw [put_eq]
  rfl

theorem isTable_putAll {base : Setting} (h : base.isTable = true)
    (incoming : List (String × Setting)) : (putAll base incoming).isTable = true :=
  putAll_invariant (motive := (isTable · = true)) h (fun _ _ _ _ => isTable_put _ _ _) incoming

/-! ## What can be laid over a value -/

/-- The ways in which a value can depend on the one that it is laid over, as `g` has it. -/
inductive Effect (g : Option Setting → Setting) : Prop
  /-- It does not depend on it. -/
  | replaces {v : Setting} (plain : v.isTable = false) (h : ∀ old, g old = v)
  /-- It is the same value, or the empty `table` where there was none. -/
  | keeps (h : ∀ old, g old = old.getD (table []))
  /-- It is a table with the entries `added` and those of the value below. -/
  | grows {added : List String} (nonempty : added ≠ [])
      (h : ∀ old, ∃ entries, g old = table entries ∧
        (∀ x, x ∈ Fields.names entries ↔ x ∈ added ∨ x ∈ Fields.names (entriesAt old)) ∧
        (Fields.Ascending (entriesAt old) → Fields.Ascending entries))
  /-- It is a list. -/
  | lists (h : ∀ old, ∃ items, g old = list items)

theorem effect_insert (name : String) (f : Option Setting → Setting) :
    Effect fun old => table (Fields.insert (entriesAt old) name (f old)) := by
  refine .grows (List.cons_ne_nil name []) fun old => ⟨_, rfl, ?_, ?_⟩
  · intro x
    rw [Fields.mem_names_insert, List.mem_singleton]
  · exact fun h => Fields.ascending_insert h _ _

theorem effect_table (incoming : List (String × Setting)) :
    Effect fun old => putAll (old.getD (table [])) incoming := by
  cases incoming with
  | nil => exact .keeps fun _ => rfl
  | cons entry incoming =>
    obtain ⟨name, value⟩ := entry
    refine .grows (List.cons_ne_nil (Text.lower name) (incoming.map (Text.lower ·.1))) ?_
    intro old
    refine ⟨_, eq_table_of_isTable (isTable_putAll (isTable_put _ name value) _), ?_, ?_⟩
    · intro x
      rw [mem_names_putAll, entries_getD_table]
      rfl
    · intro h
      apply ascending_putAll
      rwa [entries_getD_table]

/-- Whatever is laid, and wherever its path goes on, has one `Effect` of these. -/
theorem effect_laid (value : Setting) (rest : List Step) : Effect (laid value rest) := by
  cases rest with
  | nil =>
    cases value with
    | table incoming => exact effect_table incoming
    | absent => exact .replaces rfl fun _ => rfl
    | flag b => exact .replaces rfl fun _ => rfl
    | whole n => exact .replaces rfl fun _ => rfl
    | double x => exact .replaces rfl fun _ => rfl
    | text s => exact .replaces rfl fun _ => rfl
    | list items => exact .replaces rfl fun _ => rfl
  | cons step rest =>
    cases step with
    | entry name =>
      have h : laid value (.entry name :: rest) = fun old =>
          table (Fields.insert (entriesAt old) (Text.lower name)
            (laid value rest (Fields.get? (entriesAt old) (Text.lower name)))) :=
        funext fun old => putAt_entry value (old.getD absent) name rest
      rw [h]
      exact effect_insert _ _
    | item index => exact .lists fun old => ⟨_, rfl⟩

/-! ## What stands at a place -/

/-- What stands at a place, where the topmost layer that says something of it gives `given`. -/
inductive Shows : Option Setting → Option Setting → Prop
  | same (given : Option Setting) : Shows given given
  /-- Tables without entries say nothing. -/
  | emptied : Shows none (some (table []))
  /-- The entries of lower tables may stand besides those of `above`. -/
  | tables {above all : List (String × Setting)} (nonempty : above ≠ [])
      (ascending : Fields.Ascending above)
      (names : ∀ x ∈ Fields.names above, x ∈ Fields.names all) :
      Shows (some (table above)) (some (table all))
  /-- Items of lower lists may stand besides those of `above`. -/
  | lists (above all : List Setting) : Shows (some (list above)) (some (list all))

/-- What a value says of its place: a table without entries says nothing. -/
def told : Option Setting → Option Setting
  | some (table []) => none
  | value => value

/-- What a layer does to what stands at a place, as the function `f`. -/
structure Lays (f : Option Setting → Option Setting) : Prop where
  /-- It leaves the place as it is, or there is something at the place afterwards. -/
  id_or_some : f = id ∨ ∀ old, f old ≠ none
  /-- Tables keep their entries in order. -/
  ascending : ∀ old, Fields.Ascending (entriesAt old) → Fields.Ascending (entriesAt (f old))
  /-- What the layers up to this one show follows from what they give: `own` is what this layer has
  given so far by itself, `below` what is given below it. -/
  shows : ∀ below own all, Fields.Ascending (entriesAt own) → Shows ((told own).or below) all →
    Shows ((told (f own)).or below) (f all)

theorem Lays.id : Lays id where
  id_or_some := .inl rfl
  ascending _ h := h
  shows _ _ _ _ h := h

theorem Lays.comp {f g : Option Setting → Option Setting} (hg : Lays g) (hf : Lays f) :
    Lays (g ∘ f) where
  id_or_some := by
    obtain rfl | hsome := hg.id_or_some
    · exact hf.id_or_some
    · exact .inr fun old => hsome (f old)
  ascending old h := hg.ascending _ (hf.ascending old h)
  shows below own all h hshows :=
    hg.shows below _ _ (hf.ascending own h) (hf.shows below own all h hshows)

theorem told_some {value : Setting} (h : ∀ entries, value = table entries → entries ≠ []) :
    told (some value) = some value := by
  unfold told
  split
  · rename_i heq
    exact absurd rfl (h [] (Option.some.inj heq))
  · rfl

theorem told_getD_table (old : Option Setting) : told (some (old.getD (table []))) = told old := by
  cases old <;> rfl

/-- What the table of `own` has stands in the table of all layers as well. -/
theorem mem_names_of_shows {below own all : Option Setting} (h : Shows ((told own).or below) all)
    {x : String} (hx : x ∈ Fields.names (entriesAt own)) : x ∈ Fields.names (entriesAt all) := by
  cases own with
  | none => cases hx
  | some value =>
    cases value with
    | table entries =>
      have hne : entries ≠ [] := by
        rintro rfl
        cases hx
      rw [told_some (by rintro _ ⟨⟩; exact hne), Option.some_or] at h
      cases h with
      | same => exact hx
      | tables _ _ names => exact names x hx
    | _ => cases hx

section
variable {g : Option Setting → Setting} (h : Effect g)
include h

/-- Whatever is laid, tables keep their entries in order (`Fields.Ascending`). -/
theorem Effect.ascending {old : Option Setting} (hold : Fields.Ascending (entriesAt old)) :
    Fields.Ascending (entriesAt (some (g old))) := by
  cases h with
  | @replaces v plain h =>
    rw [h]
    cases v <;> first | exact Fields.ascending_nil | cases plain
  | keeps h =>
    rw [h, entriesAt, Option.getD_some, entries_getD_table]
    exact hold
  | grows _ h =>
    obtain ⟨entries, hg, _, hascending⟩ := h old
    rw [hg]
    exact hascending hold
  | lists h =>
    obtain ⟨items, hg⟩ := h old
    rw [hg]
    exact Fields.ascending_nil

/-- What is laid over all layers `Shows` what is laid over the topmost of them, and what is given
below only where that says nothing. -/
theorem Effect.shows {below own all : Option Setting} (hown : Fields.Ascending (entriesAt own))
    (hshows : Shows ((told own).or below) all) :
    Shows ((told (some (g own))).or below) (some (g all)) := by
  cases h with
  | @replaces v plain h =>
    rw [h, h, told_some (by rintro entries rfl; cases plain)]
    exact .same _
  | keeps h =>
    -- an empty table changes at most that the place has a table at all
    rw [h, h, told_getD_table]
    cases all with
    | none =>
      generalize (told own).or below = given at hshows
      cases hshows
      exact .emptied
    | some value => exact hshows
  | grows nonempty h =>
    obtain ⟨above, habove, hmem, hascending⟩ := h own
    obtain ⟨entries, hall, hmem', _⟩ := h all
    -- the layer says something by itself, so what is given below it no longer counts
    have hne : above ≠ [] := by
      rintro rfl
      obtain ⟨x, hx⟩ := List.exists_mem_of_ne_nil _ nonempty
      cases (hmem x).2 (.inl hx)
    rw [habove, hall, told_some (by rintro _ ⟨⟩; exact hne), Option.some_or]
    refine .tables hne (hascending hown) fun x hx => (hmem' x).2 ?_
    exact ((hmem x).1 hx).imp_right (mem_names_of_shows hshows)
  | lists h =>
    obtain ⟨above, habove⟩ := h own
    obtain ⟨items, hall⟩ := h all
    rw [habove, hall]
    exact .lists above items

theorem Effect.lays : Lays fun old => some (g old) where
  id_or_some := .inr fun _ => Option.some_ne_none _
  ascending _ := h.ascending
  shows _ _ _ := h.shows

end

theorem lays_touch (value : Setting) (rest : List Step) (x name : String) :
    Lays fun old => if x = name then some (laid value rest old) else old := by
  by_cases hx : x = name
  · simp only [if_pos hx]
    exact (effect_laid value rest).lays
  · simp only [if_neg hx]
    exact Lays.id

theorem exists_lays_putAll (incoming : List (String × Setting)) (x : String) :
    ∃ f, Lays f ∧ ∀ base, under? x (putAll base incoming) = f (under? x base) := by
  induction incoming with
  | nil => exact ⟨_, Lays.id, fun _ => rfl⟩
  | cons entry incoming ih =>
    obtain ⟨name, value⟩ := entry
    obtain ⟨f, hf, hall⟩ := ih
    refine ⟨_, hf.comp (lays_touch value [] x (Text.lower name)), fun base => ?_⟩
    rw [putAll, hall, under?_put]
    rfl

/-- What is laid at a section or below it, provided that it is a table or goes into one, does
something to each field of the section (`Lays`) and leaves it a table. -/
theorem exists_lays_section {value : Setting} {rest : List Step}
    (htable : (laid value rest none).isTable = true) (x : String) :
    ∃ f, Lays f ∧ ∀ old : Option Setting, old.all isTable = true →
      under? x (laid value rest old) = f (old.bind (under? x)) ∧
        (laid value rest old).isTable = true := by
  cases rest with
  | nil =>
    cases value with
    | table incoming =>
      obtain ⟨f, hf, hall⟩ := exists_lays_putAll incoming x
      refine ⟨f, hf, fun old hold => ⟨?_, ?_⟩⟩
      · refine (hall (old.getD (table []))).trans (congrArg f ?_)
        cases old <;> rfl
      · apply isTable_putAll
        cases old with
        | none => rfl
        | some value => exact hold
    | _ => cases htable
  | cons step rest =>
    cases step with
    | entry name =>
      refine ⟨_, lays_touch value rest x (Text.lower name), fun old _ => ⟨?_, ?_⟩⟩
      · have hfield : under? x (old.getD absent) = old.bind (under? x) := by
          cases old <;> rfl
        rw [laid, under?_putAt, hfield]
        simp
      · rw [laid, putAt_entry]
        · rfl
        · simp
    | item index => cases htable

theorem exists_path_eq (name : String) : ∃ first rest, path name = .entry first :: rest := by
  unfold path
  dsimp only
  split
  · exact ⟨_, _, rfl⟩
  · exact ⟨_, _, rfl⟩

theorem isTable_layOver {base : Setting} (h : base.isTable = true) (layer : Fields Setting) :
    (layOver base layer).isTable = true := by
  induction layer generalizing base with
  | nil => exact h
  | cons entry layer ih =>
    obtain ⟨name, value⟩ := entry
    obtain ⟨first, rest, hpath⟩ := exists_path_eq name
    have hput : (putAt value base (path name)).isTable = true := by
      rw [hpath, putAt_entry]
      rfl
    exact ih hput

theorem isTable_merged (layers : List (Fields Setting)) : (merged layers).isTable = true :=
  List.foldlRecOn (motive := (isTable · = true)) layers layOver rfl
    fun _ h layer _ => isTable_layOver h layer

theorem merged_concat (layers : List (Fields Setting)) (layer : Fields Setting) :
    merged (layers ++ [layer]) = layOver (merged layers) layer :=
  List.foldl_concat layOver (table []) layer layers

/-! ## Places -/

/-- A field of a section, or an entry outside all sections. -/
structure Place where
  parent? : Option String := none
  field : String

namespace Place

variable {p : Place}

/-- What stands at the place `p`. -/
def get? (p : Place) (value : Setting) : Option Setting :=
  match p.parent? with
  | none => under? p.field value
  | some name => (under? name value).bind (under? p.field)

/-- The place `p` can be reached: its section, if it is there, is a table. -/
def Open (p : Place) (value : Setting) : Prop :=
  ∀ name ∈ p.parent?, (under? name value).all isTable = true

/-- Whatever an entry of `layer` gives for the section of the place, it is a table: it gives some
fields, not a list or a single value or nothing in place of all of them. -/
def OpenTo (p : Place) (layer : Fields Setting) : Prop :=
  ∀ entry ∈ layer, p.Open (merged [[entry]])

theorem exists_lays_putAt {name : String} {value : Setting}
    (h : p.Open (merged [[(name, value)]])) : ∃ f, Lays f ∧ ∀ base, p.Open base →
      p.get? (putAt value base (path name)) = f (p.get? base) ∧
        p.Open (putAt value base (path name)) := by
  have hmerged : merged [[(name, value)]] = putAt value (table []) (path name) := rfl
  rw [hmerged] at h
  obtain ⟨first, rest, hpath⟩ := exists_path_eq name
  rw [hpath] at h ⊢
  obtain ⟨sectionName, field⟩ := p
  cases sectionName with
  | none =>
    refine ⟨_, lays_touch value rest field (Text.lower first), fun base _ => ⟨?_, ?_⟩⟩
    · exact under?_putAt value base first rest field
    · rintro _ ⟨⟩
  | some sectionName =>
    -- the path begins in the section of the place, or it never comes near it
    by_cases hname : sectionName = Text.lower first
    · have hsection : ∀ base, under? sectionName (putAt value base (.entry first :: rest)) =
          some (laid value rest (under? sectionName base)) := by
        intro base
        rw [under?_putAt, if_pos hname]
      have htable := h sectionName rfl
      rw [hsection] at htable
      obtain ⟨f, hf, hall⟩ := exists_lays_section htable field
      refine ⟨f, hf, fun base hbase => ⟨?_, ?_⟩⟩
      · simp only [get?, hsection, Option.bind_some]
        exact (hall _ (hbase sectionName rfl)).1
      · rintro _ ⟨⟩
        rw [hsection]
        exact (hall _ (hbase sectionName rfl)).2
    · have hsection : ∀ base, under? sectionName (putAt value base (.entry first :: rest)) =
          under? sectionName base := by
        intro base
        rw [under?_putAt, if_neg hname]
      refine ⟨_, Lays.id, fun base hbase => ⟨?_, ?_⟩⟩
      · simp only [get?, hsection]
        rfl
      · rintro _ ⟨⟩
        rw [hsection]
        exact hbase sectionName rfl

/-- What `layOver` does to a place depends on nothing but what stands there. -/
theorem exists_lays {layer : Fields Setting} (h : p.OpenTo layer) : ∃ f, Lays f ∧
    ∀ base, p.Open base → p.get? (layOver base layer) = f (p.get? base) ∧
      p.Open (layOver base layer) := by
  induction layer with
  | nil => exact ⟨_, Lays.id, fun base hbase => ⟨rfl, hbase⟩⟩
  | cons entry layer ih =>
    obtain ⟨name, value⟩ := entry
    obtain ⟨hfirst, hrest⟩ := List.forall_mem_cons.1 h
    obtain ⟨f, hf, hone⟩ := exists_lays_putAt hfirst
    obtain ⟨g, hg, hothers⟩ := ih hrest
    refine ⟨_, hg.comp hf, fun base hbase => ?_⟩
    obtain ⟨heq, hopen⟩ := hone base hbase
    obtain ⟨heq', hopen'⟩ := hothers _ hopen
    exact ⟨heq'.trans (congrArg g heq), hopen'⟩

/-- What `layer` gives for a place by itself. -/
def given? (p : Place) (layer : Fields Setting) : Option Setting :=
  told (p.get? (merged [layer]))

/-- What the topmost of `layers` that give something for a place gives. -/
def topmost? (p : Place) (layers : List (Fields Setting)) : Option Setting :=
  layers.reverse.findSome? p.given?

theorem open_nil (p : Place) : p.Open (table []) := fun _ _ => rfl

theorem get?_nil (p : Place) : p.get? (table []) = none := by
  obtain ⟨sectionName, field⟩ := p
  cases sectionName <;> rfl

/-- What a layer does to a place (`Lays`) tells what it gives by itself. -/
theorem exists_lays_own {layer : Fields Setting} (h : p.OpenTo layer) : ∃ f, Lays f ∧
    p.get? (merged [layer]) = f none ∧ ∀ base, p.Open base →
      p.get? (layOver base layer) = f (p.get? base) ∧ p.Open (layOver base layer) := by
  obtain ⟨f, hf, hall⟩ := exists_lays h
  have hown := (hall _ p.open_nil).1
  rw [p.get?_nil] at hown
  exact ⟨f, hf, hown, hall⟩

/-- A layer that says nothing of the place `p` leaves it as the layers below gave it. -/
theorem get?_layOver_of_silent {layer : Fields Setting} {base : Setting} (h : p.OpenTo layer)
    (hbase : p.Open base) (silent : p.get? (merged [layer]) = none) :
    p.get? (layOver base layer) = p.get? base := by
  obtain ⟨f, hf, hown, hall⟩ := exists_lays_own h
  rw [(hall base hbase).1]
  obtain rfl | hsome := hf.id_or_some
  · rfl
  · exact absurd (hown.symm.trans silent) (hsome none)

theorem topmost?_concat (layers : List (Fields Setting)) (layer : Fields Setting) :
    p.topmost? (layers ++ [layer]) = (p.given? layer).or (p.topmost? layers) := by
  rw [topmost?, List.reverse_append, List.reverse_singleton, List.singleton_append,
    List.findSome?_cons, topmost?]
  cases p.given? layer <;> rfl

/-- What stands at the place `p` after all layers is what the topmost of them gives, as `Shows` has
it. -/
theorem shows_topmost? {layers : List (Fields Setting)} (h : ∀ layer ∈ layers, p.OpenTo layer) :
    Shows (p.topmost? layers) (p.get? (merged layers)) ∧ p.Open (merged layers) := by
  -- from the bottom layer upwards
  induction layers using List.reverseRecOn with
  | nil =>
    refine ⟨?_, p.open_nil⟩
    rw [merged, List.foldl_nil, p.get?_nil]
    exact .same none
  | append_singleton layers layer ih =>
    rw [List.forall_mem_append] at h
    obtain ⟨hshows, hopen⟩ := ih h.1
    obtain ⟨f, hf, hown, hall⟩ := exists_lays_own (h.2 layer (List.mem_singleton_self layer))
    obtain ⟨heq, hopen'⟩ := hall _ hopen
    rw [merged_concat, heq, topmost?_concat, given?, hown]
    exact ⟨hf.shows _ none _ Fields.ascending_nil hshows, hopen'⟩

end Place

end Dunning.Setting
