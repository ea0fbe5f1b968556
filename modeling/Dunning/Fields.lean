/-!
# Fields

Named values, kept in ascending order of their names. Contexts, query rows, payload objects and the
changes an action asks for are all fields. The lemmas say what each operation does to `get?`, and
they hold of any list, sorted or not.
-/

namespace Dunning

/-- Values by name, in ascending order of the names. -/
abbrev Fields (α : Type) := List (String × α)

namespace Fields

variable {α β : Type}

/-- The value stored under `name`. -/
def get? (fields : Fields α) (name : String) : Option α :=
  match fields with
  | [] => none
  | (k, v) :: rest => if k = name then some v else get? rest name

/-- Whether `name` has a value. -/
def contains (fields : Fields α) (name : String) : Bool :=
  (get? fields name).isSome

/-- Sets `name` to `value`, in place of what was stored before. -/
def insert (fields : Fields α) (name : String) (value : α) : Fields α :=
  match fields with
  | [] => [(name, value)]
  | (k, v) :: rest =>
    if k = name then (name, value) :: rest
    else if name < k then (name, value) :: (k, v) :: rest
    else (k, v) :: insert rest name value

/-- Forgets what is stored under `name`. -/
def erase (fields : Fields α) (name : String) : Fields α :=
  fields.filter fun (k, _) => k ≠ name

/-- Overwrites `fields` by `others`, in the order in which these are given. -/
def merge (fields others : Fields α) : Fields α :=
  others.foldl (fun fs (k, v) => insert fs k v) fields

/-- Fields from `pairs` in any order; of several values for a name the last one stays. -/
def ofList (pairs : List (String × α)) : Fields α :=
  merge [] pairs

/-- The names that have a value. -/
def names (fields : Fields α) : List String :=
  fields.map Prod.fst

@[simp] theorem get?_nil (name : String) : get? ([] : Fields α) name = none := rfl

theorem get?_cons (k : String) (v : α) (rest : Fields α) (name : String) :
    get? ((k, v) :: rest) name = if k = name then some v else get? rest name := rfl

@[simp] theorem get?_insert_self (fields : Fields α) (name : String) (value : α) :
    get? (insert fields name value) name = some value := by
  induction fields with
  | nil => simp [insert, get?]
  | cons entry rest ih =>
    obtain ⟨k, v⟩ := entry
    simp only [insert]
    split
    · simp [get?]
    · split
      · simp [get?]
      · rename_i hk _
        simp [get?, hk, ih]

theorem get?_insert_of_ne (fields : Fields α) {name other : String} (value : α)
    (h : other ≠ name) : get? (insert fields name value) other = get? fields other := by
  induction fields with
  | nil => simp [insert, get?, h.symm]
  | cons entry rest ih =>
    obtain ⟨k, v⟩ := entry
    simp only [insert]
    split
    · rename_i hk
      subst hk
      simp [get?, h.symm]
    · split
      · simp [get?, h.symm]
      · simp only [get?]
        split
        · rfl
        · exact ih

theorem get?_insert (fields : Fields α) (name other : String) (value : α) :
    get? (insert fields name value) other = if other = name then some value
      else get? fields other := by
  split
  · rename_i h
    subst h
    exact get?_insert_self fields other value
  · rename_i h
    exact get?_insert_of_ne fields value h

@[simp] theorem insert_insert_self (fields : Fields α) (name : String) (value other : α) :
    insert (insert fields name other) name value = insert fields name value := by
  induction fields with
  | nil => simp [insert]
  | cons entry rest ih =>
    obtain ⟨k, v⟩ := entry
    by_cases hk : k = name
    · simp [insert, hk]
    · by_cases hlt : name < k
      · simp [insert, hk, hlt]
      · simp [insert, hk, hlt, ih]

/-- Different fields can be set by `insert` in either order. -/
theorem insert_comm (fields : Fields α) {name other : String} (h : name ≠ other)
    (value value' : α) :
    insert (insert fields name value) other value'
      = insert (insert fields other value') name value := by
  have hlt : name < other ∨ other < name := by grind
  induction fields with
  | nil => grind [insert]
  | cons entry rest ih =>
    obtain ⟨k, v⟩ := entry
    grind [insert]

@[simp] theorem get?_erase_self (fields : Fields α) (name : String) :
    get? (erase fields name) name = none := by
  induction fields with
  | nil => rfl
  | cons entry rest ih =>
    obtain ⟨k, v⟩ := entry
    by_cases hk : k = name
    · simpa [erase, hk] using ih
    · simpa [erase, hk, get?] using ih

theorem get?_erase_of_ne (fields : Fields α) {name other : String} (h : other ≠ name) :
    get? (erase fields name) other = get? fields other := by
  induction fields with
  | nil => rfl
  | cons entry rest ih =>
    obtain ⟨k, v⟩ := entry
    by_cases hk : k = name
    · subst hk
      simpa [erase, get?, h.symm] using ih
    · simp only [erase, ne_eq, decide_not, hk, decide_false, Bool.not_false,
        List.filter_cons_of_pos, get?_cons]
      split
      · rfl
      · simpa [erase] using ih

/-- After `merge` a field has its last new value, or else its old one. -/
theorem get?_merge (fields others : Fields α) (name : String) :
    get? (merge fields others) name
      = (get? others.reverse name).or (get? fields name) := by
  induction others generalizing fields with
  | nil => simp [merge]
  | cons entry rest ih =>
    obtain ⟨k, v⟩ := entry
    have step : merge fields ((k, v) :: rest) = merge (insert fields k v) rest := rfl
    have last : ∀ (l : Fields α), get? (l ++ [(k, v)]) name
        = (get? l name).or (if k = name then some v else none) := by
      intro l
      induction l with
      | nil => simp [get?]
      | cons e l ihl =>
        obtain ⟨k', v'⟩ := e
        by_cases h : k' = name <;> simp [get?, h, ihl]
    rw [step, ih, List.reverse_cons, last, get?_insert]
    by_cases h : k = name
    · subst h; cases get? rest.reverse k <;> simp
    · have h' : name ≠ k := fun e => h e.symm
      simp [h, h']

end Fields

end Dunning
