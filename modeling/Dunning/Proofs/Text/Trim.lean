import Dunning.Text.Blank
import Mathlib.Data.List.TakeWhile

/-!
# What is left of a trimmed text

`Trims cs mid` says without any algorithm that `mid` is what trimming leaves of `cs`: only blanks
stand around it, and it neither begins nor ends with one. The main statement is that `trimList`
gives the only text that is left so (`trimList_eq_iff`), so there is nothing to trim a second time.
-/

namespace Dunning.Text

/-- `mid` is the text `cs` without the blanks at its two ends. -/
structure Trims (cs mid : List Char) : Prop where
  around : ∃ before after, cs = before ++ mid ++ after ∧
    (∀ c ∈ before, isBlank c = true) ∧ ∀ c ∈ after, isBlank c = true
  starts : ∀ c ∈ mid.head?, isBlank c = false
  ends : ∀ c ∈ mid.getLast?, isBlank c = false

variable {cs mid : List Char}

/-- Dropping blanks from the front stops at the first character that is none, where `rest` begins.
-/
theorem dropWhile_isBlank_append {gap rest : List Char} (blank : ∀ c ∈ gap, isBlank c = true)
    (starts : ∀ c ∈ rest.head?, isBlank c = false) : (gap ++ rest).dropWhile isBlank = rest := by
  rw [List.dropWhile_append_of_pos blank]
  cases rest with
  | nil => rfl
  | cons c rest =>
    have hc : isBlank c = false := starts c rfl
    exact List.dropWhile_cons_of_neg (by simp [hc])

theorem isBlank_of_head?_dropWhile (cs : List Char) :
    ∀ c ∈ (cs.dropWhile isBlank).head?, isBlank c = false := by
  intro c hc
  have hhead := List.head?_dropWhile_not isBlank cs
  rwa [Option.mem_def.1 hc] at hhead

theorem Trims.trimList_eq (h : Trims cs mid) : trimList cs = mid := by
  obtain ⟨before, after, rfl, hbefore, hafter⟩ := h.around
  have hreverse : ∀ c ∈ after.reverse, isBlank c = true := by simpa using hafter
  unfold trimList
  cases mid with
  | nil =>
    -- nothing but blanks, so the first pass drops them all
    have hall : ∀ c ∈ before ++ [] ++ after, isBlank c = true := by
      intro c hc
      rw [List.append_nil] at hc
      rcases List.mem_append.1 hc with hc | hc
      · exact hbefore c hc
      · exact hafter c hc
    rw [List.dropWhile_eq_nil_iff.2 hall]
    rfl
  | cons c mid =>
    have hfront : (before ++ c :: mid ++ after).dropWhile isBlank = c :: mid ++ after := by
      rw [List.append_assoc]
      exact dropWhile_isBlank_append hbefore h.starts
    have hback : (c :: mid ++ after).reverse.dropWhile isBlank = (c :: mid).reverse := by
      rw [List.reverse_append]
      exact dropWhile_isBlank_append hreverse (List.head?_reverse ▸ h.ends)
    rw [hfront, hback, List.reverse_reverse]

theorem trims_trimList (cs : List Char) : Trims cs (trimList cs) := by
  -- `front` and `back` are what the two passes drop
  let front := cs.takeWhile isBlank
  let rest := cs.dropWhile isBlank
  let back := (rest.reverse.takeWhile isBlank).reverse
  have hcs : cs = front ++ rest := List.takeWhile_append_dropWhile.symm
  have hrest : rest = trimList cs ++ back := by
    have hsplit : rest.reverse = rest.reverse.takeWhile isBlank ++ rest.reverse.dropWhile isBlank :=
      List.takeWhile_append_dropWhile.symm
    rw [← List.reverse_reverse rest, hsplit, List.reverse_append]
    rfl
  have hends : (trimList cs).getLast? = (rest.reverse.dropWhile isBlank).head? :=
    List.getLast?_reverse
  constructor
  case around =>
    refine ⟨front, back, ?_, fun c hc => List.mem_takeWhile_imp hc, ?_⟩
    · rw [List.append_assoc, ← hrest, ← hcs]
    · intro c hc
      exact List.mem_takeWhile_imp (List.mem_reverse.1 hc)
  case starts =>
    intro c hc
    apply isBlank_of_head?_dropWhile cs
    show c ∈ rest.head?
    rw [hrest, List.head?_append, Option.mem_def.1 hc]
    rfl
  case ends =>
    rw [hends]
    exact isBlank_of_head?_dropWhile rest.reverse

/-- What `trimList` leaves is the only text that is left so. -/
theorem trimList_eq_iff : trimList cs = mid ↔ Trims cs mid := by
  refine ⟨?_, Trims.trimList_eq⟩
  rintro rfl
  exact trims_trimList cs

/-! ## Texts with nothing to trim -/

theorem Trims.trimList_self (h : Trims cs mid) : trimList mid = mid :=
  Trims.trimList_eq ⟨⟨[], [], by simp, by simp, by simp⟩, h.starts, h.ends⟩

/-- There is nothing to trim in `cs` where there is no blank. -/
theorem trimList_of_solid (h : ∀ c ∈ cs, isBlank c = false) : trimList cs = cs := by
  apply Trims.trimList_eq
  refine ⟨⟨[], [], by simp, by simp, by simp⟩, ?_, ?_⟩
  · exact fun c hc => h c (List.mem_of_mem_head? hc)
  · exact fun c hc => h c (List.mem_of_getLast? hc)

/-- There is nothing to trim between two characters, `first` and `last`, that are not blank. -/
theorem trims_enclosed {first last : Char} (hfirst : isBlank first = false)
    (hlast : isBlank last = false) (h : cs.getLast? = some last) :
    Trims (first :: cs) (first :: cs) := by
  refine ⟨⟨[], [], by simp, by simp, by simp⟩, ?_, ?_⟩
  · rintro c ⟨⟩
    exact hfirst
  · intro c hc
    rw [List.getLast?_cons, h] at hc
    obtain rfl := Option.some.inj hc
    exact hlast

theorem isBlank_of_isDigit {c : Char} (h : c.isDigit = true) : isBlank c = false := by
  have hrange := toNat_of_isDigit h
  -- no range of blanks meets the range of the digits
  simp only [isBlank, Ranges.contains, blankRanges, List.any_cons, List.any_nil, Bool.or_false,
    Bool.or_eq_false_iff, Bool.and_eq_false_iff, decide_eq_false_iff_not]
  omega

@[simp] theorem trim_trim (s : String) : trim (trim s) = trim s := by
  unfold trim
  rw [String.toList_ofList, (trims_trimList s.toList).trimList_self]

end Dunning.Text
