import Dunning.Proofs.Document.Forms

/-!
# The first number of a message

The search `find?` goes through a message from the left and tries the forms in a fixed order at each
word boundary. What it finds is the leftmost number, and the longest of those that stand there
(`IsFirst`): two numbers that begin in the same place have first groups of one length, so they can
differ only in the number of groups that follow, and the form with more groups is tried first.
-/

namespace Dunning.Document

open Text

/-- A number of one of `forms` stands between `left` and `right`, with a word boundary on either
side. -/
def Stands (forms : List Form) (left number right : List Char) : Prop :=
  ∃ form ∈ forms, form.Fits number right ∧ isBoundary left.getLast? number.head? = true

/-- The first number of a message, between the texts `left` and `right`. -/
structure IsFirst (forms : List Form) (left number right : List Char) : Prop where
  stands : Stands forms left number right
  /-- No number begins further left than at the end of `left`. -/
  leftmost : ∀ left' number' right', left' ++ number' ++ right' = left ++ number ++ right →
    Stands forms left' number' right' → left.length ≤ left'.length
  /-- No longer number begins in the same place. -/
  longest : ∀ number' right', number' ++ right' = number ++ right →
    Stands forms left number' right' → number'.length ≤ number.length

theorem lead_pos_of_mem {form : Form} (h : form ∈ allForms) : 0 < form.lead := by
  have hall : ∀ form ∈ allForms, 0 < form.lead := by decide
  exact hall form h

/-- Of two forms of `allForms` with first groups of one length, the one for longer numbers is tried
first. -/
theorem pairwise_allForms :
    allForms.Pairwise fun form later => form.lead = later.lead → later.size ≤ form.size := by
  decide

theorem plainForms_sublist : plainForms.Sublist allForms :=
  List.sublist_append_right _ _

/-! ## One place of a message -/

section
variable {forms : List Form} {form : Form} {cs number right left : List Char}

/-- The number of the form at the front of `cs`, if it ends at a word boundary there. -/
def Form.fit? (form : Form) (cs : List Char) : Option (List Char) :=
  match form.take? cs with
  | some (number, rest) => if isBoundary number.getLast? rest.head? then some number else none
  | none => none

theorem takeAny?_eq_findSome? (forms : List Form) (cs : List Char) :
    takeAny? forms cs = forms.findSome? (·.fit? cs) := rfl

theorem Form.fit?_eq_some_iff :
    form.fit? cs = some number ↔ ∃ right, cs = number ++ right ∧ form.Fits number right := by
  constructor
  · intro h
    unfold fit? at h
    split at h
    · rename_i taken rest htake
      split at h
      · rename_i hcloses
        obtain rfl := Option.some.inj h
        obtain ⟨hwritten, hcs⟩ := take?_eq_some_iff.1 htake
        exact ⟨rest, hcs, hwritten, hcloses⟩
      · cases h
    · cases h
  · rintro ⟨right, rfl, hwritten, hcloses⟩
    have htake := take?_eq_some_iff.2 ⟨hwritten, (rfl : number ++ right = number ++ right)⟩
    rw [fit?, htake]
    exact if_pos hcloses

theorem takeAny?_eq_none_iff :
    takeAny? forms cs = none ↔
      ∀ form ∈ forms, ∀ number right, cs = number ++ right → ¬ form.Fits number right := by
  rw [takeAny?_eq_findSome?, List.findSome?_eq_none_iff]
  constructor
  · intro h form hform number right hcs hfits
    have hsome := Form.fit?_eq_some_iff.2 ⟨right, hcs, hfits⟩
    rw [h form hform] at hsome
    cases hsome
  · intro h form hform
    by_contra hne
    obtain ⟨number, hsome⟩ := Option.ne_none_iff_exists'.1 hne
    obtain ⟨right, hcs, hfits⟩ := Form.fit?_eq_some_iff.1 hsome
    exact h form hform number right hcs hfits

/-- The number that `takeAny?` takes in one place is the longest that fits there. -/
theorem exists_longest_of_takeAny? (hforms : forms.Sublist allForms)
    (h : takeAny? forms cs = some number) :
    ∃ form ∈ forms, ∃ right, cs = number ++ right ∧ form.Fits number right ∧
      ∀ form' ∈ forms, ∀ number' right', cs = number' ++ right' → form'.Fits number' right' →
        number'.length ≤ number.length := by
  rw [takeAny?_eq_findSome?] at h
  obtain ⟨earlier, form, later, rfl, hfit, hearlier⟩ := List.findSome?_eq_some_iff.1 h
  obtain ⟨right, hcs, hfits⟩ := Form.fit?_eq_some_iff.1 hfit
  have hmem : form ∈ earlier ++ form :: later := by simp
  refine ⟨form, hmem, right, hcs, hfits, ?_⟩
  intro form' hmem' number' right' hcs' hfits'
  -- both numbers begin with the digits that the text begins with
  have hlead : form.lead = form'.lead := by
    rw [← hfits.leading_eq (lead_pos_of_mem (hforms.subset hmem)),
      ← hfits'.leading_eq (lead_pos_of_mem (hforms.subset hmem')), ← hcs, ← hcs']
  rw [hfits.written.length_eq, hfits'.written.length_eq]
  rcases List.mem_append.1 hmem' with hmem' | hmem'
  · have hnone := hearlier form' hmem'
    rw [Form.fit?_eq_some_iff.2 ⟨right', hcs', hfits'⟩] at hnone
    cases hnone
  · rcases List.mem_cons.1 hmem' with rfl | hmem'
    · exact Nat.le_refl _
    · have hpairwise := pairwise_allForms.sublist hforms
      have hranked := (List.pairwise_append.1 hpairwise).2.1
      exact (List.pairwise_cons.1 hranked).1 form' hmem' hlead

/-! ## All places of a message -/

theorem Form.Fits.head?_eq {c : Char} (h : form.Fits number right) (hform : form ∈ allForms)
    (hcs : c :: cs = number ++ right) : number.head? = some c := by
  obtain ⟨d, ds, rfl, _⟩ := h.written.exists_cons (lead_pos_of_mem hform)
  rw [(List.cons.inj hcs).1, List.head?_cons]

/-- What the search takes in the place before `c`. -/
def takeHere? (forms : List Form) (before : Option Char) (c : Char) (cs : List Char) :
    Option (List Char) :=
  if isBoundary before (some c) then takeAny? forms (c :: cs) else none

theorem find?_cons (forms : List Form) (before : Option Char) (c : Char) (cs : List Char) :
    find? forms before (c :: cs) =
      (takeHere? forms before c cs).or (find? forms (some c) cs) := rfl

variable (hforms : forms.Sublist allForms)
include hforms

theorem takeHere?_eq_none_iff {c : Char} :
    takeHere? forms left.getLast? c cs = none ↔
      ∀ number right, c :: cs = number ++ right → ¬ Stands forms left number right := by
  unfold takeHere?
  split
  · rename_i hboundary
    rw [takeAny?_eq_none_iff]
    constructor
    · rintro h number right hcs ⟨form, hform, hfits, _⟩
      exact h form hform number right hcs hfits
    · intro h form hform number right hcs hfits
      apply h number right hcs
      refine ⟨form, hform, hfits, ?_⟩
      rwa [hfits.head?_eq (hforms.subset hform) hcs]
  · rename_i hboundary
    refine ⟨fun _ => ?_, fun _ => rfl⟩
    rintro number right hcs ⟨form, hform, hfits, hopens⟩
    rw [hfits.head?_eq (hforms.subset hform) hcs] at hopens
    exact hboundary hopens

theorem exists_longest_of_takeHere? {c : Char}
    (h : takeHere? forms left.getLast? c cs = some number) :
    ∃ right, c :: cs = number ++ right ∧ Stands forms left number right ∧
      ∀ number' right', c :: cs = number' ++ right' → Stands forms left number' right' →
        number'.length ≤ number.length := by
  unfold takeHere? at h
  split at h
  case isFalse => cases h
  case isTrue hboundary =>
    obtain ⟨form, hform, right, hcs, hfits, hlongest⟩ := exists_longest_of_takeAny? hforms h
    refine ⟨right, hcs, ⟨form, hform, hfits, ?_⟩, ?_⟩
    · rwa [hfits.head?_eq (hforms.subset hform) hcs]
    · rintro number' right' hcs' ⟨form', hform', hfits', _⟩
      exact hlongest form' hform' number' right' hcs' hfits'

/-- The search finds nothing exactly if no number stands in what is left of the message. -/
theorem find?_eq_none_iff (left : List Char) :
    find? forms left.getLast? cs = none ↔ ∀ skipped number right,
      cs = skipped ++ number ++ right → ¬ Stands forms (left ++ skipped) number right := by
  induction cs generalizing left with
  | nil =>
    refine ⟨fun _ => ?_, fun _ => rfl⟩
    rintro skipped number right hcs ⟨form, hform, hfits, _⟩
    obtain ⟨c, ds, rfl, _⟩ := hfits.written.exists_cons (lead_pos_of_mem (hforms.subset hform))
    simp at hcs
  | cons c cs ih =>
    have hlast : some c = (left ++ [c]).getLast? := by simp
    rw [find?_cons, Option.or_eq_none_iff, takeHere?_eq_none_iff hforms, hlast, ih]
    constructor
    · rintro ⟨hhere, hthere⟩ skipped number right hcs
      cases skipped with
      | nil =>
        rw [List.append_nil]
        exact hhere number right hcs
      | cons d skipped =>
        obtain ⟨rfl, htail⟩ := List.cons.inj hcs
        have hnot := hthere skipped number right htail
        rwa [List.append_assoc, List.singleton_append] at hnot
    · intro h
      constructor
      · intro number right hcs
        have hnot := h [] number right hcs
        rwa [List.append_nil] at hnot
      · intro skipped number right hcs
        rw [List.append_assoc, List.singleton_append]
        exact h (c :: skipped) number right (by rw [hcs]; rfl)

/-- What `find?` finds is the first number in what is left of the message. -/
theorem exists_of_find? (left : List Char) (h : find? forms left.getLast? cs = some number) :
    ∃ skipped right, cs = skipped ++ number ++ right ∧
      Stands forms (left ++ skipped) number right ∧
      (∀ skipped' number' right', cs = skipped' ++ number' ++ right' →
        Stands forms (left ++ skipped') number' right' → skipped.length ≤ skipped'.length) ∧
      ∀ number' right', number' ++ right' = number ++ right →
        Stands forms (left ++ skipped) number' right' → number'.length ≤ number.length := by
  induction cs generalizing left with
  | nil => cases h
  | cons c cs ih =>
    have hlast : some c = (left ++ [c]).getLast? := by simp
    rw [find?_cons, Option.or_eq_some_iff] at h
    rcases h with hhere | ⟨hnone, hthere⟩
    · obtain ⟨right, hcs, hstands, hlongest⟩ := exists_longest_of_takeHere? hforms hhere
      refine ⟨[], right, hcs, ?_, fun _ _ _ _ _ => Nat.zero_le _, ?_⟩
      · rwa [List.append_nil]
      · intro number' right' hsplit hstands'
        rw [List.append_nil] at hstands'
        exact hlongest number' right' (hcs.trans hsplit.symm) hstands'
    · rw [hlast] at hthere
      obtain ⟨skipped, right, hcs, hstands, hleftmost, hlongest⟩ := ih _ hthere
      rw [List.append_assoc, List.singleton_append] at hstands hlongest
      refine ⟨c :: skipped, right, by rw [hcs]; rfl, hstands, ?_, hlongest⟩
      intro skipped' number' right' hcs' hstands'
      cases skipped' with
      | nil =>
        -- nothing was found in this place
        rw [List.append_nil] at hstands'
        exact absurd hstands' ((takeHere?_eq_none_iff hforms).1 hnone number' right' hcs')
      | cons d skipped' =>
        obtain ⟨rfl, htail⟩ := List.cons.inj hcs'
        have hstands'' : Stands forms (left ++ [c] ++ skipped') number' right' := by
          rwa [List.append_assoc, List.singleton_append]
        exact Nat.succ_le_succ (hleftmost skipped' number' right' htail hstands'')

/-! ## The whole message -/

variable {message : List Char}

omit hforms in
/-- A message has at most one first number. -/
theorem IsFirst.unique {left' number' right' : List Char} (h : IsFirst forms left number right)
    (h' : IsFirst forms left' number' right')
    (hsplit : left ++ number ++ right = left' ++ number' ++ right') :
    left = left' ∧ number = number' ∧ right = right' := by
  have hleft : left.length = left'.length :=
    Nat.le_antisymm (h.leftmost left' number' right' hsplit.symm h'.stands)
      (h'.leftmost left number right hsplit h.stands)
  rw [List.append_assoc, List.append_assoc] at hsplit
  obtain ⟨rfl, hrest⟩ := List.append_inj hsplit hleft
  have hnumber : number.length = number'.length :=
    Nat.le_antisymm (h'.longest number right hrest h.stands)
      (h.longest number' right' hrest.symm h'.stands)
  obtain ⟨rfl, rfl⟩ := List.append_inj hrest hnumber
  exact ⟨rfl, rfl, rfl⟩

theorem find?_message_eq_none_iff :
    find? forms none message = none ↔ ∀ left number right, message = left ++ number ++ right →
      ¬ Stands forms left number right :=
  find?_eq_none_iff hforms []

/-- `find?` finds the first number of a message. -/
theorem find?_message_eq_some_iff :
    find? forms none message = some number ↔
      ∃ left right, message = left ++ number ++ right ∧ IsFirst forms left number right := by
  have hfirst : ∀ number, find? forms none message = some number →
      ∃ left right, message = left ++ number ++ right ∧ IsFirst forms left number right := by
    intro number h
    obtain ⟨left, right, hmessage, hstands, hleftmost, hlongest⟩ :=
      exists_of_find? hforms [] h
    refine ⟨left, right, hmessage, hstands, ?_, hlongest⟩
    intro left' number' right' hsplit
    exact hleftmost left' number' right' (hmessage.trans hsplit.symm)
  refine ⟨hfirst number, ?_⟩
  rintro ⟨left, right, rfl, h⟩
  cases hfind : find? forms none (left ++ number ++ right) with
  | none =>
    exact absurd h.stands ((find?_message_eq_none_iff hforms).1 hfind left number right rfl)
  | some number' =>
    obtain ⟨left', right', hsplit, h'⟩ := hfirst number' hfind
    rw [(h.unique h' hsplit).2.1]

end

end Dunning.Document
