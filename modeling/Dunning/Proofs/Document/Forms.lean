import Dunning.Document
import Mathlib.Data.List.Basic

/-!
# How document numbers are written

A number is digits only, or a first group of digits followed by groups of a dot and three digits
(`Form.Writes`). Reading a number off the front of a text by `Form.take?` is exactly the splitting
of the text into a number so written and the rest. Where a number ends at a word boundary, the
digits that it begins with end at its first dot or at its own end, so texts that begin alike have
first groups of one length.
-/

namespace Dunning.Text

/-- Whether each range of `inner` lies in a range of `outer`. -/
def Ranges.within (inner outer : Ranges) : Bool :=
  inner.all fun d => outer.any fun w => Nat.ble w.1 d.1 && Nat.ble d.2 w.2

theorem Ranges.contains_of_within {inner outer : Ranges} (h : inner.within outer = true) {c : Char}
    (hc : inner.contains c = true) : outer.contains c = true := by
  obtain ⟨d, hd, hrange⟩ := List.any_eq_true.1 hc
  obtain ⟨w, hw, hwithin⟩ := List.any_eq_true.1 (List.all_eq_true.1 h d hd)
  simp only [Bool.and_eq_true, decide_eq_true_eq, Nat.ble_eq] at hrange hwithin
  have hc' : w.1 ≤ c.toNat ∧ c.toNat ≤ w.2 := by omega
  exact List.any_eq_true.2 ⟨w, hw, by simp [hc']⟩

theorem isWordChar_of_isDecimalDigit {c : Char} (h : isDecimalDigit c = true) :
    isWordChar c = true := by
  have hwithin : decimalDigitRanges.within wordCharRanges = true := by decide +kernel
  exact Ranges.contains_of_within hwithin h

theorem isDecimalDigit_of_not_isWordChar {c : Char} (h : isWordChar c = false) :
    isDecimalDigit c = false := by
  by_contra hdigit
  rw [isWordChar_of_isDecimalDigit (by simpa using hdigit)] at h
  cases h

theorem isDecimalDigit_dot : isDecimalDigit '.' = false := by
  decide +kernel

theorem ne_dot_of_isDecimalDigit {c : Char} (h : isDecimalDigit c = true) : c ≠ '.' := by
  rintro rfl
  rw [isDecimalDigit_dot] at h
  cases h

end Dunning.Text

namespace Dunning.Document

open Text

/-- `cs` consists of `n` decimal digits. -/
def IsDigits (n : Nat) (cs : List Char) : Prop :=
  cs.length = n ∧ ∀ c ∈ cs, isDecimalDigit c = true

/-- `n` groups one after another, each a dot and three decimal digits. -/
inductive IsGroups : Nat → List Char → Prop where
  | none : IsGroups 0 []
  | more {n : Nat} {ds gs : List Char} (digits : IsDigits 3 ds) (groups : IsGroups n gs) :
      IsGroups (n + 1) ('.' :: ds ++ gs)

/-- The numbers that are written in a form. -/
inductive Form.Writes : Form → List Char → Prop where
  | dotted {first groups : Nat} {ds gs : List Char} (digits : IsDigits first ds)
      (rest : IsGroups groups gs) : Writes (.dotted first groups) (ds ++ gs)
  | plain {n : Nat} {ds : List Char} (digits : IsDigits n ds) : Writes (.plain n) ds

/-! ## Reading off the front -/

theorem isDigits_cons_iff {n : Nat} {c : Char} {ds : List Char} :
    IsDigits (n + 1) (c :: ds) ↔ isDecimalDigit c = true ∧ IsDigits n ds := by
  simp only [IsDigits, List.length_cons, Nat.add_right_cancel_iff, List.forall_mem_cons]
  tauto

theorem takeDigits?_eq_some_iff {n : Nat} {cs ds rest : List Char} :
    takeDigits? n cs = some (ds, rest) ↔ IsDigits n ds ∧ cs = ds ++ rest := by
  induction n generalizing cs ds with
  | zero =>
    cases ds with
    | nil => simp [takeDigits?, IsDigits]
    | cons d ds => simp [takeDigits?, IsDigits]
  | succ n ih =>
    cases ds with
    | nil => cases cs <;> simp [takeDigits?, IsDigits]
    | cons d ds =>
      cases cs with
      | nil => simp [takeDigits?]
      | cons c cs =>
        by_cases hc : isDecimalDigit c = true
        · simp only [takeDigits?, hc, if_true, Option.map_eq_some_iff, Prod.exists,
            isDigits_cons_iff, List.cons_append, List.cons.injEq, Prod.mk.injEq]
          grind
        · simp only [takeDigits?, hc, isDigits_cons_iff, List.cons_append, List.cons.injEq]
          grind

theorem takeGroups?_cons (n : Nat) (cs : List Char) :
    takeGroups? (n + 1) ('.' :: cs) = (takeDigits? 3 cs).bind fun group =>
      (takeGroups? n group.2).bind fun more => some ('.' :: group.1 ++ more.1, more.2) := rfl

theorem takeGroups?_append {n : Nat} {gs : List Char} (h : IsGroups n gs) (rest : List Char) :
    takeGroups? n (gs ++ rest) = some (gs, rest) := by
  induction h with
  | none => rfl
  | @more n ds gs hds _ ih =>
    have htake : takeDigits? 3 (ds ++ (gs ++ rest)) = some (ds, gs ++ rest) :=
      takeDigits?_eq_some_iff.2 ⟨hds, rfl⟩
    have hsplit : '.' :: ds ++ gs ++ rest = '.' :: (ds ++ (gs ++ rest)) := by simp
    rw [hsplit, takeGroups?_cons, htake, Option.bind_some, ih, Option.bind_some]

theorem takeGroups?_eq_some_iff {n : Nat} {cs gs rest : List Char} :
    takeGroups? n cs = some (gs, rest) ↔ IsGroups n gs ∧ cs = gs ++ rest := by
  constructor
  · intro h
    induction n generalizing cs gs rest with
    | zero =>
      obtain ⟨rfl, rfl⟩ := Prod.mk.inj (Option.some.inj h)
      exact ⟨.none, rfl⟩
    | succ n ih =>
      unfold takeGroups? at h
      split at h
      case h_1 heq => cases heq
      case h_3 => cases h
      case h_2 heq =>
        obtain rfl := Nat.succ.inj heq
        obtain ⟨⟨ds, cs'⟩, hds, h⟩ := Option.bind_eq_some_iff.1 h
        obtain ⟨⟨gs', rest'⟩, hgs, h⟩ := Option.bind_eq_some_iff.1 h
        obtain ⟨rfl, rfl⟩ := Prod.mk.inj (Option.some.inj h)
        obtain ⟨hdigits, rfl⟩ := takeDigits?_eq_some_iff.1 hds
        obtain ⟨hgroups, rfl⟩ := ih hgs
        exact ⟨.more hdigits hgroups, by simp⟩
  · rintro ⟨h, rfl⟩
    exact takeGroups?_append h rest

/-- `Form.take?` reads a number off the front exactly if the text begins with a number so written.
-/
theorem Form.take?_eq_some_iff {form : Form} {cs number rest : List Char} :
    form.take? cs = some (number, rest) ↔ form.Writes number ∧ cs = number ++ rest := by
  cases form with
  | dotted first groups =>
    constructor
    · intro h
      obtain ⟨⟨ds, cs'⟩, hds, h⟩ := Option.bind_eq_some_iff.1 h
      obtain ⟨⟨gs, rest'⟩, hgs, h⟩ := Option.bind_eq_some_iff.1 h
      obtain ⟨rfl, rfl⟩ := Prod.mk.inj (Option.some.inj h)
      obtain ⟨hdigits, rfl⟩ := takeDigits?_eq_some_iff.1 hds
      obtain ⟨hgroups, rfl⟩ := takeGroups?_eq_some_iff.1 hgs
      exact ⟨.dotted hdigits hgroups, by simp⟩
    · rintro ⟨h, rfl⟩
      cases h with
      | @dotted _ _ ds gs hdigits hgroups =>
        have hds : takeDigits? first (ds ++ gs ++ rest) = some (ds, gs ++ rest) :=
          takeDigits?_eq_some_iff.2 ⟨hdigits, by simp⟩
        show (takeDigits? first (ds ++ gs ++ rest)).bind _ = _
        rw [hds, Option.bind_some]
        show (takeGroups? groups (gs ++ rest)).bind _ = _
        rw [takeGroups?_append hgroups, Option.bind_some]
  | plain n =>
    show takeDigits? n cs = some (number, rest) ↔ _
    rw [takeDigits?_eq_some_iff]
    constructor
    · rintro ⟨hdigits, rfl⟩
      exact ⟨.plain hdigits, rfl⟩
    · rintro ⟨h, rfl⟩
      cases h with
      | plain hdigits => exact ⟨hdigits, rfl⟩

/-! ## Lengths -/

/-- The length of the numbers that are written in a form. -/
def Form.size : Form → Nat
  | dotted first groups => first + 4 * groups
  | plain n => n

/-- The number of digits that stand before the first dot. -/
def Form.lead : Form → Nat
  | dotted first _ => first
  | plain n => n

theorem IsGroups.length_eq {n : Nat} {gs : List Char} (h : IsGroups n gs) : gs.length = 4 * n := by
  induction h with
  | none => rfl
  | more digits _ ih =>
    have hds := digits.1
    simp only [List.cons_append, List.length_cons, List.length_append]
    omega

theorem Form.Writes.length_eq {form : Form} {number : List Char} (h : form.Writes number) :
    number.length = form.size := by
  cases h with
  | dotted digits rest => rw [List.length_append, digits.1, rest.length_eq, Form.size]
  | plain digits => exact digits.1

/-! ## Characters -/

theorem IsGroups.digit_or_dot {n : Nat} {gs : List Char} (h : IsGroups n gs) :
    ∀ c ∈ gs, isDecimalDigit c = true ∨ c = '.' := by
  induction h with
  | none => simp
  | more digits _ ih =>
    intro c hc
    simp only [List.cons_append, List.mem_cons, List.mem_append] at hc
    rcases hc with rfl | hc | hc
    · exact .inr rfl
    · exact .inl (digits.2 c hc)
    · exact ih c hc

theorem Form.Writes.digit_or_dot {form : Form} {number : List Char} (h : form.Writes number) :
    ∀ c ∈ number, isDecimalDigit c = true ∨ c = '.' := by
  cases h with
  | dotted digits rest =>
    intro c hc
    rcases List.mem_append.1 hc with hc | hc
    · exact .inl (digits.2 c hc)
    · exact rest.digit_or_dot c hc
  | plain digits => exact fun c hc => .inl (digits.2 c hc)

/-- The last character of a number is a digit. -/
theorem IsGroups.isDecimalDigit_getLast? {n : Nat} {gs : List Char} (h : IsGroups n gs) :
    ∀ c ∈ gs.getLast?, isDecimalDigit c = true := by
  induction h with
  | none => simp
  | @more n ds gs digits _ ih =>
    have hne : ds ≠ [] := List.ne_nil_of_length_eq_add_one digits.1
    intro c hc
    rw [List.getLast?_append, Option.mem_def, Option.or_eq_some_iff] at hc
    rcases hc with hc | ⟨_, hc⟩
    · exact ih c hc
    · rw [List.getLast?_cons_of_ne_nil hne] at hc
      exact digits.2 c (List.mem_of_getLast? hc)

theorem Form.Writes.isDecimalDigit_getLast? {form : Form} {number : List Char}
    (h : form.Writes number) : ∀ c ∈ number.getLast?, isDecimalDigit c = true := by
  cases h with
  | dotted digits rest =>
    intro c hc
    rw [List.getLast?_append, Option.mem_def, Option.or_eq_some_iff] at hc
    rcases hc with hc | ⟨_, hc⟩
    · exact rest.isDecimalDigit_getLast? c hc
    · exact digits.2 c (List.mem_of_getLast? hc)
  | plain digits => exact fun c hc => digits.2 c (List.mem_of_getLast? hc)

/-- A number begins with a digit, if `Form.lead` is not zero. -/
theorem Form.Writes.exists_cons {form : Form} {number : List Char} (h : form.Writes number)
    (hlead : 0 < form.lead) : ∃ c cs, number = c :: cs ∧ isDecimalDigit c = true := by
  cases h with
  | @dotted _ _ ds gs digits _ =>
    obtain ⟨c, cs, rfl⟩ := List.exists_cons_of_length_pos (digits.1 ▸ hlead)
    exact ⟨c, cs ++ gs, rfl, digits.2 c List.mem_cons_self⟩
  | plain digits =>
    obtain ⟨c, cs, rfl⟩ := List.exists_cons_of_length_pos (digits.1 ▸ hlead)
    exact ⟨c, cs, rfl, digits.2 c List.mem_cons_self⟩

/-! ## Word boundaries -/

theorem isBoundary_some_iff {c : Char} (h : isWordChar c = true) (after : Option Char) :
    isBoundary (some c) after = true ↔ ∀ d ∈ after, isWordChar d = false := by
  cases after <;> simp [isBoundary, h]

theorem isBoundary_of_some_iff {c : Char} (h : isWordChar c = true) (before : Option Char) :
    isBoundary before (some c) = true ↔ ∀ d ∈ before, isWordChar d = false := by
  cases before <;> simp [isBoundary, h]

/-- A number of a form that ends at a word boundary; `right` is the text after it. -/
structure Form.Fits (form : Form) (number right : List Char) : Prop where
  written : form.Writes number
  closes : isBoundary number.getLast? right.head? = true

theorem Form.Fits.isWordChar_right {form : Form} {number right : List Char}
    (h : form.Fits number right) (hlead : 0 < form.lead) :
    ∀ d ∈ right.head?, isWordChar d = false := by
  obtain ⟨c, cs, hnumber, _⟩ := h.written.exists_cons hlead
  obtain ⟨e, he⟩ : ∃ e, number.getLast? = some e := by
    rw [hnumber]
    exact ⟨_, List.getLast?_cons⟩
  have hword : isWordChar e = true :=
    isWordChar_of_isDecimalDigit (h.written.isDecimalDigit_getLast? e he)
  have hcloses := h.closes
  rwa [he, isBoundary_some_iff hword] at hcloses

/-! ## The digits that a text begins with -/

/-- The number of decimal digits that `cs` begins with. -/
def leading (cs : List Char) : Nat :=
  (cs.takeWhile isDecimalDigit).length

theorem leading_append {n : Nat} {ds rest : List Char} (hds : IsDigits n ds)
    (hrest : ∀ c ∈ rest.head?, isDecimalDigit c = false) : leading (ds ++ rest) = n := by
  have hstop : rest.takeWhile isDecimalDigit = [] := by
    cases rest with
    | nil => rfl
    | cons c cs => exact List.takeWhile_cons_of_neg (by simp [hrest c rfl])
  rw [leading, List.takeWhile_append_of_pos hds.2, hstop, List.append_nil, hds.1]

/-- After the digits of a group comes a dot or what follows the number. -/
theorem IsGroups.isDecimalDigit_head? {n : Nat} {gs right : List Char} (h : IsGroups n gs)
    (hright : ∀ c ∈ right.head?, isDecimalDigit c = false) :
    ∀ c ∈ (gs ++ right).head?, isDecimalDigit c = false := by
  cases h with
  | none => exact hright
  | more _ _ =>
    intro c hc
    obtain rfl : '.' = c := Option.some.inj hc
    exact isDecimalDigit_dot

/-- The text begins with as many digits as the number that `Fits` it has before its first dot. -/
theorem Form.Fits.leading_eq {form : Form} {number right : List Char} (h : form.Fits number right)
    (hlead : 0 < form.lead) : leading (number ++ right) = form.lead := by
  have hright : ∀ c ∈ right.head?, isDecimalDigit c = false := by
    intro c hc
    exact isDecimalDigit_of_not_isWordChar (h.isWordChar_right hlead c hc)
  obtain ⟨written, _⟩ := h
  cases written with
  | dotted digits rest =>
    rw [List.append_assoc]
    exact leading_append digits (rest.isDecimalDigit_head? hright)
  | plain digits => exact leading_append digits hright

end Dunning.Document
