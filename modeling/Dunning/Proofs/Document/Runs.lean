import Dunning.Proofs.Document.Search

/-!
# Runs of digits

The plain numbers of a message are its maximal runs of word characters that consist of seven to ten
decimal digits (`IsRun`), so the search for one is a search for such a run (`isMentioned_iff`). No
other number overlaps a run: each group after a dot has three digits and then a dot or the end of
the number, and the run is longer than that.
-/

namespace Dunning.Document

open Text

/-- A maximal run of word characters that consists of seven to ten decimal digits; `left` and
`right` are the texts around it. -/
structure IsRun (left run right : List Char) : Prop where
  digits : ∀ c ∈ run, isDecimalDigit c = true
  length : 7 ≤ run.length ∧ run.length ≤ 10
  starts : ∀ c ∈ left.getLast?, isWordChar c = false
  ends : ∀ c ∈ right.head?, isWordChar c = false

instance (left run right : List Char) : Decidable (IsRun left run right) :=
  decidable_of_iff
    (run.all isDecimalDigit = true ∧ (7 ≤ run.length ∧ run.length ≤ 10) ∧
      left.getLast?.any isWordChar = false ∧ right.head?.any isWordChar = false) <| by
    rw [List.all_eq_true, Option.any_eq_false, Option.any_eq_false]
    exact ⟨fun ⟨hdigits, hlength, hstarts, hends⟩ => ⟨hdigits, hlength, hstarts, hends⟩,
      fun ⟨hdigits, hlength, hstarts, hends⟩ => ⟨hdigits, hlength, hstarts, hends⟩⟩

variable {form : Form} {left run right left' number right' : List Char}

/-- A run is a number of one of the `plainForms`. -/
theorem IsRun.stands (h : IsRun left run right) : Stands plainForms left run right := by
  obtain ⟨hshort, hlong⟩ := h.length
  have hmem : Form.plain run.length ∈ plainForms := by
    simp only [plainForms, List.mem_cons, Form.plain.injEq, List.not_mem_nil, or_false]
    omega
  have hne : run ≠ [] := List.ne_nil_of_length_pos (by omega)
  have hlast : isWordChar (run.getLast hne) = true :=
    isWordChar_of_isDecimalDigit (h.digits _ (List.getLast_mem hne))
  have hhead : isWordChar (run.head hne) = true :=
    isWordChar_of_isDecimalDigit (h.digits _ (List.head_mem hne))
  refine ⟨.plain run.length, hmem, ⟨.plain ⟨rfl, h.digits⟩, ?_⟩, ?_⟩
  · rw [List.getLast?_eq_some_getLast hne]
    exact (isBoundary_some_iff hlast right.head?).2 h.ends
  · rw [List.head?_eq_some_head hne]
    exact (isBoundary_of_some_iff hhead left.getLast?).2 h.starts

/-- A plain number of seven to ten digits is a run. -/
theorem isRun_of_stands (h : Stands plainForms left number right) : IsRun left number right := by
  obtain ⟨form, hform, hfits, hopens⟩ := h
  have hlead : 0 < form.lead := lead_pos_of_mem (plainForms_sublist.subset hform)
  have hplain : ∀ form ∈ plainForms, form = .plain form.size ∧ 7 ≤ form.size ∧ form.size ≤ 10 := by
    decide
  obtain ⟨hsize, hlength⟩ := hplain form hform
  obtain ⟨c, cs, hcons, hdigit⟩ := hfits.written.exists_cons hlead
  have hwritten := hfits.written
  rw [hsize] at hwritten
  constructor
  case digits =>
    cases hwritten with
    | plain digits => exact digits.2
  case length =>
    rw [hfits.written.length_eq]
    exact hlength
  case starts =>
    rw [hcons] at hopens
    exact (isBoundary_of_some_iff (isWordChar_of_isDecimalDigit hdigit) left.getLast?).1 hopens
  case ends => exact hfits.isWordChar_right hlead

theorem stands_plainForms_iff : Stands plainForms left number right ↔ IsRun left number right :=
  ⟨isRun_of_stands, IsRun.stands⟩

/-- `isMentioned` finds a plain number in a message exactly if the message holds a run. -/
theorem isMentioned_iff {message : String} : isMentioned message = true ↔
    ∃ left run right, message.toList = left ++ run ++ right ∧ IsRun left run right := by
  rw [isMentioned, Option.isSome_iff_ne_none, ne_eq, find?_message_eq_none_iff plainForms_sublist]
  simp only [stands_plainForms_iff, not_forall, not_not, exists_prop]

theorem IsRun.leading_eq (h : IsRun left run right) : leading (run ++ right) = run.length := by
  apply leading_append ⟨rfl, h.digits⟩
  intro c hc
  exact isDecimalDigit_of_not_isWordChar (h.ends c hc)

/-! ## Numbers beside a run -/

/-- A dot does not stand among digits. -/
theorem IsDigits.split_of_append_eq {n : Nat} {ds gs a b : List Char} (h : IsDigits n ds)
    (heq : ds ++ gs = a ++ '.' :: b) : ∃ a', a = ds ++ a' ∧ gs = a' ++ '.' :: b := by
  rcases List.append_eq_append_iff.1 heq with ⟨a', ha, hgs⟩ | ⟨ds', hds, hb⟩
  · exact ⟨a', ha, hgs⟩
  · cases ds' with
    | nil => exact ⟨[], by rw [hds, List.append_nil, List.append_nil], hb.symm⟩
    | cons c ds' =>
      obtain rfl : '.' = c := (List.cons.inj hb).1
      have hdot := h.2 '.' (by rw [hds]; simp)
      exact absurd rfl (ne_dot_of_isDecimalDigit hdot)

/-- A dot among groups is followed by three digits and then by more groups (`IsGroups`). -/
theorem IsGroups.after_dot {n : Nat} {gs a b : List Char} (h : IsGroups n gs)
    (heq : gs = a ++ '.' :: b) :
    ∃ ds gs' m, b = ds ++ gs' ∧ IsDigits 3 ds ∧ IsGroups m gs' := by
  induction h generalizing a with
  | none => simp at heq
  | @more n ds gs digits groups ih =>
    cases a with
    | nil => exact ⟨ds, gs, n, (List.cons.inj heq).2.symm, digits, groups⟩
    | cons c a =>
      obtain ⟨a', -, hgs⟩ := digits.split_of_append_eq (List.cons.inj heq).2
      exact ih hgs

theorem Form.Writes.after_dot {a b : List Char} (h : form.Writes number)
    (heq : number = a ++ '.' :: b) :
    ∃ ds gs m, b = ds ++ gs ∧ IsDigits 3 ds ∧ IsGroups m gs := by
  cases h with
  | dotted digits rest =>
    obtain ⟨a', -, hgs⟩ := digits.split_of_append_eq heq
    exact rest.after_dot hgs
  | plain digits =>
    have hdot := digits.2 '.' (by rw [heq]; simp)
    exact absurd rfl (ne_dot_of_isDecimalDigit hdot)

/-- After a dot of a number the text goes on with three digits, by `leading`. -/
theorem Form.Fits.leading_after_dot {a b : List Char} (h : form.Fits number right)
    (hlead : 0 < form.lead) (heq : number = a ++ '.' :: b) : leading (b ++ right) = 3 := by
  obtain ⟨ds, gs, m, rfl, hds, hgs⟩ := h.written.after_dot heq
  rw [List.append_assoc]
  apply leading_append hds
  apply hgs.isDecimalDigit_head?
  intro c hc
  exact isDecimalDigit_of_not_isWordChar (h.isWordChar_right hlead c hc)

/-- A number that begins where a run begins is the run. -/
theorem IsRun.eq_of_stands (h : IsRun left run right) (hstands : Stands allForms left number right')
    (hsplit : number ++ right' = run ++ right) : number = run ∧ right' = right := by
  obtain ⟨form, hform, hfits, -⟩ := hstands
  have hlead : form.lead = run.length := by
    rw [← hfits.leading_eq (lead_pos_of_mem hform), hsplit, h.leading_eq]
  have hplain : ∀ form ∈ allForms, 7 ≤ form.lead → form.size = form.lead := by decide
  have hlength : number.length = run.length := by
    rw [hfits.written.length_eq, hplain form hform (hlead ▸ h.length.1), hlead]
  exact List.append_inj hsplit hlength

/-- A number that begins before a run ends before it. -/
theorem IsRun.before_of_stands {skipped : List Char} (h : IsRun left run right)
    (hstands : Stands allForms left' number right') (hskipped : left = left' ++ skipped)
    (hne : skipped ≠ []) (hsplit : number ++ right' = skipped ++ (run ++ right)) :
    ∃ between, skipped = number ++ between ∧ right' = between ++ (run ++ right) := by
  obtain ⟨form, hform, hfits, -⟩ := hstands
  rcases List.append_eq_append_iff.1 hsplit with ⟨between, hbetween, hright⟩ | ⟨b, hnumber, hb⟩
  · exact ⟨between, hbetween, hright⟩
  · -- the number would go on past the character before the run, which can only be a dot
    have hlast : skipped.getLast? = some (skipped.getLast hne) := List.getLast?_eq_some_getLast hne
    have hword : isWordChar (skipped.getLast hne) = false := by
      apply h.starts
      rw [hskipped, List.getLast?_append, hlast]
      rfl
    have hmem : skipped.getLast hne ∈ number := by
      rw [hnumber]
      exact List.mem_append_left b (List.getLast_mem hne)
    have hdot : skipped.getLast hne = '.' := by
      rcases hfits.written.digit_or_dot _ hmem with hdigit | hdot
      · rw [isWordChar_of_isDecimalDigit hdigit] at hword
        cases hword
      · exact hdot
    have heq : number = skipped.dropLast ++ '.' :: b := by
      rw [hnumber, ← List.dropLast_append_getLast hne, hdot, List.dropLast_concat,
        List.append_assoc, List.singleton_append]
    -- three digits come after the dot, and seven or more begin there
    have hthree := hfits.leading_after_dot (lead_pos_of_mem hform) heq
    rw [← hb, h.leading_eq] at hthree
    have hlong := h.length.1
    omega

/-- The first number of a message with a `run` is the run, or it ends before the run. -/
theorem IsRun.eq_or_before (h : IsRun left run right)
    (hfirst : IsFirst allForms left' number right')
    (hsplit : left' ++ number ++ right' = left ++ run ++ right) :
    (left' = left ∧ number = run ∧ right' = right) ∨
      ∃ between, left = left' ++ number ++ between ∧ right' = between ++ run ++ right := by
  obtain ⟨form, hplain, hstands⟩ := h.stands
  have hle : left'.length ≤ left.length :=
    hfirst.leftmost left run right hsplit.symm ⟨form, plainForms_sublist.subset hplain, hstands⟩
  rw [List.append_assoc, List.append_assoc] at hsplit
  obtain ⟨skipped, hskipped, hrest⟩ : ∃ skipped, left = left' ++ skipped ∧
      number ++ right' = skipped ++ (run ++ right) := by
    rcases List.append_eq_append_iff.1 hsplit with ⟨skipped, hleft, hrest⟩ | ⟨c, hleft, hrest⟩
    · exact ⟨skipped, hleft, hrest⟩
    · have hlength := congrArg List.length hleft
      rw [List.length_append] at hlength
      obtain rfl : c = [] := List.eq_nil_of_length_eq_zero (by omega)
      exact ⟨[], by rw [hleft, List.append_nil, List.append_nil], hrest.symm⟩
  cases hcases : skipped with
  | nil =>
    subst hcases
    rw [List.append_nil] at hskipped
    subst hskipped
    obtain ⟨hnumber, hright⟩ := h.eq_of_stands hfirst.stands hrest
    exact .inl ⟨rfl, hnumber, hright⟩
  | cons c cs =>
    have hne : skipped ≠ [] := by simp [hcases]
    obtain ⟨between, hbetween, hright⟩ := h.before_of_stands hfirst.stands hskipped hne hrest
    refine .inr ⟨between, ?_, ?_⟩
    · rw [hskipped, hbetween, List.append_assoc]
    · rw [hright, List.append_assoc]

end Dunning.Document
