import Dunning.Proofs.Document.Extraction
import Dunning.Proofs.Document.Runs
import Dunning.Proofs.Routing

/-!
# When a document is missed

A message in which seven to ten ASCII digits stand by themselves (`IsRun`) holds a valid document.
The search `extract?` stops at the first number, though, and gives up when no document can be made
of that one (`IsUnusable`). So the digits are missed exactly if such a number stands further left.
Nothing else comes in between: the first number of the message either is the run of digits or ends
before it.
-/

namespace Dunning.Document

open Text

/-- A `number` of which no document can be made. -/
inductive IsUnusable (number : List Char) : Prop where
  /-- With digits of another script, too few ASCII digits are left. -/
  | foreign (c : Char) (hmem : c ∈ number) (hdigit : isDecimalDigit c = true)
      (hforeign : c.isDigit = false) (few : (number.filter Char.isDigit).length < 7)
  /-- Two or three digits before three groups of three are too many. -/
  | long (first : Nat) (hfirst : 2 ≤ first) (written : (Form.dotted first 3).Writes number)
      (many : 10 < (number.filter Char.isDigit).length)

section
variable {form : Form} {number : List Char}

/-! ## How many digits a number has -/

/-- The number of digits in the numbers that the form writes. -/
def Form.digits : Form → Nat
  | dotted first groups => first + 3 * groups
  | plain n => n

theorem IsDigits.countP_eq {n : Nat} {ds : List Char} (h : IsDigits n ds) :
    ds.countP isDecimalDigit = n := by
  rw [List.countP_eq_length.2 h.2, h.1]

theorem IsGroups.countP_eq {n : Nat} {gs : List Char} (h : IsGroups n gs) :
    gs.countP isDecimalDigit = 3 * n := by
  induction h with
  | none => rfl
  | more digits _ ih =>
    rw [List.cons_append, List.countP_cons, List.countP_append, digits.countP_eq, ih,
      isDecimalDigit_dot]
    simp only [Bool.false_eq_true, if_false]
    omega

theorem Form.Writes.countP_eq (h : form.Writes number) :
    number.countP isDecimalDigit = form.digits := by
  cases h with
  | dotted digits rest => rw [List.countP_append, digits.countP_eq, rest.countP_eq, Form.digits]
  | plain digits => exact digits.countP_eq

/-- Too few or too many ASCII digits are what makes a number unusable. -/
theorem Form.Writes.isUnusable_iff (h : form.Writes number) (hform : form ∈ allForms) :
    IsUnusable number ↔
      ¬ (7 ≤ (number.filter Char.isDigit).length ∧ (number.filter Char.isDigit).length ≤ 10) := by
  have hcount := h.countP_eq
  have hdigits : 7 ≤ form.digits := by
    have hall : ∀ form ∈ allForms, 7 ≤ form.digits := by decide
    exact hall form hform
  constructor
  · rintro (⟨_, _, _, _, few⟩ | ⟨_, _, _, many⟩)
    · omega
    · omega
  · intro hlength
    rw [← List.countP_eq_length_filter] at hlength
    by_cases hfew : number.countP Char.isDigit < 7
    · -- otherwise the ASCII digits would be all digits of the number
      have hforeign : ∃ c ∈ number, isDecimalDigit c = true ∧ c.isDigit = false := by
        by_contra hnone
        have hle : number.countP isDecimalDigit ≤ number.countP Char.isDigit := by
          apply List.countP_mono_left
          intro c hc hdigit
          by_contra hascii
          exact hnone ⟨c, hc, hdigit, by simpa using hascii⟩
        omega
      obtain ⟨c, hc, hdigit, hascii⟩ := hforeign
      exact .foreign c hc hdigit hascii (by rwa [← List.countP_eq_length_filter])
    · have hle : number.countP Char.isDigit ≤ number.countP isDecimalDigit :=
        List.countP_mono_left fun c _ hc => isDecimalDigit_of_isDigit hc
      have hmany : 10 < form.digits := by omega
      rcases eq_dotted_or_plain_of_mem hform with
        ⟨first, groups, rfl, _, hfirst, _, hgroups⟩ | ⟨n, rfl, _, hn⟩
      · rw [Form.digits] at hmany
        obtain rfl : groups = 3 := by omega
        exact .long first (by omega) h (by rw [← List.countP_eq_length_filter]; omega)
      · rw [Form.digits] at hmany
        omega

end

/-! ## Messages with a run of digits -/

variable {message : String} {left run right : List Char}

theorem isMentioned_of_isRun (hmessage : message.toList = left ++ run ++ right)
    (h : IsRun left run right) : isMentioned message = true :=
  isMentioned_iff.2 ⟨left, run, right, hmessage, h⟩

/-- `extract?` finds nothing exactly if the message has no number or an unusable one comes first. -/
theorem extract?_eq_none_iff :
    extract? message = none ↔ ∀ left number right, message.toList = left ++ number ++ right →
      IsFirst allForms left number right → IsUnusable number := by
  constructor
  · intro h left number right hmessage hfirst
    obtain ⟨form, hform, hfits, -⟩ := hfirst.stands
    rw [hfits.written.isUnusable_iff hform]
    intro hlength
    have hsome : extract? message = some (String.ofList (number.filter Char.isDigit)) := by
      rw [extract?_eq_some_iff, String.toList_ofList]
      exact ⟨left, number, right, hmessage, hfirst, rfl, hlength⟩
    rw [h] at hsome
    cases hsome
  · intro h
    by_contra hne
    obtain ⟨document, hsome⟩ := Option.ne_none_iff_exists'.1 hne
    obtain ⟨left, number, right, hmessage, hfirst, hdigits, hlength⟩ := extract?_eq_some_iff.1 hsome
    obtain ⟨form, hform, hfits, -⟩ := hfirst.stands
    refine (hfits.written.isUnusable_iff hform).1 (h left number right hmessage hfirst) ?_
    rw [hdigits]
    exact hlength

theorem IsRun.exists_isFirst (h : IsRun left run right)
    (hmessage : message.toList = left ++ run ++ right) :
    ∃ left' number right', message.toList = left' ++ number ++ right' ∧
      IsFirst allForms left' number right' := by
  have hforms : allForms.Sublist allForms := List.Sublist.refl allForms
  obtain ⟨form, hplain, hstands⟩ := h.stands
  have hne : find? allForms none message.toList ≠ none := by
    intro hnone
    exact (find?_message_eq_none_iff hforms).1 hnone left run right hmessage
      ⟨form, plainForms_sublist.subset hplain, hstands⟩
  obtain ⟨number, hnumber⟩ := Option.ne_none_iff_exists'.1 hne
  obtain ⟨left', right', hsplit, hfirst⟩ := (find?_message_eq_some_iff hforms).1 hnumber
  exact ⟨left', number, right', hsplit, hfirst⟩

/-- A `run` of ASCII digits is missed exactly if the first number of the message is an unusable one
that ends before it. -/
theorem IsRun.extract?_eq_none_iff (h : IsRun left run right)
    (hascii : ∀ c ∈ run, c.isDigit = true) (hmessage : message.toList = left ++ run ++ right) :
    extract? message = none ↔ ∃ before number between, left = before ++ number ++ between ∧
      IsFirst allForms before number (between ++ run ++ right) ∧ IsUnusable number := by
  obtain ⟨left', number, right', hsplit, hfirst⟩ := h.exists_isFirst hmessage
  obtain ⟨form, hform, hfits, -⟩ := hfirst.stands
  constructor
  · intro hnone
    have hunusable := Document.extract?_eq_none_iff.1 hnone left' number right' hsplit hfirst
    rcases h.eq_or_before hfirst (hsplit.symm.trans hmessage) with
      ⟨-, rfl, -⟩ | ⟨between, hleft, rfl⟩
    · -- the run itself can be used
      have hall : number.filter Char.isDigit = number := List.filter_eq_self.2 hascii
      rw [hfits.written.isUnusable_iff hform, hall] at hunusable
      exact absurd h.length hunusable
    · exact ⟨left', number, between, hleft, hfirst, hunusable⟩
  · rintro ⟨before, number', between, rfl, hfirst', hunusable⟩
    rw [Document.extract?_eq_none_iff]
    intro left'' number'' right'' hsplit'' hfirst''
    have hwhole : message.toList = before ++ number' ++ (between ++ run ++ right) := by
      rw [hmessage]
      simp only [List.append_assoc]
    obtain ⟨-, rfl, -⟩ := hfirst'.unique hfirst'' (hwhole.symm.trans hsplit'')
    exact hunusable

/-- A message with a `run` of seven to ten ASCII digits by themselves passes the check for a
document, in whatever context it is heard. A document is extracted from it, and stored before it is
heard, unless its first number ends before these digits and cannot be used (`IsUnusable`). -/
theorem extracts_of_isRun (h : IsRun left run right) (hascii : ∀ c ∈ run, c.isDigit = true)
    (hmessage : message.toList = left ++ run ++ right) :
    (∀ (ev : Evaluator) (c : Conversation),
      ev.evaluate "tiene_documento_valido" (c.heardLine message) = true) ∧
    (extract? message = none ↔ ∃ before number between, left = before ++ number ++ between ∧
      IsFirst allForms before number (between ++ run ++ right) ∧ IsUnusable number) ∧
    ∀ (c : Conversation) (document : String), extract? message = some document →
      (c.heardLine message).get? Routing.documentKey = some (.str document) := by
  refine ⟨?_, h.extract?_eq_none_iff hascii hmessage, ?_⟩
  · intro ev c
    have hheard : (c.heardLine message).message = message := Context.message_setMessage _ message
    have hname := ev.evaluate_name .hasValidDocument (c.heardLine message)
    rwa [Builtin.holds, hheard, isMentioned_of_isRun hmessage h, Bool.or_true] at hname
  · intro c document hdocument
    exact c.heardLine_document message hdocument

/-- Digits that are part of no longer number, after a number that is too short for a document. -/
theorem extracts_of_isRun_after_short_number :
    let left := "Vivo en la 12.345, mi número es ".toList
    let run := "1234567".toList
    let right := ", gracias".toList
    IsRun left run right ∧ (∀ c ∈ run, c.isDigit = true) ∧
    "Vivo en la 12.345, mi número es 1234567, gracias".toList = left ++ run ++ right ∧
    ∀ c : Conversation,
      (c.heardLine "Vivo en la 12.345, mi número es 1234567, gracias").get? Routing.documentKey
        = some (.str "1234567") := by
  intro left run right
  have hrun : IsRun left run right := by decide +kernel
  have hascii : ∀ c ∈ run, c.isDigit = true := List.all_eq_true.1 (by decide +kernel)
  have hmessage : "Vivo en la 12.345, mi número es 1234567, gracias".toList
      = left ++ run ++ right := by decide +kernel
  refine ⟨hrun, hascii, hmessage, ?_⟩
  intro c
  exact (extracts_of_isRun hrun hascii hmessage).2.2 c "1234567" (by decide +kernel)

/-- After the dotted number `12.345.678.901` with eleven digits the seven digits are missed. -/
theorem missed_after_long_number :
    let left := "12.345.678.901 ".toList
    let run := "1234567".toList
    IsRun left run [] ∧ (∀ c ∈ run, c.isDigit = true) ∧
    "12.345.678.901 1234567".toList = left ++ run ++ [] ∧
    extract? "12.345.678.901 1234567" = none := by
  intro left run
  have hascii : ∀ c ∈ run, c.isDigit = true := List.all_eq_true.1 (by decide +kernel)
  exact ⟨by decide +kernel, hascii, by decide +kernel, by decide +kernel⟩

end Dunning.Document
