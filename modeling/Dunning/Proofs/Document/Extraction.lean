import Dunning.Proofs.Document.Search

/-!
# What is extracted from a message

A document is made of the ASCII digits of the first number in a message (`extract?_eq_some_iff`).
The number itself may hold digits of any script, and those are lost: the document is the number
without its dots exactly if all digits of the number are ASCII digits (`renders_of_extract?`).
Otherwise a document may come out that stands nowhere in the message.
-/

namespace Dunning.Document

open Text

/-- `number` is `document` itself, or `document` with a dot before each of its last two or three
groups of three digits, where one to three digits come first. -/
def Renders (number document : List Char) : Prop :=
  number = document ∨
    ∃ first groups, 1 ≤ first ∧ first ≤ 3 ∧ 2 ≤ groups ∧ groups ≤ 3 ∧
      (Form.dotted first groups).Writes number ∧ number.filter (· ≠ '.') = document

/-- `document` stands in `message`, with a word boundary on either side. -/
def IsShown (document message : List Char) : Prop :=
  ∃ left number right, message = left ++ number ++ right ∧
    isBoundary left.getLast? number.head? = true ∧
    isBoundary number.getLast? right.head? = true ∧ Renders number document

/-! ## The digits of a number -/

section
variable {form : Form} {number document left right : List Char}

theorem eq_dotted_or_plain_of_mem (h : form ∈ allForms) :
    (∃ first groups, form = .dotted first groups ∧
      1 ≤ first ∧ first ≤ 3 ∧ 2 ≤ groups ∧ groups ≤ 3) ∨
    ∃ n, form = .plain n ∧ 7 ≤ n ∧ n ≤ 10 := by
  simp only [allForms, plainForms, List.cons_append, List.nil_append, List.mem_cons,
    List.not_mem_nil, or_false] at h
  rcases h with rfl | rfl | rfl | rfl | rfl | rfl | rfl | rfl | rfl | rfl <;> simp

/-- In a number with ASCII digits only, `Char.isDigit` leaves what is not a dot. -/
theorem Form.Writes.filter_isDigit_eq (h : form.Writes number)
    (hascii : ∀ c ∈ number, isDecimalDigit c = true → c.isDigit = true) :
    number.filter Char.isDigit = number.filter (· ≠ '.') := by
  apply List.filter_congr
  intro c hc
  rcases h.digit_or_dot c hc with hdigit | rfl
  · simp [hascii c hc hdigit, ne_dot_of_isDecimalDigit hdigit]
  · rfl

/-- A number `Renders` the document of its ASCII digits exactly if it has no other digits. -/
theorem Form.Writes.renders_iff (h : form.Writes number) (hform : form ∈ allForms) :
    Renders number (number.filter Char.isDigit) ↔
      ∀ c ∈ number, isDecimalDigit c = true → c.isDigit = true := by
  constructor
  · rintro (hplain | ⟨_, _, _, _, _, _, _, hdots⟩) c hc hdigit
    · rw [hplain] at hc
      exact (List.mem_filter.1 hc).2
    · have hmem : c ∈ number.filter (· ≠ '.') :=
        List.mem_filter.2 ⟨hc, by simpa using ne_dot_of_isDecimalDigit hdigit⟩
      rw [hdots] at hmem
      exact (List.mem_filter.1 hmem).2
  · intro hascii
    rcases eq_dotted_or_plain_of_mem hform with
      ⟨first, groups, rfl, hfirst, hfirst', hgroups, hgroups'⟩ | ⟨n, rfl, _, _⟩
    · right
      have hdots := (h.filter_isDigit_eq hascii).symm
      exact ⟨first, groups, hfirst, hfirst', hgroups, hgroups', h, hdots⟩
    · left
      cases h with
      | plain digits =>
        symm
        apply List.filter_eq_self.2
        intro c hc
        exact hascii c hc (digits.2 c hc)

end

/-! ## The document of a message -/

variable {message document : String}

/-- What `extract?` gives are the ASCII digits of the first number, if there are seven to ten. -/
theorem extract?_eq_some_iff :
    extract? message = some document ↔ ∃ left number right,
      message.toList = left ++ number ++ right ∧ IsFirst allForms left number right ∧
      number.filter Char.isDigit = document.toList ∧
      7 ≤ document.toList.length ∧ document.toList.length ≤ 10 := by
  unfold extract?
  constructor
  · intro h
    obtain ⟨digits, hdigits, hsome⟩ := Option.bind_eq_some_iff.1 h
    obtain ⟨number, hnumber, rfl⟩ := Option.map_eq_some_iff.1 hdigits
    obtain ⟨left, right, hmessage, hfirst⟩ :=
      (find?_message_eq_some_iff (List.Sublist.refl allForms)).1 hnumber
    split at hsome
    · rename_i hlength
      obtain rfl := Option.some.inj hsome
      rw [String.toList_ofList]
      exact ⟨left, number, right, hmessage, hfirst, rfl, hlength⟩
    · cases hsome
  · rintro ⟨left, number, right, hmessage, hfirst, hdigits, hlength⟩
    have hfind : find? allForms none message.toList = some number :=
      (find?_message_eq_some_iff (List.Sublist.refl allForms)).2 ⟨left, right, hmessage, hfirst⟩
    rw [hfind, Option.map_some, Option.bind_some, hdigits, if_pos hlength, String.ofList_toList]

/-- A document that was extracted consists of seven to ten ASCII digits. -/
theorem digits_of_extract? (h : extract? message = some document) :
    (∀ c ∈ document.toList, c.isDigit = true) ∧
      7 ≤ document.toList.length ∧ document.toList.length ≤ 10 := by
  obtain ⟨_, number, _, _, _, hdigits, hlength⟩ := extract?_eq_some_iff.1 h
  refine ⟨?_, hlength⟩
  intro c hc
  rw [← hdigits] at hc
  exact (List.mem_filter.1 hc).2

/-- The digits of a document that was extracted are the ASCII digits of the first number in the
message. That number `Renders` the document exactly if it has no other digits. -/
theorem renders_of_extract? (h : extract? message = some document) :
    ((∀ c ∈ document.toList, c.isDigit = true) ∧
      7 ≤ document.toList.length ∧ document.toList.length ≤ 10) ∧
    (∃ left number right, message.toList = left ++ number ++ right ∧
      IsFirst allForms left number right ∧ number.filter Char.isDigit = document.toList ∧
      (Renders number document.toList ↔
        ∀ c ∈ number, isDecimalDigit c = true → c.isDigit = true)) ∧
    ((∀ c ∈ message.toList, isDecimalDigit c = true → c.isDigit = true) →
      IsShown document.toList message.toList) := by
  obtain ⟨left, number, right, hmessage, hfirst, hdigits, -⟩ := extract?_eq_some_iff.1 h
  obtain ⟨form, hform, hfits, hopens⟩ := hfirst.stands
  have hrenders := hfits.written.renders_iff hform
  rw [hdigits] at hrenders
  refine ⟨digits_of_extract? h, ⟨left, number, right, hmessage, hfirst, hdigits, hrenders⟩, ?_⟩
  intro hascii
  refine ⟨left, number, right, hmessage, hopens, hfits.closes, hrenders.2 ?_⟩
  intro c hc
  have hmem : c ∈ message.toList := by
    rw [hmessage]
    simp [hc]
  exact hascii c hmem

/-- A document written with dots, among other words. -/
theorem renders_of_extract?_dotted :
    extract? "es 1.020.304.050, gracias" = some "1020304050" ∧
    IsShown "1020304050".toList "es 1.020.304.050, gracias".toList := by
  have h : extract? "es 1.020.304.050, gracias" = some "1020304050" := by decide +kernel
  refine ⟨h, (renders_of_extract? h).2.2 ?_⟩
  have hascii : "es 1.020.304.050, gracias".toList.all (fun c => !isDecimalDigit c || c.isDigit)
      = true := by decide +kernel
  intro c hc hdigit
  simpa [hdigit] using List.all_eq_true.1 hascii c hc

/-- Of seven ASCII digits with an eighth of another script, the seven are extracted, and there is no
word boundary after them. -/
theorem extracted_without_last_digit :
    extract? "1234567٨" = some "1234567" ∧
    ¬ IsShown "1234567".toList "1234567٨".toList := by
  refine ⟨by decide +kernel, ?_⟩
  rintro ⟨left, number, right, hmessage, _, hcloses, hrenders⟩
  have hnumber : number = "1234567".toList := by
    rcases hrenders with hplain | ⟨_, _, _, _, _, _, _, hdots⟩
    · exact hplain
    · -- no dots are there to be left out
      have hnone : '.' ∉ "1234567٨".toList := by decide +kernel
      have hsolid : ∀ c ∈ number, c ≠ '.' := by
        rintro c hc rfl
        apply hnone
        rw [hmessage]
        simp [hc]
      rwa [List.filter_eq_self.2 (by simpa using hsolid)] at hdots
  subst hnumber
  cases left with
  | nil =>
    have hsplit : "1234567".toList ++ ['٨'] = "1234567".toList ++ right := hmessage
    obtain rfl : ['٨'] = right := List.append_cancel_left hsplit
    revert hcloses
    decide +kernel
  | cons c left =>
    -- after the first character there is no room for more than the document
    have htail : left ++ "1234567".toList ++ right = "234567٨".toList :=
      (List.cons.inj hmessage).2.symm
    have hlength : left.length + 7 + right.length = 7 := by
      have h := congrArg List.length htail
      rwa [List.length_append, List.length_append] at h
    obtain rfl : left = [] := List.eq_nil_of_length_eq_zero (by omega)
    cases (List.cons.inj htail).1

end Dunning.Document
