import Dunning.Json.Text
import Dunning.Proofs.Text.Trim
import Mathlib.Data.String.Basic

/-!
# The two ends of a JSON text

A number is written with digits and a few marks (`IsNumeral`), none of which is blank and each of
which is one byte long. Every other value has its brackets, quotation marks or letters at both ends.
So there is nothing to trim at a compact text (`trims_compactList`), and what is left of it with
blanks around it is the text itself.
-/

namespace Dunning

namespace Decimal

/-- The characters other than digits that numbers are written with. -/
def marks : List Char := ['+', '-', '.', 'e', 'i', 'n', 'f', 'N', 'a']

/-- A character that numbers are written with: a digit or one of `marks`. -/
def IsNumeral (c : Char) : Prop :=
  c.isDigit = true ∨ c ∈ marks

variable {c : Char} {ds : List Char}

theorem isBlank_of_isNumeral (h : IsNumeral c) : Text.isBlank c = false := by
  obtain hdigit | hmark := h
  · exact Text.isBlank_of_isDigit hdigit
  · have hmarks : marks.all (!Text.isBlank ·) = true := by decide
    simpa using List.all_eq_true.1 hmarks c hmark

theorem utf8Size_of_isNumeral (h : IsNumeral c) : c.utf8Size = 1 := by
  obtain hdigit | hmark := h
  · have hrange := Text.toNat_of_isDigit hdigit
    have hsmall : c.val ≤ 0x7f := by
      rw [UInt32.le_iff_toNat_le]
      exact hrange.2.trans (by decide)
    exact if_pos hsmall
  · have hmarks : marks.all (·.utf8Size == 1) = true := by decide
    simpa using List.all_eq_true.1 hmarks c hmark

/-- A text of characters that are `IsNumeral` has as many bytes as characters. -/
theorem utf8Len_of_isNumeral (h : ∀ c ∈ ds, IsNumeral c) : String.utf8Len ds = ds.length := by
  induction ds with
  | nil => rfl
  | cons c ds ih =>
    obtain ⟨hc, hds⟩ := List.forall_mem_cons.1 h
    rw [String.utf8Len_cons, ih hds, utf8Size_of_isNumeral hc, List.length_cons]

/-! ## Numbers -/

theorem isNumeral_of_mem_digitsOf {n : Nat} (h : c ∈ digitsOf n) : IsNumeral c :=
  .inl (Nat.isDigit_of_mem_toDigits (by decide) (by decide) h)

theorem isNumeral_of_mem_positionalText {point : Int} {suffix : List Char}
    (hds : ∀ c ∈ ds, IsNumeral c) (hsuffix : ∀ c ∈ suffix, IsNumeral c)
    (h : c ∈ positionalText ds point suffix) : IsNumeral c := by
  have hzero : IsNumeral '0' := .inl (by decide)
  have hpoint : IsNumeral '.' := .inr (by decide)
  have hzeros : ∀ n, ∀ c ∈ List.replicate n '0', IsNumeral c := by
    intro n c hc
    rwa [List.eq_of_mem_replicate hc]
  revert h
  revert c
  unfold positionalText
  split
  · simp only [List.forall_mem_cons, List.forall_mem_append]
    exact ⟨hzero, hpoint, hzeros _, hds⟩
  · split
    · simp only [List.forall_mem_cons, List.forall_mem_append]
      exact ⟨fun c hc => hds c (List.mem_of_mem_take hc), hpoint,
        fun c hc => hds c (List.mem_of_mem_drop hc)⟩
    · simp only [List.forall_mem_append]
      exact ⟨⟨hds, hzeros _⟩, hsuffix⟩

theorem isNumeral_of_mem_scientificText {exponent : Int} (hds : ∀ c ∈ ds, IsNumeral c)
    (h : c ∈ scientificText ds exponent) : IsNumeral c := by
  revert h
  revert c
  unfold scientificText
  simp only [List.forall_mem_cons, List.forall_mem_append]
  refine ⟨⟨fun c hc => hds c (List.mem_of_mem_take hc), ?_⟩, .inr (by decide), ?_,
    fun c hc => isNumeral_of_mem_digitsOf hc⟩
  · split
    · simp
    · simp only [List.forall_mem_cons]
      exact ⟨.inr (by decide), fun c hc => hds c (List.mem_of_mem_drop hc)⟩
  · split <;> exact .inr (by decide)

variable {layout : Layout}

theorem isNumeral_of_mem_magnitude (hsuffix : ∀ c ∈ layout.wholeSuffix, IsNumeral c) {b : Binary}
    (h : c ∈ layout.magnitude b) : IsNumeral c := by
  unfold Layout.magnitude at h
  split at h
  · obtain rfl | h := List.mem_cons.1 h
    · exact .inl (by decide)
    · exact hsuffix c h
  · dsimp only at h
    split at h
    · exact isNumeral_of_mem_positionalText (fun _ => isNumeral_of_mem_digitsOf) hsuffix h
    · exact isNumeral_of_mem_scientificText (fun _ => isNumeral_of_mem_digitsOf) h

theorem isNumeral_of_mem_layout (hsuffix : ∀ c ∈ layout.wholeSuffix, IsNumeral c) {x : Float}
    (h : c ∈ layout.textList x) : IsNumeral c := by
  unfold Layout.textList at h
  split at h
  · obtain h | h := List.mem_append.1 h
    · split at h
      · obtain rfl := List.mem_singleton.1 h
        exact .inr (by decide)
      · cases h
    · exact isNumeral_of_mem_magnitude hsuffix h
  · refine .inr ((?_ : (_ : List Char) ⊆ marks) h)
    split
    · decide
    · split <;> decide

end Decimal

open Decimal

theorem Number.isNumeral_of_mem_textList {n : Number} {c : Char} (h : c ∈ n.textList) :
    IsNumeral c := by
  cases n with
  | whole n =>
    rw [textList, intText] at h
    split at h
    · obtain rfl | h := List.mem_cons.1 h
      · exact .inr (by decide)
      · exact isNumeral_of_mem_digitsOf h
    · exact isNumeral_of_mem_digitsOf h
  | double x =>
    have hsuffix : ∀ c ∈ Layout.json.wholeSuffix, IsNumeral c := by
      simp only [Layout.json, List.forall_mem_cons]
      exact ⟨.inr (by decide), .inl (by decide), by simp⟩
    exact isNumeral_of_mem_layout hsuffix h

/-- The text of the number `n` has as many bytes as characters. -/
theorem Number.utf8ByteSize_textList (n : Number) :
    (String.ofList n.textList).utf8ByteSize = n.textList.length := by
  rw [String.utf8ByteSize_ofList]
  exact utf8Len_of_isNumeral fun _ => isNumeral_of_mem_textList

namespace Json

/-! ## Other values -/

theorem getLast?_compactItems (items : List Json) : (compactItems items).getLast? = some ']' := by
  induction items with
  | nil => rfl
  | cons item items ih =>
    rw [compactItems, ← List.cons_append, List.getLast?_append, ih, Option.some_or]

theorem getLast?_compactMembers (members : List (String × Json)) :
    (compactMembers members).getLast? = some '\x7d' := by
  induction members with
  | nil => rfl
  | cons member members ih =>
    obtain ⟨name, value⟩ := member
    rw [compactMembers, ← List.cons_append, ← List.cons_append, ← List.append_assoc,
      List.getLast?_append, ih, Option.some_or]

/-- A compact text (`compactList`) neither begins nor ends with a blank. -/
theorem trims_compactList (value : Json) : Text.Trims (compactList value) (compactList value) := by
  cases value with
  | null => exact Text.trimList_eq_iff.1 (by rfl)
  | bool b => cases b <;> exact Text.trimList_eq_iff.1 (by rfl)
  | num n =>
    exact Text.trimList_eq_iff.1
      (Text.trimList_of_solid fun c hc => isBlank_of_isNumeral (n.isNumeral_of_mem_textList hc))
  | str s => exact Text.trims_enclosed (by decide) (by decide) List.getLast?_concat
  | arr items =>
    cases items with
    | nil => exact Text.trimList_eq_iff.1 (by rfl)
    | cons item items =>
      apply Text.trims_enclosed (by decide) (by decide : Text.isBlank ']' = false)
      rw [List.getLast?_append, getLast?_compactItems, Option.some_or]
  | obj members =>
    cases members with
    | nil => exact Text.trimList_eq_iff.1 (by rfl)
    | cons member members =>
      obtain ⟨name, value⟩ := member
      apply Text.trims_enclosed (by decide) (by decide : Text.isBlank '\x7d' = false)
      rw [← List.cons_append, ← List.append_assoc, List.getLast?_append, getLast?_compactMembers,
        Option.some_or]

end Json

end Dunning
