import Dunning.Text.Blank

/-!
# What the words of a text are

`Spells ws cs` says without any algorithm that `cs` is the words `ws` in order with blanks around
them: words are not empty, hold no blank, and two of them never touch. The main statement is that
`wordsList` gives the only words that a text spells (`wordsList_eq_iff`).
-/

namespace Dunning.Text

/-- `cs` is the words `ws` in order, with blanks before, between and after them. -/
inductive Spells : List (List Char) → List Char → Prop
  | done {gap : List Char} (blank : ∀ c ∈ gap, isBlank c = true) : Spells [] gap
  | word {gap w rest : List Char} {ws : List (List Char)} (blank : ∀ c ∈ gap, isBlank c = true)
      (filled : w ≠ []) (solid : ∀ c ∈ w, isBlank c = false)
      (apart : ∀ c ∈ rest.head?, isBlank c = true) (tail : Spells ws rest) :
      Spells (w :: ws) (gap ++ (w ++ rest))

/-! ## Reading off the words -/

theorem wordsList_of_blank {gap : List Char} (blank : ∀ c ∈ gap, isBlank c = true)
    (cs : List Char) : wordsList (gap ++ cs) = wordsList cs := by
  induction gap with
  | nil => rfl
  | cons c gap ih =>
    have hc : isBlank c = true := blank c List.mem_cons_self
    have hstep : wordsList (c :: (gap ++ cs)) = wordsList (gap ++ cs) := by
      simp [wordsList, List.splitOnP_cons_eq_if_modifyHead, hc]
    rw [List.cons_append, hstep]
    exact ih fun d hd => blank d (List.mem_cons_of_mem _ hd)

theorem wordsList_of_solid {w rest : List Char} (filled : w ≠ [])
    (solid : ∀ c ∈ w, isBlank c = false) (apart : ∀ c ∈ rest.head?, isBlank c = true) :
    wordsList (w ++ rest) = w :: wordsList rest := by
  cases rest with
  | nil => simp [wordsList, List.splitOnP_eq_singleton solid, filled]
  | cons b rest =>
    have hb : isBlank b = true := apart b rfl
    have hrest : wordsList (b :: rest) = wordsList rest :=
      wordsList_of_blank (show ∀ c ∈ [b], isBlank c = true by simpa using hb) rest
    rw [hrest]
    simp [wordsList, List.splitOnP_append_cons_of_forall_mem solid b hb, filled]

theorem Spells.wordsList_eq {ws : List (List Char)} {cs : List Char} (h : Spells ws cs) :
    wordsList cs = ws := by
  induction h with
  | @done gap blank => simpa [wordsList] using wordsList_of_blank blank []
  | word blank filled solid apart _ ih =>
    rw [wordsList_of_blank blank, wordsList_of_solid filled solid apart, ih]

/-! ## Every text spells some words -/

theorem Spells.blank_cons {ws : List (List Char)} {cs : List Char} {c : Char}
    (hc : isBlank c = true) (h : Spells ws cs) : Spells ws (c :: cs) := by
  have hgap : ∀ {gap : List Char}, (∀ d ∈ gap, isBlank d = true) →
      ∀ d ∈ c :: gap, isBlank d = true := by
    intro gap blank d hd
    rcases List.mem_cons.1 hd with rfl | hd
    · exact hc
    · exact blank d hd
  cases h with
  | done blank => exact .done (hgap blank)
  | word blank filled solid apart tail => exact .word (hgap blank) filled solid apart tail

/-- A character `c` that is not blank begins a word of its own, or is added to the word that the
rest begins with. -/
theorem Spells.solid_cons {ws : List (List Char)} {cs : List Char} {c : Char}
    (hc : isBlank c = false) (h : Spells ws cs) : ∃ ws', Spells ws' (c :: cs) := by
  have hgap : ∀ d ∈ ([] : List Char), isBlank d = true := by simp
  have halone : (∀ d ∈ cs.head?, isBlank d = true) → Spells ([c] :: ws) ([] ++ ([c] ++ cs)) :=
    fun apart => .word hgap (by simp) (by simpa using hc) apart h
  cases h with
  | done blank => exact ⟨_, halone fun d hd => blank d (List.mem_of_mem_head? hd)⟩
  | @word gap w rest ws blank filled solid apart tail =>
    cases gap with
    | cons b gap => exact ⟨_, halone (by simpa using blank b List.mem_cons_self)⟩
    | nil =>
      have hsolid : ∀ d ∈ c :: w, isBlank d = false := by
        intro d hd
        rcases List.mem_cons.1 hd with rfl | hd
        · exact hc
        · exact solid d hd
      have hword : Spells ((c :: w) :: ws) ([] ++ ((c :: w) ++ rest)) :=
        .word hgap (by simp) hsolid apart tail
      exact ⟨_, hword⟩

theorem exists_spells (cs : List Char) : ∃ ws, Spells ws cs := by
  induction cs with
  | nil => exact ⟨[], .done (by simp)⟩
  | cons c cs ih =>
    obtain ⟨ws, h⟩ := ih
    cases hc : isBlank c with
    | true => exact ⟨ws, h.blank_cons hc⟩
    | false => exact h.solid_cons hc

/-- The words of a text are the only ones that it `Spells`. -/
theorem wordsList_eq_iff {ws : List (List Char)} {cs : List Char} :
    wordsList cs = ws ↔ Spells ws cs := by
  refine ⟨?_, Spells.wordsList_eq⟩
  rintro rfl
  obtain ⟨ws, h⟩ := exists_spells cs
  rwa [h.wordsList_eq]

theorem spells_words (s : String) : Spells ((words s).map String.toList) s.toList := by
  have hmap : (words s).map String.toList = wordsList s.toList := by
    simp [words, Function.comp_def]
  rw [hmap]
  exact wordsList_eq_iff.1 rfl

/-! ## Words by themselves -/

theorem Spells.solid_of_mem {ws : List (List Char)} {cs w : List Char} (h : Spells ws cs)
    (hw : w ∈ ws) : w ≠ [] ∧ ∀ c ∈ w, isBlank c = false := by
  induction h with
  | done blank => cases hw
  | word blank filled solid apart tail ih =>
    rcases List.mem_cons.1 hw with rfl | hw
    · exact ⟨filled, solid⟩
    · exact ih hw

/-- A word `w` of a text is a text of one word. -/
theorem words_of_mem_words {s w : String} (h : w ∈ words s) : words w = [w] := by
  obtain ⟨filled, solid⟩ := (spells_words s).solid_of_mem (List.mem_map_of_mem h)
  have hone : wordsList (w.toList ++ []) = [w.toList] :=
    wordsList_of_solid filled solid (by simp)
  rw [List.append_nil] at hone
  simp [words, hone]

end Dunning.Text
