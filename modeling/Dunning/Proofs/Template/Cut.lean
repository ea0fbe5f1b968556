import Dunning.Proofs.Template
import Mathlib.Data.List.TakeWhile

/-!
# How a template is cut

A placeholder is a name (`IsName`) between braces. A template is cut at its placeholders, all of
them, and what stands between is left as it is (`Cuts`). Names hold no braces, so two placeholders
never overlap, and there is only one way to cut a template (`existsUnique_cuts`).
-/

namespace Dunning.Template

/-- A letter from `A` to `Z` or from `a` to `z`, or an underscore. -/
def IsLetter (c : Char) : Prop :=
  'A' ≤ c ∧ c ≤ 'Z' ∨ 'a' ≤ c ∧ c ≤ 'z' ∨ c = '_'

/-- A digit from `0` to `9`. -/
def IsDigit (c : Char) : Prop :=
  '0' ≤ c ∧ c ≤ '9'

/-- The names that a placeholder may have: a letter or an underscore (`IsLetter`), then letters,
digits and underscores. -/
def IsName (name : String) : Prop :=
  ∃ c cs, name.toList = c :: cs ∧ IsLetter c ∧ ∀ d ∈ cs, IsLetter d ∨ IsDigit d

/-- `name` between braces. -/
def braced (name : String) : List Char :=
  '\x7b' :: (name.toList ++ ['\x7d'])

/-- A placeholder of `name` stands in the text `cs`. -/
def Occurs (name : String) (cs : List Char) : Prop :=
  IsName name ∧ ∃ left right, cs = left ++ braced name ++ right

/-- How a piece is written in a template. -/
def Piece.written : Piece → List Char
  | .literal c => [c]
  | .field name => braced name

/-- The pieces `ps` are the text `cs`, cut at its placeholders. -/
structure Cuts (cs : List Char) (ps : List Piece) : Prop where
  /-- The pieces are the text. -/
  written : ps.flatMap Piece.written = cs
  /-- Each `field` is a placeholder. -/
  named : ∀ name, .field name ∈ ps → IsName name
  /-- Each placeholder is a `field`, wherever it stands. -/
  complete : ∀ left name right, IsName name → cs = left ++ braced name ++ right →
    ∃ before after, ps = before ++ .field name :: after ∧
      before.flatMap Piece.written = left ∧ after.flatMap Piece.written = right

variable {c : Char} {cs left right after : List Char} {name other : String} {p : Piece}
  {ps : List Piece}

/-! ## Placeholders -/

theorem isNameStart_iff : isNameStart c = true ↔ IsLetter c := by
  have halpha : c.isAlpha =
      (decide ('A' ≤ c ∧ c ≤ 'Z') || decide ('a' ≤ c) && decide (c ≤ 'z')) := rfl
  simp only [isNameStart, halpha, IsLetter, Bool.or_eq_true, Bool.and_eq_true, decide_eq_true_eq]
  exact or_assoc

theorem isNameChar_iff : isNameChar c = true ↔ IsLetter c ∨ IsDigit c := by
  have halphanum : c.isAlphanum = (c.isAlpha || decide ('0' ≤ c) && decide (c ≤ '9')) := rfl
  rw [← isNameStart_iff]
  simp only [isNameChar, isNameStart, halphanum, IsDigit, Bool.or_eq_true, Bool.and_eq_true,
    decide_eq_true_eq]
  exact or_right_comm

theorem IsName.isNameChar (h : IsName name) : ∀ d ∈ name.toList, isNameChar d = true := by
  obtain ⟨c, cs, hname, hstart, hrest⟩ := h
  intro d hd
  rw [isNameChar_iff]
  rw [hname] at hd
  rcases List.mem_cons.1 hd with rfl | hd
  · exact .inl hstart
  · exact hrest d hd

/-- A placeholder has only one opening brace, the one that it begins with. -/
theorem IsName.not_mem_tail (h : IsName name) : '\x7b' ∉ name.toList ++ ['\x7d'] := by
  intro hmem
  rcases List.mem_append.1 hmem with hmem | hmem
  · have hbrace := h.isNameChar _ hmem
    revert hbrace
    decide
  · revert hmem
    decide

theorem placeholder?_eq_some_iff :
    placeholder? cs = some (name, after) ↔ IsName name ∧ cs = braced name ++ after := by
  constructor
  · intro h
    unfold placeholder? at h
    split at h
    case h_2 => cases h
    case h_1 c rest =>
      split at h
      case isFalse => cases h
      case isTrue hstart =>
        split at h
        case h_2 => cases h
        case h_1 after' hrest =>
          simp only [Option.some.injEq, Prod.mk.injEq] at h
          obtain ⟨rfl, rfl⟩ := h
          have hsplit : rest = rest.takeWhile isNameChar ++ '\x7d' :: after' := by
            rw [← hrest, List.takeWhile_append_dropWhile]
          refine ⟨⟨c, rest.takeWhile isNameChar, String.toList_ofList, isNameStart_iff.1 hstart, ?_⟩,
            ?_⟩
          · intro d hd
            exact isNameChar_iff.1 (List.mem_takeWhile_imp hd)
          · rw [braced, String.toList_ofList]
            simpa using hsplit
  · rintro ⟨⟨c, rest, hname, hletter, hletters⟩, rfl⟩
    have hstart := isNameStart_iff.2 hletter
    have hrest : ∀ d ∈ rest, isNameChar d = true := fun d hd => isNameChar_iff.2 (hletters d hd)
    have hbrace : ¬ isNameChar '\x7d' = true := by decide
    have htake : (rest ++ '\x7d' :: after).takeWhile isNameChar = rest := by
      rw [List.takeWhile_append_of_pos hrest, List.takeWhile_cons_of_neg hbrace, List.append_nil]
    have hdrop : (rest ++ '\x7d' :: after).dropWhile isNameChar = '\x7d' :: after := by
      rw [List.dropWhile_append_of_pos hrest, List.dropWhile_cons_of_neg hbrace]
    have htext : braced name ++ after = '\x7b' :: c :: (rest ++ '\x7d' :: after) := by
      simp [braced, hname]
    rw [htext]
    simp only [placeholder?, hstart, if_true, hdrop, htake]
    rw [← hname, String.ofList_toList]

/-- Of two placeholders the one that begins later, `braced other`, begins after the end of the
first. -/
theorem exists_of_braced_append_eq (hname : IsName name)
    (h : braced name ++ after = c :: cs ++ braced other ++ right) :
    ∃ between, c :: cs = braced name ++ between ∧ after = between ++ braced other ++ right := by
  rw [List.append_assoc] at h
  rcases List.append_eq_append_iff.1 h with ⟨between, hleft, hafter⟩ | ⟨inner, hinner, hother⟩
  · exact ⟨between, hleft, by rw [hafter, List.append_assoc]⟩
  · cases inner with
    | nil =>
      refine ⟨[], ?_, ?_⟩
      · rw [hinner, List.append_nil, List.append_nil]
      · rw [List.nil_append, hother, List.nil_append]
    | cons d inner =>
      -- the other one would begin inside the first, where there is no opening brace
      obtain rfl : '\x7b' = d := (List.cons.inj hother).1
      have htail : name.toList ++ ['\x7d'] = cs ++ '\x7b' :: inner := (List.cons.inj hinner).2
      have hmem : '\x7b' ∈ name.toList ++ ['\x7d'] := by
        rw [htail]
        simp
      exact absurd hmem hname.not_mem_tail

/-! ## The pieces of a text -/

theorem pieces_braced (h : IsName name) (after : List Char) :
    pieces (braced name ++ after) = .field name :: pieces after := by
  have hplaceholder : placeholder? (braced name ++ after) = some (name, after) :=
    placeholder?_eq_some_iff.2 ⟨h, rfl⟩
  show pieces ('\x7b' :: (name.toList ++ ['\x7d'] ++ after)) = _
  rw [pieces]
  split
  · rename_i hsome
    have heq := Option.some.inj (hplaceholder.symm.trans hsome)
    obtain ⟨rfl, rfl⟩ := Prod.mk.inj heq
    rfl
  · rename_i hnone
    cases hplaceholder.symm.trans hnone

/-- `pieces` cuts a text at a placeholder, and cuts what stands before it and after it by itself. -/
theorem pieces_append_braced (h : IsName name) (left right : List Char) :
    pieces (left ++ braced name ++ right) = pieces left ++ .field name :: pieces right := by
  fun_induction pieces left with
  | case1 => exact pieces_braced h right
  | case2 c cs first after hfirst ih =>
    obtain ⟨hname, htext⟩ := placeholder?_eq_some_iff.1 hfirst
    rw [htext, List.append_assoc, List.append_assoc, pieces_braced hname, ← List.append_assoc, ih]
    rfl
  | case3 c cs hnone ih =>
    have hnone' : placeholder? (c :: (cs ++ braced name ++ right)) = none := by
      by_contra hsome
      obtain ⟨⟨first, after⟩, hfirst⟩ := Option.ne_none_iff_exists'.1 hsome
      obtain ⟨hname, htext⟩ := placeholder?_eq_some_iff.1 hfirst
      obtain ⟨between, hcs, -⟩ := exists_of_braced_append_eq hname htext.symm
      rw [placeholder?_eq_some_iff.2 ⟨hname, hcs⟩] at hnone
      cases hnone
    show pieces (c :: (cs ++ braced name ++ right)) = _
    rw [pieces_of_none hnone', ih]
    rfl

theorem flatMap_written_pieces (cs : List Char) : (pieces cs).flatMap Piece.written = cs := by
  fun_induction pieces cs with
  | case1 => rfl
  | case2 c cs name after hplaceholder ih =>
    rw [List.flatMap_cons, ih, (placeholder?_eq_some_iff.1 hplaceholder).2]
    rfl
  | case3 c cs _ ih =>
    rw [List.flatMap_cons, ih]
    rfl

theorem isName_of_mem_pieces (h : .field name ∈ pieces cs) : IsName name := by
  fun_induction pieces cs with
  | case1 => cases h
  | case2 c cs first after hplaceholder ih =>
    rcases List.mem_cons.1 h with heq | h
    · obtain rfl := Piece.field.inj heq
      exact (placeholder?_eq_some_iff.1 hplaceholder).1
    · exact ih h
  | case3 c cs _ ih =>
    rcases List.mem_cons.1 h with heq | h
    · cases heq
    · exact ih h

theorem cuts_pieces (cs : List Char) : Cuts cs (pieces cs) where
  written := flatMap_written_pieces cs
  named _ h := isName_of_mem_pieces h
  complete left name right hname hcs := by
    refine ⟨pieces left, pieces right, ?_, flatMap_written_pieces left, flatMap_written_pieces right⟩
    rw [hcs, pieces_append_braced hname]

/-! ## There is no other cut -/

theorem Piece.written_ne_nil (p : Piece) : p.written ≠ [] := by
  cases p <;> simp [written, braced]

theorem eq_nil_of_flatMap_written (h : ps.flatMap Piece.written = []) : ps = [] := by
  cases ps with
  | nil => rfl
  | cons p ps =>
    rw [List.flatMap_cons, List.append_eq_nil_iff] at h
    exact absurd h.1 p.written_ne_nil

/-- What is left of a cut without its first piece `p` is the cut of the rest. -/
theorem Cuts.tail (h : Cuts (p.written ++ cs) (p :: ps)) : Cuts cs ps where
  written := List.append_cancel_left (h.written : p.written ++ _ = _)
  named name hmem := h.named name (List.mem_cons_of_mem p hmem)
  complete left name right hname hcs := by
    have hsplit : p.written ++ cs = p.written ++ left ++ braced name ++ right := by
      rw [hcs]
      simp only [List.append_assoc]
    obtain ⟨before, after, hps, hbefore, hafter⟩ := h.complete _ name right hname hsplit
    cases before with
    | nil =>
      have hnil := (List.append_eq_nil_iff.1 hbefore.symm).1
      exact absurd hnil p.written_ne_nil
    | cons q before =>
      obtain ⟨rfl, rfl⟩ := List.cons.inj hps
      exact ⟨before, after, rfl, List.append_cancel_left hbefore, hafter⟩

/-- Where one cut begins with a `field`, so does the other. -/
theorem Cuts.eq_cons_field {ps' : List Piece} (h : Cuts cs (.field name :: ps))
    (h' : Cuts cs ps') : ∃ rest, ps' = .field name :: rest := by
  have hname : IsName name := h.named name List.mem_cons_self
  obtain ⟨before, after, hps', hbefore, -⟩ :=
    h'.complete [] name (ps.flatMap Piece.written) hname h.written.symm
  rw [eq_nil_of_flatMap_written hbefore] at hps'
  exact ⟨after, hps'⟩

theorem Cuts.unique {ps' : List Piece} (h : Cuts cs ps) (h' : Cuts cs ps') : ps = ps' := by
  induction ps generalizing cs ps' with
  | nil =>
    have hcs : ps'.flatMap Piece.written = [] := h'.written.trans h.written.symm
    rw [eq_nil_of_flatMap_written hcs]
  | cons p ps ih =>
    have hcs : cs = p.written ++ ps.flatMap Piece.written := h.written.symm
    have hfirst : ∃ rest, ps' = p :: rest := by
      cases p with
      | field name => exact h.eq_cons_field h'
      | literal c =>
        cases ps' with
        | nil => cases hcs.symm.trans h'.written.symm
        | cons q rest =>
          cases q with
          | field name =>
            obtain ⟨_, heq⟩ := h'.eq_cons_field h
            cases heq
          | literal d =>
            obtain rfl : c = d := (List.cons.inj (hcs.symm.trans h'.written.symm)).1
            exact ⟨rest, rfl⟩
    obtain ⟨rest, rfl⟩ := hfirst
    rw [hcs] at h h'
    rw [ih h.tail h'.tail]

theorem existsUnique_cuts (cs : List Char) : ∃! ps, Cuts cs ps :=
  ⟨pieces cs, cuts_pieces cs, fun _ h => h.unique (cuts_pieces cs)⟩

/-- The fields of `pieces` are the placeholders that occur. -/
theorem field_mem_pieces_iff : .field name ∈ pieces cs ↔ Occurs name cs := by
  constructor
  · intro h
    refine ⟨isName_of_mem_pieces h, ?_⟩
    obtain ⟨before, after, hps⟩ := List.append_of_mem h
    refine ⟨before.flatMap Piece.written, after.flatMap Piece.written, ?_⟩
    have hwritten := flatMap_written_pieces cs
    rw [hps, List.flatMap_append, List.flatMap_cons, ← List.append_assoc] at hwritten
    exact hwritten.symm
  · rintro ⟨hname, left, right, rfl⟩
    rw [pieces_append_braced hname]
    simp

end Dunning.Template
