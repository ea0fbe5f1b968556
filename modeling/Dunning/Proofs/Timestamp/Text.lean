import Dunning.Proofs.Text.Trim
import Dunning.Proofs.Timestamp.Calendar

/-!
# Times as texts

What is written of a time by `Timestamp.offsetText` is read back as that time by
`Timestamp.ofText?`. Each part of the text is a number padded with zeros to a fixed width
(`padded`), or a year as long as its sign says, so reading it takes just the digits that were
written and leaves the mark after them.
-/

namespace Dunning

namespace Decimal

theorem natOfDigits_eq (ds : List Char) : natOfDigits ds = Nat.ofDigitChars 10 ds 0 :=
  Nat.ofDigitChars_eq_foldl.symm

end Decimal

namespace Timestamp

variable {ds rest : List Char} {width n : Nat}

/-! ## Padded numbers -/

theorem isDigit_of_mem_padded {c : Char} (h : c ∈ padded width n) : c.isDigit = true := by
  unfold padded at h
  obtain hzero | hdigit := List.mem_append.1 h
  · rw [List.eq_of_mem_replicate hzero]
    decide
  · exact Nat.isDigit_of_mem_toDigits (by decide) (by decide) hdigit

theorem natOfDigits_padded (width n : Nat) : Decimal.natOfDigits (padded width n) = n := by
  rw [Decimal.natOfDigits_eq, padded, Nat.ofDigitChars_append, Nat.ofDigitChars_replicate_zero,
    Nat.mul_zero]
  exact Nat.ofDigitChars_ten_toDigits

theorem padded_ne_nil (width n : Nat) : padded width n ≠ [] := by
  unfold padded Decimal.digitsOf
  simp

/-- A number below `10 ^ width` has exactly the width when it is `padded`. -/
theorem length_padded (hwidth : 0 < width) (h : n < 10 ^ width) :
    (padded width n).length = width := by
  have hle : (Decimal.digitsOf n).length ≤ width :=
    (Nat.length_toDigits_le_iff (by decide) hwidth).2 h
  rw [padded, List.length_append, List.length_replicate]
  omega

theorem exists_padded_eq_cons (width n : Nat) : ∃ d ds, padded width n = d :: ds ∧
    d.isDigit = true := by
  cases hds : padded width n with
  | nil => exact absurd hds (padded_ne_nil width n)
  | cons d ds =>
    have hmem : d ∈ padded width n := by
      rw [hds]
      exact List.mem_cons_self
    exact ⟨d, ds, rfl, isDigit_of_mem_padded hmem⟩

/-! ## Reading numbers -/

theorem skipBlanks_padded (width n : Nat) (rest : List Char) :
    skipBlanks (padded width n ++ rest) = padded width n ++ rest := by
  obtain ⟨d, ds, hds, hdigit⟩ := exists_padded_eq_cons width n
  rw [hds, List.cons_append, skipBlanks, List.dropWhile_cons, Text.isBlank_of_isDigit hdigit]
  rfl

/-- The digits `ds` end where something else follows. -/
theorem takeWhile_isDigit_append (hds : ∀ c ∈ ds, c.isDigit = true)
    (hrest : ∀ c ∈ rest.head?, c.isDigit = false) :
    (ds ++ rest).takeWhile Char.isDigit = ds := by
  rw [List.takeWhile_append_of_pos hds]
  cases rest with
  | nil => simp
  | cons c rest => simp [hrest c rfl]

/-- A number of a fixed width is read back by `readDigits?`, whatever follows. -/
theorem readDigits?_padded (hwidth : 0 < width) (h : n < 10 ^ width) (rest : List Char) :
    readDigits? width (padded width n ++ rest) = some (n, rest) := by
  have hlength := length_padded hwidth h
  have htake : (padded width n ++ rest).take width = padded width n :=
    List.take_left' hlength
  have hdigits : (padded width n).takeWhile Char.isDigit = padded width n :=
    List.takeWhile_eq_self_iff.2 fun c hc => isDigit_of_mem_padded hc
  simp only [readDigits?, htake, hdigits, List.isEmpty_eq_false_iff.2 (padded_ne_nil width n),
    natOfDigits_padded, List.drop_left, Bool.false_eq_true, if_false]

theorem readNumber?_padded (hwidth : 0 < width) (h : n < 10 ^ width) (rest : List Char) :
    readNumber? width (padded width n ++ rest) = some (n, rest) := by
  rw [readNumber?, skipBlanks_padded, readDigits?_padded hwidth h]

/-- A number of any width is read back when no digit follows. -/
theorem readDigits?_padded_of_head? (hrest : ∀ c ∈ rest.head?, c.isDigit = false) :
    readDigits? (padded width n ++ rest).length (padded width n ++ rest) = some (n, rest) := by
  have hdigits : (padded width n ++ rest).takeWhile Char.isDigit = padded width n :=
    takeWhile_isDigit_append (fun c hc => isDigit_of_mem_padded hc) hrest
  simp only [readDigits?, List.take_length, hdigits,
    List.isEmpty_eq_false_iff.2 (padded_ne_nil width n), natOfDigits_padded, List.drop_left,
    Bool.false_eq_true, if_false]

/-! ## The parts of a time -/

theorem expect?_cons {c : Char} (hc : Text.isBlank c = false) (rest : List Char) :
    expect? c (c :: rest) = some rest := by
  simp [expect?, skipBlanks, hc]

/-- A year that begins with a digit has four of them, so `readYear?` reads no more. -/
theorem readYear?_padded (width n : Nat) (rest : List Char) :
    readYear? (padded width n ++ rest) =
      (readDigits? 4 (padded width n ++ rest)).map fun (year, r) => ((year : Int), r) := by
  obtain ⟨d, ds, hds, hdigit⟩ := exists_padded_eq_cons width n
  have hcons : padded width n ++ rest = d :: (ds ++ rest) := by rw [hds, List.cons_append]
  unfold readYear?
  rw [skipBlanks_padded, hcons]
  -- neither sign is a digit
  split
  · rename_i heq
    obtain ⟨rfl, -⟩ := List.cons.inj heq
    cases hdigit
  · rename_i heq
    obtain ⟨rfl, -⟩ := List.cons.inj heq
    cases hdigit
  · rfl

/-- A year is read back by `readYear?` when a dash follows. -/
theorem readYear?_yearText (year : Int) (rest : List Char) :
    readYear? (yearText year ++ '-' :: rest) = some (year, '-' :: rest) := by
  have hdash : ∀ c ∈ ('-' :: rest).head?, c.isDigit = false := by
    rintro c ⟨⟩
    rfl
  have hsigned : readDigits? (padded 4 year.natAbs ++ '-' :: rest).length
      (padded 4 year.natAbs ++ '-' :: rest) = some (year.natAbs, '-' :: rest) :=
    readDigits?_padded_of_head? hdash
  unfold yearText
  split
  case isTrue hplain =>
    have hlt : year.toNat < 10 ^ 4 := by omega
    have hyear : (year.toNat : Int) = year := by omega
    simp only [readYear?_padded, readDigits?_padded (by decide) hlt, Option.map_some, hyear]
  case isFalse =>
    by_cases hneg : year < 0
    · have hyear : -(year.natAbs : Int) = year := by omega
      rw [if_pos hneg, List.cons_append]
      show (readDigits? _ _).map _ = _
      simp only [hsigned, Option.map_some, hyear]
    · have hyear : (year.natAbs : Int) = year := by omega
      rw [if_neg hneg, List.cons_append]
      show (readDigits? _ _).map _ = _
      simp only [hsigned, Option.map_some, hyear]

/-- A fraction that takes `width` digits is read back when no digit follows. -/
theorem readFraction?_padded {scale : Nat} (hwidth : 0 < width) (hle : width ≤ 9)
    (h : n < 10 ^ width) (hscale : 10 ^ (9 - width) = scale)
    (hrest : ∀ c ∈ rest.head?, c.isDigit = false) :
    readFraction? ('.' :: padded width n ++ rest) = some (n * scale, rest) := by
  have hlength := length_padded hwidth h
  have hdigits : (padded width n ++ rest).takeWhile Char.isDigit = padded width n :=
    takeWhile_isDigit_append (fun c hc => isDigit_of_mem_padded hc) hrest
  have htake : (padded width n).take 9 = padded width n :=
    List.take_of_length_le (by omega)
  have hpow : Nat.pow 10 (9 - width) = scale := hscale
  simp only [List.cons_append, readFraction?, hdigits, htake, hlength, hpow, List.drop_left' hlength,
    List.isEmpty_eq_false_iff.2 (padded_ne_nil width n), natOfDigits_padded, Bool.false_eq_true,
    if_false]

/-- A fraction `nano` of a second is read back when an offset follows. -/
theorem readFraction?_fractionText {nano : Nat} (h : nano < 1000000000) (rest : List Char) :
    readFraction? (fractionText nano ++ '+' :: rest) = some (nano, '+' :: rest) := by
  have hrest : ∀ c ∈ ('+' :: rest).head?, c.isDigit = false := by
    rintro c ⟨⟩
    rfl
  unfold fractionText
  -- each width is taken only if the digits left out are zeros
  split
  case isTrue hzero =>
    rw [hzero]
    rfl
  split
  case isTrue hmilli =>
    have hlt : nano / 1000000 < 10 ^ 3 := by omega
    rw [readFraction?_padded (by decide) (by decide) hlt rfl hrest]
    congr 2
    omega
  split
  case isTrue hmicro =>
    have hlt : nano / 1000 < 10 ^ 6 := by omega
    rw [readFraction?_padded (by decide) (by decide) hlt rfl hrest]
    congr 2
    omega
  case isFalse =>
    rw [readFraction?_padded (by decide) (by decide) h rfl hrest]
    congr 2
    omega

/-! ## The whole text -/

/-- The hour, the minute and the second make up the second of the day again. -/
theorem secondOfDay_eq (n : Nat) :
    ((n / 3600 : Nat) * 3600 + (n / 60 % 60 : Nat) * 60 + (n % 60 : Nat) - 0 : Int) = n := by
  omega

/-- A second of the day leads to no other day. -/
theorem within_day (h : n < 86400) :
    (n : Int).fdiv 86400 = 0 ∧ ((n : Int).fmod 86400).toNat = n := by
  rw [Int.fdiv_eq_ediv_of_nonneg _ (by decide), Int.fmod_eq_emod_of_nonneg _ (by decide)]
  omega

/-- The characters of `offsetText` for a time on the clock. -/
theorem OnClock.toList_offsetText {t : Timestamp} (h : t.OnClock) {year : Int} {month day : Nat}
    (hdate : dateOfDay t.day = (year, month, day)) :
    t.offsetText.toList = yearText year ++ '-' :: (padded 2 month ++ '-' :: (padded 2 day ++
      'T' :: (padded 2 (t.second / 3600) ++ ':' :: (padded 2 (t.second / 60 % 60) ++
        ':' :: (padded 2 (t.second % 60) ++ (fractionText t.nano ++
          ['+', '0', '0', ':', '0', '0'])))))) := by
  have hplain : ¬ 1000000000 ≤ t.nano := Nat.not_le.2 h.nano
  simp only [offsetText, localText, hdate, String.toList_ofList, List.append_assoc,
    List.cons_append, hplain, if_false, Nat.add_zero]

/-- `ofText?` reads the text of a time back as that time. -/
theorem OnClock.ofText?_offsetText {t : Timestamp} (h : t.OnClock) :
    ofText? t.offsetText = some t := by
  have hback := dayOfDate_dateOfDay t.day
  have hcalendar := isDate_dateOfDay t.day
  obtain ⟨-, hmonths, -, hdays⟩ := dateOfDay_bounds t.day
  rcases hdate : dateOfDay t.day with ⟨year, month, day⟩
  simp only [hdate] at hback hcalendar hmonths hdays
  have hsecond := h.second
  have hnano := h.nano
  -- every number but the year has two digits
  have hmonth : month < 10 ^ 2 := by omega
  have hday : day < 10 ^ 2 := by omega
  have hhour : t.second / 3600 < 10 ^ 2 := by omega
  have hminute : t.second / 60 % 60 < 10 ^ 2 := by omega
  have hsixty : t.second % 60 < 10 ^ 2 := by omega
  have htwo : 0 < 2 := by decide
  have hdash := expect?_cons (by decide : Text.isBlank '-' = false)
  have hcolon := expect?_cons (by decide : Text.isBlank ':' = false)
  have hoffset : readOffset? (skipBlanks ['+', '0', '0', ':', '0', '0']) = some (0, []) := by decide
  -- part after part is read, in the order of the text
  rw [ofText?, h.toList_offsetText hdate]
  refine Option.bind_eq_some_iff.2 ⟨_, readYear?_yearText year _, ?_⟩
  refine Option.bind_eq_some_iff.2 ⟨_, hdash _, ?_⟩
  refine Option.bind_eq_some_iff.2 ⟨_, readNumber?_padded htwo hmonth _, ?_⟩
  refine Option.bind_eq_some_iff.2 ⟨_, hdash _, ?_⟩
  refine Option.bind_eq_some_iff.2 ⟨_, readNumber?_padded htwo hday _, ?_⟩
  refine Option.bind_eq_some_iff.2 ⟨_, rfl, ?_⟩
  refine Option.bind_eq_some_iff.2 ⟨_, readNumber?_padded htwo hhour _, ?_⟩
  refine Option.bind_eq_some_iff.2 ⟨_, hcolon _, ?_⟩
  refine Option.bind_eq_some_iff.2 ⟨_, readNumber?_padded htwo hminute _, ?_⟩
  refine Option.bind_eq_some_iff.2 ⟨_, hcolon _, ?_⟩
  refine Option.bind_eq_some_iff.2 ⟨_, readNumber?_padded htwo hsixty _, ?_⟩
  refine Option.bind_eq_some_iff.2 ⟨_, readFraction?_fractionText hnano _, ?_⟩
  refine Option.bind_eq_some_iff.2 ⟨_, hoffset, ?_⟩
  -- what was read is in range, is no leap second and lies on the day of the date
  have hbounds : t.second / 3600 < 24 ∧ t.second / 60 % 60 < 60 ∧ t.second % 60 ≤ 60 := by omega
  have hleap : ¬ t.second % 60 = 60 := by omega
  have hend : (skipBlanks []).isEmpty = true := rfl
  simp only [hleap, if_false, secondOfDay_eq, within_day hsecond, hback, hcalendar, hbounds, h.first,
    h.last, Int.add_zero, Nat.add_zero, hend]
  simp

end Timestamp

end Dunning
