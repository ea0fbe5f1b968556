/-!
# Character classes as ranges

A class of characters is an ascending list of closed ranges of code points.
-/

namespace Dunning.Text

/-- Closed ranges of code points, ascending. -/
abbrev Ranges := List (Nat × Nat)

/-- Whether `c` lies in one of `ranges`. -/
def Ranges.contains (ranges : Ranges) (c : Char) : Bool :=
  ranges.any fun (first, last) => decide (first ≤ c.toNat) && decide (c.toNat ≤ last)

/-- The code points of the ASCII digits, which `Char.isDigit` knows. -/
theorem toNat_of_isDigit {c : Char} (h : c.isDigit = true) : 0x30 ≤ c.toNat ∧ c.toNat ≤ 0x39 := by
  simp only [Char.isDigit, ge_iff_le, Bool.and_eq_true, decide_eq_true_eq,
    UInt32.le_iff_toNat_le] at h
  exact h

/-- A class with their range contains the ASCII digits. -/
theorem Ranges.contains_of_isDigit {ranges : Ranges} (hranges : (0x30, 0x39) ∈ ranges) {c : Char}
    (h : c.isDigit = true) : ranges.contains c = true := by
  have hrange := toNat_of_isDigit h
  exact List.any_eq_true.2 ⟨(0x30, 0x39), hranges, by simp [hrange]⟩

end Dunning.Text
