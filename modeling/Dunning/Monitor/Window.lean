/-!
# Rolling windows

A window keeps the latest samples, oldest first, up to its capacity. What is kept is `lastN` of all
that was pushed: to keep the last samples and then to add some is to keep the last of them all
(`lastN_append_lastN`).
-/

namespace Dunning

/-- The last `n` elements of a list, in order. -/
def lastN {α : Type} (n : Nat) (xs : List α) : List α :=
  xs.drop (xs.length - n)

theorem lastN_append_lastN {α : Type} (n : Nat) (xs ys : List α) :
    lastN n (lastN n xs ++ ys) = lastN n (xs ++ ys) := by
  simp only [lastN, List.length_append, List.length_drop]
  rw [← List.drop_append_of_le_length (by omega), List.drop_drop]
  congr 1
  omega

theorem length_lastN {α : Type} (n : Nat) (xs : List α) :
    (lastN n xs).length = min n xs.length := by
  simp only [lastN, List.length_drop]
  omega

/-- The latest samples, oldest first. -/
structure Window where
  capacity : Nat
  samples : List Float

namespace Window

/-- An empty window; a `capacity` of zero is raised to one. -/
def empty (capacity : Nat) : Window :=
  ⟨max capacity 1, []⟩

/-- Adds `sample` and drops the oldest one when the window is full. -/
def push (w : Window) (sample : Float) : Window :=
  { w with samples := lastN w.capacity (w.samples ++ [sample]) }

/-- Forgets all samples. -/
def clear (w : Window) : Window :=
  { w with samples := [] }

/-- The sum of samples from left to right. -/
def sum (samples : List Float) : Float :=
  samples.foldl (· + ·) (-0.0)

/-- The mean of samples, their `sum` over their number; `none` of no samples. -/
def meanOf (samples : List Float) : Option Float :=
  if samples.isEmpty then none else some (sum samples / Float.ofNat samples.length)

/-- The mean of the samples kept by `meanOf`; `none` when there are none. -/
def mean? (w : Window) : Option Float :=
  meanOf w.samples

/-- The mean of the samples kept as `mean?`, zero when there are none. -/
def meanOrZero (w : Window) : Float :=
  w.mean?.getD 0

end Window

end Dunning
