import Dunning.Monitor.Basic
import Dunning.Proofs.Decimal.Finite

/-!
# What counts of a request

A request can be reported with any doubles as its time and its confidence, also with infinities and
with what is no number. `sanitizedTime` and `sanitizedConfidence` say what counts of them, for every
double and without a monitor: a finite positive time counts as it is and any other as zero, and a
confidence is zero if it is no number and otherwise brought between zero and one. A monitor keeps
just that (`Request.keptTime_eq`, `Request.keptConfidence_eq`), so whatever is reported, what it
keeps is finite, not negative, and for confidences at most one.
-/

namespace Dunning

/-! ## Comparing doubles -/

namespace Decimal

open Float.Model

theorem compare_swap (u v : UnpackedFloat) : v.compare u = (u.compare v).map .swap := by
  -- of two numbers with one sign the exponents are compared first, then the significands
  have hparts : ∀ (m m' : Nat) (e e' : Int),
      (compare e' e).then (compare m' m) = ((compare e e').then (compare m m')).swap := by
    intro m m' e e'
    rw [Ordering.swap_then, ← Std.OrientedOrd.eq_swap, ← Std.OrientedOrd.eq_swap]
  rcases u with ⟨_ | _⟩ | _ | ⟨_ | _⟩ | ⟨_ | _, m, e, _⟩ <;>
    rcases v with ⟨_ | _⟩ | _ | ⟨_ | _⟩ | ⟨_ | _, m', e', _⟩ <;> try rfl
  · exact congrArg (some ·.swap) (hparts m m' e e')
  · exact congrArg some (hparts m m' e e')

theorem isSome_compare {u v : UnpackedFloat} (hu : u.isNaN = false) (hv : v.isNaN = false) :
    (u.compare v).isSome = true := by
  rcases u with ⟨_ | _⟩ | _ | ⟨_ | _⟩ | ⟨_ | _, m, e, _⟩ <;>
    rcases v with ⟨_ | _⟩ | _ | ⟨_ | _⟩ | ⟨_ | _, m', e', _⟩ <;>
    first | rfl | exact absurd hu (by decide) | exact absurd hv (by decide)

variable {x y : Float}

protected theorem le_of_lt (h : x < y) : x ≤ y := by
  have hlt : x.toModel.unpack.compare y.toModel.unpack = some .lt :=
    eq_of_beq (of_decide_eq_true h)
  have hle : (x.toModel.unpack.compare y.toModel.unpack).any (·.isLE) = true := by
    rw [hlt]
    rfl
  exact decide_eq_true hle

/-- Of two doubles one is at most the other, unless one of them is no number. -/
protected theorem le_of_not_lt (hx : x.isNaN = false) (hy : y.isNaN = false) (h : ¬ x < y) :
    y ≤ x := by
  have hsome := isSome_compare (u := x.toModel.unpack) (v := y.toModel.unpack) hx hy
  obtain ⟨o, ho⟩ := Option.isSome_iff_exists.1 hsome
  have hlt : (x.toModel.unpack.compare y.toModel.unpack == some .lt) ≠ true :=
    fun hlt => h (decide_eq_true hlt)
  have hle : (y.toModel.unpack.compare x.toModel.unpack).any (·.isLE) = true := by
    rw [compare_swap x.toModel.unpack, ho]
    rw [ho] at hlt
    cases o with
    | lt => exact absurd rfl hlt
    | eq => rfl
    | gt => rfl
  exact decide_eq_true hle

end Decimal

/-! ## Times and confidences -/

namespace Monitor

/-- What counts of a time `ms` in milliseconds: the time itself if it is finite and positive, and
zero for a time that is negative, zero, infinite or no number. -/
def sanitizedTime (ms : Float) : Float :=
  if ms.isFinite = true ∧ 0 < ms then ms else 0

/-- What counts of a confidence `c`: zero if it is no number, and otherwise the number between zero
and one that is closest to it. -/
def sanitizedConfidence (c : Float) : Float :=
  if c.isNaN = true then 0
  else if c < 0 then 0
  else if 1 < c then 1
  else c

theorem isFinite_sanitizedTime (ms : Float) : (sanitizedTime ms).isFinite = true := by
  unfold sanitizedTime
  split
  · rename_i h
    exact h.1
  · rfl

theorem sanitizedTime_nonneg (ms : Float) : 0 ≤ sanitizedTime ms := by
  unfold sanitizedTime
  split
  · rename_i h
    exact Decimal.le_of_lt h.2
  · decide

/-- What `sanitizedConfidence` gives lies between zero and one, infinities included. -/
theorem sanitizedConfidence_mem (c : Float) :
    0 ≤ sanitizedConfidence c ∧ sanitizedConfidence c ≤ 1 := by
  unfold sanitizedConfidence
  split
  · decide
  split
  · decide
  split
  · decide
  -- what is left is a number that is neither below zero nor above one
  · rename_i hnan hzero hone
    have hc : c.isNaN = false := by simpa using hnan
    exact ⟨Decimal.le_of_not_lt hc rfl hzero, Decimal.le_of_not_lt rfl hc hone⟩

end Monitor

/-! ## What a monitor keeps of them -/

namespace Request

theorem keptTime_eq (r : Request) : r.keptTime = Monitor.sanitizedTime r.timeMs := by
  -- the bits of a double are read in two ways, by its fields and by unpacking
  have hfinite : Decimal.isFinite r.timeMs = r.timeMs.isFinite := Decimal.isFinite_eq r.timeMs
  unfold keptTime Monitor.sanitizedTime
  rw [hfinite]
  simp only [Bool.and_eq_true, decide_eq_true_eq, gt_iff_lt]

theorem keptConfidence_eq (r : Request) :
    r.keptConfidence = Monitor.sanitizedConfidence r.confidence := rfl

end Request

end Dunning
