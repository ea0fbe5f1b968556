import Dunning.Json.Basic
import Mathlib.Algebra.Group.Int.Defs
import Mathlib.Algebra.Group.Nat.Defs
import Mathlib.Data.Int.Order.Basic
import Mathlib.Data.Nat.Basic
import Mathlib.Order.Basic

/-!
# Which doubles are finite

A number in JSON has a finite double: doubles in JSON are finite by themselves, and a whole number
of 64 bits is far below the largest double (`Number.Proper.isFinite_toFloat`). For the latter the
exponent is followed through rounding, packing and unpacking: `Below limit` bounds it, rounding adds
at most one to the bound, and a double whose bound is small enough is finite once it is packed.
-/

namespace Dunning.Decimal

open Float.Model Float.Model.UnpackedFloat

/-- Zero, or a significand of at most 53 bits with an exponent of at most `limit`. -/
inductive Below (limit : Int) : UnpackedFloat → Prop
  | zero (s : Sign) : Below limit (.zero s)
  | finite (s : Sign) {m : Nat} {e : Int} (positive : 0 < m) (significand : m < 2 ^ 53)
      (exponent : e ≤ limit) : Below limit (.finite s m e positive)

variable {b : BitVec 64} {x : Float} {u : UnpackedFloat} {limit : Int}

theorem Below.isFinite (h : Below limit u) : u.isFinite = true := by
  cases h <;> rfl

/-! ## Reading the bits -/

/-- The eleven bits of the exponent of `b`. -/
abbrev exponentOf (b : BitVec 64) : BitVec 11 := @unpackExponent Format.binary64 b

/-- The stored bits of the significand of `b`. -/
abbrev fractionOf (b : BitVec 64) : BitVec 52 := @unpackMantissa Format.binary64 b

/-- The bit of the sign of `b`. -/
abbrev signOf (b : BitVec 64) : BitVec 1 := @unpackSign Format.binary64 b

theorem toNat_exponentOf (b : BitVec 64) : (exponentOf b).toNat = (b.toNat >>> 52) % 2048 := by
  simp [exponentOf, unpackExponent, BitVec.extractLsb, BitVec.extractLsb'_toNat]

theorem toNat_fractionOf (b : BitVec 64) : (fractionOf b).toNat = b.toNat % 2 ^ 52 := by
  simp [fractionOf, unpackMantissa, BitVec.extractLsb, BitVec.extractLsb'_toNat]

theorem toNat_signOf (b : BitVec 64) : (signOf b).toNat = b.toNat >>> 63 := by
  have h := b.isLt
  have hsign : (signOf b).toNat = (b.toNat >>> 63) % 2 ^ 1 := BitVec.extractLsb'_toNat 63 1 b
  omega

theorem exponentOf_eq_ones_iff : exponentOf b = -1#11 ↔ (b.toNat >>> 52) % 2048 = 2047 := by
  rw [← toNat_exponentOf, ← BitVec.toNat_inj]
  rfl

theorem unpack_of_ones (h : exponentOf b = -1#11) : UnpackedFloat.unpack Format.binary64 b =
    if fractionOf b = 0#52 then .infinity (Sign.ofBitVec (signOf b)) else .notANumber :=
  if_pos h

theorem below_unpack (least : -1074 ≤ limit) (most : limit ≤ 971)
    (h : ((exponentOf b).toNat : Int) ≤ limit + 1075) :
    Below limit (UnpackedFloat.unpack Format.binary64 b) := by
  -- an exponent of ones alone stands for infinity or for no number
  have hones : exponentOf b ≠ -1#11 := by
    intro heq
    have hnat : (exponentOf b).toNat = 2047 := congrArg BitVec.toNat heq
    omega
  show Below limit (if exponentOf b = -1#11 then _ else if exponentOf b = 0#11 then _ else _)
  rw [if_neg hones]
  by_cases hzero : exponentOf b = 0#11
  · rw [if_pos hzero]
    have hexponent : (exponentOf b).toNat = 0 := congrArg BitVec.toNat hzero
    by_cases hfraction : fractionOf b = 0#52
    · rw [dif_pos hfraction]
      exact .zero _
    · -- without an exponent there is no leading bit, and the least exponent counts
      rw [dif_neg hfraction]
      refine .finite _ _ ((fractionOf b).isLt.trans (by decide)) ?_
      show ((exponentOf b).toNat : Int) - (1023 + 52) + 1 ≤ limit
      omega
  · rw [if_neg hzero]
    refine .finite _ _ (1#1 ++ fractionOf b).isLt ?_
    show ((exponentOf b).toNat : Int) - (1023 + 52) ≤ limit
    omega

theorem isFinite_unpack_iff : (UnpackedFloat.unpack Format.binary64 b).isFinite = true ↔
    (b.toNat >>> 52) % 2048 ≠ 2047 := by
  rw [ne_eq, ← exponentOf_eq_ones_iff]
  constructor
  · intro hfinite hones
    rw [unpack_of_ones hones] at hfinite
    split at hfinite <;> cases hfinite
  · intro hones
    have hlt := (exponentOf b).isLt
    have hne : (exponentOf b).toNat ≠ 2047 := fun h => hones (BitVec.eq_of_toNat_eq h)
    exact (below_unpack (by decide) (le_refl 971) (by omega)).isFinite

theorem isFinite_eq (x : Float) : isFinite x = x.toModel.unpack.isFinite := by
  have hunpack : x.toModel.unpack.isFinite = true ↔ (x.toBits.toNat >>> 52) % 2048 ≠ 2047 :=
    isFinite_unpack_iff
  rw [Bool.eq_iff_iff, hunpack]
  simp only [isFinite, Binary.ofFloat?]
  split
  · rename_i h
    simpa using h
  · rename_i h
    split <;> simpa using h

/-- A double above a thousand is finite, or it is infinity itself, given by its bits. -/
theorem toBits_of_lt (h : (1000 : Float) < x) (hx : isFinite x = false) :
    x.toBits = 0x7FF0000000000000 := by
  have hlt : (1000 : Float).toModel.unpack.lt x.toModel.unpack = true := of_decide_eq_true h
  have hthousand : (1000 : Float).toModel.unpack
      = .finite .positive 0x1F400000000000 (-43) (by decide) := by rfl
  have hones : exponentOf x.toBits.toBitVec = -1#11 := by
    rw [isFinite_eq, ← Bool.not_eq_true] at hx
    rw [exponentOf_eq_ones_iff]
    exact not_not.1 (mt isFinite_unpack_iff.2 hx)
  have hunpack : x.toModel.unpack = if fractionOf x.toBits.toBitVec = 0#52
      then .infinity (Sign.ofBitVec (signOf x.toBits.toBitVec)) else .notANumber :=
    unpack_of_ones hones
  rw [hthousand, hunpack] at hlt
  by_cases hfraction : fractionOf x.toBits.toBitVec = 0#52
  · rw [if_pos hfraction] at hlt
    -- with the sign it would be below everything
    have hsign : signOf x.toBits.toBitVec = 0#1 := by
      by_contra hne
      rw [Sign.ofBitVec, if_neg hne] at hlt
      cases hlt
    have hexponent := exponentOf_eq_ones_iff.1 hones
    have hfraction := (toNat_fractionOf _).symm.trans (congrArg BitVec.toNat hfraction)
    have hsign := (toNat_signOf _).symm.trans (congrArg BitVec.toNat hsign)
    simp only [Nat.shiftRight_eq_div_pow, UInt64.toNat_toBitVec] at hexponent hfraction hsign
    apply UInt64.toNat_inj.1
    show x.toBits.toNat = 0x7FF0000000000000
    simp at hfraction hsign
    omega
  · rw [if_neg hfraction] at hlt
    cases hlt

/-! ## Packing -/

theorem exponentOf_packComponents (s : Sign) (e : BitVec 11) (m : BitVec 52) :
    exponentOf (packComponents Format.binary64 s e m) = e :=
  unpackExponent_packComponents

/-- An exponent that is small enough is stored as it is, so `pack` keeps the bound. -/
theorem below_unpack_pack (h : Below limit u) (least : -1074 ≤ limit) (most : limit ≤ 971) :
    Below limit (pack u).unpack := by
  cases h with
  | zero s =>
    have hzero : (pack (.zero s)).unpack = .zero s := by cases s <;> rfl
    rw [hzero]
    exact .zero s
  | @finite s m e positive significand exponent =>
    apply below_unpack least most
    have hfits : ¬ 2 ^ 11 ≤ (e + 1023 + 52).toNat + 1 := by omega
    have hpack : UnpackedFloat.pack Format.binary64 (.finite s m e positive) =
        if m.log2 + 1 = 53 then
          packComponents Format.binary64 s (BitVec.ofNat 11 (e + 1023 + 52).toNat)
            (BitVec.ofNat 52 m)
        else packComponents Format.binary64 s 0#11 (BitVec.ofNat 52 m) := if_neg hfits
    show ((exponentOf (UnpackedFloat.pack Format.binary64 _)).toNat : Int) ≤ _
    rw [hpack]
    split
    · rw [exponentOf_packComponents, BitVec.toNat_ofNat, Nat.mod_eq_of_lt (by omega)]
      omega
    · rw [exponentOf_packComponents]
      show (0 : Int) ≤ _
      omega

/-! ## Rounding -/

theorem mantissa_shiftRight (em : ExtendedMantissa) (n : Nat) :
    (em >>> n).mantissa = em.mantissa / 2 ^ n := by
  induction n with
  | zero => simp [HShiftRight.hShiftRight, Nat.repeat]
  | succ n ih =>
    show (em >>> n).mantissa / 2 = _
    rw [ih, Nat.div_div_eq_div_mul, Nat.pow_succ]

theorem roundedMantissa_le (em : ExtendedMantissa) :
    em.roundedMantissa ≤ em.mantissa + 1 := by
  obtain ⟨m, round, sticky⟩ := em
  cases round <;> cases sticky <;>
    simp [ExtendedMantissa.roundedMantissa, ExtendedMantissa.accuracy,
      Accuracy.roundToNearestEven]
  omega

theorem targetExponent_eq (total : Int) :
    Format.binary64.targetExponent total = max (total - 53) (-1074) := rfl

/-- `shiftToTargetExponent` leaves 53 bits of a significand. -/
theorem mantissa_shift_lt (m : Nat) (e : Int) (a : Accuracy) :
    (shiftToTargetExponent Format.binary64 m e a).1.mantissa < 2 ^ 53 := by
  have hstart : (ExtendedMantissa.ofMantissaAndAccuracy m a).mantissa = m := by
    obtain _ | order := a
    · rfl
    · cases order <;> rfl
  simp only [shiftToTargetExponent, shiftToExponent, targetExponent_eq, totalExponent,
    mantissa_shiftRight, hstart]
  -- the target is 53 bits below the leading one, so no more than these are left after `n` shifts
  generalize hn : (max ((m.log2 : Int) + 1 + e - 53) (-1074) - e).toNat = n
  have hlog : m.log2 + 1 ≤ 53 + n := by omega
  rw [Nat.div_lt_iff_lt_mul (Nat.two_pow_pos n), ← Nat.pow_add]
  exact Nat.lt_log2_self.trans_le (Nat.pow_le_pow_right (by decide) hlog)

theorem exponent_shift_le {m : Nat} {e : Int} (a : Accuracy) (he : e ≤ limit)
    (hm : (m.log2 : Int) + e ≤ limit + 52) (least : -1074 ≤ limit) :
    (shiftToTargetExponent Format.binary64 m e a).2 ≤ limit := by
  simp only [shiftToTargetExponent, shiftToExponent, targetExponent_eq, totalExponent]
  omega

/-- Rounding a significand up can take one bit more, so the bound rises by one. -/
theorem below_roundWithAccuracy {m : Nat} {e : Int} (limit : Int) (s : Sign) (a : Accuracy)
    (he : e ≤ limit) (hm : (m.log2 : Int) + e ≤ limit + 52) (least : -1074 ≤ limit) :
    Below (limit + 1) (roundWithAccuracy Format.binary64 s m e a) := by
  have hmantissa := mantissa_shift_lt m e a
  have hexponent := exponent_shift_le a he hm least
  rw [roundWithAccuracy]
  generalize shiftToTargetExponent Format.binary64 m e a = first at hmantissa hexponent
  obtain ⟨em, e'⟩ := first
  dsimp only at hmantissa hexponent ⊢
  -- a carry can bring a 54th bit, which is shifted out again
  have hrounded : em.roundedMantissa.log2 ≤ 53 := by
    have hle := roundedMantissa_le em
    have hlt : em.roundedMantissa < 2 ^ 54 := by omega
    by_cases hzero : em.roundedMantissa = 0
    · simp [hzero]
    · have := (Nat.log2_lt hzero).2 hlt
      omega
  by_cases hnone :
      (shiftToTargetExponent Format.binary64 em.roundedMantissa e' .exact).1.mantissa = 0
  · rw [dif_pos hnone]
    exact .zero s
  · rw [dif_neg hnone]
    exact .finite s _ (mantissa_shift_lt _ _ _)
      (exponent_shift_le _ (by omega) (by omega) (by omega))

theorem below_mul {v : UnpackedFloat} {limit' : Int} (hu : Below limit u) (hv : Below limit' v)
    (least : -1127 ≤ limit + limit') :
    Below (limit + limit' + 54) (UnpackedFloat.mul Format.binary64 u v) := by
  cases hu with
  | zero s => cases hv <;> exact .zero _
  | @finite s m e positive significand exponent =>
    cases hv with
    | zero s' => exact .zero _
    | @finite s' m' e' positive' significand' exponent' =>
      have hproduct : m * m' < 2 ^ 106 :=
        (Nat.mul_lt_mul'' significand significand').trans_eq (Nat.pow_add 2 53 53).symm
      have hlog := (Nat.log2_lt (Nat.mul_pos positive positive').ne').2 hproduct
      have h := below_roundWithAccuracy (limit + limit' + 53) (s * s') .exact
        (m := m * m') (e := e + e') (by omega) (by omega) (by omega)
      rw [Int.add_assoc _ 53] at h
      exact h

/-! ## Whole numbers -/

theorem log2_shiftLeft_lt {m bits : Nat} (hm : m < 2 ^ bits) (hpos : m ≠ 0) (n : Nat) :
    (m <<< n).log2 < bits + n := by
  have hne : m <<< n ≠ 0 := by simpa using hpos
  rw [Nat.log2_lt hne, Nat.shiftLeft_eq, Nat.pow_add]
  exact Nat.mul_lt_mul_of_pos_right hm (Nat.two_pow_pos n)

/-- A whole number `n` of 64 bits, rounded. -/
theorem below_normalize {n : Nat} (hn : n < 2 ^ 64) :
    Below 12 (UnpackedFloat.normalize Format.binary64 n 0 .positive) := by
  rw [UnpackedFloat.normalize]
  split
  · rename_i hlt
    have := Int.compare_eq_lt.1 hlt
    omega
  · exact .zero _
  · rename_i hgt
    have hpos : n ≠ 0 := by
      have := Int.compare_eq_gt.1 hgt
      omega
    have hlog := log2_shiftLeft_lt hn hpos (0 - Format.binary64.targetExponent
      (totalExponent n 0)).toNat
    simp only [UnpackedFloat.round, decreaseExponent, Int.toNat_natCast]
    exact below_roundWithAccuracy 11 _ _ (by omega) (by omega) (by omega)

/-- A whole number below `2 ^ 53` is the product of itself and one. -/
theorem below_ofNat_of_small {n : Nat} (hn : n < 2 ^ 53) :
    Below 14 (Float.ofNat n).toModel.unpack := by
  have hone : (Float.ofBits 0x3ff0000000000000).toModel.unpack
      = .finite .positive 0x10000000000000 (-52) (by decide) := by rfl
  have heq : Float.ofNat n = n.toUInt64.toFloat * Float.ofBits 0x3ff0000000000000 := by
    show Float.ofScientific n false 0 = _
    rw [Float.ofScientific, dif_pos ⟨hn, by decide⟩]
    rfl
  rw [heq]
  apply below_unpack_pack _ (by decide) (by decide)
  show Below 14 (UnpackedFloat.mul Format.binary64 (Float.Model.pack _).unpack _)
  rw [hone]
  have hword : n.toUInt64.toNat < 2 ^ 64 := n.toUInt64.toNat_lt
  exact below_mul (below_unpack_pack (below_normalize hword) (by decide) (by decide))
    (.finite .positive (m := 0x10000000000000) (by decide) (by decide) (le_refl (-52))) (by decide)

theorem below_ofNat {n : Nat} (hn : n < 2 ^ 64) : Below 14 (Float.ofNat n).toModel.unpack := by
  by_cases hsmall : n < 2 ^ 53
  · exact below_ofNat_of_small hsmall
  have hpos : 0 < n := by omega
  -- a larger number does not take the way through a product: it is scaled and rounded
  have hscaled : UnpackedFloat.ofScientific Format.binary64 n 0
      = roundWithAccuracy Format.binary64 .positive (n <<< 53 * 1) (-53) .exact := by
    have hleast : ¬ (0 : Int) < -(2 ^ 11 + (n.log2 : Int)) := by omega
    exact (dif_neg hpos.ne').trans ((if_neg (by decide)).trans
      ((if_neg hleast).trans (if_pos (by decide))))
  have hlog := log2_shiftLeft_lt hn hpos.ne' 53
  have hoverflow : ¬ (n < 2 ^ 53 ∧ 0 ≤ 22) := fun h => hsmall h.1
  have heq : (Float.ofNat n).toModel
      = Float.Model.pack (UnpackedFloat.ofScientific Format.binary64 n 0) :=
    congrArg Float.toModel (dif_neg hoverflow)
  rw [heq, hscaled]
  apply below_unpack_pack _ (by decide) (by decide)
  exact below_roundWithAccuracy 13 _ _ (by decide) (by rw [Nat.mul_one]; omega)
    (by decide)

theorem below_neg (h : Below limit x.toModel.unpack) (least : -1074 ≤ limit)
    (most : limit ≤ 971) : Below limit (-x).toModel.unpack := by
  apply below_unpack_pack _ least most
  generalize x.toModel.unpack = u at h
  cases h with
  | zero s => exact .zero _
  | finite s positive significand exponent => exact .finite _ positive significand exponent

end Dunning.Decimal

namespace Dunning

/-- The numbers that JSON values hold: whole numbers of 64 bits, and doubles that are
`Decimal.isFinite`. -/
inductive Number.Proper : Number → Prop
  | whole {n : Int} (least : -2 ^ 63 ≤ n) (most : n < 2 ^ 64) : Proper (.whole n)
  | double {x : Float} (finite : Decimal.isFinite x = true) : Proper (.double x)

theorem Number.Proper.isFinite_toFloat {n : Number} (h : n.Proper) :
    Decimal.isFinite n.toFloat = true := by
  cases h with
  | @whole n least most =>
    have hbelow := Decimal.below_ofNat (n := n.natAbs) (by omega)
    rw [Decimal.isFinite_eq, Number.toFloat]
    split
    · exact (Decimal.below_neg hbelow (by decide) (by decide)).isFinite
    · exact hbelow.isFinite
  | double finite => exact finite

end Dunning
