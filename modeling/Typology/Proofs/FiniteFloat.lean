import Mathlib
import Typology.Binary64

/-!
# Finite floats

The bits of a finite float come back from the number that they stand for. The float nearest to a
whole number of 64 bits is finite, since rounding does not bring it anywhere near the greatest
exponent.
-/

namespace Typology.Binary64

open Float.Model (UnpackedFloat totalExponent)
open Float.Model.Format Float.Model.UnpackedFloat

/-! ## Bits -/

theorem isFinite_unpack_iff {b : BitVec binary64.numBits} :
    (unpack binary64 b).isFinite = true ↔ unpackExponent b ≠ -1#11 := by
  unfold unpack
  dsimp only
  by_cases hmax : unpackExponent b = -1#11
  · rw [if_pos hmax]
    split <;> exact iff_of_false Bool.false_ne_true (not_not_intro hmax)
  · rw [if_neg hmax]
    split
    · split <;> exact iff_of_true rfl hmax
    · exact iff_of_true rfl hmax

theorem ofFloat_toFloat {x : Binary64} (h : x.toFloat.isFinite = true) : ofFloat x.toFloat = x := by
  obtain ⟨⟨b⟩⟩ := x
  have hpack : UnpackedFloat.pack binary64 (unpack binary64 b) = b := by
    rw [pack_unpack]
    rw [show (Binary64.toFloat ⟨⟨b⟩⟩).isFinite =
      (unpack binary64 (UnpackedFloat.pack binary64 (unpack binary64 b))).isFinite from rfl,
      pack_unpack] at h
    split
    · rename_i hnan
      rw [if_pos hnan, unpack_packedNaN] at h
      cases h
    · rfl
  show Binary64.mk ⟨UnpackedFloat.pack binary64 (unpack binary64 b)⟩ = _
  rw [hpack]

/-! ## Rounding -/

variable {m : Nat} {e : Int}

/-- A number that is zero, or not zero with an exponent that leaves room below the greatest. -/
def InRange : UnpackedFloat → Prop
  | .zero _ => True
  | .finite _ _ e _ => e < 972
  | _ => False

theorem isFinite_pack {x : UnpackedFloat} (h : InRange x) :
    (Float.ofModel (Float.Model.pack x)).isFinite = true := by
  refine isFinite_unpack_iff.2 ?_
  show unpackExponent (UnpackedFloat.pack binary64 x) ≠ _
  cases x with
  | notANumber => exact h.elim
  | infinity s => exact h.elim
  | zero s =>
      show unpackExponent (packComponents binary64 s 0#11 _) ≠ _
      rw [unpackExponent_packComponents]
      decide
  | finite s m e hm =>
      have hbias : (e + binary64.exponentBias + binary64.mantissaBitsWithoutImplicit).toNat <
          2047 := by
        show (e + (2 ^ (11 - 1) - 1 : Nat) + (52 : Nat)).toNat < 2047
        have he : e < 972 := h
        omega
      unfold UnpackedFloat.pack
      dsimp only
      generalize (e + binary64.exponentBias + binary64.mantissaBitsWithoutImplicit).toNat = k at *
      rw [if_neg (by show ¬2 ^ 11 ≤ k + 1; omega)]
      split
      · rw [unpackExponent_packComponents]
        intro hk
        have hmax : k % 2 ^ 11 = 2047 := congrArg BitVec.toNat hk
        omega
      · rw [unpackExponent_packComponents]
        decide

theorem mantissa_shiftRightOne_le (em : ExtendedMantissa) :
    em.shiftRightOne.mantissa ≤ em.mantissa := Nat.div_le_self _ _

theorem mantissa_shiftRight_le (em : ExtendedMantissa) (n : Nat) :
    (em >>> n).mantissa ≤ em.mantissa := by
  show (Nat.repeat ExtendedMantissa.shiftRightOne n em).mantissa ≤ _
  induction n with
  | zero => exact Nat.le_refl _
  | succ n ih => exact (mantissa_shiftRightOne_le _).trans ih

theorem roundedMantissa_le (em : ExtendedMantissa) : em.roundedMantissa ≤ em.mantissa + 1 := by
  unfold ExtendedMantissa.roundedMantissa Accuracy.roundToNearestEven
  split <;> omega

/-- Moving a mantissa to its place makes it no greater, and keeps to a bound of the exponent. -/
theorem shiftToTargetExponent_le (e : Int) {k : Nat} {b : Int} (hm : m < 2 ^ k)
    (hk : k + e ≤ b) (he : e ≤ b) (hb : 0 ≤ b) :
    (shiftToTargetExponent binary64 m e .exact).1.mantissa ≤ m ∧
      (shiftToTargetExponent binary64 m e .exact).2 ≤ b := by
  refine ⟨mantissa_shiftRight_le _ _, ?_⟩
  have hlog : m.log2 ≤ k := by
    rcases Nat.eq_zero_or_pos m with rfl | hpos
    · exact Nat.zero_le k
    · exact Nat.le_of_lt ((Nat.log2_lt hpos.ne').2 hm)
  have htarget : binary64.targetExponent (totalExponent m e) ≤ b := by
    show max ((m.log2 : Int) + 1 + e - (1 + 52 : Nat)) (3 - 2 ^ (11 - 1) - (1 + 52 : Nat)) ≤ b
    omega
  show e + ((binary64.targetExponent (totalExponent m e) - e).toNat : Int) ≤ b
  omega

theorem inRange_roundWithAccuracy {k : Nat} (hm : m < 2 ^ k) (hk : k ≤ 400) (he : e ≤ 0)
    (s : Sign) : InRange (roundWithAccuracy binary64 s m e .exact) := by
  obtain ⟨hmantissa, hfirst⟩ :=
    shiftToTargetExponent_le e (b := k) hm (by omega) (by omega) (by omega)
  have hrounded : (shiftToTargetExponent binary64 m e .exact).1.roundedMantissa < 2 ^ (k + 1) := by
    have := roundedMantissa_le (shiftToTargetExponent binary64 m e .exact).1
    omega
  obtain ⟨-, hsecond⟩ :=
    shiftToTargetExponent_le (shiftToTargetExponent binary64 m e .exact).2 (b := 2 * k + 1) hrounded
      (by omega) (by omega) (by omega)
  unfold roundWithAccuracy
  dsimp only
  split
  · trivial
  · show _ < (972 : Int)
    omega

/-- The float nearest to a whole number that takes up to 64 bits, and more than a float has for
its digits, is finite. -/
theorem isFinite_ofInt {n : Int} (hlow : 2 ^ 53 ≤ n) (hhigh : n < 2 ^ 64) :
    (Float.ofInt n).isFinite = true := by
  obtain ⟨k, rfl⟩ := Int.eq_ofNat_of_zero_le (by omega : 0 ≤ n)
  show (Float.ofScientific k false 0).isFinite = true
  unfold Float.ofScientific
  rw [dif_neg (by omega)]
  refine isFinite_pack ?_
  show InRange (UnpackedFloat.ofScientific binary64 k 0)
  unfold UnpackedFloat.ofScientific
  have hlarge : ¬(0 : Int) > 2 ^ binary64.exponentBits := by decide
  have hsmall : ¬(0 : Int) < -(2 ^ binary64.exponentBits + (k.log2 : Int)) := by
    show ¬(0 : Int) < -(2 ^ 11 + (k.log2 : Int))
    omega
  rw [dif_neg (by omega), if_neg hlarge, if_neg hsmall, if_pos (Int.le_refl 0)]
  unfold UnpackedFloat.mul
  dsimp only
  refine inRange_roundWithAccuracy (k := 117) ?_ (by decide) (by decide) _
  rw [Int.toNat_zero, Nat.pow_zero, Nat.mul_one, Nat.shiftLeft_eq]
  show k * 2 ^ 53 < 2 ^ 117
  omega

end Typology.Binary64
