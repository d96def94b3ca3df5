import Mathlib
import Typology.Proofs.Ordering

/-!
# The distance of two floats

The distance of two floats is the same from either side: swapping the sides of a subtraction at
most turns the sign. So equality of values is symmetric.
-/

namespace Typology

namespace Binary64

open Float.Model (UnpackedFloat)
open Float.Model.Format Float.Model.UnpackedFloat

variable {spec : Float.Model.Format}

/-! ## Magnitudes -/

/-- The sign of packed components does not show in the magnitude. -/
theorem abs_unpack_packComponents (s t : Sign) (e : BitVec spec.exponentBits)
    (m : BitVec spec.mantissaBitsWithoutImplicit) :
    (unpack spec (packComponents spec s e m)).abs =
      (unpack spec (packComponents spec t e m)).abs := by
  unfold unpack
  simp only [unpackExponent_packComponents, unpackMantissa_packComponents]
  split
  · split <;> rfl
  · split
    · split <;> rfl
    · rfl

theorem abs_unpack_pack {x y : UnpackedFloat} (h : x.abs = y.abs) :
    (unpack spec (x.pack spec)).abs = (unpack spec (y.pack spec)).abs := by
  cases x with
  | notANumber => cases y <;> cases h; rfl
  | infinity s => cases y <;> cases h; exact abs_unpack_packComponents _ _ _ _
  | zero s => cases y <;> cases h; exact abs_unpack_packComponents _ _ _ _
  | finite s m e hm =>
      cases y <;> cases h
      unfold pack
      dsimp only
      split
      · exact abs_unpack_packComponents _ _ _ _
      · split <;> exact abs_unpack_packComponents _ _ _ _

theorem abs_round (s t : Sign) (m : Nat) (e : Int) :
    (UnpackedFloat.round spec s m e).abs = (UnpackedFloat.round spec t m e).abs := by
  unfold UnpackedFloat.round roundWithAccuracy
  dsimp only
  split <;> rfl

theorem abs_normalize_neg (m e : Int) (s : Sign) :
    (UnpackedFloat.normalize spec (-m) e s).abs = (UnpackedFloat.normalize spec m e s).abs := by
  unfold UnpackedFloat.normalize
  rcases Int.lt_trichotomy m 0 with h | rfl | h
  · rw [Int.compare_eq_lt.2 h, Int.compare_eq_gt.2 (by omega : -m > 0)]
    exact abs_round _ _ _ _
  · rfl
  · rw [Int.compare_eq_gt.2 h, Int.compare_eq_lt.2 (by omega : -m < 0)]
    dsimp only
    rw [Int.neg_neg]
    exact abs_round _ _ _ _

theorem abs_sub_comm (x y : UnpackedFloat) : (sub spec x y).abs = (sub spec y x).abs := by
  cases x with
  | notANumber => cases y <;> rfl
  | infinity s =>
      cases y with
      | infinity t => cases s <;> cases t <;> rfl
      | _ => rfl
  | zero s =>
      cases y with
      | zero t => cases s <;> cases t <;> rfl
      | _ => rfl
  | finite s m e hm =>
      cases y with
      | finite t n f hn =>
          unfold sub
          dsimp only
          rw [← abs_normalize_neg, Int.neg_sub, Int.min_comm]
      | _ => rfl

theorem float_abs_sub_comm (x y : Float) : (x - y).abs = (y - x).abs := by
  have h : (UnpackedFloat.sub binary64 x.toModel.unpack y.toModel.unpack).abs =
      (UnpackedFloat.sub binary64 y.toModel.unpack x.toModel.unpack).abs := abs_sub_comm _ _
  exact congrArg (fun z => Float.ofModel (Float.Model.pack z)) (abs_unpack_pack h)

end Binary64

theorem nearlyEqual_comm (x y : Float) : nearlyEqual x y = nearlyEqual y x := by
  rw [nearlyEqual, nearlyEqual, Binary64.float_abs_sub_comm]

theorem Primitive.valuesEqual_comm (a b : Primitive) : a.valuesEqual b = b.valuesEqual a := by
  cases a with
  | float x =>
      cases b with
      | float y => simp only [valuesEqual, nearlyEqual_comm, Bool.and_comm]
      | int n => exact nearlyEqual_comm _ _
      | _ => rfl
  | int m =>
      cases b with
      | float y => exact nearlyEqual_comm _ _
      | int n => exact BEq.comm
      | _ => rfl
  | bool x => cases b <;> exact BEq.comm
  | text s => cases b <;> exact BEq.comm

end Typology
