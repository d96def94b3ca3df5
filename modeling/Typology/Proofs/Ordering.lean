import Typology.Comparison
import Mathlib.Order.Compare

/-!
# The order of values of one shape

Whole numbers, texts and bools have an order among themselves, in which just the equal ones stand
level. There every mode reads the order, those of equality included.
-/

namespace Typology

theorem compareWords_eq_eq_iff {a b : Int64} : compareWords a b = .eq ↔ a = b := by
  rw [compareWords, Int.compare_eq_eq, Int64.toInt_inj]

theorem compareTexts_eq_eq_iff {a b : String} : compareTexts a b = .eq ↔ a = b := by
  unfold compareTexts
  split
  · rename_i hlt
    exact iff_of_false (by simp) (String.ne_of_lt hlt)
  · split <;> simp_all

theorem compareBools_eq_eq_iff {a b : Bool} : compareBools a b = .eq ↔ a = b := by
  cases a <;> cases b <;> decide

namespace Primitive

variable {a b : Primitive}

theorem valuesEqual_of_ne_float (ha : a.shape ≠ .float) (hb : b.shape ≠ .float) :
    a.valuesEqual b = (a == b) := by
  cases a <;> cases b <;> simp_all [shape, valuesEqual]

/-- Two values of one shape that are no floats have an order, and are level if they are equal. -/
theorem compareValues_of_shape (h : a.shape = b.shape) (hf : a.shape ≠ .float) :
    ∃ o, a.compareValues b = some o ∧ (o = .eq ↔ a = b) := by
  cases a with
  | bool x =>
      cases b <;> cases h
      exact ⟨_, rfl, by simp [compareBools_eq_eq_iff]⟩
  | int m =>
      cases b <;> cases h
      exact ⟨_, rfl, by simp [compareWords_eq_eq_iff]⟩
  | float x => exact absurd rfl hf
  | text s =>
      cases b <;> cases h
      exact ⟨_, rfl, by simp [compareTexts_eq_eq_iff]⟩

/-- The modes of equality are among those that read the order. -/
theorem compareUnder_of_shape {o : Ordering} (mode : Mode) (h : a.shape = b.shape)
    (hf : a.shape ≠ .float) (ho : a.compareValues b = some o) :
    a.compareUnder mode b = some (mode.accepts o) := by
  obtain ⟨o', ho', heq⟩ := compareValues_of_shape h hf
  cases ho.symm.trans ho'
  have hequal : a.valuesEqual b = (o == .eq) := by
    rw [valuesEqual_of_ne_float hf (h ▸ hf), Bool.eq_iff_iff, beq_iff_eq, beq_iff_eq, heq]
  cases mode with
  | eq => exact congrArg some hequal
  | neq => exact congrArg (fun x => some !x) hequal
  | _ => simp [compareUnder, ho]

end Primitive

end Typology
