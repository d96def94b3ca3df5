/-!
Floats as the 64 bits that hold them. Core's floats have one value that is not a number; as bits,
such values differ by sign and payload, and the identity of values goes by the bits.
-/

namespace Typology

/-- A float, given by its bits: a sign, eleven bits of exponent and the rest of the mantissa. -/
structure Binary64 where
  bits : UInt64
deriving DecidableEq, Repr, Inhabited

namespace Binary64

/-- The number that the bits stand for. -/
def toFloat (x : Binary64) : Float := Float.ofBits x.bits

/-- The bits of a number. -/
def ofFloat (x : Float) : Binary64 := ⟨x.toBits⟩

/-- The same magnitude with the other sign. -/
def neg (x : Binary64) : Binary64 := ⟨x.bits ^^^ 0x8000000000000000⟩

instance : Neg Binary64 := ⟨neg⟩

theorem neg_neg (x : Binary64) : - -x = x := by
  cases x with
  | mk bits =>
      show Binary64.mk ((bits ^^^ _) ^^^ _) = _
      rw [UInt64.xor_assoc, UInt64.xor_self, UInt64.xor_zero]

end Binary64

end Typology
