import Typology.Decimal.Shortest
/-!
How a float is written: a layout fixes which magnitudes are positional, whether a whole number
keeps a point, and the names of the values that are not finite.
-/

namespace Typology.Decimal

/-- The decisions of one way to write floats. -/
structure Layout where
  /-- Whether a number whose leading digit stands for `10 ^ n` is written without an exponent. -/
  positional : Int → Bool
  /-- Whether a positional whole number ends in `.0`. -/
  pointZero : Bool
  /-- Whether an exponent above zero has a plus sign. -/
  plusSign : Bool
  tie : Tie
  notANumber : String
  infinity : String

namespace Layout

/-- Messages write every magnitude positionally, and whole numbers without a point. -/
def plain : Layout := ⟨fun _ => true, false, false, .upward, "NaN", "inf"⟩

/-- Log fields keep `.0`, and write magnitudes below `10 ^ -4` or from `10 ^ 16` with an
exponent. -/
def logged : Layout := ⟨fun n => decide (-4 ≤ n ∧ n < 16), true, false, .upward, "NaN", "inf"⟩

/-- Records keep `.0`, and write magnitudes below `10 ^ -5` or from `10 ^ 16` with a signed
exponent; a record has no name for a number that is not finite. -/
def record : Layout := ⟨fun n => decide (-5 ≤ n ∧ n < 16), true, true, .toEven, "null", "null"⟩

end Layout

/-- The digits of `n` in base ten. -/
def digitsOf (n : Nat) : List Char := Nat.toDigits 10 n

namespace Number

/-- The number with all its zeros and at most one point. -/
def positionalText (x : Number) (pointZero : Bool) : List Char :=
  let ds := digitsOf x.digits
  if 0 ≤ x.exponent then
    ds ++ List.replicate x.exponent.toNat '0' ++ if pointZero then ['.', '0'] else []
  else
    let whole : Int := ds.length + x.exponent
    if 0 < whole then ds.take whole.toNat ++ '.' :: ds.drop whole.toNat
    else ['0', '.'] ++ List.replicate (-whole).toNat '0' ++ ds

/-- The power of ten that the leading digit stands for. -/
def magnitude (x : Number) : Int := (digitsOf x.digits).length - 1 + x.exponent

/-- The leading digit, the others after a point, and the exponent after `e`. -/
def exponentText (x : Number) (plusSign : Bool) : List Char :=
  let sign := if plusSign ∧ 0 < x.magnitude then ['+'] else []
  let power := 'e' :: sign ++ (toString x.magnitude).toList
  match digitsOf x.digits with
  | [] => power
  | [d] => d :: power
  | d :: ds => d :: '.' :: ds ++ power

/-- The number as `layout` writes it. -/
def text (layout : Layout) (x : Number) : List Char :=
  if layout.positional x.magnitude then x.positionalText layout.pointZero
  else x.exponentText layout.plusSign

end Number

/-- A float as `layout` writes it: the shortest digits that read back as the same float. -/
def Layout.render (layout : Layout) (x : Float) : String :=
  if x.isNaN then layout.notANumber
  else
    let bits := x.toBits
    let sign := if bits >>> 63 = 0 then [] else ['-']
    let size := bits &&& 0x7FFFFFFFFFFFFFFF
    let body :=
      if size = 0x7FF0000000000000 then layout.infinity.toList
      else if size = 0 then Number.text layout ⟨0, 0⟩
      else ((Binary.ofBits size).shortest layout.tie).text layout
    String.ofList (sign ++ body)

end Typology.Decimal
