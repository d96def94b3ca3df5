import Typology.Json.Basic
import Typology.Decimal.Reading
/-!
Reading JSON numbers. A number without point and exponent that fits 64 bits is whole; any other is
a float, made from the leading digits that fit 64 bits and one power of ten.
-/

namespace Typology.Json

/-- The greatest significand that is kept. -/
def greatestSignificand : Nat := 0xFFFFFFFFFFFFFFFF

/-- Appends digits to a significand as long as it fits; also counts the digits used. -/
def takeDigits (significand : Nat) : List Char → Nat × Nat
  | [] => (significand, 0)
  | c :: rest =>
    let next := 10 * significand + (c.toNat - '0'.toNat)
    if next ≤ greatestSignificand then
      let (result, used) := takeDigits next rest
      (result, used + 1)
    else (significand, 0)

/-- Scales by powers of ten, of which floats have those up to `10 ^ 308`. A result too large for a
float is refused; one too small is zero. -/
def scaleFloat : Nat → Float → Int → Option Float
  | 0, x, _ => some x
  | fuel + 1, x, exponent =>
    if exponent.natAbs ≤ 308 then
      let power := Float.ofScientific 1 false exponent.natAbs
      if 0 ≤ exponent then
        if (x * power).isInf then none else some (x * power)
      else some (x / power)
    else if x == 0 then some x
    else if 0 ≤ exponent then none
    else scaleFloat fuel (x / Float.ofScientific 1 false 308) (exponent + 308)

/-- The float for a significand of 64 bits and a power of ten. Two scalings bring every such
significand to zero, so four rounds suffice. -/
def floatOfParts (negative : Bool) (significand : Nat) (exponent : Int) : Option Json :=
  (scaleFloat 4 (Float.ofNat significand) exponent).map fun x => .float (if negative then -x else x)

/-- The number for a run of digits without point and exponent. -/
def wholeNumber (negative : Bool) (digits : List Char) : Option Json :=
  let (significand, used) := takeDigits 0 digits
  if used < digits.length then floatOfParts negative significand (digits.length - used)
  else if negative then
    if 0 < significand ∧ significand ≤ 0x8000000000000000 then some (.int (-significand))
    else some (.float (-(Float.ofNat significand)))
  else some (.int significand)

/-- Reads the digits of an exponent, after its mark. -/
def exponentDigits? (text : List Char) : Option (Int × List Char) :=
  let (negative, rest) := Decimal.splitSign text
  let digits := rest.takeWhile Char.isDigit
  if digits.isEmpty then none
  else
    let n : Int := Decimal.valueOf digits
    some (if negative then -n else n, rest.dropWhile Char.isDigit)

/-- Reads what may follow the digits of a float: an exponent. -/
def finishFloat (negative : Bool) (significand : Nat) (exponent : Int) (text : List Char) :
    Option (Json × List Char) :=
  match text with
  | 'e' :: rest | 'E' :: rest => do
    let (power, rest) ← exponentDigits? rest
    let value ← floatOfParts negative significand (exponent + power)
    return (value, rest)
  | rest => (floatOfParts negative significand exponent).map fun value => (value, rest)

/-- Reads a number without its sign; a leading zero stands alone. -/
def unsignedNumber? (negative : Bool) (text : List Char) : Option (Json × List Char) :=
  let digits := text.takeWhile Char.isDigit
  let rest := text.dropWhile Char.isDigit
  if digits.isEmpty ∨ (digits.head? = some '0' ∧ 1 < digits.length) then none
  else
    let (significand, used) := takeDigits 0 digits
    let exponent : Int := digits.length - used
    match rest with
    | '.' :: rest =>
      let fraction := rest.takeWhile Char.isDigit
      if fraction.isEmpty then none
      else
        let (significand, used) := takeDigits significand fraction
        finishFloat negative significand (exponent - used) (rest.dropWhile Char.isDigit)
    | 'e' :: _ | 'E' :: _ => finishFloat negative significand exponent rest
    | _ => (wholeNumber negative digits).map fun value => (value, rest)

/-- Reads a number at the beginning of a text. -/
def number? : List Char → Option (Json × List Char)
  | '-' :: rest => unsignedNumber? true rest
  | chars => unsignedNumber? false chars

end Typology.Json
