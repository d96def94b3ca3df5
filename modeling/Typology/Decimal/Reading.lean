import Typology.Binary64
/-!
Reading numbers from text: floats as they are written in settings, and whole numbers of 64 bits.
-/

namespace Typology.Decimal

/-- The value of a run of decimal digits. -/
def valueOf (digits : List Char) : Nat :=
  digits.foldl (fun n c => 10 * n + (c.toNat - '0'.toNat)) 0

/-- Takes the sign off a text; `true` stands for a minus. -/
def splitSign : List Char → Bool × List Char
  | '-' :: rest => (true, rest)
  | '+' :: rest => (false, rest)
  | text => (false, text)

/-- The float nearest to `digits · 10 ^ exponent`. Exponents beyond the range of floats are cut
off first, since they no longer change the answer. -/
def nearest (digits : Nat) (exponent : Int) : Float :=
  if digits = 0 then 0
  else
    let magnitude := (Nat.toDigits 10 digits).length + exponent
    if 400 < magnitude then 1 / 0
    else if magnitude < -400 then 0
    else Float.ofScientific digits (exponent < 0) exponent.natAbs

/-- Reads an exponent: `e` or `E`, a sign, and at least one digit. -/
def exponent? : List Char → Option Int
  | [] => some 0
  | mark :: rest =>
    if mark = 'e' ∨ mark = 'E' then
      let (negative, digits) := splitSign rest
      if digits.isEmpty ∨ ¬ digits.all Char.isDigit then none
      else if negative then some (-(valueOf digits : Int)) else some (valueOf digits)
    else none

/-- Reads an unsigned decimal: digits with at most one point and at least one digit, then perhaps
an exponent. -/
def unsigned? (text : List Char) : Option Float :=
  let whole := text.takeWhile Char.isDigit
  let rest := text.dropWhile Char.isDigit
  let (fraction, rest) := match rest with
    | '.' :: rest => (rest.takeWhile Char.isDigit, rest.dropWhile Char.isDigit)
    | _ => ([], rest)
  if whole.isEmpty ∧ fraction.isEmpty then none
  else (exponent? rest).map fun e => nearest (valueOf (whole ++ fraction)) (e - fraction.length)

/-- Reads the bits of a float: a decimal, `inf`, `infinity` or `nan` in any case, with a sign or
without. -/
def binary? (text : String) : Option Binary64 :=
  let (negative, body) := splitSign text.toList
  let magnitude? :=
    match body.map Char.toLower with
    | ['i', 'n', 'f'] | ['i', 'n', 'f', 'i', 'n', 'i', 't', 'y'] => some (1 / 0)
    | ['n', 'a', 'n'] => some (0 / 0)
    | _ => unsigned? body
  magnitude?.map fun x => if negative then -.ofFloat x else .ofFloat x

/-- Reads a float. -/
def float? (text : String) : Option Float := (binary? text).map Binary64.toFloat

/-- Whether `n` has a signed word of 64 bits. -/
def fitsWord (n : Int) : Bool := -0x8000000000000000 ≤ n ∧ n < 0x8000000000000000

/-- Reads a whole number of 64 bits: digits with a sign or without. -/
def word? (text : List Char) : Option Int64 :=
  let (negative, digits) := splitSign text
  if digits.isEmpty ∨ ¬ digits.all Char.isDigit then none
  else
    let n : Int := if negative then -(valueOf digits : Int) else valueOf digits
    if fitsWord n then some (Int64.ofInt n) else none

end Typology.Decimal
