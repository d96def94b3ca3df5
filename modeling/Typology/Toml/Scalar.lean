import Typology.Toml.Basic
import Typology.Toml.Text
/-!
The scalars of TOML documents that are written without quotes: numbers, truth values, dates and
times.
-/

namespace Typology.Toml

/-- Digits without the underscores between them; every underscore stands between two digits. -/
def digits? (isDigit : Char → Bool) : List Char → Option (List Char)
  | [] => none
  | [c] => if isDigit c then some [c] else none
  | c :: '_' :: rest => if isDigit c then (digits? isDigit rest).map (c :: ·) else none
  | c :: rest => if isDigit c then (digits? isDigit rest).map (c :: ·) else none

/-- Decimal digits without a leading zero, unless it is the only digit. -/
def decimalDigits? (chars : List Char) : Option (List Char) :=
  (digits? Char.isDigit chars).filter fun ds => ¬ (ds.head? = some '0' ∧ 1 < ds.length)

/-- The value of digits in a base, if every digit is below it. -/
def valueIn? (base : Nat) (chars : List Char) : Option Nat := do
  let ds ← digits? Char.isAlphanum chars
  ds.foldlM (fun n c => do
    let d ← hexValue? [c]
    if d < base then return base * n + d else none) 0

/-- A whole number of 64 bits. -/
def wholeOf? (n : Int) : Option Toml := if Decimal.fitsWord n then some (.int n) else none

/-- Reads a whole number. -/
def whole? : List Char → Option Toml
  | '0' :: 'x' :: rest => (valueIn? 16 rest).bind fun n => wholeOf? n
  | '0' :: 'o' :: rest => (valueIn? 8 rest).bind fun n => wholeOf? n
  | '0' :: 'b' :: rest => (valueIn? 2 rest).bind fun n => wholeOf? n
  | chars => do
    let (negative, body) := Decimal.splitSign chars
    let ds ← decimalDigits? body
    let n : Int := Decimal.valueOf ds
    wholeOf? (if negative then -n else n)

/-- Reads an exponent of ten, after its mark. -/
def exponent? (chars : List Char) : Option Int := do
  let (negative, body) := Decimal.splitSign chars
  let ds ← digits? Char.isDigit body
  let n : Int := Decimal.valueOf ds
  return if negative then -n else n

/-- Whether a character marks an exponent. -/
def isMark (c : Char) : Bool := c == 'e' || c == 'E'

/-- Reads a number with a point, an exponent, or both. One above all floats is refused; one below
them has no bound. -/
def fractional? (chars : List Char) : Option Toml := do
  guard (chars.any fun c => c == '.' || isMark c)
  let (negative, body) := Decimal.splitSign chars
  let mantissa := body.takeWhile (!isMark ·)
  let power ← match body.dropWhile (!isMark ·) with
    | [] => some 0
    | _ :: rest => exponent? rest
  let before ← decimalDigits? (mantissa.takeWhile (· ≠ '.'))
  let after ← match mantissa.dropWhile (· ≠ '.') with
    | [] => some []
    | _ :: rest => digits? Char.isDigit rest
  let x := Decimal.nearest (Decimal.valueOf (before ++ after)) (power - after.length)
  if x.isInf ∧ ¬ negative then none else return .float (if negative then -x else x)

/-- Reads a float that is no number or has no bound. -/
def unboundedFloat? (chars : List Char) : Option Toml :=
  let (negative, body) := Decimal.splitSign chars
  let x? : Option Float := match body with
    | ['i', 'n', 'f'] => some (1 / 0)
    | ['n', 'a', 'n'] => some (0 / 0)
    | _ => none
  x?.map fun x => .float (if negative then -x else x)

/-- A number of exactly as many digits as there are characters, within bounds. -/
def bounded? (low high : Nat) (digits : List Char) : Option Nat :=
  if digits.all Char.isDigit then
    let n := Decimal.valueOf digits
    if low ≤ n ∧ n ≤ high then some n else none
  else none

/-- The number of days of a month. -/
def daysIn (year month : Nat) : Nat :=
  if month = 2 then if year % 4 = 0 ∧ (year % 100 ≠ 0 ∨ year % 400 = 0) then 29 else 28
  else if month = 4 ∨ month = 6 ∨ month = 9 ∨ month = 11 then 30
  else 31

/-- Takes a date off a text. -/
def date? : List Char → Option (List Char)
  | y₁ :: y₂ :: y₃ :: y₄ :: '-' :: m₁ :: m₂ :: '-' :: d₁ :: d₂ :: rest => do
    let year ← bounded? 0 9999 [y₁, y₂, y₃, y₄]
    let month ← bounded? 1 12 [m₁, m₂]
    let _ ← bounded? 1 (daysIn year month) [d₁, d₂]
    return rest
  | _ => none

/-- Takes a time of day off a text; the seconds may have a fraction. -/
def time? : List Char → Option (List Char)
  | h₁ :: h₂ :: ':' :: m₁ :: m₂ :: ':' :: s₁ :: s₂ :: rest => do
    let _ ← bounded? 0 23 [h₁, h₂]
    let _ ← bounded? 0 59 [m₁, m₂]
    let _ ← bounded? 0 60 [s₁, s₂]
    match rest with
    | '.' :: c :: rest => if c.isDigit then return rest.dropWhile Char.isDigit else none
    | '.' :: _ => none
    | rest => return rest
  | _ => none

/-- Whether a text is the offset of a time from the universal one, or nothing. -/
def isOffset : List Char → Bool
  | [] | ['Z'] | ['z'] => true
  | [sign, h₁, h₂, ':', m₁, m₂] =>
    (sign == '+' || sign == '-') && (bounded? 0 23 [h₁, h₂]).isSome &&
      (bounded? 0 59 [m₁, m₂]).isSome
  | _ => false

/-- Whether a text is a date, a time of day, or both. -/
def isMoment (chars : List Char) : Bool :=
  match date? chars with
  | some [] => true
  | some (c :: rest) =>
    (c == 'T' || c == 't' || c == ' ') && ((time? rest).map isOffset).getD false
  | none => time? chars == some []

/-- The scalar that a text stands for. -/
def scalarOf? (chars : List Char) : Option Toml :=
  match chars with
  | ['t', 'r', 'u', 'e'] => some (.bool true)
  | ['f', 'a', 'l', 's', 'e'] => some (.bool false)
  | _ =>
    whole? chars <|> unboundedFloat? chars <|> fractional? chars <|>
      if isMoment chars then some (.moment (String.ofList chars)) else none

/-- Whether a character may stand in a scalar without quotes. -/
def isScalarChar (c : Char) : Bool :=
  c.isAlphanum || c == '_' || c == '-' || c == '+' || c == '.' || c == ':'

/-- Reads a scalar without quotes. A date and a time of day may have a blank between them. -/
def scalar? (chars : List Char) : Option (Toml × List Char) :=
  let run := chars.takeWhile isScalarChar
  let rest := chars.dropWhile isScalarChar
  let longer := run ++ ' ' :: (rest.drop 1).takeWhile isScalarChar
  if rest.head? = some ' ' ∧ date? run = some [] ∧ isMoment longer then
    some (.moment (String.ofList longer), (rest.drop 1).dropWhile isScalarChar)
  else (scalarOf? run).map fun value => (value, rest)

end Typology.Toml
