import Typology.Text.Utf8
/-!
The form encoding of query strings: `key=value` pairs joined by `&`, with `+` for a space and
`%` before two hexadecimal digits for a byte.
-/

namespace Typology.Text.FormEncoded

/-- The value of a hexadecimal digit. -/
def hexValue? (b : UInt8) : Option UInt8 :=
  if 48 ≤ b ∧ b ≤ 57 then some (b - 48)
  else if 65 ≤ b ∧ b ≤ 70 then some (b - 55)
  else if 97 ≤ b ∧ b ≤ 102 then some (b - 87)
  else none

/-- Replaces each `%` and two hexadecimal digits by the byte they name; any other `%` stays. -/
def percentDecode : List UInt8 → List UInt8
  | [] => []
  | [a] => [a]
  | [a, b] => [a, b]
  | a :: b :: c :: rest =>
    if a = 37 then
      match hexValue? b, hexValue? c with
      | some high, some low => (high * 16 + low) :: percentDecode rest
      | _, _ => a :: percentDecode (b :: c :: rest)
    else a :: percentDecode (b :: c :: rest)

/-- The text that a component stands for. -/
def decodeComponent (bytes : List UInt8) : String :=
  String.ofList (decodeUtf8 (percentDecode (bytes.map fun b => if b = 43 then 32 else b)))

/-- Splits bytes at each occurrence of `separator`. -/
def splitBytes (separator : UInt8) : List UInt8 → List (List UInt8)
  | [] => [[]]
  | b :: rest =>
    if b = separator then [] :: splitBytes separator rest
    else match splitBytes separator rest with
      | [] => [[b]]
      | piece :: pieces => (b :: piece) :: pieces

/-- The pair that a piece between two `&` stands for; without `=` the value is empty. -/
def decodePair (piece : List UInt8) : String × String :=
  (decodeComponent (piece.takeWhile (· ≠ 61)), decodeComponent ((piece.dropWhile (· ≠ 61)).drop 1))

/-- The pairs of a query string, in order; empty pieces are skipped. -/
def decode (query : String) : List (String × String) :=
  ((splitBytes 38 (encodeUtf8 query.toList)).filter (!·.isEmpty)).map decodePair

end Typology.Text.FormEncoded
