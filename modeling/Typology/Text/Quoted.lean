import Typology.Text.Letter
import Typology.Text.PrintTable
/-!
Quoted texts, as descriptions of values show them: between double quotes, with what cannot be
seen written by name or by number.
-/

namespace Typology.Text

/-- A number in lower-case hexadecimal. -/
def hexDigits (n : Nat) : List Char := Nat.toDigits 16 n

/-- The written form of a character given by its number. -/
def byNumber (c : Char) : List Char := ['\\', 'u', '\x7b'] ++ hexDigits c.toNat ++ ['\x7d']

/-- The written form of one character of a quoted text. -/
def quoteChar (c : Char) : List Char :=
  if c = '"' then ['\\', '"']
  else if c = '\\' then ['\\', '\\']
  else if c = '\n' then ['\\', 'n']
  else if c = '\r' then ['\\', 'r']
  else if c = '\t' then ['\\', 't']
  else if c = '\x00' then ['\\', '0']
  else if 0x20 ≤ c.toNat ∧ c.toNat < 0x7F then [c]
  else if inRanges PrintTable.extending c ∨ inRanges PrintTable.unprintable c then byNumber c
  else [c]

/-- The text between double quotes, with what cannot be seen escaped. -/
def quote (s : String) : String := String.ofList ('"' :: s.toList.flatMap quoteChar ++ ['"'])

/-- A bracketed list of quoted texts. -/
def quoteList (items : List String) : String :=
  "[" ++ String.intercalate ", " (items.map quote) ++ "]"

end Typology.Text
