import Typology.Json.Basic
import Typology.Decimal.Layout
/-!
Writing JSON: on one line without blanks, or on many lines indented by two blanks a level.
-/

namespace Typology.Json

/-- A number below 16 as a hexadecimal digit. -/
def hexDigit (n : Nat) : Char := (Nat.digitChar n)

/-- A character inside a JSON string. -/
def escapeChar (c : Char) : List Char :=
  if c = '"' then ['\\', '"']
  else if c = '\\' then ['\\', '\\']
  else if c = '\n' then ['\\', 'n']
  else if c = '\r' then ['\\', 'r']
  else if c = '\t' then ['\\', 't']
  else if c = '\x08' then ['\\', 'b']
  else if c = '\x0c' then ['\\', 'f']
  else if c.toNat < 0x20 then
    ['\\', 'u', '0', '0', hexDigit (c.toNat / 16), hexDigit (c.toNat % 16)]
  else [c]

/-- A text as a JSON string. -/
def quoteText (s : String) : String := String.ofList ('"' :: s.toList.flatMap escapeChar ++ ['"'])

/-- A float as a JSON number; one that is not finite has none and is written `null`. -/
def floatText (x : Float) : String :=
  if x.isFinite then Decimal.Layout.record.render x else "null"

mutual

/-- The value on one line, without blanks. -/
def compact : Json → String
  | .null => "null"
  | .bool b => if b then "true" else "false"
  | .int n => toString n
  | .float x => floatText x
  | .text s => quoteText s
  | .array items => "[" ++ String.intercalate "," (compactItems items) ++ "]"
  | .object entries => "\x7b" ++ String.intercalate "," (compactEntries entries) ++ "\x7d"

/-- The values of an array, each on one line. -/
def compactItems : List Json → List String
  | [] => []
  | item :: rest => item.compact :: compactItems rest

/-- The entries of an object, each on one line. -/
def compactEntries : List (String × Json) → List String
  | [] => []
  | (key, value) :: rest => (quoteText key ++ ":" ++ value.compact) :: compactEntries rest

end

/-- A line break and the blanks of an indentation level. -/
def lineBreak (level : Nat) : String := "\n" ++ String.ofList (List.replicate (2 * level) ' ')

/-- The parts of a container, one a line, or nothing between the brackets if there are none. -/
def bracketed (opening closing : String) (level : Nat) (parts : List String) : String :=
  if parts.isEmpty then opening ++ closing
  else
    opening ++ lineBreak (level + 1) ++ String.intercalate ("," ++ lineBreak (level + 1)) parts ++
      lineBreak level ++ closing

mutual

/-- The value on many lines, as it stands inside `level` containers. -/
def prettyAt (level : Nat) : Json → String
  | .array items => bracketed "[" "]" level (prettyItems (level + 1) items)
  | .object entries => bracketed "\x7b" "\x7d" level (prettyEntries (level + 1) entries)
  | .null => "null"
  | .bool b => if b then "true" else "false"
  | .int n => toString n
  | .float x => floatText x
  | .text s => quoteText s

/-- The values of an array on many lines. -/
def prettyItems (level : Nat) : List Json → List String
  | [] => []
  | item :: rest => item.prettyAt level :: prettyItems level rest

/-- The entries of an object on many lines. -/
def prettyEntries (level : Nat) : List (String × Json) → List String
  | [] => []
  | (key, value) :: rest =>
    (quoteText key ++ ": " ++ value.prettyAt level) :: prettyEntries level rest

end

/-- The value on many lines, indented by two blanks a level. -/
def pretty (j : Json) : String := j.prettyAt 0

end Typology.Json
