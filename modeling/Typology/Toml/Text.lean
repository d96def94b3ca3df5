import Typology.Decimal.Reading
/-!
The texts of TOML documents: blanks and comments, the four kinds of quoted strings, and keys.
-/

namespace Typology.Toml

/-- Whether a character may stand between the parts of a line. -/
def isBlank (c : Char) : Bool := c == ' ' || c == '\t'

/-- Whether a character may stand in comments and quoted strings. -/
def isPrintable (c : Char) : Bool := c == '\t' || (0x20 ≤ c.toNat && c.toNat ≠ 0x7F)

/-- Drops blanks. -/
def skipBlanks (chars : List Char) : List Char := chars.dropWhile isBlank

/-- Takes a line break, if the text starts with one. -/
def lineBreak? : List Char → Option (List Char)
  | '\n' :: rest => some rest
  | '\r' :: '\n' :: rest => some rest
  | _ => none

/-- Drops a comment, if the text starts with one. -/
def skipComment : List Char → List Char
  | '#' :: rest => rest.dropWhile isPrintable
  | chars => chars

/-- Drops blanks, comments and line breaks, `fuel` lines at most. -/
def skipLines : Nat → List Char → List Char
  | 0, chars => chars
  | fuel + 1, chars =>
    let rest := skipComment (skipBlanks chars)
    match lineBreak? rest with
    | some rest => skipLines fuel rest
    | none => rest

/-- Takes the end of a line: blanks, a comment, and a line break or the end of the text. -/
def endLine? (chars : List Char) : Option (List Char) :=
  match skipComment (skipBlanks chars) with
  | [] => some []
  | rest => lineBreak? rest

/-- The value of hexadecimal digits. -/
def hexValue? (digits : List Char) : Option Nat :=
  digits.foldlM (fun n c =>
    let v := c.toNat
    if 48 ≤ v ∧ v ≤ 57 then some (16 * n + (v - 48))
    else if 65 ≤ v ∧ v ≤ 70 then some (16 * n + (v - 55))
    else if 97 ≤ v ∧ v ≤ 102 then some (16 * n + (v - 87))
    else none) 0

/-- Reads a character given by `count` hexadecimal digits. -/
def numbered? (count : Nat) (chars : List Char) : Option (Char × List Char) :=
  if chars.length < count then none
  else do
    let n ← hexValue? (chars.take count)
    if h : n.isValidChar then return (Char.ofNatAux n h, chars.drop count) else none

/-- Reads what follows the backslash of an escaped character. -/
def escape? : List Char → Option (Char × List Char)
  | 'b' :: rest => some ('\x08', rest)
  | 't' :: rest => some ('\t', rest)
  | 'n' :: rest => some ('\n', rest)
  | 'f' :: rest => some ('\x0c', rest)
  | 'r' :: rest => some ('\r', rest)
  | '"' :: rest => some ('"', rest)
  | '\\' :: rest => some ('\\', rest)
  | 'u' :: rest => numbered? 4 rest
  | 'U' :: rest => numbered? 8 rest
  | _ => none

/-- Reads a string on one line up to its closing double quote, `fuel` characters at most. -/
def basic? : Nat → List Char → Option (List Char × List Char)
  | 0, _ => none
  | fuel + 1, chars =>
    match chars with
    | [] => none
    | '"' :: rest => some ([], rest)
    | '\\' :: rest => do
      let (c, rest) ← escape? rest
      let (cs, rest) ← basic? fuel rest
      return (c :: cs, rest)
    | c :: rest =>
      if isPrintable c then (basic? fuel rest).map fun (cs, rest) => (c :: cs, rest) else none

/-- Reads a string on one line up to its closing single quote; nothing is escaped. -/
def literal? (chars : List Char) : Option (List Char × List Char) :=
  let body := chars.takeWhile (· ≠ '\'')
  match chars.dropWhile (· ≠ '\'') with
  | '\'' :: rest => if body.all isPrintable then some (body, rest) else none
  | _ => none

/-- Splits a run of quotes inside a string on many lines: three close the string, and up to two
before them belong to it. -/
def closing? (quote : Char) (chars : List Char) : Option (List Char × List Char) :=
  let run := min 5 (chars.takeWhile (· == quote)).length
  if 3 ≤ run then some (List.replicate (run - 3) quote, chars.drop run) else none

/-- Drops blanks and line breaks. -/
def skipSpace : List Char → List Char
  | [] => []
  | '\r' :: '\n' :: rest => skipSpace rest
  | c :: rest => if isBlank c || c == '\n' then skipSpace rest else c :: rest

/-- Drops the blanks and line breaks after a backslash at the end of a line. -/
def joinLines? (chars : List Char) : Option (List Char) :=
  (lineBreak? (skipBlanks chars)).map skipSpace

/-- Reads a string on many lines up to its three closing quotes, `fuel` characters at most.
Backslashes escape between double quotes. -/
def multiline? (quote : Char) : Nat → List Char → Option (List Char × List Char)
  | 0, _ => none
  | fuel + 1, chars =>
    match closing? quote chars with
    | some result => some result
    | none =>
      match lineBreak? chars with
      | some rest => (multiline? quote fuel rest).map fun (cs, rest) => ('\n' :: cs, rest)
      | none =>
        match chars with
        | [] => none
        | c :: rest =>
          if c = '\\' ∧ quote = '"' then
            match joinLines? rest with
            | some rest => multiline? quote fuel rest
            | none => do
              let (c, rest) ← escape? rest
              let (cs, rest) ← multiline? quote fuel rest
              return (c :: cs, rest)
          else if isPrintable c then
            (multiline? quote fuel rest).map fun (cs, rest) => (c :: cs, rest)
          else none

/-- Drops the line break that may follow the opening quotes of a string on many lines. -/
def skipFirstBreak (chars : List Char) : List Char := (lineBreak? chars).getD chars

/-- Reads a quoted string. -/
def quoted? (chars : List Char) : Option (String × List Char) :=
  let found := match chars with
    | '"' :: '"' :: '"' :: rest => multiline? '"' (rest.length + 1) (skipFirstBreak rest)
    | '\'' :: '\'' :: '\'' :: rest => multiline? '\'' (rest.length + 1) (skipFirstBreak rest)
    | '"' :: rest => basic? (rest.length + 1) rest
    | '\'' :: rest => literal? rest
    | _ => none
  found.map fun (cs, rest) => (String.ofList cs, rest)

/-- Whether a character may stand in a key without quotes. -/
def isKeyChar (c : Char) : Bool := c.isAlphanum || c == '_' || c == '-'

/-- Reads one part of a key. -/
def keyPart? (chars : List Char) : Option (String × List Char) :=
  match chars with
  | '"' :: rest => (basic? (rest.length + 1) rest).map fun (cs, rest) => (String.ofList cs, rest)
  | '\'' :: rest => (literal? rest).map fun (cs, rest) => (String.ofList cs, rest)
  | _ =>
    let part := chars.takeWhile isKeyChar
    if part.isEmpty then none else some (String.ofList part, chars.dropWhile isKeyChar)

/-- Reads parts of a key with points between them, `fuel` parts at most. -/
def keyParts? : Nat → List Char → Option (List String × List Char)
  | 0, _ => none
  | fuel + 1, chars => do
    let (part, rest) ← keyPart? (skipBlanks chars)
    match skipBlanks rest with
    | '.' :: rest =>
      let (parts, rest) ← keyParts? fuel rest
      return (part :: parts, rest)
    | rest => return ([part], rest)

/-- The number of levels at which reading stops, for the parts of a key as for collections inside
each other. -/
def depthLimit : Nat := 80

/-- Reads a key, which has fewer parts than the limit. -/
def key? (chars : List Char) : Option (List String × List Char) :=
  (keyParts? (chars.length + 1) chars).filter fun (parts, _) => parts.length < depthLimit

end Typology.Toml
