import Typology.Toml.Draft
import Typology.Toml.Scalar
/-!
Reading TOML documents.
-/

namespace Typology.Toml

/-- Reads the items of an array after its opening bracket, `fuel` at most. Items may stand on many
lines, and a comma may follow the last one. -/
def items? (item? : List Char → Option (Toml × List Char)) :
    Nat → List Char → Option (List Toml × List Char)
  | 0, _ => none
  | fuel + 1, chars =>
    match skipLines (chars.length + 1) chars with
    | ']' :: rest => some ([], rest)
    | rest => do
      let (first, rest) ← item? rest
      match skipLines (rest.length + 1) rest with
      | ',' :: rest =>
        let (others, rest) ← items? item? fuel rest
        return (first :: others, rest)
      | ']' :: rest => return ([first], rest)
      | _ => none

/-- Reads a key and the equals sign after it. -/
def keyBefore? (chars : List Char) : Option (List String × List Char) := do
  let (key, rest) ← key? chars
  match rest with
  | '=' :: rest => return (key, skipBlanks rest)
  | _ => none

/-- Reads the entries of a table in braces after its first brace, `fuel` at most. They stand on one
line, and no comma follows the last one. -/
def braced? (item? : List Char → Option (Toml × List Char)) :
    Nat → Entries → List Char → Option (Toml × List Char)
  | 0, _, _ => none
  | fuel + 1, entries, chars => do
    let (key, rest) ← keyBefore? chars
    let (value, rest) ← item? rest
    let entries ← entries.addValue key value
    match skipBlanks rest with
    | ',' :: rest => braced? item? fuel entries rest
    | '\x7d' :: rest => return ((Item.table .header entries).toToml, rest)
    | _ => none

/-- Reads a value that is no collection. -/
def single? (chars : List Char) : Option (Toml × List Char) :=
  match chars with
  | '"' :: _ | '\'' :: _ => (quoted? chars).map fun (s, rest) => (.text s, rest)
  | _ => scalar? chars

/-- Reads a value with at most `depth` collections inside each other. -/
def value? : Nat → List Char → Option (Toml × List Char)
  | 0, chars => single? chars
  | depth + 1, chars =>
    match chars with
    | '[' :: rest =>
      (items? (value? depth) (rest.length + 1) rest).map fun (items, rest) => (.array items, rest)
    | '\x7b' :: rest =>
      match skipBlanks rest with
      | '\x7d' :: rest => some (.table [], rest)
      | rest => braced? (value? depth) (rest.length + 1) [] rest
    | _ => single? chars

/-- Reads a line that is not blank: the header of a table, or a key with its value. -/
def line? (d : Draft) (chars : List Char) : Option (Draft × List Char) :=
  match chars with
  | '[' :: '[' :: rest => do
    let (key, rest) ← key? rest
    match rest with
    | ']' :: ']' :: rest => return (← d.openListed key, rest)
    | _ => none
  | '[' :: rest => do
    let (key, rest) ← key? rest
    match rest with
    | ']' :: rest => return (← d.openTable key, rest)
    | _ => none
  | _ => do
    let (key, rest) ← keyBefore? chars
    let (value, rest) ← value? (depthLimit - 1) rest
    return (← d.addValue key value, rest)

/-- Reads the lines of a document, `fuel` at most. -/
def lines? : Nat → Draft → List Char → Option Toml
  | 0, _, _ => none
  | fuel + 1, d, chars =>
    match skipBlanks (skipLines (chars.length + 1) chars) with
    | [] => some d.finish
    | rest => do
      let (d, rest) ← line? d rest
      lines? fuel d (← endLine? rest)

/-- Drops a byte order mark. -/
def skipMark (chars : List Char) : List Char :=
  match chars with
  | '\uFEFF' :: rest => rest
  | _ => chars

/-- Reads a document. -/
def read? (text : String) : Option Toml :=
  let chars := skipMark text.toList
  lines? (chars.length + 1) .empty chars

end Typology.Toml
