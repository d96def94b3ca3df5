import Typology.Json.Number
/-!
Reading JSON in two passes: the text is cut into tokens, and a machine with a stack of open
containers builds the value from them.
-/

namespace Typology.Json

/-- A piece of JSON text. A scalar is a value without parts. -/
inductive Token where
  | openArray
  | closeArray
  | openObject
  | closeObject
  | comma
  | colon
  | scalar (value : Json)

/-- The value of four hexadecimal digits. -/
def hexQuad? (a b c d : Char) : Option Nat :=
  [a, b, c, d].foldlM (fun n x =>
    let v := x.toNat
    if 48 ≤ v ∧ v ≤ 57 then some (16 * n + (v - 48))
    else if 65 ≤ v ∧ v ≤ 70 then some (16 * n + (v - 55))
    else if 97 ≤ v ∧ v ≤ 102 then some (16 * n + (v - 87))
    else none) 0

/-- The character that a backslash and one letter stand for. -/
def escaped? : Char → Option Char
  | '"' => some '"'
  | '\\' => some '\\'
  | '/' => some '/'
  | 'b' => some '\x08'
  | 'f' => some '\x0c'
  | 'n' => some '\n'
  | 'r' => some '\r'
  | 't' => some '\t'
  | _ => none

/-- Reads one character given by number, after `\u`; one outside the first plane is a pair. -/
def unicodeEscape? : List Char → Option (Char × List Char)
  | a :: b :: c :: d :: rest => do
    let n ← hexQuad? a b c d
    if n < 0xD800 ∨ 0xDFFF < n then return (Char.ofNat n, rest)
    else if 0xDBFF < n then none
    else
      match rest with
      | '\\' :: 'u' :: e :: f :: g :: h :: rest => do
        let m ← hexQuad? e f g h
        if 0xDC00 ≤ m ∧ m ≤ 0xDFFF then
          return (Char.ofNat (0x10000 + (n - 0xD800) * 0x400 + (m - 0xDC00)), rest)
        else none
      | _ => none
  | _ => none

/-- Reads the characters of a string up to its closing quote, `fuel` characters at most. -/
def string? : Nat → List Char → Option (List Char × List Char)
  | 0, _ => none
  | fuel + 1, chars =>
    match chars with
    | [] => none
    | '"' :: rest => some ([], rest)
    | '\\' :: 'u' :: rest => do
      let (c, rest) ← unicodeEscape? rest
      let (cs, rest) ← string? fuel rest
      return (c :: cs, rest)
    | '\\' :: x :: rest => do
      let c ← escaped? x
      let (cs, rest) ← string? fuel rest
      return (c :: cs, rest)
    | c :: rest =>
      if c.toNat < 0x20 ∨ c = '\\' then none
      else do
        let (cs, rest) ← string? fuel rest
        return (c :: cs, rest)

/-- Whether a character may stand between tokens. -/
def isSpace (c : Char) : Bool := c == ' ' || c == '\n' || c == '\t' || c == '\r'

/-- The token at the beginning of a text without leading space. -/
def token? (chars : List Char) : Option (Token × List Char) :=
  match chars with
  | '[' :: rest => some (.openArray, rest)
  | ']' :: rest => some (.closeArray, rest)
  | '\x7b' :: rest => some (.openObject, rest)
  | '\x7d' :: rest => some (.closeObject, rest)
  | ',' :: rest => some (.comma, rest)
  | ':' :: rest => some (.colon, rest)
  | 'n' :: 'u' :: 'l' :: 'l' :: rest => some (.scalar .null, rest)
  | 't' :: 'r' :: 'u' :: 'e' :: rest => some (.scalar (.bool true), rest)
  | 'f' :: 'a' :: 'l' :: 's' :: 'e' :: rest => some (.scalar (.bool false), rest)
  | '"' :: rest => (string? (rest.length + 1) rest).map fun (cs, rest) =>
      (.scalar (.text (String.ofList cs)), rest)
  | chars => (number? chars).map fun (value, rest) => (.scalar value, rest)

/-- The tokens of a text, `fuel` at most. -/
def tokens? : Nat → List Char → Option (List Token)
  | 0, _ => none
  | fuel + 1, chars =>
    match chars.dropWhile isSpace with
    | [] => some []
    | rest => do
      let (token, rest) ← token? rest
      return token :: (← tokens? fuel rest)

/-- A container that is still open; its parts come last one first. -/
inductive Frame where
  | array (items : List Json)
  | object (entries : List (String × Json))
  /-- An object whose next value belongs to `key`. -/
  | entry (entries : List (String × Json)) (key : String)

/-- What the machine takes next. -/
inductive Expecting where
  | value
  | itemOrEnd
  | key
  | keyOrEnd
  | colon
  | separator
  | nothing (result : Json)

/-- The open containers, innermost first, and what comes next. -/
structure Machine where
  open_ : List Frame
  expecting : Expecting

namespace Machine

/-- Puts a complete value where the machine stands. -/
def accept (m : Machine) (value : Json) : Option Machine :=
  match m.open_ with
  | [] => some ⟨[], .nothing value⟩
  | .array items :: outer => some ⟨.array (value :: items) :: outer, .separator⟩
  | .entry entries key :: outer => some ⟨.object ((key, value) :: entries) :: outer, .separator⟩
  | .object _ :: _ => none

/-- Opens a container, unless `limit` are open already. -/
def descend (m : Machine) (limit : Nat) (frame : Frame) (expecting : Expecting) : Option Machine :=
  if m.open_.length < limit then some ⟨frame :: m.open_, expecting⟩ else none

/-- Takes the beginning of a value. -/
def beginValue (m : Machine) (limit : Nat) : Token → Option Machine
  | .scalar value => m.accept value
  | .openArray => m.descend limit (.array []) .itemOrEnd
  | .openObject => m.descend limit (.object []) .keyOrEnd
  | _ => none

/-- Closes the innermost container. -/
def close (m : Machine) : Option Machine :=
  match m.open_ with
  | .array items :: outer => (Machine.mk outer .value).accept (.array items.reverse)
  | .object entries :: outer => (Machine.mk outer .value).accept (ofEntries entries.reverse)
  | _ => none

/-- Takes the key of an entry. -/
def beginEntry (m : Machine) : Token → Option Machine
  | .scalar (.text key) =>
    match m.open_ with
    | .object entries :: outer => some ⟨.entry entries key :: outer, .colon⟩
    | _ => none
  | _ => none

/-- Takes one token. -/
def step (limit : Nat) (m : Machine) (token : Token) : Option Machine :=
  match m.expecting, token with
  | .value, token => m.beginValue limit token
  | .itemOrEnd, .closeArray => m.close
  | .itemOrEnd, token => m.beginValue limit token
  | .key, token => m.beginEntry token
  | .keyOrEnd, .closeObject => m.close
  | .keyOrEnd, token => m.beginEntry token
  | .colon, .colon => some { m with expecting := .value }
  | .separator, .comma =>
    match m.open_ with
    | .array _ :: _ => some { m with expecting := .value }
    | .object _ :: _ => some { m with expecting := .key }
    | _ => none
  | .separator, .closeArray =>
    match m.open_ with
    | .array _ :: _ => m.close
    | _ => none
  | .separator, .closeObject =>
    match m.open_ with
    | .object _ :: _ => m.close
    | _ => none
  | _, _ => none

end Machine

/-- The value that tokens spell, with at most `limit` containers inside each other. -/
def ofTokens? (limit : Nat) (tokens : List Token) : Option Json := do
  let m ← tokens.foldlM (Machine.step limit) ⟨[], .value⟩
  match m.expecting with
  | .nothing result => some result
  | _ => none

/-- Reads a text with at most `limit` containers inside each other. -/
def readWithin? (limit : Nat) (text : String) : Option Json :=
  let chars := text.toList
  (tokens? (chars.length + 1) chars).bind (ofTokens? limit)

/-- Reads a text that holds one value; at most 127 containers may stand inside each other. -/
def read? (text : String) : Option Json := readWithin? 127 text

end Typology.Json
