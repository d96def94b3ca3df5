import Typology.Yaml.Text
/-!
The written forms of tags. A tag has a handle, which stands for the beginning of its text, and a
suffix; directives say what handles stand for.
-/

namespace Typology.Yaml

/-- A tag as it is written. -/
structure Tag where
  handle : String
  suffix : String
deriving DecidableEq, Repr

/-- The text up to the first zero character. -/
def cut (chars : List Char) : String := String.ofList (chars.takeWhile (· != '\x00'))

/-- Whether a character may stand in a tag as it is. Within angle brackets there are three more. -/
def isTagChar (bracketed : Bool) (c : Char) : Bool :=
  isNameChar c || ";/?:@&=+$.!~*'()".toList.contains c || (bracketed && ",[]".toList.contains c)

/-- Takes an octet written as a percent sign and two hexadecimal digits. -/
def octet? : List Spot → Option (Nat × List Spot)
  | s :: rest => do
    if s.char ≠ '%' ∨ rest.length < 2 then none
    else
      let n ← (charsOf (rest.take 2)).foldlM (fun n c => (digit? c).map (16 * n + ·)) 0
      return (n, rest.drop 2)
  | [] => none
where
  digit? (c : Char) : Option Nat :=
    if c.isDigit then some (c.toNat - 48)
    else if 'a' ≤ c ∧ c ≤ 'f' then some (c.toNat - 87)
    else if 'A' ≤ c ∧ c ≤ 'F' then some (c.toNat - 55)
    else none

/-- Takes further octets of one character, each with six bits. -/
def octets? : Nat → Nat → List Spot → Option (Nat × List Spot)
  | 0, n, spots => some (n, spots)
  | count + 1, n, spots => do
    let (octet, rest) ← octet? spots
    if octet / 64 = 2 then octets? count (64 * n + octet % 64) rest else none

/-- Takes a character written as octets. One that could be written with fewer of them, or does not
exist, is shown as the replacement character. -/
def octetChar? (spots : List Spot) : Option (Char × List Spot) := do
  let (lead, rest) ← octet? spots
  if lead < 0x80 then return (Char.ofNat lead, rest)
  else
    let (count, bits) ← if lead / 32 = 6 then some (1, lead % 32)
      else if lead / 16 = 14 then some (2, lead % 16)
      else if lead / 8 = 30 then some (3, lead % 8)
      else none
    let (n, rest) ← octets? count bits rest
    let least := if count = 1 then 0x80 else if count = 2 then 0x800 else 0x10000
    return (if n.isValidChar ∧ least ≤ n then Char.ofNat n else '\uFFFD', rest)

/-- Takes the text of a tag, `fuel` characters at most. -/
def tagText? (bracketed : Bool) : Nat → List Spot → Option (List Char × List Spot)
  | 0, spots => some ([], spots)
  | _, [] => some ([], [])
  | fuel + 1, s :: rest => do
    if s.char = '%' then
      let (c, rest) ← octetChar? (s :: rest)
      let (cs, rest) ← tagText? bracketed fuel rest
      return (c :: cs, rest)
    else if isTagChar bracketed s.char then
      let (cs, rest) ← tagText? bracketed fuel rest
      return (s.char :: cs, rest)
    else some ([], s :: rest)

/-- Takes the text of a tag that is not empty. -/
def someTagText? (bracketed : Bool) (spots : List Spot) : Option (List Char × List Spot) :=
  (tagText? bracketed spots.length spots).filter fun (text, _) => !text.isEmpty

/-- Takes what may be a handle after its exclamation mark: a name, and perhaps a second mark. -/
def handle (spots : List Spot) : List Char × List Spot :=
  let (name, rest) := spots.span (isNameChar ·.char)
  match rest with
  | s :: next => if s.char = '!' then (charsOf name ++ ['!'], next) else (charsOf name, rest)
  | [] => (charsOf name, [])

/-- Reads a tag after its exclamation mark: a text in angle brackets, or a handle with a suffix, or
a suffix of the plain handle. The mark alone is a tag of its own. -/
def tag? (spots : List Spot) : Option (Tag × List Spot) :=
  match spots with
  | s :: rest =>
    if s.char = '<' then do
      let (text, rest) ← someTagText? true rest
      match rest with
      | t :: next => if t.char = '>' then return (⟨"", cut text⟩, next) else none
      | [] => none
    else
      let (name, rest) := handle spots
      if name.getLast? = some '!' then
        (someTagText? false rest).map fun (text, rest) =>
          (⟨String.ofList ('!' :: name), cut text⟩, rest)
      else
        (tagText? false rest.length rest).map fun (text, rest) =>
          let suffix := cut (name ++ text)
          (if suffix = "" then ⟨"", "!"⟩ else ⟨"!", suffix⟩, rest)
  | [] => some (⟨"", "!"⟩, [])

/-- Whether a tag ends where it has to. -/
def endsTag (flow : Bool) (rest : List Spot) : Bool :=
  startsBlank rest || (flow && startsWith (· == ',') rest)

/-! ## Directives -/

/-- A directive at the beginning of a document: the version, or what a handle stands for. -/
inductive Directive where
  | version (major minor : Nat)
  | handle (handle text : String)
deriving DecidableEq, Repr

/-- Takes a number of at most nine digits. -/
def versionNumber? (spots : List Spot) : Option (Nat × List Spot) :=
  let (digits, rest) := spots.span (·.char.isDigit)
  if digits.isEmpty ∨ 9 < digits.length then none
  else some ((charsOf digits).foldl (fun n c => 10 * n + (c.toNat - 48)) 0, rest)

/-- Reads the number of a version. -/
def version? (spots : List Spot) : Option (Directive × List Spot) := do
  let (major, rest) ← versionNumber? spots
  if startsWith (· == '.') rest then
    let (minor, rest) ← versionNumber? (rest.drop 1)
    return (.version major minor, rest)
  else none

/-- Reads a handle and its text. A handle is a mark, or ends with one. -/
def handleDirective? (spots : List Spot) : Option (Directive × List Spot) := do
  if !startsWith (· == '!') spots then none
  else
    let (name, rest) := handle (spots.drop 1)
    if !(name.isEmpty || name.getLast? == some '!') || !startsWith isBlank rest then none
    else
      let (text, rest) ← someTagText? true (skipBlanks rest)
      if startsBlank rest then return (.handle (String.ofList ('!' :: name)) (cut text), rest)
      else none

/-- Reads a directive after its percent sign, with the end of its line. -/
def directive? (spots : List Spot) : Option (Directive × List Spot) := do
  let (name, rest) := spots.span (isNameChar ·.char)
  if !startsBlank rest then none
  else
    let (directive, rest) ← match String.ofList (charsOf name) with
      | "YAML" => version? (skipBlanks rest)
      | "TAG" => handleDirective? (skipBlanks rest)
      | _ => none
    return (directive, ← lineEnd? rest)

end Typology.Yaml
