import Typology.Yaml.Basic
/-!
The text of YAML documents: each character with the place where it stands, and line breaks written
in one way.
-/

namespace Typology.Yaml

/-- Whether a character is a blank. -/
def isBlank (c : Char) : Bool := c == ' ' || c == '\t'

/-- Whether a character breaks the line, once all common breaks are line feeds. -/
def isBreak (c : Char) : Bool := c == '\n' || c == '\u2028' || c == '\u2029'

/-- Whether a character is a blank or a line break. -/
def isSpace (c : Char) : Bool := isBlank c || isBreak c

/-- Whether a character may stand in a name. -/
def isNameChar (c : Char) : Bool := c.isAlphanum || c == '-' || c == '_'

/-- Whether a character separates the parts of a bracketed collection. -/
def isFlowIndicator (c : Char) : Bool :=
  c == ',' || c == '[' || c == ']' || c == '\x7b' || c == '\x7d'

/-- A character of a document and its place: the number of characters before it, of lines before
its line, and of characters before it on its line. -/
structure Spot where
  char : Char
  index : Nat
  line : Nat
  column : Nat
deriving DecidableEq, Repr

/-- The spots of a text that starts at a place. A carriage return, a line feed, both together, and
a next-line character are each one line feed; the line and paragraph separators stay themselves. -/
def spotsFrom (index line column : Nat) : List Char → List Spot
  | [] => []
  | '\r' :: '\n' :: rest => ⟨'\n', index, line, column⟩ :: spotsFrom (index + 2) (line + 1) 0 rest
  | c :: rest =>
    let char := if c = '\r' ∨ c = '\u0085' then '\n' else c
    ⟨char, index, line, column⟩ ::
      if isBreak char then spotsFrom (index + 1) (line + 1) 0 rest
      else spotsFrom (index + 1) line (column + 1) rest

/-- The characters of spots. -/
def charsOf (spots : List Spot) : List Char := spots.map Spot.char

/-- Whether a text starts with a character of a kind. -/
def startsWith (kind : Char → Bool) (spots : List Spot) : Bool :=
  spots.head?.any fun s => kind s.char

/-- Whether a text is empty or starts with a blank or a line break. -/
def startsBlank (spots : List Spot) : Bool := spots.head?.all fun s => isSpace s.char

/-- Whether a line starts with three times a sign, and nothing else in that word. -/
def isMark (sign : Char) : List Spot → Bool
  | a :: b :: c :: rest =>
    a.column == 0 && a.char == sign && b.char == sign && c.char == sign && startsBlank rest
  | _ => false

/-- Whether a line starts with the mark of the beginning or the end of a document. -/
def isMarked (spots : List Spot) : Bool := isMark '-' spots || isMark '.' spots

/-- Splits blanks off the beginning of a text. -/
def skipBlanks (spots : List Spot) : List Spot := spots.dropWhile fun s => isBlank s.char

/-- Splits blanks and line breaks off the beginning of a text. -/
def splitSpace (spots : List Spot) : List Spot × List Spot := spots.span fun s => isSpace s.char

/-- Takes the end of a line, which may have a comment. -/
def lineEnd? (spots : List Spot) : Option (List Spot) :=
  let rest := skipBlanks spots
  let rest := if startsWith (· == '#') rest then rest.dropWhile (!isBreak ·.char) else rest
  match rest with
  | [] => some []
  | s :: rest => if isBreak s.char then some rest else none

/-- Whether a character may stand in a document. -/
def isAllowed (c : Char) : Bool :=
  let n := c.toNat
  n == 0x09 || n == 0x0A || n == 0x0D || (0x20 ≤ n && n ≤ 0x7E) || n == 0x85 ||
    (0xA0 ≤ n && n ≤ 0xFFFD) || 0x10000 ≤ n

end Typology.Yaml
