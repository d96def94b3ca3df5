/-!
Finding and splitting: occurrences of one text in another, and the pieces between them.
-/

namespace Typology.Text

/-- Whether `needle` occurs in a text. -/
def occursIn (needle : List Char) : List Char → Bool
  | [] => needle.isEmpty
  | c :: rest => needle.isPrefixOf (c :: rest) || occursIn needle rest

/-- Whether `hay` contains `needle`. -/
def contains (hay needle : String) : Bool := occursIn needle.toList hay.toList

/-- Puts a character in front of the first piece. -/
def consPiece (c : Char) : List (List Char) → List (List Char)
  | [] => [[c]]
  | piece :: pieces => (c :: piece) :: pieces

/-- The pieces of a text between the occurrences of `separator`, where the first `skip` characters
belong to the occurrence just met. -/
def piecesFrom (separator : List Char) : Nat → List Char → List (List Char)
  | _, [] => [[]]
  | skip + 1, _ :: rest => piecesFrom separator skip rest
  | 0, c :: rest =>
    if separator.isPrefixOf (c :: rest) then [] :: piecesFrom separator (separator.length - 1) rest
    else consPiece c (piecesFrom separator 0 rest)

/-- The pieces of `text` between the occurrences of a non-empty `separator`, which are looked for
from the left and do not overlap. -/
def pieces (separator text : List Char) : List (List Char) := piecesFrom separator 0 text

theorem piecesFrom_ne_nil (separator : List Char) (skip : Nat) (text : List Char) :
    piecesFrom separator skip text ≠ [] := by
  induction text generalizing skip with
  | nil => cases skip <;> simp [piecesFrom]
  | cons c rest ih =>
      cases skip with
      | succ skip => simpa [piecesFrom] using ih skip
      | zero =>
          simp only [piecesFrom]
          split
          · simp
          · cases h : piecesFrom separator 0 rest <;> simp [consPiece]

/-- The text split at each occurrence of one character. -/
def splitAt (separator : Char) (text : List Char) : List (List Char) := pieces [separator] text

end Typology.Text
