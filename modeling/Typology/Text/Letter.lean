import Typology.Text.CaseTable
import Typology.Text.LetterTable
/-!
Letters and numbers of all scripts, and the lower case of whole texts. Letters are mapped one by
one, except for the capital sigma, whose lower case depends on whether it ends a word.
-/

namespace Typology.Text

/-! ## Kinds of characters -/

/-- Whether a character lies in one of the ranges. -/
def inRanges (ranges : List (Nat × Nat)) (c : Char) : Bool :=
  ranges.any fun (first, last) => first ≤ c.toNat && c.toNat ≤ last

/-- Whether a character is alphabetic. -/
def isAlphabetic (c : Char) : Bool := inRanges LetterTable.alphabetic c

/-- Whether a character is a number of any kind. -/
def isNumeric (c : Char) : Bool := inRanges LetterTable.numeric c

/-- Whether a character is alphabetic or a number. -/
def isAlphanumeric (c : Char) : Bool := isAlphabetic c || isNumeric c

/-- Whether a character has case. -/
def isCased (c : Char) : Bool := inRanges CaseTable.cased c

/-- Whether a character is passed over when a word's case is looked at. -/
def isCaseIgnorable (c : Char) : Bool := inRanges CaseTable.caseIgnorable c

/-! ## Lower case -/

/-- The lower case of one character, which is two characters only for the dotted capital I. -/
def lowerChar (c : Char) : List Char :=
  if c.toNat < 0x80 then [c.toLower]
  else if c.toNat = 0x130 then ['i', Char.ofNat 0x307]
  else
    match CaseTable.lowerings.find? fun (first, last, distance, _) =>
        first ≤ c.toNat && c.toNat ≤ last && (c.toNat - first) % distance == 0 with
    | some (_, _, _, shift) => [Char.ofNat (c.toNat + shift).toNat]
    | none => [c]

/-- Whether the first character that matters for case has case. -/
def facesCased (text : List Char) : Bool :=
  match text.dropWhile isCaseIgnorable with
  | [] => false
  | c :: _ => isCased c

/-- Lower case of a text that follows the characters `before`, the last one first. A capital sigma
after a cased character and before none is a final sigma. -/
def lowerFrom (before : List Char) : List Char → List Char
  | [] => []
  | c :: rest =>
    let lowered :=
      if c.toNat = 0x3A3 then
        [Char.ofNat (if facesCased before && !facesCased rest then 0x3C2 else 0x3C3)]
      else lowerChar c
    lowered ++ lowerFrom (c :: before) rest

/-- The text in lower case. -/
def lowercase (s : String) : String := String.ofList (lowerFrom [] s.toList)

end Typology.Text
