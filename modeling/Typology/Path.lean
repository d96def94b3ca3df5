/-!
File paths as texts: joining them, and the extension of the last part.
-/

namespace Typology.Path

/-- Whether a path starts at the root. -/
def isAbsolute (path : List Char) : Bool := path.head? == some '/'

/-- Appends a path to another one, with a slash between them unless there is one or nothing stands
before it. An absolute path replaces the one before it. -/
def joinChars (base path : List Char) : List Char :=
  if isAbsolute path then path
  else if base.isEmpty ∨ base.getLast? = some '/' then base ++ path
  else base ++ '/' :: path

/-- Appends a path to another one. -/
def join (base path : String) : String := String.ofList (joinChars base.toList path.toList)

/-- Splits characters at each slash. -/
def splitSlashes : List Char → List (List Char)
  | [] => [[]]
  | c :: rest =>
    match splitSlashes rest with
    | [] => [[c]]
    | part :: parts => if c = '/' then [] :: part :: parts else (c :: part) :: parts

/-- The parts of a path between its slashes. -/
def parts (path : String) : List String := (splitSlashes path.toList).map String.ofList

/-- The last part of a path; empty parts and dots at its end do not count, and a parent directory
has no name. -/
def fileName? (path : String) : Option String :=
  ((parts path).filter fun part => part ≠ "" ∧ part ≠ ".").getLast?.filter (· ≠ "..")

/-- What follows the last point of a file name; a point at its beginning starts no extension. -/
def extensionOf (name : List Char) : Option (List Char) :=
  let after := name.reverse.takeWhile (· ≠ '.')
  if after.length + 1 < name.length then some after.reverse else none

/-- The extension of the last part of a path. -/
def extension? (path : String) : Option String :=
  (fileName? path).bind fun name => (extensionOf name.toList).map String.ofList

end Typology.Path
