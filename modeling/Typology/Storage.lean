/-!
Storage of text files: what a program sees of a disk.
-/

namespace Typology

/-- Why a file cannot be read. -/
inductive ReadError where
  | notFound
  | notDirectory
  | isDirectory
  | nameTooLong
  | zeroInName
  | notText
  | other (message : String)
deriving DecidableEq, Repr

/-- The wording of a failed reading. -/
def ReadError.message : ReadError → String
  | .notFound => "No such file or directory (os error 2)"
  | .notDirectory => "Not a directory (os error 20)"
  | .isDirectory => "Is a directory (os error 21)"
  | .nameTooLong => "File name too long (os error 36)"
  | .zeroInName => "file name contained an unexpected NUL byte"
  | .notText => "stream did not contain valid UTF-8"
  | .other message => message

/-- The text at each path, or why there is none. -/
structure Storage where
  read : String → Except ReadError String

/-- Whether there is something at a path. -/
def Storage.contains (s : Storage) (path : String) : Bool :=
  match s.read path with
  | .error .notFound | .error .notDirectory | .error .nameTooLong | .error .zeroInName => false
  | _ => true

/-- The storage that knows only some paths. -/
def Storage.ofList (known : List (String × Except ReadError String)) : Storage where
  read path := ((known.find? (·.1 == path)).map (·.2)).getD (.error .notFound)

end Typology
