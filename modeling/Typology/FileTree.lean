import Typology.Path
import Typology.Storage
/-!
Files held in memory, in directories below a working directory.
-/

namespace Typology

/-- Files and directories by the parts of their paths; a directory has no text. -/
structure FileTree where
  entries : List (List String × Option String)

namespace FileTree

/-- The parts of a path that name something. -/
def route (path : String) : List String :=
  (Path.parts path).filter fun part => part ≠ "" ∧ part ≠ "."

/-- The tree of files with their texts and of directories, which have none. -/
def ofList (files : List (String × Option String)) : FileTree :=
  ⟨files.map fun (path, text) => (route path, text)⟩

/-- What stands at a place: `some text` for a file, `none` for a directory. The directories above
an entry exist as well, and the working directory always does. -/
def find? (t : FileTree) (place : List String) : Option (Option String) :=
  match t.entries.find? (·.1 == place) with
  | some entry => some entry.2
  | none =>
    if place = [] ∨ t.entries.any fun entry => place.isPrefixOf entry.1 then some none else none

/-- The greatest length of a part of a path, in bytes. -/
def longestName : Nat := 255

/-- The greatest length of a path, in bytes. -/
def longestPath : Nat := 4095

/-- Follows the parts of a path from the directory at `place`, whose parts come last one first.
What is passed through has to be a directory, in which no name is too long, and there is nothing
outside the working directory. -/
def follow (t : FileTree) : List String → List String → Except ReadError String
  | place, [] =>
    match t.find? place.reverse with
    | none => .error .notFound
    | some none => .error .isDirectory
    | some (some text) => .ok text
  | place, part :: rest =>
    match t.find? place.reverse with
    | none => .error .notFound
    | some (some _) => .error .notDirectory
    | some none =>
      if part = "" ∨ part = "." then t.follow place rest
      else if part = ".." then
        match place with
        | [] => .error .notFound
        | _ :: outer => t.follow outer rest
      else if longestName < part.utf8ByteSize then .error .nameTooLong
      else t.follow (part :: place) rest

/-- The files of a tree as storage. Outside the working directory there is nothing. -/
def toStorage (t : FileTree) : Storage where
  read path :=
    if path.toList.contains '\x00' then .error .zeroInName
    else if longestPath < path.utf8ByteSize then .error .nameTooLong
    else if path = "" then .error .notFound
    else if Path.isAbsolute path.toList then (FileTree.mk []).follow [] (Path.parts path)
    else t.follow [] (Path.parts path)

end FileTree

end Typology
