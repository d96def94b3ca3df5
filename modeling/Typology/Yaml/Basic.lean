/-!
Values of YAML documents. A value can have a name, and other places can refer to it; the reference
is kept, so that a value may even refer to itself.
-/

namespace Typology

namespace Yaml

/-- How a scalar is written: without signs, between quotes, or as a block of lines. -/
inductive Style where
  | plain
  | quoted
  | literal
  | folded
deriving DecidableEq, Repr

end Yaml

/-- A YAML value. Scalars are texts; what a plain one stands for depends on who asks. A name is
the position of the named value among the named values of the document. -/
inductive Yaml where
  | scalar (tag : Option String) (style : Yaml.Style) (text : String)
  | sequence (items : List Yaml)
  | mapping (entries : List (Yaml × Yaml))
  | named (name : Nat) (value : Yaml)
  | reference (name : Nat)
deriving Inhabited, BEq, Repr

namespace Yaml

/-- The value that stands where nothing is written. -/
def nothing : Yaml := .scalar none .plain ""

mutual

/-- The value of a name in a value, which may be that value itself. -/
def find? (name : Nat) : Yaml → Option Yaml
  | scalar _ _ _ => none
  | sequence items => findItem? name items
  | mapping entries => findEntry? name entries
  | named other value => if name = other then some value else find? name value
  | reference _ => none

/-- The value of a name in a list of values. -/
def findItem? (name : Nat) : List Yaml → Option Yaml
  | [] => none
  | item :: rest => find? name item <|> findItem? name rest

/-- The value of a name in the entries of a mapping. -/
def findEntry? (name : Nat) : List (Yaml × Yaml) → Option Yaml
  | [] => none
  | (key, value) :: rest => find? name key <|> find? name value <|> findEntry? name rest

end

/-- A document: its value, and the texts of its names in the order in which they are given. -/
structure Document where
  root : Yaml
  names : List String

namespace Document

/-- The slot of a name: the number of different names before it. A name that is given again can
come to share a slot with the next new one. -/
def slot (d : Document) (name : Nat) : Nat := (d.names.take name).eraseDups.length

/-- The last of the names in the slot of a name. A slot belongs to the last value that takes it. -/
def holder (d : Document) (name : Nat) : Nat :=
  ((List.range d.names.length).reverse.find? fun other => d.slot other == d.slot name).getD name

/-- The value itself, for one with a name or for a reference to one. -/
def resolve (d : Document) : Yaml → Yaml
  | .named _ value => value
  | .reference name => (d.root.find? (d.holder name)).getD nothing
  | value => value

end Document

end Yaml

end Typology
