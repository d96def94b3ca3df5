import Typology.Toml.Basic
import Typology.Dictionary
/-!
Documents in the making. Tables grow line by line, and how a table came about decides what may
still be added to it.
-/

namespace Typology.Toml

/-- How a table came about. -/
inductive Origin where
  /-- It has a header of its own. -/
  | header
  /-- It lies on the way to a table with a header. -/
  | implied
  /-- It lies on the way to a value with a dotted key. -/
  | dotted
deriving DecidableEq, Repr

/-- What stands under a key of a table in the making. -/
inductive Item where
  | value (v : Toml)
  | table (origin : Origin) (entries : List (String × Item))
  /-- A list of tables with headers; the last one can still grow. -/
  | tables (items : List (List (String × Item)))

namespace Item

mutual

/-- The value of a finished item. -/
def toToml : Item → Toml
  | .value v => v
  | .table _ entries => .table (tomlEntries entries)
  | .tables items => .array (tomlTables items)

/-- The values of finished entries. -/
def tomlEntries : List (String × Item) → List (String × Toml)
  | [] => []
  | (key, item) :: rest => (key, item.toToml) :: tomlEntries rest

/-- The values of finished tables. -/
def tomlTables : List (List (String × Item)) → List Toml
  | [] => []
  | entries :: rest => .table (tomlEntries entries) :: tomlTables rest

end

end Item

/-- The entries of a table in the making, in the order in which their keys are first met. -/
abbrev Entries := List (String × Item)

namespace Entries

/-- Puts an item under a key: in place of the one there, or at the end. -/
def put (key : String) (item : Item) : Entries → Entries
  | [] => [(key, item)]
  | (other, old) :: rest =>
    if other = key then (key, item) :: rest else (other, old) :: put key item rest

/-- Changes the table at a path below a table. Missing tables are made; `dotted` says on whose way
they lie. A dotted key does not enter a table that has a header. -/
def alter (dotted : Bool) (change : Origin → Entries → Option Entries) :
    List String → Origin → Entries → Option Entries
  | [], origin, entries => change origin entries
  | key :: path, _, entries =>
    match Dictionary.lookup key entries with
    | none =>
      let origin := if dotted then Origin.dotted else .implied
      (alter dotted change path origin []).map fun inner => put key (.table origin inner) entries
    | some (.value _) => none
    | some (.table origin inner) =>
      if dotted ∧ origin = .header then none
      else
        (alter dotted change path origin inner).map fun inner =>
          put key (.table origin inner) entries
    | some (.tables items) =>
      (alter dotted change path .header (items.getLast?.getD [])).map fun inner =>
        put key (.tables (items.dropLast ++ [inner])) entries

/-- Splits a key into the path to its table and its last part. -/
def splitLast (first : String) : List String → List String × String
  | [] => ([], first)
  | second :: rest =>
    let (path, last) := splitLast second rest
    (first :: path, last)

/-- Adds a value under a dotted key to a table; the key must be new, and its table must have come
about by dotted keys. -/
def addValue (key : List String) (value : Toml) (entries : Entries) : Option Entries :=
  match key with
  | [] => none
  | first :: rest =>
    let (path, last) := splitLast first rest
    alter true (fun origin inner =>
      if (origin = .dotted) = (path ≠ []) ∧ (Dictionary.lookup last inner).isNone then
        some (put last (.value value) inner)
      else none) path .header entries

/-- Opens the table of a header, which must not have been opened before. -/
def openTable (key : List String) (entries : Entries) : Option Entries :=
  match key with
  | [] => none
  | first :: rest =>
    let (path, last) := splitLast first rest
    alter false (fun _ inner =>
      match Dictionary.lookup last inner with
      | none => some (put last (.table .header []) inner)
      | some (.table .implied kept) => some (put last (.table .header kept) inner)
      | some _ => none) path .header entries

/-- Opens a further table of a list of tables. -/
def openListed (key : List String) (entries : Entries) : Option Entries :=
  match key with
  | [] => none
  | first :: rest =>
    let (path, last) := splitLast first rest
    alter false (fun _ inner =>
      match Dictionary.lookup last inner with
      | none => some (put last (.tables [[]]) inner)
      | some (.tables items) => some (put last (.tables (items ++ [[]])) inner)
      | some _ => none) path .header entries

end Entries

/-- A document in the making: its entries, and the path of the table that grows. -/
structure Draft where
  entries : Entries
  current : List String

namespace Draft

/-- The document without lines. -/
def empty : Draft := ⟨[], []⟩

/-- Adds a value to the table that grows. -/
def addValue (d : Draft) (key : List String) (value : Toml) : Option Draft :=
  (Entries.alter false (fun _ inner => Entries.addValue key value inner) d.current .header
    d.entries).map fun entries => { d with entries }

/-- Goes on with the table of a header. -/
def openTable (d : Draft) (key : List String) : Option Draft :=
  (Entries.openTable key d.entries).map fun entries => ⟨entries, key⟩

/-- Goes on with a further table of a list of tables. -/
def openListed (d : Draft) (key : List String) : Option Draft :=
  (Entries.openListed key d.entries).map fun entries => ⟨entries, key⟩

/-- The finished document. -/
def finish (d : Draft) : Toml := (Item.table .header d.entries).toToml

end Draft

end Typology.Toml
