import Typology.Dictionary
/-!
JSON values. A number is whole or a float, and stays what it was read as.
-/

namespace Typology

/-- A JSON value. -/
inductive Json where
  | null
  | bool (b : Bool)
  | int (n : Int)
  | float (x : Float)
  | text (s : String)
  | array (items : List Json)
  | object (entries : List (String × Json))
deriving Inhabited, BEq, Repr

namespace Json

/-- Whether a value is `null`. -/
def isNull : Json → Bool
  | .null => true
  | _ => false

/-- The value under a key of an object. -/
def get? (key : String) : Json → Option Json
  | .object entries => Dictionary.lookup key entries
  | _ => none

/-- The object with the given entries, sorted by key; under a repeated key the last value stays. -/
def ofEntries (entries : List (String × Json)) : Json :=
  .object (Dictionary.ofList entries).entries

end Json

end Typology
