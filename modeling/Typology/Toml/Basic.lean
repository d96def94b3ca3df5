/-!
Values of TOML documents.
-/

namespace Typology

/-- A TOML value. -/
inductive Toml where
  | text (s : String)
  | int (n : Int)
  | float (x : Float)
  | bool (b : Bool)
  /-- A date, a time of day, or both, as it is written. -/
  | moment (written : String)
  | array (items : List Toml)
  | table (entries : List (String × Toml))
deriving Inhabited, BEq, Repr

end Typology
