import Typology.Value
/-!
Comparison of values under six modes, and matching k of a set. Whole numbers and floats compare
as numbers, values of other mixed types do not compare.
-/

namespace Typology

/-- One of the six comparisons. -/
inductive Mode where
  | eq
  | neq
  | gt
  | geq
  | lt
  | leq
deriving DecidableEq, Repr

namespace Mode

/-- The six modes. -/
def all : List Mode := [eq, neq, gt, geq, lt, leq]

/-- A text that names no mode. -/
structure Unrecognized where
  text : String
deriving DecidableEq, Repr

/-- The wording of the error for a text that names no mode. -/
def Unrecognized.message (e : Unrecognized) : String :=
  "Unrecognized comparison mode '" ++ e.text ++ "'"

/-- Whether a text is the word `all`, which asks for every target. -/
def isAll (text : String) : Bool := Text.sameIgnoringAsciiCase (Text.trim text) "all"

/-- The mode that a text names, by code, by sign or by phrase. The word `all` names `geq`. -/
def parse (text : String) : Except Unrecognized Mode :=
  match Text.asciiLower (Text.trim text) with
  | "eq" | "==" | "=" | "exactly" => .ok eq
  | "neq" | "ne" | "!=" | "<>" | "not equal to" => .ok neq
  | "gt" | ">" | "more than" => .ok gt
  | "geq" | "ge" | ">=" | "at least" | "all" => .ok geq
  | "lt" | "<" | "less than" => .ok lt
  | "leq" | "le" | "<=" | "at most" => .ok leq
  | _ => .error ⟨text⟩

/-- The short name of a mode. -/
def code : Mode → String
  | eq => "eq"
  | neq => "neq"
  | gt => "gt"
  | geq => "geq"
  | lt => "lt"
  | leq => "leq"

/-- The phrase that descriptions use for a mode. -/
def phrase : Mode → String
  | eq => "exactly"
  | neq => "not equal to"
  | gt => "more than"
  | geq => "at least"
  | lt => "less than"
  | leq => "at most"

/-- Whether a mode accepts an ordering of the left side relative to the right one. -/
def accepts : Mode → Ordering → Bool
  | eq, o => o == .eq
  | neq, o => o != .eq
  | gt, o => o == .gt
  | geq, o => o != .lt
  | lt, o => o == .lt
  | leq, o => o != .gt

/-- Whether a mode accepts two sides, given their ordering; without one only `neq` does. -/
def holds (mode : Mode) : Option Ordering → Bool
  | some o => mode.accepts o
  | none => mode == neq

end Mode

/-- The order of two floats, which have none if one is not a number. -/
def compareFloats (x y : Float) : Option Ordering :=
  if x < y then some .lt
  else if x == y then some .eq
  else if y < x then some .gt
  else none

/-- The order of two texts, by their characters. -/
def compareTexts (a b : String) : Ordering :=
  if a < b then .lt else if a = b then .eq else .gt

/-- The order of two words. -/
def compareWords (a b : Int64) : Ordering := compare a.toInt b.toInt

/-- The order of two bools: `false` comes first. -/
def compareBools (a b : Bool) : Ordering := compare a.toNat b.toNat

/-- The distance from one to the next larger float. Floats closer than this are equal. -/
def tolerance : Float := 1 / 4503599627370496

/-- Whether two floats are closer than `tolerance`. -/
def nearlyEqual (x y : Float) : Bool := (x - y).abs < tolerance

namespace Primitive

/-- Whether two primitives are equal as values: numbers are compared as numbers, within
`tolerance` if one is a float, and two floats that are not numbers are equal. -/
def valuesEqual : Primitive → Primitive → Bool
  | int m, float y => nearlyEqual (widen m) y.toFloat
  | float x, int n => nearlyEqual x.toFloat (widen n)
  | float x, float y =>
    nearlyEqual x.toFloat y.toFloat || (x.toFloat.isNaN && y.toFloat.isNaN)
  | a, b => a == b

/-- The order of two primitives of compatible type. -/
def compareValues : Primitive → Primitive → Option Ordering
  | int m, int n => some (compareWords m n)
  | float x, float y => compareFloats x.toFloat y.toFloat
  | int m, float y => compareFloats (widen m) y.toFloat
  | float x, int n => compareFloats x.toFloat (widen n)
  | text s, text t => some (compareTexts s t)
  | bool a, bool b => some (compareBools a b)
  | _, _ => none

/-- Whether a mode accepts two primitives. `eq` and `neq` always have an answer, the other modes
only where there is an order. -/
def compareUnder (mode : Mode) (a b : Primitive) : Option Bool :=
  match mode with
  | .eq => some (a.valuesEqual b)
  | .neq => some !(a.valuesEqual b)
  | mode => (a.compareValues b).map mode.accepts

end Primitive

/-- The items that also occur among the targets, in their own order. -/
def intersection (items targets : List Primitive) : List Primitive :=
  items.filter fun item => targets.any fun target => item.valuesEqual target

/-- The items that a set has in common with the targets, if their number compares to `k` under
`mode`. -/
def matchSet? (items targets : List Primitive) (k : Nat) (mode : Mode) :
    Option (List Primitive) :=
  let common := intersection items targets
  if mode.accepts (compare common.length k) then some common else none

end Typology
