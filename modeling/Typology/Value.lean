import Typology.RecordError
import Typology.Decimal.Reading
/-!
Datapoint values: primitives, and ordered lists of primitives. Equality of values is identity:
two floats are equal when they have the same bits, and a whole number never equals a float.
-/

namespace Typology

/-- A single value. -/
inductive Primitive where
  | bool (b : Bool)
  | int (n : Int64)
  | float (x : Binary64)
  | text (s : String)
deriving DecidableEq, Repr, Inhabited

/-- The names that error messages use for types. -/
inductive TypeName where
  | bool
  | int
  | float
  | str
  | list
  | language
deriving DecidableEq, Repr

/-- The wording of a type name. -/
def TypeName.label : TypeName → String
  | .bool => "bool"
  | .int => "int"
  | .float => "float"
  | .str => "str"
  | .list => "list"
  | .language => "language"

namespace Primitive

/-- The float that is nearest to a whole number. -/
def widen (n : Int64) : Float := Float.ofInt n.toInt

/-- The value of a bool. -/
def asBool? : Primitive → Option Bool
  | bool b => some b
  | _ => none

/-- The value of a whole number. -/
def asInt? : Primitive → Option Int64
  | int n => some n
  | _ => none

/-- The value of a number, as a float. -/
def asFloat? : Primitive → Option Float
  | float x => some x.toFloat
  | int n => some (widen n)
  | _ => none

/-- The value of a text. -/
def asText? : Primitive → Option String
  | text s => some s
  | _ => none

/-- The type of a primitive. -/
def typeName : Primitive → TypeName
  | bool _ => .bool
  | int _ => .int
  | float _ => .float
  | text _ => .str

/-- The shape of a primitive. -/
def shape : Primitive → Shape
  | bool _ => .bool
  | int _ => .int
  | float _ => .float
  | text _ => .text

/-- A bool as a word. -/
def boolText (b : Bool) : String := if b then "true" else "false"

/-- A primitive as messages show it. -/
def display : Primitive → String
  | bool b => boolText b
  | int n => toString n.toInt
  | float x => Decimal.Layout.plain.render x.toFloat
  | text s => s

/-- Reads a JSON scalar; `null` is no value. A whole number beyond 64 bits becomes a float. -/
def ofJson : Json → Except RecordError (Option Primitive)
  | .null => .ok none
  | .bool b => .ok (some (bool b))
  | .int n =>
    .ok (some (if Decimal.fitsWord n then int (Int64.ofInt n)
      else float (.ofFloat (Float.ofInt n))))
  | .float x => .ok (some (float (.ofFloat x)))
  | .text s => .ok (some (text s))
  | other => .error (.notPrimitive other)

/-- The JSON scalar for a primitive. -/
def toJson : Primitive → Json
  | bool b => .bool b
  | int n => .int n.toInt
  | float x => .float x.toFloat
  | text s => .text s

end Primitive

/-- A datapoint value. -/
inductive Value where
  | single (p : Primitive)
  | list (items : List Primitive)
deriving DecidableEq, Repr, Inhabited

namespace Value

/-- The primitive of a single value. -/
def asPrimitive? : Value → Option Primitive
  | single p => some p
  | list _ => none

/-- The items of a list. -/
def asList? : Value → Option (List Primitive)
  | list items => some items
  | single _ => none

/-- The value of a bool. -/
def asBool? (v : Value) : Option Bool := v.asPrimitive?.bind Primitive.asBool?

/-- The value of a whole number. -/
def asInt? (v : Value) : Option Int64 := v.asPrimitive?.bind Primitive.asInt?

/-- The value of a number, as a float. -/
def asFloat? (v : Value) : Option Float := v.asPrimitive?.bind Primitive.asFloat?

/-- The value of a text. -/
def asText? (v : Value) : Option String := v.asPrimitive?.bind Primitive.asText?

/-- Whether a value is a list. -/
def isList : Value → Bool
  | list _ => true
  | single _ => false

/-- The type of a value. -/
def typeName : Value → TypeName
  | single p => p.typeName
  | list _ => .list

/-- The shape of a value. -/
def shape : Value → Shape
  | single p => p.shape
  | list _ => .list

/-- Whether a list has an item identical to `needle`; a single value contains nothing. -/
def contains : Value → Primitive → Bool
  | list items, needle => items.contains needle
  | single _, _ => false

/-- Primitives in brackets, as messages show them. -/
def displayList (items : List Primitive) : String :=
  "[" ++ String.intercalate ", " (items.map Primitive.display) ++ "]"

/-- A value as messages show it. -/
def display : Value → String
  | single p => p.display
  | list items => displayList items

/-- Reads the items of a list; `null` entries are left out. -/
def itemsOfJson : List Json → Except RecordError (List Primitive)
  | [] => .ok []
  | item :: rest => do
    let first ← Primitive.ofJson item
    let others ← itemsOfJson rest
    return first.toList ++ others

/-- Reads a JSON value; `null` is no value. -/
def ofJson : Json → Except RecordError (Option Value)
  | .array items => (itemsOfJson items).map fun items => some (list items)
  | other => (Primitive.ofJson other).map fun p => p.map single

/-- The JSON value for a value. -/
def toJson : Value → Json
  | single p => p.toJson
  | list items => .array (items.map Primitive.toJson)

/-- Whether a JSON value is, or directly holds, a `null`. -/
def hasNull : Json → Bool
  | .null => true
  | .array items => items.any Json.isNull
  | _ => false

/-- Reads a JSON value that must be present throughout: `null` is refused as a value and as an
item. -/
def strictOfJson? (j : Json) : Option Value :=
  if hasNull j then none
  else match ofJson j with
    | .ok v => v
    | .error _ => none

end Value

end Typology
