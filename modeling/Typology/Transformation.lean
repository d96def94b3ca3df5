import Typology.LanguageSet
/-!
Transformations: what one step of a query does to what is known of one language. An extractor
reads a field of the language itself, and a predicate answers with a bool.
-/

namespace Typology

/-- What a query has in hand for one language: the language before any transformation, and a value
from then on. -/
inductive Reading where
  | language (l : Language)
  | value (v : Value)

namespace Reading

/-- The value, once there is one. -/
def asValue? : Reading → Option Value
  | value v => some v
  | language _ => none

/-- The value of a bool. -/
def asBool? (r : Reading) : Option Bool := r.asValue?.bind Value.asBool?

/-- The type of a reading. -/
def typeName : Reading → TypeName
  | language _ => .language
  | value v => v.typeName

/-- A reading as messages show it. -/
def display : Reading → String
  | language l => l.display
  | value v => v.display

/-- The JSON value for a reading; a language is written as its name. -/
def toJson : Reading → Json
  | language l => .text l.name
  | value v => v.toJson

end Reading

/-- The inputs that transformations ask for. -/
inductive Expected where
  | language
  | value
  | list
  | primitive
  | text
  | listOrText
deriving DecidableEq, Repr

/-- The wording of what is expected. -/
def Expected.label : Expected → String
  | .language => "language"
  | .value => "a datapoint value"
  | .list => "list"
  | .primitive => "primitive"
  | .text => "str"
  | .listOrText => "list or str"

/-- Why an argument of a transformation is refused. -/
inductive ArgumentFault where
  | noField
  | notOneOf (given : String) (options : List String)
  | notSingle (given : Value)
  | notTwoEndpoints (given : Value)
  | endpointsOutOfOrder (low high : Primitive)
deriving DecidableEq, Repr

/-- The wording of an argument's fault. -/
def ArgumentFault.message : ArgumentFault → String
  | .noField => "a field name is required"
  | .notOneOf given options => "'" ++ given ++ "' is not one of " ++ String.intercalate ", " options
  | .notSingle given => "expected a single value, got " ++ given.display
  | .notTwoEndpoints given => "exactly two endpoints required; found: " ++ given.display
  | .endpointsOutOfOrder low high =>
    "low endpoint was not less than high endpoint: [" ++ low.display ++ ", " ++ high.display ++ "]"

/-- Why a transformation fails on one input, or cannot be made. -/
inductive TransformError where
  | missingDatapoint (language field : String)
  | unexpectedInput (transformation : String) (expected : Expected) (found : TypeName)
  | incomparable (left right : Value)
  | invalidArgument (transformation : String) (fault : ArgumentFault)
deriving DecidableEq, Repr

/-- The wording of a transformation's error. -/
def TransformError.message : TransformError → String
  | .missingDatapoint language field =>
    "Language '" ++ language ++ "' has no datapoint '" ++ field ++ "'"
  | .unexpectedInput transformation expected found =>
    transformation ++ " expected " ++ expected.label ++ ", found " ++ found.label
  | .incomparable left right => "Cannot compare " ++ left.display ++ " with " ++ right.display
  | .invalidArgument transformation fault =>
    "Invalid argument for " ++ transformation ++ ": " ++ fault.message

/-- What a query knows of a transformation besides its effect. -/
inductive Kind where
  | transformation
  | extractor
  | predicate
deriving DecidableEq, Repr

/-- The name of a kind. -/
def Kind.label : Kind → String
  | .transformation => "transformation"
  | .extractor => "extractor"
  | .predicate => "predicate"

/-- A step that maps the reading of one language to a value. -/
structure Transformation where
  name : String
  kind : Kind
  /-- The field that an extractor reads. -/
  field : Option String
  apply : Reading → Except TransformError Value

/-- The value of a reading that must not be a language. -/
def Reading.expectValue (name : String) : Reading → Except TransformError Value
  | .value v => .ok v
  | .language _ => .error (.unexpectedInput name .value .language)

/-- The items of a value that must be a list. -/
def Value.expectList (name : String) : Value → Except TransformError (List Primitive)
  | .list items => .ok items
  | v => .error (.unexpectedInput name .list v.typeName)

/-- The primitive of a value that must not be a list. -/
def Value.expectPrimitive (name : String) : Value → Except TransformError Primitive
  | .single p => .ok p
  | v => .error (.unexpectedInput name .primitive v.typeName)

/-- The text of a value that must be a text. -/
def Value.expectText (name : String) (v : Value) : Except TransformError String :=
  match v.asText? with
  | some s => .ok s
  | none => .error (.unexpectedInput name .text v.typeName)

namespace Transformation

/-- The extractor of a field, given how it reads a language. -/
def ofExtractor (name field : String) (extract : Language → Except TransformError Value) :
    Transformation where
  name := name
  kind := .extractor
  field := some field
  apply
    | .language l => extract l
    | .value v => .error (.unexpectedInput name .language v.typeName)

/-- The predicate of a test on values. -/
def ofTest (name : String) (test : Value → Except TransformError Bool) : Transformation where
  name := name
  kind := .predicate
  field := none
  apply r := do
    let v ← r.expectValue name
    let b ← test v
    return .single (.bool b)

/-- The transformation of a function on values. -/
def ofFunction (name : String) (f : Value → Except TransformError Value) : Transformation where
  name := name
  kind := .transformation
  field := none
  apply r := (r.expectValue name).bind f

end Transformation

end Typology
