import Typology.Property
import Typology.Json.Printer
/-!
What can be wrong with the records of a survey.
-/

namespace Typology

/-- What tells languages apart: two records with the same three fields are the same language. -/
structure Identity where
  name : String
  student : String
  netid : String
deriving DecidableEq, Repr

/-- Why a record, or a set of records, is refused. -/
inductive RecordError where
  /-- A value is neither a primitive nor a list of primitives. -/
  | notPrimitive (found : Json)
  | notObject (found : Json)
  | notArray
  /-- The value under `key` is refused. -/
  | badProperty (key : String) (cause : RecordError)
  | missingIdentity (field : Property)
  | duplicateLanguage (identity : Identity)

namespace RecordError

/-- Whether the error is about the form of a record rather than its identity. -/
def isMalformed : RecordError → Bool
  | notPrimitive _ | notObject _ | notArray | badProperty _ _ => true
  | missingIdentity _ | duplicateLanguage _ => false

/-- The wording of an error. -/
def message : RecordError → String
  | notPrimitive found => "Malformed record: expected a primitive value, found " ++ found.compact
  | notObject found => "Malformed record: expected a JSON object, found " ++ found.compact
  | notArray => "Malformed record: a language set must be a JSON array"
  | badProperty key cause => "Malformed record: property '" ++ key ++ "': " ++ cause.message
  | missingIdentity field => "A Language must be given a non-empty " ++ field.label
  | duplicateLanguage who =>
    "A LanguageSet may not contain duplicate languages: " ++ who.name ++ " (" ++ who.student ++
      ", " ++ who.netid ++ ")"

end RecordError

end Typology
