import Typology.Extractor
import Typology.Predicate
import Typology.Quorum
/-!
Queries: chains of transformations and directives.
-/

namespace Typology

/-- An instruction between transformations that leaves the value of every language as it is. -/
inductive Directive where
  /-- Remember the current value of every language. -/
  | extractContext
  /-- Drop the languages whose current value is `false`. -/
  | filter
deriving DecidableEq, Repr

namespace Directive

/-- The name of a directive. -/
def name : Directive → String
  | extractContext => "ExtractContext"
  | filter => "FilterLanguageSet"

/-- The names that a directive is asked for by. -/
def names : List (String × Directive) :=
  [("ExtractContext", extractContext), ("FilterLanguageSet", filter), ("FilterLanguages", filter)]

/-- The directive that is asked for by a name. -/
def ofName? (name : String) : Option Directive := Dictionary.lookup name names

end Directive

/-- One element of a query. -/
inductive Step where
  | transform (t : Transformation)
  | directive (d : Directive)

namespace Step

/-- The name of a step. -/
def name : Step → String
  | transform t => t.name
  | directive d => d.name

/-- The kind of a step, in words. -/
def kindLabel : Step → String
  | transform t => t.kind.label
  | directive _ => "directive"

end Step

/-- Steps to be applied from left to right, and the quorum for the fields that they read. -/
structure Query where
  steps : List Step
  quorum : Quorum

namespace Query

/-- The query without steps, under the default quorum. -/
def empty : Query := ⟨[], .half⟩

/-- Adds a step at the end. -/
def push (q : Query) (s : Step) : Query := { q with steps := q.steps ++ [s] }

/-- The query under another quorum. -/
def withQuorum (q : Query) (quorum : Quorum) : Query := { q with quorum }

/-- A query as messages show it. -/
def display (q : Query) : String :=
  "Query[" ++ String.intercalate " -> " (q.steps.map Step.name) ++ "]"

end Query

/-- Why a question about one field cannot be put. -/
inductive QuestionFault where
  | mode (cause : Mode.Unrecognized)
  | allOfNumber
  | modeOfText (mode : String)
deriving DecidableEq, Repr

/-- The wording of a fault. -/
def QuestionFault.message : QuestionFault → String
  | .mode cause => cause.message
  | .allOfNumber => "'all' is not a valid mode for numerical queries"
  | .modeOfText given => "'" ++ given ++ "' is not a valid mode for text queries"

/-- Why a query has no answer. -/
inductive QueryError where
  | transformation (step : Nat) (name : String) (language : String) (source : TransformError)
  | contextFromLanguages (step : Nat)
  | nonBooleanFilter (step : Nat) (language : String) (found : TypeName)
  | quorum (shortfall : Shortfall)
  | construction (fault : QuestionFault)
deriving DecidableEq, Repr

namespace QueryError

/-- Whether a query could not be answered for lack of data. -/
def isQuorum : QueryError → Bool
  | quorum _ => true
  | _ => false

/-- The wording of an error. -/
def message : QueryError → String
  | .transformation step name language _ =>
    "Transformation function raised an error at step " ++ toString step ++ " (" ++ name ++
      ") for '" ++ language ++ "'"
  | contextFromLanguages step =>
    "Cannot extract an entire LanguageSet as context at step " ++ toString step ++
      "; try transforming the LanguageSet first"
  | nonBooleanFilter step language found =>
    "Filtering at step " ++ toString step ++ " requires bool results; '" ++ language ++
      "' has a result of type " ++ found.label
  | quorum shortfall => shortfall.message
  | construction fault => "Invalid query: " ++ fault.message

end QueryError

end Typology
