import Typology.Log.Record
import Typology.Property
import Typology.Value
import Typology.Evaluation
/-!
Notices: what the program has to say about its work, and the events that they are logged as.
-/

namespace Typology.Log

/-- Something worth saying. -/
inductive Notice where
  /-- A value has not the shape that its property should have. -/
  | mismatch (language : String) (property : Property) (found : Shape)
  | sharedName (name : String) (count : Nat)
  | queryStart (steps languages : Nat)
  | queryStep (number : Nat) (name kind : String) (languages : Nat)
  | queryEnd (languages contexts noData : Nat)
  | missing (datum : MissingDatum)
  /-- A value cannot answer a question. -/
  | unusable (language field : String) (found : TypeName)
  | incomplete (field : String) (missing total : Nat)
  | datasetLoaded (name : String) (languages : Nat)
  | datasetFailed (name path error : String)
  | requestStart (queries : Nat)
  | requestEnd (queries : Nat)
deriving DecidableEq, Repr

namespace Notice

/-- How grave a notice is. -/
def level : Notice → Level
  | mismatch _ _ _ | sharedName _ _ | missing _ | unusable _ _ _ | incomplete _ _ _
  | datasetFailed _ _ _ => .warn
  | queryStart _ _ | queryEnd _ _ _ | datasetLoaded _ _ | requestStart _ | requestEnd _ => .info
  | queryStep _ _ _ _ => .debug

/-- The part of the program that a notice comes from. -/
def target : Notice → String
  | mismatch _ _ _ => "lingdb_core::language"
  | sharedName _ _ => "lingdb_core::language_set"
  | queryStart _ _ | queryStep _ _ _ _ | queryEnd _ _ _ => "lingdb_query::query"
  | missing _ => "lingdb_query::result"
  | unusable _ _ _ | incomplete _ _ _ => "lingdb_query::property"
  | datasetLoaded _ _ | datasetFailed _ _ _ => "lingdb_binding::dataset"
  | requestStart _ | requestEnd _ => "lingdb_binding::handler"

/-- The record with the name of an event. -/
def named (event : String) : Record := Record.empty.text "event" event

/-- What a notice says. -/
def record : Notice → Record
  | mismatch language property found =>
    (((named "unexpected_datapoint_kind").shown "language" language).text "field"
      property.label).shown "expected" property.shape.label |>.shown "found" found.label
  | sharedName name n => ((named "duplicate_language_name").shown "language" name).count "count" n
  | queryStart steps languages =>
    ((named "query_start").count "steps" steps).count "languages" languages
  | queryStep number name kind languages =>
    (((named "query_step").count "step" number).text "step_name" name).shown "kind" kind
      |>.count "languages" languages
  | queryEnd languages contexts noData =>
    ((named "query_end").count "languages" languages).count "contexts" contexts
      |>.count "no_data" noData
  | missing datum =>
    ((named "missing_datapoint").count "step" datum.step).text "language" datum.language
      |>.shown "field" datum.field
  | unusable language field found =>
    ((named "unusable_datapoint").text "language" language).text "property" field
      |>.text "found" found.label
  | incomplete field lacking total =>
    ((named "missing_datapoints").text "property" field).count "missing" lacking
      |>.count "total" total
  | datasetLoaded name languages =>
    ((named "dataset_loaded").shown "dataset" name).count "languages" languages
  | datasetFailed name path error =>
    ((named "dataset_failed").shown "dataset" name).shown "path" path |>.shown "error" error
  | requestStart n => (named "request_start").count "queries" n
  | requestEnd n => (named "request_end").count "queries" n

/-- The event that a notice is logged as. -/
def toEvent (n : Notice) : Event := ⟨n.level, n.target, n.record⟩

end Notice

end Typology.Log
