import Typology.Config.Basic
import Typology.Toml.Reader
/-!
Configurations from TOML documents. What a document does not say stays as it is by default, and keys
that mean nothing are passed over.
-/

namespace Typology

namespace Toml

/-- The text of a text. -/
def asText? : Toml → Option String
  | text s => some s
  | _ => none

/-- The value of a number, as a float. -/
def asFloat? : Toml → Option Float
  | float x => some x
  | int n => some (Float.ofInt n)
  | _ => none

/-- The texts of an array of texts. -/
def asTexts? : Toml → Option (List String)
  | array items => items.mapM asText?
  | _ => none

/-- Reads a field if it is there: `fallback` stands for one that is not. -/
def field? {α : Type} (entries : List (String × Toml)) (key : String) (fallback : α)
    (read : Toml → Option α) : Option α :=
  match Dictionary.lookup key entries with
  | none => some fallback
  | some v => read v

end Toml

/-- Reads the settings of queries from a table, or from an array in the order of the fields. A date
or a time says nothing about them. -/
def QuerySettings.ofToml? : Toml → Option QuerySettings
  | .table entries => do
    let threshold ← Toml.field? entries "quorum_threshold" standard.quorumThreshold Toml.asFloat?
    let delimiter ← Toml.field? entries "list_delimiter" standard.listDelimiter Toml.asText?
    return ⟨threshold, delimiter⟩
  | .moment _ | .array [] => some standard
  | .array [threshold] => threshold.asFloat?.map fun x => { standard with quorumThreshold := x }
  | .array (threshold :: delimiter :: _) => do
    return ⟨← threshold.asFloat?, ← delimiter.asText?⟩
  | _ => none

namespace Config

/-- Reads a configuration from the value of a TOML document. -/
def ofToml? : Toml → Option Config
  | .table entries => do
    let datasetsDir ← Toml.field? entries "datasets_dir" standard.datasetsDir Toml.asText?
    let datasets ← Toml.field? entries "datasets" standard.datasets Toml.asTexts?
    let latest ← Toml.field? entries "latest" none fun v => v.asText?.map some
    let logFilter ← Toml.field? entries "log_filter" standard.logFilter Toml.asText?
    let query ← Toml.field? entries "query" standard.query QuerySettings.ofToml?
    return { datasetsDir, datasets, latest, logFilter, query }
  | _ => none

/-- Reads a valid configuration from a TOML document. -/
def ofTomlText (text : String) : Except ConfigError Config :=
  match (Toml.read? text).bind ofToml? with
  | none => .error (.malformed .toml)
  | some c => c.validate.map fun _ => c

end Config

end Typology
