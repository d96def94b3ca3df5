import Typology.Config.Basic
import Typology.Yaml.Reader
import Typology.Decimal.Reading
/-!
Configurations from YAML documents. Nothing written stands for an empty collection, a text may be
any scalar, and a number must be written without quotes.
-/

namespace Typology

namespace Yaml

namespace Document

/-- The text of a scalar. -/
def asText? (d : Document) (v : Yaml) : Option String :=
  match d.resolve v with
  | scalar _ _ text => some text
  | _ => none

/-- The words for no value. -/
def noValueWords : List String := ["null", "Null", "NULL", "~"]

/-- The tag of no value. -/
def noValueTag : String := "tag:yaml.org,2002:null"

/-- The tag of a float. -/
def floatTag : String := "tag:yaml.org,2002:float"

/-- The text of a scalar, if there is a value: a plain scalar can stand for none, unless its tag
says that it stands for something. -/
def asOptionalText? (d : Document) (v : Yaml) : Option (Option String) :=
  match d.resolve v with
  | scalar none .plain text => some (if text ∈ "" :: noValueWords then none else some text)
  | scalar (some tag) .plain text =>
    if tag ≠ noValueTag then some (some text)
    else if text ∈ noValueWords then some none
    else none
  | scalar _ _ text => some (some text)
  | _ => none

/-- Reads the names of floats that are not finite. -/
def unboundedFloat? (text : String) : Option Float :=
  if text ∈ [".inf", ".Inf", ".INF", "+.inf", "+.Inf", "+.INF"] then some (1 / 0)
  else if text ∈ ["-.inf", "-.Inf", "-.INF"] then some (-(1 / 0))
  else if text ∈ [".nan", ".NaN", ".NAN"] then some (0 / 0)
  else none

/-- The value of a scalar that is a number: a plain one, or a block of lines with its tag. -/
def asFloat? (d : Document) (v : Yaml) : Option Float :=
  match d.resolve v with
  | scalar tag style text =>
    if style = .plain ∨ (style = .literal ∧ tag = some floatTag) then
      unboundedFloat? text <|> (Decimal.float? text).filter Float.isFinite
    else none
  | _ => none

/-- The texts of a sequence of scalars. -/
def asTexts? (d : Document) (v : Yaml) : Option (List String) :=
  match d.resolve v with
  | sequence items => items.mapM d.asText?
  | scalar _ .plain "" => some []
  | _ => none

/-- The entries of a mapping whose keys are scalars. -/
def asEntries? (d : Document) (v : Yaml) : Option (List (String × Yaml)) :=
  match d.resolve v with
  | mapping entries => entries.mapM fun (key, value) => (d.asText? key).map fun key => (key, value)
  | scalar _ .plain "" => some []
  | _ => none

end Document

/-- Reads a field if it is there, and at most once: `fallback` stands for one that is not. -/
def field? {α : Type} (entries : List (String × Yaml)) (key : String) (fallback : α)
    (read : Yaml → Option α) : Option α :=
  match entries.filter (·.1 == key) with
  | [] => some fallback
  | [entry] => read entry.2
  | _ => none

end Yaml

/-- Reads the settings of queries. -/
def QuerySettings.ofYaml? (d : Yaml.Document) (v : Yaml) : Option QuerySettings := do
  let entries ← d.asEntries? v
  let threshold ← Yaml.field? entries "quorum_threshold" standard.quorumThreshold d.asFloat?
  let delimiter ← Yaml.field? entries "list_delimiter" standard.listDelimiter d.asText?
  return ⟨threshold, delimiter⟩

namespace Config

/-- Reads a configuration from a YAML document. -/
def ofYaml? (d : Yaml.Document) : Option Config := do
  let entries ← d.asEntries? d.root
  let datasetsDir ← Yaml.field? entries "datasets_dir" standard.datasetsDir d.asText?
  let datasets ← Yaml.field? entries "datasets" standard.datasets d.asTexts?
  let latest ← Yaml.field? entries "latest" none d.asOptionalText?
  let logFilter ← Yaml.field? entries "log_filter" standard.logFilter d.asText?
  let query ← Yaml.field? entries "query" standard.query (QuerySettings.ofYaml? d)
  return { datasetsDir, datasets, latest, logFilter, query }

/-- Reads a valid configuration from a YAML text. -/
def ofYamlText (text : String) : Except ConfigError Config :=
  match (Yaml.read? text).bind ofYaml? with
  | none => .error (.malformed .yaml)
  | some c => c.validate.map fun _ => c

end Config

end Typology
