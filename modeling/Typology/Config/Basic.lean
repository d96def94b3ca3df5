import Typology.Storage
import Typology.Path
import Typology.Json.Basic
import Typology.Decimal.Layout
/-!
Configuration: where the datasets are, which one is the latest, and how queries are evaluated.
-/

namespace Typology

/-- How queries are evaluated. -/
structure QuerySettings where
  /-- The share of languages that must have data. -/
  quorumThreshold : Float
  /-- What separates the items of a list in a request. -/
  listDelimiter : String
deriving DecidableEq, Repr

/-- A configuration. -/
structure Config where
  datasetsDir : String
  datasets : List String
  latest : Option String
  logFilter : String
  query : QuerySettings
deriving DecidableEq, Repr

/-- What a configuration may not say. -/
inductive ConfigFault where
  | threshold (given : Float)
  | emptyDelimiter
  | noDataset
  | undeclaredLatest (name : String)
  | nothingDeclared
deriving DecidableEq, Repr

/-- The wording of a fault. -/
def ConfigFault.message : ConfigFault → String
  | .threshold given =>
    "quorum_threshold must be within [0, 1], got " ++ Decimal.Layout.plain.render given
  | .emptyDelimiter => "list_delimiter must not be empty"
  | .noDataset => "at least one dataset must be declared"
  | .undeclaredLatest name => "latest dataset '" ++ name ++ "' is not declared"
  | .nothingDeclared => "no datasets declared"

/-- The formats of configuration files. -/
inductive ConfigFormat where
  | toml
  | yaml
deriving DecidableEq, Repr

/-- Why a configuration cannot be used. -/
inductive ConfigError where
  | unreadable (cause : ReadError)
  | malformed (format : ConfigFormat)
  | invalid (fault : ConfigFault)
deriving DecidableEq, Repr

/-- The wording of an error. -/
def ConfigError.message : ConfigError → String
  | .unreadable cause => "IO error: " ++ cause.message
  | .malformed .toml => "TOML parse error:"
  | .malformed .yaml => "YAML parse error:"
  | .invalid fault => "Invalid configuration: " ++ fault.message

namespace QuerySettings

/-- The settings where nothing is said. -/
def standard : QuerySettings := ⟨1 / 2, ";"⟩

/-- The JSON object for the settings. -/
def toJson (s : QuerySettings) : Json :=
  .object [("quorum_threshold", .float s.quorumThreshold),
    ("list_delimiter", .text s.listDelimiter)]

end QuerySettings

namespace Config

/-- The configuration where nothing is said. -/
def standard : Config where
  datasetsDir := "data/datasets"
  datasets := ["_test", "F17", "S19", "F19", "F21", "F22"]
  latest := none
  logFilter := "lingdb=info"
  query := .standard

instance : Inhabited Config := ⟨standard⟩

/-- The configuration with its datasets in another directory. -/
def withDatasetsDir (c : Config) (dir : String) : Config := { c with datasetsDir := dir }

/-- The configuration with other datasets. -/
def withDatasets (c : Config) (datasets : List String) : Config := { c with datasets }

/-- The configuration with another latest dataset. -/
def withLatest (c : Config) (name : String) : Config := { c with latest := some name }

/-- The configuration with another filter of log lines. -/
def withLogFilter (c : Config) (filter : String) : Config := { c with logFilter := filter }

/-- The configuration with another share for the quorum. -/
def withQuorumThreshold (c : Config) (threshold : Float) : Config :=
  { c with query := { c.query with quorumThreshold := threshold } }

/-- The configuration with another delimiter. -/
def withListDelimiter (c : Config) (delimiter : String) : Config :=
  { c with query := { c.query with listDelimiter := delimiter } }

/-- The dataset of a request that names none: the last one unless another is chosen. -/
def latestDataset? (c : Config) : Option String := c.latest <|> c.datasets.getLast?

/-- The path of the file of a dataset: it stands in a directory of its name. -/
def datasetPath (c : Config) (name : String) : String :=
  Path.join (Path.join c.datasetsDir name) (name ++ ".json")

/-- The first fault of a configuration. -/
def fault? (c : Config) : Option ConfigFault :=
  if ¬ (0 ≤ c.query.quorumThreshold ∧ c.query.quorumThreshold ≤ 1) then
    some (.threshold c.query.quorumThreshold)
  else if c.query.listDelimiter = "" then some .emptyDelimiter
  else if c.datasets = [] then some .noDataset
  else
    match c.latest with
    | some name => if name ∈ c.datasets then none else some (.undeclaredLatest name)
    | none => none

/-- Accepts a configuration without fault. -/
def validate (c : Config) : Except ConfigError Unit :=
  match c.fault? with
  | some fault => .error (.invalid fault)
  | none => .ok ()

/-- The JSON object for a configuration. -/
def toJson (c : Config) : Json :=
  .object [("datasets_dir", .text c.datasetsDir),
    ("datasets", .array (c.datasets.map .text)),
    ("latest", c.latest.elim .null .text),
    ("log_filter", .text c.logFilter),
    ("query", c.query.toJson)]

end Config

end Typology
