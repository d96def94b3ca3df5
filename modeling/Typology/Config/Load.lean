import Typology.Config.OfToml
import Typology.Config.OfYaml
/-!
Loading configurations from files.
-/

namespace Typology

/-- The format of a configuration file, by the extension of its name. -/
def ConfigFormat.ofPath (path : String) : ConfigFormat :=
  match Path.extension? path with
  | some "yaml" | some "yml" => .yaml
  | _ => .toml

namespace Config

/-- Reads a valid configuration in a format. -/
def ofText : ConfigFormat → String → Except ConfigError Config
  | .toml, text => ofTomlText text
  | .yaml, text => ofYamlText text

/-- Loads a valid configuration from a file. -/
def load (storage : Storage) (path : String) : Except ConfigError Config :=
  match storage.read path with
  | .error cause => .error (.unreadable cause)
  | .ok text => ofText (.ofPath path) text

end Config

end Typology
