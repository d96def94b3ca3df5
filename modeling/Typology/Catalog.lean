import Typology.RequestError
import Typology.LanguageSet
import Typology.Json.Reader
/-!
The catalog: the datasets that are declared, and those of them that could be loaded.
-/

namespace Typology

/-- Why a dataset cannot be loaded. -/
inductive LoadError where
  | unreadable (cause : ReadError)
  | notJson
  | refused (cause : RecordError)

/-- The wording of an error. -/
def LoadError.message : LoadError → String
  | .unreadable cause => "IO error: " ++ cause.message
  | .notJson => "JSON parse error: the text is no JSON document"
  | .refused cause => cause.message

/-- Reads a set of languages from a JSON text. -/
def LanguageSet.ofText (text : String) : Except LoadError LanguageSet :=
  match Json.read? text with
  | none => .error .notJson
  | some json => (LanguageSet.ofJson json).mapError .refused

/-- Reads a set of languages from a file. -/
def LanguageSet.load (storage : Storage) (path : String) : Except LoadError LanguageSet :=
  match storage.read path with
  | .error cause => .error (.unreadable cause)
  | .ok text => LanguageSet.ofText text

/-- A set of languages under a name. -/
structure Dataset where
  name : String
  languages : LanguageSet

/-- The declared datasets, those of them that are there, and the latest one. -/
structure Catalog where
  declared : List String
  loaded : List Dataset
  latest : String

namespace Catalog

/-- The names of the datasets that are there, in the order in which they were declared. -/
def names (c : Catalog) : List String := c.loaded.map Dataset.name

/-- The number of datasets that are there. -/
def size (c : Catalog) : Nat := c.loaded.length

/-- The languages of a dataset. -/
def get (c : Catalog) (name : String) : Except RequestError LanguageSet :=
  match c.loaded.find? (·.name == name) with
  | some dataset => .ok dataset.languages
  | none => if name ∈ c.declared then .error (.failedDataset name) else .error (.noSuchDataset name)

/-- The languages of the latest dataset. -/
def latestSet (c : Catalog) : Except RequestError LanguageSet := c.get c.latest

/-- Makes a dataset that is there the latest one. -/
def withLatest (c : Catalog) (name : String) : Except RequestError Catalog :=
  (c.get name).map fun _ => { c with latest := name }

/-- The datasets that can be opened, in the order of their names. -/
def openAll (open_ : String → Except LoadError LanguageSet) : List String → List Dataset
  | [] => []
  | name :: rest =>
    match open_ name with
    | .ok languages => ⟨name, languages⟩ :: openAll open_ rest
    | .error _ => openAll open_ rest

/-- The catalog of a configuration, given how a dataset is opened. The latest dataset has to be
there, any other may be missing. -/
def ofConfig (config : Config) (open_ : String → Except LoadError LanguageSet) :
    Except RequestError Catalog :=
  match config.latestDataset? with
  | none => .error (.config (.invalid .nothingDeclared))
  | some latest =>
    let c : Catalog := ⟨config.datasets, openAll open_ config.datasets, latest⟩
    c.latestSet.map fun _ => c

/-- How the datasets of a configuration are opened: from the files at their paths. -/
def opener (config : Config) (storage : Storage) (name : String) : Except LoadError LanguageSet :=
  LanguageSet.load storage (config.datasetPath name)

/-- The catalog of a configuration, from files. -/
def load (config : Config) (storage : Storage) : Except RequestError Catalog :=
  ofConfig config (opener config storage)

/-- The catalog of datasets that are there; the last one is the latest. -/
def ofDatasets (datasets : List Dataset) : Except RequestError Catalog :=
  match datasets.getLast? with
  | none => .error (.config (.invalid .nothingDeclared))
  | some last => .ok ⟨datasets.map Dataset.name, datasets, last.name⟩

end Catalog

end Typology
