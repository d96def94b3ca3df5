import Typology.CommandLine.Arguments
import Typology.Config.Load
import Typology.Log.Console
import Typology.Log.Filter
import Typology.Log.Narration
/-!
Running a command: what the program writes, and the code that it ends with.
-/

namespace Typology.CommandLine

open Log (Notice)

/-- The name of the program and its version. -/
def versionText : String := "lingdb 0.3.0\n"

/-- The configuration file that is read if none is named and it is there. -/
def defaultConfigPath : String := "lingdb.toml"

/-- Why a command fails. -/
inductive Failure where
  | config (cause : ConfigError)
  | request (cause : RequestError)
  | noSuchLanguage (dataset language : String)
deriving DecidableEq, Repr

namespace Failure

/-- The wording of a failure. -/
def message : Failure → String
  | config cause => cause.message
  | request cause => cause.message
  | noSuchLanguage dataset language =>
    "No language named '" ++ language ++ "' in dataset " ++ dataset

/-- The code that the program ends with: too little data is told from all other failures. -/
def code : Failure → Nat
  | request cause => if cause.status = .insufficientData then 2 else 1
  | _ => 1

end Failure

/-- What the program writes, and the code that it ends with. -/
structure Outcome where
  code : Nat
  output : String
  /-- The notices that are shown. -/
  notices : List Notice
  failure : Option Failure

/-- The file that the configuration is read from. -/
def configPath? (options : Options) (storage : Storage) : Option String :=
  match options.config with
  | some path => some path
  | none => if storage.contains defaultConfigPath then some defaultConfigPath else none

/-- The configuration that the options ask for. -/
def loadConfig (options : Options) (storage : Storage) : Except ConfigError Config := do
  let config ← match configPath? options storage with
    | some path => Config.load storage path
    | none => .ok .standard
  return match options.datasetsDir with
    | some dir => config.withDatasetsDir dir
    | none => config

/-- The paths of the files that a command reads under a configuration. -/
def datasetPaths (config : Config) : List String := config.datasets.map config.datasetPath

/-- One line for each dataset, with the number of its languages; the latest one is marked. -/
def listing (c : Catalog) : String :=
  let width := (c.names.map String.utf8ByteSize).foldl max 0
  String.join (c.loaded.map fun dataset =>
    Log.bold (Log.padRight width dataset.name) ++ "  " ++
      Log.padLeft 8 (Log.grouped dataset.languages.size) ++ " languages" ++
      (if dataset.name = c.latest then Log.Color.brightGreen.paint " (latest)" else "") ++ "\n")

/-- The record of a language, as JSON. -/
def description (c : Catalog) (dataset language : String) : Except Failure String := do
  let languages ← (c.get dataset).mapError .request
  match languages.get? language with
  | some found => return found.toJson.pretty ++ "\n"
  | none => .error (.noSuchLanguage dataset language)

/-- The responses to a query string, as JSON. -/
def responses (h : Handler) (text : String) : Except Failure String := do
  let answers ← (h.handleQueryString text).mapError .request
  return (Json.array (answers.map Response.toJson)).pretty ++ "\n"

/-- What a command writes, given the catalog. -/
def Command.output (command : Command) (config : Config) (c : Catalog) : Except Failure String :=
  match command with
  | .datasets => .ok (listing c)
  | .query text => responses (.configured c config) text
  | .describe dataset language => description c dataset language

/-- The notices that go with a command, given the catalog. -/
def Command.notices (command : Command) (config : Config) (c : Catalog) : List Notice :=
  match command with
  | .query text => (Handler.configured c config).notices (Token.ofQueryString text)
  | _ => []

/-- The notices that go with loading the datasets and carrying out a command. -/
def narration (command : Command) (config : Config) (storage : Storage) : List Notice :=
  Catalog.loadNotices config storage ++ match Catalog.load config storage with
    | .ok c => command.notices config c
    | .error _ => []

/-- What a command writes, given the files. -/
def result (command : Command) (config : Config) (storage : Storage) : Except Failure String :=
  ((Catalog.load config storage).mapError .request).bind (command.output config)

/-- The filter of notices: the environment comes before the configuration. -/
def filterOf (env : Environment) (config : Config) : Log.Filter :=
  .choose [env.logFilter, some config.logFilter]

/-- Carries out a command. -/
def run (env : Environment) (options : Options) (command : Command) (storage : Storage) : Outcome :=
  match loadConfig options storage with
  | .error cause => ⟨1, "", [], some (.config cause)⟩
  | .ok config =>
    let shown := (narration command config storage).filter fun n =>
      (filterOf env config).shows n.toEvent
    match result command config storage with
    | .ok output => ⟨0, output, shown, none⟩
    | .error failure => ⟨failure.code, "", shown, some failure⟩

namespace Outcome

/-- The line for a failure. -/
def failureLine (failure : Failure) : String :=
  Log.bold (Log.Color.brightRed.paint "error:") ++ " " ++ failure.message

/-- The lines that are written beside the output, some time after the start. -/
def lines (o : Outcome) (milliseconds : Nat) : List String :=
  o.notices.filterMap (fun n => n.toEvent.line? milliseconds) ++
    (o.failure.map failureLine).toList

end Outcome

/-- How the program is used. -/
def usage : String :=
  "Usage: lingdb [--config FILE] [--datasets-dir DIR] COMMAND\n\n" ++
  "  datasets                    list the datasets and their sizes\n" ++
  "  query QUERY                 answer a query string as JSON\n" ++
  "  describe DATASET LANGUAGE   print the record of a language as JSON\n"

end Typology.CommandLine
