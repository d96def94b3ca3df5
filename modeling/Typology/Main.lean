import Typology.CommandLine.Run
/-!
The program. Files are read here, and all that depends on them is decided elsewhere.
-/

open Typology Typology.CommandLine

/-- Reads a text file. -/
def readFile (path : String) : IO (Except ReadError String) := do
  try
    let bytes ← IO.FS.readBinFile path
    match String.fromUTF8? bytes with
    | some text => return .ok text
    | none => return .error .notText
  catch
    | .noFileOrDirectory .. => return .error .notFound
    | .inappropriateType .. => return .error .isDirectory
    | e => return .error (.other (toString e))

/-- Reads the files that a command needs. -/
def readStorage (options : Options) : IO Storage := do
  let path := options.config.getD defaultConfigPath
  let known := [(path, ← readFile path)]
  match loadConfig options (.ofList known) with
  | .error _ => return .ofList known
  | .ok config =>
    let datasets ← (datasetPaths config).mapM fun path => do return (path, ← readFile path)
    return .ofList (known ++ datasets)

/-- The variables of the environment. -/
def readEnvironment : IO Environment := do
  return ⟨← IO.getEnv "LINGDB_CONFIG", ← IO.getEnv "LINGDB_DATASETS_DIR", ← IO.getEnv "RUST_LOG"⟩

/-- Carries out what the arguments say. -/
def main (arguments : List String) : IO UInt32 := do
  let started ← IO.monoMsNow
  let env ← readEnvironment
  match parse env arguments with
  | .version => IO.print versionText; return 0
  | .help => IO.print usage; return 0
  | .misuse => IO.eprint usage; return 2
  | .run options command =>
    let outcome := run env options command (← readStorage options)
    for line in outcome.lines ((← IO.monoMsNow) - started) do
      IO.eprintln line
    IO.print outcome.output
    return outcome.code.toUInt32
