/-!
The arguments of the program: options, and a command with its own arguments.
-/

namespace Typology.CommandLine

/-- What the program is asked to do. -/
inductive Command where
  | datasets
  | query (text : String)
  | describe (dataset language : String)
deriving DecidableEq, Repr

/-- The variables of the environment that the program looks at. -/
structure Environment where
  config : Option String
  datasetsDir : Option String
  logFilter : Option String
deriving DecidableEq, Repr

/-- What the options say. -/
structure Options where
  config : Option String
  datasetsDir : Option String
deriving DecidableEq, Repr

/-- What a list of arguments amounts to. -/
inductive Invocation where
  | run (options : Options) (command : Command)
  | version
  | help
  /-- The arguments make no sense. -/
  | misuse
deriving DecidableEq, Repr

/-- The options that take a value. -/
inductive Setting where
  | config
  | datasetsDir
deriving DecidableEq, Repr

/-- What an argument looks like. -/
inductive Word where
  /-- A long option, with the value after its equals sign. -/
  | long (name : String) (value : Option String)
  /-- Options of one letter each. -/
  | short (letters : List Char)
  /-- Two dashes, after which nothing is an option. -/
  | escape
  | plain
deriving DecidableEq, Repr

namespace Word

/-- Tells what an argument looks like. A single dash is no option. -/
def ofText (argument : String) : Word :=
  match argument.toList with
  | ['-', '-'] => escape
  | '-' :: '-' :: body =>
    let name := String.ofList (body.takeWhile (· ≠ '='))
    match body.dropWhile (· ≠ '=') with
    | [] => long name none
    | _ :: value => long name (some (String.ofList value))
  | '-' :: letter :: letters => short (letter :: letters)
  | _ => plain

/-- Whether an argument asks for help. -/
def asksHelp : Word → Bool
  | long name none => name == "help"
  | short letters => letters.head? == some 'h'
  | _ => false

end Word

namespace Options

/-- The options where nothing is said. -/
def none : Options := ⟨.none, .none⟩

/-- Sets an option, which must not have been set before, to a value that is not empty. -/
def set? (o : Options) (setting : Setting) (value : String) : Option Options :=
  if value = "" then .none
  else match setting with
    | .config => if o.config.isSome then .none else some { o with config := some value }
    | .datasetsDir =>
      if o.datasetsDir.isSome then .none else some { o with datasetsDir := some value }

/-- Adds what the environment says where the options say nothing. -/
def withEnvironment? (o : Options) (env : Environment) : Option Options := do
  let o ← match o.config, env.config with
    | .none, some value => o.set? .config value
    | _, _ => some o
  match o.datasetsDir, env.datasetsDir with
  | .none, some value => o.set? .datasetsDir value
  | _, _ => some o

end Options

/-- Takes the arguments of a command, which are `count`; after two dashes anything is one. -/
def operands (count : Nat) (make : List String → Option Command) (options : Options) :
    Bool → List String → List String → Invocation
  | _, taken, [] =>
    match if taken.length = count then make taken.reverse else none with
    | some command => .run options command
    | none => .misuse
  | escaped, taken, argument :: rest =>
    let word := Word.ofText argument
    if !escaped && word == .escape then operands count make options true taken rest
    else if !escaped && word.asksHelp then .help
    else if !escaped && word != .plain then .misuse
    else if taken.length = count then .misuse
    else operands count make options escaped (argument :: taken) rest

/-- Reads a command and its arguments. -/
def commandOf (options : Options) (name : String) (rest : List String) : Invocation :=
  match name with
  | "datasets" => operands 0 (fun _ => some .datasets) options false [] rest
  | "query" =>
    operands 1 (fun | [text] => some (.query text) | _ => none) options false [] rest
  | "describe" =>
    operands 2 (fun | [dataset, language] => some (.describe dataset language) | _ => none)
      options false [] rest
  | "help" =>
    match rest with
    | [] => .help
    | [topic] => if topic ∈ ["datasets", "query", "describe", "help"] then .help else .misuse
    | _ => .misuse
  | _ => .misuse

/-- The value that is written in the same argument as an option of one letter. -/
def attached (letters : List Char) : String :=
  match letters with
  | '=' :: value => String.ofList value
  | value => String.ofList value

/-- The setting of a long option. -/
def Setting.ofName? : String → Option Setting
  | "config" => some .config
  | "datasets-dir" => some .datasetsDir
  | _ => none

/-- What an option asks for. -/
inductive Request where
  | help
  | version
  | set (setting : Setting) (value : String)
  /-- The value is the next argument. -/
  | setNext (setting : Setting)
  | unknown

/-- What an argument that looks like an option asks for. -/
def Request.ofWord : Word → Request
  | .long name value =>
    match Setting.ofName? name, value with
    | some setting, some value => .set setting value
    | some setting, none => .setNext setting
    | none, none => if name = "help" then .help else if name = "version" then .version else .unknown
    | none, some _ => .unknown
  | .short ('h' :: _) => .help
  | .short ('V' :: _) => .version
  | .short ['c'] => .setNext .config
  | .short ('c' :: value) => .set .config (attached value)
  | _ => .unknown

/-- Reads options up to the command. -/
def parseFrom (options : Options) : List String → Invocation
  | [] => .misuse
  | [argument] =>
    if Word.ofText argument = .plain then commandOf options argument []
    else match Request.ofWord (Word.ofText argument) with
      | .help => .help
      | .version => .version
      | _ => .misuse
  | argument :: next :: rest =>
    if Word.ofText argument = .plain then commandOf options argument (next :: rest)
    else match Request.ofWord (Word.ofText argument) with
      | .help => .help
      | .version => .version
      | .unknown => .misuse
      | .set setting value =>
        match options.set? setting value with
        | some options => parseFrom options (next :: rest)
        | none => .misuse
      | .setNext setting =>
        match if Word.ofText next = .plain then options.set? setting next else none with
        | some options => parseFrom options rest
        | none => .misuse

/-- Reads the arguments of the program. The environment says what options do not. -/
def parse (env : Environment) (arguments : List String) : Invocation :=
  match parseFrom .none arguments with
  | .run options command =>
    match options.withEnvironment? env with
    | some options => .run options command
    | none => .misuse
  | invocation => invocation

end Typology.CommandLine
