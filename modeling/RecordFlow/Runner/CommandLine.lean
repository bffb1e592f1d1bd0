import RecordFlow.Runner.Job
import RecordFlow.Text.ControlSequence

/-!
# The command line

Two options, each with a value: the configuration file and the input file.  The
configuration file may also be named by an environment variable.
-/

namespace RecordFlow.Runner

/-- The options of a command line, as far as they are given. -/
structure Options where
  config : Option String := none
  input : Option String := none
  deriving DecidableEq, Repr

/-- What a command line asks for. -/
inductive Request where
  | run (options : Options)
  | help
  /-- The arguments make no sense. -/
  | invalid
  deriving DecidableEq, Repr

def defaultConfig : String := "runner.toml"

def configVariable : String := "RIVULET_CONFIG"

namespace Options

def set? (options : Options) (name value : String) : Option Options :=
  if name = "config" && options.config.isNone then
    some { options with config := some value }
  else if name = "input" && options.input.isNone then
    some { options with input := some value }
  else none

/-- An argument that can be the value of the option before it. -/
def isValue (argument : String) : Bool :=
  match argument.toList with
  | '-' :: _ :: _ => false
  | _ => true

/-- An argument as a long option: its name, and its value if there is one after an
equals sign. -/
def long? (argument : String) : Option (String × Option String) :=
  match argument.toList with
  | '-' :: '-' :: rest =>
    let name := String.ofList (rest.takeWhile (· != '='))
    match rest.dropWhile (· != '=') with
    | [] => some (name, none)
    | _ :: value => some (name, some (String.ofList value))
  | _ => none

def isShortHelp (argument : String) : Bool :=
  match argument.toList with
  | '-' :: 'h' :: _ => true
  | _ => false

/-- Read arguments from left to right; the first one that decides ends the reading. -/
def read (options : Options) : List String → Request
  | [] => .run options
  | ["--"] => .run options
  | argument :: rest =>
    if isShortHelp argument then .help
    else
      match long? argument, rest with
      | some ("help", none), _ => .help
      | some (name, some value), rest =>
        match options.set? name value with
        | some options => read options rest
        | none => .invalid
      | some (name, none), value :: rest =>
        if isValue value then
          match options.set? name value with
          | some options => read options rest
          | none => .invalid
        else .invalid
      | _, _ => .invalid

/-- The configuration file: as given, else from the environment, else the default. -/
def configPath (options : Options) (environment : Option String) : String :=
  (options.config.or environment).getD defaultConfig

end Options

def optionColumn : Nat := 25

/-- A text whose lines after the first stand beside the column with the options. -/
def besideOptions (text : String) : String :=
  String.ofList (text.toList.flatMap fun c =>
    if c == '\n' then c :: List.replicate optionColumn ' ' else [c])

def helpText (environment : Option String) : String :=
  let configured := besideOptions (s!"[env: {configVariable}=" ++ environment.getD "" ++ "]")
  Text.displayed <| String.join [
    "Run a processor plugin over NDJSON records\n\n",
    "Usage: rivulet-runner [OPTIONS]\n\n",
    "Options:\n",
    s!"      --config <CONFIG>  Path to TOML configuration file {configured} ",
    s!"[default: {defaultConfig}]\n",
    "      --input <INPUT>    NDJSON input file. Overrides `input` from the configuration\n",
    "  -h, --help             Print help\n"]

/-- How a program ends: its exit code, what it prints, and what went wrong. -/
structure Outcome where
  exitCode : UInt32
  output : String := ""
  complaint : Option String := none
  deriving DecidableEq, Repr

/-- The end of a job. -/
def Outcome.ofResult : Except RunFault String → Outcome
  | .ok output => { exitCode := 0, output }
  | .error fault => { exitCode := 1, complaint := some fault.message }

def program {m : Type → Type} {σ : Type} [Monad m] (host : Host m σ)
    (environment : Option String) (arguments : List String) : m Outcome := do
  match Options.read {} arguments with
  | .invalid => pure { exitCode := 2, complaint := some "unexpected arguments" }
  | .help => pure { exitCode := 0, output := helpText environment }
  | .run options =>
    let path := options.configPath environment
    match configOf path (← host.file path) with
    | .error fault => pure (.ofResult (.error fault))
    | .ok config => Outcome.ofResult <$> execute host config options.input

end RecordFlow.Runner
