import RecordFlow.Plugin
import RecordFlow.Run
import RecordFlow.Runner.Config
import RecordFlow.Runner.Records

/-!
# Jobs

A job reads a configuration, makes its processor, reads the records, runs the processor
and writes the records that it routed.  Files, standard input and pauses are the
business of a host, in a monad `m`.
-/

namespace RecordFlow.Runner

/-- Why a file cannot be read. -/
inductive FileFault where
  | notFound
  | accessDenied
  | notDirectory
  | isDirectory
  | nameTooLong
  | nulInName
  | other (text : String)
  deriving DecidableEq, Repr

def FileFault.message : FileFault → String
  | notFound => "No such file or directory (os error 2)"
  | accessDenied => "Permission denied (os error 13)"
  | notDirectory => "Not a directory (os error 20)"
  | isDirectory => "Is a directory (os error 21)"
  | nameTooLong => "File name too long (os error 36)"
  | nulInName => "file name contained an unexpected NUL byte"
  | other text => text

/-- What surrounds a job whose processors have states `σ`. -/
structure Host (m : Type → Type) (σ : Type) where
  processor : Processor m σ
  /-- The plugin library at a path. -/
  library : String → Option (Plugin.Library σ)
  fileContent : String → m (Except FileFault Bytes)
  standardInput : m Bytes
  /-- Wait for some milliseconds. -/
  pause : Nat → m Unit

/-- A file whose name holds a NUL is not even looked for. -/
def Host.file {m : Type → Type} {σ : Type} [Monad m] (host : Host m σ) (path : String) :
    m (Except FileFault Bytes) :=
  if path.toList.contains '\x00' then pure (.error .nulInName) else host.fileContent path

/-- The plugin library at a path.  The empty path leads to the program itself, which exports
nothing. -/
def Host.libraryAt {m : Type → Type} {σ : Type} (host : Host m σ) (path : String) :
    Option (Plugin.Library σ) :=
  if path.isEmpty then some .bare else host.library path

def configOf (path : String) (content : Except FileFault Bytes) : Except RunFault RunConfig :=
  match content with
  | .error fault => .error (.config s!"{path}: {fault.message}")
  | .ok bytes =>
    match Utf8.decode? bytes with
    | none => .error (.config s!"{path}: stream did not contain valid UTF-8")
    | some text => RunConfig.parse text

def setProperties {m : Type → Type} {σ : Type} (p : Processor m σ) (label : String) :
    List (String × String) → σ → Except RunFault σ
  | [], state => .ok state
  | (name, value) :: properties, state =>
    match p.setProperty state name (some value) with
    | .error fault =>
      .error (.plugin (fault.withContext s!"{label}: dynamic property '{name}'"))
    | .ok state => setProperties p label properties state

def processorOf {m : Type → Type} {σ : Type} (host : Host m σ) (config : ProcessorConfig) :
    Except RunFault σ :=
  match Plugin.load config.plugin (host.libraryAt config.plugin)
      (Utf8.encode config.configText) with
  | .error fault => .error (.plugin (fault.withContext config.name))
  | .ok state =>
    match config.dynamicProperties with
    | .error fault => .error fault
    | .ok properties => setProperties host.processor config.name properties state

/-- The input of a job: a file if one is named, else standard input. -/
def inputOf {m : Type → Type} {σ : Type} [Monad m] (host : Host m σ) :
    Option String → m (Except RunFault Bytes)
  | none => Except.ok <$> host.standardInput
  | some path => do
    match ← host.file path with
    | .ok bytes => pure (.ok bytes)
    | .error .isDirectory => pure (.error (.stream FileFault.isDirectory.message))
    | .error fault => pure (.error (.file path fault.message))

def process {m : Type → Type} {σ : Type} [Monad m] (host : Host m σ) (config : RunConfig)
    (state : σ) (records : List Record) : m String := do
  let session := Session.enqueueAll {} records
  let (_, _, session) ←
    RecordFlow.run host.processor (host.pause config.yieldMs) config.maxTriggers state session
  pure (writeRouted session.drain.1)

/-- Do the job of a configuration.  An input that is given here replaces the
configured one. -/
def execute {m : Type → Type} {σ : Type} [Monad m] (host : Host m σ) (config : RunConfig)
    (input : Option String) : m (Except RunFault String) := do
  match processorOf host config.processor with
  | .error fault => pure (.error fault)
  | .ok state =>
    match ← inputOf host (input.or config.input) with
    | .error fault => pure (.error fault)
    | .ok bytes =>
      match readRecords bytes with
      | .error fault => pure (.error fault)
      | .ok records => Except.ok <$> process host config state records

end RecordFlow.Runner
