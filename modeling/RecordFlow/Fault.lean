/-!
# Faults

What goes wrong between a host and a processor: a kind the host can act on, and a
message for people.
-/

namespace RecordFlow

/-- What a host can conclude from a fault. -/
inductive FaultKind where
  /-- The configuration is invalid, for good. -/
  | config
  /-- Input, output or the network failed, for now. -/
  | io
  /-- A host or a processor is in an invalid state. -/
  | logic
  deriving DecidableEq, Repr

def FaultKind.word : FaultKind → String
  | config => "config"
  | io => "io"
  | logic => "logic"

structure Fault where
  kind : FaultKind
  message : String
  deriving DecidableEq, Repr

namespace Fault

def withContext (fault : Fault) (context : String) : Fault :=
  { fault with message := context ++ ": " ++ fault.message }

/-- The message with its kind, for logs. -/
def described (fault : Fault) : String :=
  "[" ++ fault.kind.word ++ "] " ++ fault.message

end Fault

end RecordFlow
