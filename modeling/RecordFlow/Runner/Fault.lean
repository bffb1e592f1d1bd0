import RecordFlow.Fault
import RecordFlow.Json.Decode

/-!
# Faults of a run

What can end a run before its records are written.
-/

namespace RecordFlow.Runner

/-- Why a run failed. -/
inductive RunFault where
  | config (detail : String)
  | plugin (fault : Fault)
  /-- A file could not be read. -/
  | file (path detail : String)
  /-- A line of the input is no record; lines count from one. -/
  | input (line : Nat) (problem : Problem)
  /-- The input could not be read as text. -/
  | stream (detail : String)
  deriving DecidableEq, Repr

def RunFault.message : RunFault → String
  | config detail => s!"config: {detail}"
  | plugin fault => s!"plugin: {fault.message}"
  | file path detail => s!"{path}: {detail}"
  | input line problem => s!"input line {line}: {problem.message}"
  | stream detail => s!"io: {detail}"

end RecordFlow.Runner
