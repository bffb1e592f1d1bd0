import RecordFlow.Fault
import RecordFlow.Json.Fields

/-!
# Configuration texts

A processor is configured by a JSON text in UTF-8.  A text that cannot be read is a
fault of the configuration.
-/

namespace RecordFlow.Configuration

def read {α : Type} (decoder : Json.Decoder α) (bytes : Bytes) : Except Fault α :=
  match Utf8.decode bytes with
  | .error fault => .error ⟨.config, s!"invalid UTF-8 config: {fault.message}"⟩
  | .ok _ =>
    match Json.decodeBytes decoder bytes with
    | .error problem => .error ⟨.config, s!"invalid config JSON: {problem.message}"⟩
    | .ok config => .ok config

/-- Read a configuration that may be left out: no text, or an empty one, stands for the
default. -/
def readOr {α : Type} (default : α) (decoder : Json.Decoder α) :
    Option Bytes → Except Fault α
  | none | some [] => .ok default
  | some bytes => read decoder bytes

end RecordFlow.Configuration
