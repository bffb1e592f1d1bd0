import RecordFlow.Fault
import RecordFlow.Text.Utf8

/-!
# Plugin libraries

A host gets its processors from libraries.  A library exports the version of the
interface it was built for and a function that creates a processor from a configuration
text; either may be absent.
-/

namespace RecordFlow.Plugin

/-- The version of the interface that this host speaks. -/
def hostVersion : Nat := 1

def versionSymbol : String := "qs_abi_version"

def createSymbol : String := "qs_create_processor"

/-- A library of processors `α`, as far as it exports what it should. -/
structure Library (α : Type) where
  version : Option Nat
  /-- Create a processor from a configuration text, which may be left out.  The result
  is a processor, a message, or neither. -/
  create : Option (Option Bytes → Except String (Option α))

/-- A library without faults. -/
def Library.ofCreate {α : Type} (create : Option Bytes → Except Fault α) : Library α where
  version := some hostVersion
  create := some fun config =>
    match create config with
    | .ok a => .ok (some a)
    | .error fault => .error fault.message

def Library.bare {α : Type} : Library α := ⟨none, none⟩

/-- The message when a library cannot be opened. -/
def unavailable (path : String) : String := s!"failed to load plugin '{path}'"

/-- Create a processor with the library found at a path.  Whatever goes wrong here is a
fault of the configuration. -/
def load {α : Type} (path : String) (library : Option (Library α)) (config : Bytes) :
    Except Fault α :=
  match library with
  | none => .error ⟨.config, unavailable path⟩
  | some library =>
    match library.version with
    | none =>
      .error ⟨.config,
        s!"plugin '{path}' does not export '{versionSymbol}'. Rebuild the plugin."⟩
    | some version =>
      if version ≠ hostVersion then
        .error ⟨.config, s!"ABI version mismatch for plugin '{path}': plugin has version "
          ++ s!"{version}, host expects {hostVersion}. Rebuild the plugin."⟩
      else
        match library.create with
        | none => .error ⟨.config, s!"symbol '{createSymbol}' not found in '{path}'"⟩
        | some create =>
          match create (some config) with
          | .error message => .error ⟨.config, s!"plugin '{path}' error: {message}"⟩
          | .ok none => .error ⟨.config, s!"plugin '{path}' returned null"⟩
          | .ok (some processor) => .ok processor

end RecordFlow.Plugin
