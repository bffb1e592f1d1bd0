import RecordFlow.Configuration
import RecordFlow.Processor

/-!
# The terminator

A processor without outputs that removes up to a fixed number of records per trigger.
-/

namespace RecordFlow

/-- A terminator removes up to `bulk` records per trigger. -/
structure Terminator where
  bulk : Nat
  deriving DecidableEq, Repr

namespace Terminator

structure Config where
  bulk : Nat := 1
  deriving DecidableEq, Repr

def Config.shape : Json.Shape Config where
  name := "AutoTerminatorConfig"
  fields := [
    .of "bulk" false (Json.Decode.unsigned "usize")
      (fun _ bulk => { bulk := bulk.toNat })]
  initial := {}

def ofConfig (config : Config) : Except Fault Terminator :=
  if config.bulk = 0 then .error ⟨.config, "bulk must be at least 1"⟩
  else .ok ⟨config.bulk⟩

def trigger (terminator : Terminator) (s : Session) : Session :=
  let (records, s) := s.take terminator.bulk
  records.foldl Session.remove s

def processor (m : Type → Type) [Monad m] : Processor m Terminator where
  outputs _ := []
  trigger terminator s := pure (.ok .proceed, terminator, terminator.trigger s)
  setProperty _ name _ := .error (unsupportedProperty name)

end Terminator

end RecordFlow
