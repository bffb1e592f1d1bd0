import RecordFlow.Fault
import RecordFlow.Session

/-!
# Processors

A processor works on a session, one trigger at a time.  It may change its own state,
and it works in a monad `m` that stands for the world outside: identity for a
processor that needs none, a state monad for a scripted world.
-/

namespace RecordFlow

/-- What the host should do after a trigger. -/
inductive Scheduling where
  /-- Schedule as usual. -/
  | proceed
  /-- Pause the processor for its yield period. -/
  | yield
  deriving DecidableEq, Repr

/-- A processor with states `σ`, working in `m`. -/
structure Processor (m : Type → Type) (σ : Type) where
  /-- The outputs declared in a state. -/
  outputs : σ → List Output
  /-- One cycle of work on a session. -/
  trigger : σ → Session → m (Except Fault Scheduling × σ × Session)
  /-- Set a dynamic property, or remove it. -/
  setProperty : σ → String → Option String → Except Fault σ

/-- The answer of a processor without dynamic properties. -/
def unsupportedProperty (name : String) : Fault :=
  ⟨.config, s!"dynamic property '{name}' is not supported by this processor"⟩

end RecordFlow
