import RecordFlow.Bitmask.Config
import RecordFlow.Bulk.Writer
import RecordFlow.Plugin
import RecordFlow.Terminator

/-!
# Shipped processors

The three processors of this library as one, and the plugin libraries that create them
from configuration texts.
-/

namespace RecordFlow

/-- A shipped processor in some state. -/
inductive Shipped (m : Type → Type) where
  | router (router : Bitmask.Router)
  | terminator (terminator : Terminator)
  | bulkWriter (writer : Bulk.Writer m)

inductive ShippedKind where
  | router
  | terminator
  | bulkWriter
  deriving DecidableEq, Repr

def ShippedKind.libraries : List (String × ShippedKind) :=
  [("router", .router), ("terminator", .terminator), ("bulk", .bulkWriter)]

/-- The kind that a plugin path names: the name of its file, up to the first dot. -/
def ShippedKind.ofPath? (path : String) : Option ShippedKind :=
  let file := (path.toList.reverse.takeWhile (· != '/')).reverse
  libraries.lookup (String.ofList (file.takeWhile (· != '.')))

namespace Shipped

variable {m : Type → Type}

/-- Create a bulk writer.  `connect` gives the transport to an endpoint. -/
def bulkWriterOf (connect : Bulk.Config → Url → Bulk.Transport m) (config : Bulk.Config) :
    Except Fault (Bulk.Writer m) :=
  match config.validate with
  | .error fault => .error fault
  | .ok _ =>
    match Bulk.endpoint config.url config.queryParams with
    | .error fault => .error fault
    | .ok url => .ok ⟨config, connect config url⟩

/-- Create a processor from a configuration text.  Only the terminator does without
one. -/
def create (connect : Bulk.Config → Url → Bulk.Transport m) (kind : ShippedKind)
    (config : Option Bytes) : Except Fault (Shipped m) :=
  match kind with
  | .router =>
    match Configuration.read Bitmask.Config.shape.decoder (config.getD []) with
    | .error fault => .error fault
    | .ok config => config.router.map router
  | .terminator =>
    match Configuration.readOr {} Terminator.Config.shape.decoder config with
    | .error fault => .error fault
    | .ok config => (Terminator.ofConfig config).map terminator
  | .bulkWriter =>
    match Configuration.read Bulk.Config.shape.decoder (config.getD []) with
    | .error fault => .error fault
    | .ok config => (bulkWriterOf connect config).map bulkWriter

def library (connect : Bulk.Config → Url → Bulk.Transport m) (kind : ShippedKind) :
    Plugin.Library (Shipped m) :=
  .ofCreate (create connect kind)

def outputs [Monad m] : Shipped m → List Output
  | .router r => (Bitmask.Router.processor m).outputs r
  | .terminator t => (Terminator.processor m).outputs t
  | .bulkWriter w => (Bulk.Writer.processor m).outputs w

/-- Trigger a processor, and wrap its state again. -/
def triggerWith {σ : Type} [Monad m] (p : Processor m σ) (wrap : σ → Shipped m) (state : σ)
    (s : Session) : m (Except Fault Scheduling × Shipped m × Session) := do
  let (result, state, s) ← p.trigger state s
  pure (result, wrap state, s)

def processor (m : Type → Type) [Monad m] : Processor m (Shipped m) where
  outputs := outputs
  trigger
    | .router r => triggerWith (Bitmask.Router.processor m) router r
    | .terminator t => triggerWith (Terminator.processor m) terminator t
    | .bulkWriter w => triggerWith (Bulk.Writer.processor m) bulkWriter w
  setProperty
    | .router r, name, value =>
      ((Bitmask.Router.processor m).setProperty r name value).map router
    | .terminator t, name, value =>
      ((Terminator.processor m).setProperty t name value).map terminator
    | .bulkWriter w, name, value =>
      ((Bulk.Writer.processor m).setProperty w name value).map bulkWriter

end Shipped

end RecordFlow
