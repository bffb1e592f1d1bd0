import RecordFlow.Bulk.Config
import RecordFlow.Bulk.Endpoint
import RecordFlow.Bulk.Payload
import RecordFlow.Bulk.Reply
import RecordFlow.Processor

/-!
# The bulk writer

The bulk writer takes a batch of records, submits one request for those that can be
part of it, and routes every record by the outcome.
-/

namespace RecordFlow.Bulk

/-- The output for records that the backend accepted. -/
def success : Output := ⟨"success"⟩

/-- The output for records that cannot be written. -/
def failure : Output := ⟨"failure"⟩

/-- The output for records that may be written later. -/
def retry : Output := ⟨"retry"⟩

/-- A way to submit payloads, in a monad that stands for the world outside. -/
structure Transport (m : Type → Type) where
  /-- The address that deliveries report. -/
  endpoint : String
  submit : String → m Submission

structure Writer (m : Type → Type) where
  config : Config
  transport : Transport m

def Config.request (config : Config) (records : List Record) : Request Record :=
  records.foldl (fun request r => request.push r (config.resolve r) r.content) {}

namespace Writer

def routeExcluded (excluded : List (Record × Exclusion)) (s : Session) : Session :=
  excluded.foldl (fun s entry => s.transfer entry.1 failure) s

def routeOutcome (endpoint : String) (penalize : Bool) (s : Session)
    (outcome : Record × Route) : Session :=
  match outcome with
  | (r, .success) => (s.reportSend r endpoint).transfer r success
  | (r, .failure _) => s.transfer (if penalize then r.penalize else r) failure
  | (r, .retry) => s.transfer r retry

def routeSubmitted (endpoint : String) (reconciliation : Reconciliation Record)
    (s : Session) : Session :=
  reconciliation.outcomes.foldl (routeOutcome endpoint reconciliation.penalize) s

/-- One trigger handles one batch.  Nothing is submitted when no record is left. -/
def trigger {m : Type → Type} [Monad m] (writer : Writer m) (s : Session) :
    m (Scheduling × Session) :=
  let (records, s) := s.take writer.config.batchSize
  let request := writer.config.request records
  let s := routeExcluded request.excluded s
  if request.pending.isEmpty then pure (.proceed, s)
  else do
    let submission ← writer.transport.submit request.payload
    let reconciliation := reconcile request.pending submission
    let s := routeSubmitted writer.transport.endpoint reconciliation s
    pure (if reconciliation.backOff then .yield else .proceed, s)

def ofConfig {m : Type → Type} (config : Config) (transport : Transport m) :
    Except Fault (Writer m) :=
  match config.validate with
  | .error fault => .error fault
  | .ok _ => .ok ⟨config, transport⟩

def processor (m : Type → Type) [Monad m] : Processor m (Writer m) where
  outputs _ := [success, failure, retry]
  trigger writer s := do
    let (scheduling, s) ← writer.trigger s
    pure (.ok scheduling, writer, s)
  setProperty _ name _ := .error (unsupportedProperty name)

end Writer

end RecordFlow.Bulk
