import RecordFlow.Bulk.Writer
import RecordFlow.Proofs.Bulk.Reconciliation
import RecordFlow.Proofs.Bulk.Request
import RecordFlow.Proofs.Session

/-!
# Batches of the bulk writer

A trigger takes a batch and splits it into the records that are left out and those that
survive.  The former are routed at once; the latter are submitted together, and what
the submission means for each of them is added to the logs of the session.
-/

namespace RecordFlow.Bulk

/-! ## The split of a batch -/

namespace Config

variable (config : Config)

def pushOf (r : Record) : Push Record := ⟨r, config.resolve r, r.content⟩

def accepts (r : Record) : Bool := (config.pushOf r).survives

def batch (s : Session) : List Record := s.queue.take config.batchSize

/-- The records of the batch that are submitted. -/
def survivors (s : Session) : List Record := (config.batch s).filter config.accepts

/-- The records of the batch that are set aside. -/
def leftOut (s : Session) : List Record := (config.batch s).filter fun r => !config.accepts r

theorem request_eq (records : List Record) :
    config.request records = Request.pushAll {} (records.map config.pushOf) := by
  rw [Request.pushAll, List.foldl_map]
  rfl

theorem payload_request (records : List Record) :
    (config.request records).payload =
      String.join (records.map fun r => (config.pushOf r).lines) := by
  rw [request_eq, pushAll_eq, List.map_map]
  exact String.empty_append

theorem pending_request (records : List Record) :
    (config.request records).pending = records.filter config.accepts := by
  rw [request_eq, pushAll_eq, List.filter_map]
  change (List.map Push.record (List.map config.pushOf _)) = _
  rw [List.map_map]
  exact List.map_id _

theorem excluded_request (records : List Record) :
    (config.request records).excluded.map Prod.fst =
      records.filter fun r => !config.accepts r := by
  have hone (r : Record) : ((config.pushOf r).setAside?.map Prod.fst) =
      Option.guard (fun r => !config.accepts r) r := by
    rw [Option.guard, accepts, Push.survives, Push.setAside?]
    cases (config.pushOf r).entry <;> rfl
  rw [request_eq, pushAll_eq]
  change (List.filterMap Push.setAside? (records.map config.pushOf)).map Prod.fst = _
  rw [List.filterMap_map, List.map_filterMap, ← List.filterMap_eq_filter]
  exact congrArg (List.filterMap · records) (funext hone)

end Config

/-! ## What a record adds to the logs -/

/-- The entry for a record and its route; a failed record may be marked. -/
def entryOf (penalize : Bool) : Record × Route → Output × Record
  | (r, .success) => (success, r)
  | (r, .failure _) => (failure, if penalize then r.penalize else r)
  | (r, .retry) => (retry, r)

/-- The deliveries for a record and its route. -/
def eventsOf (endpoint : String) : Record × Route → List Delivery
  | (r, .success) => [⟨endpoint, r⟩]
  | (_, .failure _) | (_, .retry) => []

theorem routeExcluded_eq (excluded : List (Record × Exclusion)) (s : Session) :
    Writer.routeExcluded excluded s =
      s.extend ((excluded.map Prod.fst).map fun r => (failure, r)) [] := by
  rw [Writer.routeExcluded, Session.foldl_transfer s Prod.fst fun _ => failure, List.map_map]
  rfl

theorem routeOutcome_eq (endpoint : String) (penalize : Bool) (s : Session)
    (outcome : Record × Route) :
    Writer.routeOutcome endpoint penalize s outcome =
      s.extend [entryOf penalize outcome] (eventsOf endpoint outcome) := by
  rcases outcome with ⟨r, _ | _ | _⟩
  · rw [Writer.routeOutcome, Session.reportSend_eq_extend, Session.transfer_eq_extend,
      Session.extend_extend]
    rfl
  · exact Session.transfer_eq_extend s _ failure
  · exact Session.transfer_eq_extend s r retry

theorem routeSubmitted_eq (endpoint : String) (reconciliation : Reconciliation Record)
    (s : Session) :
    Writer.routeSubmitted endpoint reconciliation s =
      s.extend (reconciliation.outcomes.map (entryOf reconciliation.penalize))
        (reconciliation.outcomes.flatMap (eventsOf endpoint)) := by
  rw [Writer.routeSubmitted,
    Session.foldl_extend s (routeOutcome_eq endpoint reconciliation.penalize),
    ← List.map_eq_flatMap]

namespace Writer

variable {m : Type → Type} [Monad m]

/-- The session when the batch was taken and the records left out were routed. -/
def setAside (config : Config) (s : Session) : Session :=
  { s with queue := s.queue.drop config.batchSize }.extend
    ((config.leftOut s).map fun r => (failure, r)) []

/-- The session when a submission has ended. -/
def settle (config : Config) (endpoint : String) (s : Session) (submission : Submission) :
    Session :=
  let reconciliation := reconcile (config.survivors s) submission
  (setAside config s).extend (reconciliation.outcomes.map (entryOf reconciliation.penalize))
    (reconciliation.outcomes.flatMap (eventsOf endpoint))

def scheduling (config : Config) (s : Session) (submission : Submission) : Scheduling :=
  if (reconcile (config.survivors s) submission).backOff then .yield else .proceed

def payload (config : Config) (s : Session) : String := (config.request (config.batch s)).payload

/-- A trigger submits one payload for the survivors of its batch, if there are any. -/
theorem trigger_eq (writer : Writer m) (s : Session) :
    writer.trigger s =
      if writer.config.survivors s = [] then pure (.proceed, setAside writer.config s)
      else writer.transport.submit (payload writer.config s) >>= fun submission =>
        pure (scheduling writer.config s submission,
          settle writer.config writer.transport.endpoint s submission) := by
  have htake : s.take writer.config.batchSize =
      (writer.config.batch s, { s with queue := s.queue.drop writer.config.batchSize }) := rfl
  rw [trigger, htake]
  simp only [routeExcluded_eq, Config.excluded_request, Config.pending_request,
    routeSubmitted_eq]
  by_cases hnone : writer.config.survivors s = []
  · rw [if_pos hnone, if_pos (by rw [← Config.survivors, hnone]; rfl)]
    rfl
  · rw [if_neg hnone, if_neg (by rwa [← Config.survivors, List.isEmpty_iff])]
    rfl

/-- The same for a transport that works on a world of its own. -/
theorem run_trigger {World : Type} (writer : Writer (StateM World)) (s : Session)
    (world : World) :
    (writer.trigger s).run world =
      if writer.config.survivors s = [] then ((.proceed, setAside writer.config s), world)
      else
        let outcome := (writer.transport.submit (payload writer.config s)).run world
        ((scheduling writer.config s outcome.1,
          settle writer.config writer.transport.endpoint s outcome.1), outcome.2) := by
  rw [trigger_eq]
  by_cases hnone : writer.config.survivors s = []
  · rw [if_pos hnone, if_pos hnone]
    rfl
  · rw [if_neg hnone, if_neg hnone]
    rfl

end Writer

/-! ## Observed submissions -/

/-- A payload that was submitted, and how its submission ended. -/
structure Exchange where
  payload : String
  submission : Submission

/-- A transport with any behaviour: it answers by all that was exchanged before.  It logs
its exchanges. -/
def Transport.observed (endpoint : String) (answer : List Exchange → String → Submission) :
    Transport (StateM (List Exchange)) where
  endpoint := endpoint
  submit payload := modifyGet fun log =>
    (answer log payload, log ++ [⟨payload, answer log payload⟩])

def Writer.observed (config : Config) (endpoint : String)
    (answer : List Exchange → String → Submission) : Writer (StateM (List Exchange)) :=
  ⟨config, .observed endpoint answer⟩

/-- An observed trigger submits one payload for its survivors, or nothing. -/
theorem Writer.run_trigger_observed (config : Config) (endpoint : String)
    (answer : List Exchange → String → Submission) (log : List Exchange) (s : Session) :
    ((observed config endpoint answer).trigger s).run log =
      if config.survivors s = [] then ((.proceed, setAside config s), log)
      else
        let submission := answer log (payload config s)
        ((scheduling config s submission, settle config endpoint s submission),
          log ++ [⟨payload config s, submission⟩]) :=
  run_trigger (observed config endpoint answer) s log

end RecordFlow.Bulk
