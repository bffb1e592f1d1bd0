import RecordFlow.Processor

/-!
# Running a processor

A run triggers a processor until the queue of its session is empty or a limit is
reached.  A trigger that fails is counted, and the run goes on.
-/

namespace RecordFlow

structure Tally where
  triggers : Nat := 0
  yields : Nat := 0
  failed : Nat := 0
  deriving DecidableEq, Repr

def Tally.count (tally : Tally) : Except Fault Scheduling → Tally
  | .ok .proceed => { tally with triggers := tally.triggers + 1 }
  | .ok .yield =>
    { tally with triggers := tally.triggers + 1, yields := tally.yields + 1 }
  | .error _ =>
    { tally with triggers := tally.triggers + 1, failed := tally.failed + 1 }

/-- Whether the host pauses after this result. -/
def needsPause : Except Fault Scheduling → Bool
  | .ok .proceed => false
  | .ok .yield => true
  | .error _ => true

structure Summary where
  tally : Tally
  /-- Records removed in the session, in this run and before. -/
  removed : Nat
  /-- Entries of the routing log by output name. -/
  routed : Dictionary Nat
  deriving DecidableEq

/-- The number of log entries for each output name. -/
def countByOutput (log : List (Output × Record)) : Dictionary Nat :=
  log.foldl (fun counts entry =>
    counts.insert entry.1.name ((counts.get? entry.1.name).getD 0 + 1)) .empty

/-- Trigger a processor at most `limit` times while its session has waiting records. -/
def triggerWhileQueued {m : Type → Type} {σ : Type} [Monad m] (p : Processor m σ)
    (pause : m Unit) : Nat → Tally → σ → Session → m (Tally × σ × Session)
  | 0, tally, state, session => pure (tally, state, session)
  | limit + 1, tally, state, session =>
    if session.queue.isEmpty then pure (tally, state, session)
    else do
      let (result, state, session) ← p.trigger state session
      if needsPause result then pause
      triggerWhileQueued p pause limit (tally.count result) state session

/-- Run a processor with a limit on its triggers. -/
def run {m : Type → Type} {σ : Type} [Monad m] (p : Processor m σ) (pause : m Unit)
    (limit : Nat) (state : σ) (session : Session) : m (Summary × σ × Session) := do
  let (tally, state, session) ← triggerWhileQueued p pause limit {} state session
  let summary :=
    { tally, removed := session.removed, routed := countByOutput session.routed.toList }
  pure (summary, state, session)

end RecordFlow
