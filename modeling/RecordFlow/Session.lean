import RecordFlow.Output
import RecordFlow.Record

/-!
# Sessions

A session is a host's side of processing: a queue of records that wait, a log of the
records that were routed, a count of those that were removed, and a log of deliveries.
Records leave the queue in the order in which they entered it.
-/

namespace RecordFlow

/-- A record was sent to an address. -/
structure Delivery where
  address : String
  record : Record
  deriving DecidableEq, Inhabited

/-- Waiting records and the logs of what became of the others. -/
structure Session where
  queue : List Record := []
  routed : Array (Output × Record) := #[]
  removed : Nat := 0
  deliveries : Array Delivery := #[]
  deriving DecidableEq, Inhabited

namespace Session

def enqueue (s : Session) (r : Record) : Session :=
  { s with queue := s.queue ++ [r] }

def enqueueAll (s : Session) (records : List Record) : Session :=
  { s with queue := s.queue ++ records }

def take (s : Session) (max : Nat) : List Record × Session :=
  (s.queue.take max, { s with queue := s.queue.drop max })

def transfer (s : Session) (r : Record) (output : Output) : Session :=
  { s with routed := s.routed.push (output, r) }

def remove (s : Session) (_r : Record) : Session :=
  { s with removed := s.removed + 1 }

def reportSend (s : Session) (r : Record) (address : String) : Session :=
  { s with deliveries := s.deliveries.push ⟨address, r⟩ }

/-- The records routed to the output of this name, in order. -/
def transferred (s : Session) (name : String) : List Record :=
  (s.routed.toList.filter (·.1.name == name)).map Prod.snd

def transferredCount (s : Session) (name : String) : Nat :=
  (s.routed.toList.filter (·.1.name == name)).length

/-- Take the routing log, and leave it empty. -/
def drain (s : Session) : List (Output × Record) × Session :=
  (s.routed.toList, { s with routed := #[] })

end Session

end RecordFlow
