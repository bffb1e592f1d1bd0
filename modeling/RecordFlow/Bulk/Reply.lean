import RecordFlow.Http.Reply
import RecordFlow.Json.Fields

/-!
# Bulk replies

How a submission ended, and what that means for each of its records.  A reply that
reports errors lists one item per record, in the order of the request; each item
decides about its own record.
-/

namespace RecordFlow.Bulk

/-- How a submission ended. -/
inductive Submission where
  /-- There was no reply. -/
  | transportError (message : String)
  | reply (reply : Http.Reply)
  deriving DecidableEq, Repr

/-- Where a record goes. -/
inductive Route where
  | success
  | failure (reason : String)
  | retry
  deriving DecidableEq, Repr

/-- What a submission means for its records. -/
structure Reconciliation (R : Type) where
  /-- Each record and its route, in the order of the request. -/
  outcomes : List (R × Route)
  /-- Failed records are marked for delayed reprocessing. -/
  penalize : Bool
  /-- The host should pause. -/
  backOff : Bool

/-- Statuses from 200 to 299 are successes. -/
def isSuccess (status : UInt16) : Bool := 200 ≤ status && status < 300

mutual

/-- The first member of this name inside a value: an object's own member comes before
those deeper inside, and children are searched in order. -/
def find? (name : String) : Json → Option Json
  | .object members => (members.lookup name).or (findInMembers? name members)
  | .array items => findInItems? name items
  | _ => none

def findInItems? (name : String) : List Json → Option Json
  | [] => none
  | item :: items => (find? name item).or (findInItems? name items)

def findInMembers? (name : String) : List (String × Json) → Option Json
  | [] => none
  | (_, value) :: members => (find? name value).or (findInMembers? name members)

end

/-- What a reply says about one record. -/
structure Item where
  status : UInt16
  reason : Option String
  deriving DecidableEq, Repr

namespace Item

/-- A status must be an integer that fits 16 bits; anything else counts as 0. -/
def statusOf : Option Json → UInt16
  | some (.number (.natural n)) => if n.toNat < UInt16.size then n.toUInt16 else 0
  | _ => 0

/-- The reason of an error: the error itself if it is text, or its `reason`. -/
def reasonOf : Json → Option String
  | .text s => some s
  | error =>
    match error.member? "reason" with
    | some (.text s) => some s
    | _ => none

def ofJson (value : Json) : Item where
  status := statusOf (find? "status" value)
  reason := (find? "error" value).bind reasonOf

def route (item : Item) : Route :=
  if isSuccess item.status then .success
  else .failure (item.reason.getD s!"bulk item failed with status {item.status.toNat}")

end Item

/-- The part of a reply's body that matters. -/
structure Response where
  errors : Bool := false
  items : List Json := []
  deriving Inhabited

def Response.shape : Json.Shape Response where
  name := "BulkResponse"
  fields := [
    .of "errors" false Json.Decode.bool (fun response errors => { response with errors }),
    .of "items" false (Json.Decode.list Json.Decode.value)
      (fun response items => { response with items })]
  initial := {}

/-- Pair records with items by position.  Records without an item succeeded, and items
without a record mean nothing. -/
def pairItems {R : Type} : List R → List Json → List (R × Route)
  | [], _ => []
  | r :: records, [] => (r, .success) :: pairItems records []
  | r :: records, item :: items => (r, (Item.ofJson item).route) :: pairItems records items

def uniform {R : Type} (pending : List R) (route : Route) (penalize backOff : Bool) :
    Reconciliation R :=
  ⟨pending.map fun r => (r, route), penalize, backOff⟩

/-- What a submission means for its records. -/
def reconcile {R : Type} (pending : List R) : Submission → Reconciliation R
  | .transportError message => uniform pending (.failure message) true false
  | .reply reply =>
    if isSuccess reply.status then
      match Json.decodeBytes Response.shape.decoder reply.body with
      | .ok response =>
        ⟨pairItems pending (if response.errors then response.items else []), false, false⟩
      | .error problem =>
        uniform pending (.failure s!"unparseable bulk response: {problem.message}") false true
    else if reply.status / 100 == 5 then uniform pending .retry false true
    else
      uniform pending (.failure s!"backend returned status {reply.status.toNat}") false false

end RecordFlow.Bulk
