import RecordFlow.Decimal.Shortest

/-!
# JSON values

A value keeps the order of its object members, and its integers apart from its
doubles: `1` and `1.0` are different values with different texts.
-/

namespace RecordFlow.Json

/-- A JSON number: an unsigned integer, a negative integer, or a finite double. -/
inductive Number where
  | natural (n : UInt64)
  /-- The value is below zero. -/
  | negative (i : Int64)
  | double (x : Float)
  deriving DecidableEq, Inhabited

/-- Doubles with decimal exponents -5 to 15 are written out; all others carry an
exponent. -/
def doubleLayout : Decimal.Layout := ⟨fun e => -5 ≤ e && e ≤ 15⟩

def Number.render : Number → String
  | .natural n => toString n.toNat
  | .negative i => toString i.toInt
  | .double x => doubleLayout.finite x

/-- The number as a signed 64-bit integer. -/
def Number.toInt64? : Number → Option Int64
  | .natural n => if n.toNat < 0x8000000000000000 then some (Int64.ofNat n.toNat) else none
  | .negative i => some i
  | .double _ => none

end RecordFlow.Json

namespace RecordFlow

inductive Json where
  | null
  | bool (b : Bool)
  | number (n : Json.Number)
  | text (s : String)
  | array (items : List Json)
  /-- Members in document order; no name occurs twice. -/
  | object (members : List (String × Json))
  deriving Inhabited

namespace Json

/-- Set a member: a new name goes to the end, a known one keeps its place. -/
def setMember (members : List (String × Json)) (name : String) (value : Json) :
    List (String × Json) :=
  match members with
  | [] => [(name, value)]
  | (n, v) :: rest =>
    if n = name then (n, value) :: rest else (n, v) :: setMember rest name value

def member? : Json → String → Option Json
  | .object members, name => members.lookup name
  | _, _ => none

end Json

end RecordFlow
