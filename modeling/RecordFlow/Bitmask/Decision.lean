import RecordFlow.Output

/-!
# Bitmask decisions

A rule matches a value when every bit of its mask is set in the value.  On request the
bits of all matching masks are cleared from the value together.
-/

namespace RecordFlow.Bitmask

/-- What the rules say about a value. -/
structure Decision where
  /-- The outputs of the matching rules, in rule order. -/
  matched : List Output
  /-- The value without the bits of the matching masks, when clearing was asked for and
  a rule matched. -/
  cleared : Option Int64
  deriving DecidableEq

/-- Every bit of the mask is set in the value. -/
def covers (value mask : Int64) : Bool := value &&& mask == mask

def matching (rules : List (Output × Int64)) (value : Int64) : List (Output × Int64) :=
  rules.filter fun rule => covers value rule.2

def union (rules : List (Output × Int64)) : Int64 :=
  rules.foldl (fun bits rule => bits ||| rule.2) 0

def decide (rules : List (Output × Int64)) (value : Int64) (clearing : Bool) : Decision :=
  let hits := matching rules value
  { matched := hits.map Prod.fst
    cleared := if clearing && !hits.isEmpty then some (value ^^^ union hits) else none }

end RecordFlow.Bitmask
