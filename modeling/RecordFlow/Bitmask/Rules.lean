import RecordFlow.Decimal.Integer
import RecordFlow.Dictionary
import RecordFlow.Fault
import RecordFlow.Output
import RecordFlow.Text.Blank

/-!
# Bitmask rules

Named masks.  Each rule backs an output of its own name, so the names of the router's
two fixed outputs are reserved, and a mask is never negative.
-/

namespace RecordFlow.Bitmask

/-- The output for records whose value matches no rule. -/
def unmatched : Output := ⟨"unmatched"⟩

/-- The output for records without a usable value. -/
def failure : Output := ⟨"failure"⟩

/-- Why a rule was not registered. -/
inductive RuleFault where
  | emptyName
  | reservedName (name : String)
  /-- The mask as it was given. -/
  | invalidMask (name mask : String)
  deriving DecidableEq, Repr

def RuleFault.message : RuleFault → String
  | emptyName => "rule name must not be empty"
  | reservedName name => s!"'{name}' is reserved and cannot be used as a rule name"
  | invalidMask name mask =>
    s!"mask for rule '{name}' must be a non-negative integer, got '{mask}'"

def RuleFault.toFault (fault : RuleFault) : Fault := ⟨.config, fault.message⟩

/-- Masks by rule name. -/
structure Rules where
  masks : Dictionary Int64
  deriving DecidableEq, Inhabited

namespace Rules

def empty : Rules := ⟨.empty⟩

/-- Add a rule, or replace the one of that name. -/
def register (rules : Rules) (name : String) (mask : Int64) : Except RuleFault Rules :=
  if name = "" then .error .emptyName
  else if name = unmatched.name ∨ name = failure.name then .error (.reservedName name)
  else if mask < 0 then .error (.invalidMask name (Decimal.render mask.toInt))
  else .ok ⟨rules.masks.insert name mask⟩

/-- Add a rule whose mask is given as text; white space around it does not count. -/
def registerText (rules : Rules) (name mask : String) : Except RuleFault Rules :=
  match Decimal.parseInt64? (Text.trim mask) with
  | some value => rules.register name value
  | none => .error (.invalidMask name mask)

/-- Remove a rule; tells whether there was one. -/
def remove (rules : Rules) (name : String) : Bool × Rules :=
  (rules.masks.contains name, ⟨rules.masks.erase name⟩)

def mask? (rules : Rules) (name : String) : Option Int64 := rules.masks.get? name

def size (rules : Rules) : Nat := rules.masks.size

def snapshot (rules : Rules) : List (Output × Int64) :=
  rules.masks.members.map fun member => (⟨member.1⟩, member.2)

end Rules

end RecordFlow.Bitmask
