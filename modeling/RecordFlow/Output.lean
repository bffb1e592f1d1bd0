/-!
# Outputs

The named outputs of a processor.  An output is its name, and outputs are ordered as
their names are.
-/

namespace RecordFlow

/-- A named output. -/
structure Output where
  name : String
  deriving DecidableEq, Inhabited, Repr

instance : Ord Output where
  compare a b := compare a.name b.name

end RecordFlow
