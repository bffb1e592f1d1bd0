import RecordFlow.Text.Hexadecimal

/-!
# Sets of code points

A set of code points as a table of inclusive ranges.
-/

namespace RecordFlow.Text

/-- Inclusive ranges of code points. -/
structure CodeRanges where
  bounds : Array (Nat × Nat)

namespace CodeRanges

def parse (text : String) : CodeRanges := ⟨hexPairs text⟩

def contains (ranges : CodeRanges) (n : Nat) : Bool :=
  ranges.bounds.any fun bound => bound.1 ≤ n && n ≤ bound.2

end CodeRanges

end RecordFlow.Text
