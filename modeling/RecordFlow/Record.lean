import RecordFlow.Dictionary
import RecordFlow.Text.Utf8

/-!
# Records

The unit of data that moves through a flow: content bytes, named text attributes, and
a mark for delayed reprocessing.
-/

namespace RecordFlow

structure Record where
  content : Bytes
  attributes : Dictionary String := .empty
  penalized : Bool := false
  deriving DecidableEq, Inhabited

namespace Record

def attribute? (r : Record) (name : String) : Option String :=
  r.attributes.get? name

def withAttribute (r : Record) (name value : String) : Record :=
  { r with attributes := r.attributes.insert name value }

/-- Mark the record for delayed reprocessing. -/
def penalize (r : Record) : Record :=
  { r with penalized := true }

/-- The content as text; what is no UTF-8 shows as U+FFFD. -/
def contentText (r : Record) : String :=
  Utf8.decodeLossy r.content

end Record

end RecordFlow
