import RecordFlow.Dictionary
import RecordFlow.Fault
import RecordFlow.Text.Blank
import RecordFlow.Url.Form
import RecordFlow.Url.Parser

/-!
# The bulk endpoint

The address of bulk requests: the base URL with the segment `_bulk` appended to its
path and with extra parameters appended to its query.
-/

namespace RecordFlow.Bulk

/-- Append parameters to a query; without parameters it stays as it is. -/
def withParams (query : Option (List Char)) (params : List (String × String)) :
    Option (List Char) :=
  if params.isEmpty then query else some (Url.appendPairs (query.getD []) params)

def endpoint (base : String) (params : Dictionary String) : Except Fault Url :=
  match Url.parse (Text.trim base) with
  | .error fault => .error ⟨.config, s!"invalid url '{base}': {fault.message}"⟩
  | .ok url =>
    match url.path with
    | .bare _ => .error ⟨.config, s!"url '{base}' cannot be used as a base"⟩
    | .segments parts =>
      .ok { url with
        path := .segments (Url.appendSegment parts "_bulk".toList)
        query := withParams url.query params.members }

end RecordFlow.Bulk
