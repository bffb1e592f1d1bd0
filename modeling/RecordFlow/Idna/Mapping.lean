import RecordFlow.Idna.MappingTable
import RecordFlow.Text.Printable

/-!
# Mapping characters of domain names

Every character is kept, dropped, refused, or mapped to other characters: capitals to
small letters, variants to their plain forms, and the full stops of other scripts to
the full stop.
-/

namespace RecordFlow.Idna

/-- The image of a character under the rows of shifted ranges. -/
def shifted? (n : Nat) : Option Nat :=
  shiftedRows.findSome? fun
    | [first, last, image] => if first ≤ n && n ≤ last then some (image + (n - first)) else none
    | _ => none

/-- The image of a character under the rows of alternating ranges. -/
def alternated? (n : Nat) : Option Nat :=
  alternatingRows.findSome? fun (first, last) =>
    if first ≤ n && n ≤ last && (n - first) % 2 == 0 then some (n + 1) else none

def listed? (n : Nat) : Option (List Nat) :=
  listedRows.findSome? fun
    | c :: image => if c == n then some image else none
    | [] => none

/-- The characters that a character is mapped to, if it is mapped. -/
def image? (n : Nat) : Option (List Nat) :=
  match shifted? n, alternated? n with
  | some m, _ | none, some m => some [m]
  | none, none => listed? n

/-- Whether a character that is not mapped stays as it is. -/
def isKept (n : Nat) : Bool :=
  admitted.contains n || !(Text.unprintable.contains n || refused.contains n)

def mapChar? (c : Char) : Option (List Char) :=
  let n := c.toNat
  if n < 0x80 then some [c.toLower]
  else
    match image? n with
    | some image => some (image.map Char.ofNat)
    | none =>
      if ignored.contains n then some []
      else if isKept n then some [c]
      else none

def isStable (c : Char) : Bool := mapChar? c == some [c]

def mapText? (text : List Char) : Option (List Char) :=
  (text.mapM mapChar?).map List.flatten

end RecordFlow.Idna
