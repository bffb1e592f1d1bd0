import RecordFlow.Json.Document
import RecordFlow.Text.Quoted

/-!
# From documents to values

Decoders walk a document in document order and report the first problem.  Containers
may nest 127 deep in everything that is decoded; what is skipped may nest deeper and
need not be proper Unicode or in range.
-/

namespace RecordFlow

/-- Why a configuration or a message was not accepted. -/
inductive Problem where
  /-- The text is not of its format. -/
  | malformed
  | missingField (name : String)
  | duplicateField (name : String)
  | invalidType (found expected : String)
  | invalidValue (found expected : String)
  | invalidLength (length : Nat) (expected : String)
  | unknownVariant (name : String) (known : List String)
  /-- None of the alternatives of the named choice fits. -/
  | noAlternative (choice : String)
  deriving DecidableEq, Repr

namespace Problem

/-- Names between backticks, the last two joined by `or`. -/
def alternatives : List String → String
  | [] => ""
  | [a] => s!"`{a}`"
  | [a, b] => s!"`{a}` or `{b}`"
  | many => "one of " ++ ", ".intercalate (many.map fun name => s!"`{name}`")

def message : Problem → String
  | malformed => "syntax"
  | missingField name => s!"missing field `{name}`"
  | duplicateField name => s!"duplicate field `{name}`"
  | invalidType found expected => s!"invalid type: {found}, expected {expected}"
  | invalidValue found expected => s!"invalid value: {found}, expected {expected}"
  | invalidLength length expected => s!"invalid length {length}, expected {expected}"
  | unknownVariant name known => s!"unknown variant `{name}`, expected {alternatives known}"
  | noAlternative choice => s!"data did not match any variant of untagged enum {choice}"

end Problem

end RecordFlow

namespace RecordFlow.Json

/-- A decoder of documents; the number says how many containers may still be
entered. -/
abbrev Decoder (α : Type) := Nat → Document → Except Problem α

/-- The nesting that a decoder starts with. -/
def depthLimit : Nat := 127

mutual

/-- Nothing in the document is broken.  This is all that is asked of what is skipped. -/
def Document.intact : Document → Bool
  | .broken => false
  | .array items => itemsIntact items
  | .object members => membersIntact members
  | _ => true

def itemsIntact : List Document → Bool
  | [] => true
  | item :: items => item.intact && itemsIntact items

/-- No member is broken, and each has a name. -/
def membersIntact : List (Document × Document) → Bool
  | [] => true
  | (.text _, value) :: members => value.intact && membersIntact members
  | _ :: _ => false

end

/-- How a number is described in a problem. -/
def Number.described : Number → String
  | .natural n => s!"integer `{n.toNat}`"
  | .negative i => s!"integer `{i.toInt}`"
  | .double x => s!"floating point `{doubleLayout.finite x}`"

/-- The problem of a document that is not of the expected type.  A scalar must be read
to its end before its type counts. -/
def Document.mistyped (expected : String) : Document → Problem
  | .null => .invalidType "null" expected
  | .bool b => .invalidType s!"boolean `{b}`" expected
  | .number (some n) => .invalidType n.described expected
  | .text (some s) => .invalidType s!"string {Text.quoted s}" expected
  | .array _ => .invalidType "sequence" expected
  | .object _ => .invalidType "map" expected
  | .number none | .text none | .broken => .malformed

namespace Decode

def text : Decoder String
  | _, .text (some s) => .ok s
  | _, d => .error (d.mistyped "a string")

def bool : Decoder Bool
  | _, .bool b => .ok b
  | _, d => .error (d.mistyped "a boolean")

/-- An unsigned 64-bit integer, described as `expected`. -/
def unsigned (expected : String) : Decoder UInt64
  | _, .number (some (.natural n)) => .ok n
  | _, .number (some (.negative i)) =>
    .error (.invalidValue (Number.negative i).described expected)
  | _, d => .error (d.mistyped expected)

/-- A value that may be null. -/
def optional {α : Type} (decoder : Decoder α) : Decoder (Option α)
  | _, .null => .ok none
  | depth, d => (decoder depth d).map some

def name : Document → Except Problem String
  | .text (some s) => .ok s
  | _ => .error .malformed

mutual

/-- Any JSON value. -/
def value : Nat → Document → Except Problem Json
  | _, .null => .ok .null
  | _, .bool b => .ok (.bool b)
  | _, .number (some n) => .ok (.number n)
  | _, .text (some s) => .ok (.text s)
  | depth, .array items =>
    match depth with
    | 0 => .error .malformed
    | depth + 1 => (values depth items).map .array
  | depth, .object members =>
    match depth with
    | 0 => .error .malformed
    | depth + 1 => (objectMembers depth [] members).map .object
  | _, .number none | _, .text none | _, .broken => .error .malformed

def values : Nat → List Document → Except Problem (List Json)
  | _, [] => .ok []
  | depth, item :: items =>
    match value depth item with
    | .error problem => .error problem
    | .ok first =>
      match values depth items with
      | .error problem => .error problem
      | .ok rest => .ok (first :: rest)

/-- The members of an object of any JSON values, after the members `done`.  A repeated
name keeps its first place and takes the last value. -/
def objectMembers : Nat → List (String × Json) → List (Document × Document) →
    Except Problem (List (String × Json))
  | _, done, [] => .ok done
  | depth, done, (key, d) :: members =>
    match name key with
    | .error problem => .error problem
    | .ok key =>
      match value depth d with
      | .error problem => .error problem
      | .ok v => objectMembers depth (setMember done key v) members

end

def list {α : Type} (decoder : Decoder α) : Decoder (List α)
  | 0, .array _ => .error .malformed
  | depth + 1, .array items => items.mapM (decoder depth)
  | _, d => .error (d.mistyped "a sequence")

end Decode

end RecordFlow.Json
