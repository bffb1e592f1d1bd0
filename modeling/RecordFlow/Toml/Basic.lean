import RecordFlow.Json.Basic
import RecordFlow.Dictionary
import RecordFlow.Toml.Datetime

/-!
# TOML values

A value keeps the members of a table in the order in which they were first written.
-/

namespace RecordFlow

inductive Toml where
  | string (s : String)
  | integer (i : Int64)
  | float (x : Float)
  | boolean (b : Bool)
  | datetime (d : Toml.Datetime)
  | array (items : List Toml)
  /-- No name occurs twice. -/
  | table (members : List (String × Toml))
  deriving Inhabited

namespace Toml

def typeWord : Toml → String
  | string _ => "string"
  | integer _ => "integer"
  | float _ => "float"
  | boolean _ => "boolean"
  | datetime _ => "datetime"
  | array _ => "array"
  | table _ => "table"

/-- The name under which a date or time becomes the member of a table. -/
def datetimeMember : String := "$__toml_private_datetime"

/-- The members of a table.  A date or time counts as a table with one member, its
text. -/
def members? : Toml → Option (List (String × Toml))
  | table members => some members
  | datetime d => some [(datetimeMember, .string d.render)]
  | _ => none

/-- A double as JSON; infinities and NaN become null. -/
def jsonOfFloat (x : Float) : Json :=
  if x.isFinite then .number (.double x) else .null

def jsonOfInteger (i : Int64) : Json :=
  .number (if 0 ≤ i then .natural i.toUInt64 else .negative i)

mutual

def toJson : Toml → Json
  | string s => .text s
  | integer i => jsonOfInteger i
  | float x => jsonOfFloat x
  | boolean b => .bool b
  | datetime d => .object [(datetimeMember, .text d.render)]
  | array items => .array (itemsToJson items)
  | table members => .object (membersToJson members).members

def itemsToJson : List Toml → List Json
  | [] => []
  | item :: items => item.toJson :: itemsToJson items

/-- The members of a table as a dictionary of JSON values. -/
def membersToJson : List (String × Toml) → Dictionary Json
  | [] => .empty
  | (name, value) :: members => (membersToJson members).insert name value.toJson

end

end Toml

end RecordFlow
