import RecordFlow.Json.Decode
import RecordFlow.Toml.Basic

/-!
# From TOML values to settings

Decoders report the first problem in the order of the document.  A record of named
fields is read from a table, or from an array that lists the fields in order; unknown
names and further items are skipped.
-/

namespace RecordFlow.Toml

/-- Every double is written out, with at least one digit after the point. -/
def problemLayout : Decimal.Layout := ⟨fun _ => true⟩

def describedFloat (x : Float) : String :=
  if x.isNaN then "NaN"
  else if x.isInf then if x < 0 then "-inf" else "inf"
  else problemLayout.finite x

def described : Toml → String
  | string s => s!"string {Text.quoted s}"
  | integer i => s!"integer `{i.toInt}`"
  | float x => s!"floating point `{describedFloat x}`"
  | boolean b => s!"boolean `{b}`"
  | array _ => "sequence"
  | datetime _ | table _ => "map"

/-- The problem of a value that is not of the expected type. -/
def mistyped (expected : String) (v : Toml) : Problem := .invalidType v.described expected

abbrev Decoder (α : Type) := Toml → Except Problem α

namespace Decode

def text : Decoder String
  | .string s => .ok s
  | v => .error (v.mistyped "a string")

/-- An unsigned integer, described as `expected`. -/
def unsigned (expected : String) : Decoder UInt64
  | .integer i =>
    if 0 ≤ i then .ok i.toUInt64
    else .error (.invalidValue (described (.integer i)) expected)
  | v => .error (v.mistyped expected)

/-- A date or time from its text. -/
def datetime : Decoder Datetime
  | .string s =>
    match Datetime.ofString? s with
    | some d => .ok d
    | none => .error .malformed
  | v => .error (v.mistyped "string containing a datetime")

/-- The first member of a table, if its name is that of a date or time. -/
def datetimeEntry? : List (String × Toml) → Option Toml
  | (name, v) :: _ => if name == datetimeMember then some v else none
  | [] => none

mutual

/-- Any value.  A table that starts with the name of a date or time is one, and its other
members do not count. -/
def value : Toml → Except Problem Toml
  | .array items => (itemValues items).map .array
  | .table members =>
    match datetimeEntry? members with
    | some v => (datetime v).map .datetime
    | none => (memberValues members).map .table
  | v => .ok v

def itemValues : List Toml → Except Problem (List Toml)
  | [] => .ok []
  | item :: items =>
    match value item with
    | .error problem => .error problem
    | .ok item => (itemValues items).map (item :: ·)

def memberValues : List (String × Toml) → Except Problem (List (String × Toml))
  | [] => .ok []
  | (name, v) :: members =>
    match value v with
    | .error problem => .error problem
    | .ok v => (memberValues members).map ((name, v) :: ·)

end

def present {α : Type} (decoder : Decoder α) : Decoder (Option α) :=
  fun v => (decoder v).map some

def dictionary : Decoder (Dictionary Toml) := fun v =>
  match v.members? with
  | some members => (memberValues members).map .ofList
  | none => .error (v.mistyped "a map")

end Decode

/-- A field of a record `σ`: its name, and how its value is read and stored. -/
structure Field (σ : Type) where
  name : String
  required : Bool
  read : Toml → σ → Except Problem σ

/-- A field whose value is decoded and then stored. -/
def Field.of {σ α : Type} (name : String) (required : Bool) (decoder : Decoder α)
    (store : σ → α → σ) : Field σ :=
  ⟨name, required, fun v record => (decoder v).map (store record)⟩

/-- A record type: its name in problems, its fields in order, and the record in which
no field has been given. -/
structure Shape (σ : Type) where
  name : String
  fields : List (Field σ)
  initial : σ

namespace Shape

variable {σ : Type}

/-- The record with its number of fields, as problems name it. -/
def describedWithSize (shape : Shape σ) : String :=
  s!"struct {shape.name} with {shape.fields.length} elements"

/-- Read fields from the items of an array; `index` fields were read before. -/
def ofItems (shape : Shape σ) : List (Field σ) → List Toml → Nat → σ → Except Problem σ
  | [], _, _, record => .ok record
  | field :: fields, [], index, record =>
    if field.required then .error (.invalidLength index shape.describedWithSize)
    else ofItems shape fields [] (index + 1) record
  | field :: fields, item :: items, index, record =>
    match field.read item record with
    | .error problem => .error problem
    | .ok record => ofItems shape fields items (index + 1) record

/-- Read fields from the members of a table. -/
def readMembers (shape : Shape σ) : List (String × Toml) → σ → Except Problem σ
  | [], record => .ok record
  | (name, v) :: members, record =>
    match shape.fields.find? (·.name == name) with
    | none => readMembers shape members record
    | some field =>
      match field.read v record with
      | .error problem => .error problem
      | .ok record => readMembers shape members record

/-- Read a record from the members of a table; required fields must be there. -/
def ofMembers (shape : Shape σ) (members : List (String × Toml)) : Except Problem σ :=
  match shape.readMembers members shape.initial with
  | .error problem => .error problem
  | .ok record =>
    match shape.fields.find? fun f => f.required && (members.lookup f.name).isNone with
    | some field => .error (.missingField field.name)
    | none => .ok record

def decoder (shape : Shape σ) : Decoder σ := fun v =>
  match v, v.members? with
  | _, some members => shape.ofMembers members
  | .array items, none => shape.ofItems shape.fields items 0 shape.initial
  | v, none => .error (v.mistyped s!"struct {shape.name}")

end Shape

end RecordFlow.Toml
