import RecordFlow.Json.Decode
import RecordFlow.Dictionary

/-!
# Decoding records, choices and dictionaries

A record of named fields is read from an object, or from an array that lists the
fields in order.  Unknown names are skipped, a field may be given once, and fields that
are not required keep the value of the initial record.
-/

namespace RecordFlow.Json

/-- A field of a record `σ`: its name, and how its value is read and stored. -/
structure Field (σ : Type) where
  name : String
  required : Bool
  read : Nat → Document → σ → Except Problem σ

/-- A field whose value is decoded and then stored. -/
def Field.of {σ α : Type} (name : String) (required : Bool) (decoder : Decoder α)
    (store : σ → α → σ) : Field σ :=
  ⟨name, required, fun depth d record => (decoder depth d).map (store record)⟩

/-- A record type: its name in problems, its fields in order, and the record in which
no field has been given. -/
structure Shape (σ : Type) where
  name : String
  fields : List (Field σ)
  initial : σ

namespace Shape

variable {σ : Type}

/-- The record as problems name it. -/
def described (shape : Shape σ) : String := s!"struct {shape.name}"

/-- The record with its number of fields, as problems name it. -/
def describedWithSize (shape : Shape σ) : String :=
  let n := shape.fields.length
  s!"struct {shape.name} with {n} element" ++ if n == 1 then "" else "s"

/-- Read the fields `fields` from the items of an array; `index` fields were read
before. -/
def ofItems (shape : Shape σ) (depth : Nat) :
    List (Field σ) → List Document → Nat → σ → Except Problem σ
  | [], [], _, record => .ok record
  | [], _ :: _, _, _ => .error .malformed
  | field :: fields, [], index, record =>
    if field.required then .error (.invalidLength index shape.describedWithSize)
    else ofItems shape depth fields [] (index + 1) record
  | field :: fields, item :: items, index, record =>
    match field.read depth item record with
    | .error problem => .error problem
    | .ok record => ofItems shape depth fields items (index + 1) record

/-- The first required field that was not given. -/
def missing? (shape : Shape σ) (seen : List String) : Option String :=
  (shape.fields.find? fun field => field.required && !seen.contains field.name).map (·.name)

/-- Read fields from the members of an object; the fields `seen` were read before. -/
def ofMembers (shape : Shape σ) (depth : Nat) :
    List (Document × Document) → List String → σ → Except Problem σ
  | [], seen, record =>
    match shape.missing? seen with
    | some name => .error (.missingField name)
    | none => .ok record
  | (key, d) :: members, seen, record =>
    match Decode.name key with
    | .error problem => .error problem
    | .ok name =>
      match shape.fields.find? (·.name == name) with
      | some field =>
        if seen.contains name then .error (.duplicateField name)
        else
          match field.read depth d record with
          | .error problem => .error problem
          | .ok record => ofMembers shape depth members (name :: seen) record
      | none =>
        if d.intact then ofMembers shape depth members seen record
        else .error .malformed

def decoder (shape : Shape σ) : Decoder σ
  | 0, .array _ | 0, .object _ => .error .malformed
  | depth + 1, .array items => shape.ofItems depth shape.fields items 0 shape.initial
  | depth + 1, .object members => shape.ofMembers depth members [] shape.initial
  | _, d => .error (d.mistyped shape.described)

end Shape

namespace Decode

/-- The members of a dictionary, after the dictionary `done`; a repeated key takes the
last value. -/
def dictionaryMembers {α : Type} (decoder : Decoder α) (depth : Nat) :
    List (Document × Document) → Dictionary α → Except Problem (Dictionary α)
  | [], done => .ok done
  | (key, d) :: members, done =>
    match name key with
    | .error problem => .error problem
    | .ok key =>
      match decoder depth d with
      | .error problem => .error problem
      | .ok v => dictionaryMembers decoder depth members (done.insert key v)

def dictionary {α : Type} (decoder : Decoder α) : Decoder (Dictionary α)
  | 0, .object _ => .error .malformed
  | depth + 1, .object members => dictionaryMembers decoder depth members .empty
  | _, d => .error (d.mistyped "a map")

def alternative {α : Type} (known : List (String × α)) (name : String) : Except Problem α :=
  match known.lookup name with
  | some a => .ok a
  | none => .error (.unknownVariant name (known.map Prod.fst))

/-- A choice between names: the name itself, or an object of one member with that name
and the value null. -/
def choice {α : Type} (known : List (String × α)) : Decoder α
  | _, .text (some s) => alternative known s
  | _ + 1, .object ((key, d) :: members) =>
    match key with
    | .text (some s) =>
      match alternative known s with
      | .error problem => .error problem
      | .ok a =>
        match d, members with
        | .null, [] => .ok a
        | .null, _ :: _ => .error .malformed
        | d, _ => .error (d.mistyped "unit")
    | _ => .error .malformed
  | _, _ => .error .malformed

end Decode

/-- Decode a whole text.  The first problem in document order is reported; text after
the value is a problem too. -/
def decodeBytes {α : Type} (decoder : Decoder α) (bytes : Bytes) : Except Problem α :=
  let reading := Reading.ofBytes bytes
  match decoder depthLimit reading.document with
  | .error problem => .error problem
  | .ok a => if reading.complete then .ok a else .error .malformed

def parse (bytes : Bytes) : Except Problem Json := decodeBytes Decode.value bytes

end RecordFlow.Json
