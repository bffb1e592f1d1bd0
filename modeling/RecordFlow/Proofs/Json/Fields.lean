import RecordFlow.Proofs.Dictionary
import RecordFlow.Proofs.Json.RoundTrip

/-!
# Decoding fields

Any decoder meets a printed value as the document of that value.  Nothing in this
document is broken, so a decoder of records may skip it, and a dictionary that was
printed as an object is decoded as it was.  Of a record that was decoded, each member of
its object, or each item of its array, gave a field or was skipped.
-/

namespace RecordFlow.Json

mutual

/-- The document of a value can be skipped. -/
theorem intact_document (value : Json) : value.document.intact = true := by
  match value with
  | .null | .bool _ | .number _ | .text _ => rfl
  | .array items => exact itemsIntact_document items
  | .object members => exact membersIntact_document members

theorem itemsIntact_document (items : List Json) : itemsIntact (itemsDocument items) = true := by
  match items with
  | [] => rfl
  | item :: items =>
    rw [itemsDocument, itemsIntact, intact_document item, itemsIntact_document items]
    rfl

theorem membersIntact_document (members : List (String × Json)) :
    membersIntact (membersDocument members) = true := by
  match members with
  | [] => rfl
  | (name, value) :: members =>
    rw [membersDocument, membersIntact, intact_document value, membersIntact_document members]
    rfl

end

/-! ## Records -/

theorem Field.read_of {σ α : Type} {name : String} {required : Bool} {decoder : Decoder α}
    {store : σ → α → σ} {depth : Nat} {d : Document} {a : α} (h : decoder depth d = .ok a)
    (record : σ) :
    (Field.of name required decoder store).read depth d record = .ok (store record a) :=
  congrArg (Except.map (store record)) h

theorem Field.read_of_eq_ok {σ α : Type} {name : String} {required : Bool} {decoder : Decoder α}
    {store : σ → α → σ} {depth : Nat} {d : Document} {record record' : σ} :
    (Field.of name required decoder store).read depth d record = .ok record' ↔
      ∃ a, decoder depth d = .ok a ∧ store record a = record' := by
  change (decoder depth d).map (store record) = .ok record' ↔ _
  cases decoder depth d with
  | error problem => simp [Except.map]
  | ok a => simp [Except.map]

theorem Decode.name_eq_ok {d : Document} {name : String} :
    Decode.name d = .ok name ↔ d = .text (some name) := by
  cases d with
  | text value => cases value <;> simp [Decode.name]
  | _ => simp [Decode.name]

theorem Decode.bool_eq_ok {depth : Nat} {d : Document} {b : Bool} :
    Decode.bool depth d = .ok b ↔ d = .bool b := by
  cases d <;> simp [Decode.bool]

namespace Shape

variable {σ : Type} {shape : Shape σ} {depth : Nat} {seen : List String} {name : String}

/-- A printed member without a field is skipped. -/
theorem ofMembers_unknown (hname : shape.fields.find? (·.name == name) = none) (value : Json)
    (members : List (Document × Document)) (record : σ) :
    shape.ofMembers depth ((.text (some name), value.document) :: members) seen record =
      shape.ofMembers depth members seen record := by
  rw [ofMembers]
  simp only [Decode.name, hname, intact_document, if_true]

/-- A printed member with a field of its own is stored. -/
theorem ofMembers_field {field : Field σ} {d : Document} {record record' : σ}
    (hname : shape.fields.find? (·.name == name) = some field) (hseen : name ∉ seen)
    (hread : field.read depth d record = .ok record') (members : List (Document × Document)) :
    shape.ofMembers depth ((.text (some name), d) :: members) seen record =
      shape.ofMembers depth members (name :: seen) record' := by
  have hfresh : seen.contains name = false := by simpa using hseen
  rw [ofMembers]
  simp only [Decode.name, hname, hfresh, hread]
  rfl

/-- The first item of an array that is read gives the first of the fields. -/
theorem ofItems_cons_eq_ok {field : Field σ} {fields : List (Field σ)} {item : Document}
    {items : List Document} {index : Nat} {record result : σ}
    (h : shape.ofItems depth (field :: fields) (item :: items) index record = .ok result) :
    ∃ next, field.read depth item record = .ok next ∧
      shape.ofItems depth fields items (index + 1) next = .ok result := by
  rw [ofItems] at h
  cases hread : field.read depth item record with
  | error problem => simp [hread] at h
  | ok next =>
    rw [hread] at h
    exact ⟨next, rfl, h⟩

/-- The first member of an object that is read: it gives a field that was not given before,
or it is skipped. -/
theorem ofMembers_cons_eq_ok {key d : Document} {members : List (Document × Document)}
    {record result : σ}
    (h : shape.ofMembers depth ((key, d) :: members) seen record = .ok result) :
    ∃ name, key = .text (some name) ∧
      ((∃ field next, shape.fields.find? (·.name == name) = some field ∧ name ∉ seen ∧
          field.read depth d record = .ok next ∧
          shape.ofMembers depth members (name :: seen) next = .ok result) ∨
        shape.fields.find? (·.name == name) = none ∧
          shape.ofMembers depth members seen record = .ok result) := by
  rw [ofMembers] at h
  cases hkey : Decode.name key with
  | error problem => simp [hkey] at h
  | ok name =>
    refine ⟨name, Decode.name_eq_ok.1 hkey, ?_⟩
    cases hfield : shape.fields.find? (·.name == name) with
    | none =>
      right
      simp only [hkey, hfield] at h
      split at h
      · exact ⟨rfl, h⟩
      · cases h
    | some field =>
      left
      simp only [hkey, hfield] at h
      split at h
      · cases h
      · rename_i hfresh
        cases hread : field.read depth d record with
        | error problem => simp [hread] at h
        | ok next =>
          rw [hread] at h
          exact ⟨field, next, rfl, by simpa using hfresh, hread, h⟩

end Shape

/-! ## Dictionaries -/

section

variable {α : Type} {decoder : Decoder α} (toJson : α → Json) {depth : Nat}

theorem dictionaryMembers_membersDocument
    (hdecode : ∀ a, decoder depth (toJson a).document = .ok a) (members : List (String × α))
    (done : Dictionary α) :
    Decode.dictionaryMembers decoder depth
      (membersDocument (members.map fun member => (member.1, toJson member.2))) done =
      .ok (members.foldl (fun d member => d.insert member.1 member.2) done) := by
  induction members generalizing done with
  | nil => rfl
  | cons member members ih =>
    rw [List.map_cons, membersDocument, Decode.dictionaryMembers]
    simp only [Decode.name, hdecode, ih, List.foldl_cons]

/-- Values that are exact form an exact object. -/
theorem exact_dictionary (hexact : ∀ a, (toJson a).Exact) (d : Dictionary α) :
    Exact (.object (d.members.map fun member => (member.1, toJson member.2))) := by
  have hvalues (members : List (String × α)) :
      MembersExact (members.map fun member => (member.1, toJson member.2)) := by
    induction members with
    | nil => trivial
    | cons member members ih => exact ⟨hexact member.2, ih⟩
  refine ⟨?_, hvalues d.members⟩
  rw [List.map_map]
  exact d.nodup_keys

/-- A dictionary is decoded as it was printed, if its values are. -/
theorem dictionary_document (hdecode : ∀ a, decoder depth (toJson a).document = .ok a)
    (d : Dictionary α) :
    Decode.dictionary decoder (depth + 1)
      (document (.object (d.members.map fun member => (member.1, toJson member.2)))) = .ok d := by
  rw [document, Decode.dictionary, dictionaryMembers_membersDocument toJson hdecode]
  exact congrArg Except.ok d.ofList_members

end

end RecordFlow.Json
