import RecordFlow.Charset

/-!
# Bulk operations

What a bulk request does with one record, and the reasons for which a record is left
out.
-/

namespace RecordFlow.Bulk

/-- What happens to a document. -/
inductive Kind where
  | index
  | update
  | upsert
  | delete
  deriving DecidableEq, Repr

/-- How the body of an update is laid out. -/
inductive UpsertMode where
  /-- The document is its own upsert. -/
  | docAsUpsert
  /-- A script computes the document, whether it exists or not. -/
  | scriptedUpsert
  deriving DecidableEq, Repr

namespace Kind

def word : Kind → String
  | index => "index"
  | update => "update"
  | upsert => "upsert"
  | delete => "delete"

/-- The kind that a word names, without regard to ASCII case. -/
def ofWord? (text : String) : Option Kind :=
  let lower := String.ofList (text.toList.map Char.toLower)
  [index, update, upsert, delete].find? fun kind => kind.word == lower

/-- The action that stands for a kind in a request; an upsert is an update. -/
def action : Kind → String
  | index => "index"
  | update | upsert => "update"
  | delete => "delete"

end Kind

/-- The settings of a bulk operation for one record. -/
structure Operation where
  index : String
  docType : String := ""
  id : Option String := none
  kind : String
  script : Option String := none
  upsert : Option UpsertMode := none
  /-- The label of the content's charset. -/
  charset : String := "UTF-8"
  deriving DecidableEq, Repr

/-- Why a record is left out of a request. -/
inductive Exclusion where
  | missingIndex
  | missingOperation
  | unsupportedOperation (text : String)
  | missingIdentifier (kind : Kind)
  | missingScript
  | unknownCharset (label : String)
  | undecodable (charset : Charset)
  deriving DecidableEq, Repr

def Exclusion.message : Exclusion → String
  | missingIndex => "no value for index"
  | missingOperation => "no index operation specified"
  | unsupportedOperation text => s!"unsupported operation '{text}'"
  | missingIdentifier kind =>
    s!"operation {kind.word} requires a non-empty document identifier"
  | missingScript => "scripted upsert requires a non-blank script"
  | unknownCharset label => s!"unknown charset '{label}'"
  | undecodable charset => s!"content is not valid {charset.name}"

/-- The document identifier; an empty one counts as absent. -/
def Operation.identifier? (operation : Operation) : Option String :=
  operation.id.filter (!·.isEmpty)

/-- The kind and the identifier of an operation, checked in the order index, operation,
identifier. -/
def Operation.check (operation : Operation) : Except Exclusion (Kind × Option String) :=
  if operation.index.isEmpty then .error .missingIndex
  else if operation.kind.isEmpty then .error .missingOperation
  else
    match Kind.ofWord? operation.kind with
    | none => .error (.unsupportedOperation operation.kind)
    | some kind =>
      if operation.identifier?.isNone && kind != .index then .error (.missingIdentifier kind)
      else .ok (kind, operation.identifier?)

end RecordFlow.Bulk
