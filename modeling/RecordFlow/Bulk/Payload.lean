import RecordFlow.Bulk.Operation
import RecordFlow.Json.Printer
import RecordFlow.Text.LineBreaks

/-!
# Bulk payloads

A bulk request is a sequence of lines: for each record an action line and, unless the
action is a deletion, a body line.  Documents and scripts are put into bodies as they
are, on a single line.  Records that cannot be part of a request are set aside.
-/

namespace RecordFlow.Bulk

/-- The lines of one record. -/
structure Entry where
  action : Json
  body : Option String

def Entry.render (entry : Entry) : String :=
  entry.action.render ++ "\n" ++
    match entry.body with
    | some body => body ++ "\n"
    | none => ""

/-- The action of an operation: the index, the document type unless it is empty, and the
identifier if there is one. -/
def actionJson (kind : Kind) (operation : Operation) (id : Option String) : Json :=
  let docType :=
    if operation.docType.isEmpty then [] else [("_type", Json.text operation.docType)]
  let id := id.toList.map fun id => ("_id", Json.text id)
  .object [(kind.action,
    .object ([("_index", Json.text operation.index)] ++ docType ++ id))]

/-- The content of a record as a document on one line. -/
def document (charset : Charset) (content : Bytes) : Except Exclusion String :=
  match charset.decode? content with
  | some text => .ok (Text.flatten text)
  | none => .error (.undecodable charset)

/-- The script of an operation, unless it is blank. -/
def Operation.script? (operation : Operation) : Option String :=
  operation.script.filter fun script => !Text.isBlank script

def body (kind : Kind) (operation : Operation) (charset : Charset) (content : Bytes) :
    Except Exclusion (Option String) :=
  match kind, operation.upsert with
  | .delete, _ => .ok none
  | .index, _ => (document charset content).map some
  | _, some .docAsUpsert =>
    (document charset content).map fun doc =>
      some ("\x7b\"doc\":" ++ doc ++ ",\"doc_as_upsert\":true\x7d")
  | _, some .scriptedUpsert =>
    match operation.script? with
    | some script =>
      .ok (some ("\x7b\"upsert\":\x7b\x7d,\"scripted_upsert\":true,\"script\":"
        ++ Text.flatten script ++ "\x7d"))
    | none => .error .missingScript
  | .upsert, none =>
    (document charset content).map fun doc => some ("\x7b\"upsert\":" ++ doc ++ "\x7d")
  | .update, none =>
    (document charset content).map fun doc => some ("\x7b\"doc\":" ++ doc ++ "\x7d")

/-- The entry of an operation, or the first reason to leave the record out. -/
def entry (operation : Operation) (content : Bytes) : Except Exclusion Entry :=
  match operation.check with
  | .error exclusion => .error exclusion
  | .ok (kind, id) =>
    match Charset.ofLabel? operation.charset with
    | none => .error (.unknownCharset operation.charset)
    | some charset =>
      match body kind operation charset content with
      | .error exclusion => .error exclusion
      | .ok body => .ok ⟨actionJson kind operation id, body⟩

/-- A request under construction, for records `R`. -/
structure Request (R : Type) where
  /-- The lines so far. -/
  payload : String := ""
  /-- The records of the payload, in its order. -/
  pending : List R := []
  /-- The records that were left out, and why. -/
  excluded : List (R × Exclusion) := []

/-- Append a record's entry, or set the record aside. -/
def Request.push {R : Type} (request : Request R) (r : R) (operation : Operation)
    (content : Bytes) : Request R :=
  match entry operation content with
  | .ok entry =>
    { request with
      payload := request.payload ++ entry.render
      pending := request.pending ++ [r] }
  | .error exclusion => { request with excluded := request.excluded ++ [(r, exclusion)] }

end RecordFlow.Bulk
