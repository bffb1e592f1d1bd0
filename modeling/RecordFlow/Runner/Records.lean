import RecordFlow.Json.Fields
import RecordFlow.Json.Printer
import RecordFlow.Runner.Fault
import RecordFlow.Session
import RecordFlow.Text.Blank
import RecordFlow.Text.LineBreaks

/-!
# Records as lines

Records are read from lines of JSON and written as lines of JSON.  On input a blank
line is skipped, text content is taken as it is, and any other content becomes its
compact JSON text.  On output each line names the output a record was routed to.
-/

namespace RecordFlow.Runner

/-- What an input line holds. -/
structure InputLine where
  attributes : Dictionary String := .empty
  content : Json := .null
  deriving Inhabited

namespace InputLine

def shape : Json.Shape InputLine where
  name := "InputLine"
  fields := [
    .of "attributes" false (Json.Decode.dictionary Json.Decode.text)
      (fun line attributes => { line with attributes }),
    .of "content" false Json.Decode.value
      (fun line content => { line with content })]
  initial := {}

/-- The bytes that a content value stands for. -/
def contentBytes : Json → Bytes
  | .text s => Utf8.encode s
  | .null => []
  | value => Utf8.encode value.render

def record (line : InputLine) : Record :=
  { content := contentBytes line.content, attributes := line.attributes }

end InputLine

/-- What one line contributes: nothing if it is blank, or a record.  Lines count from
one. -/
def readLine (number : Nat) (line : Bytes) : Except RunFault (Option Record) :=
  match Utf8.decode? line with
  | none => .error (.stream "stream did not contain valid UTF-8")
  | some text =>
    if Text.isBlank text then .ok none
    else
      match Json.decodeBytes InputLine.shape.decoder line with
      | .error problem => .error (.input number problem)
      | .ok parsed => .ok (some parsed.record)

/-- Read lines, the first of which has the given number, up to the first that fails. -/
def readLines (number : Nat) : List Bytes → Except RunFault (List Record)
  | [] => .ok []
  | line :: lines =>
    match readLine number (Text.dropCarriageReturn line) with
    | .error fault => .error fault
    | .ok found =>
      match readLines (number + 1) lines with
      | .error fault => .error fault
      | .ok records => .ok (found.toList ++ records)

def readRecords (input : Bytes) : Except RunFault (List Record) :=
  readLines 1 (Text.cutLines input)

def attributesJson (attributes : Dictionary String) : Json :=
  .object (attributes.members.map fun member => (member.1, .text member.2))

def outputLine (entry : Output × Record) : Json :=
  .object [
    ("relationship", .text entry.1.name),
    ("attributes", attributesJson entry.2.attributes),
    ("content", .text entry.2.contentText),
    ("penalized", .bool entry.2.penalized)]

/-- Write routed records, one line each. -/
def writeRouted (entries : List (Output × Record)) : String :=
  String.join (entries.map fun entry => (outputLine entry).render ++ "\n")

end RecordFlow.Runner
