import RecordFlow.Bulk.Operation
import RecordFlow.Configuration
import RecordFlow.Template

/-!
# Bulk writer configuration

The settings of a bulk writer and the checks that they must pass before any record is
processed.
-/

namespace RecordFlow.Bulk

/-- The settings of a bulk writer. -/
structure Config where
  /-- The base URL of the backend. -/
  url : String
  username : Option String := none
  password : Option String := none
  connectTimeoutSecs : Nat := 5
  responseTimeoutSecs : Nat := 15
  /-- The attribute that holds the document identifier. -/
  idAttribute : Option String := none
  index : Template
  docType : Option Template := none
  operation : Template := ⟨"index"⟩
  batchSize : Nat := 100
  script : Option Template := none
  upsert : Option UpsertMode := none
  charset : Template := ⟨"UTF-8"⟩
  queryParams : Dictionary String := .empty
  deriving DecidableEq

namespace Config

def upsertModes : List (String × UpsertMode) :=
  [("doc_as_upsert", .docAsUpsert), ("scripted_upsert", .scriptedUpsert)]

open Json.Decode in
def shape : Json.Shape Config where
  name := "PutSearchBulkConfig"
  fields := [
    .of "url" true text (fun config url => { config with url }),
    .of "username" false (optional text) (fun config username => { config with username }),
    .of "password" false (optional text) (fun config password => { config with password }),
    .of "connect_timeout_secs" false (unsigned "u64")
      (fun config seconds => { config with connectTimeoutSecs := seconds.toNat }),
    .of "response_timeout_secs" false (unsigned "u64")
      (fun config seconds => { config with responseTimeoutSecs := seconds.toNat }),
    .of "id_attribute" false (optional text)
      (fun config idAttribute => { config with idAttribute }),
    .of "index" true text (fun config source => { config with index := ⟨source⟩ }),
    .of "doc_type" false (optional text)
      (fun config source => { config with docType := source.map Template.mk }),
    .of "operation" false text (fun config source => { config with operation := ⟨source⟩ }),
    .of "batch_size" false (unsigned "usize")
      (fun config size => { config with batchSize := size.toNat }),
    .of "script" false (optional text)
      (fun config source => { config with script := source.map Template.mk }),
    .of "upsert_option" false (optional (choice upsertModes))
      (fun config upsert => { config with upsert }),
    .of "charset" false text (fun config source => { config with charset := ⟨source⟩ }),
    .of "query_params" false (dictionary text)
      (fun config queryParams => { config with queryParams })]
  initial := { url := "", index := ⟨""⟩ }

/-- Why a configuration is refused. -/
inductive Refusal where
  | emptyUrl
  | zeroBatchSize
  /-- A fixed operation needs identifiers, and no attribute holds them. -/
  | missingIdAttribute
  | unknownCharset (label : String)
  | missingScript
  deriving DecidableEq, Repr

def Refusal.message : Refusal → String
  | emptyUrl => "url must not be empty"
  | zeroBatchSize => "batch_size must be a positive integer"
  | missingIdAttribute => "if id_attribute is not set, operation must evaluate to \"index\""
  | unknownCharset label => s!"unknown charset '{label}'"
  | missingScript =>
    "if upsert_option is set to \"scripted_upsert\", a script must be provided"

def Refusal.toFault (refusal : Refusal) : Fault := ⟨.config, refusal.message⟩

/-- No attribute, or a blank name, is given for identifiers. -/
def lacksIdAttribute (config : Config) : Bool :=
  match config.idAttribute with
  | some name => Text.isBlank name
  | none => true

/-- Fixed operations that are known to need an identifier. -/
def needsIdAttribute (operation : String) : Bool :=
  ["update", "upsert", "delete", ""].contains
    (String.ofList (operation.toList.map Char.toLower))

/-- No script, or a blank one, is given. -/
def lacksScript (config : Config) : Bool :=
  match config.script with
  | some script => Text.isBlank script.source
  | none => true

/-- The first check that fails.  Settings that refer to attributes are checked record by
record instead. -/
def refusal? (config : Config) : Option Refusal :=
  if Text.isBlank config.url then some .emptyUrl
  else if config.batchSize = 0 then some .zeroBatchSize
  else if config.lacksIdAttribute && config.operation.literal?.any needsIdAttribute then
    some .missingIdAttribute
  else
    match config.charset.literal?.filter fun label => (Charset.ofLabel? label).isNone with
    | some label => some (.unknownCharset label)
    | none =>
      if config.upsert = some .scriptedUpsert && config.lacksScript then some .missingScript
      else none

/-- A configuration passes when no check fails. -/
def validate (config : Config) : Except Fault Unit :=
  match config.refusal? with
  | some refusal => .error refusal.toFault
  | none => .ok ()

def resolve (config : Config) (r : Record) : Operation where
  index := config.index.render r
  docType := (config.docType.map (·.render r)).getD ""
  id := (config.idAttribute.bind r.attribute?).filter (!·.isEmpty)
  kind := config.operation.render r
  script := (config.script.map (·.render r)).filter fun script => !Text.isBlank script
  upsert := config.upsert
  charset := config.charset.render r

end Config

end RecordFlow.Bulk
