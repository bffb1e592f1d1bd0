import RecordFlow.Json.Printer
import RecordFlow.Runner.Fault
import RecordFlow.Toml.Decode
import RecordFlow.Toml.Document

/-!
# Configuration of a run

A run is configured by a TOML document: where the records come from, how many triggers
there may be, and which processor is made from which settings.
-/

namespace RecordFlow.Runner

structure ProcessorConfig where
  name : String
  /-- The path of the plugin library. -/
  plugin : String
  /-- The settings that the processor is created with. -/
  config : Option Toml := none
  /-- Dynamic properties that are set after creation. -/
  dynamic : Dictionary Toml := .empty

structure RunConfig where
  /-- The file with the input records; standard input when absent. -/
  input : Option String := none
  maxTriggers : Nat := 10000
  /-- The length of a pause, in milliseconds. -/
  yieldMs : Nat := 1000
  processor : ProcessorConfig

namespace ProcessorConfig

open Toml.Decode in
def shape : Toml.Shape ProcessorConfig where
  name := "ProcessorConfig"
  fields := [
    .of "name" true text (fun config name => { config with name }),
    .of "plugin" true text (fun config plugin => { config with plugin }),
    .of "config" false (present value) (fun processor config => { processor with config }),
    .of "dynamic" false dictionary (fun processor dynamic => { processor with dynamic })]
  initial := { name := "", plugin := "" }

/-- The settings as the JSON text that a plugin gets; without settings an empty
object. -/
def configText (processor : ProcessorConfig) : String :=
  match processor.config with
  | some settings => settings.toJson.render
  | none => "\x7b\x7d"

/-- The text of a dynamic property: a string as it is, an integer or a truth value
written out. -/
def propertyText? : Toml → Option String
  | .string s => some s
  | .integer i => some (toString i.toInt)
  | .boolean b => some (toString b)
  | _ => none

/-- A dynamic property with its text. -/
def property (member : String × Toml) : Except RunFault (String × String) :=
  match propertyText? member.2 with
  | some text => .ok (member.1, text)
  | none =>
    .error (.config (s!"dynamic property '{member.1}' must be a string or integer, got "
      ++ member.2.typeWord))

/-- The dynamic properties in the order of their names. -/
def dynamicProperties (processor : ProcessorConfig) :
    Except RunFault (List (String × String)) :=
  processor.dynamic.members.mapM property

end ProcessorConfig

namespace RunConfig

open Toml.Decode in
def shape : Toml.Shape RunConfig where
  name := "RunnerConfig"
  fields := [
    .of "input" false (present text) (fun config input => { config with input }),
    .of "max_triggers" false (unsigned "usize")
      (fun config n => { config with maxTriggers := n.toNat }),
    .of "yield_ms" false (unsigned "u64")
      (fun config n => { config with yieldMs := n.toNat }),
    .of "processor" true ProcessorConfig.shape.decoder
      (fun config processor => { config with processor })]
  initial := { processor := { name := "", plugin := "" } }

def read (text : String) : Except Problem RunConfig :=
  match Toml.parse? text with
  | some document => shape.decoder document
  | none => .error .malformed

/-- Read a configuration; at least one trigger must be allowed. -/
def parse (text : String) : Except RunFault RunConfig :=
  match read text with
  | .error problem => .error (.config problem.message)
  | .ok config =>
    if config.maxTriggers = 0 then .error (.config "max_triggers must be at least 1")
    else .ok config

end RunConfig

end RecordFlow.Runner
