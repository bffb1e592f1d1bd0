import RecordFlow.Bitmask.Router
import RecordFlow.Json.Fields

/-!
# Router configuration

The configuration of the bitmask router and the rules it starts with.
-/

namespace RecordFlow.Bitmask

/-- A mask as written: a number, or its text. -/
inductive MaskSource where
  | number (mask : Int64)
  | text (mask : String)
  deriving DecidableEq

/-- The configuration of a router. -/
structure Config where
  attributeName : Template
  clearing : Bool := false
  rules : Dictionary MaskSource := .empty
  deriving DecidableEq

/-- A mask is decoded as a whole value first and fails only then. -/
def MaskSource.decoder : Json.Decoder MaskSource := fun depth d =>
  match Json.Decode.value depth d with
  | .error problem => .error problem
  | .ok (.number n) =>
    match n.toInt64? with
    | some mask => .ok (.number mask)
    | none => .error (.noAlternative "MaskValue")
  | .ok (.text s) => .ok (.text s)
  | .ok _ => .error (.noAlternative "MaskValue")

def MaskSource.register (source : MaskSource) (rules : Rules) (name : String) :
    Except RuleFault Rules :=
  match source with
  | number mask => rules.register name mask
  | text mask => rules.registerText name mask

namespace Config

def shape : Json.Shape Config where
  name := "RouteOnBitmaskConfig"
  fields := [
    .of "attribute_name" true Json.Decode.text
      (fun config source => { config with attributeName := ⟨source⟩ }),
    .of "flip_bit" false Json.Decode.bool
      (fun config clearing => { config with clearing }),
    .of "rules" false (Json.Decode.dictionary MaskSource.decoder)
      (fun config rules => { config with rules })]
  initial := { attributeName := ⟨""⟩ }

/-- Register rules one after another, up to the first that is invalid. -/
def registerAll : List (String × MaskSource) → Rules → Except RuleFault Rules
  | [], rules => .ok rules
  | (name, source) :: rest, rules =>
    match source.register rules name with
    | .ok rules => registerAll rest rules
    | .error fault => .error fault

def initialRules (config : Config) : Except Fault Rules :=
  if Text.isBlank config.attributeName.source then
    .error ⟨.config, "attribute_name must not be empty"⟩
  else
    match registerAll config.rules.members .empty with
    | .ok rules => .ok rules
    | .error fault => .error fault.toFault

def router (config : Config) : Except Fault Router :=
  match config.initialRules with
  | .ok rules => .ok ⟨config.attributeName, config.clearing, rules⟩
  | .error fault => .error fault

end Config

end RecordFlow.Bitmask
