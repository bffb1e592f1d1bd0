import RecordFlow.Bitmask.Decision
import RecordFlow.Bitmask.Rules
import RecordFlow.Processor
import RecordFlow.Template

/-!
# The bitmask router

The router reads an integer from an attribute of each record and sends one copy of the
record to the output of every rule that matches.  Records without a usable integer go
to `failure`, records that match no rule go to `unmatched`.
-/

namespace RecordFlow.Bitmask

/-- A router: the template of the attribute's name, whether matched bits are cleared in
the copies, and the rules. -/
structure Router where
  attributeName : Template
  clearing : Bool
  rules : Rules
  deriving DecidableEq

namespace Router

/-- The declared outputs: the two fixed ones, then one for each rule by name. -/
def outputs (router : Router) : List Output :=
  unmatched :: failure :: router.rules.snapshot.map Prod.fst

def copy (name : String) (cleared : Option Int64) (r : Record) : Record :=
  match cleared with
  | some value => r.withAttribute name (Decimal.render value.toInt)
  | none => r

/-- Route one record that was taken from the queue. -/
def route (router : Router) (r : Record) (s : Session) : Session :=
  let name := router.attributeName.render r
  match Decimal.parseInt64? ((r.attribute? name).getD "") with
  | none => s.transfer r failure
  | some value =>
    let decision := decide router.rules.snapshot value router.clearing
    match decision.matched with
    | [] => s.transfer r unmatched
    | outputs =>
      let copied := outputs.foldl (fun s output =>
        s.transfer (copy name decision.cleared r) output) s
      copied.remove r

/-- One trigger routes at most one record. -/
def trigger (router : Router) (s : Session) : Session :=
  match s.take 1 with
  | (r :: _, s) => router.route r s
  | ([], s) => s

/-- A dynamic property is a rule: its name, and its mask as text. -/
def setProperty (router : Router) (name : String) : Option String → Except Fault Router
  | some mask =>
    match router.rules.registerText name mask with
    | .ok rules => .ok { router with rules }
    | .error fault => .error fault.toFault
  | none => .ok { router with rules := (router.rules.remove name).2 }

def processor (m : Type → Type) [Monad m] : Processor m Router where
  outputs := outputs
  trigger router s := pure (.ok .proceed, router, router.trigger s)
  setProperty := setProperty

end Router

end RecordFlow.Bitmask
