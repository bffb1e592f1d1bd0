import RecordFlow.Proofs.Bitmask.Registration
import RecordFlow.Proofs.Json.Fields
import RecordFlow.Runner.Job
import RecordFlow.Shipped

/-!
# Rules in the settings and rules as properties

A job gives a router its rules in the settings, or sets them one after another as dynamic
properties.  Settings go through JSON, where a number is a number; a property is a text,
and a number is written out.  Either way the same rules are registered in the order of
their names, and if one is refused it is the same one with the same fault.
-/

namespace RecordFlow

/-! ## Settings as JSON -/

namespace Toml

/-- A table of different names has the same members as JSON. -/
theorem perm_membersToJson {members : List (String × Toml)}
    (h : (members.map Prod.fst).Nodup) :
    (membersToJson members).members.Perm
      (members.map fun member => (member.1, member.2.toJson)) := by
  induction members with
  | nil => exact .refl _
  | cons member members ih =>
    obtain ⟨name, value⟩ := member
    rw [List.map_cons, List.nodup_cons] at h
    have hrest := ih h.2
    have hfresh : name ∉ (membersToJson members).members.map Prod.fst := by
      rw [(hrest.map Prod.fst).mem_iff, List.map_map]
      exact h.1
    exact (perm_insertMember value.toJson hfresh).trans (hrest.cons (name, value.toJson))

/-- An integer stays an integer. -/
theorem toInt64?_jsonOfInteger (i : Int64) :
    ∃ n : Json.Number, jsonOfInteger i = .number n ∧ n.Exact ∧ n.toInt64? = some i := by
  by_cases hsign : 0 ≤ i
  · have hnonneg : 0 ≤ i.toInt := Int64.le_iff_toInt_le.1 hsign
    have hmsb : i.toBitVec.msb = false := by
      rw [BitVec.msb_eq_toInt, decide_eq_false_iff_not, Int.not_lt]
      exact hnonneg
    have hnat : i.toInt = i.toUInt64.toNat := BitVec.toInt_eq_toNat_of_msb hmsb
    have hlt : i.toUInt64.toNat < 0x8000000000000000 := by
      have hbound := i.toInt_lt
      omega
    refine ⟨.natural i.toUInt64, by rw [jsonOfInteger, if_pos hsign], trivial, ?_⟩
    rw [Json.Number.toInt64?, if_pos hlt, ← Int64.ofInt_eq_ofNat, ← hnat, Int64.ofInt_toInt]
  · refine ⟨.negative i, by rw [jsonOfInteger, if_neg hsign], ?_, rfl⟩
    exact Int64.not_le.1 hsign

end Toml

namespace Bitmask.MaskSource

/-- A mask as it stands in a document. -/
def toToml : MaskSource → Toml
  | number mask => .integer mask
  | text mask => .string mask

theorem exact_toToml (source : MaskSource) : source.toToml.toJson.Exact := by
  cases source with
  | number mask =>
    obtain ⟨n, hn, hexact, -⟩ := Toml.toInt64?_jsonOfInteger mask
    rw [toToml, Toml.toJson, hn]
    exact hexact
  | text mask => trivial

/-- A mask is decoded as it was written. -/
theorem decoder_toToml (depth : Nat) (source : MaskSource) :
    decoder depth source.toToml.toJson.document = .ok source := by
  cases source with
  | number mask =>
    obtain ⟨n, hn, -, hvalue⟩ := Toml.toInt64?_jsonOfInteger mask
    rw [toToml, Toml.toJson, hn, Json.document, decoder, Json.Decode.value]
    simp only [hvalue]
  | text mask => rfl

end Bitmask.MaskSource

namespace Runner

open Bitmask (MaskSource Registration Admits Refuses RuleFault Router)

/-! ## Routers of a job -/

/-- A router as a job asks for it, with its rules as they are written. -/
structure RouterJob where
  /-- The name of the processor. -/
  label : String
  plugin : String
  attributeName : String
  clearing : Bool
  rules : List (String × MaskSource)
  /-- A table has each name once. -/
  distinct : (rules.map Prod.fst).Nodup

namespace RouterJob

variable (job : RouterJob)

def settings : List (String × Toml) :=
  [("attribute_name", .string job.attributeName), ("flip_bit", .boolean job.clearing)]

/-- The rules as the members of a table. -/
def table : List (String × Toml) := job.rules.map fun rule => (rule.1, rule.2.toToml)

/-- The router is created with its rules. -/
def inSettings : ProcessorConfig where
  name := job.label
  plugin := job.plugin
  config := some (.table (job.settings ++ [("rules", .table job.table)]))

/-- The router is created without rules, which are set as properties then. -/
def asProperties : ProcessorConfig where
  name := job.label
  plugin := job.plugin
  config := some (.table job.settings)
  dynamic := .ofList job.table

def dictionary : Dictionary MaskSource := .ofList job.rules

def rulesJson : Json :=
  .object (job.dictionary.members.map fun rule => (rule.1, rule.2.toToml.toJson))

theorem distinct_table : (job.table.map Prod.fst).Nodup := by
  rw [table, List.map_map]
  exact job.distinct

theorem perm_table : job.table.Perm
    (job.dictionary.members.map fun rule => (rule.1, rule.2.toToml)) :=
  (Dictionary.perm_ofList job.distinct).symm.map _

/-- The properties of a job, in the order of their names. -/
theorem dynamicProperties_asProperties : job.asProperties.dynamicProperties =
    .ok (job.dictionary.members.map fun rule => (rule.1, rule.2.asText)) := by
  have hmembers : job.asProperties.dynamic.members =
      job.dictionary.members.map fun rule => (rule.1, rule.2.toToml) :=
    Dictionary.members_eq_map MaskSource.toToml
      ((Dictionary.perm_ofList job.distinct_table).trans job.perm_table)
  have hproperty (rules : List (String × MaskSource)) :
      (rules.map fun rule => (rule.1, rule.2.toToml)).mapM ProcessorConfig.property =
        .ok (rules.map fun rule => (rule.1, rule.2.asText)) := by
    induction rules with
    | nil => rfl
    | cons rule rules ih =>
      obtain ⟨name, _ | _⟩ := rule
      · rw [List.map_cons, List.mapM_cons, ih]
        rfl
      · rw [List.map_cons, List.mapM_cons, ih]
        rfl
  rw [ProcessorConfig.dynamicProperties, hmembers, hproperty]

theorem toJson_settings : (Toml.table job.settings).toJson =
    .object [("attribute_name", .text job.attributeName), ("flip_bit", .bool job.clearing)] := rfl

theorem toJson_inSettings : (Toml.table (job.settings ++ [("rules", .table job.table)])).toJson =
    .object [("attribute_name", .text job.attributeName), ("flip_bit", .bool job.clearing),
      ("rules", job.rulesJson)] := by
  have hrules : (Toml.membersToJson job.table).members =
      job.dictionary.members.map fun rule => (rule.1, rule.2.toToml.toJson) := by
    apply Dictionary.members_eq_map fun source : MaskSource => source.toToml.toJson
    have h := job.perm_table.map fun member => (member.1, member.2.toJson)
    rw [List.map_map] at h
    exact (Toml.perm_membersToJson job.distinct_table).trans h
  rw [rulesJson, ← hrules]
  rfl

/-! ## Decoding the settings -/

theorem decoder_object (members : List (String × Json)) :
    Bitmask.Config.shape.decoder Json.depthLimit (Json.document (.object members)) =
      Bitmask.Config.shape.ofMembers 126 (Json.membersDocument members) []
        Bitmask.Config.shape.initial := rfl

theorem decoder_settings : Bitmask.Config.shape.decoder Json.depthLimit
    (Toml.table job.settings).toJson.document =
      .ok ⟨⟨job.attributeName⟩, job.clearing, .empty⟩ := by
  rw [toJson_settings, decoder_object]
  simp only [Json.membersDocument]
  rw [Json.Shape.ofMembers_field rfl (by simp) (Json.Field.read_of rfl _),
    Json.Shape.ofMembers_field rfl (by simp) (Json.Field.read_of rfl _)]
  rfl

theorem decoder_inSettings : Bitmask.Config.shape.decoder Json.depthLimit
    (Toml.table (job.settings ++ [("rules", .table job.table)])).toJson.document =
      .ok ⟨⟨job.attributeName⟩, job.clearing, job.dictionary⟩ := by
  have hrules : Json.Decode.dictionary MaskSource.decoder 126 job.rulesJson.document =
      .ok job.dictionary :=
    Json.dictionary_document (fun source : MaskSource => source.toToml.toJson)
      (MaskSource.decoder_toToml 125) job.dictionary
  rw [toJson_inSettings, decoder_object]
  simp only [Json.membersDocument]
  rw [Json.Shape.ofMembers_field rfl (by simp) (Json.Field.read_of rfl _),
    Json.Shape.ofMembers_field rfl (by simp) (Json.Field.read_of rfl _),
    Json.Shape.ofMembers_field rfl (by simp) (Json.Field.read_of hrules _)]
  rfl

theorem exact_settings : (Toml.table job.settings).toJson.Exact := by
  rw [toJson_settings]
  exact ⟨by simp, trivial, trivial, trivial⟩

theorem exact_inSettings :
    (Toml.table (job.settings ++ [("rules", .table job.table)])).toJson.Exact := by
  rw [toJson_inSettings]
  exact ⟨by simp, trivial, trivial,
    Json.exact_dictionary _ MaskSource.exact_toToml job.dictionary, trivial⟩

end RouterJob

/-! ## Creation -/

section

variable {m : Type → Type} {config : Bitmask.Config}

/-- The router library creates the router of the configuration that it is given. -/
theorem load_router (connect : Bulk.Config → Url → Bulk.Transport m) (path : String)
    {value : Json} (hexact : value.Exact)
    (hdecode : Bitmask.Config.shape.decoder Json.depthLimit value.document = .ok config) :
    Plugin.load path (some (Shipped.library connect .router)) (Utf8.encode value.render) =
      (config.router.map Shipped.router).mapError fun fault =>
        ⟨.config, s!"plugin '{path}' error: {fault.message}"⟩ := by
  have hread : Configuration.read Bitmask.Config.shape.decoder (Utf8.encode value.render) =
      .ok config := by
    rw [Configuration.read, Utf8.decode_encode, Json.decodeBytes_render _ hexact, hdecode]
  have hcreate : Shipped.create connect .router (some (Utf8.encode value.render)) =
      config.router.map Shipped.router := by
    rw [Shipped.create, Option.getD_some, hread]
  rw [Plugin.load, Shipped.library, Plugin.Library.ofCreate]
  simp only [hcreate]
  cases config.router <;> rfl

/-- The router of a configuration whose rules are registered. -/
theorem router_of_registration (hattribute : Text.isBlank config.attributeName.source = false)
    {outcome : Except (String × RuleFault) Bitmask.Rules}
    (h : Registration .empty config.rules.members outcome) :
    config.router = (outcome.map (Router.mk config.attributeName config.clearing)).mapError
      fun refusal => refusal.2.toFault := by
  rw [Bitmask.Config.router, Bitmask.Config.initialRules, hattribute, h.registerAll_eq]
  cases outcome <;> rfl

/-- Setting rules as properties registers them. -/
theorem setProperties_of_registration [Monad m] (label : String) (attributeName : Template)
    (clearing : Bool) {rules : Bitmask.Rules} {entries : List (String × MaskSource)}
    {outcome : Except (String × RuleFault) Bitmask.Rules} (h : Registration rules entries outcome) :
    setProperties (Shipped.processor m) label
        (entries.map fun entry => (entry.1, entry.2.asText))
        (.router ⟨attributeName, clearing, rules⟩) =
      (outcome.map fun rules => Shipped.router ⟨attributeName, clearing, rules⟩).mapError
        fun refusal => .plugin (refusal.2.toFault.withContext
          s!"{label}: dynamic property '{refusal.1}'") := by
  have hset (rules : Bitmask.Rules) (name : String) (source : MaskSource) :
      (Shipped.processor m).setProperty (.router ⟨attributeName, clearing, rules⟩) name
        (some source.asText) =
      ((source.register rules name).mapError RuleFault.toFault).map fun rules =>
        Shipped.router ⟨attributeName, clearing, rules⟩ := by
    have hrouter (router : Router) (value : Option String) :
        (Shipped.processor m).setProperty (.router router) name value =
          (router.setProperty name value).map Shipped.router := rfl
    rw [hrouter, Router.setProperty, source.registerText_asText]
    cases source.register rules name <;> rfl
  induction h with
  | done => rfl
  | accept hadmits _ ih =>
    rw [List.map_cons, setProperties, hset, MaskSource.register_of_admits hadmits]
    simp only [Except.mapError, Except.map] at ih ⊢
    exact ih
  | refuse hrefuses =>
    rw [List.map_cons, setProperties, hset, MaskSource.register_of_refuses hrefuses]
    simp only [Except.mapError, Except.map]

end

namespace RouterJob

variable {m : Type → Type} {host : Host m (Shipped m)}
  {connect : Bulk.Config → Url → Bulk.Transport m} {job : RouterJob}
  {outcome : Except (String × RuleFault) Bitmask.Rules}

theorem processorOf_inSettings
    (hlibrary : host.libraryAt job.plugin = some (Shipped.library connect .router))
    (hattribute : Text.isBlank job.attributeName = false)
    (h : Registration .empty job.dictionary.members outcome) :
    processorOf host job.inSettings =
      (outcome.map fun rules => Shipped.router ⟨⟨job.attributeName⟩, job.clearing, rules⟩).mapError
        fun refusal => .plugin (Fault.withContext
          ⟨.config, s!"plugin '{job.plugin}' error: {refusal.2.message}"⟩ job.label) := by
  have hload := load_router connect job.plugin job.exact_inSettings job.decoder_inSettings
  rw [router_of_registration hattribute h] at hload
  rw [processorOf, inSettings]
  simp only [hlibrary, ProcessorConfig.configText, hload]
  cases outcome <;> rfl

theorem processorOf_asProperties [Monad m] (hprocessor : host.processor = Shipped.processor m)
    (hlibrary : host.libraryAt job.plugin = some (Shipped.library connect .router))
    (hattribute : Text.isBlank job.attributeName = false)
    (h : Registration .empty job.dictionary.members outcome) :
    processorOf host job.asProperties =
      (outcome.map fun rules => Shipped.router ⟨⟨job.attributeName⟩, job.clearing, rules⟩).mapError
        fun refusal => .plugin (refusal.2.toFault.withContext
          s!"{job.label}: dynamic property '{refusal.1}'") := by
  have hload := load_router connect job.plugin job.exact_settings job.decoder_settings
  rw [router_of_registration hattribute .done] at hload
  rw [processorOf, dynamicProperties_asProperties, hprocessor]
  simp only [asProperties, hlibrary, ProcessorConfig.configText, hload]
  exact setProperties_of_registration job.label ⟨job.attributeName⟩ job.clearing h

/-- Rules in the settings and rules as properties come to the same.  If all rules are
admitted, both ways give the same router, whose snapshot lists each rule with the mask that
was written.  If not, both ways fail, with the fault of the first rule in the order of the
names that is refused. -/
theorem inSettings_agrees_with_asProperties [Monad m] (host : Host m (Shipped m))
    (connect : Bulk.Config → Url → Bulk.Transport m) (job : RouterJob)
    (hprocessor : host.processor = Shipped.processor m)
    (hlibrary : host.libraryAt job.plugin = some (Shipped.library connect .router))
    (hattribute : Text.isBlank job.attributeName = false) :
    ∃ sorted : List (String × MaskSource),
      sorted.Perm job.rules ∧
      sorted.Pairwise (fun a b => Utf8.encode a.1 < Utf8.encode b.1) ∧
      ((∃ rules : Bitmask.Rules,
          let router := Shipped.router ⟨⟨job.attributeName⟩, job.clearing, rules⟩
          processorOf host job.inSettings = .ok router ∧
          processorOf host job.asProperties = .ok router ∧
          List.Forall₂ (fun rule entry => rule.1.name = entry.1 ∧ Admits entry.1 entry.2 rule.2)
            rules.snapshot sorted) ∨
        ∃ before name source after fault,
          sorted = before ++ (name, source) :: after ∧
          (∀ entry ∈ before, ∃ mask, Admits entry.1 entry.2 mask) ∧
          Refuses name source fault ∧
          processorOf host job.inSettings = .error (.plugin (Fault.withContext
            ⟨.config, s!"plugin '{job.plugin}' error: {fault.message}"⟩ job.label)) ∧
          processorOf host job.asProperties = .error (.plugin (Fault.withContext
            ⟨.config, fault.message⟩ s!"{job.label}: dynamic property '{name}'"))) := by
  -- Both ways follow the same registration and differ in how they report its end.
  obtain ⟨outcome, houtcome⟩ := Bitmask.exists_registration .empty job.dictionary.members
  have hsettings := processorOf_inSettings hlibrary hattribute houtcome
  have hproperties := processorOf_asProperties hprocessor hlibrary hattribute houtcome
  refine ⟨job.dictionary.members, Dictionary.perm_ofList job.distinct, ?_, ?_⟩
  · exact job.dictionary.ascending.imp Utf8.encode_lt_encode_iff.2
  · cases outcome with
    | ok rules =>
      have hlists : rules.Lists ([] ++ job.dictionary.members) :=
        houtcome.lists_of_ok .nil job.dictionary.ascending
      refine .inl ⟨rules, hsettings, hproperties, ?_⟩
      rw [Bitmask.Rules.snapshot, List.forall₂_map_left_iff]
      exact hlists
    | error refusal =>
      obtain ⟨name, fault⟩ := refusal
      obtain ⟨before, source, after, hsplit, hbefore, hrefused⟩ := houtcome.split_of_error
      exact .inr ⟨before, name, source, after, fault, hsplit, hbefore, hrefused, hsettings,
        hproperties⟩

def shippedHost : Host Id (Shipped Id) where
  processor := Shipped.processor Id
  library path := (ShippedKind.ofPath? path).map
    (Shipped.library fun _ _ => ⟨"", fun _ => .transportError ""⟩)
  fileContent _ := .error .notFound
  standardInput := []
  pause _ := ()

/-- A router with two proper rules, and one without a name that has a negative mask. -/
def unnamedRule : RouterJob where
  label := "flags"
  plugin := "router.so"
  attributeName := "flags"
  clearing := false
  rules := [("odd", .text " 1 "), ("high", .number 8), ("", .text "-1")]
  distinct := by decide

theorem refuses_of_unnamedRule {name : String} {source : MaskSource} {fault : RuleFault}
    (hmem : (name, source) ∈ unnamedRule.rules) (h : Refuses name source fault) :
    name = "" ∧ fault = .emptyName := by
  have hregister := MaskSource.register_of_refuses h .empty
  have hcases : (name = "odd" ∧ source = .text " 1 ") ∨ (name = "high" ∧ source = .number 8) ∨
      (name = "" ∧ source = .text "-1") := by
    simpa [unnamedRule] using hmem
  obtain ⟨rfl, rfl⟩ | ⟨rfl, rfl⟩ | ⟨rfl, rfl⟩ := hcases
  · cases hregister.symm.trans (by decide : _ = Except.ok ⟨.ofList [("odd", 1)]⟩)
  · cases hregister.symm.trans (by decide : _ = Except.ok ⟨.ofList [("high", 8)]⟩)
  · exact ⟨rfl, Except.error.inj (hregister.symm.trans (by decide))⟩

/-- The name is what both ways complain about. -/
theorem unnamedRule_fails :
    processorOf shippedHost unnamedRule.inSettings = .error (.plugin
      ⟨.config, "flags: plugin 'router.so' error: rule name must not be empty"⟩) ∧
    processorOf shippedHost unnamedRule.asProperties = .error (.plugin
      ⟨.config, "flags: dynamic property '': rule name must not be empty"⟩) := by
  obtain ⟨sorted, hperm, -, ⟨rules, -, -, hlisted⟩ | ⟨before, name, source, after, fault, hsplit, -,
      hrefused, hsettings, hproperties⟩⟩ :=
    inSettings_agrees_with_asProperties shippedHost (fun _ _ => ⟨"", fun _ => .transportError ""⟩)
      unnamedRule rfl rfl (by decide)
  · have hmem : ("", MaskSource.text "-1") ∈ sorted := hperm.mem_iff.2 (by simp [unnamedRule])
    obtain ⟨i, hi⟩ := List.get_of_mem hmem
    have hentry := hlisted.get (i.2.trans_eq hlisted.length_eq.symm) i.2
    rw [hi] at hentry
    exact absurd rfl hentry.2.named
  · have hmem : (name, source) ∈ unnamedRule.rules := hperm.mem_iff.1 (by simp [hsplit])
    obtain ⟨rfl, rfl⟩ := refuses_of_unnamedRule hmem hrefused
    exact ⟨hsettings, hproperties⟩

end RouterJob

end Runner

end RecordFlow
