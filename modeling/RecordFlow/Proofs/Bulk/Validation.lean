import RecordFlow.Bulk.Config
import RecordFlow.Proofs.Bulk.Exclusion
import RecordFlow.Proofs.Template

/-!
# What a valid configuration rules out

A setting that refers to no attribute has the same text for every record, so some reasons to set
a record aside can be seen in the configuration.  Each refusal of a configuration is stated
for itself, as the exclusions of a record are, and the two are compared setting by setting.
One check is weaker than what is asked of a record: it refuses the operations that are known
to need an identifier, so a fixed operation with an unknown name passes, and no record does.
-/

namespace RecordFlow.Bulk

namespace Config

/-- No attribute is given for identifiers, or its name is white space only. -/
def Unidentified (config : Config) : Prop :=
  ∀ name, config.idAttribute = some name → ∀ c ∈ name.toList, Text.isBlankChar c = true

/-- The operation is empty, or of a kind that needs an identifier. -/
def NeedsIdentifier (operation : String) : Prop :=
  operation = "" ∨ ∃ kind : Kind, kind ≠ .index ∧ Spells operation kind

/-- There is this reason to refuse the configuration. -/
def Refusal.Applies (config : Config) : Refusal → Prop
  | emptyUrl => ∀ c ∈ config.url.toList, Text.isBlankChar c = true
  | zeroBatchSize => config.batchSize = 0
  | missingIdAttribute =>
    config.Unidentified ∧
      ∃ operation, config.operation.literal? = some operation ∧ NeedsIdentifier operation
  | unknownCharset label => config.charset.literal? = some label ∧ ¬ KnownLabel label
  | missingScript =>
    config.upsert = some .scriptedUpsert ∧
      ∀ script, config.script = some script →
        ∀ c ∈ script.source.toList, Text.isBlankChar c = true

theorem lacksIdAttribute_iff {config : Config} :
    config.lacksIdAttribute = true ↔ config.Unidentified := by
  rw [lacksIdAttribute, Unidentified]
  cases config.idAttribute with
  | none => simp
  | some name => simp [Text.isBlank_iff]

theorem lacksScript_iff {config : Config} :
    config.lacksScript = true ↔
      ∀ script, config.script = some script →
        ∀ c ∈ script.source.toList, Text.isBlankChar c = true := by
  rw [lacksScript]
  cases config.script with
  | none => simp
  | some script => simp [Text.isBlank_iff]

theorem needsIdAttribute_iff {operation : String} :
    needsIdAttribute operation = true ↔ NeedsIdentifier operation := by
  have hword (kind : Kind) :
      String.ofList (operation.toList.map Char.toLower) = kind.word ↔ Spells operation kind := by
    rw [spells_iff_lower, eq_comm]
  have hempty : String.ofList (operation.toList.map Char.toLower) = "" ↔ operation = "" := by
    rw [← String.toList_inj, String.toList_ofList, ← String.toList_inj]
    exact List.map_eq_nil_iff
  have hupdate := hword .update
  have hupsert := hword .upsert
  have hdelete := hword .delete
  rw [needsIdAttribute, List.contains_iff_mem, NeedsIdentifier, ← hempty]
  simp only [List.mem_cons, List.not_mem_nil, or_false]
  constructor
  · rintro (h | h | h | h)
    · exact .inr ⟨.update, by decide, hupdate.1 h⟩
    · exact .inr ⟨.upsert, by decide, hupsert.1 h⟩
    · exact .inr ⟨.delete, by decide, hdelete.1 h⟩
    · exact .inl h
  · rintro (h | ⟨kind, hkind, h⟩)
    · exact .inr (.inr (.inr h))
    · cases kind with
      | index => exact absurd rfl hkind
      | update => exact .inl (hupdate.2 h)
      | upsert => exact .inr (.inl (hupsert.2 h))
      | delete => exact .inr (.inr (.inl (hdelete.2 h)))

theorem missingIdAttribute_applies_iff {config : Config} :
    Refusal.missingIdAttribute.Applies config ↔
      (config.lacksIdAttribute && config.operation.literal?.any needsIdAttribute) = true := by
  rw [Bool.and_eq_true, lacksIdAttribute_iff, Option.any_eq_true]
  simp only [needsIdAttribute_iff]
  rfl

theorem unknownCharset_applies_iff {config : Config} {label : String} :
    (Refusal.unknownCharset label).Applies config ↔
      config.charset.literal?.filter (fun label => (Charset.ofLabel? label).isNone) =
        some label := by
  rw [Option.filter_eq_some_iff, Option.isNone_iff_eq_none, ofLabel?_eq_none]
  rfl

theorem missingScript_applies_iff {config : Config} :
    Refusal.missingScript.Applies config ↔
      (config.upsert = some .scriptedUpsert && config.lacksScript) = true := by
  rw [Bool.and_eq_true, decide_eq_true_eq, lacksScript_iff]
  rfl

/-- The checks stop at a reason that applies, and when they do not stop none does. -/
theorem refusal?_cases (config : Config) :
    (∃ refusal, config.refusal? = some refusal ∧ refusal.Applies config) ∨
      config.refusal? = none ∧ ∀ refusal : Refusal, ¬ refusal.Applies config := by
  rw [refusal?]
  by_cases hurl : Text.isBlank config.url = true
  · rw [if_pos hurl]
    exact .inl ⟨.emptyUrl, rfl, Text.isBlank_iff.1 hurl⟩
  by_cases hsize : config.batchSize = 0
  · rw [if_neg hurl, if_pos hsize]
    exact .inl ⟨.zeroBatchSize, rfl, hsize⟩
  by_cases hid : Refusal.missingIdAttribute.Applies config
  · rw [if_neg hurl, if_neg hsize, if_pos (missingIdAttribute_applies_iff.1 hid)]
    exact .inl ⟨.missingIdAttribute, rfl, hid⟩
  rw [if_neg hurl, if_neg hsize, if_neg (mt missingIdAttribute_applies_iff.2 hid)]
  cases hcharset : config.charset.literal?.filter fun label => (Charset.ofLabel? label).isNone with
  | some label => exact .inl ⟨.unknownCharset label, rfl, unknownCharset_applies_iff.2 hcharset⟩
  | none =>
    dsimp only
    by_cases hscript : Refusal.missingScript.Applies config
    · rw [if_pos (missingScript_applies_iff.1 hscript)]
      exact .inl ⟨.missingScript, rfl, hscript⟩
    · rw [if_neg (mt missingScript_applies_iff.2 hscript)]
      refine .inr ⟨rfl, fun refusal => ?_⟩
      cases refusal with
      | emptyUrl => exact mt Text.isBlank_iff.2 hurl
      | zeroBatchSize => exact hsize
      | missingIdAttribute => exact hid
      | unknownCharset label =>
        rw [unknownCharset_applies_iff, hcharset]
        exact Option.some_ne_none label ∘ Eq.symm
      | missingScript => exact hscript

theorem Refusal.applies_of_refusal? {config : Config} {refusal : Refusal}
    (h : config.refusal? = some refusal) : refusal.Applies config := by
  rcases refusal?_cases config with ⟨other, hother, happlies⟩ | ⟨hnone, -⟩
  · rw [h] at hother
    cases hother
    exact happlies
  · rw [h] at hnone
    cases hnone

/-- A configuration is valid exactly when there is no reason to refuse it. -/
theorem validate_eq_ok {config : Config} :
    config.validate = .ok () ↔ ∀ refusal : Refusal, ¬ refusal.Applies config := by
  rw [validate]
  rcases refusal?_cases config with ⟨refusal, hrefusal, happlies⟩ | ⟨hnone, hpasses⟩
  · rw [hrefusal]
    exact iff_of_false nofun fun hpasses => hpasses refusal happlies
  · rw [hnone]
    exact iff_of_true rfl hpasses

/-- A configuration that passes its checks asks for batches that are not empty. -/
theorem batchSize_pos_of_validate {config : Config} (h : config.validate = .ok ()) :
    0 < config.batchSize := by
  have hsize : ¬ config.batchSize = 0 := validate_eq_ok.1 h .zeroBatchSize
  exact Nat.pos_of_ne_zero hsize

/-! ## Records -/

/-- Pushing the record with its operation onto the request sets the record aside for this
reason. -/
def SetsAside (config : Config) (request : Request Record) (r : Record) (reason : Exclusion) :
    Prop :=
  request.push r (config.resolve r) r.content =
    { request with excluded := request.excluded ++ [(r, reason)] }

variable {config : Config} {request : Request Record} {r : Record}

theorem setsAside_iff {reason : Exclusion} :
    config.SetsAside request r reason ↔ reason.IsFirst (config.resolve r) r.content := by
  rw [SetsAside, ← entry_eq_error, Request.push]
  cases entry (config.resolve r) r.content with
  | ok e =>
    refine iff_of_false (fun h => ?_) (fun herror => ?_)
    · have hexcluded := congrArg Request.excluded h
      exact absurd hexcluded.symm (by simp)
    · cases herror
  | error first => simp [eq_comm]

theorem exists_setsAside {reason : Exclusion}
    (h : reason.Applies (config.resolve r) r.content) (request : Request Record) :
    ∃ first, config.SetsAside request r first := by
  obtain ⟨first, hfirst⟩ := h.exists_error
  exact ⟨first, setsAside_iff.2 (entry_eq_error.1 hfirst)⟩

theorem kind_resolve {operation : String} (hliteral : config.operation.literal? = some operation) :
    (config.resolve r).kind = operation :=
  Template.render_of_literal? hliteral r

theorem charset_resolve {label : String} (hliteral : config.charset.literal? = some label) :
    (config.resolve r).charset = label :=
  Template.render_of_literal? hliteral r

/-- A charset that is the same for all records and unknown is refused before any record. -/
theorem not_unknownCharset {label : String} (hvalid : config.validate = .ok ())
    (hliteral : config.charset.literal? = some label) (other : String) :
    ¬ config.SetsAside request r (.unknownCharset other) := by
  rw [setsAside_iff]
  rintro ⟨⟨-, hunknown⟩, -⟩
  rw [charset_resolve hliteral] at hunknown
  exact validate_eq_ok.1 hvalid (.unknownCharset label) ⟨hliteral, hunknown⟩

/-- A script that is the same for all records is not blank when it is needed. -/
theorem not_missingScript {script : Template} {text : String} (hvalid : config.validate = .ok ())
    (hmode : config.upsert = some .scriptedUpsert) (hscript : config.script = some script)
    (hliteral : script.literal? = some text) :
    ¬ config.SetsAside request r .missingScript := by
  rw [setsAside_iff]
  rintro ⟨⟨-, -, -, hscriptless⟩, -⟩
  apply validate_eq_ok.1 hvalid .missingScript
  refine ⟨hmode, fun other hother => ?_⟩
  rw [hscript, Option.some.injEq] at hother
  subst hother
  rw [← Text.isBlank_iff]
  by_contra hwritten
  rw [Bool.not_eq_true] at hwritten
  have hrendered : script.render r = script.source := by
    rw [Template.render_of_literal? hliteral r, (Template.literal?_eq_some.1 hliteral).1]
  have hresolved : (config.resolve r).script = some script.source := by
    simp [resolve, hscript, hrendered, hwritten]
  have hblank := Text.isBlank_iff.2 (hscriptless _ hresolved)
  rw [hwritten] at hblank
  cases hblank

section

variable {operation : String} (hvalid : config.validate = .ok ())
  (hunidentified : config.Unidentified) (hliteral : config.operation.literal? = some operation)

include hvalid hunidentified hliteral

/-- Without identifiers, an operation that is the same for all records does not need one. -/
theorem not_needsIdentifier : ¬ NeedsIdentifier operation := by
  intro hneeds
  exact validate_eq_ok.1 hvalid .missingIdAttribute ⟨hunidentified, operation, hliteral, hneeds⟩

theorem not_missingOperation : ¬ config.SetsAside request r .missingOperation := by
  rw [setsAside_iff]
  rintro ⟨hempty, -⟩
  have hwritten : operation = "" := (kind_resolve hliteral).symm.trans hempty
  exact not_needsIdentifier hvalid hunidentified hliteral (.inl hwritten)

theorem not_missingIdentifier (kind : Kind) :
    ¬ config.SetsAside request r (.missingIdentifier kind) := by
  rw [setsAside_iff]
  rintro ⟨⟨hspelled, hindex, -⟩, -⟩
  rw [kind_resolve hliteral] at hspelled
  exact not_needsIdentifier hvalid hunidentified hliteral (.inr ⟨kind, hindex, hspelled⟩)

end

/-- Without an attribute for identifiers, an operation that needs one keeps every record out. -/
theorem setsAside_of_needsIdentifier (hnone : config.idAttribute = none) {operation : String}
    (hliteral : config.operation.literal? = some operation) (hneeds : NeedsIdentifier operation)
    (request : Request Record) (r : Record) : ∃ reason, config.SetsAside request r reason := by
  rcases hneeds with hempty | ⟨kind, hindex, hspelled⟩
  · have happlies : Exclusion.missingOperation.Applies (config.resolve r) r.content :=
      (kind_resolve hliteral).trans hempty
    exact exists_setsAside happlies request
  · have happlies : (Exclusion.missingIdentifier kind).Applies (config.resolve r) r.content := by
      refine ⟨by rwa [kind_resolve hliteral], hindex, .inl ?_⟩
      simp [resolve, hnone]
    exact exists_setsAside happlies request

theorem setsAside_of_unknownCharset {label : String}
    (hliteral : config.charset.literal? = some label) (hunknown : ¬ KnownLabel label)
    (request : Request Record) (r : Record) : ∃ reason, config.SetsAside request r reason := by
  have happlies : (Exclusion.unknownCharset label).Applies (config.resolve r) r.content :=
    ⟨(charset_resolve hliteral).symm, by rwa [charset_resolve hliteral]⟩
  exact exists_setsAside happlies request

/-- What a valid configuration fixes for all records keeps none of them out, as far as the charset,
the script, and the operation without identifiers are concerned.  Conversely, a
configuration that is refused because its operation needs an identifier and there is no
attribute for it, or because its charset is unknown, would keep all records out. -/
theorem validate_covers_records (config : Config) :
    (config.validate = .ok () → ∀ (request : Request Record) (r : Record),
      (∀ label, config.charset.literal? = some label →
        ∀ other, ¬ config.SetsAside request r (.unknownCharset other)) ∧
      (∀ script text, config.upsert = some .scriptedUpsert → config.script = some script →
        script.literal? = some text → ¬ config.SetsAside request r .missingScript) ∧
      (∀ operation, config.Unidentified → config.operation.literal? = some operation →
        ¬ config.SetsAside request r .missingOperation ∧
        ∀ kind, ¬ config.SetsAside request r (.missingIdentifier kind))) ∧
    (∀ refusal : Refusal, config.refusal? = some refusal → refusal.Applies config) ∧
    (config.idAttribute = none → Refusal.missingIdAttribute.Applies config →
      ∀ request r, ∃ reason, config.SetsAside request r reason) ∧
    (∀ label, (Refusal.unknownCharset label).Applies config →
      ∀ request r, ∃ reason, config.SetsAside request r reason) := by
  refine ⟨fun hvalid request r => ⟨?_, ?_, ?_⟩, ?_, ?_, ?_⟩
  · exact fun label hliteral => not_unknownCharset hvalid hliteral
  · exact fun script text => not_missingScript hvalid
  · intro operation hunidentified hliteral
    exact ⟨not_missingOperation hvalid hunidentified hliteral,
      not_missingIdentifier hvalid hunidentified hliteral⟩
  · exact fun refusal => Refusal.applies_of_refusal?
  · rintro hnone ⟨-, operation, hliteral, hneeds⟩
    exact setsAside_of_needsIdentifier hnone hliteral hneeds
  · rintro label ⟨hliteral, hunknown⟩
    exact setsAside_of_unknownCharset hliteral hunknown

/-- Documents go into one index, by the same operation for all records. -/
def logging (idAttribute : Option String) (operation : String) : Config :=
  { url := "http://localhost:9200", idAttribute, index := ⟨"logs"⟩, operation := ⟨operation⟩ }

theorem literal_of_cut {source : String} (h : Template.cutReference source.toList = none) :
    Template.literal? ⟨source⟩ = some source :=
  Template.literal?_eq_some.2 ⟨rfl, Template.not_hasReference_of_cut h⟩

/-- Documents are made by a script, with the same charset for all records. -/
def scripting (charset : String) : Config :=
  { logging (some "key") "Upsert" with
    script := some ⟨"\x7b\"id\":\"count\"\x7d"⟩, upsert := some .scriptedUpsert,
    charset := ⟨charset⟩ }

/-- The label may have blanks around it, and letters of either case are the same in labels and in
words.  Each of the two configurations that are refused would keep every record out. -/
theorem scripting_covers_records :
    ((scripting " Latin1").validate = .ok () ∧ ∀ request r,
      (∀ label, ¬ (scripting " Latin1").SetsAside request r (.unknownCharset label)) ∧
        ¬ (scripting " Latin1").SetsAside request r .missingScript) ∧
    ((logging none "Index").validate = .ok () ∧ ∀ request r,
      ¬ (logging none "Index").SetsAside request r .missingOperation ∧
        ∀ kind, ¬ (logging none "Index").SetsAside request r (.missingIdentifier kind)) ∧
    ((logging none "Delete").refusal? = some .missingIdAttribute ∧
      ∀ request r, ∃ reason, (logging none "Delete").SetsAside request r reason) ∧
    ((scripting "klingon").refusal? = some (.unknownCharset "klingon") ∧
      ∀ request r, ∃ reason, (scripting "klingon").SetsAside request r reason) := by
  have hscript : Template.literal? ⟨"\x7b\"id\":\"count\"\x7d"⟩ =
      some "\x7b\"id\":\"count\"\x7d" := literal_of_cut (by decide)
  have hupsert (charset : String) : (scripting charset).operation.literal? = some "Upsert" :=
    literal_of_cut (by decide)
  have hlatin : (scripting " Latin1").charset.literal? = some " Latin1" :=
    literal_of_cut (by decide)
  have hklingon : (scripting "klingon").charset.literal? = some "klingon" :=
    literal_of_cut (by decide)
  have hindex : (logging none "Index").operation.literal? = some "Index" :=
    literal_of_cut (by decide)
  have hdelete : (logging none "Delete").operation.literal? = some "Delete" :=
    literal_of_cut (by decide)
  have hcharset (operation : String) :
      (logging none operation).charset.literal? = some "UTF-8" := literal_of_cut (by decide)
  refine ⟨?_, ?_, ?_, ?_⟩
  · have hvalid : (scripting " Latin1").validate = .ok () := by
      rw [validate, refusal?, hupsert, hlatin]
      rfl
    refine ⟨hvalid, fun request r => ?_⟩
    obtain ⟨hlabels, hscripts, -⟩ := (validate_covers_records _).1 hvalid request r
    exact ⟨hlabels _ hlatin, hscripts _ _ rfl rfl hscript⟩
  · have hvalid : (logging none "Index").validate = .ok () := by
      rw [validate, refusal?, hindex, hcharset]
      rfl
    refine ⟨hvalid, fun request r => ?_⟩
    obtain ⟨-, -, hoperations⟩ := (validate_covers_records _).1 hvalid request r
    exact hoperations _ nofun hindex
  · have hrefused : (logging none "Delete").refusal? = some .missingIdAttribute := by
      rw [refusal?, hdelete, hcharset]
      rfl
    obtain ⟨-, happlies, hrecords, -⟩ := validate_covers_records (logging none "Delete")
    exact ⟨hrefused, hrecords rfl (happlies _ hrefused)⟩
  · have hrefused : (scripting "klingon").refusal? = some (.unknownCharset "klingon") := by
      rw [refusal?, hupsert, hklingon]
      rfl
    obtain ⟨-, happlies, -, hrecords⟩ := validate_covers_records (scripting "klingon")
    exact ⟨hrefused, hrecords _ (happlies _ hrefused)⟩

/-! ## Fixed operations -/

theorem not_needsIdentifier_iff {operation : String} :
    ¬ NeedsIdentifier operation ↔
      operation ≠ "" ∧ ∀ kind : Kind, kind ≠ .index → ¬ Spells operation kind := by
  rw [NeedsIdentifier, not_or, not_exists]
  exact and_congr Iff.rfl (forall_congr' fun _ => not_and)

/-- With the same operation for all records and no identifiers, the operation must not need one. -/
theorem validate_iff_of_literal {operation : String} (hunidentified : config.Unidentified)
    (hliteral : config.operation.literal? = some operation) :
    config.validate = .ok () ↔ ¬ NeedsIdentifier operation ∧
      ∀ refusal : Refusal, refusal ≠ .missingIdAttribute → ¬ refusal.Applies config := by
  rw [validate_eq_ok]
  constructor
  · intro hvalid
    refine ⟨fun hneeds => ?_, fun refusal _ => hvalid refusal⟩
    exact hvalid .missingIdAttribute ⟨hunidentified, operation, hliteral, hneeds⟩
  · rintro ⟨hneeds, hothers⟩ refusal happlies
    by_cases hrefusal : refusal = .missingIdAttribute
    · subst hrefusal
      obtain ⟨-, other, hother, hneeds'⟩ := happlies
      rw [hliteral, Option.some.injEq] at hother
      exact hneeds (hother ▸ hneeds')
    · exact hothers refusal hrefusal happlies

/-- A record is set aside for its fixed operation when it has an index and the operation is no
known word. -/
theorem setsAside_unsupportedOperation {operation : String}
    (hliteral : config.operation.literal? = some operation) (hwritten : operation ≠ "")
    {text : String} :
    config.SetsAside request r (.unsupportedOperation text) ↔
      text = operation ∧ (∀ kind : Kind, ¬ Spells operation kind) ∧
        config.index.render r ≠ "" := by
  rw [setsAside_iff]
  constructor
  · rintro ⟨⟨htext, hunknown⟩, hfirst⟩
    rw [kind_resolve hliteral] at htext hunknown
    refine ⟨htext, hunknown, fun hindex => ?_⟩
    exact Nat.not_succ_le_zero 1 (hfirst .missingIndex hindex)
  · rintro ⟨rfl, hunknown, hindex⟩
    refine ⟨⟨(kind_resolve hliteral).symm, by rwa [kind_resolve hliteral]⟩, fun other hother => ?_⟩
    cases other with
    | missingIndex => exact absurd hother hindex
    | missingOperation => exact absurd ((kind_resolve hliteral).symm.trans hother) hwritten
    | _ => simp [Exclusion.place]

/-- A configuration without identifiers and with the same operation for all records is valid
exactly when nothing else is wrong with it and the operation is not empty and names no
kind but `index`.  Then no record lacks its operation, but each record that has an index
is set aside if the operation is not the word `index`. -/
theorem validate_of_fixed_operation {config : Config} {operation : String}
    (hunidentified : config.Unidentified)
    (hliteral : config.operation.literal? = some operation) :
    (config.validate = .ok () ↔
      (operation ≠ "" ∧ ∀ kind : Kind, kind ≠ .index → ¬ Spells operation kind) ∧
      ∀ refusal : Refusal, refusal ≠ .missingIdAttribute → ¬ refusal.Applies config) ∧
    (config.validate = .ok () → ∀ (request : Request Record) (r : Record),
      ¬ config.SetsAside request r .missingOperation ∧
      ∀ text, config.SetsAside request r (.unsupportedOperation text) ↔
        text = operation ∧ ¬ SameLetters operation "index" ∧
          config.index.render r ≠ "") := by
  constructor
  · rw [← not_needsIdentifier_iff]
    exact validate_iff_of_literal hunidentified hliteral
  · intro hvalid request r
    refine ⟨not_missingOperation hvalid hunidentified hliteral, fun text => ?_⟩
    obtain ⟨hwritten, hkinds⟩ :=
      not_needsIdentifier_iff.1 (not_needsIdentifier hvalid hunidentified hliteral)
    rw [setsAside_unsupportedOperation hliteral hwritten]
    refine and_congr Iff.rfl (and_congr ⟨fun hunknown => hunknown .index, ?_⟩ Iff.rfl)
    intro hindex kind
    by_cases hkind : kind = .index
    · rwa [hkind]
    · exact hkinds kind hkind

/-- At most the operation and the identifiers are wrong with these configurations. -/
theorem not_applies_logging (idAttribute : Option String) (operation : String)
    {refusal : Refusal} (h : refusal ≠ .missingIdAttribute) :
    ¬ refusal.Applies (logging idAttribute operation) := by
  cases refusal with
  | emptyUrl =>
    have hurl : 'h' ∈ "http://localhost:9200".toList := by decide
    exact fun hblank => absurd (hblank 'h' hurl) (by decide)
  | zeroBatchSize =>
    have hsize : (100 : Nat) ≠ 0 := by decide
    exact hsize
  | missingIdAttribute => exact absurd rfl h
  | unknownCharset label =>
    have hcharset : (logging idAttribute operation).charset.literal? = some "UTF-8" :=
      literal_of_cut (by decide)
    rintro ⟨hliteral, hunknown⟩
    rw [hcharset, Option.some.injEq] at hliteral
    subst hliteral
    exact absurd (ofLabel?_eq_none.2 hunknown) (by decide)
  | missingScript => exact fun hscript => by cases hscript.1

theorem index_logging (idAttribute : Option String) (operation : String) (r : Record) :
    (logging idAttribute operation).index.render r = "logs" :=
  Template.render_of_literal? (literal_of_cut (by decide)) r

/-- The check looks for the exact words, so a deletion with a blank behind it needs no identifiers.
The name of the attribute is blank too. -/
theorem validate_of_padded_deletion :
    (logging (some " ") "Delete ").validate = .ok () ∧
      ∀ request r, (logging (some " ") "Delete ").SetsAside request r
        (.unsupportedOperation "Delete ") := by
  have hunidentified : (logging (some " ") "Delete ").Unidentified := by
    rintro name hname
    cases hname
    exact Text.isBlank_iff.1 (by decide)
  have hliteral : (logging (some " ") "Delete ").operation.literal? = some "Delete " :=
    literal_of_cut (by decide)
  obtain ⟨hvalidate, hrecords⟩ := validate_of_fixed_operation hunidentified hliteral
  have hvalid : (logging (some " ") "Delete ").validate = .ok () := by
    refine hvalidate.2 ⟨⟨by decide, fun kind _ => ?_⟩, fun _ => not_applies_logging _ _⟩
    cases kind <;> decide
  refine ⟨hvalid, fun request r => ((hrecords hvalid request r).2 _).2 ⟨rfl, by decide, ?_⟩⟩
  rw [index_logging]
  decide

/-- Merging is no operation, but without identifiers it passes validation, and then every record
is set aside. -/
theorem merging_is_valid :
    (logging none "merge").validate = .ok () ∧ (logging none "merge").Unidentified ∧
      (logging none "merge").operation.literal? = some "merge" ∧
      ¬ SameLetters "merge" "index" ∧
      ∀ request r, (logging none "merge").SetsAside request r (.unsupportedOperation "merge") := by
  have hliteral : (logging none "merge").operation.literal? = some "merge" :=
    literal_of_cut (by decide)
  have hunknown (kind : Kind) : ¬ Spells "merge" kind := by
    cases kind <;> decide
  have hunidentified : (logging none "merge").Unidentified := by
    intro name hname
    cases hname
  have hneeds : ¬ NeedsIdentifier "merge" :=
    not_needsIdentifier_iff.2 ⟨by decide, fun kind _ => hunknown kind⟩
  have hvalid : (logging none "merge").validate = .ok () :=
    (validate_iff_of_literal hunidentified hliteral).2 ⟨hneeds, fun _ => not_applies_logging _ _⟩
  refine ⟨hvalid, hunidentified, hliteral, hunknown .index, fun request r => ?_⟩
  rw [setsAside_unsupportedOperation hliteral (by decide), index_logging]
  exact ⟨rfl, hunknown, by decide⟩

end Config

end RecordFlow.Bulk
