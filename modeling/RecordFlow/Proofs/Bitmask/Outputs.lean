import RecordFlow.Bitmask.Config
import RecordFlow.Proofs.Bitmask.Routing

/-!
# Declared outputs

A host may set and remove rules at any time between triggers.  Whatever it does, the
router declares its two fixed outputs and one for each rule that is in force then, and
it routes records to declared outputs only.  Which rules are in force is told by the
configuration and the calls alone.
-/

namespace RecordFlow.Bitmask

/-! ## Rules -/

/-- A rule of this name can have a mask with this text: the name is not empty and not one
of the fixed outputs, and the text is, up to white space around it, an integer of 64 bits
that is not negative. -/
def Acceptable (name text : String) : Prop :=
  name ≠ "" ∧ name ≠ unmatched.name ∧ name ≠ failure.name ∧
    ∃ mask : Int64, Decimal.Denotes (Text.trim text).toList mask.toInt ∧ 0 ≤ mask

namespace Rules

theorem mask?_insert (rules : Rules) (name other : String) (mask : Int64) :
    (Rules.mk (rules.masks.insert name mask)).mask? other =
      if other = name then some mask else rules.mask? other :=
  rules.masks.get?_insert name other mask

theorem mask?_remove (rules : Rules) (name other : String) :
    (rules.remove name).2.mask? other = if other = name then none else rules.mask? other :=
  rules.masks.get?_erase name other

/-- A rule that is registered has a proper name and a mask that is not negative. -/
theorem register_eq_ok {rules rules' : Rules} {name : String} {mask : Int64}
    (h : rules.register name mask = .ok rules') :
    (name ≠ "" ∧ name ≠ unmatched.name ∧ name ≠ failure.name ∧ 0 ≤ mask) ∧
      rules' = ⟨rules.masks.insert name mask⟩ := by
  rw [register] at h
  split at h
  · cases h
  rename_i hempty
  split at h
  · cases h
  rename_i hreserved
  split at h
  · cases h
  rename_i hnegative
  cases h
  rw [not_or] at hreserved
  exact ⟨⟨hempty, hreserved.1, hreserved.2, Int64.not_lt.1 hnegative⟩, rfl⟩

theorem register_of_proper (rules : Rules) {name : String} {mask : Int64} (hempty : name ≠ "")
    (hunmatched : name ≠ unmatched.name) (hfailure : name ≠ failure.name) (hmask : 0 ≤ mask) :
    rules.register name mask = .ok ⟨rules.masks.insert name mask⟩ := by
  rw [register, if_neg hempty, if_neg (not_or.2 ⟨hunmatched, hfailure⟩),
    if_neg (Int64.not_lt.2 hmask)]

/-- Only acceptable rules are registered from text. -/
theorem registerText_eq_ok {rules rules' : Rules} {name text : String}
    (h : rules.registerText name text = .ok rules') :
    Acceptable name text ∧ ∃ mask, rules' = ⟨rules.masks.insert name mask⟩ := by
  rw [registerText] at h
  split at h
  · rename_i mask hparse
    obtain ⟨⟨hempty, hunmatched, hfailure, hmask⟩, rfl⟩ := register_eq_ok h
    exact ⟨⟨hempty, hunmatched, hfailure, mask, Decimal.parseInt64?_eq_some.1 hparse, hmask⟩,
      mask, rfl⟩
  · cases h

/-- All acceptable rules are registered from text. -/
theorem registerText_of_acceptable (rules : Rules) {name text : String}
    (h : Acceptable name text) :
    ∃ mask, rules.registerText name text = .ok ⟨rules.masks.insert name mask⟩ := by
  obtain ⟨hempty, hunmatched, hfailure, mask, hdenotes, hmask⟩ := h
  refine ⟨mask, ?_⟩
  rw [registerText, Decimal.parseInt64?_eq_some.2 hdenotes]
  exact rules.register_of_proper hempty hunmatched hfailure hmask

/-- The rules have exactly these names, and each of them can name an output of its own. -/
structure Named (rules : Rules) (names : Set String) : Prop where
  present : ∀ name, name ∈ names ↔ (rules.mask? name).isSome = true
  proper : ∀ name ∈ names, name ≠ "" ∧ name ≠ unmatched.name ∧ name ≠ failure.name

theorem named_empty : empty.Named ∅ where
  present := fun _ => ⟨fun h => h.elim, fun h => by cases h⟩
  proper := fun _ h => h.elim

variable {rules : Rules} {names : Set String}

theorem Named.proper_of_mask? (h : rules.Named names) {name : String}
    (hrule : (rules.mask? name).isSome = true) :
    name ≠ "" ∧ name ≠ unmatched.name ∧ name ≠ failure.name :=
  h.proper name ((h.present name).2 hrule)

/-- Another rule adds its name, whether or not it replaces one. -/
theorem Named.insert (h : rules.Named names) {name : String} (hname : name ≠ "" ∧
    name ≠ unmatched.name ∧ name ≠ failure.name) (mask : Int64) :
    (Rules.mk (rules.masks.insert name mask)).Named (insert name names) where
  present := fun other => by
    rw [mask?_insert, Set.mem_insert_iff, h.present]
    by_cases hother : other = name
    · simp [hother]
    · simp [hother]
  proper := fun other hother => by
    rcases Set.mem_insert_iff.1 hother with rfl | hother
    · exact hname
    · exact h.proper other hother

theorem Named.remove (h : rules.Named names) (name : String) :
    (rules.remove name).2.Named (names \ {name}) where
  present := fun other => by
    rw [mask?_remove, Set.mem_sdiff, Set.mem_singleton_iff, h.present]
    by_cases hother : other = name
    · simp [hother]
    · simp [hother]
  proper := fun other hother => h.proper other hother.1

end Rules

/-- A rule of the configuration is registered under a proper name. -/
theorem MaskSource.register_eq_ok {source : MaskSource} {rules rules' : Rules} {name : String}
    (h : source.register rules name = .ok rules') :
    (name ≠ "" ∧ name ≠ unmatched.name ∧ name ≠ failure.name) ∧
      ∃ mask, rules' = ⟨rules.masks.insert name mask⟩ := by
  cases source with
  | number mask =>
    obtain ⟨⟨hempty, hunmatched, hfailure, -⟩, hrules⟩ := Rules.register_eq_ok h
    exact ⟨⟨hempty, hunmatched, hfailure⟩, mask, hrules⟩
  | text text =>
    rw [register] at h
    obtain ⟨⟨hempty, hunmatched, hfailure, -⟩, hrules⟩ := Rules.registerText_eq_ok h
    exact ⟨⟨hempty, hunmatched, hfailure⟩, hrules⟩

theorem Config.named_registerAll {members : List (String × MaskSource)} {rules rules' : Rules}
    {names : Set String} (hnames : rules.Named names)
    (h : Config.registerAll members rules = .ok rules') :
    rules'.Named (names ∪ {name | name ∈ members.map Prod.fst}) := by
  induction members generalizing rules names with
  | nil =>
    cases h
    have hnone : {name : String | name ∈ ([] : List (String × MaskSource)).map Prod.fst} = ∅ :=
      Set.eq_empty_of_forall_notMem fun _ hmem => by cases hmem
    rwa [hnone, Set.union_empty]
  | cons member members ih =>
    obtain ⟨name, source⟩ := member
    rw [Config.registerAll] at h
    split at h
    · rename_i next hnext
      obtain ⟨hname, mask, rfl⟩ := MaskSource.register_eq_ok hnext
      have hall := ih (hnames.insert hname mask) h
      have hsplit : insert name names ∪ {other | other ∈ members.map Prod.fst} =
          names ∪ {other | other ∈ ((name, source) :: members).map Prod.fst} := by
        ext other
        simp only [Set.mem_union, Set.mem_insert_iff, Set.mem_ofPred_eq, List.map_cons,
          List.mem_cons]
        tauto
      rwa [hsplit] at hall
    · cases h

/-- A router starts with the rules of its configuration. -/
theorem Config.named_router {config : Config} {router : Router}
    (h : config.router = .ok router) : router.rules.Named {name | name ∈ config.rules.keys} := by
  rw [Config.router] at h
  split at h
  · rename_i rules hrules
    cases h
    rw [Config.initialRules] at hrules
    split at hrules
    · cases hrules
    · split at hrules
      · rename_i registered hregistered
        cases hrules
        have hnamed := Config.named_registerAll Rules.named_empty hregistered
        rwa [Set.empty_union] at hnamed
      · cases hrules
  · cases h

/-! ## Calls -/

/-- What a host does with a router: it sets or removes a rule, or it triggers the router on
any session. -/
inductive Call where
  | setProperty (name : String) (mask : Option String)
  | trigger (s : Session)

/-- The names that have a rule after a call, by the names that had one before. -/
def Call.updates (names : Set String) : Call → Set String
  | .setProperty name (some text) => {other | other ∈ names ∨ other = name ∧ Acceptable name text}
  | .setProperty name none => names \ {name}
  | .trigger _ => names

namespace Router

/-- The router after a call; a call that fails leaves it as it was. -/
def afterCall (router : Router) : Call → Router
  | .setProperty name mask =>
    match (processor Id).setProperty router name mask with
    | .ok changed => changed
    | .error _ => router
  | .trigger s => ((processor Id).trigger router s).run.2.1

theorem named_afterCall {router : Router} {names : Set String} (h : router.rules.Named names)
    (call : Call) : (router.afterCall call).rules.Named (call.updates names) := by
  rcases call with ⟨name, _ | text⟩ | s
  · exact h.remove name
  · have hset : (processor Id).setProperty router name (some text) =
        router.setProperty name (some text) := by rw [processor]
    rw [afterCall, hset, setProperty, Call.updates]
    by_cases hacceptable : Acceptable name text
    · obtain ⟨mask, hregister⟩ := router.rules.registerText_of_acceptable hacceptable
      have hnames : {other | other ∈ names ∨ other = name ∧ Acceptable name text} =
          insert name names := by
        ext other
        simp [hacceptable, or_comm]
      obtain ⟨hempty, hunmatched, hfailure, -⟩ := hacceptable
      rw [hregister, hnames]
      exact h.insert ⟨hempty, hunmatched, hfailure⟩ mask
    · have hnames : {other | other ∈ names ∨ other = name ∧ Acceptable name text} = names := by
        ext other
        simp [hacceptable]
      rw [hnames]
      cases hregister : router.rules.registerText name text with
      | ok rules => exact absurd (Rules.registerText_eq_ok hregister).1 hacceptable
      | error fault => exact h
  · exact h

/-- The rules in force after any calls are those that the calls tell. -/
theorem named_foldl_afterCall {router : Router} {names : Set String}
    (h : router.rules.Named names) (calls : List Call) :
    (calls.foldl afterCall router).rules.Named (calls.foldl Call.updates names) := by
  induction calls generalizing router names with
  | nil => exact h
  | cons call calls ih => exact ih (named_afterCall h call)

/-! ## Outputs -/

theorem outputs_eq (router : Router) :
    router.outputs = unmatched :: failure :: router.rules.masks.keys.map Output.mk := by
  rw [outputs, Rules.snapshot, Dictionary.keys, List.map_map, List.map_map]
  rfl

theorem keys_ascending (router : Router) :
    router.rules.masks.keys.Pairwise fun a b => Utf8.encode a < Utf8.encode b := by
  rw [Dictionary.keys, List.pairwise_map]
  exact router.rules.masks.ascending.imp Utf8.encode_lt_encode_iff.2

/-- Declared names are pairwise distinct, for rules have names of their own. -/
theorem nodup_outputs {router : Router} {names : Set String} (h : router.rules.Named names) :
    (router.outputs.map Output.name).Nodup := by
  have hproper (name : String) (hname : name ∈ router.rules.masks.keys) :
      name ≠ unmatched.name ∧ name ≠ failure.name :=
    (h.proper_of_mask? (router.rules.masks.mem_keys_iff.1 hname)).2
  rw [outputs_eq, List.map_cons, List.map_cons, List.map_map]
  change (unmatched.name :: failure.name :: router.rules.masks.keys.map id).Nodup
  rw [List.map_id, List.nodup_cons, List.nodup_cons, List.mem_cons, not_or]
  refine ⟨⟨by decide, fun hmem => ?_⟩, fun hmem => ?_, router.rules.masks.nodup_keys⟩
  · exact (hproper _ hmem).1 rfl
  · exact (hproper _ hmem).2 rfl

/-- The entries for a record name declared outputs. -/
theorem mem_outputs_of_reference {router : Router} {r : Record} {entries : List (Output × Record)}
    {removals : Nat} (h : router.Reference r entries removals) :
    ∀ e ∈ entries, e.1 ∈ router.outputs := by
  rw [outputs_eq]
  cases h with
  | unusable => simp
  | unmatched => simp
  | fanOut _ _ hmatched _ hentries =>
    intro e he
    obtain ⟨k, hk, rfl⟩ := List.getElem_of_mem he
    have hlength := hentries.length_eq
    have hrule := List.Forall₂.get hentries (by omega) hk
    have hmatch := (hmatched _).1 (List.get_mem _ ⟨k, by omega⟩)
    have hkey := (Dictionary.mem_keys_iff router.rules.masks).2
      (Option.isSome_iff_exists.2 ⟨_, hmatch.1⟩)
    have houtput : entries[k].1 = ⟨_⟩ := hrule.1
    rw [houtput]
    exact List.mem_cons_of_mem _ (List.mem_cons_of_mem _ (List.mem_map_of_mem hkey))

/-- A trigger logs entries for declared outputs. -/
theorem routed_trigger (router : Router) (s : Session) :
    ∃ fresh, (router.trigger s).routed.toList = s.routed.toList ++ fresh ∧
      ∀ e ∈ fresh, e.1 ∈ router.outputs := by
  rw [trigger, Session.take]
  cases hqueue : s.queue with
  | nil => exact ⟨[], (List.append_nil _).symm, fun _ he => by cases he⟩
  | cons r rest =>
    obtain ⟨entries, removals, hreference, hroute⟩ :=
      router.route_reference r { s with queue := (r :: rest).drop 1 }
    refine ⟨entries, ?_, mem_outputs_of_reference hreference⟩
    rw [List.take_succ_cons]
    simp only [hroute, Session.routed_extend]

/-- At any time the declared outputs are the two fixed ones and one for each rule in force,
by the bytes of the names.  Their names are not empty and pairwise distinct, and triggers
on any session route to none but these. -/
theorem outputs_after_calls {config : Config} {created : Router}
    (h : config.router = .ok created) (calls : List Call) :
    let router := calls.foldl afterCall created
    let outputs := (processor Id).outputs router
    (∃ names : List String,
      outputs = unmatched :: failure :: names.map Output.mk ∧
      names.Pairwise (fun a b => Utf8.encode a < Utf8.encode b) ∧
      (∀ name, name ∈ names ↔ (router.rules.mask? name).isSome = true) ∧
      ∀ name, name ∈ names ↔
        name ∈ calls.foldl Call.updates {name | name ∈ config.rules.keys}) ∧
    (∀ output ∈ outputs, output.name ≠ "") ∧
    (outputs.map Output.name).Nodup ∧
    ∀ s, ∃ fresh,
      ((processor Id).trigger router s).run.2.2.routed.toList = s.routed.toList ++ fresh ∧
      ∀ e ∈ fresh, e.1 ∈ outputs := by
  intro router outputs
  have hnamed := named_foldl_afterCall (Config.named_router h) calls
  have houtputs : outputs = unmatched :: failure :: router.rules.masks.keys.map Output.mk :=
    router.outputs_eq
  refine ⟨⟨router.rules.masks.keys, houtputs, router.keys_ascending, ?_, ?_⟩, ?_,
    nodup_outputs hnamed, router.routed_trigger⟩
  · exact fun name => router.rules.masks.mem_keys_iff
  · exact fun name => router.rules.masks.mem_keys_iff.trans (hnamed.present name).symm
  · rw [houtputs]
    intro output houtput
    rcases List.mem_cons.1 houtput with rfl | houtput
    · decide
    rcases List.mem_cons.1 houtput with rfl | houtput
    · decide
    obtain ⟨name, hname, rfl⟩ := List.mem_map.1 houtput
    exact (hnamed.proper_of_mask? (router.rules.masks.mem_keys_iff.1 hname)).1

/-- A router that starts with one rule. -/
def oneRule : Config where
  attributeName := ⟨"flags"⟩
  rules := .ofList [("four", .number 4)]

/-- The rule of the configuration is removed, another one is set, and a third one is
refused because its name is reserved. -/
theorem outputs_of_oneRule_after_calls :
    let calls := [Call.setProperty "odd" (some " 1 "), .trigger {}, .setProperty "four" none,
      .setProperty "unmatched" (some "2")]
    let created : Router := ⟨⟨"flags"⟩, false, ⟨.ofList [("four", 4)]⟩⟩
    oneRule.router = .ok created ∧
    ∃ names : List String,
      (calls.foldl afterCall created).outputs = unmatched :: failure :: names.map Output.mk ∧
      "odd" ∈ names ∧ "four" ∉ names ∧ "unmatched" ∉ names := by
  intro calls created
  have hcreated : oneRule.router = .ok created := rfl
  have hodd : Acceptable "odd" " 1 " := by
    refine ⟨by decide, by decide, by decide, 1, ?_, by decide⟩
    exact Decimal.parseInt64?_eq_some.1 (by decide)
  have hreserved : ¬ Acceptable "unmatched" "2" := fun h => h.2.1 rfl
  have hkeys : oneRule.rules.keys = ["four"] := rfl
  obtain ⟨⟨names, houtputs, -, -, hnames⟩, -⟩ := outputs_after_calls hcreated calls
  refine ⟨hcreated, names, houtputs, ?_, ?_, ?_⟩
  · simp [hnames, calls, Call.updates, hodd]
  · simp [hnames, calls, Call.updates]
  · simp [hnames, calls, Call.updates, hreserved, hkeys]

end Router

end RecordFlow.Bitmask
