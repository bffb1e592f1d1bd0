import RecordFlow.Proofs.Bitmask.Clearing
import RecordFlow.Proofs.Bitmask.Outputs
import RecordFlow.Proofs.Template

/-!
# Copies that come back

A router that clears bits may be given its own copies again.  The text that a copy carries
is that of an integer, so it is read back as what was left of the value; the name of the
attribute is a literal, so it is looked for in the same place.  What is left is covered by
rules with empty masks alone, and these have no bits to clear.  So a copy that comes back is
routed as it is, and so are its own copies.
-/

namespace RecordFlow.Bitmask.Router

variable {router : Router}

/-! ## Waiting for a turn -/

theorem queue_iterate_trigger (n : Nat) (s : Session) :
    (router.trigger^[n] s).queue = s.queue.drop n := by
  induction n with
  | zero => rfl
  | succ n ih =>
    rw [Function.iterate_succ_apply', queue_trigger, ih, List.drop_drop]

/-- A record that was added to a queue is in front after a trigger for each record before
it. -/
theorem queue_of_turn (s : Session) (r : Record) (later : List Record) :
    (router.trigger^[s.queue.length] (s.enqueueAll (r :: later))).queue = r :: later := by
  rw [queue_iterate_trigger, Session.enqueueAll, List.drop_left]

theorem trigger_of_queue {s : Session} {r : Record} {later : List Record}
    (h : s.queue = r :: later) : router.trigger s = router.route r { s with queue := later } := by
  rw [trigger, Session.take, h]
  rfl

/-! ## Fanning out -/

/-- A trigger that removes a record has made copies of it for the rules that its value
matches. -/
theorem exists_copies_of_removed {s : Session} {entries : List (Output × Record)}
    (hentries : (router.trigger s).routed.toList = s.routed.toList ++ entries)
    (hremoved : (router.trigger s).removed ≠ s.removed) :
    ∃ r value, Decimal.parseInt64? (router.rawOf r) = some value ∧
      router.matchedBy value ≠ [] ∧
      ∀ e ∈ entries, e.2 = copy (router.attributeOf r)
        (decide router.rules.snapshot value router.clearing).cleared r := by
  cases hqueue : s.queue with
  | nil =>
    rw [trigger, Session.take, hqueue] at hremoved
    exact absurd rfl hremoved
  | cons r later =>
    rw [trigger_of_queue hqueue] at hentries hremoved
    cases hraw : Decimal.parseInt64? (router.rawOf r) with
    | none =>
      rw [router.route_of_unusable hraw] at hremoved
      exact absurd rfl hremoved
    | some value =>
      by_cases hnone : router.matchedBy value = []
      · rw [router.route_of_unmatched hraw hnone] at hremoved
        exact absurd rfl hremoved
      · rw [router.route_of_matched hraw hnone, Session.routed_extend] at hentries
        refine ⟨r, value, hraw, hnone, fun e he => ?_⟩
        rw [← List.append_cancel_left hentries] at he
        obtain ⟨rule, -, rfl⟩ := List.mem_map.1 he
        rfl

/-! ## Settled records -/

/-- The attribute that decides about the record holds the text of what is left of some
value. -/
def Settled (router : Router) (c : Record) : Prop :=
  ∃ value, c.attribute? (router.attributeOf c) =
    some (Decimal.render (rest router.rules.snapshot value).toInt)

/-- The rules with empty masks, which match every value. -/
def emptyRules (router : Router) : List (Output × Int64) :=
  router.rules.snapshot.filter fun rule => rule.2 = 0

/-- A copy has the value of its record, less what was cleared, in the same attribute. -/
theorem settled_copy (hclearing : router.clearing = true) {name : String}
    (hliteral : router.attributeName.literal? = some name) {r : Record} {value : Int64}
    (hsome : router.matchedBy value ≠ []) :
    router.Settled (copy (router.attributeOf r)
      (decide router.rules.snapshot value router.clearing).cleared r) := by
  have hmatched : (decide router.rules.snapshot value router.clearing).matched ≠ [] := by
    rw [router.matched_decide, Ne, List.map_eq_nil_iff]
    exact hsome
  have hname (c : Record) : router.attributeOf c = name :=
    Template.render_of_literal? hliteral c
  refine ⟨value, ?_⟩
  rw [cleared_decide, if_pos ⟨hclearing, hmatched⟩, hname, hname, copy]
  exact r.attributes.get?_insert_self name _

/-- A settled record is its own copy. -/
theorem copy_settled {c : Record} {value : Int64} (cleared : Option Int64)
    (h : c.attribute? (router.attributeOf c) = some (Decimal.render value.toInt))
    (hcleared : ∀ left, cleared = some left → left = value) :
    copy (router.attributeOf c) cleared c = c := by
  cases cleared with
  | none => rfl
  | some left =>
    rw [hcleared left rfl, copy, Record.withAttribute, Dictionary.insert_of_get? h]

/-- A settled record goes to the rules with empty masks as it is, or to `unmatched` where
there are none. -/
theorem route_settled {c : Record} (h : router.Settled c) (s : Session) :
    router.route c s =
      if router.emptyRules = [] then s.transfer c Bitmask.unmatched
      else { s.extend (router.emptyRules.map fun rule => (rule.1, c)) [] with
        removed := s.removed + 1 } := by
  obtain ⟨value, hvalue⟩ := h
  let left := rest router.rules.snapshot value
  have hraw : Decimal.parseInt64? (router.rawOf c) = some left := by
    rw [rawOf, hvalue]
    exact Decimal.parseInt64?_eq_some.2 (Decimal.denotes_render left.toInt)
  have hempty : router.emptyRules = (router.matchedBy left).map fun rule => (⟨rule.1⟩, rule.2) := by
    rw [← router.matching_snapshot]
    exact (matching_rest router.rules.snapshot value).symm
  by_cases hnone : router.matchedBy left = []
  · rw [hnone, List.map_nil] at hempty
    rw [if_pos hempty]
    exact router.route_of_unmatched hraw hnone s
  · have hsome : router.emptyRules ≠ [] := by
      rw [hempty, Ne, List.map_eq_nil_iff]
      exact hnone
    have hcopy : copy (router.attributeOf c)
        (decide router.rules.snapshot left router.clearing).cleared c = c := by
      apply copy_settled _ hvalue
      intro cleared hcleared
      rw [cleared_decide, rest_rest] at hcleared
      obtain ⟨-, hleft⟩ := Option.ite_none_right_eq_some.1 hcleared
      exact (Option.some.inj hleft).symm
    rw [if_neg hsome, router.route_of_matched hraw hnone, hcopy, hempty, List.map_map]
    rfl

/-- Settled records never fail, for no rule is named like the output for failures. -/
theorem transferred_failure_of_settled {names : Set String} (hnamed : router.rules.Named names)
    {c : Record} (h : router.Settled c) (s : Session) :
    (router.route c s).transferred failure.name = s.transferred failure.name := by
  rw [route_settled h]
  by_cases hnone : router.emptyRules = []
  · rw [if_pos hnone, Session.transfer_eq_extend, Session.transferred_extend]
    exact List.append_nil _
  · rw [if_neg hnone]
    refine (Session.transferred_extend s _ [] failure.name).trans ?_
    have hother : (router.emptyRules.map fun rule => (rule.1, c)).filter
        (·.1.name == failure.name) = [] := by
      apply List.filter_eq_nil_iff.2
      intro e he hfailure
      obtain ⟨⟨output, mask⟩, hrule, rfl⟩ := List.mem_map.1 he
      have hmask := Rules.mem_snapshot_iff.1 (List.mem_filter.1 hrule).1
      have hproper := hnamed.proper_of_mask? (Option.isSome_iff_exists.2 ⟨mask, hmask⟩)
      exact hproper.2.2 (beq_iff_eq.1 hfailure)
    rw [hother, List.map_nil, List.append_nil]

/-- Whatever copy a clearing router made of a record, when the copy waits in a session of the
same router its turn comes, and then it is not routed to `failure`.  It goes as it is to
`unmatched`, or as it is to each rule with an empty mask if there are such rules. -/
theorem copies_settle {config : Config} {created : Router} (hcreated : config.router = .ok created)
    (calls : List Call) :
    let router := calls.foldl afterCall created
    router.clearing = true → ∀ name, router.attributeName.literal? = some name →
    ∀ (s : Session) (entries : List (Output × Record)),
      (router.trigger s).routed.toList = s.routed.toList ++ entries →
      (router.trigger s).removed ≠ s.removed →
    ∀ e ∈ entries,
      (∀ (t : Session) (later : List Record),
        (router.trigger^[t.queue.length] (t.enqueueAll (e.2 :: later))).queue = e.2 :: later) ∧
      ∀ (t : Session) (later : List Record), t.queue = e.2 :: later →
        let taken : Session := { t with queue := later }
        let empties := router.rules.snapshot.filter fun rule => rule.2 = 0
        (router.trigger t).transferred failure.name = t.transferred failure.name ∧
        (empties = [] → router.trigger t = taken.transfer e.2 Bitmask.unmatched) ∧
        (empties ≠ [] → router.trigger t =
          { taken.extend (empties.map fun rule => (rule.1, e.2)) [] with
            removed := t.removed + 1 }) := by
  intro router hclearing name hliteral s entries hentries hremoved e he
  have hnamed := named_foldl_afterCall (Config.named_router hcreated) calls
  obtain ⟨r, value, -, hsome, hcopies⟩ := exists_copies_of_removed hentries hremoved
  have hsettled : router.Settled e.2 := by
    rw [hcopies e he]
    exact settled_copy hclearing hliteral hsome
  refine ⟨fun t later => queue_of_turn t e.2 later, ?_⟩
  intro t later hqueue taken empties
  rw [trigger_of_queue hqueue]
  refine ⟨transferred_failure_of_settled hnamed hsettled taken, ?_, ?_⟩
  · intro hnone
    exact (route_settled hsettled taken).trans (if_pos hnone)
  · intro hsome
    exact (route_settled hsettled taken).trans (if_neg hsome)

/-- A clearing router with a rule that matches every value. -/
def lowAndAny : Config where
  attributeName := ⟨"flags"⟩
  clearing := true
  rules := .ofList [("low", .number 3), ("any", .number 0)]

/-- A record with these flags. -/
def flagged (flags : String) : Record :=
  { content := [], attributes := .ofList [("flags", flags)] }

/-- Two of three bits are cleared in both copies, and a copy that comes back stays what it
is. -/
theorem seven_copies_settle :
    let router : Router := ⟨⟨"flags"⟩, true, ⟨.ofList [("low", 3), ("any", 0)]⟩⟩
    (router.trigger { queue := [flagged "7"] }).routed.toList =
      [(⟨"any"⟩, flagged "4"), (⟨"low"⟩, flagged "4")] ∧
    router.trigger { queue := [flagged "4"], removed := 1 } =
      { routed := #[(⟨"any"⟩, flagged "4")], removed := 2 } := by
  intro router
  have hcreated : lowAndAny.router = .ok router := rfl
  have hname : Template.segments ⟨"flags"⟩ = [.literal "flags"] := by cbv
  have hliteral : router.attributeName.literal? = some "flags" := by
    rw [Template.literal?, hname]
    rfl
  have htrigger : router.trigger { queue := [flagged "7"] } =
      { routed := #[(⟨"any"⟩, flagged "4"), (⟨"low"⟩, flagged "4")], removed := 1 } := by
    rw [trigger_of_queue rfl, route, Template.render_of_literal? hliteral]
    decide
  have hcopies : (router.trigger { queue := [flagged "7"] }).routed.toList =
      [(⟨"any"⟩, flagged "4"), (⟨"low"⟩, flagged "4")] := by rw [htrigger]
  have hremoved : (router.trigger { queue := [flagged "7"] }).removed ≠ 0 := by
    rw [htrigger]
    decide
  refine ⟨hcopies, ?_⟩
  obtain ⟨-, hsettled⟩ := copies_settle hcreated [] rfl "flags" hliteral
    { queue := [flagged "7"] } _ hcopies hremoved (⟨"low"⟩, flagged "4") (by simp)
  exact (hsettled { queue := [flagged "4"], removed := 1 } [] rfl).2.2 (by decide)

end RecordFlow.Bitmask.Router
