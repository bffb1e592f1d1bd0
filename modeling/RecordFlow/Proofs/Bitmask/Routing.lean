import RecordFlow.Bitmask.Router
import RecordFlow.Proofs.Bitmask.Decision
import RecordFlow.Proofs.Decimal
import RecordFlow.Proofs.Dictionary
import RecordFlow.Proofs.Run
import RecordFlow.Proofs.Session
import RecordFlow.Proofs.Text.Utf8
import Mathlib

/-!
# Routing record by record

What the router does with a record depends on that record and the rules alone.  A
reference says for one record where it goes, and a run routes the records that it takes
by the reference, one after another.
-/

namespace RecordFlow.Bitmask.Router

variable (router : Router) (r : Record)

/-! ## The reference -/

/-- The name of the attribute that decides about a record. -/
def attributeOf : String := router.attributeName.render r

/-- The text that decides about a record. -/
def rawOf : String := (r.attribute? (router.attributeOf r)).getD ""

/-- There is such a rule, and the value has all bits of its mask. -/
def Matches (value : Int64) (rule : String × Int64) : Prop :=
  router.rules.mask? rule.1 = some rule.2 ∧ Within rule.2 value

/-- A copy of the record.  Only when bits are to be cleared it differs, in the one
attribute that holds the value, by the bits of all matched masks. -/
structure Copied (value : Int64) (matched : List (String × Int64)) (c : Record) : Prop where
  content : c.content = r.content
  penalized : c.penalized = r.penalized
  others : ∀ name, name ≠ router.attributeOf r → c.attribute? name = r.attribute? name
  kept : router.clearing = false → c.attributes = r.attributes
  cleared : router.clearing = true → ∃ rest : Int64,
    c.attribute? (router.attributeOf r) = some (toString rest.toInt) ∧
    ∀ i, bit rest i = (bit value i && !matched.any fun rule => bit rule.2 i)

/-- The entries for a record, and how many records are removed. -/
inductive Reference : List (Output × Record) → Nat → Prop
  /-- The text is no integer of 64 bits. -/
  | unusable (hraw : ∀ value : Int64, ¬ Decimal.Denotes (router.rawOf r).toList value.toInt) :
    Reference [(failure, r)] 0
  /-- No rule matches the integer. -/
  | unmatched {value : Int64} (hraw : Decimal.Denotes (router.rawOf r).toList value.toInt)
    (hnone : ∀ rule, ¬ router.Matches value rule) :
    Reference [(Bitmask.unmatched, r)] 0
  /-- Each matching rule gets a copy, in the order of the bytes of their names. -/
  | fanOut {value : Int64} {matched : List (String × Int64)} {entries : List (Output × Record)}
    (hraw : Decimal.Denotes (router.rawOf r).toList value.toInt)
    (hsome : matched ≠ []) (hmatched : ∀ rule, rule ∈ matched ↔ router.Matches value rule)
    (horder : matched.Pairwise fun a b => Utf8.encode a.1 < Utf8.encode b.1)
    (hentries : List.Forall₂ (fun rule e => e.1 = ⟨rule.1⟩ ∧ router.Copied r value matched e.2)
      matched entries) :
    Reference entries 1

variable {router r}

theorem Copied.unique {value : Int64} {matched : List (String × Int64)} {c d : Record}
    (hc : router.Copied r value matched c) (hd : router.Copied r value matched d) : c = d := by
  have hattributes : c.attributes = d.attributes := by
    by_cases hclearing : router.clearing = true
    · obtain ⟨rest, hrest, hbits⟩ := hc.cleared hclearing
      obtain ⟨rest', hrest', hbits'⟩ := hd.cleared hclearing
      have hsame : rest = rest' := ext_bit fun i => (hbits i).trans (hbits' i).symm
      apply Dictionary.ext_get?
      intro name
      by_cases hname : name = router.attributeOf r
      · rw [hname]
        exact hrest.trans (hsame ▸ hrest'.symm)
      · exact (hc.others name hname).trans (hd.others name hname).symm
    · have hkeep := Bool.eq_false_iff.2 hclearing
      exact (hc.kept hkeep).trans (hd.kept hkeep).symm
  have hcontent := hc.content.trans hd.content.symm
  have hpenalized := hc.penalized.trans hd.penalized.symm
  cases c
  cases d
  exact (Record.mk.injEq ..).mpr ⟨hcontent, hattributes, hpenalized⟩

theorem denoted_unique {text : String} {a b : Int64} (ha : Decimal.Denotes text.toList a.toInt)
    (hb : Decimal.Denotes text.toList b.toInt) : a = b := by
  rw [← Decimal.parseInt64?_eq_some] at ha hb
  exact Option.some.inj (ha.symm.trans hb)

/-- The reference leaves no choice. -/
theorem Reference.unique {entries entries' : List (Output × Record)} {removals removals' : Nat}
    (h : router.Reference r entries removals) (h' : router.Reference r entries' removals') :
    entries = entries' ∧ removals = removals' := by
  cases h with
  | unusable hraw =>
    cases h' with
    | unusable => exact ⟨rfl, rfl⟩
    | unmatched hraw' => exact absurd hraw' (hraw _)
    | fanOut hraw' => exact absurd hraw' (hraw _)
  | unmatched hraw hnone =>
    cases h' with
    | unusable hraw' => exact absurd hraw (hraw' _)
    | unmatched => exact ⟨rfl, rfl⟩
    | fanOut hraw' hsome hmatched =>
      obtain ⟨rule, rules, rfl⟩ := List.exists_cons_of_ne_nil hsome
      have hmatch := (hmatched rule).1 List.mem_cons_self
      rw [denoted_unique hraw' hraw] at hmatch
      exact absurd hmatch (hnone rule)
  | fanOut hraw hsome hmatched horder hentries =>
    cases h' with
    | unusable hraw' => exact absurd hraw (hraw' _)
    | unmatched hraw' hnone =>
      obtain ⟨rule, rules, rfl⟩ := List.exists_cons_of_ne_nil hsome
      have hmatch := (hmatched rule).1 List.mem_cons_self
      rw [denoted_unique hraw hraw'] at hmatch
      exact absurd hmatch (hnone rule)
    | fanOut hraw' _ hmatched' horder' hentries' =>
      obtain rfl := denoted_unique hraw hraw'
      obtain rfl := eq_of_ascending (horder.imp Utf8.encode_lt_encode_iff.1)
        (horder'.imp Utf8.encode_lt_encode_iff.1)
        fun rule => (hmatched rule).trans (hmatched' rule).symm
      refine ⟨List.right_unique_forall₂' ?_ hentries hentries', rfl⟩
      rintro rule ⟨output, c⟩ ⟨output', d⟩ ⟨rfl, hc⟩ ⟨rfl, hd⟩
      exact congrArg _ (hc.unique hd)

variable (router r)

/-! ## One record -/

/-- The rules that match a value, by name. -/
def matchedBy (value : Int64) : List (String × Int64) :=
  router.rules.masks.members.filter fun rule => covers value rule.2

theorem mem_matchedBy {value : Int64} {rule : String × Int64} :
    rule ∈ router.matchedBy value ↔ router.Matches value rule := by
  rw [matchedBy, List.mem_filter, covers_iff, Matches, Rules.mask?]
  exact and_congr_left' (router.rules.masks.mem_members_iff)

theorem matching_snapshot (value : Int64) :
    matching router.rules.snapshot value =
      (router.matchedBy value).map fun rule => (⟨rule.1⟩, rule.2) := by
  rw [matching, Rules.snapshot, List.filter_map]
  rfl

theorem order_matchedBy (value : Int64) :
    (router.matchedBy value).Pairwise fun a b => Utf8.encode a.1 < Utf8.encode b.1 := by
  apply (router.rules.masks.ascending.filter _).imp
  intro a b hab
  exact Utf8.encode_lt_encode_iff.2 hab

theorem bit_rest (value : Int64) (i : Nat) :
    bit (value ^^^ union (matching router.rules.snapshot value)) i =
      (bit value i && !(router.matchedBy value).any fun rule => bit rule.2 i) := by
  rw [bit_cleared fun rule hrule => (mem_matching.1 hrule).2, matching_snapshot, List.any_map]
  rfl

/-- The copies that are made are copies as the reference wants them. -/
theorem copied_copy {value : Int64} (hsome : router.matchedBy value ≠ []) :
    router.Copied r value (router.matchedBy value)
      (copy (router.attributeOf r) (decide router.rules.snapshot value router.clearing).cleared
        r) := by
  have hhits : (matching router.rules.snapshot value).isEmpty = false := by
    rw [matching_snapshot, List.isEmpty_map]
    exact List.isEmpty_eq_false_iff.2 hsome
  rw [decide]
  simp only [hhits, Bool.not_false, Bool.and_true]
  by_cases hclearing : router.clearing = true
  · rw [if_pos hclearing]
    refine ⟨rfl, rfl, ?_, ?_, ?_⟩
    · intro name hname
      exact r.attributes.get?_insert_of_ne hname _
    · intro hkept
      rw [hkept] at hclearing
      cases hclearing
    · intro _
      exact ⟨_, r.attributes.get?_insert_self _ _, router.bit_rest value⟩
  · rw [if_neg hclearing]
    exact ⟨rfl, rfl, fun _ _ => rfl, fun _ => rfl, fun h => absurd h hclearing⟩

theorem matched_decide (value : Int64) :
    (decide router.rules.snapshot value router.clearing).matched =
      (router.matchedBy value).map fun rule => ⟨rule.1⟩ := by
  rw [decide, matching_snapshot, List.map_map]
  rfl

theorem route_of_unusable {r : Record} (h : Decimal.parseInt64? (router.rawOf r) = none)
    (s : Session) : router.route r s = s.transfer r failure := by
  rw [rawOf, attributeOf] at h
  rw [route, h]

theorem route_of_unmatched {r : Record} {value : Int64}
    (h : Decimal.parseInt64? (router.rawOf r) = some value) (hnone : router.matchedBy value = [])
    (s : Session) : router.route r s = s.transfer r Bitmask.unmatched := by
  have hmatched := router.matched_decide value
  rw [hnone, List.map_nil] at hmatched
  rw [rawOf, attributeOf] at h
  rw [route, h]
  simp only [hmatched]

theorem route_of_matched {r : Record} {value : Int64}
    (h : Decimal.parseInt64? (router.rawOf r) = some value) (hsome : router.matchedBy value ≠ [])
    (s : Session) :
    router.route r s =
      { s.extend ((router.matchedBy value).map fun rule => (⟨rule.1⟩,
          copy (router.attributeOf r)
            (decide router.rules.snapshot value router.clearing).cleared r)) [] with
        removed := s.removed + 1 } := by
  have hmatched := router.matched_decide value
  obtain ⟨rule, rules, hrules⟩ := List.exists_cons_of_ne_nil hsome
  rw [hrules, List.map_cons] at hmatched
  rw [rawOf, attributeOf] at h
  rw [route, h]
  simp only [hmatched]
  rw [Session.foldl_transfer, hrules]
  simp only [List.map_cons, List.map_map]
  rfl

/-- What happens to one record is what the reference says, and nothing else happens. -/
theorem route_reference (s : Session) :
    ∃ entries removals, router.Reference r entries removals ∧
      router.route r s = { s.extend entries [] with removed := s.removed + removals } := by
  cases hraw : Decimal.parseInt64? (router.rawOf r) with
  | none =>
    refine ⟨_, _, .unusable fun value hvalue => ?_, ?_⟩
    · rw [Decimal.parseInt64?_eq_some.2 hvalue] at hraw
      cases hraw
    · rw [router.route_of_unusable hraw, s.transfer_eq_extend]
      rfl
  | some value =>
    have hvalue := Decimal.parseInt64?_eq_some.1 hraw
    by_cases hnone : router.matchedBy value = []
    · refine ⟨_, _, .unmatched hvalue fun rule hrule => ?_, ?_⟩
      · have hmem := router.mem_matchedBy.2 hrule
        rw [hnone] at hmem
        cases hmem
      · rw [router.route_of_unmatched hraw hnone, s.transfer_eq_extend]
        rfl
    · refine ⟨_, _, .fanOut hvalue hnone (fun rule => router.mem_matchedBy)
        (router.order_matchedBy value) ?_, router.route_of_matched hraw hnone s⟩
      rw [List.forall₂_map_right_iff, List.forall₂_same]
      exact fun rule _ => ⟨rfl, router.copied_copy r hnone⟩

theorem queue_trigger (s : Session) : (router.trigger s).queue = s.queue.drop 1 := by
  rw [trigger, Session.take]
  cases hqueue : s.queue with
  | nil => rfl
  | cons r records =>
    obtain ⟨entries, removals, -, hroute⟩ :=
      router.route_reference r { s with queue := (r :: records).drop 1 }
    rw [List.take_succ_cons]
    exact congrArg Session.queue hroute

/-! ## Runs -/

/-- Between two sessions, the first `n` records of the queue were routed by the reference,
one after another, and nothing else happened. -/
structure Routes (n : Nat) (s s' : Session) (routings : List (List (Output × Record) × Nat)) :
    Prop where
  reference : List.Forall₂ (fun r routing => router.Reference r routing.1 routing.2)
    (s.queue.take n) routings
  queue : s'.queue = s.queue.drop n
  routed : s'.routed.toList = s.routed.toList ++ routings.flatMap Prod.fst
  removed : s'.removed = s.removed + (routings.map Prod.snd).sum
  deliveries : s'.deliveries = s.deliveries

variable {router}

theorem Routes.of_empty {s : Session} (h : s.queue = []) (n : Nat) : router.Routes n s s [] where
  reference := by
    rw [h, List.take_nil]
    exact .nil
  queue := by rw [h, List.drop_nil]
  routed := (List.append_nil _).symm
  removed := rfl
  deliveries := rfl

theorem Routes.zero (s : Session) : router.Routes 0 s s [] where
  reference := .nil
  queue := rfl
  routed := (List.append_nil _).symm
  removed := rfl
  deliveries := rfl

/-- Routing one more record in front. -/
theorem Routes.cons {s s' : Session} {r : Record} {rest : List Record} {n removals : Nat}
    {entries : List (Output × Record)} {routings : List (List (Output × Record) × Nat)}
    (hqueue : s.queue = r :: rest) (hentries : router.Reference r entries removals)
    (h : router.Routes n
      { { s with queue := rest }.extend entries [] with removed := s.removed + removals } s'
      routings) :
    router.Routes (n + 1) s s' ((entries, removals) :: routings) where
  reference := by
    rw [hqueue, List.take_succ_cons]
    exact .cons hentries h.reference
  queue := by
    rw [hqueue, List.drop_succ_cons]
    exact h.queue
  routed := by
    rw [h.routed, List.flatMap_cons, ← List.append_assoc]
    exact congrArg (· ++ _) (Session.routed_extend _ entries [])
  removed := by
    rw [h.removed, List.map_cons, List.sum_cons, ← Nat.add_assoc]
  deliveries := by
    rw [h.deliveries]
    exact Array.append_empty

variable {World : Type}

theorem routes_triggerWhileQueued (pause : StateM World Unit) (limit : Nat) (tally : Tally)
    (s : Session) (world : World) :
    ∃ routings, router.Routes limit s
      ((triggerWhileQueued (processor (StateM World)) pause limit tally router s).run
        world).1.2.2 routings := by
  induction limit generalizing tally s world with
  | zero => exact ⟨[], .zero s⟩
  | succ limit ih =>
    cases hqueue : s.queue with
    | nil =>
      rw [triggerWhileQueued_of_empty hqueue]
      exact ⟨[], .of_empty hqueue _⟩
    | cons r rest =>
      rw [triggerWhileQueued_of_waiting (by rw [hqueue]; exact List.cons_ne_nil r rest)]
      obtain ⟨entries, removals, hreference, hroute⟩ :=
        router.route_reference r { s with queue := rest }
      have htrigger : router.trigger s = router.route r { s with queue := rest } := by
        rw [trigger, Session.take, hqueue]
        rfl
      obtain ⟨routings, hroutings⟩ :=
        ih (tally.count (.ok .proceed)) (router.route r { s with queue := rest }) world
      refine ⟨(entries, removals) :: routings, .cons hqueue hreference ?_⟩
      rw [← hroute]
      rw [← htrigger] at hroutings ⊢
      exact hroutings

/-- A run equals the reference: it takes the first records up to its limit, logs for one
after another what the reference says, and leaves the other records in the queue. -/
theorem run_eq_reference (router : Router) (pause : StateM World Unit) (limit : Nat)
    (s : Session) (world : World) :
    ∃ routings, router.Routes limit s
      ((run (processor (StateM World)) pause limit router s).run world).1.2.2 routings :=
  routes_triggerWhileQueued pause limit {} s world

end RecordFlow.Bitmask.Router
