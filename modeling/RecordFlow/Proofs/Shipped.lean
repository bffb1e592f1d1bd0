import RecordFlow.Proofs.Bitmask.Routing
import RecordFlow.Proofs.Bulk.BackOff
import RecordFlow.Shipped

/-!
# Progress of the shipped processors

A configuration text says how many records a processor takes at a trigger, and creation
refuses a text that says none.  Each processor takes what it should, whatever it does with
the records, and no trigger fails.  So a run drains any queue with as many triggers as there
are batches.
-/

namespace RecordFlow

variable {World : Type}

/-! ## The terminator -/

theorem Session.foldl_remove (s : Session) (records : List Record) :
    records.foldl Session.remove s = { s with removed := s.removed + records.length } := by
  induction records generalizing s with
  | nil => rfl
  | cons r records ih =>
    rw [List.foldl_cons, ih, List.length_cons, Nat.add_comm records.length, ← Nat.add_assoc]
    rfl

namespace Terminator

theorem trigger_eq (terminator : Terminator) (s : Session) :
    terminator.trigger s =
      { s with
        queue := s.queue.drop terminator.bulk
        removed := s.removed + min terminator.bulk s.queue.length } := by
  rw [trigger, Session.take, ← List.length_take]
  exact Session.foldl_remove _ _

theorem takes (terminator : Terminator) :
    (processor (StateM World)).Takes terminator terminator.bulk where
  succeeds := fun _ _ => ⟨.proceed, rfl⟩
  stays := fun _ _ => rfl
  queue := fun s _ => congrArg Session.queue (terminator.trigger_eq s)

theorem bulk_pos_of_ofConfig {config : Config} {terminator : Terminator}
    (h : ofConfig config = .ok terminator) : terminator = ⟨config.bulk⟩ ∧ 0 < config.bulk := by
  rw [ofConfig] at h
  split at h
  · cases h
  · rename_i hbulk
    cases h
    exact ⟨rfl, Nat.pos_of_ne_zero hbulk⟩

end Terminator

/-! ## The router -/

namespace Bitmask.Router

theorem takes (router : Router) : (processor (StateM World)).Takes router 1 where
  succeeds := fun _ _ => ⟨.proceed, rfl⟩
  stays := fun _ _ => rfl
  queue := fun s _ => router.queue_trigger s

end Bitmask.Router

/-! ## Creation -/

/-- The number of records that a processor of this kind takes at a trigger, as its
configuration text says. -/
inductive ShippedKind.BatchSize : ShippedKind → Option Bytes → Nat → Prop
  /-- A router always takes one. -/
  | router {text : Option Bytes} : BatchSize .router text 1
  | terminator {text : Option Bytes} {config : Terminator.Config}
    (h : Configuration.readOr {} Terminator.Config.shape.decoder text = .ok config) :
    BatchSize .terminator text config.bulk
  | bulkWriter {text : Option Bytes} {config : Bulk.Config}
    (h : Configuration.read Bulk.Config.shape.decoder (text.getD []) = .ok config) :
    BatchSize .bulkWriter text config.batchSize

namespace Shipped

/-- What holds of the trigger of a processor holds of it as a shipped one. -/
theorem takes_of_wrap {σ : Type} {p : Processor (StateM World) σ}
    {wrap : σ → Shipped (StateM World)} {state : σ} {size : Nat}
    (hwrap : ∀ s, (processor (StateM World)).trigger (wrap state) s = triggerWith p wrap state s)
    (h : p.Takes state size) : (processor (StateM World)).Takes (wrap state) size := by
  have hrun (s : Session) (world : World) :
      (((processor (StateM World)).trigger (wrap state) s).run world) =
        let outcome := (p.trigger state s).run world
        ((outcome.1.1, wrap outcome.1.2.1, outcome.1.2.2), outcome.2) := by
    rw [hwrap, triggerWith, StateT.run_bind]
    rfl
  refine ⟨?_, ?_, ?_⟩
  · intro s world
    rw [hrun]
    exact h.succeeds s world
  · intro s world
    rw [hrun]
    exact congrArg wrap (h.stays s world)
  · intro s world
    rw [hrun]
    exact h.queue s world

variable {connect : Bulk.Config → Url → Bulk.Transport (StateM World)} {kind : ShippedKind}
  {text : Option Bytes} {p : Shipped (StateM World)}

theorem exists_terminator_of_create (h : create connect .terminator text = .ok p) :
    ∃ config, Configuration.readOr {} Terminator.Config.shape.decoder text = .ok config ∧
      0 < config.bulk ∧ p = .terminator ⟨config.bulk⟩ := by
  rw [create] at h
  split at h
  · cases h
  rename_i config hconfig
  cases hterminator : Terminator.ofConfig config with
  | error fault =>
    rw [hterminator] at h
    cases h
  | ok terminator =>
    rw [hterminator] at h
    cases h
    obtain ⟨rfl, hpos⟩ := Terminator.bulk_pos_of_ofConfig hterminator
    exact ⟨config, hconfig, hpos, rfl⟩

/-- Created processors take what their configuration texts say. -/
theorem takes_of_create (h : create connect kind text = .ok p) :
    ∃ size, kind.BatchSize text size ∧ 0 < size ∧ (processor (StateM World)).Takes p size := by
  cases kind with
  | router =>
    rw [create] at h
    split at h
    · cases h
    rename_i config hconfig
    cases hrouter : config.router with
    | error fault =>
      rw [hrouter] at h
      cases h
    | ok router =>
      rw [hrouter] at h
      cases h
      exact ⟨1, .router, Nat.one_pos, takes_of_wrap (fun _ => rfl) router.takes⟩
  | terminator =>
    obtain ⟨config, hconfig, hpos, rfl⟩ := exists_terminator_of_create h
    exact ⟨config.bulk, .terminator hconfig, hpos,
      takes_of_wrap (fun _ => rfl) (Terminator.takes ⟨config.bulk⟩)⟩
  | bulkWriter =>
    rw [create] at h
    split at h
    · cases h
    rename_i config hconfig
    rw [bulkWriterOf] at h
    split at h
    · cases h
    rename_i hvalid
    split at h
    · cases h
    rename_i url hurl
    cases h
    exact ⟨config.batchSize, .bulkWriter hconfig, Bulk.Config.batchSize_pos_of_validate hvalid,
      takes_of_wrap (fun _ => rfl) (Bulk.Writer.takes ⟨config, connect config url⟩)⟩

/-! ## Removals -/

/-- Records leave the queue by being removed, and no other way. -/
def RemovesOnly (s s' : Session) : Prop :=
  s'.removed + s'.queue.length = s.removed + s.queue.length ∧ s'.routed = s.routed

theorem removesOnly_trigger (terminator : Terminator) (s : Session) (world : World) :
    RemovesOnly s
      (((processor (StateM World)).trigger (.terminator terminator) s).run world).1.2.2 := by
  change RemovesOnly s (terminator.trigger s)
  rw [Terminator.trigger_eq]
  have hlength : s.removed + min terminator.bulk s.queue.length +
      (s.queue.drop terminator.bulk).length = s.removed + s.queue.length := by
    rw [List.length_drop]
    omega
  exact ⟨hlength, rfl⟩

theorem removesOnly_run (terminator : Terminator) (pause : StateM World Unit) (limit : Nat)
    (s : Session) (world : World) :
    RemovesOnly s
      ((run (processor (StateM World)) pause limit (.terminator terminator) s).run
        world).1.2.2 := by
  have hQ : Kept (processor (StateM World)) pause (.terminator terminator)
      fun before after => RemovesOnly before.1 after.1 := by
    refine ⟨fun _ => ⟨rfl, rfl⟩, ?_, fun _ _ => rfl, ?_, fun _ _ => ⟨rfl, rfl⟩⟩
    · rintro first second third ⟨hremoved, hrouted⟩ ⟨hremoved', hrouted'⟩
      exact ⟨hremoved'.trans hremoved, hrouted'.trans hrouted⟩
    · exact removesOnly_trigger terminator
  exact hQ.run limit s world

/-! ## Progress -/

/-- A processor that is created at all takes records in batches of the size that its
configuration text says, which is not zero, and no trigger fails.  A run makes a trigger
for each batch up to its limit, and the records in no batch stay at the end of the queue.
All that a terminator does is to remove what it takes. -/
theorem progress_of_create (h : create connect kind text = .ok p) :
    ∃ size, kind.BatchSize text size ∧ 1 ≤ size ∧
      (∀ s world,
        let outcome := ((processor (StateM World)).trigger p s).run world
        let after := outcome.1.2.2
        (∃ scheduling, outcome.1.1 = .ok scheduling) ∧
        (∃ taken, s.queue = taken ++ after.queue ∧ taken.length = min size s.queue.length) ∧
        (kind = .terminator →
          after.removed = s.removed + min size s.queue.length ∧ after.routed = s.routed)) ∧
      ∀ pause limit s world,
        let outcome := (run (processor (StateM World)) pause limit p s).run world
        let after := outcome.1.2.2
        outcome.1.1.tally.triggers = min limit (s.queue.length ⌈/⌉ size) ∧
        outcome.1.1.tally.failed = 0 ∧
        after.queue <:+ s.queue ∧
        after.queue.length = s.queue.length - min s.queue.length (limit * size) ∧
        (kind = .terminator →
          after.removed = s.removed + min s.queue.length (limit * size) ∧
          after.routed = s.routed) := by
  obtain ⟨size, htext, hsize, htakes⟩ := takes_of_create h
  refine ⟨size, htext, hsize, ?_, ?_⟩
  · intro s world outcome after
    have hqueue : after.queue = s.queue.drop size := htakes.queue s world
    refine ⟨htakes.succeeds s world, ⟨s.queue.take size, ?_, List.length_take⟩, ?_⟩
    · rw [hqueue, List.take_append_drop]
    · rintro rfl
      obtain ⟨config, -, -, rfl⟩ := exists_terminator_of_create h
      obtain ⟨hremoved, hrouted⟩ := removesOnly_trigger ⟨config.bulk⟩ s world
      change after.removed + after.queue.length = _ at hremoved
      rw [hqueue, List.length_drop] at hremoved
      exact ⟨by omega, hrouted⟩
  · intro pause limit s world outcome after
    obtain ⟨htriggers, hfailed, hqueue⟩ := htakes.run hsize pause limit s world
    have hlength : after.queue.length =
        s.queue.length - min s.queue.length (limit * size) := by
      rw [hqueue, List.length_drop]
      omega
    refine ⟨htriggers, hfailed, hqueue ▸ List.drop_suffix _ _, hlength, ?_⟩
    rintro rfl
    obtain ⟨config, -, -, rfl⟩ := exists_terminator_of_create h
    obtain ⟨hremoved, hrouted⟩ := removesOnly_run ⟨config.bulk⟩ pause limit s world
    change after.removed + after.queue.length = _ at hremoved
    exact ⟨by omega, hrouted⟩

/-- A text that asks a terminator for three records at a trigger. -/
def threesText : Bytes :=
  Utf8.encode "\x7b\"bulk\":3\x7d"

theorem create_threesText :
    create connect .terminator (some threesText) = .ok (.terminator ⟨3⟩) := by
  cbv

theorem batchSize_threesText {size : Nat}
    (h : ShippedKind.BatchSize .terminator (some threesText) size) : size = 3 := by
  have hread :
      Configuration.readOr {} Terminator.Config.shape.decoder (some threesText) = .ok ⟨3⟩ := by
    cbv
  cases h with
  | terminator hconfig =>
    rw [hread] at hconfig
    cases hconfig
    rfl

def unreached (_ : Bulk.Config) (_ : Url) : Bulk.Transport (StateM Unit) where
  endpoint := ""
  submit _ := pure (.transportError "")

/-- The terminator of three records on a queue of seven, stopped after two triggers. -/
theorem progress_of_threes :
    let s : Session := { queue := List.replicate 7 { content := [] } }
    let outcome := (run (processor (StateM Unit)) (pure ()) 2 (.terminator ⟨3⟩) s).run ()
    create unreached .terminator (some threesText) = .ok (.terminator ⟨3⟩) ∧
      outcome.1.1.tally.triggers = 2 ∧ outcome.1.2.2.queue.length = 1 ∧
      outcome.1.2.2.removed = 6 := by
  intro s outcome
  have hcreate : create unreached .terminator (some threesText) = .ok (.terminator ⟨3⟩) :=
    create_threesText
  obtain ⟨size, htext, -, -, hrun⟩ := progress_of_create hcreate
  obtain rfl := batchSize_threesText htext
  obtain ⟨htriggers, -, -, hlength, hremoved⟩ := hrun (pure ()) 2 s ()
  have hbatches : min 2 (s.queue.length ⌈/⌉ 3) = 2 := by decide
  exact ⟨hcreate, htriggers.trans hbatches, hlength, (hremoved rfl).1⟩

end Shipped

end RecordFlow
