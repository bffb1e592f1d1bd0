import RecordFlow.Proofs.Run.Splitting

/-!
# Progress of a run

A processor that takes a fixed number of records at each trigger, or all that are left,
and never fails makes a run predictable: the queue alone tells how many triggers it takes
and what is left of it.  A size of zero would take nothing, and a run would go on to its
limit, so the size has to be positive.
-/

namespace RecordFlow

variable {World σ : Type}

/-- In this state the processor takes up to `size` records from the front of the queue at
each trigger, does not fail, and stays in the state. -/
structure Processor.Takes (p : Processor (StateM World) σ) (state : σ) (size : Nat) : Prop where
  succeeds : ∀ s world, ∃ scheduling, ((p.trigger state s).run world).1.1 = .ok scheduling
  stays : ∀ s world, ((p.trigger state s).run world).1.2.1 = state
  queue : ∀ s world, ((p.trigger state s).run world).1.2.2.queue = s.queue.drop size

/-- A queue that is not empty needs one batch more than what is left after the first one. -/
theorem ceilDiv_eq_succ {n size : Nat} (hn : 0 < n) (hsize : 0 < size) :
    n ⌈/⌉ size = (n - size) ⌈/⌉ size + 1 := by
  rw [Nat.ceilDiv_eq_add_pred_div, Nat.ceilDiv_eq_add_pred_div]
  by_cases hmore : size ≤ n
  · have hsum : n + size - 1 = (n - 1) + size := by omega
    have hrest : n - size + size - 1 = n - 1 := by omega
    rw [hsum, hrest, Nat.add_div_right _ hsize]
  · have hsum : n + size - 1 = (n - 1) + size := by omega
    have hrest : n - size + size - 1 = size - 1 := by omega
    rw [hsum, hrest, Nat.add_div_right _ hsize, Nat.div_eq_of_lt (by omega),
      Nat.div_eq_of_lt (by omega)]

/-- Consecutive chunks of a list.  Only the last one may be shorter than the others. -/
def chunks {α : Type} (size : Nat) (queue : List α) : List (List α) :=
  (List.range (queue.length ⌈/⌉ size)).map fun k => (queue.drop (k * size)).take size

section

variable {α : Type} {size : Nat}

theorem chunks_nil (size : Nat) : chunks size ([] : List α) = [] := by
  rw [chunks, List.length_nil, zero_ceilDiv]
  rfl

/-- The first chunk of a queue, and those of the rest. -/
theorem chunks_of_ne_nil (hsize : 0 < size) {queue : List α} (h : queue ≠ []) :
    chunks size queue = queue.take size :: chunks size (queue.drop size) := by
  have hlater (k : Nat) : queue.drop ((k + 1) * size) = (queue.drop size).drop (k * size) := by
    rw [List.drop_drop, Nat.succ_mul, Nat.add_comm]
  rw [chunks, ceilDiv_eq_succ (List.length_pos_iff.2 h) hsize, List.range_succ_eq_map,
    List.map_cons, List.map_map, Nat.zero_mul, List.drop_zero, chunks, List.length_drop]
  apply congrArg (List.cons _)
  apply List.map_congr_left
  intro k _
  exact congrArg (List.take size) (hlater k)

/-- Triggers that empty the queue have taken all its chunks. -/
theorem take_chunks_of_drop (hsize : 0 < size) {limit : Nat} {queue : List α}
    (h : queue.drop (limit * size) = []) : (chunks size queue).take limit = chunks size queue := by
  apply List.take_of_length_le
  rw [chunks, List.length_map, List.length_range, ceilDiv_le_iff_le_mul hsize, Nat.mul_comm]
  exact List.drop_eq_nil_iff.1 h

end

/-! ## Runs -/

theorem Tally.failed_count_ok (tally : Tally) (scheduling : Scheduling) :
    (tally.count (.ok scheduling)).failed = tally.failed := by
  cases scheduling <;> rfl

namespace Processor.Takes

variable {p : Processor (StateM World) σ} {state : σ} {size : Nat}

/-- The loop of a run triggers once for each batch of the queue up to its limit. -/
theorem triggerWhileQueued (h : p.Takes state size) (hsize : 0 < size)
    (pause : StateM World Unit) (limit : Nat) (tally : Tally) (s : Session) (world : World) :
    let outcome := (triggerWhileQueued p pause limit tally state s).run world
    outcome.1.1.triggers = tally.triggers + min limit (s.queue.length ⌈/⌉ size) ∧
      outcome.1.1.failed = tally.failed ∧
      outcome.1.2.2.queue = s.queue.drop (limit * size) := by
  induction limit generalizing tally s world with
  | zero =>
    rw [Nat.zero_min, Nat.zero_mul]
    exact ⟨rfl, rfl, rfl⟩
  | succ limit ih =>
    by_cases hqueue : s.queue = []
    · rw [triggerWhileQueued_of_empty hqueue, hqueue]
      simp [hqueue]
    · obtain ⟨scheduling, hresult⟩ := h.succeeds s world
      have hbatches : s.queue.length ⌈/⌉ size = (s.queue.length - size) ⌈/⌉ size + 1 :=
        ceilDiv_eq_succ (List.length_pos_iff.2 hqueue) hsize
      rw [triggerWhileQueued_of_waiting hqueue]
      simp only [hresult, h.stays]
      obtain ⟨htriggers, hfailed, hleft⟩ :=
        ih (tally.count (.ok scheduling)) ((p.trigger state s).run world).1.2.2 _
      rw [h.queue] at htriggers hleft
      refine ⟨htriggers.trans ?_, hfailed.trans (tally.failed_count_ok scheduling), hleft.trans ?_⟩
      · rw [Tally.triggers_count, List.length_drop, hbatches]
        omega
      · rw [List.drop_drop, Nat.succ_mul, Nat.add_comm]

/-- A run makes one trigger for each batch of the queue up to its limit, none of which
fails, and leaves the records that are in no batch. -/
theorem run (h : p.Takes state size) (hsize : 0 < size) (pause : StateM World Unit)
    (limit : Nat) (s : Session) (world : World) :
    let outcome := (RecordFlow.run p pause limit state s).run world
    outcome.1.1.tally.triggers = min limit (s.queue.length ⌈/⌉ size) ∧
      outcome.1.1.tally.failed = 0 ∧ outcome.1.2.2.queue = s.queue.drop (limit * size) := by
  intro outcome
  have houtcome : outcome = _ := run_eq p pause limit state s world
  obtain ⟨htriggers, hfailed, hleft⟩ := h.triggerWhileQueued hsize pause limit {} s world
  rw [houtcome]
  exact ⟨htriggers.trans (Nat.zero_add _), hfailed, hleft⟩

end Processor.Takes

end RecordFlow
