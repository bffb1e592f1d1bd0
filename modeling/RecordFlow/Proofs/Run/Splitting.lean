import RecordFlow.Proofs.Dictionary
import RecordFlow.Proofs.Run
import Mathlib

/-!
# Splitting a run

A run may be stopped after some triggers and taken up again: what comes out is one run
with both limits together, wherever the queue drains.  The account of a run has a part
of its own, the tally, and a part that is read from the session.  The tallies of both
halves add up, and the second half accounts for the whole session.
-/

namespace RecordFlow

variable {World σ : Type}

/-! ## Tallies -/

/-- The triggers of two runs together. -/
instance : Add Tally where
  add a b := ⟨a.triggers + b.triggers, a.yields + b.yields, a.failed + b.failed⟩

theorem Tally.count_add (a b : Tally) (result : Except Fault Scheduling) :
    (a + b).count result = a + b.count result := by
  rcases result with fault | (_ | _) <;> rfl

theorem Tally.triggers_count (tally : Tally) (result : Except Fault Scheduling) :
    (tally.count result).triggers = tally.triggers + 1 := by
  rcases result with fault | (_ | _) <;> rfl

/-- Every pause belongs to a trigger, which yielded or failed. -/
def Tally.Consistent (tally : Tally) : Prop := tally.yields + tally.failed ≤ tally.triggers

theorem Tally.consistent_zero : Tally.Consistent {} := Nat.le_refl 0

theorem Tally.Consistent.count {tally : Tally} (h : tally.Consistent)
    (result : Except Fault Scheduling) : (tally.count result).Consistent := by
  rw [Consistent] at h
  rcases result with fault | (_ | _)
  all_goals
    simp only [Consistent, Tally.count]
    omega

/-! ## The loop -/

variable (p : Processor (StateM World) σ) (pause : StateM World Unit)

/-- The loop with the sum of two limits goes on from where the loop with the first one
stops.  If that is because the queue is empty, the second one does nothing. -/
theorem triggerWhileQueued_add (limit more : Nat) (tally : Tally) (state : σ)
    (session : Session) (world : World) :
    (triggerWhileQueued p pause (limit + more) tally state session).run world =
      let outcome := (triggerWhileQueued p pause limit tally state session).run world
      (triggerWhileQueued p pause more outcome.1.1 outcome.1.2.1 outcome.1.2.2).run
        outcome.2 := by
  induction limit generalizing tally state session world with
  | zero =>
    rw [Nat.zero_add]
    rfl
  | succ limit ih =>
    by_cases hqueue : session.queue = []
    · -- The queue drained before the split, so the second loop finds nothing to do either.
      rw [triggerWhileQueued_of_empty hqueue, triggerWhileQueued_of_empty hqueue]
      exact (triggerWhileQueued_of_empty hqueue more tally state world).symm
    · rw [Nat.add_right_comm, triggerWhileQueued_of_waiting hqueue,
        triggerWhileQueued_of_waiting hqueue]
      exact ih _ _ _ _

/-- The loop counts on from the tally that it is given and does not look at it. -/
theorem triggerWhileQueued_count_on (limit : Nat) (earlier tally : Tally) (state : σ)
    (session : Session) (world : World) :
    (triggerWhileQueued p pause limit (earlier + tally) state session).run world =
      let outcome := (triggerWhileQueued p pause limit tally state session).run world
      ((earlier + outcome.1.1, outcome.1.2), outcome.2) := by
  induction limit generalizing tally state session world with
  | zero => rfl
  | succ limit ih =>
    by_cases hqueue : session.queue = []
    · rw [triggerWhileQueued_of_empty hqueue, triggerWhileQueued_of_empty hqueue]
    · rw [triggerWhileQueued_of_waiting hqueue, triggerWhileQueued_of_waiting hqueue]
      simp only [Tally.count_add]
      exact ih _ _ _ _

/-- The loop stops at its limit, or before it with an empty queue. -/
theorem triggers_triggerWhileQueued (limit : Nat) (tally : Tally) (state : σ)
    (session : Session) (world : World) :
    let outcome := (triggerWhileQueued p pause limit tally state session).run world
    outcome.1.1.triggers ≤ tally.triggers + limit ∧
      (outcome.1.2.2.queue = [] ∨ outcome.1.1.triggers = tally.triggers + limit) := by
  induction limit generalizing tally state session world with
  | zero => exact ⟨Nat.le_refl _, .inr rfl⟩
  | succ limit ih =>
    by_cases hqueue : session.queue = []
    · rw [triggerWhileQueued_of_empty hqueue]
      exact ⟨Nat.le_add_right _ _, .inl hqueue⟩
    · rw [triggerWhileQueued_of_waiting hqueue, Nat.add_comm limit, ← Nat.add_assoc]
      have hrest := ih (tally.count ((p.trigger state session).run world).1.1)
        ((p.trigger state session).run world).1.2.1 ((p.trigger state session).run world).1.2.2
      rw [Tally.triggers_count] at hrest
      exact hrest _

theorem consistent_triggerWhileQueued (limit : Nat) {tally : Tally} (h : tally.Consistent)
    (state : σ) (session : Session) (world : World) :
    ((triggerWhileQueued p pause limit tally state session).run world).1.1.Consistent := by
  induction limit generalizing tally state session world with
  | zero => exact h
  | succ limit ih =>
    by_cases hqueue : session.queue = []
    · rw [triggerWhileQueued_of_empty hqueue]
      exact h
    · rw [triggerWhileQueued_of_waiting hqueue]
      exact ih (h.count _) _ _ _

/-! ## Counts of the routing log -/

/-- The names of the outputs in a log, once for each entry. -/
def outputNames (log : List (Output × Record)) : List String := log.map (·.1.name)

theorem countByOutput_concat (log : List (Output × Record)) (entry : Output × Record) :
    countByOutput (log ++ [entry]) =
      (countByOutput log).insert entry.1.name
        (((countByOutput log).get? entry.1.name).getD 0 + 1) := by
  rw [countByOutput, List.foldl_concat]
  rfl

/-- An output has a count exactly when the log names it, and then it is the number of its
entries. -/
theorem get?_countByOutput (log : List (Output × Record)) (name : String) :
    (countByOutput log).get? name =
      if name ∈ outputNames log then some ((outputNames log).count name) else none := by
  induction log using List.reverseRecOn with
  | nil => rfl
  | append_singleton log entry ih =>
    have hnames : outputNames (log ++ [entry]) = outputNames log ++ [entry.1.name] :=
      List.map_append
    rw [countByOutput_concat, Dictionary.get?_insert, hnames, List.count_append]
    by_cases hname : name = entry.1.name
    · subst hname
      rw [if_pos rfl, if_pos (by simp), ih]
      by_cases hmem : entry.1.name ∈ outputNames log
      · rw [if_pos hmem, List.count_singleton_self]
        rfl
      · rw [if_neg hmem, List.count_eq_zero_of_not_mem hmem, List.count_singleton_self]
        rfl
    · have hcount : List.count name [entry.1.name] = 0 :=
        List.count_eq_zero_of_not_mem (by simpa using hname)
      rw [if_neg hname, ih, hcount]
      simp [hname]

theorem mem_keys_countByOutput (log : List (Output × Record)) (name : String) :
    name ∈ (countByOutput log).keys ↔ name ∈ outputNames log := by
  rw [Dictionary.mem_keys_iff, get?_countByOutput]
  by_cases hmem : name ∈ outputNames log
  · simp [hmem]
  · simp [hmem]

theorem Session.transferredCount_eq (s : Session) (name : String) :
    s.transferredCount name = (outputNames s.routed.toList).count name := by
  rw [transferredCount, outputNames, List.count_eq_countP, List.countP_map,
    List.countP_eq_length_filter]
  rfl

/-- Every entry is counted once. -/
theorem sum_countByOutput (log : List (Output × Record)) :
    ((countByOutput log).members.map Prod.snd).sum = log.length := by
  have hvalues : (countByOutput log).members.map Prod.snd =
      (countByOutput log).keys.map fun name => (outputNames log).count name := by
    rw [Dictionary.keys, List.map_map]
    apply List.map_congr_left
    rintro ⟨name, count⟩ hmem
    have hget := (countByOutput log).mem_members_iff.1 hmem
    rw [get?_countByOutput] at hget
    split at hget
    · exact (Option.some.inj hget).symm
    · cases hget
  have hkeys : (countByOutput log).keys.Perm (outputNames log).dedup := by
    apply (List.perm_ext_iff_of_nodup (countByOutput log).nodup_keys
      (List.nodup_dedup _)).2
    intro name
    rw [mem_keys_countByOutput, List.mem_dedup]
  rw [hvalues, (hkeys.map _).sum_eq, List.sum_map_count_dedup_eq_length, outputNames,
    List.length_map]

/-! ## Accounts -/

/-- The summary accounts for a run with this limit that left this session. -/
structure Summary.AccountsFor (summary : Summary) (limit : Nat) (after : Session) : Prop where
  limited : summary.tally.triggers ≤ limit
  paused : summary.tally.yields + summary.tally.failed ≤ summary.tally.triggers
  ended : after.queue = [] ∨ summary.tally.triggers = limit
  removed : summary.removed = after.removed
  names : ∀ name, name ∈ summary.routed.keys ↔ ∃ entry ∈ after.routed.toList, entry.1.name = name
  counts : ∀ name ∈ summary.routed.keys,
    summary.routed.get? name = some (after.transferredCount name)
  total : (summary.routed.members.map Prod.snd).sum = after.routed.size

theorem run_eq (limit : Nat) (state : σ) (session : Session) (world : World) :
    (run p pause limit state session).run world =
      let outcome := (triggerWhileQueued p pause limit {} state session).run world
      ((⟨outcome.1.1, outcome.1.2.2.removed, countByOutput outcome.1.2.2.routed.toList⟩,
        outcome.1.2), outcome.2) := by
  rw [run, StateT.run_bind]
  rfl

/-- A run that remembers its sessions tells of the run that does not: they have the loop in
common. -/
theorem run_remembering (limit : Nat) (state : σ) (session : Session) (world : World) :
    let loop := (triggerWhileQueued p.remembering pause limit {} ([], state) session).run world
    let outcome := (run p pause limit state session).run world
    ((run p.remembering pause limit ([], state) session).run world).1.2.1.1 = loop.1.2.1.1 ∧
      outcome.1.1.tally = loop.1.1 ∧ outcome.2 = loop.2 := by
  intro loop outcome
  have hforget := forget_run_remembering p pause limit [] state session world
  rw [run_eq] at hforget ⊢
  exact ⟨rfl, congrArg (fun outcome => outcome.1.1.tally) hforget.symm,
    congrArg Prod.snd hforget.symm⟩

theorem accountsFor_run (limit : Nat) (state : σ) (session : Session) (world : World) :
    let outcome := (run p pause limit state session).run world
    outcome.1.1.AccountsFor limit outcome.1.2.2 := by
  intro outcome
  have houtcome : outcome = _ := run_eq p pause limit state session world
  obtain ⟨hlimited, hended⟩ := triggers_triggerWhileQueued p pause limit {} state session world
  rw [Nat.zero_add] at hlimited hended
  rw [houtcome]
  refine ⟨hlimited, ?_, hended, rfl, ?_, ?_, ?_⟩
  · exact consistent_triggerWhileQueued p pause limit Tally.consistent_zero state session world
  · intro name
    exact (mem_keys_countByOutput _ name).trans List.mem_map
  · intro name hname
    rw [mem_keys_countByOutput] at hname
    rw [get?_countByOutput, if_pos hname, Session.transferredCount_eq]
  · rw [sum_countByOutput, Array.length_toList]

/-- Two runs one after another are one run with both limits: the processor, the session and
the world are left in the same states, the tallies add up, and the second summary says the
same about the session.  Each summary accounts for its run. -/
theorem run_add (limit more : Nat) (state : σ) (session : Session) (world : World) :
    let first := (run p pause limit state session).run world
    let second := (run p pause more first.1.2.1 first.1.2.2).run first.2
    let whole := (run p pause (limit + more) state session).run world
    (leaves second = leaves whole ∧
      first.1.1.tally.triggers + second.1.1.tally.triggers = whole.1.1.tally.triggers ∧
      first.1.1.tally.yields + second.1.1.tally.yields = whole.1.1.tally.yields ∧
      first.1.1.tally.failed + second.1.1.tally.failed = whole.1.1.tally.failed ∧
      second.1.1.routed = whole.1.1.routed ∧ second.1.1.removed = whole.1.1.removed) ∧
    first.1.1.AccountsFor limit first.1.2.2 ∧ second.1.1.AccountsFor more second.1.2.2 ∧
      whole.1.1.AccountsFor (limit + more) whole.1.2.2 := by
  intro first second whole
  refine ⟨?_, accountsFor_run p pause limit state session world,
    accountsFor_run p pause more _ _ _, accountsFor_run p pause (limit + more) state session world⟩
  let a := (triggerWhileQueued p pause limit {} state session).run world
  let b := (triggerWhileQueued p pause more {} a.1.2.1 a.1.2.2).run a.2
  have hwhole : (triggerWhileQueued p pause (limit + more) {} state session).run world =
      ((a.1.1 + b.1.1, b.1.2), b.2) := by
    rw [triggerWhileQueued_add]
    exact triggerWhileQueued_count_on p pause more a.1.1 {} a.1.2.1 a.1.2.2 a.2
  have hfirst : first = ((⟨a.1.1, _, _⟩, a.1.2), a.2) := run_eq p pause limit state session world
  have hsecond : second = ((⟨b.1.1, b.1.2.2.removed, countByOutput b.1.2.2.routed.toList⟩, b.1.2),
      b.2) := by
    have h := run_eq p pause more first.1.2.1 first.1.2.2 first.2
    rw [hfirst] at h
    exact h
  have hsum : whole = ((⟨a.1.1 + b.1.1, b.1.2.2.removed, countByOutput b.1.2.2.routed.toList⟩,
      b.1.2), b.2) := by
    have h := run_eq p pause (limit + more) state session world
    rw [hwhole] at h
    exact h
  rw [hfirst, hsecond, hsum]
  exact ⟨rfl, rfl, rfl, rfl, rfl, rfl⟩

end RecordFlow
