import RecordFlow.Proofs.Bulk.Batch
import RecordFlow.Proofs.Run
import Mathlib

/-!
# The bulk writer loses no record

Every record that a trigger takes comes out once, with its content, its attributes and
its mark, whatever the transport does.  Only a failed record may be marked on its way.
Over a run the records that waited are those that still wait and those that came out.
-/

namespace RecordFlow.Bulk

/-- A record without its mark. -/
def unmarked (r : Record) : Record := { r with penalized := false }

/-- The entry is for the record: it carries its content and attributes, never without the
mark if the record had it, and nothing is changed unless the record failed. -/
structure Handed (r : Record) (e : Output × Record) : Prop where
  output : e.1 = success ∨ e.1 = failure ∨ e.1 = retry
  content : e.2.content = r.content
  attributes : e.2.attributes = r.attributes
  marked : r.penalized = true → e.2.penalized = true
  changed : e.1 ≠ failure → e.2 = r

theorem handed_entryOf (penalize : Bool) (outcome : Record × Route) :
    Handed outcome.1 (entryOf penalize outcome) := by
  rcases outcome with ⟨r, _ | _ | _⟩
  · exact ⟨.inl rfl, rfl, rfl, id, fun _ => rfl⟩
  · cases penalize with
    | true => exact ⟨.inr (.inl rfl), rfl, rfl, fun _ => rfl, fun h => absurd rfl h⟩
    | false => exact ⟨.inr (.inl rfl), rfl, rfl, id, fun _ => rfl⟩
  · exact ⟨.inr (.inr rfl), rfl, rfl, id, fun _ => rfl⟩

theorem Handed.unmarked_eq {r : Record} {e : Output × Record} (h : Handed r e) :
    unmarked e.2 = unmarked r := by
  rw [unmarked, unmarked, h.content, h.attributes]

/-! ## Outcomes -/

theorem handed_outcomes (pending : List Record) (submission : Submission) :
    let reconciliation := reconcile pending submission
    List.Forall₂ Handed pending
      (reconciliation.outcomes.map (entryOf reconciliation.penalize)) := by
  intro reconciliation
  have hall : List.Forall₂ Handed (reconciliation.outcomes.map Prod.fst)
      (reconciliation.outcomes.map (entryOf reconciliation.penalize)) := by
    rw [List.forall₂_map_left_iff, List.forall₂_map_right_iff, List.forall₂_same]
    exact fun outcome _ => handed_entryOf reconciliation.penalize outcome
  rwa [map_fst_outcomes] at hall

/-! ## One trigger -/

/-- A trigger takes the batch and logs it: first the records left out, then an entry for
each survivor.  Nothing else changes but the log of deliveries. -/
structure Handles (config : Config) (s s' : Session) : Prop where
  batch : (config.batch s).length = min config.batchSize s.queue.length
  queue : s.queue = config.batch s ++ s'.queue
  removed : s'.removed = s.removed
  routed : ∃ fresh, s'.routed.toList =
      s.routed.toList ++ ((config.leftOut s).map (fun r => (failure, r)) ++ fresh) ∧
    List.Forall₂ Handed (config.survivors s) fresh

theorem handles_setAside {config : Config} {s : Session} (h : config.survivors s = []) :
    Handles config s (Writer.setAside config s) where
  batch := List.length_take
  queue := (List.take_append_drop config.batchSize s.queue).symm
  removed := rfl
  routed := by
    refine ⟨[], ?_, h ▸ .nil⟩
    rw [Writer.setAside, Session.routed_extend, List.append_nil]

theorem handles_settle (config : Config) (endpoint : String) (s : Session)
    (submission : Submission) :
    Handles config s (Writer.settle config endpoint s submission) where
  batch := List.length_take
  queue := (List.take_append_drop config.batchSize s.queue).symm
  removed := rfl
  routed := by
    refine ⟨_, ?_, handed_outcomes (config.survivors s) submission⟩
    rw [Writer.settle, Session.routed_extend, Writer.setAside, Session.routed_extend,
      List.append_assoc]

variable {World : Type}

theorem handles_trigger (writer : Writer (StateM World)) (s : Session) (world : World) :
    Handles writer.config s ((writer.trigger s).run world).1.2 := by
  rw [Writer.run_trigger]
  by_cases hnone : writer.config.survivors s = []
  · rw [if_pos hnone]
    exact handles_setAside hnone
  · rw [if_neg hnone]
    exact handles_settle writer.config _ s _

/-! ## Runs -/

/-- Between two sessions, records were taken from the queue and entries were logged for
them.  Records that did not fail came out as they were, in the order of the queue. -/
structure Accounts (s s' : Session) (taken : List Record) (fresh : List (Output × Record)) :
    Prop where
  queue : s.queue = taken ++ s'.queue
  removed : s'.removed = s.removed
  routed : s'.routed.toList = s.routed.toList ++ fresh
  records : (taken.map unmarked).Perm ((fresh.map Prod.snd).map unmarked)
  order : ∀ name, name ≠ failure.name →
    ((fresh.filter (·.1.name == name)).map Prod.snd).Sublist taken

theorem Accounts.refl (s : Session) : Accounts s s [] [] where
  queue := rfl
  removed := rfl
  routed := (List.append_nil _).symm
  records := .nil
  order := fun _ _ => List.nil_sublist []

theorem Accounts.trans {s₁ s₂ s₃ : Session} {taken more : List Record}
    {fresh later : List (Output × Record)} (h : Accounts s₁ s₂ taken fresh)
    (h' : Accounts s₂ s₃ more later) : Accounts s₁ s₃ (taken ++ more) (fresh ++ later) where
  queue := by rw [h.queue, h'.queue, List.append_assoc]
  removed := h'.removed.trans h.removed
  routed := by rw [h'.routed, h.routed, List.append_assoc]
  records := by
    rw [List.map_append, List.map_append, List.map_append]
    exact h.records.append h'.records
  order := fun name hname => by
    rw [List.filter_append, List.map_append]
    exact (h.order name hname).append (h'.order name hname)

theorem map_unmarked_of_handed {records : List Record} {fresh : List (Output × Record)}
    (h : List.Forall₂ Handed records fresh) :
    (fresh.map Prod.snd).map unmarked = records.map unmarked := by
  induction h with
  | nil => rfl
  | cons hhead _ ih => rw [List.map_cons, List.map_cons, List.map_cons, hhead.unmarked_eq, ih]

theorem sublist_of_handed {records : List Record} {fresh : List (Output × Record)}
    (h : List.Forall₂ Handed records fresh) {name : String} (hname : name ≠ failure.name) :
    ((fresh.filter (·.1.name == name)).map Prod.snd).Sublist records := by
  induction h with
  | nil => exact List.nil_sublist []
  | @cons r e records fresh hhead _ ih =>
    by_cases houtput : (e.1.name == name) = true
    · have hsame : e.2 = r := by
        apply hhead.changed
        intro hfailure
        rw [hfailure, beq_iff_eq] at houtput
        exact hname houtput.symm
      rw [List.filter_cons, if_pos houtput, List.map_cons, hsame]
      exact ih.cons_cons r
    · rw [List.filter_cons, if_neg houtput]
      exact ih.cons r

/-- A trigger accounts for its batch. -/
theorem Handles.accounts {config : Config} {s s' : Session} (h : Handles config s s') :
    ∃ fresh, Accounts s s' (config.batch s) fresh := by
  obtain ⟨fresh, hrouted, hfresh⟩ := h.routed
  let entries := (config.leftOut s).map fun r => (failure, r)
  have hleft : entries.map Prod.snd = config.leftOut s := by
    rw [List.map_map]
    exact List.map_id _
  refine ⟨entries ++ fresh, h.queue, h.removed, hrouted, ?_, ?_⟩
  · have hsplit : (config.survivors s ++ config.leftOut s).Perm (config.batch s) :=
      List.filter_append_perm config.accepts (config.batch s)
    rw [List.map_append, List.map_append, hleft, map_unmarked_of_handed hfresh,
      ← List.map_append]
    exact (hsplit.symm.trans List.perm_append_comm).map unmarked
  · intro name hname
    have hnone : entries.filter (·.1.name == name) = [] := by
      apply List.filter_eq_nil_iff.2
      intro e he
      obtain ⟨r, -, rfl⟩ := List.mem_map.1 he
      simpa using Ne.symm hname
    rw [List.filter_append, hnone, List.nil_append]
    exact (sublist_of_handed hfresh hname).trans List.filter_sublist

theorem accounts_run (writer : Writer (StateM World)) (pause : StateM World Unit) (limit : Nat)
    (s : Session) (world : World) :
    ∃ taken fresh, Accounts s
      ((run (Writer.processor (StateM World)) pause limit writer s).run world).1.2.2 taken
      fresh := by
  let R (before after : Writer (StateM World) × Session × World) : Prop :=
    ∃ taken fresh, Accounts before.2.1 after.2.1 taken fresh
  have hR : Respected (Writer.processor (StateM World)) pause R := by
    refine ⟨?_, ?_, ?_, ?_⟩
    · intro before
      exact ⟨[], [], Accounts.refl before.2.1⟩
    · rintro first second third ⟨taken, fresh, h⟩ ⟨more, later, h'⟩
      exact ⟨taken ++ more, fresh ++ later, h.trans h'⟩
    · intro writer s world _
      exact ⟨writer.config.batch s, (handles_trigger writer s world).accounts⟩
    · intro writer s world
      exact ⟨[], [], Accounts.refl s⟩
  exact hR.run limit writer s world

/-- No transport makes the writer lose, repeat or alter a record.  A trigger handles one
batch; over a run, the records that waited at first are up to their marks those that
still wait and those that were routed, and each output but `failure` got its records in
the order of the queue. -/
theorem writer_conserves_records (writer : Writer (StateM World)) (pause : StateM World Unit)
    (s : Session) (world : World) :
    Handles writer.config s ((writer.trigger s).run world).1.2 ∧
    ∀ limit,
      let s' := ((run (Writer.processor (StateM World)) pause limit writer s).run world).1.2.2
      s'.queue <:+ s.queue ∧ s'.removed = s.removed ∧
      ∃ fresh, s'.routed.toList = s.routed.toList ++ fresh ∧
        (s.queue.map unmarked).Perm ((s'.queue ++ fresh.map Prod.snd).map unmarked) ∧
        ∀ output ∈ [success, retry], ∃ arrived,
          s'.transferred output.name = s.transferred output.name ++ arrived ∧
          arrived.Sublist s.queue := by
  refine ⟨handles_trigger writer s world, fun limit => ?_⟩
  intro s'
  obtain ⟨taken, fresh, h⟩ := accounts_run writer pause limit s world
  refine ⟨⟨taken, h.queue.symm⟩, h.removed, fresh, h.routed, ?_, ?_⟩
  · rw [h.queue, List.map_append, List.map_append]
    exact (h.records.append_right _).trans List.perm_append_comm
  · intro output houtput
    have hname : output.name ≠ failure.name := by
      intro hname
      rcases List.mem_pair.1 houtput with rfl | rfl
      · exact absurd hname (by decide)
      · exact absurd hname (by decide)
    refine ⟨(fresh.filter (·.1.name == output.name)).map Prod.snd, ?_, ?_⟩
    · rw [Session.transferred, h.routed, List.filter_append, List.map_append]
      rfl
    · apply (h.order output.name hname).trans
      rw [h.queue]
      exact List.sublist_append_left _ _

end RecordFlow.Bulk
