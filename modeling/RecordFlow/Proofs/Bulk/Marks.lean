import RecordFlow.Proofs.Bulk.BatchSize
import RecordFlow.Proofs.Bulk.Conservation

/-!
# Deliveries and marks

A run of the bulk writer is a sequence of cycles, each with a batch and at most one
submission.  The log of deliveries repeats the successes of the routing log.  A record is
marked only because the submission that it was part of got no reply, and then all
survivors of its batch fail with the mark; those that were left out keep what they had.
-/

namespace RecordFlow.Bulk

/-! ## Cycles -/

/-- What one trigger of a run works on: the records that it takes, and how their submission
ends, if there is one. -/
structure Cycle where
  batch : List Record
  submission : Option Submission

namespace Cycle

variable (config : Config) (c : Cycle)

def survivors : List Record := c.batch.filter config.accepts

def leftOut : List Record := c.batch.filter fun r => !config.accepts r

/-- What is exchanged with the backend: the payload of the batch, and the answer to it. -/
def exchange? : Option Exchange :=
  c.submission.map fun submission => ⟨(config.request c.batch).payload, submission⟩

/-- A payload was submitted, and there was no reply. -/
def Unanswered : Prop := ∃ message, c.submission = some (.transportError message)

/-- What the routing log says about a batch.  There is one entry for each record, first for
those that were left out. -/
structure Logged (entries : List (Output × Record)) : Prop where
  /-- Nothing of a record changes but its mark, and a mark is only set, on a record whose
  submission got no reply. -/
  marks : List.Forall₂ (fun r e => unmarked e.2 = unmarked r ∧
      (e.2.penalized ≠ r.penalized →
        r.penalized = false ∧ r ∈ c.survivors config ∧ c.Unanswered))
    (c.leftOut config ++ c.survivors config) entries
  /-- Without a reply all records fail, and those that were submitted carry the mark. -/
  unanswered : c.Unanswered →
    entries = (c.leftOut config).map (fun r => (failure, r)) ++
      (c.survivors config).map (fun r => (failure, r.penalize))

end Cycle

/-! ## Deliveries -/

/-- The deliveries that belong to entries of the routing log: one for each success. -/
def deliveriesOf (endpoint : String) (entries : List (Output × Record)) : List Delivery :=
  ((entries.filter (·.1.name == success.name)).map Prod.snd).map (Delivery.mk endpoint)

theorem deliveriesOf_append (endpoint : String) (entries more : List (Output × Record)) :
    deliveriesOf endpoint (entries ++ more) =
      deliveriesOf endpoint entries ++ deliveriesOf endpoint more := by
  rw [deliveriesOf, List.filter_append, List.map_append, List.map_append]
  rfl

theorem deliveriesOf_failures (endpoint : String) (records : List Record) :
    deliveriesOf endpoint (records.map fun r => (failure, r)) = [] := by
  have hnone : (records.map fun r => (failure, r)).filter (·.1.name == success.name) = [] := by
    apply List.filter_eq_nil_iff.2
    intro e he
    obtain ⟨r, -, rfl⟩ := List.mem_map.1 he
    exact (by decide : ¬ (failure.name == success.name) = true)
  rw [deliveriesOf, hnone]
  rfl

/-- The deliveries that are reported for outcomes are those of their entries. -/
theorem flatMap_eventsOf (endpoint : String) (penalize : Bool) (outcomes : List (Record × Route)) :
    outcomes.flatMap (eventsOf endpoint) =
      deliveriesOf endpoint (outcomes.map (entryOf penalize)) := by
  induction outcomes with
  | nil => rfl
  | cons outcome outcomes ih =>
    rw [List.flatMap_cons, ih]
    rcases outcome with ⟨r, _ | _ | _⟩ <;> rfl

/-! ## Marks -/

/-- Only a missing reply makes the writer mark records. -/
theorem penalize_reconcile {R : Type} {pending : List R} {submission : Submission}
    (h : (reconcile pending submission).penalize = true) :
    ∃ message, submission = .transportError message := by
  obtain ⟨routes, penalize, backOff, hmeans⟩ := submission.exists_means
  rw [reconcile_of_means pending hmeans] at h
  cases hmeans with
  | unanswered message => exact ⟨message, rfl⟩
  | _ => cases h

theorem unmarked_entryOf (penalize : Bool) (outcome : Record × Route) :
    unmarked (entryOf penalize outcome).2 = unmarked outcome.1 :=
  (handed_entryOf penalize outcome).unmarked_eq

/-- The mark of an entry differs from that of its record only if marks are set at all. -/
theorem penalized_entryOf {penalize : Bool} {outcome : Record × Route}
    (h : (entryOf penalize outcome).2.penalized ≠ outcome.1.penalized) :
    penalize = true ∧ outcome.1.penalized = false := by
  rcases outcome with ⟨r, _ | _ | _⟩
  · exact absurd rfl h
  · cases penalize with
    | true => exact ⟨rfl, Bool.eq_false_iff.2 fun hmark => h hmark.symm⟩
    | false => exact absurd rfl h
  · exact absurd rfl h

/-- Records that fail at once keep their marks. -/
theorem marks_failures (P : Record → Prop) (records : List Record) :
    List.Forall₂ (fun r e => unmarked e.2 = unmarked r ∧ (e.2.penalized ≠ r.penalized → P r))
      records (records.map fun r => (failure, r)) := by
  rw [List.forall₂_map_right_iff]
  exact List.forall₂_same.2 fun r _ => ⟨rfl, fun hmark => absurd rfl hmark⟩

section

variable {config : Config} {endpoint : String}

theorem logged_setAside {s : Session} (h : config.survivors s = []) :
    Cycle.Logged config ⟨config.batch s, none⟩
      ((config.leftOut s).map fun r => (failure, r)) where
  marks := by
    have hsurvivors : Cycle.survivors config ⟨config.batch s, none⟩ = [] := h
    rw [hsurvivors, List.append_nil]
    exact marks_failures _ _
  unanswered := by
    rintro ⟨message, hmessage⟩
    cases hmessage

theorem logged_settle (s : Session) (submission : Submission) :
    let reconciliation := reconcile (config.survivors s) submission
    Cycle.Logged config ⟨config.batch s, some submission⟩
      ((config.leftOut s).map (fun r => (failure, r)) ++
        reconciliation.outcomes.map (entryOf reconciliation.penalize)) := by
  intro reconciliation
  have hrecords : reconciliation.outcomes.map Prod.fst = config.survivors s :=
    map_fst_outcomes (config.survivors s) submission
  constructor
  · apply List.rel_append
    · exact marks_failures _ _
    · change List.Forall₂ _ (config.survivors s) _
      rw [← hrecords, List.forall₂_map_left_iff, List.forall₂_map_right_iff, List.forall₂_same]
      intro outcome houtcome
      have hsurvivor : outcome.1 ∈ config.survivors s := by
        rw [← hrecords]
        exact List.mem_map_of_mem houtcome
      refine ⟨unmarked_entryOf _ outcome, fun hmark => ?_⟩
      obtain ⟨hpenalize, hbefore⟩ := penalized_entryOf hmark
      obtain ⟨message, rfl⟩ := penalize_reconcile hpenalize
      exact ⟨hbefore, hsurvivor, message, rfl⟩
  · rintro ⟨message, hmessage⟩
    obtain rfl := Option.some.inj hmessage
    change _ ++ ((config.survivors s).map fun r => (r, Route.failure message)).map (entryOf true) =
      _
    rw [List.map_map]
    rfl

/-! ## Runs -/

/-- Between two sessions there were these cycles, with these parts of the routing log and
these exchanges. -/
structure Traced (config : Config) (endpoint : String) (cycles : List Cycle)
    (logs : List (List (Output × Record))) (exchanges : List Exchange) (s s' : Session) :
    Prop where
  queue : s.queue = cycles.flatMap Cycle.batch ++ s'.queue
  exchanges : exchanges = cycles.filterMap (Cycle.exchange? config)
  routed : s'.routed.toList = s.routed.toList ++ logs.flatten
  deliveries : s'.deliveries.toList = s.deliveries.toList ++ deliveriesOf endpoint logs.flatten
  logged : List.Forall₂ (Cycle.Logged config) cycles logs

theorem Traced.refl (s : Session) : Traced config endpoint [] [] [] s s where
  queue := rfl
  exchanges := rfl
  routed := (List.append_nil _).symm
  deliveries := (List.append_nil _).symm
  logged := .nil

theorem Traced.trans {s₁ s₂ s₃ : Session} {cycles more : List Cycle}
    {logs later : List (List (Output × Record))} {exchanges further : List Exchange}
    (h : Traced config endpoint cycles logs exchanges s₁ s₂)
    (h' : Traced config endpoint more later further s₂ s₃) :
    Traced config endpoint (cycles ++ more) (logs ++ later) (exchanges ++ further) s₁ s₃ where
  queue := by rw [h.queue, h'.queue, List.flatMap_append, List.append_assoc]
  exchanges := by rw [h.exchanges, h'.exchanges, List.filterMap_append]
  routed := by rw [h'.routed, h.routed, List.flatten_append, List.append_assoc]
  deliveries := by
    rw [h'.deliveries, h.deliveries, List.flatten_append, deliveriesOf_append, List.append_assoc]
  logged := List.rel_append h.logged h'.logged

theorem traced_setAside {s : Session} (h : config.survivors s = []) :
    Traced config endpoint [⟨config.batch s, none⟩] [(config.leftOut s).map fun r => (failure, r)]
      [] s (Writer.setAside config s) where
  queue := by
    rw [List.flatMap_singleton]
    exact (List.take_append_drop config.batchSize s.queue).symm
  exchanges := rfl
  routed := by
    rw [Writer.setAside, Session.routed_extend, List.flatten_singleton]
  deliveries := by
    rw [Writer.setAside, Session.deliveries_extend, List.flatten_singleton,
      deliveriesOf_failures]
  logged := .cons (logged_setAside h) .nil

variable (config endpoint) in
theorem traced_settle (s : Session) (submission : Submission) :
    let reconciliation := reconcile (config.survivors s) submission
    Traced config endpoint [⟨config.batch s, some submission⟩]
      [(config.leftOut s).map (fun r => (failure, r)) ++
        reconciliation.outcomes.map (entryOf reconciliation.penalize)]
      [⟨Writer.payload config s, submission⟩] s (Writer.settle config endpoint s submission) where
  queue := by
    rw [List.flatMap_singleton]
    exact (List.take_append_drop config.batchSize s.queue).symm
  exchanges := rfl
  routed := by
    rw [Writer.settle, Session.routed_extend, Writer.setAside, Session.routed_extend,
      List.flatten_singleton, List.append_assoc]
  deliveries := by
    rw [Writer.settle, Session.deliveries_extend, Writer.setAside, Session.deliveries_extend,
      List.flatten_singleton, deliveriesOf_append, deliveriesOf_failures, List.append_nil,
      List.nil_append,
      flatMap_eventsOf endpoint (reconcile (config.survivors s) submission).penalize]
  logged := .cons (logged_settle s submission) .nil

variable (config endpoint) in
/-- A trigger is one cycle. -/
theorem traced_trigger (answer : List Exchange → String → Submission) (s : Session)
    (log : List Exchange) :
    let outcome := ((Writer.observed config endpoint answer).trigger s).run log
    ∃ cycle entries fresh, outcome.2 = log ++ fresh ∧
      Traced config endpoint [cycle] [entries] fresh s outcome.1.2 := by
  intro outcome
  have hrun : outcome = _ := Writer.run_trigger_observed config endpoint answer log s
  by_cases hnone : config.survivors s = []
  · rw [if_pos hnone] at hrun
    rw [hrun]
    exact ⟨_, _, [], (List.append_nil _).symm, traced_setAside hnone⟩
  · rw [if_neg hnone] at hrun
    rw [hrun]
    exact ⟨_, _, _, rfl, traced_settle config endpoint s _⟩

variable (config endpoint) in
theorem traced_observe (answer : List Exchange → String → Submission) (limit : Nat)
    (s : Session) :
    let after := observe config endpoint answer limit s
    ∃ cycles logs, Traced config endpoint cycles logs after.exchanges s after.session := by
  have hQ : Kept (Writer.processor (StateM (List Exchange))) (pure ())
      (Writer.observed config endpoint answer)
      fun before after => ∃ cycles logs fresh, after.2 = before.2 ++ fresh ∧
        Traced config endpoint cycles logs fresh before.1 after.1 := by
    have hrefl (before : Session × List Exchange) : ∃ cycles logs fresh,
        before.2 = before.2 ++ fresh ∧
          Traced config endpoint cycles logs fresh before.1 before.1 :=
      ⟨[], [], [], (List.append_nil _).symm, .refl before.1⟩
    refine ⟨hrefl, ?_, fun _ _ => rfl, ?_, fun s log => hrefl (s, log)⟩
    · rintro first second third ⟨cycles, logs, fresh, hfresh, htraced⟩
        ⟨more, later, further, hfurther, htraced'⟩
      refine ⟨cycles ++ more, logs ++ later, fresh ++ further, ?_, htraced.trans htraced'⟩
      rw [hfurther, hfresh, List.append_assoc]
    · intro s log outcome
      obtain ⟨cycle, entries, fresh, hfresh, htraced⟩ :=
        traced_trigger config endpoint answer s log
      exact ⟨[cycle], [entries], fresh, hfresh, htraced⟩
  obtain ⟨cycles, logs, fresh, hfresh, htraced⟩ := hQ.run limit s []
  rw [List.nil_append] at hfresh
  rw [← hfresh] at htraced
  exact ⟨cycles, logs, htraced⟩

end

/-- A run from a session without any log reports one delivery to the endpoint for each
success, in the same order.  It is made of cycles that take the queue from its front,
exchange a payload each at most, and log their batches one after another; no record is
marked but for a submission without a reply. -/
theorem run_delivers_and_marks (config : Config) (endpoint : String)
    (answer : List Exchange → String → Submission) (limit : Nat) (queue : List Record)
    (removed : Nat) :
    let after := observe config endpoint answer limit { queue, removed }
    after.session.deliveries.toList =
      (after.session.transferred success.name).map (Delivery.mk endpoint) ∧
    ∃ (cycles : List Cycle) (logs : List (List (Output × Record))),
      queue = cycles.flatMap Cycle.batch ++ after.session.queue ∧
      after.exchanges = cycles.filterMap (Cycle.exchange? config) ∧
      after.session.routed.toList = logs.flatten ∧
      List.Forall₂ (Cycle.Logged config) cycles logs := by
  intro after
  obtain ⟨cycles, logs, htraced⟩ :=
    traced_observe config endpoint answer limit { queue, removed }
  have hrouted : after.session.routed.toList = logs.flatten := htraced.routed
  have hdeliveries : after.session.deliveries.toList = deliveriesOf endpoint logs.flatten :=
    htraced.deliveries
  refine ⟨?_, cycles, logs, htraced.queue, htraced.exchanges, hrouted, htraced.logged⟩
  rw [hdeliveries, deliveriesOf, Session.transferred, hrouted]

end RecordFlow.Bulk
