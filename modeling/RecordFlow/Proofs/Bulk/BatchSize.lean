import RecordFlow.Proofs.Bulk.Pairing
import RecordFlow.Proofs.Run
import Mathlib

/-!
# Batches do not show

How many records a trigger takes decides how a queue is cut into submissions, and
nothing else.  A run that drains the queue submits the same bytes and excludes the same
records for the same reasons, whatever the size of its batches and whatever the backend
answers.  If the backend accepts everything, the outputs and deliveries are the same too.
-/

namespace RecordFlow.Bulk

/-! ## What a batch contributes -/

/-- The records that a trigger excludes, and why. -/
def Config.exclusions (config : Config) (s : Session) : List (Record × Exclusion) :=
  (config.request (config.batch s)).excluded

def Config.linesOf (config : Config) (r : Record) : String := (config.pushOf r).lines

def Config.excludes? (config : Config) (r : Record) : Option (Record × Exclusion) :=
  (config.pushOf r).setAside?

theorem Config.excluded_eq (config : Config) (records : List Record) :
    (config.request records).excluded = records.filterMap config.excludes? := by
  rw [request_eq, pushAll_eq]
  exact (List.nil_append _).trans List.filterMap_map

theorem Config.payload_eq (config : Config) (s : Session) :
    Writer.payload config s = String.join ((config.batch s).map config.linesOf) :=
  config.payload_request (config.batch s)

theorem Config.linesOf_of_not_accepts {config : Config} {r : Record}
    (h : config.accepts r = false) : config.linesOf r = "" := by
  rw [accepts, Push.survives] at h
  rw [linesOf, Push.lines]
  cases hentry : (config.pushOf r).entry with
  | ok e =>
    rw [hentry] at h
    cases h
  | error exclusion => rfl

theorem join_map_eq_empty {records : List Record} {f : Record → String}
    (h : ∀ r ∈ records, f r = "") : String.join (records.map f) = "" := by
  induction records with
  | nil => rfl
  | cons r records ih =>
    rw [List.map_cons, String.join_cons, h r List.mem_cons_self,
      ih fun other hother => h other (List.mem_cons_of_mem r hother)]
    rfl

/-- A batch without survivors contributes no lines. -/
theorem Config.join_linesOf_of_survivors {config : Config} {s : Session}
    (h : config.survivors s = []) :
    String.join ((config.batch s).map config.linesOf) = "" := by
  apply join_map_eq_empty
  intro r hr
  apply linesOf_of_not_accepts
  exact Bool.eq_false_iff.2 (List.filter_eq_nil_iff.1 h r hr)

/-! ## Accepted submissions -/

/-- The backend answered with success and reported no errors. -/
def Submission.Accepted (submission : Submission) : Prop :=
  ∃ reply response, submission = .reply reply ∧
    200 ≤ reply.status.toNat ∧ reply.status.toNat ≤ 299 ∧
    Json.decodeBytes Response.shape.decoder reply.body = .ok response ∧ response.errors = false

/-- All records of an accepted submission succeed. -/
theorem reconcile_of_accepted {R : Type} {submission : Submission} (h : submission.Accepted)
    (pending : List R) : reconcile pending submission = uniform pending .success false false := by
  obtain ⟨reply, response, rfl, hlow, hhigh, hresponse, herrors⟩ := h
  rw [reconcile_of_means pending (.unlisted ⟨⟨hlow, hhigh⟩, hresponse⟩ herrors), uniform_eq_mapIdx]

/-! ## Triggers -/

/-- Between two sessions records were taken from the queue, in batches.  What was
submitted and what was excluded is told by these records one by one, and so is what
became of them if all was accepted. -/
structure Writes (config : Config) (endpoint : String) (taken : List Record) (s s' : Session)
    (found : List Session) (exchanges : List Exchange) : Prop where
  queue : s.queue = taken ++ s'.queue
  payloads : String.join (exchanges.map Exchange.payload) =
    String.join (taken.map config.linesOf)
  exclusions : found.flatMap config.exclusions = taken.filterMap config.excludes?
  accepted : (∀ e ∈ exchanges, e.submission.Accepted) →
    s'.transferred success.name = s.transferred success.name ++ taken.filter config.accepts ∧
    s'.transferred failure.name =
      s.transferred failure.name ++ taken.filter (fun r => !config.accepts r) ∧
    s'.deliveries.toList =
      s.deliveries.toList ++ (taken.filter config.accepts).map (Delivery.mk endpoint)

section

variable {config : Config} {endpoint : String}

theorem Writes.refl (s : Session) : Writes config endpoint [] s s [] [] where
  queue := rfl
  payloads := rfl
  exclusions := rfl
  accepted := fun _ => ⟨(List.append_nil _).symm, (List.append_nil _).symm,
    (List.append_nil _).symm⟩

theorem Writes.trans {s₁ s₂ s₃ : Session} {taken more : List Record}
    {found later : List Session} {exchanges further : List Exchange}
    (h : Writes config endpoint taken s₁ s₂ found exchanges)
    (h' : Writes config endpoint more s₂ s₃ later further) :
    Writes config endpoint (taken ++ more) s₁ s₃ (found ++ later) (exchanges ++ further) where
  queue := by rw [h.queue, h'.queue, List.append_assoc]
  payloads := by
    rw [List.map_append, List.map_append, String.join_append, String.join_append, h.payloads,
      h'.payloads]
  exclusions := by
    rw [List.flatMap_append, List.filterMap_append, h.exclusions, h'.exclusions]
  accepted := fun hall => by
    obtain ⟨hsuccess, hfailure, hevents⟩ :=
      h.accepted fun e he => hall e (List.mem_append_left _ he)
    obtain ⟨hsuccess', hfailure', hevents'⟩ :=
      h'.accepted fun e he => hall e (List.mem_append_right _ he)
    refine ⟨?_, ?_, ?_⟩
    · rw [hsuccess', hsuccess, List.filter_append, List.append_assoc]
    · rw [hfailure', hfailure, List.filter_append, List.append_assoc]
    · rw [hevents', hevents, List.filter_append, List.map_append, List.append_assoc]

variable (config) in
/-- Routing the records left out adds them to `failure` and nothing else. -/
theorem transferred_setAside (s : Session) :
    (Writer.setAside config s).transferred success.name = s.transferred success.name ∧
    (Writer.setAside config s).transferred failure.name =
      s.transferred failure.name ++ config.leftOut s := by
  rw [Writer.setAside, Session.transferred_extend_map, Session.transferred_extend_map,
    if_neg (by decide), if_pos rfl, List.append_nil]
  exact ⟨rfl, rfl⟩

theorem writes_setAside {s : Session} (h : config.survivors s = []) :
    Writes config endpoint (config.batch s) s (Writer.setAside config s) [s] [] where
  queue := (List.take_append_drop config.batchSize s.queue).symm
  payloads := (config.join_linesOf_of_survivors h).symm
  exclusions :=
    (List.flatMap_singleton config.exclusions s).trans (config.excluded_eq (config.batch s))
  accepted := fun _ => by
    obtain ⟨hsuccess, hfailure⟩ := transferred_setAside config s
    refine ⟨?_, hfailure, ?_⟩
    · rw [hsuccess, ← Config.survivors, h, List.append_nil]
    · rw [← Config.survivors, h]
      exact Session.deliveries_extend _ _ _

/-- The survivors of an accepted submission are delivered and succeed. -/
theorem settle_of_accepted {submission : Submission} (h : submission.Accepted) (s : Session) :
    Writer.settle config endpoint s submission =
      (Writer.setAside config s).extend ((config.survivors s).map fun r => (success, r))
        ((config.survivors s).map (Delivery.mk endpoint)) := by
  rw [Writer.settle, reconcile_of_accepted h, uniform, List.map_map, List.flatMap_map,
    List.map_eq_flatMap (f := Delivery.mk endpoint)]
  rfl

theorem writes_settle (s : Session) (submission : Submission) :
    Writes config endpoint (config.batch s) s (Writer.settle config endpoint s submission) [s]
      [⟨Writer.payload config s, submission⟩] where
  queue := (List.take_append_drop config.batchSize s.queue).symm
  payloads := by
    rw [List.map_singleton, String.join_cons, String.join_nil, String.append_empty]
    exact config.payload_eq s
  exclusions :=
    (List.flatMap_singleton config.exclusions s).trans (config.excluded_eq (config.batch s))
  accepted := fun hall => by
    have haccepted : submission.Accepted := hall _ List.mem_cons_self
    obtain ⟨hsuccess, hfailure⟩ := transferred_setAside config s
    rw [settle_of_accepted haccepted, Session.transferred_extend_map,
      Session.transferred_extend_map, if_pos rfl, if_neg (by decide), List.append_nil, hsuccess,
      Session.deliveries_extend, Writer.setAside, Session.deliveries_extend, List.append_nil]
    exact ⟨rfl, hfailure, rfl⟩

variable (config endpoint) in
/-- A trigger writes its batch. -/
theorem writes_trigger (answer : List Exchange → String → Submission) (log : List Exchange)
    (s : Session) :
    let outcome := ((Writer.observed config endpoint answer).trigger s).run log
    ∃ fresh, outcome.2 = log ++ fresh ∧
      Writes config endpoint (config.batch s) s outcome.1.2 [s] fresh := by
  intro outcome
  have hrun : outcome = _ := Writer.run_trigger_observed config endpoint answer log s
  by_cases hnone : config.survivors s = []
  · rw [if_pos hnone] at hrun
    rw [hrun]
    exact ⟨[], (List.append_nil _).symm, writes_setAside hnone⟩
  · rw [if_neg hnone] at hrun
    rw [hrun]
    exact ⟨_, rfl, writes_settle s _⟩

/-! ## Runs -/

variable (config endpoint) in
/-- The loop of a run writes what its triggers take, `batchSize` records each. -/
theorem writes_triggerWhileQueued (answer : List Exchange → String → Submission) (limit : Nat)
    (tally : Tally) (seen : List Session) (s : Session) (log : List Exchange) :
    let outcome := (triggerWhileQueued (Writer.processor (StateM (List Exchange))).remembering
      (pure ()) limit tally (seen, Writer.observed config endpoint answer) s).run log
    ∃ found fresh, outcome.1.2.1.1 = seen ++ found ∧ outcome.2 = log ++ fresh ∧
      Writes config endpoint (s.queue.take (limit * config.batchSize)) s outcome.1.2.2 found
        fresh := by
  induction limit generalizing tally seen s log with
  | zero =>
    rw [Nat.zero_mul, List.take_zero]
    exact ⟨[], [], (List.append_nil _).symm, (List.append_nil _).symm, .refl s⟩
  | succ limit ih =>
    by_cases hqueue : s.queue = []
    · rw [triggerWhileQueued_of_empty hqueue, hqueue, List.take_nil]
      exact ⟨[], [], (List.append_nil _).symm, (List.append_nil _).symm, .refl s⟩
    · obtain ⟨fresh, hlog, hbatch⟩ := writes_trigger config endpoint answer log s
      let outcome := ((Writer.observed config endpoint answer).trigger s).run log
      have htrigger : ((Writer.processor (StateM (List Exchange))).trigger
          (Writer.observed config endpoint answer) s).run log =
          ((.ok outcome.1.1, Writer.observed config endpoint answer, outcome.1.2), outcome.2) :=
        rfl
      rw [triggerWhileQueued_remembering hqueue, htrigger]
      obtain ⟨found, later, hfound, hlater, hrest⟩ :=
        ih (tally.count (.ok outcome.1.1)) (seen ++ [s]) outcome.1.2 outcome.2
      have htaken : s.queue.take ((limit + 1) * config.batchSize) =
          config.batch s ++ outcome.1.2.queue.take (limit * config.batchSize) := by
        have hdrop : outcome.1.2.queue = s.queue.drop config.batchSize :=
          List.append_cancel_left
            (hbatch.queue.symm.trans (List.take_append_drop config.batchSize s.queue).symm)
        rw [hdrop, Nat.succ_mul, Nat.add_comm, List.take_add, Config.batch]
      refine ⟨[s] ++ found, fresh ++ later, ?_, ?_, htaken ▸ hbatch.trans hrest⟩
      · rw [hfound, List.append_assoc]
      · rw [hlater, hlog, List.append_assoc]

end

/-- What is seen of a run: the session that it leaves, the submissions and their answers, and
the records that were excluded, with the reasons. -/
structure Observation where
  session : Session
  exchanges : List Exchange
  exclusions : List (Record × Exclusion)

/-- Observe a run of a writer with this configuration on a session, from its first submission
on.  The exclusions are those of the triggers that the run makes. -/
def observe (config : Config) (endpoint : String) (answer : List Exchange → String → Submission)
    (limit : Nat) (s : Session) : Observation :=
  let writer := Writer.observed config endpoint answer
  let p := Writer.processor (StateM (List Exchange))
  let outcome := (run p (pure ()) limit writer s).run []
  let remembered := (run p.remembering (pure ()) limit ([], writer) s).run []
  { session := outcome.1.2.2
    exchanges := outcome.2
    exclusions := remembered.1.2.1.1.flatMap config.exclusions }

/-- What is seen of a run that drains the queue, told by the records of the queue. -/
theorem writes_observe (config : Config) (endpoint : String)
    (answer : List Exchange → String → Submission) {limit : Nat} {s : Session}
    (hlimit : s.queue.length ≤ limit * config.batchSize) :
    ∃ found, (observe config endpoint answer limit s).exclusions =
        found.flatMap config.exclusions ∧
      Writes config endpoint s.queue s (observe config endpoint answer limit s).session found
        (observe config endpoint answer limit s).exchanges := by
  obtain ⟨found, fresh, hfound, hfresh, hwrites⟩ :=
    writes_triggerWhileQueued config endpoint answer limit {} [] s []
  have hforget := forget_run_remembering (Writer.processor (StateM (List Exchange))) (pure ())
    limit [] (Writer.observed config endpoint answer) s []
  rw [List.take_of_length_le hlimit] at hwrites
  rw [List.nil_append] at hfound hfresh
  refine ⟨found, congrArg (List.flatMap config.exclusions) hfound, ?_⟩
  rw [observe]
  simp only [← hforget]
  exact hfresh ▸ hwrites

/-- The answers that are seen are those of the backend. -/
theorem answered_observe (config : Config) (endpoint : String)
    (answer : List Exchange → String → Submission) (limit : Nat) (s : Session) :
    ∀ e ∈ (observe config endpoint answer limit s).exchanges,
      ∃ log, e.submission = answer log e.payload := by
  let Answered (log : List Exchange) : Prop :=
    ∀ e ∈ log, ∃ earlier, e.submission = answer earlier e.payload
  have hQ : Kept (Writer.processor (StateM (List Exchange))) (pure ())
      (Writer.observed config endpoint answer)
      fun before after => Answered before.2 → Answered after.2 := by
    refine ⟨fun _ => id, fun _ _ _ h h' => h' ∘ h, fun _ _ => rfl, ?_, fun _ _ => id⟩
    intro s log outcome hlog
    have hworld : outcome.2 = (((Writer.observed config endpoint answer).trigger s).run log).2 :=
      rfl
    rw [hworld, Writer.run_trigger_observed]
    by_cases hnone : config.survivors s = []
    · rwa [if_pos hnone]
    · rw [if_neg hnone]
      intro e he
      rcases List.mem_append.1 he with he | he
      · exact hlog e he
      · rw [List.mem_singleton.1 he]
        exact ⟨log, rfl⟩
  exact hQ.run limit s [] fun _ he => by cases he

/-- Two runs that drain the same queue with batches of different sizes submit the same bytes
and exclude the same records for the same reasons, namely those of one request for the
whole queue, whatever the answers are.  If all submissions are accepted, the records at
both outputs and the deliveries are the same as well. -/
theorem observe_indep_batchSize (config : Config) (endpoint : String) {s : Session}
    {size size' limit limit' : Nat} (hlimit : s.queue.length ≤ limit * size)
    (hlimit' : s.queue.length ≤ limit' * size')
    (answer answer' : List Exchange → String → Submission) :
    let a := observe { config with batchSize := size } endpoint answer limit s
    let b := observe { config with batchSize := size' } endpoint answer' limit' s
    (a.session.queue = [] ∧ b.session.queue = []) ∧
    String.join (a.exchanges.map Exchange.payload) = (config.request s.queue).payload ∧
    String.join (b.exchanges.map Exchange.payload) =
      String.join (a.exchanges.map Exchange.payload) ∧
    a.exclusions = (config.request s.queue).excluded ∧ b.exclusions = a.exclusions ∧
    ((∀ e ∈ a.exchanges, e.submission.Accepted) → (∀ e ∈ b.exchanges, e.submission.Accepted) →
      b.session.transferred success.name = a.session.transferred success.name ∧
      b.session.transferred failure.name = a.session.transferred failure.name ∧
      b.session.deliveries = a.session.deliveries) := by
  intro a b
  obtain ⟨found, hexclusions, ha⟩ :=
    writes_observe { config with batchSize := size } endpoint answer hlimit
  obtain ⟨found', hexclusions', hb⟩ :=
    writes_observe { config with batchSize := size' } endpoint answer' hlimit'
  -- Neither the lines of a record nor its exclusion depend on the size of batches.
  have hpayload : (config.request s.queue).payload =
      String.join (s.queue.map config.linesOf) := config.payload_request s.queue
  have hexcluded : (config.request s.queue).excluded = s.queue.filterMap config.excludes? :=
    config.excluded_eq s.queue
  refine ⟨⟨?_, ?_⟩, ha.payloads.trans hpayload.symm, hb.payloads.trans ha.payloads.symm,
    (hexclusions.trans ha.exclusions).trans hexcluded.symm,
    (hexclusions'.trans hb.exclusions).trans (hexclusions.trans ha.exclusions).symm, ?_⟩
  · exact List.self_eq_append_right.1 ha.queue
  · exact List.self_eq_append_right.1 hb.queue
  · intro haccepted haccepted'
    obtain ⟨hsuccess, hfailure, hevents⟩ := ha.accepted haccepted
    obtain ⟨hsuccess', hfailure', hevents'⟩ := hb.accepted haccepted'
    exact ⟨hsuccess'.trans hsuccess.symm, hfailure'.trans hfailure.symm,
      Array.toList_inj.1 (hevents'.trans hevents.symm)⟩

def flawless : Http.Reply where
  status := 200
  body := Utf8.encode "\x7b\"errors\":false\x7d"

theorem accepted_flawless : (Submission.reply flawless).Accepted := by
  have hresponse : Json.decodeBytes Response.shape.decoder flawless.body = .ok ⟨false, []⟩ := by
    cbv
  exact ⟨flawless, _, rfl, by decide, by decide, hresponse, rfl⟩

/-- A queue of four records, one of which is excluded, in batches of one and of three. -/
theorem mixedQueue_indep_batchSize :
    let queue := Writer.mixedQueue
    let a := observe { Writer.docs with batchSize := 1 } "e" (fun _ _ => .reply flawless) 4 queue
    let b := observe { Writer.docs with batchSize := 3 } "e" (fun _ _ => .reply flawless) 2 queue
    String.join (b.exchanges.map Exchange.payload) =
      String.join (a.exchanges.map Exchange.payload) ∧
    b.exclusions = a.exclusions ∧
    b.session.transferred success.name = a.session.transferred success.name ∧
    b.session.deliveries = a.session.deliveries := by
  intro queue a b
  have haccepted (config : Config) (limit : Nat) :
      ∀ e ∈ (observe config "e" (fun _ _ => .reply flawless) limit queue).exchanges,
        e.submission.Accepted := by
    intro e he
    obtain ⟨log, hanswer⟩ := answered_observe config "e" _ limit queue e he
    rw [hanswer]
    exact accepted_flawless
  have hlimit : queue.queue.length ≤ 4 * 1 := by decide
  have hlimit' : queue.queue.length ≤ 2 * 3 := by decide
  obtain ⟨-, -, hpayloads, -, hexclusions, hall⟩ := observe_indep_batchSize Writer.docs "e"
    hlimit hlimit' (fun _ _ => .reply flawless) (fun _ _ => .reply flawless)
  obtain ⟨hsuccess, -, hdeliveries⟩ := hall (haccepted _ 4) (haccepted _ 2)
  exact ⟨hpayloads, hexclusions, hsuccess, hdeliveries⟩

end RecordFlow.Bulk
