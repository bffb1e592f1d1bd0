import RecordFlow.Proofs.Bulk.Conservation
import RecordFlow.Proofs.Bulk.Pairing
import RecordFlow.Proofs.Bulk.Validation
import RecordFlow.Proofs.Run.Progress

/-!
# When the bulk writer backs off

A run cuts its queue into batches.  What survives of a batch is submitted, if anything
does, and the answer to this submission alone decides whether the host pauses.  A batch
that is left out as a whole takes no answer, so answers and batches do not go together by
position; but the answers alone tell how often a run yields.
-/

namespace RecordFlow.Bulk

/-! ## Batches -/

theorem Handles.queue_eq {config : Config} {s s' : Session} (h : Handles config s s') :
    s'.queue = s.queue.drop config.batchSize :=
  List.append_cancel_left
    (h.queue.symm.trans (List.take_append_drop config.batchSize s.queue).symm)

theorem Writer.takes {World : Type} (writer : Writer (StateM World)) :
    (processor (StateM World)).Takes writer writer.config.batchSize where
  succeeds := fun s world => ⟨((writer.trigger s).run world).1.1, rfl⟩
  stays := fun _ _ => rfl
  queue := fun s world => (handles_trigger writer s world).queue_eq

/-! ## Answers -/

/-- The answers that ask for a pause: a failure of the backend, and a success that cannot
be read. -/
def Submission.backsOff : Submission → Bool
  | .transportError _ => false
  | .reply ⟨status, body⟩ =>
    decide (500 ≤ status.toNat ∧ status.toNat ≤ 599) ||
      decide (200 ≤ status.toNat ∧ status.toNat ≤ 299) &&
        !(Json.decodeBytes Response.shape.decoder body).isOk

/-- Reconciliation asks for a pause by the answer alone. -/
theorem backOff_reconcile {R : Type} (pending : List R) (submission : Submission) :
    (reconcile pending submission).backOff = submission.backsOff := by
  obtain ⟨routes, penalize, backOff, hmeans⟩ := submission.exists_means
  rw [reconcile_of_means pending hmeans]
  cases hmeans with
  | unanswered message => rfl
  | @listed reply response answers _ | @unlisted reply response answers _ =>
    have hserver : ¬ (500 ≤ reply.status.toNat ∧ reply.status.toNat ≤ 599) := by
      have := answers.status
      omega
    simp only [Submission.backsOff, hserver, answers.status, answers.body]
    rfl
  | @unreadable reply problem status body =>
    simp [Submission.backsOff, status, body, Except.isOk, Except.toBool]
  | serverError status =>
    simp only [Submission.backsOff, status]
    rfl
  | refused success server =>
    simp only [Submission.backsOff, success, server]
    rfl

/-! ## Exchanges -/

namespace Config

variable (config : Config) (answer : List Exchange → String → Submission)

/-- The exchange about a batch, after those of the log.  A batch that is left out as a whole
takes no answer. -/
def exchange? (log : List Exchange) (batch : List Record) : Option Exchange :=
  if batch.any config.accepts then
    let payload := (config.request batch).payload
    some ⟨payload, answer log payload⟩
  else none

/-- The exchanges about batches one after another. -/
def exchanges : List Exchange → List (List Record) → List Exchange
  | _, [] => []
  | log, batch :: batches =>
    let fresh := (config.exchange? answer log batch).toList
    fresh ++ exchanges (log ++ fresh) batches

/-- The `k`-th batch that has survivors gets the answer after `k` exchanges. -/
theorem exchanges_eq_mapIdx (log : List Exchange) (batches : List (List Record)) :
    config.exchanges answer log batches =
      (batches.filter fun batch => batch.any config.accepts).mapIdx fun k batch =>
        let payload := (config.request batch).payload
        ⟨payload, answer (log ++ (config.exchanges answer log batches).take k) payload⟩ := by
  induction batches generalizing log with
  | nil => rfl
  | cons batch batches ih =>
    by_cases hany : batch.any config.accepts = true
    · let payload := (config.request batch).payload
      let exchange : Exchange := ⟨payload, answer log payload⟩
      let later := config.exchanges answer (log ++ [exchange]) batches
      have hexchanges : config.exchanges answer log (batch :: batches) = exchange :: later := by
        rw [exchanges, exchange?, if_pos hany]
        rfl
      have hshift (k : Nat) :
          log ++ (exchange :: later).take (k + 1) = (log ++ [exchange]) ++ later.take k := by
        rw [List.take_succ_cons, List.append_cons]
      rw [hexchanges, List.filter_cons, if_pos hany, List.mapIdx_cons]
      simp only [hshift, List.take_zero, List.append_nil]
      exact congrArg (List.cons exchange) (ih (log ++ [exchange]))
    · have hexchanges : config.exchanges answer log (batch :: batches) =
          config.exchanges answer log batches := by
        rw [exchanges, exchange?, if_neg hany, Option.toList_none, List.append_nil,
          List.nil_append]
      rw [hexchanges, List.filter_cons, if_neg hany]
      exact ih log

end Config

/-! ## Triggers -/

/-- What the host should do after an exchange, or after none. -/
def pace : Option Exchange → Scheduling
  | none => .proceed
  | some exchange => if exchange.submission.backsOff then .yield else .proceed

theorem count_pace (tally : Tally) (exchange : Option Exchange) :
    tally.count (.ok (pace exchange)) =
      { triggers := tally.triggers + 1
        yields := tally.yields + exchange.toList.countP (·.submission.backsOff)
        failed := tally.failed } := by
  cases exchange with
  | none => rfl
  | some exchange =>
    rw [pace, Option.toList_some, List.countP_singleton]
    cases exchange.submission.backsOff <;> rfl

section

variable (config : Config) (endpoint : String) (answer : List Exchange → String → Submission)

/-- A trigger makes the exchange about its batch, if there is one, and paces the host by it. -/
theorem Writer.run_trigger_exchange (log : List Exchange) (s : Session) :
    let outcome := ((observed config endpoint answer).trigger s).run log
    let exchange := config.exchange? answer log (config.batch s)
    outcome.1.1 = pace exchange ∧ outcome.2 = log ++ exchange.toList := by
  intro outcome exchange
  have hrun : outcome = _ := run_trigger_observed config endpoint answer log s
  have hsurvivors : (config.batch s).any config.accepts = true ↔ config.survivors s ≠ [] := by
    rw [Config.survivors, Ne, List.filter_eq_nil_iff, List.any_eq_true]
    push Not
    rfl
  by_cases hnone : config.survivors s = []
  · have hexchange : exchange = none := if_neg (mt hsurvivors.1 (not_not_intro hnone))
    rw [if_pos hnone] at hrun
    rw [hrun, hexchange]
    exact ⟨rfl, (List.append_nil log).symm⟩
  · have hexchange : exchange = some ⟨payload config s, answer log (payload config s)⟩ :=
      if_pos (hsurvivors.2 hnone)
    rw [if_neg hnone] at hrun
    rw [hrun, hexchange, pace]
    refine ⟨?_, rfl⟩
    simp only [scheduling, backOff_reconcile]

/-- A trigger yields when its batch has survivors and the answer to their submission backs
off. -/
theorem Writer.yield_iff (log : List Exchange) (s : Session) :
    (((observed config endpoint answer).trigger s).run log).1.1 = .yield ↔
      (config.batch s).any config.accepts = true ∧
        (answer log (payload config s)).backsOff = true := by
  obtain ⟨hpace, -⟩ := run_trigger_exchange config endpoint answer log s
  rw [hpace, Config.exchange?]
  by_cases hany : (config.batch s).any config.accepts = true
  · rw [if_pos hany]
    simp only [pace, hany, payload, true_and]
    cases (answer log (config.request (config.batch s)).payload).backsOff <;> decide
  · rw [if_neg hany]
    simp [pace, hany]

/-! ## Runs -/

/-- The loop of a run makes the exchanges about the chunks of the queue that its limit allows
for, and counts those whose answers back off. -/
theorem triggerWhileQueued_exchanges {config : Config} (hsize : 0 < config.batchSize)
    (limit : Nat) (tally : Tally) (seen : List Session) (s : Session) (log : List Exchange) :
    let outcome := (triggerWhileQueued (Writer.processor (StateM (List Exchange))).remembering
      (pure ()) limit tally (seen, Writer.observed config endpoint answer) s).run log
    let batches := (chunks config.batchSize s.queue).take limit
    let fresh := config.exchanges answer log batches
    (∃ found, outcome.1.2.1.1 = seen ++ found ∧ found.map config.batch = batches) ∧
      outcome.2 = log ++ fresh ∧
      outcome.1.1 =
        { triggers := tally.triggers + batches.length
          yields := tally.yields + fresh.countP (·.submission.backsOff)
          failed := tally.failed } := by
  induction limit generalizing tally seen s log with
  | zero => exact ⟨⟨[], (List.append_nil _).symm, rfl⟩, (List.append_nil _).symm, rfl⟩
  | succ limit ih =>
    by_cases hqueue : s.queue = []
    · rw [triggerWhileQueued_of_empty hqueue, hqueue, chunks_nil, List.take_nil]
      exact ⟨⟨[], (List.append_nil _).symm, rfl⟩, (List.append_nil _).symm, rfl⟩
    · let writer := Writer.observed config endpoint answer
      let outcome := (writer.trigger s).run log
      let exchange := config.exchange? answer log (config.batch s)
      obtain ⟨hpace, hlog⟩ := Writer.run_trigger_exchange config endpoint answer log s
      have hafter : outcome.1.2.queue = s.queue.drop config.batchSize :=
        (handles_trigger writer s log).queue_eq
      have htrigger : ((Writer.processor (StateM (List Exchange))).trigger writer s).run log =
          ((.ok (pace exchange), writer, outcome.1.2), log ++ exchange.toList) := by
        rw [← hpace, ← hlog]
        rfl
      have hchunks : (chunks config.batchSize s.queue).take (limit + 1) =
          config.batch s :: (chunks config.batchSize outcome.1.2.queue).take limit := by
        rw [hafter, chunks_of_ne_nil hsize hqueue, List.take_succ_cons, Config.batch]
      obtain ⟨⟨found, hfound, hbatches⟩, hlater, htally⟩ :=
        ih (tally.count (.ok (pace exchange))) (seen ++ [s]) outcome.1.2 (log ++ exchange.toList)
      rw [triggerWhileQueued_remembering hqueue, htrigger, hchunks]
      refine ⟨⟨s :: found, ?_, ?_⟩, ?_, ?_⟩
      · rw [hfound, List.append_assoc, List.singleton_append]
      · rw [List.map_cons, hbatches]
      · rw [hlater, List.append_assoc]
        rfl
      · rw [htally, count_pace, Config.exchanges, List.countP_append, List.length_cons]
        simp only [Nat.add_assoc, Nat.add_comm 1]
        rfl

/-- In any run of a valid writer, the batches are chunks of the queue, in their order, and all
of them when the run drains the queue.  One payload is submitted for each batch that has
survivors, and the `k`-th one gets the answer of the backend after `k` exchanges.  No
trigger fails, and as many yield as there are answers that back off: each trigger yields by
the answer to its own submission, and goes on when there was none. -/
theorem Writer.yields_by_answers {config : Config} (hvalid : config.validate = .ok ())
    (limit : Nat) (s : Session) :
    let writer := observed config endpoint answer
    let p := processor (StateM (List Exchange))
    let outcome := (run p (pure ()) limit writer s).run []
    let triggered := ((run p.remembering (pure ()) limit ([], writer) s).run []).1.2.1.1
    let batches := triggered.map config.batch
    let exchanges := outcome.2
    batches = (chunks config.batchSize s.queue).take limit ∧
    (outcome.1.2.2.queue = [] → batches = chunks config.batchSize s.queue) ∧
    exchanges =
      ((batches.filter fun batch => batch.any config.accepts).mapIdx fun k batch =>
        let payload := (config.request batch).payload
        ⟨payload, answer (exchanges.take k) payload⟩) ∧
    outcome.1.1.tally =
      { triggers := batches.length
        yields := exchanges.countP (·.submission.backsOff)
        failed := 0 } ∧
    ∀ s log, ((writer.trigger s).run log).1.1 = .yield ↔
      (config.batch s).any config.accepts = true ∧
        (answer log (payload config s)).backsOff = true := by
  intro writer p outcome triggered batches exchanges
  have hsize : 0 < config.batchSize := Config.batchSize_pos_of_validate hvalid
  obtain ⟨⟨found, hfound, htaken⟩, hlog, htally⟩ :=
    triggerWhileQueued_exchanges endpoint answer hsize limit {} [] s []
  obtain ⟨htriggered, hcounts, hexchanges⟩ :=
    run_remembering p (pure ()) limit writer s []
  have hbatches : batches = (chunks config.batchSize s.queue).take limit :=
    (congrArg (List.map config.batch) (htriggered.trans hfound)).trans htaken
  rw [← hbatches] at hlog htally
  have hall : exchanges = config.exchanges answer [] batches := hexchanges.trans hlog
  refine ⟨hbatches, ?_, ?_, ?_, ?_⟩
  · intro hdrained
    obtain ⟨-, -, hleft⟩ := (Writer.takes writer).run hsize (pure ()) limit s []
    exact hbatches.trans (take_chunks_of_drop hsize (hleft.symm.trans hdrained))
  · rw [hall]
    exact config.exchanges_eq_mapIdx answer [] batches
  · rw [hcounts, htally, hall]
    simp only [Nat.zero_add]
  · exact fun s log => Writer.yield_iff config endpoint answer log s

end

/-! ### A backend in trouble -/

def singles : Config := { Writer.docs with batchSize := 1 }

theorem validate_singles : singles.validate = .ok () := by
  have hindex : Template.literal? ⟨"index"⟩ = some "index" := by cbv
  have hcharset : Template.literal? ⟨"UTF-8"⟩ = some "UTF-8" := by cbv
  have hurl : Text.isBlank "http://localhost:9200" = false := by cbv
  have hneeds : Config.needsIdAttribute "index" = false := by cbv
  have hlabel : (some "UTF-8").filter (fun label => (Charset.ofLabel? label).isNone) = none := rfl
  simp [Config.validate, Config.refusal?, singles, Writer.docs, hindex, hcharset, hurl, hneeds,
    hlabel]

/-- An overloaded backend at first, then a reply without a body, then none at all. -/
def troubled (log : List Exchange) (_ : String) : Submission :=
  match log.length with
  | 0 => .reply ⟨503, []⟩
  | 1 => .reply ⟨200, []⟩
  | _ => .transportError "connection refused"

/-- Four records, one of which is left out, are four triggers and three submissions. -/
theorem Writer.yields_when_troubled :
    let writer := observed singles "http://localhost:9200/_bulk" troubled
    let outcome := (run (processor (StateM (List Exchange))) (pure ()) 9 writer mixedQueue).run []
    outcome.1.2.2.queue = [] ∧ outcome.2.length = 3 ∧
      outcome.1.1.tally = { triggers := 4, yields := 2, failed := 0 } := by
  intro writer outcome
  have hdrained : outcome.1.2.2.queue = [] :=
    ((Writer.takes writer).run Nat.one_pos (pure ()) 9 mixedQueue []).2.2
  obtain ⟨-, hbatches, hexchanges, htally, -⟩ :=
    yields_by_answers "http://localhost:9200/_bulk" troubled validate_singles 9 mixedQueue
  have hsubmitted : (chunks 1 mixedQueue.queue).filter (fun batch => batch.any singles.accepts) =
      [[textRecord "1"], [textRecord "2"], [textRecord "3"]] := by
    have hchunks : chunks 1 mixedQueue.queue =
        [[textRecord "1"], [{ content := [0xFF] }], [textRecord "2"], [textRecord "3"]] := rfl
    have haccepts (r : Record) : singles.accepts r = (Utf8.decode? r.content).isSome :=
      accepts_docs r
    have hbroken : Utf8.decode? [0xFF] = none := by cbv
    rw [hchunks]
    simp [haccepts, textRecord, hbroken]
  rw [hbatches hdrained] at hexchanges htally
  replace hexchanges : outcome.2 = [[textRecord "1"], [textRecord "2"], [textRecord "3"]].mapIdx
      fun k batch =>
        let payload := (singles.request batch).payload
        ⟨payload, troubled (outcome.2.take k) payload⟩ := by
    rw [← hsubmitted]
    exact hexchanges
  have hlength : outcome.2.length = 3 := by
    rw [hexchanges]
    rfl
  have hyields : outcome.2.countP (·.submission.backsOff) = 2 := by
    have hoverloaded : (Submission.reply ⟨503, []⟩).backsOff = true := by cbv
    have hunread : (Submission.reply ⟨200, []⟩).backsOff = true := by cbv
    have hunreached : (Submission.transportError "connection refused").backsOff = false := rfl
    rw [hexchanges]
    simp [troubled, hlength, hoverloaded, hunread, hunreached]
  refine ⟨hdrained, hlength, htally.trans ?_⟩
  rw [hyields]
  rfl

end RecordFlow.Bulk
