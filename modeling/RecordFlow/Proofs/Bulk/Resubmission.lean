import RecordFlow.Proofs.Bulk.BatchSize
import RecordFlow.Proofs.Bulk.Conservation

/-!
# Submitting again

What a record contributes to a payload is told by its content and its attributes, which
no trigger changes.  So the records of a submission can be queued again as they came out
of the routing log, marked or not: none of them is left out, and the payload is the same.
-/

namespace RecordFlow.Bulk

namespace Config

variable (config : Config)

theorem linesOf_unmarked (r : Record) : config.linesOf (unmarked r) = config.linesOf r := rfl

theorem accepts_unmarked (r : Record) : config.accepts (unmarked r) = config.accepts r := rfl

/-- Records that were left out contribute no lines. -/
theorem join_linesOf_filter (records : List Record) :
    String.join ((records.filter config.accepts).map config.linesOf) =
      String.join (records.map config.linesOf) := by
  induction records with
  | nil => rfl
  | cons r records ih =>
    rw [List.map_cons, String.join_cons, ← ih]
    by_cases haccepts : config.accepts r = true
    · rw [List.filter_cons_of_pos haccepts, List.map_cons, String.join_cons]
    · rw [List.filter_cons_of_neg haccepts, linesOf_of_not_accepts (Bool.eq_false_iff.2 haccepts),
        String.empty_append]

theorem exclusions_eq_nil {config : Config} {s : Session} (h : config.leftOut s = []) :
    config.exclusions s = [] := by
  rw [leftOut, ← excluded_request] at h
  exact List.map_eq_nil_iff.1 h

end Config

/-! ## Records of the same content and attributes -/

section

variable {config : Config} {records others : List Record}

theorem map_linesOf_congr (h : others.map unmarked = records.map unmarked) :
    others.map config.linesOf = records.map config.linesOf := by
  have hlines (rs : List Record) : (rs.map unmarked).map config.linesOf =
      rs.map config.linesOf := by
    rw [List.map_map]
    exact List.map_congr_left fun r _ => config.linesOf_unmarked r
  rw [← hlines others, h, hlines]

theorem accepts_congr (h : others.map unmarked = records.map unmarked)
    (hrecords : ∀ r ∈ records, config.accepts r = true) :
    ∀ r ∈ others, config.accepts r = true := by
  intro r hr
  have hmem : unmarked r ∈ records.map unmarked := by
    rw [← h]
    exact List.mem_map_of_mem hr
  obtain ⟨r', hr', hsame⟩ := List.mem_map.1 hmem
  rw [← config.accepts_unmarked, ← hsame, config.accepts_unmarked]
  exact hrecords r' hr'

end

/-! ## The second trigger -/

namespace Writer

variable {config : Config} {s : Session} {records : List Record}

/-- A session in which the survivors of a batch wait again. -/
theorem batch_again (h : records.map unmarked = (config.survivors s).map unmarked) :
    config.batch (Session.enqueueAll {} records) = records := by
  have hlength : records.length = (config.survivors s).length := by
    rw [← List.length_map unmarked, h, List.length_map]
  have hsize : (config.survivors s).length ≤ config.batchSize :=
    (List.length_filter_le _ _).trans (List.length_take_le _ _)
  exact List.take_of_length_le (hlength.trans_le hsize)

theorem survivors_again (h : records.map unmarked = (config.survivors s).map unmarked) :
    config.survivors (Session.enqueueAll {} records) = records ∧
      config.leftOut (Session.enqueueAll {} records) = [] := by
  have haccepts : ∀ r ∈ records, config.accepts r = true :=
    accepts_congr h fun r hr => (List.mem_filter.1 hr).2
  rw [Config.survivors, Config.leftOut, batch_again h]
  refine ⟨List.filter_eq_self.2 haccepts, List.filter_eq_nil_iff.2 fun r hr => ?_⟩
  rw [haccepts r hr]
  decide

theorem payload_again (h : records.map unmarked = (config.survivors s).map unmarked) :
    payload config (Session.enqueueAll {} records) = payload config s :=
  calc payload config (Session.enqueueAll {} records)
      = String.join (records.map config.linesOf) := by rw [Config.payload_eq, batch_again h]
    _ = String.join ((config.survivors s).map config.linesOf) := by rw [map_linesOf_congr h]
    _ = String.join ((config.batch s).map config.linesOf) := config.join_linesOf_filter _
    _ = payload config s := (config.payload_eq s).symm

/-- An observed trigger that submits something submits the payload of its survivors. -/
theorem payload_of_submitted {endpoint : String} {answer : List Exchange → String → Submission}
    {log : List Exchange} {submitted : String} {submission : Submission}
    (h : (((observed config endpoint answer).trigger s).run log).2 =
      log ++ [⟨submitted, submission⟩]) :
    config.survivors s ≠ [] ∧ payload config s = submitted ∧
      (((observed config endpoint answer).trigger s).run log).1.2 =
        settle config endpoint s submission := by
  have hrun := run_trigger_observed config endpoint answer log s
  by_cases hnone : config.survivors s = []
  · rw [if_pos hnone] at hrun
    rw [hrun] at h
    exact absurd h (by simp)
  · rw [if_neg hnone] at hrun
    rw [hrun] at h
    have hexchange : payload config s = submitted ∧ answer log (payload config s) = submission := by
      simpa using h
    refine ⟨hnone, hexchange.1, ?_⟩
    rw [hrun, ← hexchange.2]

/-- Submitting again is faithful.  However a submission ended, its records come out last in
the routing log; queued again in this order, as they came out, they are all part of the
next submission, and its payload is the same text. -/
theorem trigger_resubmits (config : Config) (endpoint : String)
    (answer : List Exchange → String → Submission) (log : List Exchange) (s : Session)
    {submitted : String} {submission : Submission}
    (hsubmitted : (((observed config endpoint answer).trigger s).run log).2 =
      log ++ [⟨submitted, submission⟩]) :
    let after := (((observed config endpoint answer).trigger s).run log).1.2
    ∃ fresh, after.routed.toList =
        s.routed.toList ++ (config.leftOut s).map (fun r => (failure, r)) ++ fresh ∧
      List.Forall₂ Handed (config.survivors s) fresh ∧
      ∀ (endpoint' : String) (answer' : List Exchange → String → Submission)
        (log' : List Exchange),
        let again := Session.enqueueAll {} (fresh.map Prod.snd)
        config.exclusions again = [] ∧
        (((observed config endpoint' answer').trigger again).run log').2 =
          log' ++ [⟨submitted, answer' log' submitted⟩] := by
  intro after
  obtain ⟨hsome, rfl, hafter⟩ := payload_of_submitted hsubmitted
  obtain ⟨fresh, hrouted, hhanded⟩ := (handles_settle config endpoint s submission).routed
  rw [← hafter, ← List.append_assoc] at hrouted
  refine ⟨fresh, hrouted, hhanded, fun endpoint' answer' log' => ?_⟩
  intro again
  have hsame : (fresh.map Prod.snd).map unmarked = (config.survivors s).map unmarked :=
    map_unmarked_of_handed hhanded
  obtain ⟨hsurvivors, hleft⟩ := survivors_again hsame
  have hwaiting : config.survivors again ≠ [] := by
    rw [hsurvivors]
    rintro hnil
    rw [hnil, List.map_nil, eq_comm, List.map_eq_nil_iff] at hsame
    exact hsome hsame
  refine ⟨Config.exclusions_eq_nil hleft, ?_⟩
  rw [run_trigger_observed, if_neg hwaiting, payload_again hsame]

/-- The submission of three documents fails on its way, and they are queued again with their
marks.  The record that was left out before is not. -/
theorem mixedQueue_resubmits :
    let writer := observed docs "e" fun _ _ => .transportError "connection refused"
    let first := (writer.trigger mixedQueue).run []
    let again := Session.enqueueAll {} [(textRecord "1").penalize, (textRecord "2").penalize,
      (textRecord "3").penalize]
    first.2 = [⟨payload docs mixedQueue, .transportError "connection refused"⟩] ∧
    first.1.2.routed.toList =
      (failure, { content := [0xFF] }) :: again.queue.map (fun r => (failure, r)) ∧
    docs.exclusions again = [] ∧ ((writer.trigger again).run []).2 = first.2 := by
  intro writer first again
  obtain ⟨hsurvivors, hleft⟩ := split_mixedQueue
  have hrun : first = _ := run_trigger_observed docs "e" _ [] mixedQueue
  rw [hsurvivors, if_neg (by simp)] at hrun
  have hsubmitted : first.2 =
      [] ++ [⟨payload docs mixedQueue, .transportError "connection refused"⟩] := by
    rw [hrun]
  have hlog : first.1.2.routed.toList =
      (failure, { content := [0xFF] }) :: again.queue.map (fun r => (failure, r)) := by
    rw [hrun]
    simp only [settle, setAside, hsurvivors, hleft, Session.routed_extend]
    rfl
  obtain ⟨fresh, hrouted, -, hagain⟩ := trigger_resubmits docs "e" _ [] mixedQueue hsubmitted
  have hfresh : fresh = again.queue.map fun r => (failure, r) := by
    rw [hleft] at hrouted
    exact (List.cons.inj (hrouted.symm.trans hlog)).2
  rw [hfresh, List.map_map] at hagain
  obtain ⟨hexclusions, hsecond⟩ := hagain "e" (fun _ _ => .transportError "connection refused") []
  exact ⟨hsubmitted, hlog, hexclusions, hsecond.trans hsubmitted.symm⟩

end Writer

end RecordFlow.Bulk
