import RecordFlow.Proofs.Bulk.Batch
import RecordFlow.Proofs.Bulk.Framing
import Mathlib

/-!
# Items and entries go together

When a reply reports errors, its items are about the entries of the payload by position.
The payload and the items are made apart from each other, and records of the batch that
were left out have neither an entry nor an item.
-/

namespace RecordFlow.Bulk

/-- Where an item sends its record; a record without an item succeeded. -/
def verdict : Option Json → Output
  | none => success
  | some item =>
    let status := (Item.ofJson item).status.toNat
    if 200 ≤ status ∧ status ≤ 299 then success else failure

theorem entryOf_routeOf (r : Record) (item? : Option Json) :
    entryOf false (r, routeOf item?) = (verdict item?, r) := by
  cases item? with
  | none => rfl
  | some item =>
    rw [routeOf, Item.route, verdict]
    by_cases hstatus : isSuccess (Item.ofJson item).status = true
    · rw [if_pos hstatus, if_pos ((isSuccess_iff _).1 hstatus)]
      rfl
    · rw [if_neg hstatus, if_neg fun h => hstatus ((isSuccess_iff _).2 h)]
      rfl

/-- Each record is sent where the item in its place says. -/
theorem map_entryOf_routeOf (records : List Record) (items : List Json) :
    (records.mapIdx fun k r => (r, routeOf items[k]?)).map (entryOf false) =
      records.mapIdx fun k r => (verdict items[k]?, r) := by
  apply List.ext_getElem?
  intro k
  rw [List.getElem?_map, List.getElem?_mapIdx, List.getElem?_mapIdx, Option.map_map]
  exact congrFun (congrArg Option.map (funext fun r => entryOf_routeOf r items[k]?)) _

namespace Writer

/-- The payload of a batch is read as one entry for each survivor. -/
theorem readPayload?_payload (config : Config) (s : Session) :
    ∃ entries, readPayload? (Utf8.encode (payload config s)) = some entries ∧
      List.Forall₂ (fun e r => e.Describes (config.resolve r) r.content) entries
        (config.survivors s) := by
  obtain ⟨entries, hread, hdescribes⟩ := readPayload?_lines ((config.batch s).map config.pushOf)
  refine ⟨entries, ?_, ?_⟩
  · rw [payload, Config.payload_request]
    rwa [List.map_map] at hread
  · rw [List.filter_map] at hdescribes
    exact List.forall₂_map_right_iff.1 hdescribes

/-- The record of the `k`-th entry of a submitted payload is routed by the `k`-th item of
a reply that reports errors, and by nothing else in it.  Records without an item succeed,
and records that were left out fail without taking an item. -/
theorem trigger_pairs_items (config : Config) (endpoint : String)
    (answer : List Exchange → String → Submission) (log : List Exchange) (s : Session)
    {submitted : String} {reply : Http.Reply} {response : Response}
    (hsubmitted : (((observed config endpoint answer).trigger s).run log).2 =
      log ++ [⟨submitted, .reply reply⟩])
    (hstatus : 200 ≤ reply.status.toNat ∧ reply.status.toNat ≤ 299)
    (hresponse : Json.decodeBytes Response.shape.decoder reply.body = .ok response)
    (herrors : response.errors = true) :
    let after := (((observed config endpoint answer).trigger s).run log).1.2
    ∃ entries, readPayload? (Utf8.encode submitted) = some entries ∧
      List.Forall₂ (fun e r => e.Describes (config.resolve r) r.content) entries
        (config.survivors s) ∧
      after.routed.toList = s.routed.toList ++ (config.leftOut s).map (fun r => (failure, r)) ++
        (config.survivors s).mapIdx fun k r => (verdict response.items[k]?, r) := by
  intro after
  have hrun := run_trigger_observed config endpoint answer log s
  by_cases hnone : config.survivors s = []
  · rw [if_pos hnone] at hrun
    rw [hrun] at hsubmitted
    exact absurd hsubmitted (by simp)
  · rw [if_neg hnone] at hrun
    have hexchange : payload config s = submitted ∧
        answer log (payload config s) = .reply reply := by
      rw [hrun] at hsubmitted
      simpa using hsubmitted
    obtain ⟨rfl, hanswer⟩ := hexchange
    obtain ⟨entries, hread, hdescribes⟩ := readPayload?_payload config s
    refine ⟨entries, hread, hdescribes, ?_⟩
    have hafter : after = settle config endpoint s (.reply reply) := by
      rw [← hanswer]
      exact congrArg (fun outcome => outcome.1.2) hrun
    rw [hafter, settle, reconcile_of_means _ (.listed ⟨hstatus, hresponse⟩ herrors)]
    simp only [setAside, Session.routed_extend, map_entryOf_routeOf]

/-! ### A mixed batch -/

def docs : Config := { url := "http://localhost:9200", index := ⟨"docs"⟩ }

def textRecord (text : String) : Record := { content := Utf8.encode text }

/-- Three documents, and between them a record that is not UTF-8. -/
def mixedQueue : Session :=
  { queue := [textRecord "1", { content := [0xFF] }, textRecord "2", textRecord "3"] }

/-- A reply with items for two entries, of which the second one failed. -/
def secondFails : Http.Reply where
  status := 200
  body := Utf8.encode
    "\x7b\"errors\":true,\"items\":[\x7b\"status\":201\x7d,\x7b\"status\":409\x7d]\x7d"

theorem resolve_docs (r : Record) : docs.resolve r = { index := "docs", kind := "index" } := by
  have hindex : Template.segments ⟨"docs"⟩ = [.literal "docs"] := by cbv
  have hkind : Template.segments ⟨"index"⟩ = [.literal "index"] := by cbv
  have hcharset : Template.segments ⟨"UTF-8"⟩ = [.literal "UTF-8"] := by cbv
  simp only [docs, Config.resolve, Template.render, hindex, hkind, hcharset]
  rfl

theorem accepts_docs (r : Record) : docs.accepts r = (Utf8.decode? r.content).isSome := by
  have hcharset : Charset.ofLabel? "UTF-8" = some .utf8 := rfl
  have hcheck : Operation.check { index := "docs", kind := "index" } = .ok (.index, none) := rfl
  rw [Config.accepts, Push.survives, Config.pushOf, Push.entry, resolve_docs]
  simp only [entry, hcheck, hcharset, body, document, Charset.decode?]
  cases Utf8.decode? r.content <;> rfl

theorem split_mixedQueue :
    docs.survivors mixedQueue = [textRecord "1", textRecord "2", textRecord "3"] ∧
      docs.leftOut mixedQueue = [{ content := [0xFF] }] := by
  have hbatch : docs.batch mixedQueue = mixedQueue.queue := rfl
  have hbroken : Utf8.decode? [0xFF] = none := by cbv
  rw [Config.survivors, Config.leftOut, hbatch]
  simp [mixedQueue, accepts_docs, textRecord, hbroken]

/-- The item of the second entry is about the third record: the second one is not part of
the payload.  The last record has no item. -/
theorem mixedQueue_pairs_items :
    let writer := observed docs "http://localhost:9200/_bulk" fun _ _ => .reply secondFails
    ((writer.trigger mixedQueue).run []).1.2.routed.toList =
      [(failure, { content := [0xFF] }), (success, textRecord "1"), (failure, textRecord "2"),
        (success, textRecord "3")] := by
  intro writer
  obtain ⟨hsurvivors, hleft⟩ := split_mixedQueue
  have hsubmitted : ((writer.trigger mixedQueue).run []).2 =
      [] ++ [⟨payload docs mixedQueue, .reply secondFails⟩] := by
    rw [run_trigger_observed, hsurvivors]
    rfl
  have hresponse : Json.decodeBytes Response.shape.decoder secondFails.body =
      .ok ⟨true, [.object [("status", .number (.natural 201))],
        .object [("status", .number (.natural 409))]]⟩ := by
    cbv
  obtain ⟨-, -, -, hrouted⟩ :=
    trigger_pairs_items docs _ _ [] mixedQueue hsubmitted (by decide) hresponse rfl
  rw [hrouted, hsurvivors, hleft]
  rfl

end Writer

end RecordFlow.Bulk
