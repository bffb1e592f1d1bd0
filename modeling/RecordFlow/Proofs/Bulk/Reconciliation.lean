import RecordFlow.Bulk.Reply
import RecordFlow.Proofs.Json.Fields
import RecordFlow.Proofs.Json.Nesting

/-!
# What a submission means for its records

A submission means a route for each place in the request, whatever records stand there, and
whether failed records are marked and the host should pause.  An item of a reply is
about the record in its place only, and about none unless the reply reports errors.
-/

namespace RecordFlow.Bulk

/-! ## Statuses -/

theorem isSuccess_iff (status : UInt16) :
    isSuccess status = true ↔ 200 ≤ status.toNat ∧ status.toNat ≤ 299 := by
  rw [isSuccess, Bool.and_eq_true, decide_eq_true_eq, decide_eq_true_eq, UInt16.le_iff_toNat_le,
    UInt16.lt_iff_toNat_lt]
  exact and_congr Iff.rfl (Nat.lt_succ_iff)

theorem isServerError_iff (status : UInt16) :
    (status / 100 == 5) = true ↔ 500 ≤ status.toNat ∧ status.toNat ≤ 599 := by
  rw [beq_iff_eq, ← UInt16.toNat_inj, UInt16.toNat_div]
  change status.toNat / 100 = 5 ↔ _
  omega

/-! ## Places -/

/-- The route of a record by its item; a record without an item succeeded. -/
def routeOf : Option Json → Route
  | none => .success
  | some item => (Item.ofJson item).route

/-- Records and items are paired by their places. -/
theorem pairItems_eq_mapIdx {R : Type} (pending : List R) (items : List Json) :
    pairItems pending items = pending.mapIdx fun k r => (r, routeOf items[k]?) := by
  induction pending generalizing items with
  | nil => rfl
  | cons r pending ih =>
    cases items with
    | nil =>
      rw [pairItems, ih, List.mapIdx_cons]
      simp only [List.getElem?_nil]
      rfl
    | cons item items =>
      rw [pairItems, ih, List.mapIdx_cons]
      rfl

theorem uniform_eq_mapIdx {R : Type} (pending : List R) (route : Route)
    (penalize backOff : Bool) :
    uniform pending route penalize backOff =
      ⟨pending.mapIdx fun _ r => (r, route), penalize, backOff⟩ := by
  rw [uniform]
  congr 1
  induction pending with
  | nil => rfl
  | cons r pending ih => rw [List.map_cons, List.mapIdx_cons, ih]

/-! ## Submissions -/

/-- The reply is a success with this response in its body. -/
structure Answers (reply : Http.Reply) (response : Response) : Prop where
  status : 200 ≤ reply.status.toNat ∧ reply.status.toNat ≤ 299
  body : Json.decodeBytes Response.shape.decoder reply.body = .ok response

/-- What a submission means: the route of the record at each place, whether failed records
are marked, and whether the host should pause. -/
inductive Submission.Means : Submission → (Nat → Route) → Bool → Bool → Prop
  | unanswered (message : String) :
      Means (.transportError message) (fun _ => .failure message) true false
  | listed {reply : Http.Reply} {response : Response} (answers : Answers reply response)
      (errors : response.errors = true) :
      Means (.reply reply) (fun k => routeOf response.items[k]?) false false
  | unlisted {reply : Http.Reply} {response : Response} (answers : Answers reply response)
      (errors : response.errors = false) :
      Means (.reply reply) (fun _ => .success) false false
  | unreadable {reply : Http.Reply} {problem : Problem}
      (status : 200 ≤ reply.status.toNat ∧ reply.status.toNat ≤ 299)
      (body : Json.decodeBytes Response.shape.decoder reply.body = .error problem) :
      Means (.reply reply) (fun _ => .failure s!"unparseable bulk response: {problem.message}")
        false true
  | serverError {reply : Http.Reply}
      (status : 500 ≤ reply.status.toNat ∧ reply.status.toNat ≤ 599) :
      Means (.reply reply) (fun _ => .retry) false true
  | refused {reply : Http.Reply}
      (success : ¬ (200 ≤ reply.status.toNat ∧ reply.status.toNat ≤ 299))
      (server : ¬ (500 ≤ reply.status.toNat ∧ reply.status.toNat ≤ 599)) :
      Means (.reply reply) (fun _ => .failure s!"backend returned status {reply.status.toNat}")
        false false

theorem Submission.exists_means (submission : Submission) :
    ∃ routes penalize backOff, submission.Means routes penalize backOff := by
  cases submission with
  | transportError message => exact ⟨_, _, _, .unanswered message⟩
  | reply reply =>
    by_cases hstatus : 200 ≤ reply.status.toNat ∧ reply.status.toNat ≤ 299
    · cases hbody : Json.decodeBytes Response.shape.decoder reply.body with
      | error problem => exact ⟨_, _, _, .unreadable hstatus hbody⟩
      | ok response =>
        cases herrors : response.errors with
        | true => exact ⟨_, _, _, .listed ⟨hstatus, hbody⟩ herrors⟩
        | false => exact ⟨_, _, _, .unlisted ⟨hstatus, hbody⟩ herrors⟩
    · by_cases hserver : 500 ≤ reply.status.toNat ∧ reply.status.toNat ≤ 599
      · exact ⟨_, _, _, .serverError hserver⟩
      · exact ⟨_, _, _, .refused hstatus hserver⟩

section

variable {R : Type} (pending : List R) {reply : Http.Reply}

theorem reconcile_of_answers {response : Response} (h : Answers reply response) :
    reconcile pending (.reply reply) =
      ⟨pairItems pending (if response.errors then response.items else []), false, false⟩ := by
  rw [reconcile, if_pos ((isSuccess_iff _).2 h.status), h.body]

/-- Records are reconciled with a submission by what it means for their places. -/
theorem reconcile_of_means {submission : Submission} {routes : Nat → Route}
    {penalize backOff : Bool} (h : submission.Means routes penalize backOff) :
    reconcile pending submission =
      ⟨pending.mapIdx fun k r => (r, routes k), penalize, backOff⟩ := by
  cases h with
  | unanswered message => exact uniform_eq_mapIdx pending _ true false
  | listed answers errors =>
    rw [reconcile_of_answers pending answers, if_pos errors, pairItems_eq_mapIdx]
  | unlisted answers errors =>
    rw [reconcile_of_answers pending answers, errors, if_neg Bool.false_ne_true,
      pairItems_eq_mapIdx]
    rfl
  | unreadable status body =>
    rw [reconcile, if_pos ((isSuccess_iff _).2 status), body]
    exact uniform_eq_mapIdx pending _ false true
  | @serverError reply status =>
    have hsuccess : ¬ (200 ≤ reply.status.toNat ∧ reply.status.toNat ≤ 299) := by omega
    rw [reconcile, if_neg (mt (isSuccess_iff _).1 hsuccess),
      if_pos ((isServerError_iff _).2 status)]
    exact uniform_eq_mapIdx pending _ false true
  | refused success server =>
    rw [reconcile, if_neg (mt (isSuccess_iff _).1 success),
      if_neg (mt (isServerError_iff _).1 server)]
    exact uniform_eq_mapIdx pending _ false false

/-- However a submission ends, every pending record has one outcome, in order. -/
theorem map_fst_outcomes (submission : Submission) :
    (reconcile pending submission).outcomes.map Prod.fst = pending := by
  obtain ⟨routes, penalize, backOff, hmeans⟩ := submission.exists_means
  rw [reconcile_of_means pending hmeans]
  apply List.ext_getElem?
  intro k
  rw [List.getElem?_map, List.getElem?_mapIdx, Option.map_map]
  exact congrFun Option.map_id _

end

/-! ## Reported errors -/

/-- The document has a member `errors` that is true, or it lists the fields of a response in
order and the first one is true. -/
def ReportsErrors : Json.Document → Prop
  | .object members => (.text (some "errors"), .bool true) ∈ members
  | .array items => items.head? = some (.bool true)
  | _ => False

/-- Only the field `errors` says whether there are errors. -/
theorem errors_of_read (name : String) {field : Json.Field Response} {depth : Nat}
    {d : Json.Document} {before next : Response}
    (hfield : Response.shape.fields.find? (·.name == name) = some field)
    (hread : field.read depth d before = .ok next) :
    name = "errors" ∧ d = .bool next.errors ∨ name ≠ "errors" ∧ next.errors = before.errors := by
  by_cases herrors : name = "errors"
  · subst herrors
    cases hfield
    obtain ⟨b, hb, rfl⟩ := Json.Field.read_of_eq_ok.1 hread
    exact .inl ⟨rfl, Json.Decode.bool_eq_ok.1 hb⟩
  · by_cases hitems : name = "items"
    · subst hitems
      cases hfield
      obtain ⟨items, -, rfl⟩ := Json.Field.read_of_eq_ok.1 hread
      exact .inr ⟨herrors, rfl⟩
    · simp [Response.shape, Json.Field.of, Ne.symm herrors, Ne.symm hitems] at hfield

/-- What the members of an object say about errors.  A field is given once, so no later
member takes back what `errors` said. -/
theorem errors_of_ofMembers {depth : Nat} {members : List (Json.Document × Json.Document)}
    {seen : List String} {before response : Response}
    (hbefore : "errors" ∉ seen → before.errors = false)
    (h : Response.shape.ofMembers depth members seen before = .ok response) :
    response.errors = true ↔
      before.errors = true ∨ (.text (some "errors"), .bool true) ∈ members := by
  induction members generalizing seen before with
  | nil =>
    cases h
    simp
  | cons member members ih =>
    obtain ⟨key, d⟩ := member
    obtain ⟨name, rfl, hmember⟩ := Json.Shape.ofMembers_cons_eq_ok h
    rw [List.mem_cons]
    obtain ⟨field, next, hfield, hseen, hread, hrest⟩ | ⟨hfield, hrest⟩ := hmember
    · obtain ⟨rfl, rfl⟩ | ⟨hname, hnext⟩ := errors_of_read name hfield hread
      · have hsame : ((.text (some "errors"), .bool true) : Json.Document × Json.Document) =
            (.text (some "errors"), .bool next.errors) ↔ next.errors = true := by
          cases next.errors <;> simp
        rw [ih (fun hfresh => absurd List.mem_cons_self hfresh) hrest, hsame, hbefore hseen]
        simp
      · have hfresh (hmem : "errors" ∉ name :: seen) : next.errors = false :=
          hnext.trans (hbefore fun hseen => hmem (List.mem_cons_of_mem name hseen))
        rw [ih hfresh hrest, hnext]
        simp [Ne.symm hname]
    · have hname : name ≠ "errors" := by
        rintro rfl
        cases hfield
      rw [ih hbefore hrest]
      simp [Ne.symm hname]

/-- The items of an array say about errors what the first of them says. -/
theorem errors_of_ofItems {depth : Nat} {item : Json.Document} {items : List Json.Document}
    {response : Response}
    (h : Response.shape.ofItems depth Response.shape.fields (item :: items) 0
      Response.shape.initial = .ok response) :
    item = .bool response.errors := by
  obtain ⟨next, hread, hrest⟩ := Json.Shape.ofItems_cons_eq_ok h
  obtain ⟨-, rfl⟩ | ⟨hname, -⟩ := errors_of_read "errors" rfl hread
  · cases items with
    | nil =>
      cases hrest
      rfl
    | cons second items =>
      obtain ⟨last, hread, hrest⟩ := Json.Shape.ofItems_cons_eq_ok hrest
      obtain ⟨hname, -⟩ | ⟨-, hlast⟩ := errors_of_read "items" rfl hread
      · exact absurd hname (by decide)
      · cases items with
        | nil =>
          cases hrest
          rw [hlast]
        | cons third items => cases hrest
  · exact absurd rfl hname

/-- A response has errors exactly when its document reports them. -/
theorem errors_iff_reportsErrors {depth : Nat} {d : Json.Document} {response : Response}
    (h : Response.shape.decoder depth d = .ok response) :
    response.errors = true ↔ ReportsErrors d := by
  cases depth with
  | zero => cases d <;> cases h
  | succ depth =>
    cases d with
    | object members =>
      rw [errors_of_ofMembers (fun _ => rfl) h]
      simp [Response.shape, ReportsErrors]
    | array items =>
      cases items with
      | nil =>
        cases h
        simp [Response.shape, ReportsErrors]
      | cons item items =>
        rw [errors_of_ofItems h]
        simp [ReportsErrors]
    | _ => cases h

/-! ## Records and their items -/

/-- The reconciliations are of the same records and differ at most in the outcome at this
place. -/
structure AgreeBesides {R : Type} (j : Nat) (a b : Reconciliation R) : Prop where
  records : a.outcomes.map Prod.fst = b.outcomes.map Prod.fst
  elsewhere : ∀ k, k ≠ j → a.outcomes[k]? = b.outcomes[k]?
  penalize : a.penalize = b.penalize
  backOff : a.backOff = b.backOff

section

variable {R : Type} (pending : List R) {reply : Http.Reply} {response : Response}

/-- Whether errors were reported or not, the routes of an answer follow its items. -/
theorem agreeBesides_of_answers {other : Http.Reply} {changed : Response} {j : Nat}
    (h : Answers reply response) (hother : Answers other changed)
    (herrors : changed.errors = response.errors)
    (hitems : ∀ k, k ≠ j → changed.items[k]? = response.items[k]?) :
    AgreeBesides j (reconcile pending (.reply other)) (reconcile pending (.reply reply)) := by
  have hrecords := (map_fst_outcomes pending (.reply other)).trans
    (map_fst_outcomes pending (.reply reply)).symm
  cases hflag : response.errors with
  | true =>
    have hmeans := reconcile_of_means pending (.listed h hflag)
    have hchanged := reconcile_of_means pending (.listed hother (herrors.trans hflag))
    refine ⟨hrecords, fun k hk => ?_, ?_, ?_⟩
    · rw [hmeans, hchanged, List.getElem?_mapIdx, List.getElem?_mapIdx, hitems k hk]
    · rw [hmeans, hchanged]
    · rw [hmeans, hchanged]
  | false =>
    rw [reconcile_of_means pending (.unlisted h hflag),
      reconcile_of_means pending (.unlisted hother (herrors.trans hflag))]
    exact ⟨rfl, fun _ _ => rfl, rfl, rfl⟩

/-- An answer that reports no errors lets all records succeed, whatever its items. -/
theorem reconcile_of_not_reportsErrors (h : Answers reply response)
    (hsilent : ¬ ReportsErrors (Json.Reading.ofBytes reply.body).document) :
    reconcile pending (.reply reply) = uniform pending .success false false := by
  obtain ⟨d, hread, hdecode⟩ := Json.decodeBytes_eq_ok.1 h.body
  rw [hread, ← errors_iff_reportsErrors hdecode, Bool.not_eq_true] at hsilent
  rw [reconcile_of_means pending (.unlisted h hsilent), uniform_eq_mapIdx]

end

/-- Every submission means one route for each place, and the pending records get these routes in
their order, each record once.  A reply in which one item changes changes at most the
outcome at its place, and the items of a reply that reports no errors change nothing. -/
theorem reconcile_by_place {R : Type} (pending : List R) (submission : Submission) :
    (∃ routes penalize backOff, submission.Means routes penalize backOff) ∧
    (∀ routes penalize backOff, submission.Means routes penalize backOff →
      reconcile pending submission =
        ⟨pending.mapIdx fun k r => (r, routes k), penalize, backOff⟩) ∧
    (reconcile pending submission).outcomes.map Prod.fst = pending ∧
    ∀ reply response, submission = .reply reply → Answers reply response →
      (∀ other changed j, Answers other changed → changed.errors = response.errors →
        (∀ k, k ≠ j → changed.items[k]? = response.items[k]?) →
        AgreeBesides j (reconcile pending (.reply other)) (reconcile pending submission)) ∧
      (¬ ReportsErrors (Json.Reading.ofBytes reply.body).document →
        reconcile pending submission = ⟨pending.map fun r => (r, .success), false, false⟩) := by
  refine ⟨submission.exists_means, ?_, map_fst_outcomes pending submission, ?_⟩
  · intro routes penalize backOff hmeans
    exact reconcile_of_means pending hmeans
  · rintro reply response rfl hanswers
    refine ⟨?_, reconcile_of_not_reportsErrors pending hanswers⟩
    intro other changed j hother herrors hitems
    exact agreeBesides_of_answers pending hanswers hother herrors hitems

/-! ### A conflict -/

def replyOf (body : Json) : Http.Reply := ⟨200, Utf8.encode body.render⟩

theorem answers_replyOf {body : Json} {response : Response} (hexact : body.Exact)
    (hdecode : Response.shape.decoder Json.depthLimit body.document = .ok response) :
    Answers (replyOf body) response :=
  ⟨by simp [replyOf], (Json.decodeBytes_render _ hexact).trans hdecode⟩

def itemOf (status : UInt64) : Json := .object [("status", .number (.natural status))]

def twoItems (status : UInt64) : Json :=
  .object [("errors", .bool true), ("items", .array [itemOf 201, itemOf status])]

/-- An item that failed, but no word about errors. -/
def unreported : Json := .object [("items", .array [itemOf 409])]

theorem exact_itemOf (status : UInt64) : (itemOf status).Exact :=
  ⟨List.nodup_singleton _, trivial, trivial⟩

theorem exact_twoItems (status : UInt64) : (twoItems status).Exact :=
  ⟨by simp, trivial, ⟨exact_itemOf 201, exact_itemOf status, trivial⟩, trivial⟩

theorem exact_unreported : unreported.Exact :=
  ⟨List.nodup_singleton _, ⟨exact_itemOf 409, trivial⟩, trivial⟩

/-- Three records: the conflict is about the second one, and when its item changes the others
keep their outcomes.  An item counts for nothing if no errors are reported. -/
theorem conflict_by_place :
    reconcile ["a", "b", "c"] (.reply (replyOf (twoItems 409))) =
      ⟨[("a", .success), ("b", .failure "bulk item failed with status 409"), ("c", .success)],
        false, false⟩ ∧
    AgreeBesides 1 (reconcile ["a", "b", "c"] (.reply (replyOf (twoItems 200))))
      (reconcile ["a", "b", "c"] (.reply (replyOf (twoItems 409)))) ∧
    reconcile ["a", "b", "c"] (.reply (replyOf unreported)) =
      ⟨[("a", .success), ("b", .success), ("c", .success)], false, false⟩ := by
  have hconflict : Answers (replyOf (twoItems 409)) ⟨true, [itemOf 201, itemOf 409]⟩ :=
    answers_replyOf (exact_twoItems 409) rfl
  have hcreated : Answers (replyOf (twoItems 200)) ⟨true, [itemOf 201, itemOf 200]⟩ :=
    answers_replyOf (exact_twoItems 200) rfl
  have hunreported : Answers (replyOf unreported) ⟨false, [itemOf 409]⟩ :=
    answers_replyOf exact_unreported rfl
  have hsilent : ¬ ReportsErrors (Json.Reading.ofBytes (replyOf unreported).body).document := by
    rw [replyOf, Json.render, Utf8.encode_ofList, Json.ofBytes_chars exact_unreported]
    simp [ReportsErrors, unreported, Json.document, Json.membersDocument]
  obtain ⟨-, hmeans, -, hchange⟩ :=
    reconcile_by_place ["a", "b", "c"] (.reply (replyOf (twoItems 409)))
  obtain ⟨-, -, -, hunheard⟩ :=
    reconcile_by_place ["a", "b", "c"] (.reply (replyOf unreported))
  have hroutes : (["a", "b", "c"].mapIdx fun k r => (r, routeOf [itemOf 201, itemOf 409][k]?)) =
      [("a", .success), ("b", .failure "bulk item failed with status 409"), ("c", .success)] := by
    rfl
  refine ⟨?_, ?_, (hunheard _ _ rfl hunreported).2 hsilent⟩
  · rw [hmeans _ _ _ (.listed hconflict rfl), hroutes]
  · refine (hchange _ _ rfl hconflict).1 _ _ 1 hcreated rfl fun k hk => ?_
    rcases k with _ | _ | k
    · rfl
    · exact absurd rfl hk
    · rfl

end RecordFlow.Bulk
