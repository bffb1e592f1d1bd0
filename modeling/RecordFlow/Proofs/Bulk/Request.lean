import RecordFlow.Proofs.Bulk.Operation

/-!
# Requests and their entries

Every push either appends the lines of its entry and keeps its record, or sets the
record aside.  What a push contributes does not depend on the pushes around it, so a
request is described push by push.
-/

namespace RecordFlow.Bulk

/-! ## Entries -/

/-- An operation that passes its check has an index and a known kind, and an identifier
unless it indexes a document. -/
theorem check_eq_ok {operation : Operation} {kind : Kind} {id : Option String}
    (h : operation.check = .ok (kind, id)) :
    operation.index ≠ "" ∧ Kind.ofWord? operation.kind = some kind ∧
      id = operation.identifier? ∧ (id = none → kind = .index) := by
  rw [Operation.check] at h
  split at h
  · cases h
  rename_i hindex
  split at h
  · cases h
  split at h
  · cases h
  rename_i found hfound
  split at h
  · cases h
  rename_i hid
  simp only [Except.ok.injEq, Prod.mk.injEq] at h
  obtain ⟨rfl, rfl⟩ := h
  refine ⟨fun hempty => hindex (by rw [hempty]; rfl), hfound, rfl, fun hnone => ?_⟩
  simpa [hnone] using hid

/-- The entry is made for an operation of this kind, on content in this charset. -/
structure Entry.MadeFor (e : Entry) (kind : Kind) (charset : Charset) (operation : Operation)
    (content : Bytes) : Prop where
  indexed : operation.index ≠ ""
  kind_eq : Kind.ofWord? operation.kind = some kind
  identified : operation.identifier? = none → kind = .index
  charset_eq : Charset.ofLabel? operation.charset = some charset
  body_eq : Bulk.body kind operation charset content = .ok e.body
  action_eq : e.action = actionJson kind operation operation.identifier?

/-- Only operations that pass all checks have an entry. -/
theorem entry_eq_ok {operation : Operation} {content : Bytes} {e : Entry}
    (h : entry operation content = .ok e) :
    ∃ kind charset, e.MadeFor kind charset operation content := by
  rw [entry] at h
  split at h
  · cases h
  rename_i kind id hcheck
  obtain ⟨hindex, hkind, rfl, hid⟩ := check_eq_ok hcheck
  split at h
  · cases h
  rename_i charset hcharset
  split at h
  · cases h
  rename_i text hbody
  cases h
  exact ⟨kind, charset, hindex, hkind, hid, hcharset, hbody, rfl⟩

theorem Entry.MadeFor.hasBody {e : Entry} {kind : Kind} {charset : Charset} {operation : Operation}
    {content : Bytes} (h : e.MadeFor kind charset operation content) :
    HasBody operation content kind e.body :=
  hasBody_of_body h.charset_eq h.body_eq

/-! ## Pushes -/

/-- What is pushed at once: a record, its operation and its content. -/
structure Push (R : Type) where
  record : R
  operation : Operation
  content : Bytes

namespace Push

variable {R : Type}

def entry (p : Push R) : Except Exclusion Entry := Bulk.entry p.operation p.content

/-- The record becomes part of the request. -/
def survives (p : Push R) : Bool := p.entry.isOk

def lines (p : Push R) : String :=
  match p.entry with
  | .ok e => e.render
  | .error _ => ""

/-- The record and the reason, when it is set aside. -/
def setAside? (p : Push R) : Option (R × Exclusion) :=
  match p.entry with
  | .ok _ => none
  | .error exclusion => some (p.record, exclusion)

end Push

variable {R : Type}

def Request.pushAll (request : Request R) (pushes : List (Push R)) : Request R :=
  pushes.foldl (fun request p => request.push p.record p.operation p.content) request

/-- A push adds what it contributes to each part of a request. -/
theorem push_eq (request : Request R) (p : Push R) :
    request.push p.record p.operation p.content =
      { payload := request.payload ++ p.lines
        pending := request.pending ++ (if p.survives then [p.record] else [])
        excluded := request.excluded ++ p.setAside?.toList } := by
  rw [Request.push, Push.lines, Push.survives, Push.setAside?, Push.entry]
  cases hentry : entry p.operation p.content with
  | ok e => simp [Except.isOk, Except.toBool]
  | error exclusion => simp [Except.isOk, Except.toBool]

/-- A request holds what each of its pushes contributes, in the order of the pushes. -/
theorem pushAll_eq (request : Request R) (pushes : List (Push R)) :
    request.pushAll pushes =
      { payload := request.payload ++ String.join (pushes.map Push.lines)
        pending := request.pending ++ (pushes.filter Push.survives).map Push.record
        excluded := request.excluded ++ pushes.filterMap Push.setAside? } := by
  induction pushes generalizing request with
  | nil => simp [Request.pushAll]
  | cons p pushes ih =>
    have hstep : request.pushAll (p :: pushes) =
        (request.push p.record p.operation p.content).pushAll pushes := rfl
    have hpending : (if p.survives then [p.record] else []) ++
          (pushes.filter Push.survives).map Push.record =
        ((p :: pushes).filter Push.survives).map Push.record := by
      by_cases hp : p.survives <;> simp [hp]
    have hexcluded : p.setAside?.toList ++ pushes.filterMap Push.setAside? =
        (p :: pushes).filterMap Push.setAside? := by
      cases hp : p.setAside? <;> simp [hp]
    rw [hstep, ih, push_eq, List.map_cons, String.join_cons, ← hpending, ← hexcluded]
    simp only [String.append_assoc, List.append_assoc]

end RecordFlow.Bulk
