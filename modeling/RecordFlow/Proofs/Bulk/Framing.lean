import RecordFlow.Proofs.Bulk.Request
import RecordFlow.Proofs.Json.RoundTrip
import Mathlib

/-!
# The framing of bulk payloads

A reader of the bulk format cuts a payload at its line feeds and takes an action line,
then a body line unless the action is a deletion.  It finds one entry for each pending
record, with the texts of that record's operation, whatever these texts hold.
-/

namespace RecordFlow.Bulk

/-! ## Reading a payload -/

/-- An entry of a payload as its reader finds it. -/
structure WireEntry where
  action : String
  metadata : List (String × Json)
  body : Option Bytes

/-- An action line is an object of one member whose value is an object. -/
def readAction? (line : Bytes) : Option (String × List (String × Json)) :=
  match Json.parse line with
  | .ok (.object [(action, .object metadata)]) => some (action, metadata)
  | _ => none

/-- Read entries from lines.  A deletion has no body line, every other action has one. -/
def readEntries? : List Bytes → Option (List WireEntry)
  | [] => some []
  | line :: lines =>
    match readAction? line with
    | none => none
    | some (action, metadata) =>
      if action = "delete" then
        (readEntries? lines).map (⟨action, metadata, none⟩ :: ·)
      else
        match lines with
        | [] => none
        | body :: lines => (readEntries? lines).map (⟨action, metadata, some body⟩ :: ·)

/-- The bytes are none at all or end in a line feed. -/
def isTerminated (bytes : Bytes) : Bool := bytes.getLast?.all (· == 0x0A)

/-- Read a whole payload; its last line must end in a line feed too. -/
def readPayload? (payload : Bytes) : Option (List WireEntry) :=
  if isTerminated payload then readEntries? (Text.cutLines payload) else none

/-- The action that a request has for the word of an operation.  There is no action of its own
for an upsert. -/
inductive SentAs (word : String) : String → Prop
  | index : SameLetters word "index" → SentAs word "index"
  | update : SameLetters word "update" → SentAs word "update"
  | upsert : SameLetters word "upsert" → SentAs word "update"
  | delete : SameLetters word "delete" → SentAs word "delete"

/-- The entry says what the operation asks for: its action, exactly the members that
identify the document, and the body of the content. -/
structure WireEntry.Describes (e : WireEntry) (operation : Operation) (content : Bytes) :
    Prop where
  action : SentAs operation.kind e.action
  index : e.metadata.lookup "_index" = some (.text operation.index)
  docType : e.metadata.lookup "_type" =
    if operation.docType = "" then none else some (.text operation.docType)
  id : e.metadata.lookup "_id" = (operation.id.filter (· ≠ "")).map Json.text
  names : (e.metadata.map Prod.fst).Nodup
  others : ∀ name ∈ e.metadata.map Prod.fst, name ∈ ["_index", "_type", "_id"]
  charset : KnownLabel operation.charset
  body : ∃ kind text, Spells operation.kind kind ∧ HasBody operation content kind text ∧
    e.body = text.map Utf8.encode

/-! ## Action lines -/

def actionMembers (operation : Operation) (id : Option String) : List (String × Json) :=
  [("_index", Json.text operation.index)]
    ++ (if operation.docType.isEmpty then [] else [("_type", Json.text operation.docType)])
    ++ id.toList.map fun id => ("_id", Json.text id)

theorem actionJson_eq (kind : Kind) (operation : Operation) (id : Option String) :
    actionJson kind operation id =
      .object [(kind.action, .object (actionMembers operation id))] := rfl

theorem names_actionMembers (operation : Operation) (id : Option String) :
    ((actionMembers operation id).map Prod.fst).Sublist ["_index", "_type", "_id"] := by
  rw [actionMembers]
  cases id <;> by_cases hempty : operation.docType.isEmpty = true <;> simp [hempty]

theorem exact_actionJson (kind : Kind) (operation : Operation) (id : Option String) :
    (actionJson kind operation id).Exact := by
  have hnames := (names_actionMembers operation id).nodup (by decide)
  have hvalues : Json.MembersExact (actionMembers operation id) := by
    rw [actionMembers]
    cases id <;> by_cases hempty : operation.docType.isEmpty = true <;>
      simp [hempty, Json.MembersExact, Json.Exact]
  rw [actionJson_eq]
  exact ⟨by simp, ⟨hnames, hvalues⟩, trivial⟩

theorem depth_actionJson (kind : Kind) (operation : Operation) (id : Option String) :
    (actionJson kind operation id).depth ≤ Json.depthLimit := by
  have hvalues : Json.membersDepth (actionMembers operation id) = 0 := by
    rw [actionMembers]
    cases id <;> by_cases hempty : operation.docType.isEmpty = true <;>
      simp [hempty, Json.membersDepth, Json.depth]
  rw [actionJson_eq]
  simp only [Json.depth, Json.membersDepth, hvalues]
  decide

/-- An action line is read as its action and its members. -/
theorem readAction?_actionJson (kind : Kind) (operation : Operation) (id : Option String) :
    readAction? (Utf8.encode (actionJson kind operation id).render) =
      some (kind.action, actionMembers operation id) := by
  rw [readAction?, Json.parse_render (exact_actionJson kind operation id)
    (depth_actionJson kind operation id)]
  rfl

/-- The key of an action line is the action for the word that spells its kind. -/
theorem sentAs_iff {word action : String} :
    SentAs word action ↔ ∃ kind : Kind, Spells word kind ∧ kind.action = action := by
  constructor
  · intro h
    cases h with
    | index hword => exact ⟨.index, hword, rfl⟩
    | update hword => exact ⟨.update, hword, rfl⟩
    | upsert hword => exact ⟨.upsert, hword, rfl⟩
    | delete hword => exact ⟨.delete, hword, rfl⟩
  · rintro ⟨kind, hword, rfl⟩
    cases kind with
    | index => exact .index hword
    | update => exact .update hword
    | upsert => exact .upsert hword
    | delete => exact .delete hword

theorem SentAs.unique {word action other : String} (h : SentAs word action)
    (h' : SentAs word other) : action = other := by
  obtain ⟨kind, hkind, rfl⟩ := sentAs_iff.1 h
  obtain ⟨kind', hkind', rfl⟩ := sentAs_iff.1 h'
  exact congrArg Kind.action (spells_unique hkind hkind')

theorem action_eq_delete (kind : Kind) : kind.action = "delete" ↔ kind = .delete := by
  cases kind <;> decide

/-! ## One entry -/

/-- The entry of an operation as its reader finds it. -/
def Entry.wire (kind : Kind) (operation : Operation) (e : Entry) : WireEntry :=
  ⟨kind.action, actionMembers operation operation.identifier?, e.body.map Utf8.encode⟩

def Entry.wireLines (e : Entry) : List Bytes :=
  Utf8.encode e.action.render :: (e.body.map Utf8.encode).toList

section

variable {e : Entry} {kind : Kind} {charset : Charset} {operation : Operation} {content : Bytes}

theorem describes_wire (h : e.MadeFor kind charset operation content) :
    (e.wire kind operation).Describes operation content where
  action := sentAs_iff.2 ⟨kind, Kind.ofWord?_eq_some.1 h.kind_eq, rfl⟩
  index := rfl
  docType := by
    rw [Entry.wire, actionMembers, Operation.identifier?]
    by_cases hempty : operation.docType = ""
    · cases operation.id.filter fun id => !id.isEmpty <;> simp [hempty, List.lookup]
    · cases operation.id.filter fun id => !id.isEmpty <;> simp [hempty, List.lookup]
  id := by
    have hid : operation.id.filter (fun id => !id.isEmpty) = operation.id.filter (· ≠ "") :=
      congrArg operation.id.filter (funext fun id => Bool.eq_iff_iff.2 (by simp))
    rw [Entry.wire, actionMembers, Operation.identifier?, hid]
    by_cases hempty : operation.docType = ""
    · cases operation.id.filter (· ≠ "") <;> simp [hempty, List.lookup]
    · cases operation.id.filter (· ≠ "") <;> simp [hempty, List.lookup]
  names := (names_actionMembers operation operation.identifier?).nodup (by decide)
  others := fun name hname => (names_actionMembers operation operation.identifier?).subset hname
  charset := knownLabel_of_ofLabel? h.charset_eq
  body := ⟨kind, e.body, Kind.ofWord?_eq_some.1 h.kind_eq, h.hasBody, rfl⟩

/-- The lines of an entry are read as one entry, and reading goes on behind them. -/
theorem readEntries?_wireLines (h : e.MadeFor kind charset operation content)
    (lines : List Bytes) :
    readEntries? (e.wireLines ++ lines) =
      (readEntries? lines).map (e.wire kind operation :: ·) := by
  rw [Entry.wireLines, h.action_eq, List.cons_append, readEntries?, readAction?_actionJson]
  rcases h.hasBody.none_or_line with ⟨hkind, hnone⟩ | ⟨hkind, line, hline, -⟩
  · have hdelete : kind.action = "delete" := (action_eq_delete kind).2 hkind
    simp only [hdelete, if_true, hnone, Entry.wire]
    rfl
  · have hother : kind.action ≠ "delete" := fun h => hkind ((action_eq_delete kind).1 h)
    simp only [hother, if_false, hline, Entry.wire]
    rfl

/-- A rendered entry is cut into its lines: neither line has a line feed inside. -/
theorem cutLines_render (h : e.MadeFor kind charset operation content) (rest : Bytes) :
    Text.cutLines (Utf8.encode e.render ++ rest) = e.wireLines ++ Text.cutLines rest := by
  have hfirst : '\n' ∉ e.action.render.toList := by
    rw [h.action_eq]
    exact Json.lineFeed_not_mem_render (exact_actionJson kind operation _)
  rw [Entry.render, Utf8.encode_append, List.append_assoc, Text.cutLines_encode hfirst,
    Entry.wireLines, List.cons_append]
  rcases h.hasBody.none_or_line with ⟨-, hnone⟩ | ⟨-, line, hline, hsecond⟩
  · rw [hnone]
    rfl
  · rw [hline]
    exact congrArg _ (Text.cutLines_encode hsecond rest)

/-- Reading a rendered entry and what follows it. -/
theorem readEntries?_render (h : e.MadeFor kind charset operation content) (rest : Bytes) :
    readEntries? (Text.cutLines (Utf8.encode e.render ++ rest)) =
      (readEntries? (Text.cutLines rest)).map (e.wire kind operation :: ·) :=
  calc readEntries? (Text.cutLines (Utf8.encode e.render ++ rest))
      = readEntries? (e.wireLines ++ Text.cutLines rest) := by rw [cutLines_render h]
    _ = (readEntries? (Text.cutLines rest)).map (e.wire kind operation :: ·) :=
        readEntries?_wireLines h _

end

/-! ## Whole payloads -/

/-- The lines of the pushes are read as one entry for each surviving push. -/
theorem readEntries?_lines {R : Type} (pushes : List (Push R)) :
    ∃ entries,
      readEntries? (Text.cutLines (Utf8.encode (String.join (pushes.map Push.lines)))) =
        some entries ∧
      List.Forall₂ (fun e p => e.Describes p.operation p.content) entries
        (pushes.filter Push.survives) := by
  induction pushes with
  | nil => exact ⟨[], rfl, .nil⟩
  | cons p pushes ih =>
    obtain ⟨entries, hread, hdescribes⟩ := ih
    rw [List.map_cons, String.join_cons, Utf8.encode_append, Push.lines, List.filter_cons,
      Push.survives, Push.entry]
    cases hentry : entry p.operation p.content with
    | error exclusion => exact ⟨entries, hread, hdescribes⟩
    | ok e =>
      obtain ⟨kind, charset, hmade⟩ := entry_eq_ok hentry
      refine ⟨e.wire kind p.operation :: entries, ?_, .cons (describes_wire hmade) hdescribes⟩
      simp only []
      rw [readEntries?_render hmade, hread]
      rfl

theorem isTerminated_append {a b : Bytes} (ha : isTerminated a = true)
    (hb : isTerminated b = true) : isTerminated (a ++ b) = true := by
  rw [isTerminated, List.getLast?_append]
  cases hlast : b.getLast? with
  | none => exact ha
  | some last =>
    rw [isTerminated, hlast] at hb
    exact hb

theorem isTerminated_lineFeed (text : String) :
    isTerminated (Utf8.encode (text ++ "\n")) = true := by
  rw [isTerminated, Utf8.encode_append]
  exact congrArg (Option.all (· == 0x0A)) List.getLast?_concat

theorem isTerminated_render (e : Entry) : isTerminated (Utf8.encode e.render) = true := by
  rw [Entry.render, Utf8.encode_append]
  apply isTerminated_append (isTerminated_lineFeed e.action.render)
  cases e.body with
  | none => rfl
  | some line => exact isTerminated_lineFeed line

theorem isTerminated_lines {R : Type} (pushes : List (Push R)) :
    isTerminated (Utf8.encode (String.join (pushes.map Push.lines))) = true := by
  induction pushes with
  | nil => rfl
  | cons p pushes ih =>
    rw [List.map_cons, String.join_cons, Utf8.encode_append, Push.lines]
    cases p.entry with
    | error exclusion => exact ih
    | ok e => exact isTerminated_append (isTerminated_render e) ih

theorem readPayload?_lines {R : Type} (pushes : List (Push R)) :
    ∃ entries,
      readPayload? (Utf8.encode (String.join (pushes.map Push.lines))) = some entries ∧
      List.Forall₂ (fun e p => e.Describes p.operation p.content) entries
        (pushes.filter Push.survives) := by
  rw [readPayload?, if_pos (isTerminated_lines pushes)]
  exact readEntries?_lines pushes

/-- A payload is read completely, as one entry for each pending record in their order.
No text of an operation or a content adds, drops, splits or merges an entry. -/
theorem readPayload?_pushAll {R : Type} (pushes : List (Push R)) :
    let request := Request.pushAll {} pushes
    let survivors := pushes.filter Push.survives
    request.pending = survivors.map Push.record ∧
      ∃ entries, readPayload? (Utf8.encode request.payload) = some entries ∧
        List.Forall₂ (fun e p => e.Describes p.operation p.content) entries survivors := by
  intro request survivors
  have hrequest : request = _ := pushAll_eq {} pushes
  have hpayload : request.payload = String.join (pushes.map Push.lines) := by
    rw [hrequest]
    exact String.empty_append
  rw [hpayload, hrequest]
  exact ⟨rfl, readPayload?_lines pushes⟩

/-- Operations of each kind, in words of any case and with texts that could break a line or a
string, and between them one of no kind. -/
def fourKinds : List (Push Nat) := [
  ⟨1, { index := "docs", docType := "note", kind := "Index" }, Utf8.encode "\n1"⟩,
  ⟨2, { index := "docs\n", id := some "\"", kind := "update" }, Utf8.encode "2"⟩,
  ⟨3, { index := "docs", id := some "c", kind := "merge" }, Utf8.encode "3"⟩,
  ⟨4, { index := "docs", id := some "d", kind := "UPSERT" }, Utf8.encode "4"⟩,
  ⟨5, { index := "docs", id := some "e", kind := "delete" }, [0xFF]⟩]

/-- Both words for updates have the one action, and only the deletion has no second line. -/
theorem fourKinds_framed :
    let request := Request.pushAll {} fourKinds
    request.payload =
        "\x7b\"index\":\x7b\"_index\":\"docs\",\"_type\":\"note\"\x7d\x7d\n 1\n" ++
        "\x7b\"update\":\x7b\"_index\":\"docs\\n\",\"_id\":\"\\\"\"\x7d\x7d\n\x7b\"doc\":2\x7d\n" ++
        "\x7b\"update\":\x7b\"_index\":\"docs\",\"_id\":\"d\"\x7d\x7d\n\x7b\"upsert\":4\x7d\n" ++
        "\x7b\"delete\":\x7b\"_index\":\"docs\",\"_id\":\"e\"\x7d\x7d\n" ∧
      request.pending = [1, 2, 4, 5] ∧
      ∃ first second third fourth,
        readPayload? (Utf8.encode request.payload) = some [first, second, third, fourth] ∧
          first.action = "index" ∧ first.metadata.lookup "_type" = some (.text "note") ∧
          first.metadata.lookup "_id" = none ∧
          second.action = "update" ∧ second.metadata.lookup "_index" = some (.text "docs\n") ∧
          second.metadata.lookup "_type" = none ∧
          second.metadata.lookup "_id" = some (.text "\"") ∧
          third.action = "update" ∧ fourth.action = "delete" := by
  intro request
  obtain ⟨hpending, entries, hread, hdescribes⟩ := readPayload?_pushAll fourKinds
  have hsurvivors : fourKinds.filter Push.survives = fourKinds.eraseIdx 2 := rfl
  rw [hsurvivors] at hpending hdescribes
  obtain _ | ⟨h₁, _ | ⟨h₂, _ | ⟨h₃, _ | ⟨h₄, _ | _⟩⟩⟩⟩ := hdescribes
  refine ⟨by rfl, hpending, _, _, _, _, hread, ?_⟩
  exact ⟨h₁.action.unique (.index (by decide)), h₁.docType, h₁.id,
    h₂.action.unique (.update (by decide)), h₂.index, h₂.docType, h₂.id,
    h₃.action.unique (.upsert (by decide)), h₄.action.unique (.delete (by decide))⟩

end RecordFlow.Bulk
