import RecordFlow.Proofs.Bulk.Framing
import RecordFlow.Proofs.Json.Envelope

/-!
# Documents inside bodies

A body is put together as text, around a document or a script that is not printed anew.
If that is JSON, in whatever layout, the body is the JSON object that the operation asks
for, with the same value in it.
-/

namespace RecordFlow.Bulk

/-- The document or script that the body of an operation is made of. -/
def source? (kind : Kind) (operation : Operation) (charset : Charset) (content : Bytes) :
    Option String :=
  match kind, operation.upsert with
  | .delete, _ => none
  | .index, _ => charset.decode? content
  | _, some .scriptedUpsert => operation.script
  | _, _ => charset.decode? content

/-- The value of a body whose document or script has the value `v`.  Deletions have no
body. -/
def bodyValue (kind : Kind) (mode : Option UpsertMode) (v : Json) : Json :=
  match kind, mode with
  | .index, _ => v
  | _, some .docAsUpsert => .object [("doc", v), ("doc_as_upsert", .bool true)]
  | _, some .scriptedUpsert =>
    .object [("upsert", .object []), ("scripted_upsert", .bool true), ("script", v)]
  | .upsert, none => .object [("upsert", v)]
  | _, none => .object [("doc", v)]

/-! ## The objects around documents and scripts -/

/-- A document alone, as the member `name`. -/
def bare (name : String) : Json.Envelope where
  front := []
  name := name
  back := []
  readable := ⟨List.pairwise_singleton _ name, trivial, trivial⟩
  shallow := Nat.succ_le_succ (Nat.zero_le _)

/-- A document that is its own upsert. -/
def ownUpsert : Json.Envelope where
  front := []
  name := "doc"
  back := [("doc_as_upsert", .bool true)]
  readable := ⟨by decide, trivial, trivial, trivial⟩
  shallow := by decide

/-- A script that computes the document. -/
def scripted : Json.Envelope where
  front := [("upsert", .object []), ("scripted_upsert", .bool true)]
  name := "script"
  back := []
  readable := ⟨by decide, ⟨List.nodup_nil, trivial⟩, trivial, trivial, trivial⟩
  shallow := by decide

/-- What surrounds a document in an update is an object around one of its members. -/
theorem exists_envelope {kind : Kind} {mode : Option UpsertMode} (hkind : kind.Updates)
    (hplain : mode ≠ some .scriptedUpsert) :
    ∃ e : Json.Envelope, (∀ doc, surround kind mode doc = e.wrap doc) ∧
      ∀ v, bodyValue kind mode v = e.around v := by
  rcases hkind with rfl | rfl
  · rcases mode with _ | _ | _
    · exact ⟨bare "doc", fun _ => rfl, fun _ => rfl⟩
    · exact ⟨ownUpsert, fun _ => rfl, fun _ => rfl⟩
    · exact absurd rfl hplain
  · rcases mode with _ | _ | _
    · exact ⟨bare "upsert", fun _ => rfl, fun _ => rfl⟩
    · exact ⟨ownUpsert, fun _ => rfl, fun _ => rfl⟩
    · exact absurd rfl hplain

theorem surroundScript_eq_wrap (script : String) :
    surroundScript script = scripted.wrap script := rfl

/-! ## Bodies -/

section

variable {kind : Kind} {operation : Operation} {charset : Charset} {content : Bytes}
  {source : String} {text : Option String}

theorem source?_of_scripted (h : Scripted kind operation) :
    source? kind operation charset content = operation.script := by
  obtain ⟨rfl | rfl, hscripted⟩ := h
  all_goals simp only [source?, hscripted]

theorem source?_of_embeds (h : Embeds kind operation) :
    source? kind operation charset content = charset.decode? content := by
  obtain rfl | ⟨rfl | rfl, hplain⟩ := h
  · simp only [source?]
  all_goals
    rcases hmode : operation.upsert with _ | _ | _
    · simp only [source?, hmode]
    · simp only [source?, hmode]
    · exact absurd hmode hplain

theorem map_document_of_decode? {layout : String → Option String}
    (hsource : charset.decode? content = some source)
    (h : (document charset content).map layout = .ok text) :
    text = layout (Text.flatten source) := by
  rw [document, hsource] at h
  cases h
  rfl

/-- The body of an update is its document or script on one line, in an envelope. -/
theorem body_of_update (hkind : kind.Updates)
    (hsource : source? kind operation charset content = some source)
    (hbody : body kind operation charset content = .ok text) :
    ∃ e : Json.Envelope, text = some (e.wrap (Text.flatten source)) ∧
      ∀ v, bodyValue kind operation.upsert v = e.around v := by
  by_cases hmode : operation.upsert = some .scriptedUpsert
  · have hscripted : Scripted kind operation := ⟨hkind, hmode⟩
    rw [source?_of_scripted hscripted] at hsource
    rw [body_eq_script content charset hscripted] at hbody
    cases hscript : operation.script? with
    | none =>
      rw [hscript] at hbody
      cases hbody
    | some script =>
      rw [hscript] at hbody
      cases hbody
      obtain rfl := Option.some.inj ((script?_eq_some.1 hscript).1.symm.trans hsource)
      refine ⟨scripted, by rw [surroundScript_eq_wrap], fun v => ?_⟩
      rw [hmode]
      rcases hkind with rfl | rfl <;> rfl
  · have hembeds : Embeds kind operation := .inr ⟨hkind, hmode⟩
    rw [source?_of_embeds hembeds] at hsource
    rw [body_eq_surround content charset hembeds] at hbody
    obtain ⟨e, hwrap, haround⟩ := exists_envelope hkind hmode
    have hline := map_document_of_decode? hsource hbody
    exact ⟨e, by rw [hline, hwrap], haround⟩

/-- The body line of any other operation than a deletion has the value that the operation
asks for. -/
theorem parse_body {line : String} {v : Json}
    (hsource : source? kind operation charset content = some source)
    (hbody : body kind operation charset content = .ok (some line))
    (hvalue : Json.parse (Utf8.encode source) = .ok v)
    (hroom : kind ≠ .index → Json.nesting source < Json.depthLimit) :
    Json.parse (Utf8.encode line) = .ok (bodyValue kind operation.upsert v) := by
  have hupdate (hkind : kind = .update ∨ kind = .upsert) (hindex : kind ≠ .index) :
      Json.parse (Utf8.encode line) = .ok (bodyValue kind operation.upsert v) := by
    obtain ⟨e, hline, hbodyValue⟩ := body_of_update hkind hsource hbody
    rw [Option.some.inj hline, hbodyValue]
    exact e.parse_wrap hvalue (hroom hindex)
  cases kind with
  | delete => cases hbody
  | index =>
    obtain rfl := Option.some.inj (map_document_of_decode? hsource hbody)
    exact Json.parse_flatten hvalue
  | update => exact hupdate (.inl rfl) (by decide)
  | upsert => exact hupdate (.inr rfl) (by decide)

end

/-! ## Pushes -/

/-- The body line of a push is one JSON text: the value of the content or script, in the
object that the operation asks for.  Its layout does not matter, line breaks between
tokens included. -/
theorem push_keeps_document {R : Type} (request : Request R) (p : Push R) {kind : Kind}
    {charset : Charset} {source : String} {v : Json} (hsurvives : p.survives = true)
    (hkind : Kind.ofWord? p.operation.kind = some kind)
    (hcharset : Charset.ofLabel? p.operation.charset = some charset)
    (hsource : source? kind p.operation charset p.content = some source)
    (hvalue : Json.parse (Utf8.encode source) = .ok v)
    (hroom : kind ≠ .index → Json.nesting source < Json.depthLimit) :
    ∃ action line, '\n' ∉ action.toList ∧ '\n' ∉ line.toList ∧
      (request.push p.record p.operation p.content).payload =
        request.payload ++ (action ++ "\n" ++ line ++ "\n") ∧
      Json.parse (Utf8.encode line) = .ok (bodyValue kind p.operation.upsert v) := by
  rw [push_eq, Push.lines]
  cases hentry : p.entry with
  | error exclusion =>
    rw [Push.survives, hentry] at hsurvives
    cases hsurvives
  | ok e =>
    obtain ⟨kind', charset', hmade⟩ := entry_eq_ok hentry
    obtain rfl : kind' = kind := Option.some.inj (hmade.kind_eq.symm.trans hkind)
    obtain rfl : charset' = charset := Option.some.inj (hmade.charset_eq.symm.trans hcharset)
    rcases hmade.hasBody.none_or_line with ⟨rfl, -⟩ | ⟨-, line, hline, hbreak⟩
    · cases hsource
    · have hbody := hmade.body_eq
      rw [hline] at hbody
      have haction : '\n' ∉ e.action.render.toList := by
        rw [hmade.action_eq]
        exact Json.lineFeed_not_mem_render (exact_actionJson kind' p.operation _)
      refine ⟨e.action.render, line, haction, hbreak, ?_, parse_body hsource hbody hvalue hroom⟩
      simp only [Entry.render, hline, String.append_assoc]

/-- An object over several lines, with each kind of line break between its tokens and an
escaped one inside a string. -/
def severalLines : String := "\x7b\r\n\t\"a\" :\r[1,\n \"\\n\"]\r\n\x7d\n"

/-- A push of that object, as its own upsert. -/
def severalLinesPush : Push Nat where
  record := 0
  operation := { index := "i", id := some "1", kind := "Update", upsert := some .docAsUpsert }
  content := Utf8.encode severalLines

theorem survives_severalLines : severalLinesPush.survives = true := by
  have hcheck : severalLinesPush.operation.check = .ok (.update, some "1") := by cbv
  have hcharset : Charset.ofLabel? severalLinesPush.operation.charset = some .utf8 := rfl
  have hmode : severalLinesPush.operation.upsert = some .docAsUpsert := rfl
  have hdocument : document .utf8 severalLinesPush.content =
      .ok (Text.flatten severalLines) := by
    rw [document, severalLinesPush, Charset.decode?]
    simp only [Utf8.decode?_encode]
  rw [Push.survives, Push.entry, entry, hcheck]
  simp only [hcharset, body, hmode, hdocument]
  rfl

/-- The line breaks between the tokens are gone, and the one in the string is kept. -/
theorem severalLines_kept :
    severalLinesPush.survives = true ∧
      ∃ action line, '\n' ∉ action.toList ∧ '\n' ∉ line.toList ∧
        (Request.push {} severalLinesPush.record severalLinesPush.operation
          severalLinesPush.content).payload = "" ++ (action ++ "\n" ++ line ++ "\n") ∧
        Json.parse (Utf8.encode line) = .ok (.object [
          ("doc", .object [("a", .array [.number (.natural 1), .text "\n"])]),
          ("doc_as_upsert", .bool true)]) := by
  have hkind : Kind.ofWord? severalLinesPush.operation.kind = some .update := by cbv
  have hcharset : Charset.ofLabel? severalLinesPush.operation.charset = some .utf8 := rfl
  have hsource : source? .update severalLinesPush.operation .utf8 severalLinesPush.content =
      some severalLines := Utf8.decode?_encode severalLines
  have hvalue : Json.parse (Utf8.encode severalLines) =
      .ok (.object [("a", .array [.number (.natural 1), .text "\n"])]) := by cbv
  have hroom : Json.nesting severalLines < Json.depthLimit := by cbv
  exact ⟨survives_severalLines, push_keeps_document {} severalLinesPush survives_severalLines
    hkind hcharset hsource hvalue fun _ => hroom⟩

end RecordFlow.Bulk
