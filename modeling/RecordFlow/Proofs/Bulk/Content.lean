import RecordFlow.Proofs.Bulk.Exclusion
import RecordFlow.Proofs.Bulk.Framing
import RecordFlow.Proofs.Text.WellFormed

/-!
# Contents inside bodies

A content whose charset is UTF-8 is never repaired on its way into a payload.  What is no UTF-8
keeps its record out, and of anything else the body holds the very bytes, between texts that
depend on the operation alone, with blanks for the line breaks.
-/

namespace RecordFlow.Bulk

/-! ## Labels of UTF-8 -/

def utf8Names : List String :=
  ["unicode-1-1-utf-8", "unicode11utf8", "unicode20utf8", "utf-8", "utf8", "x-unicode20utf8"]

/-- The label is a name of UTF-8, up to ASCII case and white space around it. -/
def NamesUtf8 (label : String) : Prop := ∃ name ∈ utf8Names, SameLetters (Text.trim label) name

instance (label : String) : Decidable (NamesUtf8 label) :=
  inferInstanceAs (Decidable (∃ name ∈ utf8Names, SameLetters (Text.trim label) name))

/-- A trimmed label in lower case is a name of UTF-8 or not. -/
theorem namesUtf8_iff_mem {label : String} :
    NamesUtf8 label ↔
      String.ofList ((Text.trimChars label.toList).map Char.toLower) ∈ utf8Names := by
  have hlower : ∀ name ∈ utf8Names, name.toList.map Char.toLower = name.toList := by decide
  have hsame {name : String} (hname : name ∈ utf8Names) : SameLetters (Text.trim label) name ↔
      String.ofList ((Text.trimChars label.toList).map Char.toLower) = name := by
    rw [SameLetters, hlower name hname, Text.trim, String.toList_ofList, ← String.toList_inj,
      String.toList_ofList]
  constructor
  · rintro ⟨name, hname, hspelled⟩
    rwa [(hsame hname).1 hspelled]
  · intro hmem
    exact ⟨_, hmem, (hsame hmem).2 rfl⟩

theorem ofLabel?_eq_utf8 {label : String} :
    Charset.ofLabel? label = some .utf8 ↔ NamesUtf8 label := by
  have honly : ∀ line ∈ Charset.labels, line.1 = .utf8 → line.2 = utf8Names := by decide
  rw [namesUtf8_iff_mem, Charset.ofLabel?]
  constructor
  · intro h
    obtain ⟨line, hfound, hutf8⟩ := Option.map_eq_some_iff.1 h
    have hkey := List.find?_some hfound
    rw [honly line (List.mem_of_find?_eq_some hfound) hutf8, List.contains_iff_mem] at hkey
    exact hkey
  · intro hmem
    have hfirst : Charset.labels = (.utf8, utf8Names) :: Charset.labels.tail := rfl
    have hnamed := List.contains_iff_mem.2 hmem
    rw [hfirst, List.find?_cons]
    simp only [hnamed]
    rfl

/-! ## Documents in UTF-8 -/

variable {kind : Kind} {operation : Operation} {content : Bytes}

/-- A text in UTF-8 is a document on one line. -/
theorem document_utf8_encode (text : String) :
    document .utf8 (Utf8.encode text) = .ok (Text.flatten text) := by
  rw [document, Charset.decode?, Utf8.decode?_encode]

theorem document_utf8_of_not_wellFormed (h : ¬ Utf8.WellFormed content) :
    document .utf8 content = .error (.undecodable .utf8) := by
  rw [Utf8.wellFormed_iff_decode?, ne_eq, not_not] at h
  rw [document, Charset.decode?, h]

theorem encode_surround (mode : Option UpsertMode) (doc : String) :
    Utf8.encode (surround kind mode doc) =
      Utf8.encode (surroundings kind mode).1 ++ Utf8.encode doc ++
        Utf8.encode (surroundings kind mode).2 := by
  rw [surround, Utf8.encode_append, Utf8.encode_append]

/-! ## Pushes -/

section

variable {id : Option String}

/-- An operation that has passed its checks, with a content in UTF-8, has an entry if there is a
body. -/
theorem entry_of_utf8 (hcheck : operation.check = .ok (kind, id))
    (hlabel : NamesUtf8 operation.charset) :
    entry operation content =
      (body kind operation .utf8 content).map fun text => ⟨actionJson kind operation id, text⟩ := by
  rw [entry, hcheck, ofLabel?_eq_utf8.2 hlabel]
  dsimp only
  cases body kind operation .utf8 content with
  | error exclusion => rfl
  | ok text => rfl

def lineOf (kind : Kind) (operation : Operation) (text : String) : String :=
  surround kind operation.upsert (Text.flatten text)

theorem body_encode (hembeds : Embeds kind operation) (text : String) :
    body kind operation .utf8 (Utf8.encode text) = .ok (some (lineOf kind operation text)) := by
  rw [body_eq_surround _ _ hembeds, document_utf8_encode]
  rfl

theorem lineFeed_not_mem_lineOf (text : String) :
    '\n' ∉ (lineOf kind operation text).toList :=
  lineFeed_not_mem_surround (Text.lineFeed_not_mem_flatten text) kind operation.upsert

theorem entry_encode (hcheck : operation.check = .ok (kind, id)) (hembeds : Embeds kind operation)
    (hlabel : NamesUtf8 operation.charset) (text : String) :
    entry operation (Utf8.encode text) =
      .ok ⟨actionJson kind operation id, some (lineOf kind operation text)⟩ := by
  rw [entry_of_utf8 hcheck hlabel, body_encode hembeds]
  rfl

theorem entry_of_not_wellFormed (hcheck : operation.check = .ok (kind, id))
    (hembeds : Embeds kind operation) (hlabel : NamesUtf8 operation.charset)
    (hcontent : ¬ Utf8.WellFormed content) :
    entry operation content = .error (.undecodable .utf8) := by
  rw [entry_of_utf8 hcheck hlabel, body_eq_surround _ _ hembeds,
    document_utf8_of_not_wellFormed hcontent]
  rfl

end

def byteOrderMark : Bytes := String.utf8EncodeChar '\uFEFF'

/-- The bytes of U+FFFD, which stands for malformed input elsewhere. -/
def replacementMark : Bytes := String.utf8EncodeChar '\uFFFD'

/-- A record whose operation has passed its checks and whose body holds a content labelled as
UTF-8 survives exactly if the content is UTF-8.  Its body line then holds the bytes of the content,
with one space for each pair of CR and LF and for each CR or LF in no pair.  So a byte order mark is
kept, and U+FFFD stands only where it stood in the content. -/
theorem push_embeds_utf8 {R : Type} (request : Request R) (r : R) (content : Bytes)
    {id : Option String} (hcheck : operation.check = .ok (kind, id))
    (hembeds : Embeds kind operation) (hlabel : NamesUtf8 operation.charset) :
    let after := request.push r operation content
    let embedded := Text.byteMarks.blanked content
    let around := surroundings kind operation.upsert
    (Push.survives ⟨r, operation, content⟩ = true ↔ Utf8.WellFormed content) ∧
      (Utf8.WellFormed content → ∃ line : String, '\n' ∉ line.toList ∧
        Utf8.encode line = Utf8.encode around.1 ++ embedded ++ Utf8.encode around.2 ∧
        after = { request with
          payload := request.payload ++
            ((actionJson kind operation id).render ++ "\n" ++ (line ++ "\n"))
          pending := request.pending ++ [r] }) ∧
      (¬ Utf8.WellFormed content → after = { request with
        excluded := request.excluded ++ [(r, .undecodable .utf8)] }) ∧
      (byteOrderMark <+: embedded ↔ byteOrderMark <+: content) ∧
      ∀ front back, embedded = front ++ replacementMark ++ back ↔
        ∃ before behind, content = before ++ replacementMark ++ behind ∧
          Text.byteMarks.blanked before = front ∧ Text.byteMarks.blanked behind = back := by
  intro after embedded around
  have hmark : ¬ Text.charMarks.IsBreak '\uFEFF' := by decide
  have hreplacement : ¬ Text.charMarks.IsBreak '\uFFFD' := by decide
  refine ⟨?_, ?_, ?_, Text.utf8EncodeChar_isPrefix_blanked_iff hmark (by decide),
    fun _ _ => Text.blanked_eq_append_char_iff hreplacement (by decide)⟩
  · rw [Push.survives, Push.entry]
    by_cases hcontent : Utf8.WellFormed content
    · obtain ⟨text, rfl⟩ := Utf8.wellFormed_iff.1 hcontent
      rw [entry_encode hcheck hembeds hlabel]
      exact iff_of_true rfl hcontent
    · rw [entry_of_not_wellFormed hcheck hembeds hlabel hcontent]
      exact iff_of_false Bool.false_ne_true hcontent
  · intro hcontent
    obtain ⟨text, rfl⟩ := Utf8.wellFormed_iff.1 hcontent
    refine ⟨lineOf kind operation text, lineFeed_not_mem_lineOf text, ?_, ?_⟩
    · rw [lineOf, encode_surround, Text.encode_flatten]
    · simp only [after, Request.push, entry_encode hcheck hembeds hlabel, Entry.render]
  · intro hcontent
    simp only [after, Request.push, entry_of_not_wellFormed hcheck hembeds hlabel hcontent]

/-- An update that is its own upsert, with a label that is not spelled as usual. -/
def markedOperation : Operation :=
  { index := "i", id := some "1", kind := "Update", upsert := some .docAsUpsert,
    charset := " Utf8\t" }

/-- A number over three lines, behind a byte order mark. -/
def markedContent : Bytes := byteOrderMark ++ [0x0D, 0x0D, 0x0A, 0x31]

theorem markedContent_embedded :
    markedOperation.check = .ok (.update, some "1") ∧ Embeds .update markedOperation ∧
      NamesUtf8 markedOperation.charset ∧ ∃ line : String, '\n' ∉ line.toList ∧
        Utf8.encode line = Utf8.encode "\x7b\"doc\":" ++ (byteOrderMark ++ [0x20, 0x20, 0x31]) ++
          Utf8.encode ",\"doc_as_upsert\":true\x7d" ∧
        Request.push {} 0 markedOperation markedContent =
          { payload := "" ++ ((actionJson .update markedOperation (some "1")).render ++ "\n" ++
              (line ++ "\n"))
            pending := [0]
            excluded := ([] : List (Nat × Exclusion)) } := by
  have hcheck : markedOperation.check = .ok (.update, some "1") := by cbv
  have hembeds : Embeds .update markedOperation := .inr ⟨.inl rfl, by decide⟩
  have hlabel : NamesUtf8 markedOperation.charset := by decide
  have hcontent : Utf8.WellFormed markedContent :=
    Utf8.wellFormed_iff_decode?.2 (by decide)
  exact ⟨hcheck, hembeds, hlabel,
    (push_embeds_utf8 {} 0 markedContent hcheck hembeds hlabel).2.1 hcontent⟩

end RecordFlow.Bulk
