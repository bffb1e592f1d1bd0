import RecordFlow.Bulk.Payload
import RecordFlow.Proofs.Text.SingleLine

/-!
# What an operation asks for

The words of the four kinds, the labels of charsets and the bodies are stated here as a reader of
bulk requests knows them.  A word names the kind that it spells, and the body of an operation is
nothing, its script, or the content of its record, on one line.  What the functions of the
library compute agrees with these statements, and the other theorems on operations rest on them.
-/

namespace RecordFlow.Bulk

/-! ## Words and labels -/

/-- The texts are equal up to ASCII case. -/
def SameLetters (a b : String) : Prop := a.toList.map Char.toLower = b.toList.map Char.toLower

instance (a b : String) : Decidable (SameLetters a b) :=
  inferInstanceAs (Decidable (a.toList.map Char.toLower = b.toList.map Char.toLower))

/-- The text is the word for the kind, up to ASCII case. -/
def Spells (text : String) : Kind → Prop
  | .index => SameLetters text "index"
  | .update => SameLetters text "update"
  | .upsert => SameLetters text "upsert"
  | .delete => SameLetters text "delete"

theorem spells_iff {text : String} {kind : Kind} :
    Spells text kind ↔ SameLetters text kind.word := by
  cases kind <;> exact Iff.rfl

instance (text : String) (kind : Kind) : Decidable (Spells text kind) :=
  decidable_of_iff _ spells_iff.symm

theorem Kind.lower_word (kind : Kind) : kind.word.toList.map Char.toLower = kind.word.toList := by
  cases kind <;> decide

theorem Kind.word_injective {kind other : Kind} (h : kind.word = other.word) : kind = other := by
  revert h
  cases kind <;> cases other <;> decide

/-- A text spells the kind whose word is its lower case form. -/
theorem spells_iff_lower {text : String} {kind : Kind} :
    Spells text kind ↔ kind.word = String.ofList (text.toList.map Char.toLower) := by
  rw [spells_iff, SameLetters, kind.lower_word, ← String.toList_inj, String.toList_ofList, eq_comm]

theorem spells_unique {text : String} {kind other : Kind} (h : Spells text kind)
    (h' : Spells text other) : kind = other :=
  Kind.word_injective ((spells_iff_lower.1 h).trans (spells_iff_lower.1 h').symm)

/-- A word names the kind that it spells. -/
theorem Kind.ofWord?_eq_some {text : String} {kind : Kind} :
    Kind.ofWord? text = some kind ↔ Spells text kind := by
  let spelled : Kind → Bool := fun other =>
    other.word == String.ofList (text.toList.map Char.toLower)
  have hfind : Kind.ofWord? text = [index, update, upsert, delete].find? spelled := rfl
  have hspelled (other : Kind) : spelled other = true ↔ Spells text other := by
    rw [beq_iff_eq, spells_iff_lower]
  rw [hfind]
  constructor
  · intro h
    exact (hspelled kind).1 (List.find?_some h)
  · intro h
    have hmem : kind ∈ [index, update, upsert, delete] := by cases kind <;> decide
    cases hfound : [index, update, upsert, delete].find? spelled with
    | none => exact absurd ((hspelled kind).2 h) (List.find?_eq_none.1 hfound kind hmem)
    | some other =>
      have hother := (hspelled other).1 (List.find?_some hfound)
      exact congrArg some (spells_unique hother h)

theorem Kind.ofWord?_eq_none {text : String} :
    Kind.ofWord? text = none ↔ ∀ kind : Kind, ¬ Spells text kind := by
  rw [Option.eq_none_iff_forall_ne_some]
  exact forall_congr' fun kind => not_congr Kind.ofWord?_eq_some

/-- The trimmed label is, in lower case, one of the labels of some charset. -/
def KnownLabel (label : String) : Prop :=
  ∃ line ∈ Charset.labels, ∃ known ∈ line.2,
    known.toList = (Text.trim label).toList.map Char.toLower

/-- A label names no charset exactly when it is not in the table of labels. -/
theorem ofLabel?_eq_none {label : String} :
    Charset.ofLabel? label = none ↔ ¬ KnownLabel label := by
  rw [Charset.ofLabel?, Option.map_eq_none_iff, List.find?_eq_none, KnownLabel, not_exists]
  refine forall_congr' fun line => ?_
  rw [not_and]
  refine imp_congr_right fun _ => not_congr ?_
  rw [List.contains_iff_mem, Text.trim, String.toList_ofList]
  constructor
  · intro hmem
    exact ⟨_, hmem, String.toList_ofList⟩
  · rintro ⟨known, hknown, hsame⟩
    rwa [← hsame, String.ofList_toList]

theorem knownLabel_of_ofLabel? {label : String} {charset : Charset}
    (h : Charset.ofLabel? label = some charset) : KnownLabel label := by
  apply Classical.byContradiction
  intro hunknown
  rw [ofLabel?_eq_none.2 hunknown] at h
  cases h

/-! ## Kinds of bodies -/

def Kind.Updates (kind : Kind) : Prop := kind = .update ∨ kind = .upsert

/-- The body of the operation holds its script and not the content. -/
def Scripted (kind : Kind) (operation : Operation) : Prop :=
  kind.Updates ∧ operation.upsert = some .scriptedUpsert

/-- The body of the operation holds the content. -/
def Embeds (kind : Kind) (operation : Operation) : Prop :=
  kind = .index ∨ kind.Updates ∧ operation.upsert ≠ some .scriptedUpsert

/-- There is no script, or it is white space only. -/
def Scriptless (operation : Operation) : Prop :=
  ∀ script, operation.script = some script → ∀ c ∈ script.toList, Text.isBlankChar c = true

theorem script?_eq_none {operation : Operation} :
    operation.script? = none ↔ Scriptless operation := by
  rw [Operation.script?, Option.filter_eq_none_iff, Scriptless]
  refine forall_congr' fun script => imp_congr_right fun _ => ?_
  rw [Bool.not_eq_true, Bool.not_eq_false', Text.isBlank_iff]

theorem script?_eq_some {operation : Operation} {script : String} :
    operation.script? = some script ↔
      operation.script = some script ∧ ¬ ∀ c ∈ script.toList, Text.isBlankChar c = true := by
  rw [Operation.script?, Option.filter_eq_some_iff, Bool.not_eq_true', ← Text.isBlank_iff,
    Bool.not_eq_true]

theorem not_scripted_delete {operation : Operation} : ¬ Scripted .delete operation := by
  rintro ⟨hkind | hkind, -⟩ <;> cases hkind

theorem not_embeds_delete {operation : Operation} : ¬ Embeds .delete operation := by
  rintro (hkind | ⟨hkind | hkind, -⟩) <;> cases hkind

theorem Scripted.not_embeds {kind : Kind} {operation : Operation} (h : Scripted kind operation) :
    ¬ Embeds kind operation := by
  rintro (rfl | ⟨-, hplain⟩)
  · obtain ⟨hkind | hkind, -⟩ := h <;> cases hkind
  · exact hplain h.2

/-- Every body is empty, holds the script, or holds the content. -/
theorem delete_or_scripted_or_embeds (kind : Kind) (operation : Operation) :
    kind = .delete ∨ Scripted kind operation ∨ Embeds kind operation := by
  by_cases hscripted : operation.upsert = some .scriptedUpsert
  · cases kind with
    | delete => exact .inl rfl
    | index => exact .inr (.inr (.inl rfl))
    | update => exact .inr (.inl ⟨.inl rfl, hscripted⟩)
    | upsert => exact .inr (.inl ⟨.inr rfl, hscripted⟩)
  · cases kind with
    | delete => exact .inl rfl
    | index => exact .inr (.inr (.inl rfl))
    | update => exact .inr (.inr (.inr ⟨.inl rfl, hscripted⟩))
    | upsert => exact .inr (.inr (.inr ⟨.inr rfl, hscripted⟩))

/-! ## Body lines -/

/-- The texts before and behind the content in the body of an operation. -/
def surroundings (kind : Kind) (mode : Option UpsertMode) : String × String :=
  match kind, mode with
  | .index, _ => ("", "")
  | _, some .docAsUpsert => ("\x7b\"doc\":", ",\"doc_as_upsert\":true\x7d")
  | .upsert, _ => ("\x7b\"upsert\":", "\x7d")
  | _, _ => ("\x7b\"doc\":", "\x7d")

/-- The document between its surroundings. -/
def surround (kind : Kind) (mode : Option UpsertMode) (doc : String) : String :=
  (surroundings kind mode).1 ++ doc ++ (surroundings kind mode).2

/-- The script in the body of a scripted upsert. -/
def surroundScript (script : String) : String :=
  "\x7b\"upsert\":\x7b\x7d,\"scripted_upsert\":true,\"script\":" ++ script ++ "\x7d"

/-- The line is the text with one blank for each of its line breaks. -/
def IsLineOf (line text : String) : Prop := line.toList = Text.charMarks.blanked text.toList

/-- The body of an operation of this kind: nothing, its script, or the content in the charset that
it names. -/
inductive HasBody (operation : Operation) (content : Bytes) : Kind → Option String → Prop
  | deletion : HasBody operation content .delete none
  | scripted {kind : Kind} {script line : String} :
      Scripted kind operation → operation.script = some script →
      (¬ ∀ c ∈ script.toList, Text.isBlankChar c = true) → IsLineOf line script →
      HasBody operation content kind (some (surroundScript line))
  | embedded {kind : Kind} {charset : Charset} {text line : String} :
      Embeds kind operation → Charset.ofLabel? operation.charset = some charset →
      charset.decode? content = some text → IsLineOf line text →
      HasBody operation content kind (some (surround kind operation.upsert line))

theorem lineFeed_not_mem_of_isLineOf {line text : String} (h : IsLineOf line text) :
    '\n' ∉ line.toList := by
  rw [h]
  intro hmem
  exact Text.charMarks.not_isBreak_of_mem_blanked hmem (.inr rfl)

/-- A text on one line stays on one line between two others. -/
theorem lineFeed_not_mem_append {head doc tail : String} (hhead : '\n' ∉ head.toList)
    (hdoc : '\n' ∉ doc.toList) (htail : '\n' ∉ tail.toList) :
    '\n' ∉ (head ++ doc ++ tail).toList := by
  rw [String.toList_append, String.toList_append, List.mem_append, List.mem_append]
  rintro ((hmem | hmem) | hmem)
  · exact hhead hmem
  · exact hdoc hmem
  · exact htail hmem

theorem lineFeed_not_mem_surround {doc : String} (hdoc : '\n' ∉ doc.toList) (kind : Kind)
    (mode : Option UpsertMode) : '\n' ∉ (surround kind mode doc).toList := by
  have haround : '\n' ∉ (surroundings kind mode).1.toList ∧
      '\n' ∉ (surroundings kind mode).2.toList := by
    cases kind <;> rcases mode with _ | _ | _ <;> decide
  exact lineFeed_not_mem_append haround.1 hdoc haround.2

variable {kind : Kind} {operation : Operation} {content : Bytes} {text : Option String}

/-- A deletion has no body, and the body of any other operation is a single line. -/
theorem HasBody.none_or_line (h : HasBody operation content kind text) :
    (kind = .delete ∧ text = none) ∨
      (kind ≠ .delete ∧ ∃ line, text = some line ∧ '\n' ∉ line.toList) := by
  cases h with
  | deletion => exact .inl ⟨rfl, rfl⟩
  | scripted hscripted hscript hwritten hline =>
    have hkind : kind ≠ .delete := fun hdelete => not_scripted_delete (hdelete ▸ hscripted)
    refine .inr ⟨hkind, _, rfl, lineFeed_not_mem_append (by decide) ?_ (by decide)⟩
    exact lineFeed_not_mem_of_isLineOf hline
  | embedded hembeds hcharset htext hline =>
    have hkind : kind ≠ .delete := fun hdelete => not_embeds_delete (hdelete ▸ hembeds)
    refine .inr ⟨hkind, _, rfl, lineFeed_not_mem_surround ?_ _ _⟩
    exact lineFeed_not_mem_of_isLineOf hline

/-! ## Bodies as they are made -/

variable (charset : Charset) (content)

theorem body_eq_script (h : Scripted kind operation) :
    body kind operation charset content =
      match operation.script? with
      | some script => .ok (some (surroundScript (Text.flatten script)))
      | none => .error .missingScript := by
  obtain ⟨rfl | rfl, hscripted⟩ := h
  all_goals
    simp only [body, hscripted]
    rfl

theorem body_eq_surround (h : Embeds kind operation) :
    body kind operation charset content =
      (document charset content).map fun doc => some (surround kind operation.upsert doc) := by
  obtain rfl | ⟨rfl | rfl, hplain⟩ := h
  · have hbare (doc : String) : surround .index operation.upsert doc = doc := by
      rw [surround, surroundings, String.empty_append, String.append_empty]
    simp only [hbare, body]
  all_goals
    rcases hmode : operation.upsert with _ | _ | _
    · simp only [body, hmode]
      rfl
    · simp only [body, hmode]
      rfl
    · exact absurd hmode hplain

/-- A scripted body fails for want of a script, whatever the content is. -/
theorem body_of_scripted (h : Scripted kind operation) :
    (Scriptless operation ∧ body kind operation charset content = .error .missingScript) ∨
      (¬ Scriptless operation ∧ ∃ text, body kind operation charset content = .ok text) := by
  rw [← script?_eq_none, body_eq_script content charset h]
  cases operation.script? with
  | none => exact .inl ⟨rfl, rfl⟩
  | some script => exact .inr ⟨Option.some_ne_none script, _, rfl⟩

/-- A body that holds the content fails when the content is malformed. -/
theorem body_of_embeds (h : Embeds kind operation) :
    (charset.decode? content = none ∧
        body kind operation charset content = .error (.undecodable charset)) ∨
      (charset.decode? content ≠ none ∧
        ∃ text, body kind operation charset content = .ok text) := by
  rw [body_eq_surround content charset h, document]
  cases hdecode : charset.decode? content with
  | none => exact .inl ⟨rfl, rfl⟩
  | some text => exact .inr ⟨by simp, _, rfl⟩

variable {charset content}

/-- A body that is made is the body of its operation. -/
theorem hasBody_of_body (hcharset : Charset.ofLabel? operation.charset = some charset)
    (h : body kind operation charset content = .ok text) :
    HasBody operation content kind text := by
  rcases delete_or_scripted_or_embeds kind operation with rfl | hscripted | hembeds
  · have hnone : body .delete operation charset content = .ok none := rfl
    rw [hnone] at h
    cases h
    exact .deletion
  · rw [body_eq_script content charset hscripted] at h
    cases hscript : operation.script? with
    | none =>
      rw [hscript] at h
      cases h
    | some script =>
      rw [hscript] at h
      cases h
      obtain ⟨hsource, hwritten⟩ := script?_eq_some.1 hscript
      exact .scripted hscripted hsource hwritten (Text.toList_flatten script)
  · rw [body_eq_surround content charset hembeds, document] at h
    cases hdecode : charset.decode? content with
    | none =>
      rw [hdecode] at h
      cases h
    | some source =>
      rw [hdecode] at h
      cases h
      exact .embedded hembeds hcharset hdecode (Text.toList_flatten source)

end RecordFlow.Bulk
