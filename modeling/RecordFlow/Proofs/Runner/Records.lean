import RecordFlow.Proofs.Json.Fields
import RecordFlow.Proofs.Text.LineBreaks
import RecordFlow.Runner.Records
import Mathlib

/-!
# Routed records are read back

Routed records are written as one line of JSON each, whatever texts they hold.  The
written lines are valid input: reading them gives the records back, less the outputs and
the marks, which the reader skips.  Content that is no UTF-8 comes back as it was shown.
-/

namespace RecordFlow.Runner

open Json (document membersDocument)

/-! ## One line -/

/-- A record as it is read back from its line. -/
def restored (r : Record) : Record :=
  { content := Utf8.encode r.contentText, attributes := r.attributes }

theorem exact_attributesJson (attributes : Dictionary String) :
    (attributesJson attributes).Exact :=
  Json.exact_dictionary Json.text (fun _ => trivial) attributes

theorem exact_outputLine (entry : Output × Record) : (outputLine entry).Exact :=
  ⟨by simp, trivial, exact_attributesJson _, trivial, trivial, trivial⟩

theorem depth_outputLine (entry : Output × Record) :
    (outputLine entry).depth ≤ Json.depthLimit := by
  have htexts (members : List (String × String)) :
      Json.membersDepth (members.map fun member => (member.1, .text member.2)) = 0 := by
    induction members with
    | nil => rfl
    | cons member members ih =>
      rw [List.map_cons, Json.membersDepth, ih]
      rfl
  rw [outputLine, attributesJson]
  simp only [Json.depth, Json.membersDepth, htexts]
  decide

/-- The reader takes the attributes and the content from a written line, and skips the
output and the mark. -/
theorem decoder_outputLine (entry : Output × Record) :
    InputLine.shape.decoder Json.depthLimit (outputLine entry).document =
      .ok ⟨entry.2.attributes, .text entry.2.contentText⟩ := by
  have hattributes : Json.Decode.dictionary Json.Decode.text 126
      (attributesJson entry.2.attributes).document = .ok entry.2.attributes :=
    Json.dictionary_document Json.text (fun _ => rfl) entry.2.attributes
  have hfields : InputLine.shape.decoder Json.depthLimit (outputLine entry).document =
      InputLine.shape.ofMembers 126 (membersDocument [
        ("relationship", .text entry.1.name),
        ("attributes", attributesJson entry.2.attributes),
        ("content", .text entry.2.contentText),
        ("penalized", .bool entry.2.penalized)]) [] {} := rfl
  rw [hfields]
  simp only [membersDocument]
  rw [Json.Shape.ofMembers_unknown rfl, Json.Shape.ofMembers_field rfl (by simp)
    (Json.Field.read_of hattributes _), Json.Shape.ofMembers_field rfl (by simp)
    (Json.Field.read_of rfl _), Json.Shape.ofMembers_unknown rfl]
  rfl

/-- A written line is not blank and ends in no carriage return. -/
theorem isBlank_outputLine (entry : Output × Record) :
    Text.isBlank (outputLine entry).render = false := by
  rw [Text.isBlank, Json.render, String.toList_ofList, outputLine, Json.chars, List.all_cons]
  rfl

theorem dropCarriageReturn_outputLine (entry : Output × Record) :
    Text.dropCarriageReturn (Utf8.encode (outputLine entry).render) =
      Utf8.encode (outputLine entry).render := by
  have hnone : 0x0D ∉ Utf8.encode (outputLine entry).render := by
    rw [Utf8.encode, Json.render, String.toList_ofList, Utf8.mem_encodeChars_ascii (by decide)]
    rintro ⟨c, hc, hreturn⟩
    have hprintable := Json.printable_chars _ (exact_outputLine entry) c hc
    rw [hreturn] at hprintable
    exact absurd hprintable (by decide)
  have hlast : (Utf8.encode (outputLine entry).render).getLast? ≠ some 0x0D :=
    fun h => hnone (List.mem_of_getLast? h)
  rw [Text.dropCarriageReturn, if_neg (by simpa using hlast)]

/-- A written line is read as its record. -/
theorem readLine_outputLine (number : Nat) (entry : Output × Record) :
    readLine number (Utf8.encode (outputLine entry).render) = .ok (some (restored entry.2)) := by
  rw [readLine, Utf8.decode?_encode, Json.decodeBytes_render _ (exact_outputLine entry),
    decoder_outputLine]
  simp only [isBlank_outputLine]
  rfl

/-! ## All lines -/

def writtenLines (entries : List (Output × Record)) : List Bytes :=
  entries.map fun entry => Utf8.encode (outputLine entry).render

theorem encode_writeRouted (entries : List (Output × Record)) :
    Utf8.encode (writeRouted entries) = (writtenLines entries).flatMap (· ++ [0x0A]) := by
  induction entries with
  | nil => rfl
  | cons entry entries ih =>
    have hcons : writtenLines (entry :: entries) =
        Utf8.encode (outputLine entry).render :: writtenLines entries := rfl
    rw [writeRouted] at ih ⊢
    rw [List.map_cons, String.join_cons, Utf8.encode_append, ih, Utf8.encode_append, hcons,
      List.flatMap_cons]
    rfl

theorem cutLines_writeRouted (entries : List (Output × Record)) :
    Text.cutLines (Utf8.encode (writeRouted entries)) = writtenLines entries := by
  induction entries with
  | nil => rfl
  | cons entry entries ih =>
    rw [writeRouted] at ih ⊢
    rw [List.map_cons, String.join_cons, Utf8.encode_append,
      Text.cutLines_encode (Json.lineFeed_not_mem_render (exact_outputLine entry)), ih]
    rfl

theorem readLines_writtenLines (number : Nat) (entries : List (Output × Record)) :
    readLines number (writtenLines entries) = .ok (entries.map fun entry => restored entry.2) := by
  induction entries generalizing number with
  | nil => rfl
  | cons entry entries ih =>
    rw [writtenLines, List.map_cons, ← writtenLines, readLines, dropCarriageReturn_outputLine,
      readLine_outputLine, ih]
    rfl

/-- Writing routed records and reading them again.  There is one line for each record, with
no line feed inside it, and it says where the record went.  Reading takes all lines and
gives the records in order with their content and attributes, but without marks. -/
theorem readRecords_writeRouted (entries : List (Output × Record)) :
    let output := Utf8.encode (writeRouted entries)
    (∃ lines : List Bytes, output = lines.flatMap (· ++ [0x0A]) ∧
      List.Forall₂ (fun line entry => 0x0A ∉ line ∧ Json.parse line = .ok (outputLine entry))
        lines entries) ∧
    ∃ records, readRecords output = .ok records ∧
      List.Forall₂ (fun r entry => r.attributes = entry.2.attributes ∧ r.penalized = false ∧
          r.content = Utf8.encode (Utf8.decodeLossy entry.2.content) ∧
          ∀ text, entry.2.content = Utf8.encode text → r.content = entry.2.content)
        records entries := by
  intro output
  refine ⟨⟨writtenLines entries, encode_writeRouted entries, ?_⟩,
    entries.map fun entry => restored entry.2, ?_, ?_⟩
  · rw [writtenLines, List.forall₂_map_left_iff, List.forall₂_same]
    intro entry _
    refine ⟨?_, Json.parse_render (exact_outputLine entry) (depth_outputLine entry)⟩
    rw [Utf8.encode, Utf8.lineFeed_mem_encodeChars]
    exact Json.lineFeed_not_mem_render (exact_outputLine entry)
  · rw [readRecords, cutLines_writeRouted, readLines_writtenLines]
  · rw [List.forall₂_map_left_iff, List.forall₂_same]
    intro entry _
    refine ⟨rfl, rfl, rfl, ?_⟩
    intro text htext
    rw [restored, Record.contentText, htext, Utf8.decodeLossy_encode]

end RecordFlow.Runner
