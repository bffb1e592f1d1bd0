import RecordFlow.Proofs.Json.Nesting

/-!
# Texts as members of objects

An object is written around a text that stays as it is, up to its line breaks.  It is
read as the object with the value of that text as one member: the text neither ends the
object nor adds members to it.
-/

namespace RecordFlow.Json

open Utf8 (encodeChars)

/-- An object around one of its members: the members before it, its name and the members
after it. -/
structure Envelope where
  front : List (String × Json)
  name : String
  back : List (String × Json)
  /-- The other members can be read back, and no name occurs twice. -/
  readable : Exact (.object (front ++ (name, .null) :: back))
  /-- The other members leave the object within the limit. -/
  shallow : depth (.object (front ++ (name, .null) :: back)) ≤ depthLimit

def leadingChars : List (String × Json) → List Char
  | [] => []
  | (name, value) :: members =>
    stringChars name ++ ':' :: (value.chars ++ ',' :: leadingChars members)

namespace Envelope

/-- The text before that of the member. -/
def head (e : Envelope) : String :=
  String.ofList ('\x7b' :: (leadingChars e.front ++ (stringChars e.name ++ [':'])))

/-- The text after that of the member. -/
def tail (e : Envelope) : String := String.ofList (membersChars e.back)

/-- The object with this text as the member. -/
def wrap (e : Envelope) (source : String) : String := e.head ++ source ++ e.tail

/-- The object with this value as the member. -/
def around (e : Envelope) (value : Json) : Json :=
  .object (e.front ++ (e.name, value) :: e.back)

/-- The object with this document as the member. -/
def document (e : Envelope) (d : Document) : Document :=
  .object (membersDocument e.front ++ (.text (some e.name), d) :: membersDocument e.back)

end Envelope

/-! ## Members of objects -/

theorem membersExact_append {a b : List (String × Json)} :
    MembersExact (a ++ b) ↔ MembersExact a ∧ MembersExact b := by
  induction a with
  | nil => simp [MembersExact]
  | cons member a ih =>
    rw [List.cons_append, MembersExact, MembersExact, ih, and_assoc]

theorem membersDepth_append (a b : List (String × Json)) :
    membersDepth (a ++ b) = max (membersDepth a) (membersDepth b) := by
  induction a with
  | nil => simp [membersDepth]
  | cons member a ih =>
    rw [List.cons_append, membersDepth, membersDepth, ih, Nat.max_assoc]

/-- More members are set in what the first ones are decoded to. -/
theorem objectMembers_append {limit : Nat} {a b : List (Document × Document)}
    {done done' vs : List (String × Json)} (h : Decode.objectMembers limit done a = .ok done')
    (h' : Decode.objectMembers limit done' b = .ok vs) :
    Decode.objectMembers limit done (a ++ b) = .ok vs := by
  induction a generalizing done with
  | nil =>
    cases h
    exact h'
  | cons member a ih =>
    obtain ⟨name, v, hkey, hd, hmembers⟩ := objectMembers_cons_eq_ok.1 h
    exact objectMembers_cons_eq_ok.2 ⟨name, v, hkey, hd, ih hmembers⟩

/-! ## Reading an envelope -/

/-- The container takes a name, after the members `done`. -/
def TakesName (done : List (Document × Document)) (frame : Frame) : Prop :=
  ∀ name frames, Assembly.acceptText name (frame :: frames) =
    .inside (.objectColon done name :: frames)

/-- Leading members are read where a name may stand, and another name must follow. -/
theorem assemble_leadingChars (front : List (String × Json)) (hfront : MembersExact front)
    {done : List (Document × Document)} {frame : Frame} (hframe : TakesName done frame)
    (frames : List Frame) (rest : Bytes) :
    ∃ next, TakesName ((membersDocument front).reverse ++ done) next ∧
      assemble (.inside (frame :: frames)) (encodeChars (leadingChars front) ++ rest) =
        assemble (.inside (next :: frames)) rest := by
  induction front generalizing done frame with
  | nil => exact ⟨frame, hframe, rfl⟩
  | cons member front ih =>
    obtain ⟨name, value⟩ := member
    have hnext : TakesName ((.text (some name), value.document) :: done)
        (.objectName ((.text (some name), value.document) :: done)) := fun _ _ => rfl
    obtain ⟨next, htakes, hread⟩ := ih hfront.2 hnext
    refine ⟨next, ?_, ?_⟩
    · rwa [membersDocument, List.reverse_cons, List.append_assoc, List.singleton_append]
    · have hcomma := encodeChars_mark_append (c := ',') rfl (leadingChars front) rest
      have hends : EndsNumber (encodeChars (',' :: leadingChars front) ++ rest) := by
        rw [hcomma]
        exact endsNumber_cons (by decide) _
      rw [leadingChars, assemble_name (hframe _ _), Utf8.encodeChars_append, List.append_assoc,
        assemble_chars value hfront.1 (by trivial) hends, hcomma, assemble_mark _ _ rfl rfl]
      exact hread

namespace Envelope

variable (e : Envelope)

theorem exact_front : MembersExact e.front := (membersExact_append.1 e.readable.2).1

theorem exact_back : MembersExact e.back := (membersExact_append.1 e.readable.2).2.2

theorem nodup_names : (e.front.map Prod.fst ++ e.name :: e.back.map Prod.fst).Nodup := by
  have hreadable := e.readable.1
  rwa [List.map_append] at hreadable

/-- The container behind the head: a value must follow. -/
def opened : List Frame := [.objectValue (membersDocument e.front).reverse (.text (some e.name))]

theorem assemble_head (rest : Bytes) :
    assemble (.inside []) (Utf8.encode e.head ++ rest) = assemble (.inside e.opened) rest := by
  have hstart : TakesName [] .objectStart := fun _ _ => rfl
  obtain ⟨frame, hframe, hfront⟩ := assemble_leadingChars e.front e.exact_front hstart []
    (encodeChars (stringChars e.name ++ [':']) ++ rest)
  rw [List.append_nil] at hframe
  rw [head, Utf8.encode_ofList, encodeChars_mark_append rfl, assemble_mark _ _ rfl rfl,
    Utf8.encodeChars_append, List.append_assoc]
  exact hfront.trans (assemble_name (hframe _ _) [] rest)

theorem assemble_tail (d : Document) :
    assemble (.accept d e.opened) (Utf8.encode e.tail) = .finished (e.document d) := by
  have hback := assemble_membersChars e.back e.exact_back
    ((.text (some e.name), d) :: (membersDocument e.front).reverse) [] []
  rw [List.append_nil, List.reverse_cons, List.reverse_reverse, List.append_assoc,
    assemble_nil] at hback
  rw [tail, Utf8.encode_ofList]
  exact hback

/-- A complete text becomes one member, with the document that it is alone. -/
theorem ofBytes_wrap {source : String} {d : Document}
    (h : Reading.ofBytes (Utf8.encode source) = ⟨d, true⟩) :
    Reading.ofBytes (Utf8.encode (e.wrap (Text.flatten source))) = ⟨e.document d, true⟩ := by
  have hopened : NeedsValue e.opened := trivial
  have hends : EndsNumber (Utf8.encode e.tail) := by
    rw [tail, Utf8.encode_ofList, ← List.append_nil (encodeChars _)]
    exact endsNumber_membersChars e.back []
  apply ofBytes_eq_complete.2
  calc assemble (.inside []) (Utf8.encode (e.wrap (Text.flatten source)))
      = assemble (.inside []) (Utf8.encode e.head ++
          (Utf8.encode (Text.flatten source) ++ Utf8.encode e.tail)) := by
        rw [wrap, Utf8.encode_append, Utf8.encode_append, List.append_assoc]
    _ = assemble (.inside e.opened) (Utf8.encode (Text.flatten source) ++ Utf8.encode e.tail) :=
        e.assemble_head _
    _ = assemble (.accept d e.opened) (Utf8.encode e.tail) := assemble_flatten hopened h hends
    _ = .finished (e.document d) := e.assemble_tail d

/-- The object of a document is decoded around the value of the document. -/
theorem value_document {limit : Nat} (hlimit : limit + 1 = depthLimit) {d : Document} {v : Json}
    (h : Decode.value limit d = .ok v) :
    Decode.value depthLimit (e.document d) = .ok (e.around v) := by
  have hshallow : membersDepth (e.front ++ (e.name, .null) :: e.back) ≤ limit := by
    have hdepth := e.shallow
    rw [← hlimit, depth] at hdepth
    exact Nat.le_of_succ_le_succ hdepth
  rw [membersDepth_append, membersDepth, Nat.max_le, Nat.max_le] at hshallow
  have hnames := List.nodup_append.1 e.nodup_names
  have hfront : Decode.objectMembers limit [] (membersDocument e.front) = .ok e.front :=
    objectMembers_membersDocument e.front e.exact_front hshallow.1 [] hnames.1
  have hset : setMember e.front e.name v = e.front ++ [(e.name, v)] :=
    setMember_of_not_mem v fun hmem => hnames.2.2 e.name hmem e.name List.mem_cons_self rfl
  have hback : Decode.objectMembers limit (setMember e.front e.name v)
      (membersDocument e.back) = .ok (e.front ++ (e.name, v) :: e.back) := by
    have hall : ((e.front ++ [(e.name, v)] ++ e.back).map Prod.fst).Nodup := by
      rw [List.append_assoc, List.map_append]
      exact e.nodup_names
    rw [hset, objectMembers_membersDocument e.back e.exact_back hshallow.2.2 _ hall,
      List.append_assoc, List.singleton_append]
  have hname : Decode.name (.text (some e.name)) = .ok e.name := rfl
  have hmembers := objectMembers_append hfront
    (objectMembers_cons_eq_ok.2 ⟨e.name, v, hname, h, hback⟩)
  rw [document, ← hlimit, Decode.value, hmembers]
  rfl

/-- A text inside an envelope has the value that it has alone, if one more container does
not nest too deep. -/
theorem parse_wrap {source : String} {v : Json} (h : parse (Utf8.encode source) = .ok v)
    (hroom : nesting source < depthLimit) :
    parse (Utf8.encode (e.wrap (Text.flatten source))) = .ok (e.around v) := by
  obtain ⟨d, hread, hvalue⟩ := decodeBytes_eq_ok.1 h
  rw [nesting, hread] at hroom
  have hinside : Decode.value (depthLimit - 1) d = .ok v :=
    value_of_nesting_le d hvalue (Nat.le_pred_of_lt hroom)
  exact decodeBytes_eq_ok.2 ⟨e.document d, e.ofBytes_wrap hread, e.value_document rfl hinside⟩

end Envelope

end RecordFlow.Json
