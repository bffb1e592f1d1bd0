import RecordFlow.Json.Fields
import RecordFlow.Proofs.Json.Printed

/-!
# The JSON round trip

Reading inverts printing for every value without doubles whose objects name each member
once: the printed text is one complete document, and decoding the document gives the
value back.  Containers may nest as deep as the reader goes.  The printed text is a
single line.
-/

namespace RecordFlow.Json

open Utf8 (encodeChars)

/-! ## The document of a value -/

mutual

/-- The document that a printed value is read as. -/
def document : Json → Document
  | .null => .null
  | .bool b => .bool b
  | .number n => .number (some n)
  | .text s => .text (some s)
  | .array items => .array (itemsDocument items)
  | .object members => .object (membersDocument members)

def itemsDocument : List Json → List Document
  | [] => []
  | item :: items => document item :: itemsDocument items

def membersDocument : List (String × Json) → List (Document × Document)
  | [] => []
  | (name, value) :: members => (.text (some name), document value) :: membersDocument members

end

mutual

/-- The value has no doubles, and no object in it uses a name twice. -/
def Exact : Json → Prop
  | .number n => n.Exact
  | .array items => ItemsExact items
  | .object members => (members.map Prod.fst).Nodup ∧ MembersExact members
  | _ => True

def ItemsExact : List Json → Prop
  | [] => True
  | item :: items => Exact item ∧ ItemsExact items

def MembersExact : List (String × Json) → Prop
  | [] => True
  | (_, value) :: members => Exact value ∧ MembersExact members

end

mutual

/-- How many containers a value nests. -/
def depth : Json → Nat
  | .array items => itemsDepth items + 1
  | .object members => membersDepth members + 1
  | _ => 0

def itemsDepth : List Json → Nat
  | [] => 0
  | item :: items => max (depth item) (itemsDepth items)

def membersDepth : List (String × Json) → Nat
  | [] => 0
  | (_, value) :: members => max (depth value) (membersDepth members)

end

/-! ## Assembling the printed text -/

def assemble (assembly : Assembly) (bytes : Bytes) : Assembly :=
  (tokens bytes).foldl Assembly.step assembly

@[simp] theorem assemble_nil (assembly : Assembly) : assemble assembly [] = assembly := by
  rw [assemble, tokens]
  rfl

theorem assemble_of_tokens {bytes rest : Bytes} {token : Token}
    (h : tokens bytes = token :: tokens rest) (assembly : Assembly) :
    assemble assembly bytes = assemble (assembly.step token) rest := by
  rw [assemble, h, List.foldl_cons, assemble]

theorem assemble_mark {b : UInt8} {token : Token} (assembly : Assembly) (rest : Bytes)
    (hlayout : isLayout b = false) (h : mark? b = some token) :
    assemble assembly (b :: rest) = assemble (assembly.step token) rest :=
  assemble_of_tokens (tokens_of_mark hlayout h rest) assembly

/-- The innermost open container, if there is one, waits for a value. -/
def TakesValue : List Frame → Prop
  | [] | .arrayStart :: _ | .arrayItem _ :: _ | .objectValue _ _ :: _ => True
  | _ => False

theorem descend_of_takesValue {frames : List Frame} (h : TakesValue frames) (frame : Frame) :
    Assembly.descend frame frames = .inside (frame :: frames) := by
  unfold TakesValue at h
  split at h
  all_goals first | rfl | exact absurd h id

theorem acceptText_of_takesValue {frames : List Frame} (h : TakesValue frames)
    (value : Document) : Assembly.acceptText value frames = Assembly.accept value frames := by
  unfold TakesValue at h
  split at h
  all_goals first | rfl | exact absurd h id

theorem endsNumber_cons {b : UInt8}
    (h : digitByte? b = none ∧ b ≠ 0x2E ∧ b ≠ 0x65 ∧ b ≠ 0x45) (rest : Bytes) :
    EndsNumber (b :: rest) := by
  intro c hc
  rw [List.head?_cons, Option.mem_some_iff] at hc
  exact hc ▸ h

theorem endsNumber_itemsChars (items : List Json) (rest : Bytes) :
    EndsNumber (encodeChars (itemsChars items) ++ rest) := by
  cases items with
  | nil => exact endsNumber_cons (by decide) rest
  | cons item items =>
    rw [itemsChars, Utf8.encodeChars_cons, List.append_assoc]
    exact endsNumber_cons (by decide) _

theorem endsNumber_membersChars (members : List (String × Json)) (rest : Bytes) :
    EndsNumber (encodeChars (membersChars members) ++ rest) := by
  cases members with
  | nil => exact endsNumber_cons (by decide) rest
  | cons member members =>
    rw [membersChars, Utf8.encodeChars_cons, List.append_assoc]
    exact endsNumber_cons (by decide) _

theorem encodeChars_mark_append {c : Char} {b : UInt8} (h : String.utf8EncodeChar c = [b])
    (text : List Char) (rest : Bytes) :
    encodeChars (c :: text) ++ rest = b :: (encodeChars text ++ rest) := by
  rw [Utf8.encodeChars_cons, h, List.append_assoc, List.singleton_append]

/-- Where a name may stand, a printed name and its colon are read. -/
theorem assemble_name {name : String} {frames frames' : List Frame}
    {done : List (Document × Document)} (h : Assembly.acceptText (.text (some name)) frames =
      .inside (.objectColon done (.text (some name)) :: frames'))
    (text : List Char) (rest : Bytes) :
    assemble (.inside frames) (encodeChars (stringChars name ++ ':' :: text) ++ rest) =
      assemble (.inside (.objectValue done (.text (some name)) :: frames'))
        (encodeChars text ++ rest) := by
  rw [Utf8.encodeChars_append, List.append_assoc, assemble_of_tokens (tokens_stringChars name _)]
  simp only [Assembly.step, Assembly.read, textOfPieces?_piecesOfText, h]
  rw [encodeChars_mark_append rfl, assemble_mark _ _ rfl rfl]
  rfl

mutual

/-- A printed value is put as its document into the container that waits for it. -/
theorem assemble_chars (value : Json) (hvalue : value.Exact) {frames : List Frame}
    (hframes : TakesValue frames) {rest : Bytes} (hrest : EndsNumber rest) :
    assemble (.inside frames) (encodeChars value.chars ++ rest) =
      assemble (.accept value.document frames) rest := by
  match value with
  | .null => exact assemble_of_tokens (tokens_null rest) _
  | .bool true => exact assemble_of_tokens (tokens_true rest) _
  | .bool false => exact assemble_of_tokens (tokens_false rest) _
  | .number n =>
    rw [chars, assemble_of_tokens (tokens_number hvalue hrest)]
    simp only [Assembly.step, Assembly.read, value?_literal hvalue, document]
  | .text s =>
    rw [chars, assemble_of_tokens (tokens_stringChars s rest)]
    simp only [Assembly.step, Assembly.read, textOfPieces?_piecesOfText,
      acceptText_of_takesValue hframes, document]
  | .array [] =>
    rw [chars, encodeChars_mark_append rfl, assemble_mark _ _ rfl rfl,
      encodeChars_mark_append rfl, assemble_mark _ _ rfl rfl]
    simp only [Assembly.step, Assembly.read, descend_of_takesValue hframes]
    rfl
  | .array (item :: items) =>
    rw [chars, encodeChars_mark_append rfl, assemble_mark _ _ rfl rfl]
    simp only [Assembly.step, Assembly.read, descend_of_takesValue hframes]
    rw [Utf8.encodeChars_append, List.append_assoc,
      assemble_chars item hvalue.1 (by trivial) (endsNumber_itemsChars items rest)]
    exact assemble_itemsChars items hvalue.2 [item.document] frames rest
  | .object [] =>
    rw [chars, encodeChars_mark_append rfl, assemble_mark _ _ rfl rfl,
      encodeChars_mark_append rfl, assemble_mark _ _ rfl rfl]
    simp only [Assembly.step, Assembly.read, descend_of_takesValue hframes]
    rfl
  | .object ((name, value) :: members) =>
    rw [chars, encodeChars_mark_append rfl, assemble_mark _ _ rfl rfl]
    simp only [Assembly.step, Assembly.read, descend_of_takesValue hframes]
    rw [assemble_name rfl, Utf8.encodeChars_append, List.append_assoc,
      assemble_chars value hvalue.2.1 (by trivial) (endsNumber_membersChars members rest)]
    exact assemble_membersChars members hvalue.2.2 [(.text (some name), value.document)]
      frames rest

theorem assemble_itemsChars (items : List Json) (hitems : ItemsExact items)
    (done : List Document) (frames : List Frame) (rest : Bytes) :
    assemble (.inside (.arrayNext done :: frames)) (encodeChars (itemsChars items) ++ rest) =
      assemble (.accept (.array (done.reverse ++ itemsDocument items)) frames) rest := by
  match items with
  | [] =>
    rw [itemsChars, encodeChars_mark_append rfl, assemble_mark _ _ rfl rfl, itemsDocument,
      List.append_nil]
    rfl
  | item :: items =>
    rw [itemsChars, encodeChars_mark_append rfl, assemble_mark _ _ rfl rfl]
    simp only [Assembly.step, Assembly.read]
    rw [Utf8.encodeChars_append, List.append_assoc,
      assemble_chars item hitems.1 (by trivial) (endsNumber_itemsChars items rest)]
    have htail := assemble_itemsChars items hitems.2 (item.document :: done) frames rest
    rwa [List.reverse_cons, List.append_assoc] at htail

theorem assemble_membersChars (members : List (String × Json)) (hmembers : MembersExact members)
    (done : List (Document × Document)) (frames : List Frame) (rest : Bytes) :
    assemble (.inside (.objectNext done :: frames)) (encodeChars (membersChars members) ++ rest) =
      assemble (.accept (.object (done.reverse ++ membersDocument members)) frames) rest := by
  match members with
  | [] =>
    rw [membersChars, encodeChars_mark_append rfl, assemble_mark _ _ rfl rfl, membersDocument,
      List.append_nil]
    rfl
  | (name, value) :: members =>
    rw [membersChars, encodeChars_mark_append rfl, assemble_mark _ _ rfl rfl]
    simp only [Assembly.step, Assembly.read]
    rw [assemble_name rfl, Utf8.encodeChars_append, List.append_assoc,
      assemble_chars value hmembers.1 (by trivial) (endsNumber_membersChars members rest)]
    have htail := assemble_membersChars members hmembers.2
      ((.text (some name), value.document) :: done) frames rest
    rwa [List.reverse_cons, List.append_assoc] at htail

end

/-- A printed value is one complete document. -/
theorem ofBytes_chars {value : Json} (hvalue : value.Exact) :
    Reading.ofBytes (encodeChars value.chars) = ⟨value.document, true⟩ := by
  have hends : EndsNumber [] := fun b hb => absurd hb (Option.not_mem_none b)
  have htop : TakesValue [] := trivial
  have hread := assemble_chars value hvalue htop hends
  rw [List.append_nil, assemble_nil, assemble] at hread
  rw [Reading.ofBytes, Reading.ofTokens, hread]
  rfl

/-! ## Decoding the document -/

theorem setMember_of_not_mem {members : List (String × Json)} {name : String} (value : Json)
    (h : name ∉ members.map Prod.fst) :
    setMember members name value = members ++ [(name, value)] := by
  induction members with
  | nil => rfl
  | cons member members ih =>
    obtain ⟨first, v⟩ := member
    rw [List.map_cons, List.mem_cons, not_or] at h
    rw [setMember, if_neg (Ne.symm h.1), ih h.2, List.cons_append]

mutual

/-- Decoding the document of a value gives the value. -/
theorem value_document (v : Json) (hv : v.Exact) {limit : Nat} (hdepth : v.depth ≤ limit) :
    Decode.value limit v.document = .ok v := by
  match v with
  | .null | .bool _ | .number _ | .text _ => rfl
  | .array items =>
    obtain ⟨limit, rfl⟩ := Nat.exists_eq_succ_of_ne_zero (Nat.ne_of_gt (Nat.lt_of_lt_of_le
      (Nat.succ_pos _) hdepth))
    rw [document, Decode.value, values_itemsDocument items hv (Nat.le_of_succ_le_succ hdepth)]
    rfl
  | .object members =>
    obtain ⟨limit, rfl⟩ := Nat.exists_eq_succ_of_ne_zero (Nat.ne_of_gt (Nat.lt_of_lt_of_le
      (Nat.succ_pos _) hdepth))
    rw [document, Decode.value, objectMembers_membersDocument members hv.2
      (Nat.le_of_succ_le_succ hdepth) [] hv.1]
    rfl

theorem values_itemsDocument (items : List Json) (hitems : ItemsExact items) {limit : Nat}
    (hdepth : itemsDepth items ≤ limit) :
    Decode.values limit (itemsDocument items) = .ok items := by
  match items with
  | [] => rfl
  | item :: items =>
    rw [itemsDepth, Nat.max_le] at hdepth
    rw [itemsDocument, Decode.values, value_document item hitems.1 hdepth.1,
      values_itemsDocument items hitems.2 hdepth.2]

theorem objectMembers_membersDocument (members : List (String × Json))
    (hmembers : MembersExact members) {limit : Nat} (hdepth : membersDepth members ≤ limit)
    (done : List (String × Json)) (hnames : ((done ++ members).map Prod.fst).Nodup) :
    Decode.objectMembers limit done (membersDocument members) = .ok (done ++ members) := by
  match members with
  | [] =>
    rw [membersDocument, Decode.objectMembers, List.append_nil]
  | (name, v) :: members =>
    rw [membersDepth, Nat.max_le] at hdepth
    have hname : name ∉ done.map Prod.fst := by
      rw [List.map_append, List.map_cons, List.nodup_append] at hnames
      intro hmem
      exact hnames.2.2 name hmem name List.mem_cons_self rfl
    have hnext : done ++ (name, v) :: members = (done ++ [(name, v)]) ++ members := by
      rw [List.append_assoc, List.singleton_append]
    rw [hnext] at hnames ⊢
    rw [membersDocument, Decode.objectMembers]
    simp only [Decode.name, value_document v hmembers.1 hdepth.1, setMember_of_not_mem v hname]
    exact objectMembers_membersDocument members hmembers.2 hdepth.2 _ hnames

end

/-- A decoder is given the document of the value that was printed. -/
theorem decodeBytes_render {α : Type} (decoder : Decoder α) {value : Json}
    (hvalue : value.Exact) :
    decodeBytes decoder (Utf8.encode value.render) = decoder depthLimit value.document := by
  rw [decodeBytes, render, Utf8.encode_ofList, ofBytes_chars hvalue]
  cases decoder depthLimit value.document <;> rfl

/-- Reading inverts printing. -/
theorem parse_render {value : Json} (hvalue : value.Exact) (hdepth : value.depth ≤ depthLimit) :
    parse (Utf8.encode value.render) = .ok value := by
  rw [parse, decodeBytes_render _ hvalue, value_document value hvalue hdepth]

/-! ## On one line -/

/-- The text has no control characters of ASCII below the space. -/
def Printable (text : List Char) : Prop := ∀ c ∈ text, 0x20 ≤ c.toNat

theorem printable_of_all {text : List Char} (h : text.all (fun c => 0x20 ≤ c.toNat) = true) :
    Printable text := by
  intro c hc
  exact of_decide_eq_true (List.all_eq_true.1 h c hc)

theorem Printable.append {a b : List Char} (ha : Printable a) (hb : Printable b) :
    Printable (a ++ b) := by
  intro c hc
  rcases List.mem_append.1 hc with hc | hc
  · exact ha c hc
  · exact hb c hc

theorem Printable.cons {c : Char} {text : List Char} (hc : 0x20 ≤ c.toNat)
    (htext : Printable text) : Printable (c :: text) := by
  intro d hd
  rcases List.mem_cons.1 hd with rfl | hd
  · exact hc
  · exact htext d hd

theorem printable_escapeChar (c : Char) : Printable (escapeChar c) := by
  by_cases hc : isEscaped c = true
  · have hascii : c.toNat < 0x80 := by
      simp only [isEscaped, Bool.or_eq_true, beq_iff_eq, decide_eq_true_eq] at hc
      rcases hc with (rfl | rfl) | hc
      · decide
      · decide
      · omega
    have hall : ∀ n < 0x80,
        (escapeChar (Char.ofNat n)).all (fun d => 0x20 ≤ d.toNat) = true := by decide
    have hself := hall c.toNat hascii
    rw [Char.ofNat_toNat] at hself
    exact printable_of_all hself
  · rw [escapeChar_of_not_isEscaped (Bool.eq_false_iff.2 hc)]
    simp only [isEscaped, Bool.or_eq_true, decide_eq_true_eq, not_or, Nat.not_lt] at hc
    intro d hd
    rw [List.mem_singleton.1 hd]
    exact hc.2

theorem printable_stringChars (s : String) : Printable (stringChars s) := by
  have htext : Printable (s.toList.flatMap escapeChar) := by
    intro d hd
    obtain ⟨c, -, hd⟩ := List.mem_flatMap.1 hd
    exact printable_escapeChar c d hd
  rw [stringChars]
  exact .cons (by decide) (htext.append (printable_of_all rfl))

theorem printable_number {n : Number} (hn : n.Exact) : Printable n.render.toList := by
  have hdigits (k : Nat) : Printable (Nat.toDigits 10 k) := by
    intro d hd
    have hrange : 48 ≤ d.toNat ∧ d.toNat ≤ 57 :=
      Char.isDigit_iff_toNat.1 (isDigit_of_mem_toDigits hd)
    omega
  cases n with
  | natural n =>
    rw [toList_render_natural]
    exact hdigits n.toNat
  | negative i =>
    rw [toList_render_negative hn]
    exact .cons (by decide) (hdigits i.toInt.natAbs)
  | double x => exact absurd hn id

mutual

/-- A printed value has no control characters, hence no line breaks. -/
theorem printable_chars (value : Json) (hvalue : value.Exact) : Printable value.chars := by
  match value with
  | .null | .bool true | .bool false | .array [] | .object [] => exact printable_of_all rfl
  | .number n => exact printable_number hvalue
  | .text s => exact printable_stringChars s
  | .array (item :: items) =>
    rw [chars]
    apply Printable.cons (by decide)
    exact (printable_chars item hvalue.1).append (printable_itemsChars items hvalue.2)
  | .object ((name, value) :: members) =>
    rw [chars]
    apply Printable.cons (by decide)
    apply (printable_stringChars name).append
    apply Printable.cons (by decide)
    exact (printable_chars value hvalue.2.1).append (printable_membersChars members hvalue.2.2)

theorem printable_itemsChars (items : List Json) (hitems : ItemsExact items) :
    Printable (itemsChars items) := by
  match items with
  | [] => exact printable_of_all rfl
  | item :: items =>
    rw [itemsChars]
    apply Printable.cons (by decide)
    exact (printable_chars item hitems.1).append (printable_itemsChars items hitems.2)

theorem printable_membersChars (members : List (String × Json))
    (hmembers : MembersExact members) : Printable (membersChars members) := by
  match members with
  | [] => exact printable_of_all rfl
  | (name, value) :: members =>
    rw [membersChars]
    apply Printable.cons (by decide)
    apply (printable_stringChars name).append
    apply Printable.cons (by decide)
    exact (printable_chars value hmembers.1).append (printable_membersChars members hmembers.2)

end

theorem lineFeed_not_mem_render {value : Json} (hvalue : value.Exact) :
    '\n' ∉ value.render.toList := by
  rw [render, String.toList_ofList]
  intro hmem
  exact absurd (printable_chars value hvalue _ hmem) (by decide)

end RecordFlow.Json
