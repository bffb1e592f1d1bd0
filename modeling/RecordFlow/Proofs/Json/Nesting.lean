import RecordFlow.Proofs.Json.Layout
import RecordFlow.Proofs.Json.RoundTrip

/-!
# Texts inside containers

Where a value must follow, a JSON text is read as it is read alone, also with spaces for
its line breaks, and then takes its place in the innermost open container.  Its value is
the same there unless the containers around it and its own are too many.  What counts is
how deep the text nests, which may be deeper than its value.
-/

namespace RecordFlow.Json

open Utf8 (encodeChars)

/-! ## Complete texts -/

theorem foldl_stopped (d : Document) (ts : List Token) :
    ts.foldl Assembly.step (.stopped d) = .stopped d := by
  induction ts with
  | nil => rfl
  | cons t ts ih => exact ih

theorem step_broken (assembly : Assembly) : ∃ d, assembly.step .broken = .stopped d := by
  cases assembly with
  | inside frames => exact ⟨_, rfl⟩
  | finished d => exact ⟨d, rfl⟩
  | stopped d => exact ⟨d, rfl⟩

/-- No text is complete behind a place where it stops being JSON. -/
theorem broken_not_mem_of_finished {ts : List Token} {assembly : Assembly} {d : Document}
    (h : ts.foldl Assembly.step assembly = .finished d) : .broken ∉ ts := by
  intro hmem
  obtain ⟨before, behind, rfl⟩ := List.append_of_mem hmem
  obtain ⟨e, he⟩ := step_broken (before.foldl Assembly.step assembly)
  rw [List.foldl_append, List.foldl_cons, he, foldl_stopped] at h
  cases h

/-- The bytes are one complete text with this document. -/
theorem ofBytes_eq_complete {bytes : Bytes} {d : Document} :
    Reading.ofBytes bytes = ⟨d, true⟩ ↔ assemble (.inside []) bytes = .finished d := by
  rw [Reading.ofBytes, Reading.ofTokens, ← assemble]
  cases assemble (.inside []) bytes with
  | inside frames => simp
  | finished e => simp
  | stopped e => simp

theorem decodeBytes_eq_ok {α : Type} {decoder : Decoder α} {bytes : Bytes} {a : α} :
    decodeBytes decoder bytes = .ok a ↔
      ∃ d, Reading.ofBytes bytes = ⟨d, true⟩ ∧ decoder depthLimit d = .ok a := by
  rw [decodeBytes]
  obtain ⟨d, complete⟩ := Reading.ofBytes bytes
  cases hvalue : decoder depthLimit d with
  | error problem => cases complete <;> simp [hvalue]
  | ok b => cases complete <;> simp [hvalue]

/-! ## Inside open containers -/

/-- The innermost open container, if there is one, waits for a value and for nothing
else. -/
def NeedsValue : List Frame → Prop
  | [] | .arrayItem _ :: _ | .objectValue _ _ :: _ => True
  | _ => False

/-- The same inside further open containers: a finished document is a value there. -/
def Assembly.under (frames : List Frame) : Assembly → Assembly
  | .inside inner => .inside (inner ++ frames)
  | .finished d => .accept d frames
  | .stopped d => .stopped (stopWith d frames)

section

variable {frames : List Frame}

theorem giveUp_append (last : Document) (inner : List Frame) :
    Assembly.giveUp last (inner ++ frames) = (Assembly.giveUp last inner).under frames := by
  rw [Assembly.giveUp, stopWith, List.foldl_append]
  rfl

theorem accept_append (value : Document) (inner : List Frame) :
    Assembly.accept value (inner ++ frames) = (Assembly.accept value inner).under frames := by
  cases inner with
  | nil => rfl
  | cons frame inner =>
    cases frame with
    | arrayStart | arrayItem _ | objectValue _ _ => rfl
    | arrayNext _ | objectStart | objectName _ | objectColon _ _ | objectNext _ =>
      exact giveUp_append .broken (_ :: inner)

/-- A token is read inside further containers as without them. -/
theorem read_append (hframes : NeedsValue frames) (inner : List Frame) (t : Token) :
    Assembly.read (inner ++ frames) t = (Assembly.read inner t).under frames := by
  cases inner with
  | nil =>
    unfold NeedsValue at hframes
    split at hframes
    · cases t <;> rfl
    · cases t <;> rfl
    · cases t <;> rfl
    · exact absurd hframes id
  | cons frame inner =>
    have hbroken : Assembly.giveUp .broken (frame :: inner ++ frames) =
        (Assembly.giveUp .broken (frame :: inner)).under frames := giveUp_append _ _
    cases t with
    | null | bool b | number literal => exact accept_append _ (frame :: inner)
    | text pieces => cases frame <;> first | rfl | exact hbroken
    | openBracket | openBrace => cases frame <;> first | rfl | exact hbroken
    | closeBracket | closeBrace =>
      cases frame <;> first | exact accept_append _ inner | exact hbroken
    | comma | colon => cases frame <;> first | rfl | exact hbroken
    | broken => exact hbroken

/-- A document that is finished alone is put into the container that needs a value. -/
theorem foldl_append_of_finished (hframes : NeedsValue frames) (inner : List Frame)
    {ts : List Token} {d : Document}
    (h : ts.foldl Assembly.step (.inside inner) = .finished d) :
    ts.foldl Assembly.step (.inside (inner ++ frames)) = .accept d frames := by
  induction ts generalizing inner with
  | nil => cases h
  | cons t ts ih =>
    have hstep : (Assembly.inside (inner ++ frames)).step t =
        ((Assembly.inside inner).step t).under frames := read_append hframes inner t
    rw [List.foldl_cons] at h ⊢
    rw [hstep]
    cases hnext : (Assembly.inside inner).step t with
    | inside next =>
      rw [hnext] at h
      exact ih next h
    | finished e =>
      -- Nothing may follow a finished document, so this was the last token.
      rw [hnext] at h
      cases ts with
      | nil =>
        cases h
        rfl
      | cons t ts =>
        rw [List.foldl_cons, Assembly.step, foldl_stopped] at h
        cases h
    | stopped e =>
      rw [hnext, foldl_stopped] at h
      cases h

/-- A complete text is read with spaces for its line breaks where a value must follow. -/
theorem assemble_flatten (hframes : NeedsValue frames) {source : String} {d : Document}
    (h : Reading.ofBytes (Utf8.encode source) = ⟨d, true⟩) {rest : Bytes}
    (hrest : EndsNumber rest) :
    assemble (.inside frames) (Utf8.encode (Text.flatten source) ++ rest) =
      assemble (.accept d frames) rest := by
  have hread := ofBytes_eq_complete.1 h
  have hrespaced : Respaced rest (Utf8.encode source)
      (Utf8.encode (Text.flatten source) ++ rest) := by
    rw [Text.flatten, Utf8.encode_ofList]
    exact respaced_flattenChars source.toList rest
  have htokens := tokens_respaced hrest hrespaced (broken_not_mem_of_finished hread)
  rw [assemble, htokens, List.foldl_append, assemble]
  exact congrArg (List.foldl _ · _) (foldl_append_of_finished hframes [] hread)

end

/-- A complete text stays the same document on a single line. -/
theorem ofBytes_flatten {source : String} {d : Document}
    (h : Reading.ofBytes (Utf8.encode source) = ⟨d, true⟩) :
    Reading.ofBytes (Utf8.encode (Text.flatten source)) = ⟨d, true⟩ := by
  have hends : EndsNumber [] := fun b hb => absurd hb (Option.not_mem_none b)
  have htop : NeedsValue [] := trivial
  have hread := assemble_flatten htop h hends
  rw [List.append_nil, assemble_nil] at hread
  exact ofBytes_eq_complete.2 hread

/-- A text keeps its value on a single line. -/
theorem parse_flatten {source : String} {v : Json} (h : parse (Utf8.encode source) = .ok v) :
    parse (Utf8.encode (Text.flatten source)) = .ok v := by
  obtain ⟨d, hread, hvalue⟩ := decodeBytes_eq_ok.1 h
  exact decodeBytes_eq_ok.2 ⟨d, ofBytes_flatten hread, hvalue⟩

/-! ## How deep a text nests -/

mutual

/-- How many containers a document nests.  Members that a later one replaces count. -/
def Document.nesting : Document → Nat
  | .array items => itemsNesting items + 1
  | .object members => membersNesting members + 1
  | _ => 0

def itemsNesting : List Document → Nat
  | [] => 0
  | item :: items => max item.nesting (itemsNesting items)

def membersNesting : List (Document × Document) → Nat
  | [] => 0
  | (_, d) :: members => max d.nesting (membersNesting members)

end

/-- How many containers a text nests. -/
def nesting (source : String) : Nat :=
  (Reading.ofBytes (Utf8.encode source)).document.nesting

/-- Items are decoded one after another. -/
theorem values_cons_eq_ok {limit : Nat} {item : Document} {items : List Document}
    {vs : List Json} : Decode.values limit (item :: items) = .ok vs ↔
      ∃ v rest, Decode.value limit item = .ok v ∧ Decode.values limit items = .ok rest ∧
        vs = v :: rest := by
  rw [Decode.values]
  cases Decode.value limit item with
  | error problem => simp
  | ok v =>
    cases Decode.values limit items with
    | error problem => simp
    | ok rest => simp [eq_comm]

/-- Members are decoded one after another, each set in what was decoded before it. -/
theorem objectMembers_cons_eq_ok {limit : Nat} {key d : Document}
    {members : List (Document × Document)} {done vs : List (String × Json)} :
    Decode.objectMembers limit done ((key, d) :: members) = .ok vs ↔
      ∃ name v, Decode.name key = .ok name ∧ Decode.value limit d = .ok v ∧
        Decode.objectMembers limit (setMember done name v) members = .ok vs := by
  rw [Decode.objectMembers]
  cases Decode.name key with
  | error problem => simp
  | ok name =>
    cases Decode.value limit d with
    | error problem => simp
    | ok v => simp

theorem map_eq_ok {α β : Type} {found : Except Problem α} {f : α → β} {b : β} :
    found.map f = .ok b ↔ ∃ a, found = .ok a ∧ f a = b := by
  cases found with
  | error problem => simp [Except.map]
  | ok a => simp [Except.map]

mutual

/-- The nesting that is left matters only as far as a document nests. -/
theorem value_of_nesting_le (d : Document) {limit limit' : Nat} {v : Json}
    (h : Decode.value limit d = .ok v) (hlimit : d.nesting ≤ limit') :
    Decode.value limit' d = .ok v := by
  match d, limit, limit' with
  | .null, _, _ | .bool _, _, _ | .number (some _), _, _ | .text (some _), _, _ => exact h
  | .number none, _, _ | .text none, _, _ | .broken, _, _ => cases h
  | .array _, 0, _ | .object _, 0, _ => cases h
  | .array _, _ + 1, 0 | .object _, _ + 1, 0 => cases hlimit
  | .array items, limit + 1, limit' + 1 =>
    obtain ⟨vs, hvs, rfl⟩ := map_eq_ok.1 h
    rw [Decode.value, values_of_nesting_le items hvs (Nat.le_of_succ_le_succ hlimit)]
    rfl
  | .object members, limit + 1, limit' + 1 =>
    obtain ⟨vs, hvs, rfl⟩ := map_eq_ok.1 h
    rw [Decode.value, objectMembers_of_nesting_le members hvs (Nat.le_of_succ_le_succ hlimit)]
    rfl

theorem values_of_nesting_le (items : List Document) {limit limit' : Nat} {vs : List Json}
    (h : Decode.values limit items = .ok vs) (hlimit : itemsNesting items ≤ limit') :
    Decode.values limit' items = .ok vs := by
  match items with
  | [] => exact h
  | item :: items =>
    rw [itemsNesting, Nat.max_le] at hlimit
    obtain ⟨v, rest, hitem, hitems, rfl⟩ := values_cons_eq_ok.1 h
    exact values_cons_eq_ok.2 ⟨v, rest, value_of_nesting_le item hitem hlimit.1,
      values_of_nesting_le items hitems hlimit.2, rfl⟩

theorem objectMembers_of_nesting_le (members : List (Document × Document)) {limit limit' : Nat}
    {done vs : List (String × Json)} (h : Decode.objectMembers limit done members = .ok vs)
    (hlimit : membersNesting members ≤ limit') :
    Decode.objectMembers limit' done members = .ok vs := by
  match members with
  | [] => exact h
  | (key, d) :: members =>
    rw [membersNesting, Nat.max_le] at hlimit
    obtain ⟨name, v, hkey, hd, hmembers⟩ := objectMembers_cons_eq_ok.1 h
    exact objectMembers_cons_eq_ok.2 ⟨name, v, hkey, value_of_nesting_le d hd hlimit.1,
      objectMembers_of_nesting_le members hmembers hlimit.2⟩

end

end RecordFlow.Json
