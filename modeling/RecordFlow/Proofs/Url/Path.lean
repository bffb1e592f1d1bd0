import RecordFlow.Proofs.Url.Percent
import RecordFlow.Url.Parser

/-!
# Paths of special schemes

Under a special scheme a path is read as at least one segment, and no segment holds a slash.  The
text of such a path determines its segments, so appending a segment is an edit of the text: one
slash goes from its end, and a slash and the segment come in its place.
-/

namespace RecordFlow.Url

/-! ## Segments that are read -/

/-- No segment holds a slash. -/
def SlashFree (parts : List (List Char)) : Prop := ∀ part ∈ parts, '/' ∉ part

/-- The segments of a path that starts with a slash. -/
structure Rooted (parts : List (List Char)) : Prop where
  ne_nil : parts ≠ []
  slash_free : SlashFree parts

theorem cutAt_cons (isMark : Char → Bool) (c : Char) (text : List Char) :
    cutAt isMark (c :: text) =
      if isMark c then [] :: cutAt isMark text
      else
        match cutAt isMark text with
        | [] => [[c]]
        | part :: rest => (c :: part) :: rest :=
  rfl

theorem cutAt_ne_nil (isMark : Char → Bool) (text : List Char) : cutAt isMark text ≠ [] := by
  cases text with
  | nil => exact List.cons_ne_nil _ _
  | cons c text =>
    rw [cutAt_cons]
    split
    · exact List.cons_ne_nil _ _
    · split <;> exact List.cons_ne_nil _ _

/-- No mark is left within a piece. -/
theorem not_isMark_of_mem_cutAt {isMark : Char → Bool} {text : List Char} :
    ∀ piece ∈ cutAt isMark text, ∀ c ∈ piece, isMark c = false := by
  induction text with
  | nil => simp [cutAt]
  | cons d text ih =>
    rw [cutAt_cons]
    split
    case isTrue => simpa using ih
    case isFalse hmark =>
      have hd : isMark d = false := Bool.eq_false_iff.2 hmark
      split
      case h_1 => simpa using hd
      case h_2 part rest hcut =>
        rw [hcut] at ih
        simpa [hd] using ih

theorem slash_not_mem_percentEncode {segment : List Char} (h : '/' ∉ segment) :
    '/' ∉ percentEncode inPathSet segment := by
  have hmark : ¬ IsPercentMark '/' := by decide
  intro hmem
  exact (mem_percentEncode hmem).elim (fun hkept => h hkept.1) hmark

theorem slashFree_shorten {parts : List (List Char)} (h : SlashFree parts) :
    SlashFree (shorten parts) := by
  rw [shorten]
  split
  · split
    · exact h
    · exact fun part hpart => h part (List.dropLast_subset parts hpart)
  · exact fun part hpart => absurd hpart List.not_mem_nil

theorem slashFree_append {parts : List (List Char)} {part : List Char} (h : SlashFree parts)
    (hpart : '/' ∉ part) : SlashFree (parts ++ [part]) :=
  List.forall_mem_append.2 ⟨h, List.forall_mem_singleton.2 hpart⟩

/-- Adding a segment brings no slash into the others. -/
theorem slashFree_addSegment {parts : List (List Char)} {segment : List Char} (last : Bool)
    (h : SlashFree parts) (hsegment : '/' ∉ segment) :
    SlashFree (addSegment last parts segment) := by
  rw [addSegment]
  split
  case isTrue =>
    split
    · exact slashFree_append (slashFree_shorten h) List.not_mem_nil
    · exact slashFree_shorten h
  case isFalse =>
    split
    case isTrue =>
      split
      · exact slashFree_append h List.not_mem_nil
      · exact h
    case isFalse => exact slashFree_append h (slash_not_mem_percentEncode hsegment)

/-- The last segment is there, even where its dots take others away. -/
theorem addSegment_last_ne_nil (parts : List (List Char)) (segment : List Char) :
    addSegment true parts segment ≠ [] := by
  rw [addSegment]
  split
  · exact List.append_ne_nil_of_right_ne_nil _ (List.cons_ne_nil _ _)
  · split <;> exact List.append_ne_nil_of_right_ne_nil _ (List.cons_ne_nil _ _)

/-- What every step preserves holds before the last segment is added. -/
theorem exists_addSegments {α : Type} {add : Bool → α → List Char → α} {P : α → Prop}
    {segments : List (List Char)} {path : α} (hne : segments ≠ [])
    (hstep : ∀ segment ∈ segments, ∀ path, P path → P (add false path segment)) (h : P path) :
    ∃ before, P before ∧
      addSegments add segments path = add true before (segments.getLast hne) := by
  -- The last segment is kept apart, since none but the last is sure to leave a segment behind.
  induction segments generalizing path with
  | nil => exact absurd rfl hne
  | cons segment rest ih =>
    cases rest with
    | nil => exact ⟨path, h, rfl⟩
    | cons next rest =>
      have hafter := hstep segment List.mem_cons_self path h
      obtain ⟨before, hbefore, hadd⟩ := ih (List.cons_ne_nil _ _)
        (fun other hother => hstep other (List.mem_cons_of_mem _ hother)) hafter
      exact ⟨before, hbefore, hadd⟩

theorem rooted_readSegments (isSpecial : Bool) (text : List Char) :
    Rooted (readSegments isSpecial text) := by
  have hne := cutAt_ne_nil (fun c => c == '/' || (isSpecial && c == '\\')) text
  have hfree : ∀ segment ∈ cutAt (fun c => c == '/' || (isSpecial && c == '\\')) text,
      '/' ∉ segment := by
    intro segment hsegment hslash
    have hmark := not_isMark_of_mem_cutAt segment hsegment '/' hslash
    simp at hmark
  have hstart : SlashFree [] := fun part hpart => absurd hpart List.not_mem_nil
  obtain ⟨before, hbefore, hadd⟩ := exists_addSegments hne
    (fun segment hsegment parts h => slashFree_addSegment false h (hfree segment hsegment)) hstart
  rw [readSegments, hadd]
  exact ⟨addSegment_last_ne_nil _ _,
    slashFree_addSegment true hbefore (hfree _ (List.getLast_mem hne))⟩

/-- Under a special scheme every path starts with a slash. -/
theorem exists_rooted_readPath {scheme : String} (h : isSpecialScheme scheme = true)
    (text : List Char) : ∃ parts, readPath scheme text = .segments parts ∧ Rooted parts := by
  have hroot : Rooted [[]] :=
    ⟨List.cons_ne_nil _ _, List.forall_mem_singleton.2 List.not_mem_nil⟩
  unfold readPath
  split
  · exact ⟨_, rfl, rooted_readSegments _ _⟩
  · exact ⟨_, rfl, rooted_readSegments _ _⟩
  · exact ⟨_, congrArg Path.segments (if_pos h), hroot⟩
  · exact ⟨_, rfl, rooted_readSegments _ _⟩

/-! ## Segments as text -/

/-- A text less one slash at its end. -/
def lessSlash (text : List Char) : List Char :=
  if text.getLast? = some '/' then text.dropLast else text

theorem lessSlash_append_slash (text : List Char) : lessSlash (text ++ ['/']) = text := by
  rw [lessSlash, if_pos List.getLast?_concat, List.dropLast_concat]

/-- After a segment there is no slash to remove. -/
theorem lessSlash_append {part : List Char} (hne : part ≠ []) (hpart : '/' ∉ part)
    (front : List Char) : lessSlash (front ++ part) = front ++ part := by
  have hlast : (front ++ part).getLast? = some (part.getLast hne) := by
    rw [List.getLast?_append, List.getLast?_eq_some_getLast hne, Option.some_or]
  have hslash : part.getLast hne ≠ '/' := ne_of_mem_of_not_mem (List.getLast_mem hne) hpart
  rw [lessSlash, hlast, if_neg fun h => hslash (Option.some.inj h)]

@[simp] theorem renderSegments_append (front back : List (List Char)) :
    renderSegments (front ++ back) = renderSegments front ++ renderSegments back :=
  List.flatMap_append

@[simp] theorem renderSegments_singleton (part : List Char) :
    renderSegments [part] = '/' :: part :=
  List.flatMap_singleton _ _

/-- A path of two slashes is one of two empty segments. -/
theorem renderSegments_eq_slashes {parts : List (List Char)} (h : SlashFree parts) :
    renderSegments parts = ['/', '/'] ↔ parts = [[], []] := by
  constructor
  · intro hpath
    match parts with
    | [] => cases hpath
    | (c :: part) :: rest =>
      have hslash : c = '/' := (List.cons.inj (List.cons.inj hpath).2).1
      exact absurd (hslash ▸ List.mem_cons_self) (h _ List.mem_cons_self)
    | [[]] => cases hpath
    | [] :: (c :: part) :: rest => cases hpath
    | [[], []] => rfl
    | [] :: [] :: part :: rest => cases hpath
  · rintro rfl
    rfl

theorem appendSegment_root (segment : List Char) : appendSegment [[]] segment = [segment] := by
  simp [appendSegment]

/-- An empty segment at the end gives way. -/
theorem appendSegment_slash {front : List (List Char)} (hne : front ≠ []) (hroot : front ≠ [[]])
    (segment : List Char) : appendSegment (front ++ [[]]) segment = front ++ [segment] := by
  have hlength : 1 < (front ++ [[]]).length := by
    rw [List.length_append, List.length_singleton]
    exact Nat.lt_add_of_pos_left (List.length_pos_iff.2 hne)
  simp only [appendSegment, hlength, List.getLast?_concat, List.dropLast_concat, beq_iff_eq,
    decide_true, BEq.rfl, Bool.and_true, if_true, hroot, if_false]

/-- A last segment that is not empty stays. -/
theorem appendSegment_concat {last : List Char} (hlast : last ≠ []) (front : List (List Char))
    (segment : List Char) :
    appendSegment (front ++ [last]) segment = front ++ [last] ++ [segment] := by
  have hkept : (some last == some []) = false := by simpa using hlast
  have hroot : front ++ [last] ≠ [[]] := by
    intro heq
    have hend := congrArg List.getLast? heq
    rw [List.getLast?_concat] at hend
    exact hlast (Option.some.inj hend)
  simp only [appendSegment, List.getLast?_concat, hkept, Bool.and_false, Bool.false_eq_true,
    if_false, beq_iff_eq, hroot]

/-- An appended segment takes the place of a slash at the end. -/
theorem renderSegments_appendSegment {parts : List (List Char)} (h : Rooted parts)
    (hpath : renderSegments parts ≠ ['/', '/']) (segment : List Char) :
    renderSegments (appendSegment parts segment) =
      lessSlash (renderSegments parts) ++ '/' :: segment := by
  have hshape : parts.dropLast ++ [parts.getLast h.ne_nil] = parts :=
    List.dropLast_concat_getLast h.ne_nil
  generalize parts.dropLast = front at hshape
  generalize parts.getLast h.ne_nil = last at hshape
  subst hshape
  -- An empty last segment is the slash at the end; any other one ends in another character.
  by_cases hlast : last = []
  · subst hlast
    have hless : lessSlash (renderSegments (front ++ [[]])) = renderSegments front := by
      rw [renderSegments_append, renderSegments_singleton, lessSlash_append_slash]
    by_cases hne : front = []
    · subst hne
      rw [hless, List.nil_append, appendSegment_root, renderSegments_singleton]
      rfl
    · have hroot : front ≠ [[]] := fun heq => hpath (by rw [heq]; rfl)
      rw [hless, appendSegment_slash hne hroot, renderSegments_append, renderSegments_singleton]
  · have hfree : '/' ∉ last := h.slash_free _ (List.mem_append_right _ List.mem_cons_self)
    have hless :
        lessSlash (renderSegments (front ++ [last])) = renderSegments (front ++ [last]) := by
      rw [renderSegments_append, renderSegments_singleton, List.append_cons,
        lessSlash_append hlast hfree]
    rw [hless, appendSegment_concat hlast, renderSegments_append, renderSegments_singleton]

end RecordFlow.Url
