import RecordFlow.Template
import Mathlib.Data.List.Basic
import Mathlib.Data.List.Infix

/-!
# What templates render

A template is read from left to right.  The earliest `${` that is closed later is replaced,
together with everything up to the first closing brace behind it, and reading goes on behind
that brace.  So what is read depends on the template alone and never on the values that are
put in.  A text whose last part opens no reference can be continued by any other text, unless
the two characters of an opening come together where they meet.
-/

namespace RecordFlow.Template

/-! ## References -/

/-- The two characters that open a reference. -/
def opening : List Char := ['$', '\x7b']

/-- Behind `before` the text opens a reference, and a closing brace follows later. -/
def OpensAfter (text before : List Char) : Prop :=
  ∃ rest, text = before ++ (opening ++ rest) ∧ '\x7d' ∈ rest

/-- Somewhere in the text a reference is opened, and a closing brace follows later. -/
def HasReference (text : List Char) : Prop := ∃ before, OpensAfter text before

/-- The earliest reference of a text stands between `before` and `after`, and reaches to the
first closing brace. -/
structure FirstReference (text before inner after : List Char) : Prop where
  text_eq : text = before ++ (opening ++ (inner ++ '\x7d' :: after))
  closed : '\x7d' ∉ inner
  earliest : ∀ other, OpensAfter text other → before.length ≤ other.length

/-- Reading a text from left to right finds these references, each with the text before it,
and then the rest of the text, in which there is none. -/
inductive Reads : List Char → List (List Char × List Char) → List Char → Prop
  | done {text : List Char} (h : ¬ HasReference text) : Reads text [] text
  | reference {text before inner after rest : List Char}
    {references : List (List Char × List Char)} (hfirst : FirstReference text before inner after)
    (hrest : Reads after references rest) : Reads text ((before, inner) :: references) rest

theorem FirstReference.opensAfter {text before inner after : List Char}
    (h : FirstReference text before inner after) : OpensAfter text before :=
  ⟨inner ++ '\x7d' :: after, h.text_eq, by simp⟩

/-! ## Cutting -/

theorem cutBrace_eq_some {text inner after : List Char} (h : cutBrace text = some (inner, after)) :
    text = inner ++ '\x7d' :: after ∧ '\x7d' ∉ inner := by
  induction text generalizing inner with
  | nil => cases h
  | cons c text ih =>
    rw [cutBrace] at h
    split at h
    · rename_i hbrace
      cases h
      exact ⟨by rw [eq_of_beq hbrace]; rfl, List.not_mem_nil⟩
    · rename_i hbrace
      obtain ⟨⟨inner, after⟩, hcut, heq⟩ := Option.map_eq_some_iff.1 h
      cases heq
      obtain ⟨rfl, hclosed⟩ := ih hcut
      refine ⟨rfl, fun hmem => ?_⟩
      rcases List.mem_cons.1 hmem with rfl | hmem
      · exact hbrace rfl
      · exact hclosed hmem

theorem cutBrace_eq_none {text : List Char} (h : cutBrace text = none) : '\x7d' ∉ text := by
  induction text with
  | nil => exact List.not_mem_nil
  | cons c text ih =>
    rw [cutBrace] at h
    split at h
    · cases h
    · rename_i hbrace
      intro hmem
      rcases List.mem_cons.1 hmem with rfl | hmem
      · exact hbrace rfl
      · exact ih (Option.map_eq_none_iff.1 h) hmem

theorem cutBrace_append {inner : List Char} (h : '\x7d' ∉ inner) (after : List Char) :
    cutBrace (inner ++ '\x7d' :: after) = some (inner, after) := by
  induction inner with
  | nil => rfl
  | cons c inner ih =>
    rw [List.mem_cons, not_or] at h
    have hbrace : (c == '\x7d') = false := beq_eq_false_iff_ne.2 (Ne.symm h.1)
    rw [List.cons_append, cutBrace, hbrace, ih h.2]
    rfl

/-- A text has at most one earliest reference. -/
theorem FirstReference.unique {text before inner after before' inner' after' : List Char}
    (h : FirstReference text before inner after) (h' : FirstReference text before' inner' after') :
    before = before' ∧ inner = inner' ∧ after = after' := by
  have hlength : before.length = before'.length :=
    Nat.le_antisymm (h.earliest before' h'.opensAfter) (h'.earliest before h.opensAfter)
  obtain ⟨hbefore, hbehind⟩ := List.append_inj (h.text_eq.symm.trans h'.text_eq) hlength
  have hcut := cutBrace_append h.closed after
  rw [List.append_cancel_left hbehind, cutBrace_append h'.closed after'] at hcut
  cases hcut
  exact ⟨hbefore, rfl, rfl⟩

/-- A reference is not opened at the front of a text that starts otherwise. -/
theorem OpensAfter.of_cons {c d : Char} {text other : List Char}
    (h : OpensAfter (c :: d :: text) other) (hcd : ¬ (c = '$' ∧ d = '\x7b')) :
    ∃ later, other = c :: later ∧ OpensAfter (d :: text) later := by
  obtain ⟨rest, htext, hclosed⟩ := h
  cases other with
  | nil =>
    rw [List.nil_append, opening, List.cons_append, List.cons_append, List.cons.injEq,
      List.cons.injEq] at htext
    exact absurd ⟨htext.1, htext.2.1⟩ hcd
  | cons first later =>
    rw [List.cons_append, List.cons.injEq] at htext
    exact ⟨later, by rw [htext.1], rest, htext.2, hclosed⟩

theorem opens_iff {c d : Char} : (c == '$' && d == '\x7b') = true ↔ c = '$' ∧ d = '\x7b' := by
  rw [Bool.and_eq_true, beq_iff_eq, beq_iff_eq]

/-- What is cut out is the earliest reference. -/
theorem firstReference_of_cut {text before inner after : List Char}
    (h : cutReference text = some (before, inner, after)) :
    FirstReference text before inner after := by
  fun_induction cutReference text generalizing before with
  | case1 => cases h
  | case2 => cases h
  | case3 c d text hopens =>
    obtain ⟨⟨inner, after⟩, hcut, heq⟩ := Option.map_eq_some_iff.1 h
    cases heq
    obtain ⟨rfl, hclosed⟩ := cutBrace_eq_some hcut
    obtain ⟨rfl, rfl⟩ := opens_iff.1 hopens
    exact ⟨rfl, hclosed, fun _ _ => Nat.zero_le _⟩
  | case4 c d text hopens ih =>
    obtain ⟨⟨before, inner, after⟩, hcut, heq⟩ := Option.map_eq_some_iff.1 h
    cases heq
    have hlater := ih hcut
    refine ⟨congrArg (List.cons c) hlater.text_eq, hlater.closed, fun other hother => ?_⟩
    obtain ⟨later, rfl, hopen⟩ := hother.of_cons (mt opens_iff.2 hopens)
    exact Nat.succ_le_succ (hlater.earliest later hopen)

/-- Where nothing is cut out there is no reference. -/
theorem not_hasReference_of_cut {text : List Char} (h : cutReference text = none) :
    ¬ HasReference text := by
  fun_induction cutReference text with
  | case1 =>
    rintro ⟨before, rest, htext, -⟩
    simp [opening] at htext
  | case2 c =>
    rintro ⟨before, rest, htext, -⟩
    have hlength := congrArg List.length htext
    simp only [opening, List.length_append, List.length_cons, List.length_nil] at hlength
    omega
  | case3 c d text hopens =>
    -- The reference is open from here on: no brace follows, so no later one is closed either.
    have hnone := cutBrace_eq_none (Option.map_eq_none_iff.1 h)
    obtain ⟨rfl, rfl⟩ := opens_iff.1 hopens
    rintro ⟨before, rest, htext, hclosed⟩
    have hmem : '\x7d' ∈ '$' :: '\x7b' :: text := by
      rw [htext]
      exact List.mem_append_right _ (List.mem_append_right _ hclosed)
    simp [hnone] at hmem
  | case4 c d text hopens ih =>
    rintro ⟨other, hother⟩
    obtain ⟨later, -, hopen⟩ := hother.of_cons (mt opens_iff.2 hopens)
    exact ih (Option.map_eq_none_iff.1 h) ⟨later, hopen⟩

theorem FirstReference.cut {text before inner after : List Char}
    (h : FirstReference text before inner after) :
    cutReference text = some (before, inner, after) := by
  cases hcut : cutReference text with
  | none => exact absurd ⟨before, h.opensAfter⟩ (not_hasReference_of_cut hcut)
  | some found =>
    obtain ⟨before', inner', after'⟩ := found
    obtain ⟨rfl, rfl, rfl⟩ := h.unique (firstReference_of_cut hcut)
    rfl

theorem cut_of_not_hasReference {text : List Char} (h : ¬ HasReference text) :
    cutReference text = none := by
  cases hcut : cutReference text with
  | none => rfl
  | some found => exact absurd ⟨found.1, (firstReference_of_cut hcut).opensAfter⟩ h

/-! ## Readings -/

theorem exists_reads (text : List Char) : ∃ references rest, Reads text references rest := by
  fun_induction segmentsOf text with
  | case1 text hcut => exact ⟨[], text, .done (not_hasReference_of_cut hcut)⟩
  | case2 text before inner after hcut ih =>
    obtain ⟨references, rest, hreads⟩ := ih
    exact ⟨(before, inner) :: references, rest, .reference (firstReference_of_cut hcut) hreads⟩

theorem Reads.unique {text rest rest' : List Char} {references references'}
    (h : Reads text references rest) (h' : Reads text references' rest') :
    references' = references ∧ rest' = rest := by
  induction h generalizing references' with
  | done hnone =>
    cases h' with
    | done => exact ⟨rfl, rfl⟩
    | reference hfirst => exact absurd ⟨_, hfirst.opensAfter⟩ hnone
  | reference hfirst _ ih =>
    cases h' with
    | done hnone => exact absurd ⟨_, hfirst.opensAfter⟩ hnone
    | reference hfirst' hrest' =>
      obtain ⟨rfl, rfl, rfl⟩ := hfirst.unique hfirst'
      obtain ⟨rfl, rfl⟩ := ih hrest'
      exact ⟨rfl, rfl⟩

/-! ## Rendering -/

/-- The value of the attribute that a reference names. -/
def valueOf (r : Record) (inner : List Char) : String :=
  (r.attribute? (Text.trim (String.ofList inner))).getD ""

/-- What the pieces of a text contribute for a record. -/
def expand (r : Record) (text : List Char) : String :=
  String.join ((segmentsOf text).map (Segment.render r))

theorem render_eq (source : String) (r : Record) : render ⟨source⟩ r = expand r source.toList :=
  rfl

theorem join_literalSegment (r : Record) (text : List Char) :
    String.join ((literalSegment text).map (Segment.render r)) = String.ofList text := by
  cases text with
  | nil => rfl
  | cons c text => simp [literalSegment, Segment.render]

theorem segmentsOf_of_not_hasReference {text : List Char} (h : ¬ HasReference text) :
    segmentsOf text = literalSegment text := by
  rw [segmentsOf]
  split
  · rfl
  · rename_i hcut
    rw [cut_of_not_hasReference h] at hcut
    cases hcut

theorem segmentsOf_of_firstReference {text before inner after : List Char}
    (h : FirstReference text before inner after) :
    segmentsOf text =
      literalSegment before ++
        .reference (Text.trim (String.ofList inner)) :: segmentsOf after := by
  rw [segmentsOf]
  split
  · rename_i hcut
    rw [h.cut] at hcut
    cases hcut
  · rename_i hcut
    rw [h.cut] at hcut
    cases hcut
    rw [Text.trim, String.toList_ofList]

theorem expand_of_not_hasReference (r : Record) {text : List Char} (h : ¬ HasReference text) :
    expand r text = String.ofList text := by
  rw [expand, segmentsOf_of_not_hasReference h, join_literalSegment]

theorem expand_of_firstReference (r : Record) {text before inner after : List Char}
    (h : FirstReference text before inner after) :
    expand r text = String.ofList before ++ (valueOf r inner ++ expand r after) := by
  rw [expand, segmentsOf_of_firstReference h, List.map_append, String.join_append,
    join_literalSegment, List.map_cons, String.join_cons]
  rfl

/-- What is rendered is what was read, with values in the places of references. -/
theorem Reads.expand_eq {text rest : List Char} {references : List (List Char × List Char)}
    (h : Reads text references rest) (r : Record) :
    (expand r text).toList =
      references.flatMap (fun reference => reference.1 ++ (valueOf r reference.2).toList) ++
        rest := by
  induction h with
  | done hnone => rw [expand_of_not_hasReference r hnone, String.toList_ofList]; rfl
  | reference hfirst _ ih =>
    rw [expand_of_firstReference r hfirst, String.toList_append, String.toList_append,
      String.toList_ofList, ih, List.flatMap_cons]
    simp only [List.append_assoc]

/-! ## Literals -/

theorem all_isLiteral_literalSegment (text : List Char) :
    (literalSegment text).all Segment.isLiteral = true := by
  cases text with
  | nil => rfl
  | cons c text => rfl

theorem all_isLiteral_segmentsOf (text : List Char) :
    (segmentsOf text).all Segment.isLiteral = true ↔ ¬ HasReference text := by
  obtain ⟨references, rest, hreads⟩ := exists_reads text
  cases hreads with
  | done hnone =>
    rw [segmentsOf_of_not_hasReference hnone]
    exact iff_of_true (all_isLiteral_literalSegment text) hnone
  | reference hfirst =>
    rw [segmentsOf_of_firstReference hfirst, List.all_append, List.all_cons, Segment.isLiteral,
      Bool.false_and, Bool.and_false]
    exact iff_of_false Bool.false_ne_true fun hnone => hnone ⟨_, hfirst.opensAfter⟩

/-- A template is a literal when it has no reference. -/
theorem literal?_eq_some {t : Template} {text : String} :
    t.literal? = some text ↔ text = t.source ∧ ¬ HasReference t.source.toList := by
  rw [literal?, segments, ← all_isLiteral_segmentsOf, Option.ite_none_right_eq_some,
    Option.some.injEq, eq_comm (a := t.source), and_comm]

/-- A literal renders to itself for every record. -/
theorem render_of_literal? {t : Template} {text : String} (h : t.literal? = some text)
    (r : Record) : t.render r = text := by
  obtain ⟨rfl, hnone⟩ := literal?_eq_some.1 h
  exact (expand_of_not_hasReference r hnone).trans String.ofList_toList

/-! ## Texts one after another -/

/-- An opening in two texts together stands in the second one, is cut by the border between
them, or stands in the first one. -/
theorem opening_of_append {a b other rest : List Char} (h : a ++ b = other ++ (opening ++ rest)) :
    (∃ later, other = a ++ later ∧ b = later ++ (opening ++ rest)) ∨
      (a = other ++ ['$'] ∧ b = '\x7b' :: rest) ∨
      ∃ tail, a = other ++ (opening ++ tail) ∧ rest = tail ++ b := by
  rcases List.append_eq_append_iff.1 h with ⟨later, hother, hb⟩ | ⟨tail, ha, hrest⟩
  · exact .inl ⟨later, hother, hb⟩
  · match tail with
    | [] =>
      rw [List.append_nil] at ha
      exact .inl ⟨[], by rw [ha, List.append_nil], hrest.symm⟩
    | [c] =>
      cases hrest
      exact .inr (.inl ⟨ha, rfl⟩)
    | c :: d :: tail =>
      cases hrest
      exact .inr (.inr ⟨tail, ha, rfl⟩)

/-- The first text opens nothing, neither by itself nor together with the second one. -/
structure Closed (a b : List Char) : Prop where
  unopened : ¬ opening <:+: a
  apart : ¬ (a.getLast? = some '$' ∧ b.head? = some '\x7b')

/-- A reference in both texts together stands in the second one. -/
theorem OpensAfter.of_append {a b other : List Char} (h : OpensAfter (a ++ b) other)
    (hclosed : Closed a b) : ∃ later, other = a ++ later ∧ OpensAfter b later := by
  obtain ⟨rest, htext, hbrace⟩ := h
  rcases opening_of_append htext with ⟨later, hother, hb⟩ | ⟨ha, hb⟩ | ⟨tail, ha, -⟩
  · exact ⟨later, hother, rest, hb, hbrace⟩
  · exact absurd ⟨by rw [ha, List.getLast?_concat], by rw [hb, List.head?_cons]⟩ hclosed.apart
  · exact absurd ⟨other, tail, by rw [ha, List.append_assoc]⟩ hclosed.unopened

theorem FirstReference.behind {a b before inner after : List Char} (hclosed : Closed a b)
    (h : FirstReference b before inner after) :
    FirstReference (a ++ b) (a ++ before) inner after where
  text_eq := by rw [h.text_eq, List.append_assoc]
  closed := h.closed
  earliest := fun other hother => by
    obtain ⟨later, rfl, hopen⟩ := hother.of_append hclosed
    rw [List.length_append, List.length_append]
    exact Nat.add_le_add_left (h.earliest later hopen) _

/-- The earliest reference of a text stays the earliest whatever follows the text. -/
theorem FirstReference.append {a before inner after : List Char}
    (h : FirstReference a before inner after) (b : List Char) :
    FirstReference (a ++ b) before inner (after ++ b) where
  text_eq := by rw [h.text_eq]; simp only [List.append_assoc, List.cons_append]
  closed := h.closed
  earliest := by
    rintro other ⟨rest, htext, -⟩
    have hlength := congrArg List.length h.text_eq
    simp only [opening, List.length_append, List.length_cons, List.length_nil] at hlength
    rcases opening_of_append htext with ⟨later, rfl, -⟩ | ⟨ha, -⟩ | ⟨tail, ha, -⟩
    · rw [List.length_append]
      omega
    · have hother := congrArg List.length ha
      rw [List.length_append, List.length_singleton] at hother
      omega
    -- An opening before it in the same text would be closed by the same brace.
    · by_contra hearlier
      have hother := congrArg List.length ha
      simp only [opening, List.length_append, List.length_cons, List.length_nil] at hother
      have hbehind : '\x7d' :: after <:+ a :=
        ⟨before ++ (opening ++ inner), by rw [h.text_eq]; simp⟩
      have htail : tail <:+ a := ⟨other ++ opening, by rw [ha, List.append_assoc]⟩
      have hshared : '\x7d' :: after <:+ tail := by
        apply List.suffix_of_suffix_length_le hbehind htail
        rw [List.length_cons]
        omega
      exact hearlier (h.earliest other ⟨tail, ha, hshared.subset List.mem_cons_self⟩)

/-- When the first text ends without an open reference, both texts together expand to what
each of them does. -/
theorem Reads.expand_append {a rest : List Char} {references : List (List Char × List Char)}
    (h : Reads a references rest) (hrest : ¬ opening <:+: rest) {b : List Char}
    (hapart : ¬ (a.getLast? = some '$' ∧ b.head? = some '\x7b')) (r : Record) :
    expand r (a ++ b) = expand r a ++ expand r b := by
  induction h with
  | @done a hnone =>
    have hclosed : Closed a b := ⟨hrest, hapart⟩
    rw [expand_of_not_hasReference r hnone]
    obtain ⟨references, rest, hreads⟩ := exists_reads b
    cases hreads with
    | done hnone' =>
      have hboth : ¬ HasReference (a ++ b) := by
        rintro ⟨other, hother⟩
        obtain ⟨later, -, hopen⟩ := hother.of_append hclosed
        exact hnone' ⟨later, hopen⟩
      rw [expand_of_not_hasReference r hboth, expand_of_not_hasReference r hnone',
        String.ofList_append]
    | reference hfirst =>
      rw [expand_of_firstReference r hfirst, expand_of_firstReference r (hfirst.behind hclosed),
        String.ofList_append, String.append_assoc]
  | @reference a before inner after rest references hfirst _ ih =>
    have hafter : ¬ (after.getLast? = some '$' ∧ b.head? = some '\x7b') := by
      rintro ⟨hlast, hhead⟩
      refine hapart ⟨?_, hhead⟩
      rw [hfirst.text_eq]
      simp [List.getLast?_append, List.getLast?_cons, hlast]
    rw [expand_of_firstReference r (hfirst.append b), expand_of_firstReference r hfirst,
      ih hrest hafter]
    simp only [String.append_assoc]

/-- A template is read from left to right in exactly one way.  Rendering copies what stands
between references and puts the values of attributes in the places of the references.  A
template is a literal exactly when it has no reference, and then it renders to itself.  When
the rest of a template opens no reference, another template may follow: both together render
to what each of them does, unless they meet in an opening. -/
theorem render_left_to_right (source : String) (r : Record) :
    ∃ references rest, Reads source.toList references rest ∧
      (∀ references' rest', Reads source.toList references' rest' →
        references' = references ∧ rest' = rest) ∧
      (render ⟨source⟩ r).toList =
        references.flatMap (fun reference => reference.1 ++ (valueOf r reference.2).toList) ++
          rest ∧
      (∀ text, literal? ⟨source⟩ = some text ↔ text = source ∧ ¬ HasReference source.toList) ∧
      (¬ HasReference source.toList → render ⟨source⟩ r = source) ∧
      (¬ opening <:+: rest → ∀ next : String,
        ¬ (source.toList.getLast? = some '$' ∧ next.toList.head? = some '\x7b') →
        render ⟨source ++ next⟩ r = render ⟨source⟩ r ++ render ⟨next⟩ r) := by
  obtain ⟨references, rest, hreads⟩ := exists_reads source.toList
  refine ⟨references, rest, hreads, fun _ _ => hreads.unique, hreads.expand_eq r,
    fun _ => literal?_eq_some, ?_, ?_⟩
  · intro hnone
    exact render_of_literal? (literal?_eq_some.2 ⟨rfl, hnone⟩) r
  · intro hrest next hapart
    rw [render_eq, render_eq, render_eq, String.toList_append]
    exact hreads.expand_append hrest hapart r

/-- The first text ends in `$`, but the second one starts with another `$`. -/
theorem dollars_render_joined :
    let r : Record := { content := [], attributes := .ofList [("env", "prod")] }
    render ⟨"logs-$\x7b env \x7d$" ++ "$\x7benv\x7d"⟩ r = "logs-prod$" ++ "prod" := by
  intro r
  have hknown : Reads "logs-$\x7b env \x7d$".toList [("logs-".toList, " env ".toList)] ['$'] :=
    .reference (firstReference_of_cut rfl) (.done (not_hasReference_of_cut rfl))
  obtain ⟨references, rest, -, hunique, hrender, -, -, hjoin⟩ :=
    render_left_to_right "logs-$\x7b env \x7d$" r
  obtain ⟨rfl, rfl⟩ := hunique _ _ hknown
  have hreference : Reads "$\x7benv\x7d".toList [([], "env".toList)] [] :=
    .reference (firstReference_of_cut rfl) (.done (not_hasReference_of_cut rfl))
  have hsecond : render ⟨"$\x7benv\x7d"⟩ r = "prod" :=
    String.toList_inj.1 ((hreference.expand_eq r).trans (by decide))
  rw [hjoin (by decide) "$\x7benv\x7d" (by decide), hsecond]
  exact congrArg (· ++ "prod") (String.toList_inj.1 (hrender.trans (by decide)))

end RecordFlow.Template
