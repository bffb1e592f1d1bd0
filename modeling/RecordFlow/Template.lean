import RecordFlow.Record
import RecordFlow.Text.Blank

/-!
# Attribute templates

A configured text that refers to attributes of a record as `${name}`.  The earliest
reference that has a closing brace is cut out, then the text after it is looked at in
the same way; a `${` without a closing brace is ordinary text.
-/

namespace RecordFlow

/-- A configured text with references to attributes. -/
structure Template where
  source : String
  deriving DecidableEq, Inhabited, Repr

namespace Template

/-- A piece of a template. -/
inductive Segment where
  | literal (text : String)
  | reference (name : String)
  deriving DecidableEq, Repr

/-- Cut at the first closing brace. -/
def cutBrace : List Char → Option (List Char × List Char)
  | [] => none
  | c :: rest =>
    if c == '\x7d' then some ([], rest)
    else (cutBrace rest).map fun cut => (c :: cut.1, cut.2)

/-- The text before the first reference, the text inside its braces, and the text after
it. -/
def cutReference : List Char → Option (List Char × List Char × List Char)
  | [] => none
  | [_] => none
  | c :: d :: rest =>
    if c == '$' && d == '\x7b' then (cutBrace rest).map fun cut => ([], cut.1, cut.2)
    else (cutReference (d :: rest)).map fun cut => (c :: cut.1, cut.2)

theorem cutBrace_shorter {text inner rest : List Char}
    (h : cutBrace text = some (inner, rest)) : rest.length < text.length := by
  induction text generalizing inner with
  | nil => simp [cutBrace] at h
  | cons c more ih =>
    rw [cutBrace] at h
    split at h
    · simp only [Option.some.injEq, Prod.mk.injEq] at h
      simp [h.2]
    · obtain ⟨⟨i, r⟩, hc, heq⟩ := Option.map_eq_some_iff.1 h
      simp only [Prod.mk.injEq] at heq
      have := ih (heq.2 ▸ hc)
      simp only [List.length_cons]
      omega

theorem cutReference_shorter {text before inner rest : List Char}
    (h : cutReference text = some (before, inner, rest)) :
    rest.length < text.length := by
  fun_induction cutReference text generalizing before with
  | case1 => simp at h
  | case2 => simp at h
  | case3 c d more _ =>
    obtain ⟨⟨i, r⟩, hc, heq⟩ := Option.map_eq_some_iff.1 h
    simp only [Prod.mk.injEq] at heq
    have := cutBrace_shorter (heq.2.2 ▸ hc)
    simp only [List.length_cons]
    omega
  | case4 c d more _ ih =>
    obtain ⟨⟨b, i, r⟩, hc, heq⟩ := Option.map_eq_some_iff.1 h
    simp only [Prod.mk.injEq] at heq
    have hb : cutReference (d :: more) = some (b, inner, rest) := by
      rw [hc, heq.2.1, heq.2.2]
    have := ih hb
    simp only [List.length_cons] at this ⊢
    omega

/-- A literal piece, unless it is empty. -/
def literalSegment : List Char → List Segment
  | [] => []
  | text => [.literal (String.ofList text)]

/-- The pieces of a text. -/
def segmentsOf (text : List Char) : List Segment :=
  match _h : cutReference text with
  | none => literalSegment text
  | some (before, inner, rest) =>
    literalSegment before
      ++ .reference (String.ofList (Text.trimChars inner)) :: segmentsOf rest
termination_by text.length
decreasing_by exact cutReference_shorter _h

def segments (t : Template) : List Segment := segmentsOf t.source.toList

/-- What a piece contributes for a record; a missing attribute contributes nothing. -/
def Segment.render (r : Record) : Segment → String
  | literal text => text
  | reference name => (r.attribute? name).getD ""

def Segment.isLiteral : Segment → Bool
  | literal _ => true
  | reference _ => false

/-- The source, when the template refers to no attribute. -/
def literal? (t : Template) : Option String :=
  if t.segments.all Segment.isLiteral then some t.source else none

def render (t : Template) (r : Record) : String :=
  String.join (t.segments.map (Segment.render r))

end Template

end RecordFlow
