import RecordFlow.Text.Blank

/-!
# Trimming

Elements of a kind are removed from both ends of a list up to the first and the last element of
another kind.  What stands around a core that neither begins nor ends with such elements is reduced
on each side on its own.
-/

namespace RecordFlow.Text

variable {α : Type} {p : α → Bool}

def strip (p : α → Bool) (xs : List α) : List α :=
  ((xs.dropWhile p).reverse.dropWhile p).reverse

theorem dropWhile_append_of_head {rest : List α} (hne : rest ≠ []) (h : p (rest.head hne) = false)
    (left : List α) : (left ++ rest).dropWhile p = left.dropWhile p ++ rest := by
  induction left with
  | nil =>
    obtain ⟨a, rest, rfl⟩ := List.exists_cons_of_ne_nil hne
    exact List.dropWhile_cons_of_neg (ne_true_of_eq_false h)
  | cons a left ih =>
    cases ha : p a
    case true =>
      rw [List.cons_append, List.dropWhile_cons_of_pos ha, ih, List.dropWhile_cons_of_pos ha]
    case false =>
      rw [List.cons_append, List.dropWhile_cons_of_neg (ne_true_of_eq_false ha),
        List.dropWhile_cons_of_neg (ne_true_of_eq_false ha), List.cons_append]

/-- Around a core each side is reduced on its own. -/
theorem strip_around {core : List α} (hne : core ≠ []) (hhead : p (core.head hne) = false)
    (hlast : p (core.getLast hne) = false) (left right : List α) :
    strip p (left ++ core ++ right) =
      left.dropWhile p ++ core ++ (right.reverse.dropWhile p).reverse := by
  have hfront : (left ++ (core ++ right)).dropWhile p = left.dropWhile p ++ (core ++ right) := by
    refine dropWhile_append_of_head (List.append_ne_nil_of_left_ne_nil hne right) ?_ left
    rwa [List.head_append_left hne]
  have hback : (right.reverse ++ (core.reverse ++ (left.dropWhile p).reverse)).dropWhile p =
      right.reverse.dropWhile p ++ (core.reverse ++ (left.dropWhile p).reverse) := by
    have hreverse : core.reverse ≠ [] := List.reverse_ne_nil_iff.2 hne
    refine dropWhile_append_of_head (List.append_ne_nil_of_left_ne_nil hreverse _) ?_ _
    rwa [List.head_append_left hreverse, List.head_reverse]
  calc strip p (left ++ core ++ right)
      = ((left.dropWhile p ++ (core ++ right)).reverse.dropWhile p).reverse := by
        rw [strip, List.append_assoc, hfront]
    _ = ((right.reverse ++ (core.reverse ++ (left.dropWhile p).reverse)).dropWhile p).reverse := by
        rw [List.reverse_append, List.reverse_append, List.append_assoc]
    _ = left.dropWhile p ++ core ++ (right.reverse.dropWhile p).reverse := by
        rw [hback, List.reverse_append, List.reverse_append, List.reverse_reverse,
          List.reverse_reverse]

/-- Around a core everything that is to be removed is removed. -/
theorem strip_around_of_forall {core left right : List α} (hne : core ≠ [])
    (hhead : p (core.head hne) = false) (hlast : p (core.getLast hne) = false)
    (hleft : ∀ a ∈ left, p a = true) (hright : ∀ a ∈ right, p a = true) :
    strip p (left ++ core ++ right) = core := by
  have hdrop {side : List α} (h : ∀ a ∈ side, p a = true) : side.dropWhile p = [] := by
    rw [← List.append_nil side, List.dropWhile_append_of_pos h, List.dropWhile_nil]
  rw [strip_around hne hhead hlast, hdrop hleft,
    hdrop fun a ha => hright a (List.mem_reverse.1 ha), List.reverse_nil, List.append_nil,
    List.nil_append]

/-- Where nothing is to be removed, everything stays. -/
theorem strip_eq_self {xs : List α} (h : ∀ a ∈ xs, p a = false) : strip p xs = xs := by
  by_cases hne : xs = []
  · subst hne
    rfl
  · have haround := strip_around hne (h _ (List.head_mem hne)) (h _ (List.getLast_mem hne)) [] []
    simpa using haround

/-- What is removed at the end follows what is left. -/
theorem strip_append_takeWhile (p : α → Bool) (xs : List α) :
    strip p xs ++ ((xs.dropWhile p).reverse.takeWhile p).reverse = xs.dropWhile p := by
  rw [strip, ← List.reverse_append, List.takeWhile_append_dropWhile, List.reverse_reverse]

/-- Elements are removed at both ends and nowhere else. -/
theorem exists_around_strip (p : α → Bool) (xs : List α) :
    ∃ left right, xs = left ++ strip p xs ++ right ∧
      (∀ a ∈ left, p a = true) ∧ ∀ a ∈ right, p a = true := by
  refine ⟨xs.takeWhile p, ((xs.dropWhile p).reverse.takeWhile p).reverse, ?_, ?_, ?_⟩
  · rw [List.append_assoc, strip_append_takeWhile, List.takeWhile_append_dropWhile]
  · exact List.all_eq_true.1 List.all_takeWhile
  · intro a ha
    exact List.all_eq_true.1 List.all_takeWhile a (List.mem_reverse.1 ha)

/-- What is left begins and ends with elements that are not removed. -/
theorem strip_ends {xs : List α} (hne : strip p xs ≠ []) :
    p ((strip p xs).head hne) = false ∧ p ((strip p xs).getLast hne) = false := by
  constructor
  · have hprefix : strip p xs <+: xs.dropWhile p := ⟨_, strip_append_takeWhile p xs⟩
    rw [List.IsPrefix.head hprefix hne]
    exact List.head_dropWhile_not p _
  · have hreverse := List.reverse_ne_nil_iff.1 hne
    have hlast : (strip p xs).getLast hne = ((xs.dropWhile p).reverse.dropWhile p).head hreverse :=
      List.getLast_reverse hne
    rw [hlast]
    exact List.head_dropWhile_not p _

/-- No character of ASCII that shows is white space. -/
theorem isBlankChar_of_shows {c : Char} (h : 0x21 ≤ c.toNat ∧ c.toNat ≤ 0x7E) :
    isBlankChar c = false := by
  simp only [isBlankChar, Bool.or_eq_false_iff, Bool.and_eq_false_iff, decide_eq_false_iff_not,
    beq_eq_false_iff_ne]
  omega

theorem trimChars_eq_strip (text : List Char) : trimChars text = strip isBlankChar text := rfl

end RecordFlow.Text
