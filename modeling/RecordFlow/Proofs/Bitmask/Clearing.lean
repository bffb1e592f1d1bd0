import RecordFlow.Proofs.Bitmask.Registry

/-!
# Clearing

When matched bits are to be cleared, a decision takes the bits of all matching masks out of
the value.  No rule with a bit of its own can match what is left: a rule that matched before
has lost its bits, and one that did not has gained none.  So a second decision is stable.
-/

namespace RecordFlow.Bitmask

instance (mask value : Int64) : Decidable (Within mask value) :=
  decidable_of_iff (covers value mask = true) covers_iff

theorem matching_eq_filter (rules : List (Output × Int64)) (value : Int64) :
    matching rules value = rules.filter fun rule => Within rule.2 value := by
  apply List.filter_congr
  intro rule _
  rw [Bool.eq_iff_iff, decide_eq_true_eq]
  exact covers_iff

/-! ## Signs -/

/-- The highest bit is the sign. -/
theorem bit_sign (value : Int64) : bit value 63 = true ↔ value < 0 := by
  have hmsb : value.toBitVec.msb = bit value 63 := BitVec.msb_eq_getLsbD_last _
  rw [← hmsb, BitVec.msb_eq_toInt, decide_eq_true_eq, Int64.lt_iff_toInt_lt]
  rfl

/-! ## What is left of a value -/

/-- The value without the bits of the masks that it covers. -/
def rest (rules : List (Output × Int64)) (value : Int64) : Int64 :=
  value ^^^ union (matching rules value)

section

variable (rules : List (Output × Int64)) (value : Int64)

theorem bit_rest (i : Nat) :
    bit (rest rules value) i =
      (bit value i && !(matching rules value).any fun rule => bit rule.2 i) :=
  bit_cleared (fun _ hrule => (mem_matching.1 hrule).2) i

/-- No bit of a matching mask is left. -/
theorem bit_rest_of_matching {rules : List (Output × Int64)} {value : Int64}
    {rule : Output × Int64} (hrule : rule ∈ rules) (hwithin : Within rule.2 value) {i : Nat}
    (hbit : bit rule.2 i = true) : bit (rest rules value) i = false := by
  have hany : ((matching rules value).any fun rule => bit rule.2 i) = true :=
    List.any_eq_true.2 ⟨rule, mem_matching.2 ⟨hrule, hwithin⟩, hbit⟩
  rw [bit_rest, hany, Bool.not_true, Bool.and_false]

/-- Bits that are in no matching mask are left as they are. -/
theorem bit_rest_of_others {rules : List (Output × Int64)} {value : Int64} {i : Nat}
    (h : ∀ rule ∈ rules, Within rule.2 value → bit rule.2 i = false) :
    bit (rest rules value) i = bit value i := by
  have hany : ((matching rules value).any fun rule => bit rule.2 i) = false := by
    apply List.any_eq_false.2
    intro rule hrule
    obtain ⟨hmem, hwithin⟩ := mem_matching.1 hrule
    simp [h rule hmem hwithin]
  rw [bit_rest, hany, Bool.not_false, Bool.and_true]

theorem within_rest : Within (rest rules value) value := by
  intro i hbit
  rw [bit_rest, Bool.and_eq_true] at hbit
  exact hbit.1

theorem sign_rest (hmasks : ∀ rule ∈ rules, 0 ≤ rule.2) : rest rules value < 0 ↔ value < 0 := by
  rw [← bit_sign, ← bit_sign, bit_rest_of_others]
  intro rule hrule _
  rw [Bool.eq_false_iff, Ne, bit_sign]
  exact Int64.not_lt.2 (hmasks rule hrule)

/-- What is left covers the mask of a rule only if the mask is empty. -/
theorem within_rest_iff {rules : List (Output × Int64)} {value : Int64} {rule : Output × Int64}
    (hrule : rule ∈ rules) : Within rule.2 (rest rules value) ↔ rule.2 = 0 := by
  constructor
  · intro hwithin
    have hmatched : Within rule.2 value := fun i hbit => within_rest rules value i (hwithin i hbit)
    apply ext_bit
    intro i
    rw [bit_zero, Bool.eq_false_iff]
    intro hbit
    have hleft := hwithin i hbit
    rw [bit_rest_of_matching hrule hmatched hbit] at hleft
    cases hleft
  · intro hzero i hbit
    rw [hzero, bit_zero] at hbit
    cases hbit

/-- Only rules with empty masks match what is left. -/
theorem matching_rest :
    matching rules (rest rules value) = rules.filter fun rule => rule.2 = 0 := by
  rw [matching_eq_filter]
  apply List.filter_congr
  intro rule hrule
  rw [Bool.eq_iff_iff, decide_eq_true_eq, decide_eq_true_eq]
  exact within_rest_iff hrule

/-- There is nothing more to clear from what is left. -/
theorem rest_rest : rest rules (rest rules value) = rest rules value := by
  apply ext_bit
  intro i
  apply bit_rest_of_others
  intro rule hrule hwithin
  rw [(within_rest_iff hrule).1 hwithin, bit_zero]

/-! ## Decisions -/

theorem matched_decide (clearing : Bool) :
    (decide rules value clearing).matched =
      (rules.filter fun rule => Within rule.2 value).map Prod.fst := by
  rw [← matching_eq_filter]
  rfl

theorem cleared_decide (clearing : Bool) :
    (decide rules value clearing).cleared =
      if clearing = true ∧ (decide rules value clearing).matched ≠ [] then
        some (rest rules value)
      else none := by
  cases clearing with
  | false => simp [decide]
  | true => simp [decide, rest]

end

/-- A decision on the rules in force names those that the value covers, in their order.
When bits are cleared, exactly those of the matching masks are, which leaves the sign; and a
second decision names the rules with empty masks and clears nothing more. -/
theorem decide_rulesAfter (calls : List RuleCall) (value : Int64) (clearing : Bool) :
    let rules := (rulesAfter calls).snapshot
    let decision := decide rules value clearing
    decision.matched = (rules.filter fun rule => Within rule.2 value).map Prod.fst ∧
    (clearing = true → decision.matched ≠ [] → ∃ cleared,
      decision.cleared = some cleared ∧
      (∀ rule ∈ rules, Within rule.2 value →
        ∀ i, bit rule.2 i = true → bit cleared i = false) ∧
      (∀ i, (∀ rule ∈ rules, Within rule.2 value → bit rule.2 i = false) →
        bit cleared i = bit value i) ∧
      (cleared < 0 ↔ value < 0) ∧
      let again := decide rules cleared clearing
      again.matched = (rules.filter fun rule => rule.2 = 0).map Prod.fst ∧
      (again.matched ≠ [] → again.cleared = some cleared)) ∧
    (clearing = false ∨ decision.matched = [] → decision.cleared = none) := by
  intro rules decision
  refine ⟨matched_decide rules value clearing, ?_, ?_⟩
  · intro hclearing hmatched
    refine ⟨rest rules value, ?_, ?_, ?_, ?_, ?_, ?_⟩
    · exact (cleared_decide rules value clearing).trans (if_pos ⟨hclearing, hmatched⟩)
    · exact fun rule hrule hwithin i hbit => bit_rest_of_matching hrule hwithin hbit
    · exact fun i hothers => bit_rest_of_others hothers
    · exact sign_rest rules value (validated_rulesAfter calls).nonnegative
    · rw [← matching_rest rules value]
      rfl
    · intro hagain
      rw [cleared_decide, if_pos ⟨hclearing, hagain⟩, rest_rest]
  · intro hnone
    apply (cleared_decide rules value clearing).trans
    apply if_neg
    rintro ⟨hclearing, hmatched⟩
    rcases hnone with hkept | hnone
    · rw [hkept] at hclearing
      cases hclearing
    · exact hmatched hnone

/-- Rules with overlapping masks, and one whose mask is empty. -/
def overlapping : List RuleCall :=
  [.register "low" (.number 3), .register "mid" (.text "6"), .register "any" (.number 0)]

/-- A negative value loses the bits of both masks and stays negative. -/
theorem overlapping_decide :
    let rules := (rulesAfter overlapping).snapshot
    ∃ cleared, (decide rules (-1) true).cleared = some cleared ∧ cleared < 0 ∧
      bit cleared 1 = false ∧ bit cleared 3 = true ∧
      (decide rules cleared true).matched = [⟨"any"⟩] := by
  intro rules
  obtain ⟨-, hclears, -⟩ := decide_rulesAfter overlapping (-1) true
  obtain ⟨cleared, hcleared, hgone, hkept, hsign, hagain, -⟩ := hclears rfl (by decide)
  refine ⟨cleared, hcleared, hsign.2 (by decide), ?_, ?_, hagain⟩
  · exact hgone (⟨"low"⟩, 3) (by decide) (by decide) 1 (by decide)
  · exact hkept 3 (by decide)

end RecordFlow.Bitmask
