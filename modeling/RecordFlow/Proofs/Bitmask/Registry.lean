import RecordFlow.Proofs.Bitmask.Registration

/-!
# Rules over time

Rules are registered with a number or a text, replaced and removed, in any order.  Whether
a call is refused is told by the call alone.  So what the rules are in the end is told name
by name: by the last call that was about the name and was not refused.
-/

namespace RecordFlow

namespace Decimal

/-- The text is an integer in decimal, with any white space around it. -/
def Shows (text : String) (i : Int) : Prop :=
  ∃ left digits right, text.toList = left ++ digits ++ right ∧
    (∀ c ∈ left, Text.isBlankChar c = true) ∧ (∀ c ∈ right, Text.isBlankChar c = true) ∧
    Denotes digits i

theorem Denotes.ne_nil {text : List Char} {i : Int} (h : Denotes text i) : text ≠ [] := by
  cases h with
  | plain h => exact h.1
  | plus h => exact List.cons_ne_nil _ _
  | minus h => exact List.cons_ne_nil _ _

theorem shows_iff {text : String} {i : Int} :
    Shows text i ↔ Denotes (Text.trim text).toList i := by
  rw [Text.trim, String.toList_ofList, Text.trimChars_eq_strip]
  constructor
  · rintro ⟨left, digits, right, htext, hleft, hright, hdigits⟩
    have hsolid : ∀ c ∈ digits, Text.isBlankChar c = false := fun c hc =>
      isBlankChar_of_denotes hdigits hc
    rw [htext, Text.strip_around_of_forall hdigits.ne_nil (hsolid _ (List.head_mem _))
      (hsolid _ (List.getLast_mem _)) hleft hright]
    exact hdigits
  · intro h
    obtain ⟨left, right, htext, hleft, hright⟩ :=
      Text.exists_around_strip Text.isBlankChar text.toList
    exact ⟨left, _, right, htext, hleft, hright, h⟩

end Decimal

namespace Bitmask

/-! ## Calls -/

/-- A call that may change the rules. -/
inductive RuleCall where
  /-- Register a rule, or replace the one of that name.  The mask is a number or a text. -/
  | register (name : String) (mask : MaskSource)
  | remove (name : String)

/-- The answer to a call. -/
inductive RuleAnswer where
  | registered
  | refused (fault : RuleFault)
  /-- Whether there was such a rule. -/
  | removed (found : Bool)

namespace RuleCall

/-- The rule that a call is about. -/
def name : RuleCall → String
  | register name _ | remove name => name

/-- Make a call.  If it is refused, the rules stay. -/
def on (rules : Rules) : RuleCall → RuleAnswer × Rules
  | register name mask =>
    match mask.register rules name with
    | .ok changed => (.registered, changed)
    | .error fault => (.refused fault, rules)
  | remove name => (.removed (rules.remove name).1, (rules.remove name).2)

/-- The call gives the rule of this name this mask, or takes the rule away.  A call that is
refused does neither. -/
inductive Affects : RuleCall → String → Option Int64 → Prop
  | register {name : String} {source : MaskSource} {mask : Int64}
    (h : Admits name source mask) : Affects (register name source) name (some mask)
  | remove (name : String) : Affects (remove name) name none

end RuleCall

/-- The rules after these calls, when there were none before. -/
def rulesAfter (calls : List RuleCall) : Rules :=
  calls.foldl (fun rules call => (call.on rules).2) .empty

/-- The last of these calls that affects the rule of this name has this effect on it. -/
def LastEffect (calls : List RuleCall) (name : String) (effect : Option Int64) : Prop :=
  ∃ before call after, calls = before ++ call :: after ∧ call.Affects name effect ∧
    ∀ later ∈ after, ∀ other, ¬ later.Affects name other

/-! ## One call -/

namespace RuleCall

variable {call : RuleCall} {name : String} {effect other : Option Int64} {rules : Rules}

theorem Affects.name_eq (h : call.Affects name effect) : call.name = name := by
  cases h <;> rfl

theorem Affects.unique (h : call.Affects name effect) (h' : call.Affects name other) :
    effect = other := by
  cases h with
  | register h =>
    cases h' with
    | register h' =>
      -- Two registrations of one source are the same registration.
      have hsame := (MaskSource.register_of_admits h .empty).symm.trans
        (MaskSource.register_of_admits h' .empty)
      have hmask := congrArg (fun rules : Rules => rules.mask? name) (Except.ok.inj hsame)
      simpa [Rules.mask?_insert] using hmask
  | remove => cases h' with
    | remove => rfl

theorem on_of_admits {source : MaskSource} {mask : Int64} (h : Admits name source mask)
    (rules : Rules) :
    (register name source).on rules = (.registered, ⟨rules.masks.insert name mask⟩) := by
  rw [on, MaskSource.register_of_admits h]

theorem on_of_refuses {source : MaskSource} {fault : RuleFault} (h : Refuses name source fault)
    (rules : Rules) : (register name source).on rules = (.refused fault, rules) := by
  rw [on, MaskSource.register_of_refuses h]

/-- A call that is refused changes nothing. -/
theorem on_of_refused {fault : RuleFault} (h : (call.on rules).1 = .refused fault) :
    (call.on rules).2 = rules := by
  cases call with
  | remove name => cases h
  | register name source =>
    obtain ⟨mask, hadmits⟩ | ⟨fault, hrefuses⟩ := MaskSource.admits_or_refuses name source
    · rw [on_of_admits hadmits] at h
      cases h
    · rw [on_of_refuses hrefuses]

/-- Registrations succeed exactly when the rule is admitted. -/
theorem registered_iff {source : MaskSource} :
    ((register name source).on rules).1 = .registered ↔ ∃ mask, Admits name source mask := by
  constructor
  · intro h
    obtain hadmits | ⟨fault, hrefuses⟩ := MaskSource.admits_or_refuses name source
    · exact hadmits
    · rw [on_of_refuses hrefuses] at h
      cases h
  · rintro ⟨mask, hadmits⟩
    rw [on_of_admits hadmits]

theorem mask?_of_affects (h : call.Affects name effect) (rules : Rules) :
    (call.on rules).2.mask? name = effect := by
  cases h with
  | register hadmits => rw [on_of_admits hadmits, Rules.mask?_insert, if_pos rfl]
  | remove => exact (rules.mask?_remove name name).trans (if_pos rfl)

/-- Only the rule that a call affects changes. -/
theorem mask?_of_not_affects (h : ∀ effect, ¬ call.Affects name effect) (rules : Rules) :
    (call.on rules).2.mask? name = rules.mask? name := by
  cases call with
  | remove changed =>
    have hname : name ≠ changed := fun heq => h none (heq ▸ .remove changed)
    exact (rules.mask?_remove changed name).trans (if_neg hname)
  | register changed source =>
    obtain ⟨mask, hadmits⟩ | ⟨fault, hrefuses⟩ := MaskSource.admits_or_refuses changed source
    · have hname : name ≠ changed := by
        rintro rfl
        exact h (some mask) (.register hadmits)
      rw [on_of_admits hadmits, Rules.mask?_insert, if_neg hname]
    · rw [on_of_refuses hrefuses]

theorem mask?_of_name_ne (h : call.name ≠ name) (rules : Rules) :
    (call.on rules).2.mask? name = rules.mask? name :=
  mask?_of_not_affects (fun _ haffects => h haffects.name_eq) rules

/-- The answer depends on the rule that the call is about. -/
theorem answer_congr {rules' : Rules} (h : rules.mask? call.name = rules'.mask? call.name) :
    (call.on rules).1 = (call.on rules').1 := by
  cases call with
  | remove name => exact congrArg (fun mask => RuleAnswer.removed mask.isSome) h
  | register name source =>
    obtain ⟨mask, hadmits⟩ | ⟨fault, hrefuses⟩ := MaskSource.admits_or_refuses name source
    · rw [on_of_admits hadmits, on_of_admits hadmits]
    · rw [on_of_refuses hrefuses, on_of_refuses hrefuses]

end RuleCall

theorem Rules.ext_mask? {a b : Rules} (h : ∀ name, a.mask? name = b.mask? name) : a = b := by
  cases a
  cases b
  exact congrArg Rules.mk (Dictionary.ext_get? h)

/-- Calls about different rules commute. -/
theorem RuleCall.on_comm {c d : RuleCall} (h : c.name ≠ d.name) (rules : Rules) :
    (d.on (c.on rules).2).2 = (c.on (d.on rules).2).2 := by
  apply Rules.ext_mask?
  intro name
  by_cases hc : ∃ effect, c.Affects name effect
  · obtain ⟨effect, heffect⟩ := hc
    have hd : d.name ≠ name := fun heq => h (heffect.name_eq.trans heq.symm)
    rw [mask?_of_name_ne hd, mask?_of_affects heffect, mask?_of_affects heffect]
  · have hnone := not_exists.1 hc
    by_cases hd : ∃ effect, d.Affects name effect
    · obtain ⟨effect, heffect⟩ := hd
      rw [mask?_of_affects heffect, mask?_of_not_affects hnone, mask?_of_affects heffect]
    · rw [mask?_of_not_affects (not_exists.1 hd), mask?_of_not_affects hnone,
        mask?_of_not_affects hnone, mask?_of_not_affects (not_exists.1 hd)]

/-! ## Many calls -/

theorem not_lastEffect_nil {name : String} {effect : Option Int64} :
    ¬ LastEffect [] name effect := by
  rintro ⟨before, call, after, hsplit, -⟩
  simp at hsplit

/-- The last call decides about the rule that it affects, and about no other one. -/
theorem lastEffect_concat {calls : List RuleCall} {call : RuleCall} {name : String}
    {effect : Option Int64} :
    LastEffect (calls ++ [call]) name effect ↔
      call.Affects name effect ∨
        LastEffect calls name effect ∧ ∀ other, ¬ call.Affects name other := by
  constructor
  · rintro ⟨before, found, after, hsplit, haffects, hlater⟩
    rcases List.eq_nil_or_concat' after with rfl | ⟨rest, last, rfl⟩
    · obtain rfl : call = found := List.singleton_inj.1 (List.append_inj' hsplit rfl).2
      exact .inl haffects
    · rw [← List.cons_append, ← List.append_assoc] at hsplit
      obtain ⟨rfl, hlast⟩ := List.append_inj' hsplit rfl
      obtain rfl : call = last := List.singleton_inj.1 hlast
      refine .inr ⟨⟨before, found, rest, rfl, haffects, ?_⟩, hlater call (by simp)⟩
      exact fun later hmem => hlater later (List.mem_append_left _ hmem)
  · rintro (haffects | ⟨⟨before, found, after, rfl, haffects, hlater⟩, hnone⟩)
    · exact ⟨calls, call, [], rfl, haffects, fun _ hmem => absurd hmem List.not_mem_nil⟩
    · refine ⟨before, found, after ++ [call], by simp, haffects, ?_⟩
      intro later hmem
      rcases List.mem_append.1 hmem with hmem | hmem
      · exact hlater later hmem
      · rw [List.mem_singleton.1 hmem]
        exact hnone

theorem rulesAfter_concat (calls : List RuleCall) (call : RuleCall) :
    rulesAfter (calls ++ [call]) = (call.on (rulesAfter calls)).2 := by
  rw [rulesAfter, List.foldl_concat]
  rfl

/-- Each rule has the mask that its last effective call gave to it. -/
theorem mask?_rulesAfter (calls : List RuleCall) (name : String) (mask : Int64) :
    (rulesAfter calls).mask? name = some mask ↔ LastEffect calls name (some mask) := by
  induction calls using List.reverseRecOn with
  | nil =>
    have hnone : (rulesAfter []).mask? name = none := rfl
    simp [hnone, not_lastEffect_nil]
  | append_singleton calls call ih =>
    rw [rulesAfter_concat]
    by_cases h : ∃ effect, call.Affects name effect
    · obtain ⟨effect, heffect⟩ := h
      rw [RuleCall.mask?_of_affects heffect, lastEffect_concat]
      constructor
      · rintro rfl
        exact .inl heffect
      · rintro (hmask | ⟨-, hnone⟩)
        · exact heffect.unique hmask
        · exact absurd heffect (hnone effect)
    · have hnone := not_exists.1 h
      rw [RuleCall.mask?_of_not_affects hnone, lastEffect_concat, ih]
      simp [hnone]

/-- Only admitted rules are ever in force. -/
theorem proper_of_mask?_rulesAfter {calls : List RuleCall} {name : String} {mask : Int64}
    (h : (rulesAfter calls).mask? name = some mask) :
    (name ≠ "" ∧ name ≠ unmatched.name ∧ name ≠ failure.name) ∧ 0 ≤ mask := by
  obtain ⟨before, call, after, -, haffects, -⟩ := (mask?_rulesAfter calls name mask).1 h
  cases haffects with
  | register hadmits =>
    exact ⟨⟨hadmits.named, hadmits.free.1, hadmits.free.2⟩, hadmits.nonnegative⟩

/-! ## What holds at any time -/

/-- The snapshot lists each rule once, by the bytes of the names, and all of its rules are
proper: their outputs have names of their own, and no mask is negative. -/
structure Rules.Validated (rules : Rules) : Prop where
  ascending : rules.snapshot.Pairwise fun a b => Utf8.encode a.1.name < Utf8.encode b.1.name
  listed : ∀ output mask,
    (output, mask) ∈ rules.snapshot ↔ rules.mask? output.name = some mask
  size : rules.size = rules.snapshot.length
  named : ∀ rule ∈ rules.snapshot,
    rule.1.name ≠ "" ∧ rule.1.name ≠ "unmatched" ∧ rule.1.name ≠ "failure"
  nonnegative : ∀ rule ∈ rules.snapshot, 0 ≤ rule.2

theorem Rules.mem_snapshot_iff {rules : Rules} {output : Output} {mask : Int64} :
    (output, mask) ∈ rules.snapshot ↔ rules.mask? output.name = some mask := by
  rw [mask?, ← Dictionary.mem_members_iff, snapshot, List.mem_map]
  constructor
  · rintro ⟨⟨name, other⟩, hmem, heq⟩
    obtain ⟨rfl, rfl⟩ := Prod.mk.inj heq
    exact hmem
  · intro hmem
    exact ⟨(output.name, mask), hmem, rfl⟩

theorem validated_rulesAfter (calls : List RuleCall) : (rulesAfter calls).Validated where
  ascending := by
    rw [Rules.snapshot, List.pairwise_map]
    exact (rulesAfter calls).masks.ascending.imp Utf8.encode_lt_encode_iff.2
  listed := fun _ _ => Rules.mem_snapshot_iff
  size := (List.length_map _).symm
  named := fun _ hrule => (proper_of_mask?_rulesAfter (Rules.mem_snapshot_iff.1 hrule)).1
  nonnegative := fun _ hrule => (proper_of_mask?_rulesAfter (Rules.mem_snapshot_iff.1 hrule)).2

/-! ## Masks as texts -/

section

variable {i : Int} (hlow : 0 ≤ i) (hhigh : i ≤ 2 ^ 63 - 1)

include hlow hhigh

theorem toInt_ofInt_of_range : (Int64.ofInt i).toInt = i :=
  Int64.toInt_ofInt_of_le (by omega) (by omega)

theorem nonneg_ofInt_of_range : 0 ≤ Int64.ofInt i := by
  rw [Int64.le_iff_toInt_le, toInt_ofInt_of_range hlow hhigh]
  exact hlow

/-- A text is registered as the integer that it shows. -/
theorem Rules.registerText_of_shows {text : String} (h : Decimal.Shows text i) (rules : Rules)
    (name : String) : rules.registerText name text = rules.register name (Int64.ofInt i) := by
  have hdenotes : (MaskSource.text text).Denotes (Int64.ofInt i) := by
    rw [MaskSource.Denotes, toInt_ofInt_of_range hlow hhigh]
    exact Decimal.shows_iff.1 h
  exact MaskSource.register_of_denotes hdenotes rules name

end

/-- A text is accepted exactly when it shows an integer of 63 bits and the name is proper. -/
theorem Rules.exists_registerText_iff (rules : Rules) (name text : String) :
    (∃ changed, rules.registerText name text = .ok changed) ↔
      (name ≠ "" ∧ name ≠ "unmatched" ∧ name ≠ "failure") ∧
        ∃ i : Int, 0 ≤ i ∧ i ≤ 2 ^ 63 - 1 ∧ Decimal.Shows text i := by
  constructor
  · rintro ⟨changed, hchanged⟩
    obtain ⟨hempty, hunmatched, hfailure, mask, hdenotes, hmask⟩ :=
      (Rules.registerText_eq_ok hchanged).1
    refine ⟨⟨hempty, hunmatched, hfailure⟩, mask.toInt, Int64.le_iff_toInt_le.1 hmask, ?_,
      Decimal.shows_iff.2 hdenotes⟩
    have hbound := mask.toInt_lt
    omega
  · rintro ⟨⟨hempty, hunmatched, hfailure⟩, i, hlow, hhigh, hshows⟩
    rw [rules.registerText_of_shows hlow hhigh hshows]
    exact ⟨_, rules.register_of_proper hempty hunmatched hfailure
      (nonneg_ofInt_of_range hlow hhigh)⟩

/-! ## The rules as a map -/

/-- After any calls, a rule has the mask that the last call gave it that registered the rule
or removed it; no other calls matter, and calls about different rules commute.  The
snapshot lists these rules, all of them proper, and a call that is refused leaves it as it
is.  A mask may be given as a text, which is accepted if it shows an integer that a mask can
be, and then counts as this integer. -/
theorem rules_after_calls (calls : List RuleCall) :
    let rules := rulesAfter calls
    (∀ name mask, rules.mask? name = some mask ↔ LastEffect calls name (some mask)) ∧
    (∀ others, (∀ name effect, LastEffect others name effect ↔ LastEffect calls name effect) →
      (rulesAfter others).snapshot = rules.snapshot) ∧
    (∀ c d : RuleCall, c.name ≠ d.name →
      (d.on (c.on rules).2).2 = (c.on (d.on rules).2).2 ∧
      (d.on (c.on rules).2).1 = (d.on rules).1 ∧ (c.on (d.on rules).2).1 = (c.on rules).1) ∧
    rules.Validated ∧
    (∀ (call : RuleCall) fault, (call.on rules).1 = .refused fault →
      (call.on rules).2.snapshot = rules.snapshot) ∧
    (∀ name source, ((RuleCall.register name source).on rules).1 = .registered ↔
      ∃ mask, Admits name source mask) ∧
    ∀ name text,
      ((∃ changed, rules.registerText name text = .ok changed) ↔
        (name ≠ "" ∧ name ≠ "unmatched" ∧ name ≠ "failure") ∧
          ∃ i : Int, 0 ≤ i ∧ i ≤ 2 ^ 63 - 1 ∧ Decimal.Shows text i) ∧
      ∀ i : Int, 0 ≤ i → i ≤ 2 ^ 63 - 1 → Decimal.Shows text i →
        rules.registerText name text = rules.register name (Int64.ofInt i) := by
  intro rules
  refine ⟨mask?_rulesAfter calls, ?_, ?_, validated_rulesAfter calls, ?_, ?_, ?_⟩
  · intro others hsame
    have hrules : rulesAfter others = rules := by
      apply Rules.ext_mask?
      intro name
      ext mask
      calc (rulesAfter others).mask? name = some mask
          ↔ LastEffect others name (some mask) := mask?_rulesAfter others name mask
        _ ↔ LastEffect calls name (some mask) := hsame name (some mask)
        _ ↔ rules.mask? name = some mask := (mask?_rulesAfter calls name mask).symm
    rw [hrules]
  · intro c d hname
    exact ⟨RuleCall.on_comm hname rules,
      RuleCall.answer_congr (RuleCall.mask?_of_name_ne hname rules),
      RuleCall.answer_congr (RuleCall.mask?_of_name_ne hname.symm rules)⟩
  · intro call fault hrefused
    rw [RuleCall.on_of_refused hrefused]
  · exact fun name source => RuleCall.registered_iff
  · intro name text
    refine ⟨rules.exists_registerText_iff name text, ?_⟩
    exact fun i hlow hhigh hshows => rules.registerText_of_shows hlow hhigh hshows name

/-- A rule is replaced, and one more replacement is refused; another rule is removed; a
third one has a reserved name. -/
def replacements : List RuleCall :=
  [.register "low" (.number 3), .register "high" (.text " +12 "), .register "low" (.text "-0"),
    .register "low" (.text "six"), .remove "high", .register "failure" (.number 1)]

/-- The accepted replacement counts, not the refused one after it. -/
theorem low_after_replacements :
    LastEffect replacements "low" (some 0) ∧ (rulesAfter replacements).mask? "low" = some 0 := by
  have hadmits : Admits "low" (.text "-0") 0 :=
    ⟨by decide, by decide, Decimal.parseInt64?_eq_some.1 (by decide), by decide⟩
  have hrefused (effect : Option Int64) :
      ¬ (RuleCall.register "low" (.text "six")).Affects "low" effect := by
    intro haffects
    cases haffects with
    | register h =>
      have hparse := Decimal.parseInt64?_eq_some.2 h.denotes
      rw [(by decide : Decimal.parseInt64? (Text.trim "six") = none)] at hparse
      cases hparse
  have hlast : LastEffect replacements "low" (some 0) := by
    refine ⟨replacements.take 2, _, replacements.drop 3, rfl, .register hadmits, ?_⟩
    intro later hlater effect haffects
    simp only [replacements, List.drop_succ_cons, List.drop_zero, List.mem_cons, List.not_mem_nil,
      or_false] at hlater
    rcases hlater with rfl | rfl | rfl
    · exact hrefused effect haffects
    · exact absurd haffects.name_eq (by decide)
    · exact absurd haffects.name_eq (by decide)
  exact ⟨hlast, ((rules_after_calls replacements).1 "low" 0).2 hlast⟩

end Bitmask

end RecordFlow
