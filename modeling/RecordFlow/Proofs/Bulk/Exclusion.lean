import RecordFlow.Proofs.Bulk.Request

/-!
# Why records are set aside

A record can be set aside for seven kinds of reasons, which are looked for in a fixed order:
first what the operation lacks, then its charset, then what its body needs.  Each reason is
stated for itself, without regard to the others.  A push sets its record aside for the first
reason that applies, and it changes the payload only when none does.
-/

namespace RecordFlow.Bulk

/-! ## Reasons -/

namespace Exclusion

/-- The place of a reason in the order in which reasons are looked for. -/
def place : Exclusion → Nat
  | missingIndex => 0
  | missingOperation => 1
  | unsupportedOperation _ => 2
  | missingIdentifier _ => 3
  | unknownCharset _ => 4
  | missingScript => 5
  | undecodable _ => 6

variable (operation : Operation) (content : Bytes)

/-- There is this reason to set a record with the operation and the content aside. -/
def Applies : Exclusion → Prop
  | missingIndex => operation.index = ""
  | missingOperation => operation.kind = ""
  | unsupportedOperation text =>
    text = operation.kind ∧ ∀ kind : Kind, ¬ Spells operation.kind kind
  | missingIdentifier kind =>
    Spells operation.kind kind ∧ kind ≠ .index ∧ (operation.id = none ∨ operation.id = some "")
  | unknownCharset label => label = operation.charset ∧ ¬ KnownLabel operation.charset
  | missingScript =>
    ∃ kind : Kind, Spells operation.kind kind ∧ Scripted kind operation ∧ Scriptless operation
  | undecodable charset =>
    ∃ kind : Kind, Spells operation.kind kind ∧ Embeds kind operation ∧
      Charset.ofLabel? operation.charset = some charset ∧ charset.decode? content = none

/-- The reason applies, and none before it does. -/
def IsFirst (reason : Exclusion) : Prop :=
  reason.Applies operation content ∧
    ∀ other : Exclusion, other.Applies operation content → reason.place ≤ other.place

/-- No reason before this place applies. -/
def Passed (place : Nat) : Prop :=
  ∀ reason : Exclusion, reason.Applies operation content → place ≤ reason.place

variable {operation content}

/-- At each place at most one reason applies. -/
theorem Applies.unique {a b : Exclusion} (ha : a.Applies operation content)
    (hb : b.Applies operation content) (hplace : a.place = b.place) : a = b := by
  cases a <;> cases b <;> cases hplace
  · rfl
  · rfl
  · exact congrArg unsupportedOperation (ha.1.trans hb.1.symm)
  · exact congrArg missingIdentifier (spells_unique ha.1 hb.1)
  · rfl
  · exact congrArg unknownCharset (ha.1.trans hb.1.symm)
  · obtain ⟨-, -, -, ha, -⟩ := ha
    obtain ⟨-, -, -, hb, -⟩ := hb
    exact congrArg undecodable (Option.some.inj (ha.symm.trans hb))

theorem IsFirst.unique {a b : Exclusion} (ha : a.IsFirst operation content)
    (hb : b.IsFirst operation content) : a = b :=
  ha.1.unique hb.1 (Nat.le_antisymm (ha.2 b hb.1) (hb.2 a ha.1))

theorem passed_zero : Passed operation content 0 := fun _ _ => Nat.zero_le _

theorem Passed.succ {n : Nat} (h : Passed operation content n)
    (hnone : ∀ reason : Exclusion, reason.place = n → ¬ reason.Applies operation content) :
    Passed operation content (n + 1) := by
  intro reason happlies
  apply Nat.lt_of_le_of_ne (h reason happlies)
  exact fun hplace => hnone reason hplace.symm happlies

theorem Passed.not_applies (h : Passed operation content 7) (reason : Exclusion) :
    ¬ reason.Applies operation content := by
  intro happlies
  have hplace := h reason happlies
  cases reason <;> simp [place] at hplace

end Exclusion

/-! ## Entries -/

theorem identifier?_eq_none {operation : Operation} :
    operation.identifier? = none ↔ operation.id = none ∨ operation.id = some "" := by
  rw [Operation.identifier?]
  cases operation.id with
  | none => simp
  | some id => simp

section

open Exclusion

variable (operation : Operation) (content : Bytes)

/-- The checks of an operation stop at the first of the reasons that concern it. -/
theorem check_cases :
    (∃ reason, operation.check = .error reason ∧ reason.IsFirst operation content) ∨
      ∃ kind, operation.check = .ok (kind, operation.identifier?) ∧
        Spells operation.kind kind ∧ Passed operation content 4 := by
  rw [Operation.check]
  by_cases hindex : operation.index = ""
  · rw [if_pos (String.isEmpty_iff.2 hindex)]
    exact .inl ⟨.missingIndex, rfl, hindex, passed_zero⟩
  have hpast₁ : Passed operation content 1 := passed_zero.succ fun reason hplace => by
    cases reason <;> cases hplace
    exact hindex
  rw [if_neg (mt String.isEmpty_iff.1 hindex)]
  by_cases hword : operation.kind = ""
  · rw [if_pos (String.isEmpty_iff.2 hword)]
    exact .inl ⟨.missingOperation, rfl, hword, hpast₁⟩
  have hpast₂ : Passed operation content 2 := hpast₁.succ fun reason hplace => by
    cases reason <;> cases hplace
    exact hword
  rw [if_neg (mt String.isEmpty_iff.1 hword)]
  cases hkind : Kind.ofWord? operation.kind with
  | none =>
    refine .inl ⟨.unsupportedOperation operation.kind, rfl, ?_, hpast₂⟩
    exact ⟨rfl, Kind.ofWord?_eq_none.1 hkind⟩
  | some kind =>
    have hspelled := Kind.ofWord?_eq_some.1 hkind
    have hpast₃ : Passed operation content 3 := hpast₂.succ fun reason hplace => by
      cases reason <;> cases hplace
      exact fun happlies => happlies.2 kind hspelled
    have hcondition : (operation.identifier?.isNone && kind != .index) = true ↔
        operation.identifier? = none ∧ kind ≠ .index := by
      rw [Bool.and_eq_true, Option.isNone_iff_eq_none, bne_iff_ne]
    by_cases hmissing : operation.identifier? = none ∧ kind ≠ .index
    · refine .inl ⟨.missingIdentifier kind, if_pos (hcondition.2 hmissing), ?_, hpast₃⟩
      exact ⟨hspelled, hmissing.2, identifier?_eq_none.1 hmissing.1⟩
    · refine .inr ⟨kind, if_neg (mt hcondition.1 hmissing), hspelled, hpast₃.succ ?_⟩
      intro reason hplace happlies
      cases reason <;> cases hplace
      obtain ⟨hother, hindexed, hid⟩ := happlies
      obtain rfl := spells_unique hspelled hother
      exact hmissing ⟨identifier?_eq_none.2 hid, hindexed⟩

variable {operation}

/-- A body fails for the first of the reasons that concern it. -/
theorem body_cases {kind : Kind} {charset : Charset}
    (hspelled : Spells operation.kind kind)
    (hcharset : Charset.ofLabel? operation.charset = some charset)
    (hpast : Passed operation content 5) :
    (∃ reason, body kind operation charset content = .error reason ∧
        reason.IsFirst operation content) ∨
      ∃ text, body kind operation charset content = .ok text ∧ Passed operation content 7 := by
  -- A script is asked for only in a scripted body, and decoding only in one with the content.
  have hpastScript (h : ¬ (Scripted kind operation ∧ Scriptless operation)) :
      Passed operation content 6 := hpast.succ fun reason hplace happlies => by
    cases reason <;> cases hplace
    obtain ⟨other, hother, hneeds⟩ := happlies
    obtain rfl := spells_unique hspelled hother
    exact h hneeds
  have hpastContent (h : Passed operation content 6)
      (hfine : ¬ (Embeds kind operation ∧ charset.decode? content = none)) :
      Passed operation content 7 := h.succ fun reason hplace happlies => by
    cases reason <;> cases hplace
    obtain ⟨other, hother, hembeds, hnamed, hmalformed⟩ := happlies
    obtain rfl := spells_unique hspelled hother
    obtain rfl := Option.some.inj (hcharset.symm.trans hnamed)
    exact hfine ⟨hembeds, hmalformed⟩
  rcases delete_or_scripted_or_embeds kind operation with rfl | hscripted | hembeds
  · have hscript := hpastScript fun h => not_scripted_delete h.1
    exact .inr ⟨none, rfl, hpastContent hscript fun h => not_embeds_delete h.1⟩
  · rcases body_of_scripted content charset hscripted with ⟨hscript, herror⟩ | ⟨hscript, text, hok⟩
    · exact .inl ⟨.missingScript, herror, ⟨kind, hspelled, hscripted, hscript⟩, hpast⟩
    · refine .inr ⟨text, hok, hpastContent (hpastScript fun h => hscript h.2) ?_⟩
      exact fun h => hscripted.not_embeds h.1
  · have hscript := hpastScript fun h => h.1.not_embeds hembeds
    rcases body_of_embeds content charset hembeds with ⟨hcontent, herror⟩ | ⟨hcontent, text, hok⟩
    · refine .inl ⟨.undecodable charset, herror, ?_, hscript⟩
      exact ⟨kind, hspelled, hembeds, hcharset, hcontent⟩
    · exact .inr ⟨text, hok, hpastContent hscript fun h => hcontent h.2⟩

variable (operation)

/-- An entry fails for the first reason that applies. -/
theorem entry_cases :
    (∃ reason, entry operation content = .error reason ∧ reason.IsFirst operation content) ∨
      ∃ e, entry operation content = .ok e ∧
        ∀ reason : Exclusion, ¬ reason.Applies operation content := by
  rw [entry]
  rcases check_cases operation content with
    ⟨reason, hcheck, hfirst⟩ | ⟨kind, hcheck, hspelled, hpast⟩
  · rw [hcheck]
    exact .inl ⟨reason, rfl, hfirst⟩
  rw [hcheck]
  dsimp only
  cases hcharset : Charset.ofLabel? operation.charset with
  | none =>
    refine .inl ⟨.unknownCharset operation.charset, rfl, ?_, hpast⟩
    exact ⟨rfl, ofLabel?_eq_none.1 hcharset⟩
  | some charset =>
    have hpast₅ : Passed operation content 5 := hpast.succ fun reason hplace happlies => by
      cases reason <;> cases hplace
      rw [ofLabel?_eq_none.2 happlies.2] at hcharset
      cases hcharset
    dsimp only
    rcases body_cases content hspelled hcharset hpast₅ with
      ⟨reason, hbody, hfirst⟩ | ⟨text, hbody, hpast₇⟩
    · rw [hbody]
      exact .inl ⟨reason, rfl, hfirst⟩
    · rw [hbody]
      exact .inr ⟨_, rfl, hpast₇.not_applies⟩

variable {operation content}

theorem entry_eq_error {reason : Exclusion} :
    entry operation content = .error reason ↔ reason.IsFirst operation content := by
  rcases entry_cases operation content with ⟨first, hentry, hfirst⟩ | ⟨e, hentry, hnone⟩
  · rw [hentry, Except.error.injEq]
    constructor
    · rintro rfl
      exact hfirst
    · exact hfirst.unique
  · rw [hentry]
    exact iff_of_false nofun fun hreason => hnone reason hreason.1

/-- A reason that applies keeps the operation from having an entry, though perhaps not as the
first one. -/
theorem Exclusion.Applies.exists_error {reason : Exclusion}
    (h : reason.Applies operation content) : ∃ first, entry operation content = .error first := by
  rcases entry_cases operation content with ⟨first, hentry, -⟩ | ⟨-, -, hnone⟩
  · exact ⟨first, hentry⟩
  · exact absurd h (hnone reason)

end

/-! ## Pushes -/

/-- A push sets its record aside for the first reason that applies to it, and then nothing
else of the request changes.  When no reason applies, the record joins those of the payload
with lines of its own, and the records that were set aside stay as they are. -/
theorem push_by_first_reason {R : Type} (request : Request R) (r : R) (operation : Operation)
    (content : Bytes) :
    let after := request.push r operation content
    ((∃ reason : Exclusion, reason.IsFirst operation content) ∨
      ∀ reason : Exclusion, ¬ reason.Applies operation content) ∧
    (∀ reason : Exclusion, reason.IsFirst operation content ↔
      after = { request with excluded := request.excluded ++ [(r, reason)] }) ∧
    ((∀ reason : Exclusion, ¬ reason.Applies operation content) ↔
      ∃ e, entry operation content = .ok e ∧
        after = { request with
          payload := request.payload ++ e.render
          pending := request.pending ++ [r] }) := by
  intro after
  rcases entry_cases operation content with ⟨reason, hentry, hfirst⟩ | ⟨e, hentry, hnone⟩
  · have hafter : after = { request with excluded := request.excluded ++ [(r, reason)] } := by
      simp only [after, Request.push, hentry]
    refine ⟨.inl ⟨reason, hfirst⟩, fun other => ⟨?_, ?_⟩, ⟨?_, ?_⟩⟩
    · intro hother
      rw [hother.unique hfirst, hafter]
    · intro hother
      have hexcluded := congrArg Request.excluded (hafter.symm.trans hother)
      cases List.append_cancel_left hexcluded
      exact hfirst
    · exact fun hnone => absurd hfirst.1 (hnone reason)
    · rintro ⟨e, hok, -⟩
      rw [hentry] at hok
      cases hok
  · have hafter : after = { request with
        payload := request.payload ++ e.render
        pending := request.pending ++ [r] } := by
      simp only [after, Request.push, hentry]
    refine ⟨.inr hnone, fun reason => ⟨?_, ?_⟩, ⟨fun _ => ⟨e, hentry, hafter⟩, fun _ => hnone⟩⟩
    · exact fun hfirst => absurd hfirst.1 (hnone reason)
    · intro hreason
      have hexcluded := congrArg Request.excluded (hafter.symm.trans hreason)
      exact absurd hexcluded.symm (by simp)

/-- A deletion lacks its identifier first, and without content it still needs a charset. -/
example :
    let operation : Operation := { index := "docs", kind := "DELETE", charset := "klingon" }
    entry operation [] = .error (.missingIdentifier .delete) ∧
      entry { operation with id := some "1" } [] = .error (.unknownCharset "klingon") := by
  constructor
  · rfl
  · rfl

end RecordFlow.Bulk
