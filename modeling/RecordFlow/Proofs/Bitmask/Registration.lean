import RecordFlow.Bitmask.Config
import RecordFlow.Proofs.Bitmask.Outputs
import RecordFlow.Proofs.Text.Trimming

/-!
# Registration

A mask is written as a number or as a text, and a rule is admitted or refused for what its
name and its mask say, however the mask is written.  Rules that are registered one after
another go in up to the first that is refused, and the fault names what is wrong with it.
-/

namespace RecordFlow.Text

/-- A text without white space is trimmed already. -/
theorem trim_of_not_blank {text : String} (h : ∀ c ∈ text.toList, isBlankChar c = false) :
    trim text = text := by
  rw [trim, trimChars_eq_strip, strip_eq_self h, String.ofList_toList]

end RecordFlow.Text

namespace RecordFlow.Decimal

theorem isBlankChar_of_denotes {text : List Char} {i : Int} (h : Denotes text i) {c : Char}
    (hc : c ∈ text) : Text.isBlankChar c = false := by
  rcases h.isDigit_or_sign hc with hdigit | rfl | rfl
  · have hrange : 48 ≤ c.toNat ∧ c.toNat ≤ 57 := Char.isDigit_iff_toNat.1 hdigit
    exact Text.isBlankChar_of_shows (by omega)
  · decide
  · decide

/-- A written integer is read back, and there is nothing to trim. -/
theorem parseInt64?_trim_render (value : Int64) :
    parseInt64? (Text.trim (render value.toInt)) = some value := by
  have hdenotes := denotes_render value.toInt
  rw [Text.trim_of_not_blank fun c hc => isBlankChar_of_denotes hdenotes hc]
  exact parseInt64?_eq_some.2 hdenotes

end RecordFlow.Decimal

namespace RecordFlow.Bitmask

namespace MaskSource

/-- The mask that a source stands for. -/
def Denotes : MaskSource → Int64 → Prop
  | number mask, value => mask = value
  | text mask, value => Decimal.Denotes (Text.trim mask).toList value.toInt

/-- A source as text; a number is written out. -/
def asText : MaskSource → String
  | number mask => Decimal.render mask.toInt
  | text mask => mask

end MaskSource

/-- A rule of this name can have the mask that this source stands for. -/
structure Admits (name : String) (source : MaskSource) (mask : Int64) : Prop where
  named : name ≠ ""
  free : name ≠ unmatched.name ∧ name ≠ failure.name
  denotes : source.Denotes mask
  nonnegative : 0 ≤ mask

/-- Why a rule is refused.  A text that is no integer of 64 bits is refused under any name,
then the name counts, and a negative mask comes last. -/
inductive Refuses : String → MaskSource → RuleFault → Prop
  | unreadable {name mask : String} (h : ∀ value, ¬ (MaskSource.text mask).Denotes value) :
    Refuses name (.text mask) (.invalidMask name mask)
  | unnamed {source : MaskSource} {mask : Int64} (h : source.Denotes mask) :
    Refuses "" source .emptyName
  | taken {name : String} {source : MaskSource} {mask : Int64} (h : source.Denotes mask)
    (hname : name = unmatched.name ∨ name = failure.name) :
    Refuses name source (.reservedName name)
  | negative {name : String} {source : MaskSource} {mask : Int64} (h : source.Denotes mask)
    (hnamed : name ≠ "") (hfree : name ≠ unmatched.name ∧ name ≠ failure.name)
    (hmask : mask < 0) :
    Refuses name source (.invalidMask name (Decimal.render mask.toInt))

/-! ## One rule -/

namespace MaskSource

variable {source : MaskSource} {rules : Rules} {name : String} {mask : Int64}

/-- Registering a source is registering the mask that it stands for. -/
theorem register_of_denotes (h : source.Denotes mask) (rules : Rules) (name : String) :
    source.register rules name = rules.register name mask := by
  cases source with
  | number value => exact congrArg (rules.register name) h
  | text value =>
    rw [register, Rules.registerText, Decimal.parseInt64?_eq_some.2 h]

/-- A source is registered as its text is. -/
theorem registerText_asText (source : MaskSource) (rules : Rules) (name : String) :
    rules.registerText name source.asText = source.register rules name := by
  cases source with
  | number value =>
    rw [asText, Rules.registerText, Decimal.parseInt64?_trim_render]
    rfl
  | text value => rfl

theorem register_of_admits (h : Admits name source mask) (rules : Rules) :
    source.register rules name = .ok ⟨rules.masks.insert name mask⟩ := by
  rw [register_of_denotes h.denotes]
  exact rules.register_of_proper h.named h.free.1 h.free.2 h.nonnegative

theorem register_of_refuses {fault : RuleFault} (h : Refuses name source fault) (rules : Rules) :
    source.register rules name = .error fault := by
  cases h with
  | unreadable hmask =>
    rw [register, Rules.registerText, Option.eq_none_iff_forall_ne_some.2 fun value hvalue =>
      hmask value (Decimal.parseInt64?_eq_some.1 hvalue)]
  | unnamed hmask => rw [register_of_denotes hmask, Rules.register, if_pos rfl]
  | taken hmask hname =>
    have hnamed : name ≠ "" := by
      rcases hname with rfl | rfl
      · decide
      · decide
    rw [register_of_denotes hmask, Rules.register, if_neg hnamed, if_pos hname]
  | negative hmask hnamed hfree hnegative =>
    rw [register_of_denotes hmask, Rules.register, if_neg hnamed, if_neg (not_or.2 hfree),
      if_pos hnegative]

/-- A rule is admitted or refused. -/
theorem admits_or_refuses (name : String) (source : MaskSource) :
    (∃ mask, Admits name source mask) ∨ ∃ fault, Refuses name source fault := by
  have hreadable : (∃ mask, source.Denotes mask) ∨ ∃ fault, Refuses name source fault := by
    cases source with
    | number mask => exact .inl ⟨mask, rfl⟩
    | text text =>
      by_cases hmask : ∃ mask, (MaskSource.text text).Denotes mask
      · exact .inl hmask
      · exact .inr ⟨_, .unreadable (not_exists.1 hmask)⟩
  obtain ⟨mask, hmask⟩ | hrefused := hreadable
  · -- The order of these cases is the order in which a fault is chosen.
    by_cases hnamed : name = ""
    · subst hnamed
      exact .inr ⟨_, .unnamed hmask⟩
    · by_cases htaken : name = unmatched.name ∨ name = failure.name
      · exact .inr ⟨_, .taken hmask htaken⟩
      · by_cases hnegative : mask < 0
        · exact .inr ⟨_, .negative hmask hnamed (not_or.1 htaken) hnegative⟩
        · exact .inl ⟨mask, hnamed, not_or.1 htaken, hmask, Int64.not_lt.1 hnegative⟩
  · exact .inr hrefused

end MaskSource

/-! ## Rules one after another -/

/-- Registering entries in order ends with all of them registered, or at the first that is
refused with its name and its fault.  Whoever registers rules one after another follows
this course, whatever becomes of the fault. -/
inductive Registration : Rules → List (String × MaskSource) → Except (String × RuleFault) Rules →
    Prop
  | done {rules : Rules} : Registration rules [] (.ok rules)
  | accept {rules : Rules} {name : String} {source : MaskSource} {mask : Int64}
    {rest : List (String × MaskSource)} {outcome : Except (String × RuleFault) Rules}
    (h : Admits name source mask)
    (hrest : Registration ⟨rules.masks.insert name mask⟩ rest outcome) :
    Registration rules ((name, source) :: rest) outcome
  | refuse {rules : Rules} {name : String} {source : MaskSource} {fault : RuleFault}
    {rest : List (String × MaskSource)} (h : Refuses name source fault) :
    Registration rules ((name, source) :: rest) (.error (name, fault))

/-- The rules are those of these entries, in the same order. -/
def Rules.Lists (rules : Rules) (entries : List (String × MaskSource)) : Prop :=
  List.Forall₂ (fun member entry => member.1 = entry.1 ∧ Admits entry.1 entry.2 member.2)
    rules.masks.members entries

theorem Rules.Lists.keys_eq {rules : Rules} {entries : List (String × MaskSource)}
    (h : rules.Lists entries) : rules.masks.keys = entries.map Prod.fst := by
  rw [Dictionary.keys, ← List.forall₂_eq_eq_eq, List.forall₂_map_left_iff,
    List.forall₂_map_right_iff]
  exact h.imp fun _ _ h => h.1

/-- An admitted rule whose name comes after all others goes to the end. -/
theorem Rules.Lists.insert {rules : Rules} {entries : List (String × MaskSource)}
    (h : rules.Lists entries) {name : String} {source : MaskSource} {mask : Int64}
    (hadmits : Admits name source mask) (hlast : ∀ entry ∈ entries, entry.1 < name) :
    Rules.Lists ⟨rules.masks.insert name mask⟩ (entries ++ [(name, source)]) := by
  have hmembers : (rules.masks.insert name mask).members =
      rules.masks.members ++ [(name, mask)] := by
    apply insertMember_of_lt
    intro member hmember
    have hkey : member.1 ∈ entries.map Prod.fst := h.keys_eq ▸ List.mem_map_of_mem hmember
    obtain ⟨entry, hentry, hname⟩ := List.mem_map.1 hkey
    exact hname ▸ hlast entry hentry
  unfold Rules.Lists
  rw [hmembers]
  exact List.rel_append h (.cons ⟨rfl, hadmits⟩ .nil)

theorem exists_registration (rules : Rules) (entries : List (String × MaskSource)) :
    ∃ outcome, Registration rules entries outcome := by
  induction entries generalizing rules with
  | nil => exact ⟨_, .done⟩
  | cons entry entries ih =>
    obtain ⟨name, source⟩ := entry
    obtain ⟨mask, hadmits⟩ | ⟨fault, hrefuses⟩ := MaskSource.admits_or_refuses name source
    · obtain ⟨outcome, houtcome⟩ := ih ⟨rules.masks.insert name mask⟩
      exact ⟨outcome, .accept hadmits houtcome⟩
    · exact ⟨_, .refuse hrefuses⟩

namespace Registration

variable {rules : Rules} {entries : List (String × MaskSource)}
  {outcome : Except (String × RuleFault) Rules}

/-- The rules of a configuration are registered in order. -/
theorem registerAll_eq (h : Registration rules entries outcome) :
    Config.registerAll entries rules = outcome.mapError Prod.snd := by
  induction h with
  | done => rfl
  | accept hadmits _ ih =>
    rw [Config.registerAll, MaskSource.register_of_admits hadmits]
    exact ih
  | refuse hrefuses =>
    rw [Config.registerAll, MaskSource.register_of_refuses hrefuses]
    rfl

/-- Rules registered in the order of their names are listed in this order. -/
theorem lists_of_ok {rules' : Rules} (h : Registration rules entries (.ok rules'))
    {before : List (String × MaskSource)} (hlists : rules.Lists before)
    (hascending : (before ++ entries).Pairwise fun a b => a.1 < b.1) :
    rules'.Lists (before ++ entries) := by
  generalize houtcome : Except.ok rules' = outcome at h
  induction h generalizing before with
  | done =>
    cases houtcome
    rwa [List.append_nil]
  | @accept rules name source mask rest _ hadmits _ ih =>
    -- All names so far are smaller, so the listing grows at its end.
    have hlast : ∀ entry ∈ before, entry.1 < name := fun entry hentry =>
      (List.pairwise_append.1 hascending).2.2 entry hentry (name, source) List.mem_cons_self
    have hnext : before ++ (name, source) :: rest = (before ++ [(name, source)]) ++ rest := by
      rw [List.append_assoc, List.singleton_append]
    rw [hnext] at hascending ⊢
    exact ih (hlists.insert hadmits hlast) hascending houtcome
  | refuse hrefuses => cases houtcome

/-- Registration fails at an entry that is refused, after entries that are all admitted. -/
theorem split_of_error {name : String} {fault : RuleFault}
    (h : Registration rules entries (.error (name, fault))) :
    ∃ before source after, entries = before ++ (name, source) :: after ∧
      (∀ entry ∈ before, ∃ mask, Admits entry.1 entry.2 mask) ∧ Refuses name source fault := by
  generalize houtcome : Except.error (name, fault) = outcome at h
  induction h with
  | done => cases houtcome
  | @accept rules first source mask rest _ hadmits _ ih =>
    obtain ⟨before, refused, after, rfl, hbefore, hrefused⟩ := ih houtcome
    refine ⟨(first, source) :: before, refused, after, rfl, ?_, hrefused⟩
    intro entry hentry
    rcases List.mem_cons.1 hentry with rfl | hentry
    · exact ⟨mask, hadmits⟩
    · exact hbefore entry hentry
  | @refuse rules first source _ rest hrefuses =>
    cases houtcome
    exact ⟨[], source, rest, rfl, fun _ hentry => absurd hentry List.not_mem_nil, hrefuses⟩

end Registration

end RecordFlow.Bitmask
