import RecordFlow.Bitmask.Decision

/-!
# Decisions bit by bit

A mask is covered when its bits are among those of the value, and clearing takes the
bits of the matched masks out of the value and leaves all others alone.
-/

namespace RecordFlow.Bitmask

/-- A bit of a value; the highest one is its sign. -/
def bit (value : Int64) (i : Nat) : Bool := value.toBitVec.getLsbD i

/-- Every bit of the mask is one of the value. -/
def Within (mask value : Int64) : Prop := ∀ i, bit mask i = true → bit value i = true

theorem ext_bit {a b : Int64} (h : ∀ i, bit a i = bit b i) : a = b := by
  apply Int64.toBitVec_inj.1
  apply BitVec.eq_of_getLsbD_eq
  exact fun i _ => h i

@[simp] theorem bit_zero (i : Nat) : bit 0 i = false := by
  simp [bit]

@[simp] theorem bit_and (a b : Int64) (i : Nat) : bit (a &&& b) i = (bit a i && bit b i) := by
  simp [bit]

@[simp] theorem bit_or (a b : Int64) (i : Nat) : bit (a ||| b) i = (bit a i || bit b i) := by
  simp [bit]

@[simp] theorem bit_xor (a b : Int64) (i : Nat) : bit (a ^^^ b) i = (bit a i ^^ bit b i) := by
  simp [bit]

theorem covers_iff {value mask : Int64} : covers value mask = true ↔ Within mask value := by
  rw [covers, beq_iff_eq]
  constructor
  · intro heq i hmask
    have hboth := congrArg (bit · i) heq
    simpa [hmask] using hboth
  · intro hwithin
    apply ext_bit
    intro i
    rw [bit_and]
    by_cases hmask : bit mask i = true
    · rw [hmask, hwithin i hmask]
      rfl
    · rw [Bool.eq_false_iff.2 hmask, Bool.and_false]

theorem bit_foldl_or (rules : List (Output × Int64)) (bits : Int64) (i : Nat) :
    bit (rules.foldl (fun bits rule => bits ||| rule.2) bits) i =
      (bit bits i || rules.any fun rule => bit rule.2 i) := by
  induction rules generalizing bits with
  | nil => simp
  | cons rule rules ih => rw [List.foldl_cons, ih, bit_or, List.any_cons, Bool.or_assoc]

theorem bit_union (rules : List (Output × Int64)) (i : Nat) :
    bit (union rules) i = rules.any fun rule => bit rule.2 i := by
  rw [union, bit_foldl_or, bit_zero, Bool.false_or]

/-- Clearing takes away exactly the bits of the masks, when the value has all of them. -/
theorem bit_cleared {rules : List (Output × Int64)} {value : Int64}
    (h : ∀ rule ∈ rules, Within rule.2 value) (i : Nat) :
    bit (value ^^^ union rules) i = (bit value i && !rules.any fun rule => bit rule.2 i) := by
  rw [bit_xor, bit_union]
  by_cases hany : (rules.any fun rule => bit rule.2 i) = true
  · obtain ⟨rule, hrule, hbit⟩ := List.any_eq_true.1 hany
    rw [hany, h rule hrule i hbit]
    rfl
  · rw [Bool.eq_false_iff.2 hany, Bool.xor_false, Bool.not_false, Bool.and_true]

theorem mem_matching {rules : List (Output × Int64)} {value : Int64} {rule : Output × Int64} :
    rule ∈ matching rules value ↔ rule ∈ rules ∧ Within rule.2 value := by
  rw [matching, List.mem_filter, covers_iff]

end RecordFlow.Bitmask
