/-!
# Dictionaries

Finite maps from text to values, kept in strictly ascending key order.  Keys are
compared by code points, which for UTF-8 is the order of their bytes.  The order is
part of the type, so two dictionaries with the same members are equal and every
listing of one is sorted.
-/

namespace RecordFlow

/-- Put a member in its place, or replace the value already there. -/
def insertMember {β : Type} (key : String) (value : β) :
    List (String × β) → List (String × β)
  | [] => [(key, value)]
  | (k, v) :: rest =>
    if key < k then (key, value) :: (k, v) :: rest
    else if k < key then (k, v) :: insertMember key value rest
    else (key, value) :: rest

def eraseMember {β : Type} (key : String) (members : List (String × β)) :
    List (String × β) :=
  members.filter (fun member => member.1 != key)

theorem key_mem_insertMember {β : Type} {key : String} {value : β}
    {members : List (String × β)} {member : String × β}
    (h : member ∈ insertMember key value members) :
    member = (key, value) ∨ member ∈ members := by
  induction members with
  | nil => simpa [insertMember] using h
  | cons head rest ih =>
    obtain ⟨k, v⟩ := head
    rw [insertMember] at h
    split at h
    · simpa using h
    · split at h
      · rcases List.mem_cons.1 h with h | h
        · exact .inr (h ▸ List.mem_cons_self)
        · rcases ih h with h | h
          · exact .inl h
          · exact .inr (List.mem_cons_of_mem _ h)
      · rcases List.mem_cons.1 h with h | h
        · exact .inl h
        · exact .inr (List.mem_cons_of_mem _ h)

theorem ascending_insertMember {β : Type} (key : String) (value : β)
    {members : List (String × β)}
    (h : members.Pairwise (fun a b => a.1 < b.1)) :
    (insertMember key value members).Pairwise (fun a b => a.1 < b.1) := by
  induction members with
  | nil => simp [insertMember]
  | cons head rest ih =>
    obtain ⟨k, v⟩ := head
    obtain ⟨hk, hrest⟩ := List.pairwise_cons.1 h
    rw [insertMember]
    split
    · rename_i hlt
      refine List.pairwise_cons.2 ⟨fun member hm => ?_, h⟩
      rcases List.mem_cons.1 hm with rfl | hm
      · exact hlt
      · exact String.lt_trans hlt (hk _ hm)
    · rename_i hnlt
      split
      · rename_i hgt
        refine List.pairwise_cons.2 ⟨fun member hm => ?_, ih hrest⟩
        rcases key_mem_insertMember hm with rfl | hm
        · exact hgt
        · exact hk _ hm
      · rename_i hngt
        have heq : key = k :=
          String.le_antisymm (String.not_lt.1 hngt) (String.not_lt.1 hnlt)
        refine List.pairwise_cons.2 ⟨fun member hm => ?_, hrest⟩
        exact heq ▸ hk _ hm

/-- A finite map with text keys in strictly ascending order. -/
structure Dictionary (β : Type) where
  members : List (String × β)
  ascending : members.Pairwise (fun a b => a.1 < b.1)

namespace Dictionary

variable {β : Type}

@[ext] theorem ext {a b : Dictionary β} (h : a.members = b.members) : a = b := by
  cases a; cases b; cases h; rfl

instance [DecidableEq β] : DecidableEq (Dictionary β) := fun a b =>
  decidable_of_iff (a.members = b.members) ⟨ext, fun h => h ▸ rfl⟩

def empty : Dictionary β := ⟨[], .nil⟩

instance : Inhabited (Dictionary β) := ⟨empty⟩

def insert (d : Dictionary β) (key : String) (value : β) : Dictionary β :=
  ⟨insertMember key value d.members, ascending_insertMember key value d.ascending⟩

def erase (d : Dictionary β) (key : String) : Dictionary β :=
  ⟨eraseMember key d.members, d.ascending.filter _⟩

def get? (d : Dictionary β) (key : String) : Option β :=
  d.members.lookup key

def contains (d : Dictionary β) (key : String) : Bool :=
  (d.get? key).isSome

def size (d : Dictionary β) : Nat := d.members.length

/-- Insert one after another; of several values for one key the last one stays. -/
def ofList (members : List (String × β)) : Dictionary β :=
  members.foldl (fun d member => d.insert member.1 member.2) empty

/-- The keys, in ascending order. -/
def keys (d : Dictionary β) : List String := d.members.map Prod.fst

end Dictionary

end RecordFlow
