import RecordFlow.Dictionary
import Mathlib.Data.List.Induction
import Mathlib.Data.List.Sort

/-!
# Laws of dictionaries

The members of a dictionary and its lookups say the same, and setting a key changes the
value of that key alone.
-/

namespace RecordFlow

variable {β : Type}

theorem lookup_member (key name : String) (value : β) (members : List (String × β)) :
    ((key, value) :: members).lookup name =
      if name = key then some value else members.lookup name := by
  rw [List.lookup_cons]
  by_cases hname : name = key
  · rw [if_pos hname, beq_iff_eq.2 hname]
  · rw [if_neg hname, beq_eq_false_iff_ne.2 hname]

theorem lookup_insertMember (key name : String) (value : β) (members : List (String × β)) :
    (insertMember key value members).lookup name =
      if name = key then some value else members.lookup name := by
  induction members with
  | nil => exact lookup_member key name value []
  | cons member members ih =>
    obtain ⟨k, v⟩ := member
    rw [insertMember]
    by_cases hlt : key < k
    · rw [if_pos hlt]
      exact lookup_member key name value _
    · rw [if_neg hlt]
      by_cases hgt : k < key
      · have hne : k ≠ key := fun h => String.lt_irrefl key (h ▸ hgt)
        rw [if_pos hgt, lookup_member, lookup_member, ih]
        by_cases hname : name = k
        · rw [if_pos hname, if_neg (hname ▸ hne), if_pos hname]
        · rw [if_neg hname, if_neg hname]
      · have heq : key = k := String.le_antisymm (String.not_lt.1 hgt) (String.not_lt.1 hlt)
        rw [if_neg hgt, heq, lookup_member, lookup_member]
        by_cases hname : name = k
        · rw [if_pos hname, if_pos hname]
        · rw [if_neg hname, if_neg hname, if_neg hname]

theorem lookup_eraseMember (key name : String) (members : List (String × β)) :
    (eraseMember key members).lookup name = if name = key then none else members.lookup name := by
  induction members with
  | nil => simp [eraseMember]
  | cons member members ih =>
    obtain ⟨k, v⟩ := member
    rw [eraseMember] at ih ⊢
    by_cases hk : k = key
    · subst hk
      rw [List.filter_cons_of_neg (by simp), ih, lookup_member]
      by_cases hname : name = k
      · rw [if_pos hname, if_pos hname]
      · rw [if_neg hname, if_neg hname, if_neg hname]
    · rw [List.filter_cons_of_pos (by simpa using hk), lookup_member, lookup_member, ih]
      by_cases hname : name = k
      · rw [if_pos hname, if_pos hname, if_neg (hname ▸ hk)]
      · rw [if_neg hname, if_neg hname]

/-- A key after all others goes to the end. -/
theorem insertMember_of_lt {key : String} (value : β) {members : List (String × β)}
    (h : ∀ member ∈ members, member.1 < key) :
    insertMember key value members = members ++ [(key, value)] := by
  induction members with
  | nil => rfl
  | cons member members ih =>
    obtain ⟨k, v⟩ := member
    have hlt : k < key := h (k, v) List.mem_cons_self
    have hnlt : ¬ key < k := fun hgt => String.lt_irrefl k (String.lt_trans hlt hgt)
    rw [insertMember, if_neg hnlt, if_pos hlt, ih fun m hm => h m (List.mem_cons_of_mem _ hm),
      List.cons_append]

/-- A member with a new key joins the others. -/
theorem perm_insertMember {key : String} (value : β) {members : List (String × β)}
    (h : key ∉ members.map Prod.fst) :
    (insertMember key value members).Perm ((key, value) :: members) := by
  induction members with
  | nil => exact .refl _
  | cons member members ih =>
    obtain ⟨k, v⟩ := member
    rw [List.map_cons, List.mem_cons, not_or] at h
    rw [insertMember]
    by_cases hlt : key < k
    · rw [if_pos hlt]
    · have hgt : k < key := by
        by_contra hgt
        exact h.1 (String.le_antisymm (String.not_lt.1 hgt) (String.not_lt.1 hlt))
      rw [if_neg hlt, if_pos hgt]
      exact ((ih h.2).cons (k, v)).trans (.swap (key, value) (k, v) members)

/-- Members in ascending order are determined by which they are. -/
theorem eq_of_ascending {as bs : List (String × β)} (ha : as.Pairwise fun a b => a.1 < b.1)
    (hb : bs.Pairwise fun a b => a.1 < b.1) (h : ∀ member, member ∈ as ↔ member ∈ bs) :
    as = bs := by
  let before : String × β → String × β → Prop := fun a b => a.1 < b.1
  have hirrefl : Std.Irrefl before := ⟨fun a => String.lt_irrefl a.1⟩
  have hantisymm : Std.Antisymm before :=
    ⟨fun a b hab hba => absurd (String.lt_trans hab hba) (String.lt_irrefl a.1)⟩
  exact List.Pairwise.eq_of_mem_iff ha hb h

namespace Dictionary

theorem get?_insert (d : Dictionary β) (key name : String) (value : β) :
    (d.insert key value).get? name = if name = key then some value else d.get? name :=
  lookup_insertMember key name value d.members

theorem get?_insert_self (d : Dictionary β) (key : String) (value : β) :
    (d.insert key value).get? key = some value := by
  rw [get?_insert, if_pos rfl]

theorem get?_insert_of_ne (d : Dictionary β) {key name : String} (h : name ≠ key) (value : β) :
    (d.insert key value).get? name = d.get? name := by
  rw [get?_insert, if_neg h]

theorem get?_erase (d : Dictionary β) (key name : String) :
    (d.erase key).get? name = if name = key then none else d.get? name :=
  lookup_eraseMember key name d.members

/-- A member is listed exactly when looking up its key gives its value. -/
theorem mem_members_iff (d : Dictionary β) {key : String} {value : β} :
    (key, value) ∈ d.members ↔ d.get? key = some value := by
  obtain ⟨members, hascending⟩ := d
  rw [get?]
  induction members with
  | nil => simp
  | cons member members ih =>
    obtain ⟨k, v⟩ := member
    obtain ⟨hhead, htail⟩ := List.pairwise_cons.1 hascending
    rw [lookup_member, List.mem_cons]
    by_cases hkey : key = k
    · subst hkey
      have hnot : (key, value) ∉ members := fun hmem => String.lt_irrefl key (hhead _ hmem)
      rw [if_pos rfl]
      simp [hnot, eq_comm]
    · rw [if_neg hkey, ← ih htail]
      simp [hkey]

/-- The keys are those that have a value. -/
theorem mem_keys_iff (d : Dictionary β) {key : String} :
    key ∈ d.keys ↔ (d.get? key).isSome = true := by
  rw [keys, List.mem_map, Option.isSome_iff_exists]
  constructor
  · rintro ⟨⟨name, value⟩, hmem, rfl⟩
    exact ⟨value, d.mem_members_iff.1 hmem⟩
  · rintro ⟨value, hvalue⟩
    exact ⟨(key, value), d.mem_members_iff.2 hvalue, rfl⟩

theorem nodup_keys (d : Dictionary β) : d.keys.Nodup := by
  rw [keys, List.Nodup, List.pairwise_map]
  apply d.ascending.imp
  intro a b hlt heq
  exact String.lt_irrefl b.1 (heq ▸ hlt)

/-- Members that go on in ascending order are appended one after another. -/
theorem members_foldl_insert (d : Dictionary β) (members : List (String × β))
    (h : (d.members ++ members).Pairwise fun a b => a.1 < b.1) :
    (members.foldl (fun d member => d.insert member.1 member.2) d).members =
      d.members ++ members := by
  induction members generalizing d with
  | nil => exact (List.append_nil _).symm
  | cons member members ih =>
    have hlast : (d.insert member.1 member.2).members = d.members ++ [member] := by
      apply insertMember_of_lt
      intro other hother
      exact (List.pairwise_append.1 h).2.2 other hother member List.mem_cons_self
    have hsplit : d.members ++ member :: members =
        (d.insert member.1 member.2).members ++ members := by
      rw [hlast, List.append_assoc, List.singleton_append]
    rw [hsplit] at h ⊢
    exact ih _ h

/-- Listing the members of a dictionary and inserting them again gives the dictionary. -/
theorem ofList_members (d : Dictionary β) : ofList d.members = d :=
  ext (members_foldl_insert empty d.members d.ascending)

/-- Members of different keys are all kept. -/
theorem perm_ofList {members : List (String × β)} (h : (members.map Prod.fst).Nodup) :
    (ofList members).members.Perm members := by
  induction members using List.reverseRecOn with
  | nil => exact .refl _
  | append_singleton members member ih =>
    rw [List.map_append, List.nodup_append] at h
    have hrest := ih h.1
    have hfresh : member.1 ∉ (ofList members).members.map Prod.fst := fun hmem =>
      h.2.2 member.1 ((hrest.map Prod.fst).mem_iff.1 hmem) member.1 List.mem_cons_self rfl
    have hconcat : ofList (members ++ [member]) = (ofList members).insert member.1 member.2 := by
      rw [ofList, List.foldl_concat]
      rfl
    rw [hconcat]
    exact (perm_insertMember member.2 hfresh).trans
      ((hrest.cons member).trans (List.perm_append_singleton member members).symm)

/-- The same members with other values are listed in the same order. -/
theorem members_eq_map {γ : Type} (f : β → γ) {d : Dictionary β} {d' : Dictionary γ}
    (h : d'.members.Perm (d.members.map fun member => (member.1, f member.2))) :
    d'.members = d.members.map fun member => (member.1, f member.2) :=
  eq_of_ascending d'.ascending (d.ascending.map _ fun _ _ hlt => hlt) fun _ => h.mem_iff

/-- A dictionary is determined by its lookups. -/
theorem ext_get? {a b : Dictionary β} (h : ∀ key, a.get? key = b.get? key) : a = b := by
  apply ext
  apply eq_of_ascending a.ascending b.ascending
  rintro ⟨key, value⟩
  rw [mem_members_iff, mem_members_iff, h]

/-- Setting a key to the value that it has changes nothing. -/
theorem insert_of_get? {d : Dictionary β} {key : String} {value : β}
    (h : d.get? key = some value) : d.insert key value = d := by
  apply ext_get?
  intro name
  rw [get?_insert]
  by_cases hname : name = key
  · rw [if_pos hname, hname, h]
  · rw [if_neg hname]

end Dictionary

end RecordFlow
