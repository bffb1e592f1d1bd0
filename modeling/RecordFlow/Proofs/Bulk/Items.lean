import RecordFlow.Proofs.Bulk.Reconciliation
import Mathlib.Data.List.Basic

/-!
# What an item says about its record

The status and the error of an item are searched for by their names.  A search stops at the
first object that has a member of the name: an object's own member comes before everything
deeper, and children are searched in the order of the document, so a child without such a
member changes nothing.  An item with one entry is therefore judged by the members of this
entry, whatever else stands inside them.
-/

namespace RecordFlow.Bulk

/-! ## Searching -/

/-- The values directly inside a value, in document order. -/
def children : Json → List Json
  | .array items => items
  | .object members => members.map Prod.snd
  | _ => []

/-- The value is an object with a member of this name, or such an object stands inside it. -/
inductive Mentions (name : String) : Json → Prop
  | own {members : List (String × Json)} (h : name ∈ members.map Prod.fst) :
      Mentions name (.object members)
  | inside {value child : Json} (hchild : child ∈ children value) (h : Mentions name child) :
      Mentions name value

theorem findInItems?_eq (name : String) (items : List Json) :
    findInItems? name items = items.findSome? (find? name) := by
  induction items with
  | nil => rfl
  | cons item items ih =>
    rw [findInItems?, ih, List.findSome?_cons]
    cases find? name item <;> rfl

theorem findInMembers?_eq (name : String) (members : List (String × Json)) :
    findInMembers? name members = (members.map Prod.snd).findSome? (find? name) := by
  induction members with
  | nil => rfl
  | cons member members ih =>
    rw [findInMembers?, ih, List.map_cons, List.findSome?_cons]
    cases find? name member.2 <;> rfl

/-- A value's own member comes before those in its children. -/
theorem find?_eq (name : String) (value : Json) :
    find? name value = (value.member? name).or ((children value).findSome? (find? name)) := by
  cases value with
  | object members => rw [find?, findInMembers?_eq]; rfl
  | array items => rw [find?, findInItems?_eq]; rfl
  | _ => rfl

theorem lookup_eq_none {name : String} {members : List (String × Json)} :
    members.lookup name = none ↔ name ∉ members.map Prod.fst := by
  rw [List.lookup_eq_none_iff, List.mem_map]
  constructor
  · rintro hother ⟨member, hmember, rfl⟩
    simpa using hother member hmember
  · intro hnot member hmember
    rw [bne_iff_ne]
    exact fun hname => hnot ⟨member, hmember, hname.symm⟩

mutual

/-- What is found is the member of some object. -/
theorem mentions_of_find? {name : String} {value found : Json} (h : find? name value = some found) :
    Mentions name value := by
  match value with
  | .object members =>
    by_cases hown : name ∈ members.map Prod.fst
    · exact .own hown
    · rw [find?, lookup_eq_none.2 hown, Option.none_or] at h
      obtain ⟨member, hmember, hmentions⟩ := mentions_of_findInMembers? h
      exact .inside (List.mem_map_of_mem hmember) hmentions
  | .array items =>
    obtain ⟨item, hitem, hmentions⟩ := mentions_of_findInItems? h
    exact .inside hitem hmentions

theorem mentions_of_findInItems? {name : String} {items : List Json} {found : Json}
    (h : findInItems? name items = some found) : ∃ item ∈ items, Mentions name item := by
  match items with
  | item :: items =>
    rw [findInItems?, Option.or_eq_some_iff] at h
    rcases h with h | ⟨-, h⟩
    · exact ⟨item, List.mem_cons_self, mentions_of_find? h⟩
    · obtain ⟨other, hother, hmentions⟩ := mentions_of_findInItems? h
      exact ⟨other, List.mem_cons_of_mem item hother, hmentions⟩

theorem mentions_of_findInMembers? {name : String} {members : List (String × Json)} {found : Json}
    (h : findInMembers? name members = some found) :
    ∃ member ∈ members, Mentions name member.2 := by
  match members with
  | (key, value) :: members =>
    rw [findInMembers?, Option.or_eq_some_iff] at h
    rcases h with h | ⟨-, h⟩
    · exact ⟨(key, value), List.mem_cons_self, mentions_of_find? h⟩
    · obtain ⟨other, hother, hmentions⟩ := mentions_of_findInMembers? h
      exact ⟨other, List.mem_cons_of_mem (key, value) hother, hmentions⟩

end

/-- Nothing is found exactly where no object has a member of the name. -/
theorem find?_eq_none {name : String} {value : Json} :
    find? name value = none ↔ ¬ Mentions name value := by
  constructor
  · intro hnone hmentions
    induction hmentions with
    | @own members hown =>
      rw [find?_eq, Option.or_eq_none_iff] at hnone
      exact lookup_eq_none.1 hnone.1 hown
    | inside hchild _ ih =>
      rw [find?_eq, Option.or_eq_none_iff, List.findSome?_eq_none_iff] at hnone
      exact ih (hnone.2 _ hchild)
  · intro hnot
    rw [Option.eq_none_iff_forall_ne_some]
    intro found hfound
    exact hnot (mentions_of_find? hfound)

theorem find?_of_member? {name : String} {value own : Json} (h : value.member? name = some own) :
    find? name value = some own := by
  rw [find?_eq, h, Option.some_or]

/-- Without an own member the search goes on in the first child in which there is one. -/
theorem find?_of_children {name : String} {value child : Json} {before after : List Json}
    (hown : value.member? name = none) (hchildren : children value = before ++ child :: after)
    (hbefore : ∀ other ∈ before, ¬ Mentions name other) (hchild : Mentions name child) :
    find? name value = find? name child := by
  have hskipped : before.findSome? (find? name) = none := by
    rw [List.findSome?_eq_none_iff]
    exact fun other hother => find?_eq_none.2 (hbefore other hother)
  obtain ⟨found, hfound⟩ : ∃ found, find? name child = some found :=
    Option.ne_none_iff_exists'.1 fun hnone => find?_eq_none.1 hnone hchild
  rw [find?_eq, hown, Option.none_or, hchildren, List.findSome?_append, hskipped, Option.none_or,
    List.findSome?_cons, hfound]

/-! ## Judging -/

/-- The status is an integer from 200 to 299. -/
def Succeeds (status : Json) : Prop :=
  ∃ n : UInt64, status = .number (.natural n) ∧ 200 ≤ n.toNat ∧ n.toNat ≤ 299

/-- The number by which a failure speaks of a status: 0 unless it is an integer of 16 bits. -/
inductive Reported : Json → Nat → Prop
  | usable {n : UInt64} (h : n.toNat < 65536) : Reported (.number (.natural n)) n.toNat
  | unusable {status : Json} (h : ∀ n, status = .number (.natural n) → 65536 ≤ n.toNat) :
      Reported status 0

/-- The reason of a failure with this status and this error. -/
inductive FailsFor (status : Json) : Json → String → Prop
  | text (reason : String) : FailsFor status (.text reason) reason
  | member {error : Json} {reason : String} (h : error.member? "reason" = some (.text reason)) :
      FailsFor status error reason
  | unknown {error : Json} {code : Nat} (htext : ∀ reason, error ≠ .text reason)
      (hmember : ∀ reason, error.member? "reason" ≠ some (.text reason))
      (hcode : Reported status code) :
      FailsFor status error s!"bulk item failed with status {code}"

/-- A status is read as itself, or as 0 if it is no integer of 16 bits. -/
theorem statusOf_of_reported {status : Json} {code : Nat} (h : Reported status code) :
    (Item.statusOf (some status)).toNat = code := by
  cases h with
  | @usable n hsmall =>
    rw [Item.statusOf, if_pos hsmall, UInt64.toNat_toUInt16]
    exact Nat.mod_eq_of_lt hsmall
  | unusable hlarge =>
    match status with
    | .number (.natural n) => rw [Item.statusOf, if_neg (Nat.not_lt.2 (hlarge n rfl))]; rfl
    | .number (.negative _) | .number (.double _) => rfl
    | .null | .bool _ | .text _ | .array _ | .object _ => rfl

theorem exists_reported (status : Json) : ∃ code, Reported status code := by
  by_cases husable : ∃ n : UInt64, status = .number (.natural n) ∧ n.toNat < 65536
  · obtain ⟨n, rfl, hsmall⟩ := husable
    exact ⟨n.toNat, .usable hsmall⟩
  · exact ⟨0, .unusable fun n hn => Nat.not_lt.1 fun hsmall => husable ⟨n, hn, hsmall⟩⟩

theorem isSuccess_statusOf {status : Json} :
    isSuccess (Item.statusOf (some status)) = true ↔ Succeeds status := by
  rw [isSuccess_iff]
  obtain ⟨code, hcode⟩ := exists_reported status
  rw [statusOf_of_reported hcode]
  constructor
  · intro hrange
    cases hcode with
    | usable hsmall => exact ⟨_, rfl, hrange⟩
    | unusable => exact absurd hrange.1 (by decide)
  · rintro ⟨n, rfl, hrange⟩
    cases hcode with
    | usable => exact hrange
    | unusable hlarge =>
      have := hlarge n rfl
      omega

/-- An error that is a text, or has a reason that is one, gives the reason of the failure. -/
theorem reasonOf_eq_some {error : Json} {reason : String} :
    Item.reasonOf error = some reason ↔
      error = .text reason ∨ error.member? "reason" = some (.text reason) := by
  cases error with
  | text s => simp [Item.reasonOf, Json.member?]
  | object members =>
    rw [Item.reasonOf]
    · cases hmember : Json.member? (.object members) "reason" with
      | none => simp
      | some value => cases value <;> simp
    · exact nofun
  | _ => simp [Item.reasonOf, Json.member?]

theorem exists_failsFor (status error : Json) : ∃ reason, FailsFor status error reason := by
  cases hreason : Item.reasonOf error with
  | some reason =>
    rcases reasonOf_eq_some.1 hreason with rfl | hmember
    · exact ⟨reason, .text reason⟩
    · exact ⟨reason, .member hmember⟩
  | none =>
    obtain ⟨code, hcode⟩ := exists_reported status
    refine ⟨_, .unknown (fun reason htext => ?_) (fun reason hmember => ?_) hcode⟩
    · rw [reasonOf_eq_some.2 (.inl htext)] at hreason
      cases hreason
    · rw [reasonOf_eq_some.2 (.inr hmember)] at hreason
      cases hreason

/-- What a failed item says, when these are its status and its error. -/
theorem reason_of_failsFor {status error : Json} {reason : String}
    (h : FailsFor status error reason) :
    (Item.reasonOf error).getD
      s!"bulk item failed with status {(Item.statusOf (some status)).toNat}" = reason := by
  cases h with
  | text => rfl
  | member hmember => rw [reasonOf_eq_some.2 (.inr hmember), Option.getD_some]
  | unknown htext hmember hcode =>
    have hnone : Item.reasonOf error = none := by
      rw [Option.eq_none_iff_forall_ne_some]
      intro reason hreason
      exact (reasonOf_eq_some.1 hreason).elim (htext reason) (hmember reason)
    rw [hnone, Option.getD_none, statusOf_of_reported hcode]

/-! ## Items -/

def entryItem (action : String) (members : List (String × Json)) : Json :=
  .object [(action, .object members)]

/-- A member of the entry of an item is found by its name, unless the entry bears this name. -/
theorem find?_entryItem {action name : String} {members : List (String × Json)} {own : Json}
    (haction : action ≠ name) (h : members.lookup name = some own) :
    find? name (entryItem action members) = some own := by
  have houter : (entryItem action members).member? name = none :=
    lookup_eq_none.2 (by simpa using haction.symm)
  have hinner : children (entryItem action members) = [] ++ .object members :: [] := rfl
  have hentry : find? name (.object members) = some own := find?_of_member? h
  rw [← hentry]
  apply find?_of_children houter hinner
  · exact fun _ hother => absurd hother List.not_mem_nil
  · exact mentions_of_find? hentry

/-- A search for a name finds nothing exactly when no object anywhere in the value has a member of
this name.  Otherwise it finds the value's own member or, if there is none, what it finds in
the first child with such an object.  So the entry of an item succeeds exactly when
its own status is an integer from 200 to 299, and if it has an error of its own, then it fails
for the reason that status and error give. -/
theorem item_by_own_members (name : String) (value : Json) :
    (find? name value = none ↔ ¬ Mentions name value) ∧
    (∀ own, value.member? name = some own → find? name value = some own) ∧
    (∀ before child after, value.member? name = none →
      children value = before ++ child :: after →
      (∀ other ∈ before, ¬ Mentions name other) → Mentions name child →
      find? name value = find? name child) ∧
    ∀ (action : String) (members : List (String × Json)) (status : Json),
      action ≠ "status" → action ≠ "error" → members.lookup "status" = some status →
      ((Item.ofJson (entryItem action members)).route = .success ↔ Succeeds status) ∧
      ∀ error, members.lookup "error" = some error →
        (∃ reason, FailsFor status error reason) ∧
        ∀ reason, FailsFor status error reason → ¬ Succeeds status →
          (Item.ofJson (entryItem action members)).route = .failure reason := by
  refine ⟨find?_eq_none, fun _ => find?_of_member?, fun _ _ _ => find?_of_children, ?_⟩
  intro action members status hnotStatus hnotError hstatus
  have hfound := find?_entryItem hnotStatus hstatus
  constructor
  · rw [← isSuccess_statusOf, Item.route, Item.ofJson, hfound]
    cases isSuccess (Item.statusOf (some status)) <;> simp
  · intro error herror
    refine ⟨exists_failsFor status error, fun reason hreason hfails => ?_⟩
    have hunsuccessful : ¬ isSuccess (Item.statusOf (some status)) = true :=
      mt isSuccess_statusOf.1 hfails
    rw [Item.route, Item.ofJson, hfound, find?_entryItem hnotError herror, if_neg hunsuccessful,
      Option.bind_some, reason_of_failsFor hreason]

/-- A status that is too large, behind an error in which another status stands. -/
def largeStatus : List (String × Json) :=
  [("error", .object [("status", .number (.natural 200)), ("reason", .null)]),
    ("status", .number (.natural 65736))]

/-- The last 16 bits of 65736 are those of 200, and the status inside the error is 200, but
neither makes a success. -/
theorem item_of_largeStatus :
    (Item.ofJson (entryItem "index" largeStatus)).route =
      .failure "bulk item failed with status 0" := by
  obtain ⟨-, -, -, hitem⟩ := item_by_own_members "status" .null
  obtain ⟨-, hfailure⟩ := hitem "index" largeStatus _ (by decide) (by decide) rfl
  refine (hfailure _ rfl).2 _ (.unknown ?_ ?_ (.unusable ?_)) ?_
  · exact fun _ htext => by cases htext
  · exact fun _ hmember => by cases hmember
  · intro n hn
    cases hn
    decide
  · rintro ⟨n, hn, -, hlast⟩
    cases hn
    exact absurd hlast (by decide)

end RecordFlow.Bulk
