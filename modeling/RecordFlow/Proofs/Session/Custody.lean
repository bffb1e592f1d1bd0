import RecordFlow.Session
import Mathlib

/-!
# Where the records of a session are

A history holds a session together with what the calls that made it have answered.  The queue and
the routing log are what is left of two sequences, the records that were enqueued and the transfers,
once what was taken and drained is cut off in front.  A caller that resolves no record twice
therefore accounts for every record: it is queued, held, transferred or removed.
-/

namespace RecordFlow.Session

/-! ## Calls -/

/-- A call of a session. -/
inductive Call where
  | enqueue (r : Record)
  | take (max : Nat)
  | transfer (r : Record) (output : Output)
  | remove (r : Record)
  | penalize (r : Record)
  | reportSend (r : Record) (address : String)
  | drain

/-- What a call hands to its caller. -/
inductive Answer where
  | done
  | records (taken : List Record)
  | record (marked : Record)
  | entries (drained : List (Output × Record))

/-- The answer to a call, and the session after it.  Marking a record does not concern the
session. -/
def answer (s : Session) : Call → Answer × Session
  | .enqueue r => (.done, s.enqueue r)
  | .take max => (.records (s.take max).1, (s.take max).2)
  | .transfer r output => (.done, s.transfer r output)
  | .remove r => (.done, s.remove r)
  | .penalize r => (.record r.penalize, s)
  | .reportSend r address => (.done, s.reportSend r address)
  | .drain => (.entries s.drain.1, s.drain.2)

def Call.enqueued : Call → List Record
  | .enqueue r => [r]
  | _ => []

def Call.transferred : Call → List (Output × Record)
  | .transfer r output => [(output, r)]
  | _ => []

def Call.removed : Call → List Record
  | .remove r => [r]
  | _ => []

def Answer.taken : Answer → List Record
  | .records taken => taken
  | _ => []

def Answer.drained : Answer → List (Output × Record)
  | .entries drained => drained
  | _ => []

section

variable (s : Session) (call : Call)

/-- A call takes records from the front of the queue or adds one at its end. -/
theorem queue_answer :
    (s.answer call).1.taken ++ (s.answer call).2.queue = s.queue ++ call.enqueued := by
  cases call with
  | enqueue r => rfl
  | take max => exact (List.take_append_drop max s.queue).trans (List.append_nil _).symm
  | _ => exact (List.append_nil _).symm

/-- A call empties the routing log or adds an entry at its end. -/
theorem routed_answer :
    (s.answer call).1.drained ++ (s.answer call).2.routed.toList =
      s.routed.toList ++ call.transferred := by
  cases call with
  | transfer r output => exact Array.toList_push
  | drain => rfl
  | _ => exact (List.append_nil _).symm

theorem removed_answer : (s.answer call).2.removed = s.removed + call.removed.length := by
  cases call <;> rfl

end

/-! ## Histories -/

/-- A session and the answers to the calls that made it. -/
structure History where
  session : Session := {}
  answers : List Answer := []

namespace History

/-- Go on with a call. -/
def on (h : History) (call : Call) : History where
  session := (h.session.answer call).2
  answers := h.answers ++ [(h.session.answer call).1]

/-- The history of calls to an empty session. -/
def of (calls : List Call) : History := calls.foldl on {}

def taken (h : History) : List Record := h.answers.flatMap Answer.taken

def drained (h : History) : List (Output × Record) := h.answers.flatMap Answer.drained

theorem of_concat (calls : List Call) (call : Call) : of (calls ++ [call]) = (of calls).on call :=
  List.foldl_concat ..

theorem taken_concat (calls : List Call) (call : Call) :
    (of (calls ++ [call])).taken =
      (of calls).taken ++ ((of calls).session.answer call).1.taken := by
  rw [of_concat, taken, on, List.flatMap_append, List.flatMap_singleton]
  rfl

/-- If each call moves what it hands out from a store of the session to its caller, and puts what it
brings at the end of the store, then all that was handed out and the store are all that was
brought. -/
theorem handed_append_store {α : Type} (handed : Answer → List α) (store : Session → List α)
    (brought : Call → List α) (hstart : store {} = [])
    (hstep : ∀ s call, handed (s.answer call).1 ++ store (s.answer call).2 =
      store s ++ brought call) (calls : List Call) :
    (of calls).answers.flatMap handed ++ store (of calls).session = calls.flatMap brought := by
  induction calls using List.reverseRecOn with
  | nil => exact hstart
  | append_singleton calls call ih =>
    calc (of (calls ++ [call])).answers.flatMap handed ++ store (of (calls ++ [call])).session
        = (of calls).answers.flatMap handed ++ (handed ((of calls).session.answer call).1 ++
            store ((of calls).session.answer call).2) := by
          rw [of_concat, on, List.flatMap_append, List.flatMap_singleton, List.append_assoc]
      _ = calls.flatMap brought ++ brought call := by rw [hstep, ← List.append_assoc, ih]
      _ = (calls ++ [call]).flatMap brought := by
          rw [List.flatMap_append, List.flatMap_singleton]

end History

def enqueuedBy (calls : List Call) : List Record := calls.flatMap Call.enqueued

def transfersBy (calls : List Call) : List (Output × Record) := calls.flatMap Call.transferred

def removedBy (calls : List Call) : List Record := calls.flatMap Call.removed

theorem taken_append_queue (calls : List Call) :
    (History.of calls).taken ++ (History.of calls).session.queue = enqueuedBy calls :=
  History.handed_append_store Answer.taken queue Call.enqueued rfl queue_answer calls

theorem drained_append_routed (calls : List Call) :
    (History.of calls).drained ++ (History.of calls).session.routed.toList =
      transfersBy calls :=
  History.handed_append_store Answer.drained (·.routed.toList) Call.transferred rfl routed_answer
    calls

theorem removed_eq_length (calls : List Call) :
    (History.of calls).session.removed = (removedBy calls).length := by
  induction calls using List.reverseRecOn with
  | nil => rfl
  | append_singleton calls call ih =>
    rw [History.of_concat, History.on, removed_answer, ih, removedBy, removedBy,
      List.flatMap_append, List.flatMap_singleton, List.length_append]

/-! ## Taking twice -/

/-- Taking twice is taking once. -/
theorem take_take (s : Session) (a b : Nat) :
    (s.take a).1 ++ ((s.take a).2.take b).1 = (s.take (a + b)).1 ∧
      ((s.take a).2.take b).2 = (s.take (a + b)).2 := by
  constructor
  · exact List.take_add.symm
  · exact congrArg (fun queue => { s with queue }) List.drop_drop

/-! ## The routing log by outputs -/

/-- An entry with the name of its output. -/
def named (entry : Output × Record) : String × Record := (entry.1.name, entry.2)

/-- The names in the routing log, each once. -/
def names (s : Session) : List String := (s.routed.toList.map (·.1.name)).dedup

/-- The records that were transferred to an output, with its name. -/
def share (s : Session) (name : String) : List (String × Record) :=
  (s.transferred name).map (name, ·)

theorem share_eq_filter (s : Session) (name : String) :
    s.share name = (s.routed.toList.map named).filter (·.1 == name) := by
  rw [share, transferred, List.map_map, List.filter_map]
  apply List.map_congr_left
  intro entry hentry
  have hname : entry.1.name = name := beq_iff_eq.1 (List.mem_filter.1 hentry).2
  rw [named, hname]
  rfl

/-- A list is made of its parts by first components, if each component occurs among the keys. -/
theorem perm_flatMap_filter {κ β : Type} [DecidableEq κ] {keys : List κ} (hnodup : keys.Nodup)
    {pairs : List (κ × β)} (hkeys : ∀ pair ∈ pairs, pair.1 ∈ keys) :
    (keys.flatMap fun key => pairs.filter (·.1 == key)).Perm pairs := by
  induction keys generalizing pairs with
  | nil =>
    have hnone : pairs = [] := List.eq_nil_iff_forall_not_mem.2 fun pair hpair =>
      List.not_mem_nil (hkeys pair hpair)
    rw [hnone]
    rfl
  | cons key keys ih =>
    obtain ⟨hfresh, hnodup⟩ := List.nodup_cons.1 hnodup
    let others := pairs.filter fun pair => !(pair.1 == key)
    have hothers : ∀ pair ∈ others, pair.1 ∈ keys := by
      intro pair hpair
      obtain ⟨hmem, hne⟩ := List.mem_filter.1 hpair
      rcases List.mem_cons.1 (hkeys pair hmem) with heq | hkey
      · simp [heq] at hne
      · exact hkey
    have hparts : (keys.flatMap fun other => pairs.filter (·.1 == other)) =
        keys.flatMap fun other => others.filter (·.1 == other) := by
      apply List.flatMap_congr
      intro other hother
      rw [List.filter_filter]
      apply List.filter_congr
      intro pair _
      by_cases heq : pair.1 = other
      · have hne : pair.1 ≠ key := fun hkey => hfresh (hkey ▸ heq ▸ hother)
        simp [heq, heq ▸ hne]
      · simp [heq]
    rw [List.flatMap_cons, hparts]
    exact ((ih hnodup hothers).append_left _).trans (List.filter_append_perm _ pairs)

/-- The shares of the names make up the routing log, each in the order of the log. -/
theorem shares_partition (s : Session) :
    (s.names.flatMap s.share).Perm (s.routed.toList.map named) ∧
      ∀ name, (s.share name).Sublist (s.routed.toList.map named) ∧
        (s.transferred name).length = s.transferredCount name := by
  have hshares : s.share = fun name => (s.routed.toList.map named).filter (·.1 == name) :=
    funext s.share_eq_filter
  constructor
  · rw [hshares]
    apply perm_flatMap_filter (List.nodup_dedup _)
    intro pair hpair
    obtain ⟨entry, hentry, rfl⟩ := List.mem_map.1 hpair
    exact List.mem_dedup.2 (List.mem_map.2 ⟨entry, hentry, rfl⟩)
  · intro name
    constructor
    · rw [hshares]
      exact List.filter_sublist
    · exact List.length_map ..

/-! ## Records in the hands of a caller -/

/-- A record as it was queued and as it is now. -/
structure Holding where
  queued : Record
  now : Record

/-- What became of the records that a caller took. -/
structure Custody where
  held : List Holding := []
  transferred : List Holding := []
  removed : List Holding := []

def Custody.all (c : Custody) : List Holding := c.held ++ c.transferred ++ c.removed

/-- A record that was just taken. -/
def Holding.fresh (r : Record) : Holding := ⟨r, r⟩

/-- The caller of these calls has resolved no record twice and no copy of a record, and this is what
became of the records that it took.  It holds what was handed out to it until it transfers or
removes it.  While it holds a record it may mark it, and amend it in the ways that are given. -/
inductive Keeps (amends : Record → Record → Prop) : List Call → Custody → Prop where
  | start : Keeps amends [] {}
  | call {calls : List Call} {c : Custody} {call : Call} (h : Keeps amends calls c)
      (hcall : call.transferred = [] ∧ call.removed = []) :
      Keeps amends (calls ++ [call])
        { c with held := c.held ++
            ((History.of calls).session.answer call).1.taken.map Holding.fresh }
  | transfer {calls : List Call} {c : Custody} {front back : List Holding} {r : Holding}
      (output : Output) (h : Keeps amends calls c) (hheld : c.held = front ++ r :: back) :
      Keeps amends (calls ++ [.transfer r.now output])
        { c with held := front ++ back, transferred := c.transferred ++ [r] }
  | remove {calls : List Call} {c : Custody} {front back : List Holding} {r : Holding}
      (h : Keeps amends calls c) (hheld : c.held = front ++ r :: back) :
      Keeps amends (calls ++ [.remove r.now])
        { c with held := front ++ back, removed := c.removed ++ [r] }
  | penalize {calls : List Call} {c : Custody} {front back : List Holding} {r : Holding}
      (h : Keeps amends calls c) (hheld : c.held = front ++ r :: back) :
      Keeps amends (calls ++ [.penalize r.now])
        { c with held := front ++ { r with now := r.now.penalize } :: back }
  | amend {calls : List Call} {c : Custody} {front back : List Holding} {r : Holding}
      {amended : Record} (h : Keeps amends calls c) (hheld : c.held = front ++ r :: back)
      (hamends : amends r.now amended) :
      Keeps amends calls { c with held := front ++ { r with now := amended } :: back }

/-- The record was marked or amended. -/
def Changes (amends : Record → Record → Prop) (r changed : Record) : Prop :=
  changed = r.penalize ∨ amends r changed

/-- What is known of the records that the caller of these calls took. -/
structure Custody.Accounts (amends : Record → Record → Prop) (calls : List Call) (c : Custody) :
    Prop where
  taken_perm : (History.of calls).taken.Perm (c.all.map Holding.queued)
  transferred_eq : c.transferred.map Holding.now = (transfersBy calls).map Prod.snd
  removed_eq : c.removed.map Holding.now = removedBy calls
  changed : ∀ r ∈ c.all, Relation.ReflTransGen (Changes amends) r.queued r.now

variable {amends : Record → Record → Prop} {calls : List Call} {c : Custody}

theorem transfersBy_concat (calls : List Call) (call : Call) :
    transfersBy (calls ++ [call]) = transfersBy calls ++ call.transferred := by
  rw [transfersBy, List.flatMap_append, List.flatMap_singleton]
  rfl

theorem removedBy_concat (calls : List Call) (call : Call) :
    removedBy (calls ++ [call]) = removedBy calls ++ call.removed := by
  rw [removedBy, List.flatMap_append, List.flatMap_singleton]
  rfl

namespace Custody

theorem perm_all_received (c : Custody) (received : List Holding) :
    ({ c with held := c.held ++ received } : Custody).all.Perm (c.all ++ received) := by
  have hlast : (received ++ (c.transferred ++ c.removed)).Perm
      (c.transferred ++ c.removed ++ received) := List.perm_append_comm
  simpa only [all, List.append_assoc] using hlast.append_left c.held

theorem perm_all_transferred {front back : List Holding} {r : Holding}
    (hheld : c.held = front ++ r :: back) :
    ({ c with held := front ++ back, transferred := c.transferred ++ [r] } : Custody).all.Perm
      c.all := by
  have hheld' : (front ++ back ++ (c.transferred ++ [r])).Perm (c.held ++ c.transferred) := by
    rw [hheld, ← List.append_assoc (front ++ back)]
    exact (List.perm_append_singleton r _).trans (List.perm_middle.symm.append_right c.transferred)
  exact hheld'.append_right c.removed

theorem perm_all_removed {front back : List Holding} {r : Holding}
    (hheld : c.held = front ++ r :: back) :
    ({ c with held := front ++ back, removed := c.removed ++ [r] } : Custody).all.Perm
      c.all := by
  have hfirst : (c.held ++ c.transferred ++ c.removed).Perm
      (r :: (front ++ back ++ c.transferred ++ c.removed)) := by
    rw [hheld]
    exact (List.perm_middle.append_right c.transferred).append_right c.removed
  have hlast : (front ++ back ++ c.transferred ++ (c.removed ++ [r])).Perm
      (r :: (front ++ back ++ c.transferred ++ c.removed)) := by
    rw [← List.append_assoc]
    exact List.perm_append_singleton r _
  exact hlast.trans hfirst.symm

theorem queued_all_amended {front back : List Holding} {r : Holding} (amended : Record)
    (hheld : c.held = front ++ r :: back) :
    ({ c with held := front ++ { r with now := amended } :: back } : Custody).all.map
      Holding.queued = c.all.map Holding.queued := by
  simp only [all, hheld, List.map_append, List.map_cons]

theorem mem_all_amended {front back : List Holding} {r other : Holding} {amended : Record}
    (hheld : c.held = front ++ r :: back)
    (hother : other ∈
      ({ c with held := front ++ { r with now := amended } :: back } : Custody).all) :
    other = { r with now := amended } ∨ other ∈ c.all := by
  simp only [all, hheld, List.mem_append, List.mem_cons] at hother ⊢
  tauto

namespace Accounts

theorem start : ({} : Custody).Accounts amends [] := ⟨.refl _, rfl, rfl, nofun⟩

theorem call (call : Call) (h : c.Accounts amends calls)
    (hcall : call.transferred = [] ∧ call.removed = []) :
    ({ c with held := c.held ++
        ((History.of calls).session.answer call).1.taken.map Holding.fresh } : Custody).Accounts
      amends (calls ++ [call]) where
  taken_perm := by
    have hfresh (records : List Record) :
        (records.map Holding.fresh).map Holding.queued = records := by
      rw [List.map_map]
      exact List.map_id records
    have hall := (c.perm_all_received
      (((History.of calls).session.answer call).1.taken.map Holding.fresh)).map Holding.queued
    rw [List.map_append, hfresh] at hall
    rw [History.taken_concat]
    exact (h.taken_perm.append_right _).trans hall.symm
  transferred_eq := by
    rw [transfersBy_concat, hcall.1, List.append_nil]
    exact h.transferred_eq
  removed_eq := by
    rw [removedBy_concat, hcall.2, List.append_nil]
    exact h.removed_eq
  changed := by
    intro r hr
    rcases List.mem_append.1 ((c.perm_all_received _).mem_iff.1 hr) with hold | hnew
    · exact h.changed r hold
    · obtain ⟨taken, -, rfl⟩ := List.mem_map.1 hnew
      exact .refl

variable {front back : List Holding} {r : Holding}

theorem transfer (output : Output) (h : c.Accounts amends calls)
    (hheld : c.held = front ++ r :: back) :
    ({ c with held := front ++ back, transferred := c.transferred ++ [r] } : Custody).Accounts
      amends (calls ++ [.transfer r.now output]) where
  taken_perm := by
    rw [History.taken_concat]
    exact (List.Perm.of_eq (List.append_nil _)).trans
      (h.taken_perm.trans ((perm_all_transferred hheld).symm.map _))
  transferred_eq := by
    rw [transfersBy_concat, List.map_append, List.map_append, h.transferred_eq]
    rfl
  removed_eq := by
    rw [removedBy_concat, h.removed_eq]
    exact (List.append_nil _).symm
  changed := fun other hother =>
    h.changed other ((perm_all_transferred hheld).mem_iff.1 hother)

theorem remove (h : c.Accounts amends calls) (hheld : c.held = front ++ r :: back) :
    ({ c with held := front ++ back, removed := c.removed ++ [r] } : Custody).Accounts
      amends (calls ++ [.remove r.now]) where
  taken_perm := by
    rw [History.taken_concat]
    exact (List.Perm.of_eq (List.append_nil _)).trans
      (h.taken_perm.trans ((perm_all_removed hheld).symm.map _))
  transferred_eq := by
    rw [transfersBy_concat, h.transferred_eq]
    exact congrArg _ (List.append_nil _).symm
  removed_eq := by
    rw [removedBy_concat, List.map_append, h.removed_eq]
    rfl
  changed := fun other hother => h.changed other ((perm_all_removed hheld).mem_iff.1 hother)

/-- A record that is changed while it is held remains the record that was queued. -/
theorem amend {amended : Record} (h : c.Accounts amends calls)
    (hheld : c.held = front ++ r :: back) (hchange : Changes amends r.now amended) :
    ({ c with held := front ++ { r with now := amended } :: back } : Custody).Accounts
      amends calls where
  taken_perm := by
    rw [queued_all_amended amended hheld]
    exact h.taken_perm
  transferred_eq := h.transferred_eq
  removed_eq := h.removed_eq
  changed := by
    intro other hother
    rcases mem_all_amended hheld hother with rfl | hold
    · have hr : r ∈ c.all := by simp [all, hheld]
      exact (h.changed r hr).tail hchange
    · exact h.changed other hold

end Accounts

end Custody

/-- A caller that keeps to the rules has its books in order. -/
theorem Keeps.accounts (h : Keeps amends calls c) : c.Accounts amends calls := by
  induction h with
  | start => exact .start
  | call h hcall ih => exact ih.call _ hcall
  | transfer output h hheld ih => exact ih.transfer output hheld
  | remove h hheld ih => exact ih.remove hheld
  | @penalize calls c front back r h hheld ih =>
    have hmarked := ih.call (.penalize r.now) ⟨rfl, rfl⟩
    change Custody.Accounts amends _ { c with held := c.held ++ [] } at hmarked
    rw [List.append_nil] at hmarked
    exact hmarked.amend hheld (.inl rfl)
  | amend h hheld hamends ih => exact ih.amend hheld (.inr hamends)

/-- Wherever the calls of a session stop, what was taken and the queue are what was enqueued, and
what was drained and the routing log are the transfers, in order; taking twice is taking once; the
removed records are counted; and the log is made of the shares of its outputs.  If the caller has
resolved no record twice and no copy, then every enqueued record is queued, held, transferred or
removed, and has changed only by being marked or amended. -/
theorem conserves_records (calls : List Call) :
    let h := History.of calls
    let s := h.session
    h.taken ++ s.queue = enqueuedBy calls ∧
      (∀ a b, (s.take a).1 ++ ((s.take a).2.take b).1 = (s.take (a + b)).1 ∧
        ((s.take a).2.take b).2 = (s.take (a + b)).2) ∧
      h.drained ++ s.routed.toList = transfersBy calls ∧
      s.removed = (removedBy calls).length ∧
      ((s.names.flatMap s.share).Perm (s.routed.toList.map named) ∧
        ∀ name, (s.share name).Sublist (s.routed.toList.map named) ∧
          (s.transferred name).length = s.transferredCount name) ∧
      ∀ (amends : Record → Record → Prop) (c : Custody), Keeps amends calls c →
        (enqueuedBy calls).Perm (s.queue ++ c.held.map Holding.queued ++
          c.transferred.map Holding.queued ++ c.removed.map Holding.queued) ∧
        (enqueuedBy calls).length =
          s.queue.length + c.held.length + (transfersBy calls).length + s.removed ∧
        c.transferred.map Holding.now = (transfersBy calls).map Prod.snd ∧
        c.removed.map Holding.now = removedBy calls ∧
        ∀ r ∈ c.all, Relation.ReflTransGen (Changes amends) r.queued r.now := by
  intro h s
  refine ⟨taken_append_queue calls, s.take_take, drained_append_routed calls,
    removed_eq_length calls, s.shares_partition, fun amends c hkeeps => ?_⟩
  have hbooks := hkeeps.accounts
  have hperm : (enqueuedBy calls).Perm (s.queue ++ c.held.map Holding.queued ++
      c.transferred.map Holding.queued ++ c.removed.map Holding.queued) := by
    have hall := (hbooks.taken_perm.append_right s.queue).trans List.perm_append_comm
    rw [taken_append_queue, Custody.all, List.map_append, List.map_append] at hall
    simpa only [List.append_assoc] using hall
  refine ⟨hperm, ?_, hbooks.transferred_eq, hbooks.removed_eq, hbooks.changed⟩
  have htransferred := congrArg List.length hbooks.transferred_eq
  have hremoved := congrArg List.length hbooks.removed_eq
  have hlength := hperm.length_eq
  simp only [List.length_append, List.length_map] at htransferred hremoved hlength
  have hcount : s.removed = (removedBy calls).length := removed_eq_length calls
  omega

/-- Records to tell apart by their contents. -/
def first : Record := { content := [1] }

def second : Record := { content := [2] }

def third : Record := { content := [3] }

/-- Two of three records are taken: one is marked and transferred, the other one removed. -/
def twoResolved : List Call :=
  [.enqueue first, .enqueue second, .enqueue third, .take 2, .penalize first,
    .transfer first.penalize ⟨"out"⟩, .drain, .remove second]

def twoCustody : Custody where
  transferred := [⟨first, first.penalize⟩]
  removed := [⟨second, second⟩]

/-- The third record is still queued. -/
theorem twoResolved_conserves :
    Keeps (fun _ _ => False) twoResolved twoCustody ∧
      (enqueuedBy twoResolved).Perm ((History.of twoResolved).session.queue ++
        twoCustody.held.map Holding.queued ++ twoCustody.transferred.map Holding.queued ++
          twoCustody.removed.map Holding.queued) ∧
      (enqueuedBy twoResolved).length = (History.of twoResolved).session.queue.length +
        twoCustody.held.length + (transfersBy twoResolved).length +
          (History.of twoResolved).session.removed := by
  have htaken : Keeps (fun _ _ => False)
      [.enqueue first, .enqueue second, .enqueue third, .take 2]
      { held := [⟨first, first⟩, ⟨second, second⟩] } :=
    .call (.call (.call (.call .start ⟨rfl, rfl⟩) ⟨rfl, rfl⟩) ⟨rfl, rfl⟩) ⟨rfl, rfl⟩
  have hmarked := @Keeps.penalize _ _ _ [] _ _ htaken rfl
  have htransferred := @Keeps.transfer _ _ _ [] _ _ ⟨"out"⟩ hmarked rfl
  have hdrained := @Keeps.call _ _ _ .drain htransferred ⟨rfl, rfl⟩
  have hkeeps : Keeps (fun _ _ => False) twoResolved twoCustody :=
    @Keeps.remove _ _ _ [] _ _ hdrained rfl
  obtain ⟨hperm, hcount, -⟩ := (conserves_records twoResolved).2.2.2.2.2 _ _ hkeeps
  exact ⟨hkeeps, hperm, hcount⟩

end RecordFlow.Session
