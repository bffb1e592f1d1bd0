import RecordFlow.Session

/-!
# Sessions with longer logs

Processors only ever add to the logs of a session, so what they do to the logs is told
by the entries that they add.
-/

namespace RecordFlow.Session

/-- Add entries to the routing log and events to the log of deliveries. -/
def extend (s : Session) (entries : List (Output × Record)) (events : List Delivery) : Session :=
  { s with
    routed := s.routed ++ entries.toArray
    deliveries := s.deliveries ++ events.toArray }

variable (s : Session) (entries more : List (Output × Record)) (events others : List Delivery)

@[simp] theorem queue_extend : (s.extend entries events).queue = s.queue := rfl

@[simp] theorem removed_extend : (s.extend entries events).removed = s.removed := rfl

@[simp] theorem routed_extend :
    (s.extend entries events).routed.toList = s.routed.toList ++ entries := by
  simp [extend]

@[simp] theorem deliveries_extend :
    (s.extend entries events).deliveries.toList = s.deliveries.toList ++ events := by
  simp [extend]

theorem transferred_extend (name : String) :
    (s.extend entries events).transferred name =
      s.transferred name ++ (entries.filter (·.1.name == name)).map Prod.snd := by
  rw [transferred, transferred, routed_extend, List.filter_append, List.map_append]

/-- Records that all went to one output are transferred to this output alone. -/
theorem transferred_extend_map (records : List Record) (output : Output) (name : String) :
    (s.extend (records.map fun r => (output, r)) events).transferred name =
      s.transferred name ++ (if output.name = name then records else []) := by
  rw [transferred_extend, List.filter_map]
  by_cases hname : output.name = name
  · have hall : records.filter ((fun entry => entry.1.name == name) ∘ fun r => (output, r)) =
        records := List.filter_eq_self.2 fun _ _ => beq_iff_eq.2 hname
    rw [hall, if_pos hname, List.map_map]
    exact congrArg _ (List.map_id records)
  · have hnone : records.filter ((fun entry => entry.1.name == name) ∘ fun r => (output, r)) =
        [] := List.filter_eq_nil_iff.2 fun _ _ h => hname (beq_iff_eq.1 h)
    rw [hnone, if_neg hname]
    rfl

theorem extend_nil : s.extend [] [] = s := by
  simp [extend]

theorem extend_extend :
    (s.extend entries events).extend more others =
      s.extend (entries ++ more) (events ++ others) := by
  simp [extend, Array.append_assoc]

theorem transfer_eq_extend (r : Record) (output : Output) :
    s.transfer r output = s.extend [(output, r)] [] := by
  simp [transfer, extend]

theorem reportSend_eq_extend (r : Record) (address : String) :
    s.reportSend r address = s.extend [] [⟨address, r⟩] := by
  simp [reportSend, extend]

/-- Steps that each add to the logs add what all of them add. -/
theorem foldl_extend {β : Type} {step : Session → β → Session}
    {entriesOf : β → List (Output × Record)} {eventsOf : β → List Delivery}
    (hstep : ∀ s b, step s b = s.extend (entriesOf b) (eventsOf b)) (bs : List β) :
    bs.foldl step s = s.extend (bs.flatMap entriesOf) (bs.flatMap eventsOf) := by
  induction bs generalizing s with
  | nil => exact (extend_nil s).symm
  | cons b bs ih =>
    rw [List.foldl_cons, ih, hstep, extend_extend, List.flatMap_cons, List.flatMap_cons]

/-- Transfers one after another append their entries. -/
theorem foldl_transfer {β : Type} (recordOf : β → Record) (outputOf : β → Output)
    (bs : List β) :
    bs.foldl (fun s b => s.transfer (recordOf b) (outputOf b)) s =
      s.extend (bs.map fun b => (outputOf b, recordOf b)) [] := by
  have hevents : bs.flatMap (fun _ => ([] : List Delivery)) = [] :=
    List.flatMap_eq_nil_iff.2 fun _ _ => rfl
  rw [foldl_extend s (fun s b => s.transfer_eq_extend (recordOf b) (outputOf b)), hevents,
    List.map_eq_flatMap]

end RecordFlow.Session
