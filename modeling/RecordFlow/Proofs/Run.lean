import RecordFlow.Run

/-!
# What runs preserve

A run is a sequence of triggers with pauses between them.  Whatever relates the state,
the session and the world before and after each of these steps, and can be chained,
relates them before and after a run of any length.  A processor may also be made to
remember the sessions on which it was triggered, which changes nothing else in a run.
-/

namespace RecordFlow

variable {World σ α : Type}

/-- Where a computation leaves the processor, the session and the world. -/
def leaves (outcome : (α × σ × Session) × World) : σ × Session × World :=
  (outcome.1.2.1, outcome.1.2.2, outcome.2)

/-- A relation that triggers of waiting sessions and pauses respect. -/
structure Respected (p : Processor (StateM World) σ) (pause : StateM World Unit)
    (R : σ × Session × World → σ × Session × World → Prop) : Prop where
  refl : ∀ a, R a a
  trans : ∀ a b c, R a b → R b c → R a c
  trigger : ∀ state session world, session.queue ≠ [] →
    R (state, session, world) (leaves ((p.trigger state session).run world))
  pause : ∀ state session world,
    R (state, session, world) (state, session, (pause.run world).2)

variable {p : Processor (StateM World) σ} {pause : StateM World Unit}
  {R : σ × Session × World → σ × Session × World → Prop}

theorem triggerWhileQueued_of_empty {session : Session} (h : session.queue = []) (limit : Nat)
    (tally : Tally) (state : σ) (world : World) :
    (triggerWhileQueued p pause limit tally state session).run world =
      ((tally, state, session), world) := by
  cases limit with
  | zero => rfl
  | succ limit =>
    rw [triggerWhileQueued, h]
    rfl

/-- While records wait, a run goes on from where a trigger leaves it, after a pause if
the result asks for one. -/
theorem triggerWhileQueued_of_waiting {session : Session} (h : session.queue ≠ []) (limit : Nat)
    (tally : Tally) (state : σ) (world : World) :
    (triggerWhileQueued p pause (limit + 1) tally state session).run world =
      let outcome := (p.trigger state session).run world
      (triggerWhileQueued p pause limit (tally.count outcome.1.1) outcome.1.2.1 outcome.1.2.2).run
        (if needsPause outcome.1.1 then (pause.run outcome.2).2 else outcome.2) := by
  have hwaiting : session.queue.isEmpty = false := List.isEmpty_eq_false_iff.2 h
  rw [triggerWhileQueued, hwaiting, if_neg Bool.false_ne_true, StateT.run_bind]
  rcases (p.trigger state session).run world with ⟨⟨result, state', session'⟩, world'⟩
  let rest := triggerWhileQueued p pause limit (tally.count result) state' session'
  change (if needsPause result = true then pause >>= fun _ => rest else rest).run world' =
    rest.run (if needsPause result = true then (pause.run world').2 else world')
  by_cases hpause : needsPause result = true
  · rw [if_pos hpause, if_pos hpause]
    rfl
  · rw [if_neg hpause, if_neg hpause]

/-- The loop of a run respects what its steps respect. -/
theorem Respected.triggerWhileQueued (hR : Respected p pause R) (limit : Nat) (tally : Tally)
    (state : σ) (session : Session) (world : World) :
    R (state, session, world)
      (leaves ((triggerWhileQueued p pause limit tally state session).run world)) := by
  induction limit generalizing tally state session world with
  | zero => exact hR.refl _
  | succ limit ih =>
    by_cases hqueue : session.queue = []
    · rw [triggerWhileQueued_of_empty hqueue]
      exact hR.refl _
    · rw [triggerWhileQueued_of_waiting hqueue]
      apply hR.trans _ _ _ (hR.trigger state session world hqueue)
      rcases (p.trigger state session).run world with ⟨⟨result, state', session'⟩, world'⟩
      by_cases hpause : needsPause result = true
      · apply hR.trans _ _ _ (hR.pause state' session' world')
        simp only [hpause, if_true]
        exact ih _ state' session' _
      · simp only [hpause]
        exact ih _ state' session' world'

/-- A run respects what its steps respect. -/
theorem Respected.run (hR : Respected p pause R) (limit : Nat) (state : σ) (session : Session)
    (world : World) :
    R (state, session, world) (leaves ((run p pause limit state session).run world)) :=
  hR.triggerWhileQueued limit {} state session world

/-- A relation between sessions and worlds that triggers in this state and pauses respect, for
a processor that stays in the state. -/
structure Kept (p : Processor (StateM World) σ) (pause : StateM World Unit) (state : σ)
    (Q : Session × World → Session × World → Prop) : Prop where
  refl : ∀ a, Q a a
  trans : ∀ a b c, Q a b → Q b c → Q a c
  stays : ∀ session world, ((p.trigger state session).run world).1.2.1 = state
  trigger : ∀ session world,
    let outcome := (p.trigger state session).run world
    Q (session, world) (outcome.1.2.2, outcome.2)
  pause : ∀ session world, Q (session, world) (session, (pause.run world).2)

/-- A run in this state keeps what its steps keep. -/
theorem Kept.run {state : σ} {Q : Session × World → Session × World → Prop}
    (hQ : Kept p pause state Q) (limit : Nat) (session : Session) (world : World) :
    let outcome := (run p pause limit state session).run world
    Q (session, world) (outcome.1.2.2, outcome.2) := by
  -- What a run respects is said of all states; that this one never changes is part of it.
  let R (before after : σ × Session × World) : Prop :=
    before.1 = state → after.1 = state ∧ Q before.2 after.2
  have hR : Respected p pause R := by
    refine ⟨?_, ?_, ?_, ?_⟩
    · exact fun before hbefore => ⟨hbefore, hQ.refl before.2⟩
    · intro first second third h h' hfirst
      obtain ⟨hsecond, hkept⟩ := h hfirst
      obtain ⟨hthird, hkept'⟩ := h' hsecond
      exact ⟨hthird, hQ.trans _ _ _ hkept hkept'⟩
    · rintro state session world - rfl
      exact ⟨hQ.stays session world, hQ.trigger session world⟩
    · exact fun state session world hstate => ⟨hstate, hQ.pause session world⟩
  exact (hR.run limit state session world rfl).2

/-! ## Memory -/

/-- The processor with a memory of the sessions on which it was triggered. -/
def Processor.remembering {m : Type → Type} [Monad m] (p : Processor m σ) :
    Processor m (List Session × σ) where
  outputs state := p.outputs state.2
  trigger state session := do
    let (result, inner, after) ← p.trigger state.2 session
    pure (result, (state.1 ++ [session], inner), after)
  setProperty state name value := (p.setProperty state.2 name value).map fun inner =>
    (state.1, inner)

def forget (outcome : (α × (List Session × σ) × Session) × World) :
    (α × σ × Session) × World :=
  ((outcome.1.1, outcome.1.2.1.2, outcome.1.2.2), outcome.2)

theorem run_trigger_remembering (seen : List Session) (state : σ) (session : Session)
    (world : World) :
    (p.remembering.trigger (seen, state) session).run world =
      let outcome := (p.trigger state session).run world
      ((outcome.1.1, (seen ++ [session], outcome.1.2.1), outcome.1.2.2), outcome.2) := by
  rw [Processor.remembering, StateT.run_bind]
  rfl

/-- With a memory and without pauses, a run goes on from where a trigger leaves it. -/
theorem triggerWhileQueued_remembering {session : Session} (h : session.queue ≠ [])
    (limit : Nat) (tally : Tally) (seen : List Session) (state : σ) (world : World) :
    (triggerWhileQueued p.remembering (pure ()) (limit + 1) tally (seen, state) session).run
        world =
      let outcome := (p.trigger state session).run world
      (triggerWhileQueued p.remembering (pure ()) limit (tally.count outcome.1.1)
        (seen ++ [session], outcome.1.2.1) outcome.1.2.2).run outcome.2 := by
  have hpause (b : Bool) (world : World) :
      (if b = true then (StateT.run (pure () : StateM World Unit) world).2 else world) = world :=
    ite_self world
  rw [triggerWhileQueued_of_waiting h, run_trigger_remembering]
  simp only [hpause]

variable (p pause)

theorem forget_triggerWhileQueued (limit : Nat) (tally : Tally) (seen : List Session)
    (state : σ) (session : Session) (world : World) :
    forget ((triggerWhileQueued p.remembering pause limit tally (seen, state) session).run world) =
      (triggerWhileQueued p pause limit tally state session).run world := by
  induction limit generalizing tally seen state session world with
  | zero => rfl
  | succ limit ih =>
    by_cases hqueue : session.queue = []
    · rw [triggerWhileQueued_of_empty hqueue, triggerWhileQueued_of_empty hqueue]
      rfl
    · rw [triggerWhileQueued_of_waiting hqueue, triggerWhileQueued_of_waiting hqueue,
        run_trigger_remembering]
      exact ih _ _ _ _ _

/-- A run with a memory is the run without it. -/
theorem forget_run_remembering (limit : Nat) (seen : List Session) (state : σ)
    (session : Session) (world : World) :
    forget ((run p.remembering pause limit (seen, state) session).run world) =
      (run p pause limit state session).run world := by
  have hloop := forget_triggerWhileQueued p pause limit {} seen state session world
  rw [run, run, StateT.run_bind, StateT.run_bind, ← hloop]
  rfl

end RecordFlow
