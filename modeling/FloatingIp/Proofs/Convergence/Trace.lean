import FloatingIp.Proofs.Convergence.Turn

/-!
# The calls of a run

A call begins and ends in turns of the reconciler.  A turn is all that the reconciler does between
two waits, so the call that a turn ends comes before the one that it begins, and a call begins
where the reconciler has just seen whether the work is called off.  `trace` lists these events of a
run in order.

Calls never overlap: the trace of every run is that of its finished calls, each begun and ended
before the next begins, and at the end perhaps one call that has begun (`trace_eq_inTurn`).
-/

namespace FloatingIp.Convergence

/-- A call to the host begins or ends. -/
inductive CallEvent where
  /-- A call begins. -/
  | began (call : Call)
  /-- A call is answered. -/
  | ended (call : Call) (answer : Answer)
  deriving DecidableEq

/-- What a move from one state to another means for the calls: the one that it ends and then the
one that it begins. -/
def events (s : Convergence) (m : Move) (t : Convergence) : List CallEvent :=
  (s.endedBy m).map (fun c => .ended c.call c.answer) ++
    if m.isTurn then t.reconciler.phase.call?.toList.map .began else []

/-- The events of a run, in order. -/
def trace (s : Convergence) : List Move → List CallEvent
  | [] => []
  | m :: moves =>
    match s.move? m with
    | some t => s.events m t ++ t.trace moves
    | none => []

/-- A move begins a call. -/
def Begins (s : Convergence) (m : Move) (call : Call) : Prop :=
  ∃ t, s.move? m = some t ∧ .began call ∈ s.events m t

/-- The events of finished calls, given newest first, and of a call that has begun. -/
def inTurn (done : List CallRecord) (pending : Option Call) : List CallEvent :=
  done.reverse.flatMap (fun c => [.began c.call, .ended c.call c.answer]) ++
    pending.toList.map .began

/-! ### Traces of moves one after another -/

/-- The trace begins with what the first move means. -/
lemma trace_cons {s t : Convergence} {m : Move} (h : s.move? m = some t) (moves : List Move) :
    s.trace (m :: moves) = s.events m t ++ t.trace moves := by
  rw [trace, h]

/-- The trace of moves and then more moves. -/
lemma trace_append {s t : Convergence} {moves : List Move} (run : s.run? moves = some t)
    (more : List Move) : s.trace (moves ++ more) = s.trace moves ++ t.trace more := by
  induction moves generalizing s with
  | nil =>
      cases run
      rfl
  | cons m moves ih =>
      obtain ⟨u, hu, hrun⟩ := run_cons.mp run
      rw [List.cons_append, trace_cons hu, trace_cons hu, ih hrun, List.append_assoc]

/-- The trace ends with what the last move means. -/
lemma trace_concat {s t u : Convergence} {moves : List Move} {m : Move}
    (run : s.run? moves = some t) (h : t.move? m = some u) :
    s.trace (moves ++ [m]) = s.trace moves ++ t.events m u := by
  rw [trace_append run, trace_cons h]
  simp [trace]

/-! ### Events of a single move -/

/-- A move that is no turn means nothing for the calls. -/
lemma Aside.events {s t : Convergence} {m : Move} (aside : Aside s m t) : s.events m t = [] := by
  cases aside <;> rfl

/-- A turn begins the call that the reconciler is in afterwards. -/
lemma Turn.events {s : Convergence} {m : Move} {r : Reconciler} (turn : Turn s m r) :
    s.events m (s.turned m r) =
      (s.endedBy m).map (fun c => .ended c.call c.answer) ++ r.phase.call?.toList.map .began := by
  rw [Convergence.events, if_pos turn.isTurn]
  rfl

/-- A reconciler takes a turn when it is in no call, or by the answer to the call that it is in. -/
lemma Turn.free_or_answered {s : Convergence} {m : Move} {r : Reconciler} (turn : Turn s m r) :
    s.reconciler.phase.call? = none ∧ s.endedBy m = [] ∨
      ∃ call a, s.reconciler.phase.call? = some call ∧ m = .answer a := by
  cases turn with
  | begin starting => exact .inl ⟨by rw [starting]; rfl, rfl⟩
  | release resting _ => exact .inl ⟨by rw [resting]; rfl, rfl⟩
  | again resting _ _ => exact .inl ⟨by rw [resting]; rfl, rfl⟩
  | agree querying _ _ => exact .inr ⟨_, _, by rw [querying]; rfl, rfl⟩
  | probe querying _ => exact .inr ⟨_, _, by rw [querying]; rfl, rfl⟩
  | withdraw querying _ => exact .inr ⟨_, _, by rw [querying]; rfl, rfl⟩
  | unknown querying _ => exact .inr ⟨_, _, by rw [querying]; rfl, rfl⟩
  | defer probing => exact .inr ⟨_, _, by rw [probing]; rfl, rfl⟩
  | claim probing => exact .inr ⟨_, _, by rw [probing]; rfl, rfl⟩
  | claimed claiming _ => exact .inr ⟨_, _, by rw [claiming]; rfl, rfl⟩
  | claimFailed claiming _ => exact .inr ⟨_, _, by rw [claiming]; rfl, rfl⟩
  | withdrawn withdrawing _ => exact .inr ⟨_, _, by rw [withdrawing]; rfl, rfl⟩
  | withdrawFailed withdrawing _ => exact .inr ⟨_, _, by rw [withdrawing]; rfl, rfl⟩
  | released releasing _ => exact .inr ⟨_, _, by rw [releasing]; rfl, rfl⟩
  | releaseFailed releasing _ => exact .inr ⟨_, _, by rw [releasing]; rfl, rfl⟩
  | broke call busy => exact .inr ⟨call, .broke, busy, rfl⟩

/-- A move that begins a call is a turn into that call. -/
lemma Begins.turn {s : Convergence} {m : Move} {call : Call} (begins : s.Begins m call) :
    ∃ r, Turn s m r ∧ r.phase.call? = some call := by
  obtain ⟨t, h, began⟩ := begins
  rcases move?_cases h with ⟨r, turn, rfl⟩ | aside
  · refine ⟨r, turn, ?_⟩
    rw [turn.events] at began
    simpa using began
  · rw [aside.events] at began
    cases began

/-! ### Calls are made one after another -/

/-- What a move means for the calls carries the calls in turn to the calls in turn. -/
lemma inTurn_append_events {s t : Convergence} {m : Move} (h : s.move? m = some t) :
    inTurn s.calls s.reconciler.phase.call? ++ s.events m t =
      inTurn t.calls t.reconciler.phase.call? := by
  rcases move?_cases h with ⟨r, turn, rfl⟩ | aside
  · rw [turn.events]
    rcases turn.free_or_answered with ⟨free, none⟩ | ⟨call, a, busy, rfl⟩
    · simp [inTurn, turned, free, none]
    · simp [inTurn, turned, busy, endedBy]
  · rw [aside.events, aside.calls, aside.reconciler, List.append_nil]

/-- **Calls never overlap.**  The events of a run are those of its finished calls one after
another, and of the call that the reconciler is in. -/
theorem trace_eq_inTurn {recheck : Nat} {moves : List Move} {s : Convergence}
    (run : (Convergence.new recheck).run? moves = some s) :
    (Convergence.new recheck).trace moves = inTurn s.calls s.reconciler.phase.call? := by
  refine run_induction (P := fun moves s => (Convergence.new recheck).trace moves =
    inTurn s.calls s.reconciler.phase.call?) rfl ?_ run
  intro moves s m t run ih h
  rw [trace_concat run h, ih, inTurn_append_events h]

end FloatingIp.Convergence
