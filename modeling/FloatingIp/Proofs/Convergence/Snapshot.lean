import FloatingIp.Proofs.Convergence.Desire

/-!
# The desired state that a pass compares with

A pass of the reconciler compares what it has found with one value of the desired state, its
snapshot, and decides by it alone.  The snapshot is as fresh as it can be: the leadership change that
the coordinator has taken last when the answer to the question comes, whatever came before it and
however it came, or "not leader" where none was taken or the coordinator has given up
(`snapshot_is_last_received`).

Between the stream and the snapshot lies only the cell, and the cell is what was taken last in every
state of every run (`value_eq_lastReceived`): a change that repeats the value is not written and need
not be, a recheck writes the value that is there, and once the coordinator has written its "not
leader" it takes no further change.
-/

namespace FloatingIp.Convergence

/-! ### What was received last -/

/-- The leadership change that the coordinator takes in a move, if it takes one. -/
def Move.received? : Move → Option Bool
  | .receive leader => some leader
  | _ => none

/-- The leadership change that the coordinator has taken last; "not leader" if it has taken none,
and once it has learnt that the work is called off. -/
def lastReceived (moves : List Move) : Bool :=
  if .drain ∈ moves then false else ((moves.filterMap Move.received?).getLast?).getD false

/-- As long as the coordinator has not given up, what a further move wants is received last. -/
lemma lastReceived_concat {moves : List Move} {m : Move} (going : .drain ∉ moves) :
    lastReceived (moves ++ [m]) = m.desires?.getD (lastReceived moves) := by
  cases m <;> simp [lastReceived, going, Move.received?, Move.desires?]

/-- Once the coordinator has given up, "not leader" counts as received last. -/
lemma lastReceived_of_drain {moves : List Move} (drained : .drain ∈ moves) :
    lastReceived moves = false :=
  if_pos drained

/-! ### The cell is what was received last -/

/-- A coordinator that has stopped listening does not listen again. -/
lemma not_listening_of_move {s t : Convergence} {m : Move} (h : s.move? m = some t)
    (deaf : s.duty ≠ .listening) : t.duty ≠ .listening := by
  rcases move?_cases h with ⟨r, turn, rfl⟩ | aside
  · exact deaf
  · cases aside with
    | receive leader _ =>
        rw [duty_receive]
        exact deaf
    | drain _ _ => nofun
    | join _ _ => nofun
    | joinCrashed _ _ => nofun
    | abandon _ => nofun
    | _ => exact deaf

/-- A coordinator that gives up stops listening. -/
lemma not_listening_of_drain {s t : Convergence} (h : s.move? .drain = some t) :
    t.duty ≠ .listening := by
  obtain ⟨-, rfl⟩ := of_guard h
  nofun

/-- A coordinator that does not listen wants nothing any more. -/
lemma desires?_of_not_listening {s t : Convergence} {m : Move} (h : s.move? m = some t)
    (deaf : s.duty ≠ .listening) : m.desires? = none := by
  rcases move?_cases h with ⟨r, turn, -⟩ | aside
  · exact turn.desires?
  · cases aside with
    | receive leader listening =>
        simp only [isListening, Bool.and_eq_true, decide_eq_true_eq] at listening
        exact absurd listening.1 deaf
    | drain listening _ => exact absurd listening deaf
    | _ => rfl

/-- The cell holds what was received last, and a coordinator that has given up does not listen. -/
structure HoldsLast (moves : List Move) (s : Convergence) : Prop where
  /-- The cell holds what was received last. -/
  value : s.cell.value = lastReceived moves
  /-- Nothing is received after the coordinator has given up. -/
  deaf : .drain ∈ moves → s.duty ≠ .listening

/-- A further move keeps in the cell what was received last. -/
lemma HoldsLast.of_move {moves : List Move} {s t : Convergence} {m : Move}
    (holds : HoldsLast moves s) (h : s.move? m = some t) : HoldsLast (moves ++ [m]) t := by
  constructor
  · rw [value_of_move h, holds.value]
    by_cases drained : .drain ∈ moves
    · have still : .drain ∈ moves ++ [m] := List.mem_append_left _ drained
      rw [desires?_of_not_listening h (holds.deaf drained), lastReceived_of_drain drained,
        lastReceived_of_drain still]
      rfl
    · exact (lastReceived_concat drained).symm
  · intro drained
    rcases List.mem_append.mp drained with before | now
    · exact not_listening_of_move h (holds.deaf before)
    · rw [List.mem_singleton] at now
      subst now
      exact not_listening_of_drain h

/-- **In every state of every run the cell holds what was received last.** -/
theorem value_eq_lastReceived {recheck : Nat} {moves : List Move} {s : Convergence}
    (run : (Convergence.new recheck).run? moves = some s) : s.cell.value = lastReceived moves := by
  refine (run_induction (P := HoldsLast) ⟨rfl, ?_⟩ ?_ run).value
  · intro drained
    cases drained
  · intro moves s m t _ holds h
    exact holds.of_move h

/-! ### Every pass compares with it -/

/-- Where a pass goes on from what it has found and what is desired: it rests if the two agree, and
otherwise probes before the address is added, or removes it. -/
def Phase.afterLook (actual desired : Bool) : Phase :=
  if actual = desired then .resting else if desired then .probing else .withdrawing

/-- An answer to the question makes the reconciler look at the cell as it is, and go on from what it
finds there. -/
lemma Turn.looks {s : Convergence} {a : Answer} {r : Reconciler} (turn : Turn s (.answer a) r)
    (querying : s.reconciler.phase = .querying) (whole : a ≠ .broke) :
    r.desired = s.cell.value ∧ ∀ actual, a = .present actual →
      r.told = .compared actual s.cell.value :: s.reconciler.told ∧
        r.phase = .afterLook actual s.cell.value := by
  cases turn with
  | agree _ actual same =>
      refine ⟨rfl, ?_⟩
      rintro _ ⟨⟩
      exact ⟨rfl, (if_pos same).symm⟩
  | probe _ desired =>
      refine ⟨rfl, ?_⟩
      rintro _ ⟨⟩
      rw [desired]
      exact ⟨rfl, rfl⟩
  | withdraw _ undesired =>
      refine ⟨rfl, ?_⟩
      rintro _ ⟨⟩
      rw [undesired]
      exact ⟨rfl, rfl⟩
  | unknown _ _ => exact ⟨rfl, nofun⟩
  | broke _ _ => exact absurd rfl whole
  | defer other | claim other => cases querying.symm.trans other
  | claimed other _ | claimFailed other _ => cases querying.symm.trans other
  | withdrawn other _ | withdrawFailed other _ => cases querying.symm.trans other
  | released other _ | releaseFailed other _ => cases querying.symm.trans other

/-- **A pass compares with what was received last.**  Whenever in a run the question whether the
address is there is answered, the desired state that the pass takes down is the leadership change
that the coordinator has taken last up to that moment: "not leader" if it has taken none or has given
up, and no matter what was published, rechecked or overwritten while the question was open or
whether the stream is still open.  The answer is compared with it, and the pass goes on from the
two. -/
theorem snapshot_is_last_received {recheck : Nat} {moves : List Move} {s t : Convergence}
    {a : Answer} (run : (Convergence.new recheck).run? moves = some s)
    (asking : s.reconciler.phase.call? = some .query) (whole : a ≠ .broke)
    (h : s.move? (.answer a) = some t) :
    t.reconciler.desired = lastReceived moves ∧ ∀ actual, a = .present actual →
      t.reconciler.told = .compared actual (lastReceived moves) :: s.reconciler.told ∧
        t.reconciler.phase = .afterLook actual (lastReceived moves) := by
  rw [← value_eq_lastReceived run]
  rcases move?_cases h with ⟨r, turn, rfl⟩ | aside
  · exact turn.looks (Phase.querying_of_query asking) whole
  · cases aside

/-- A run in which leadership is won, rechecked, lost and won again while the question is open, and
the stream then ends. -/
def flipsWhileAsking : List Move :=
  [.receive true, .begin, .receive false, .elapse 10000, .recheck, .receive true, .receive true,
    .hangUp]

/-- After these flips the pass compares with "leader". -/
theorem snapshot_is_last_received_flipsWhileAsking :
    ∃ s t, (Convergence.new 10000).run? flipsWhileAsking = some s ∧
      s.reconciler.phase.call? = some .query ∧ s.move? (.answer (.present false)) = some t ∧
      lastReceived flipsWhileAsking = true ∧ t.reconciler.desired = true ∧
      t.reconciler.phase = .probing := by
  have compared := @snapshot_is_last_received 10000 flipsWhileAsking _ _ (.present false) rfl rfl
    nofun rfl
  have last : lastReceived flipsWhileAsking = true := by decide
  obtain ⟨desired, goesOn⟩ := compared
  exact ⟨_, _, rfl, rfl, rfl, last, desired.trans last,
    (goesOn false rfl).2.trans (congrArg (Phase.afterLook false) last)⟩

end FloatingIp.Convergence
