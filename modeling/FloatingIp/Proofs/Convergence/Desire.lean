import FloatingIp.Proofs.Convergence.Turn

/-!
# What is desired after a run

The desired state is what the coordinator took last, a leadership change or, once the work is
called off, its own "not leader"; rechecks and everything that the reconciler does leave it alone.
Whether the work is called off depends on the moves alone in the same way.
-/

namespace FloatingIp.Convergence

/-- What a move wants the desired state to be, if it says. -/
def Move.desires? : Move → Option Bool
  | .receive leader => some leader
  | .drain => some false
  | _ => none

/-- What is desired after moves, where `desired` was before: what the last move that says wants. -/
def desiredAfter (desired : Bool) (moves : List Move) : Bool :=
  (moves.filterMap Move.desires?).getLast?.getD desired

/-- The first move decides where the others start from. -/
lemma desiredAfter_cons (desired : Bool) (m : Move) (moves : List Move) :
    desiredAfter desired (m :: moves) = desiredAfter (m.desires?.getD desired) moves := by
  cases h : m.desires? with
  | none => simp [desiredAfter, h]
  | some leader => simp [desiredAfter, h, List.getLast?_cons]

/-- A turn of the reconciler wants nothing. -/
lemma Turn.desires? {s : Convergence} {m : Move} {r : Reconciler} (turn : Turn s m r) :
    m.desires? = none := by
  cases turn <;> rfl

/-- After a move the desired state is what the move wants, or what it was. -/
lemma value_of_move {s t : Convergence} {m : Move} (h : s.move? m = some t) :
    t.cell.value = m.desires?.getD s.cell.value := by
  rcases move?_cases h with ⟨r, turn, rfl⟩ | aside
  · rw [turn.desires?]
    rfl
  · cases aside with
    | receive leader _ =>
        rw [cell_receive]
        exact Cell.value_publish s.cell leader
    | _ => rfl

/-- **The desired state is what was taken last.** -/
theorem value_of_run {s t : Convergence} {moves : List Move} (run : s.run? moves = some t) :
    t.cell.value = desiredAfter s.cell.value moves := by
  induction moves generalizing s with
  | nil =>
      cases run
      rfl
  | cons m moves ih =>
      obtain ⟨u, hu, hrun⟩ := run_cons.mp run
      rw [ih hrun, value_of_move hu, desiredAfter_cons]

/-- After a move the work is called off if it was or if the move calls it off. -/
lemma cancelled_of_move {s t : Convergence} {m : Move} (h : s.move? m = some t) :
    t.cancelled = true ↔ s.cancelled = true ∨ m = .cancel := by
  rcases move?_cases h with ⟨r, turn, rfl⟩ | aside
  · have other : m ≠ .cancel := by
      rintro rfl
      cases turn
    simp [turned, other]
  · cases aside with
    | receive leader _ =>
        have same : (s.receive leader).cancelled = s.cancelled := by
          unfold receive
          dsimp only
          split <;> rfl
        simp [same]
    | cancel _ => simp
    | _ => simp [tell, drain]

/-- The coordinator gives up its desire only once the work is called off. -/
lemma over_of_drain {s t : Convergence} (h : s.move? .drain = some t) : s.cancelled = true := by
  rcases move?_cases h with ⟨r, turn, -⟩ | aside
  · cases turn
  · cases aside with
    | drain _ off => exact off

/-- The work is called off by one of the moves, or was before. -/
theorem cancelled_of_run {s t : Convergence} {moves : List Move} (run : s.run? moves = some t) :
    t.cancelled = true ↔ s.cancelled = true ∨ .cancel ∈ moves :=
  mark_of_run (P := fun s : Convergence => s.cancelled = true) cancelled_of_move run

end FloatingIp.Convergence
