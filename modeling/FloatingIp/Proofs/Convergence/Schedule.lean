import FloatingIp.Proofs.Convergence.Shutdown
import Mathlib.Data.List.TakeWhile

/-!
# When rechecks are made

A recheck is what repairs a change of the host that nobody tells of, so rechecks have to come at
their times whatever else goes on.  They do: up to the moment in which the work is called off they
are made at the multiples of the interval, each once, and none is early, late or left out
(`rechecks_on_schedule`).

The next recheck is set an interval away from the moment in which one is made, so a single late one
would shift all that follow.  That none is late rests on the coordinator: until the work is called
off it listens, in every run (`listening_of_run`), and as long as it listens time does not pass a
recheck that is due.  `OnSchedule` ties the number of rechecks made to the next one, and it is kept
by every move.
-/

namespace FloatingIp.Convergence

/-! ### The coordinator listens -/

/-- The coordinator waits for the end only once the work is called off. -/
lemma off_of_draining {recheck : Nat} {moves : List Move} {s : Convergence}
    (run : (Convergence.new recheck).run? moves = some s) (draining : s.duty = .draining) :
    s.cancelled = true := by
  revert draining
  refine of_run (P := fun s : Convergence => s.duty = .draining → s.cancelled = true) ?_
    (fun start => by cases start) run
  intro s t m off h draining
  have still (before : s.duty = .draining) : t.cancelled = true :=
    (cancelled_of_move h).mpr (.inl (off before))
  rcases move?_cases h with ⟨r, turn, rfl⟩ | aside
  · exact still draining
  · cases aside with
    | receive leader _ =>
        rw [duty_receive] at draining
        exact still draining
    | drain _ off => exact off
    | join _ _ => cases draining
    | joinCrashed _ _ => cases draining
    | abandon _ => cases draining
    | _ => exact still draining

/-- **Until the work is called off the coordinator listens**, in a run in which no call breaks down
and the coordinator is not dropped. -/
theorem listening_of_run {recheck : Nat} {moves : List Move} {s : Convergence}
    (run : (Convergence.new recheck).run? moves = some s) (whole : .answer .broke ∉ moves)
    (kept : .abandon ∉ moves) (going : .cancel ∉ moves) : s.duty = .listening := by
  have active : s.cancelled ≠ true := by
    intro off
    rcases (cancelled_of_run run).mp off with early | called
    · cases early
    · exact going called
  have here : s.duty ≠ .abandoned := not_abandoned_of_run run kept
  cases duty : s.duty with
  | listening => rfl
  | draining => exact absurd (off_of_draining run duty) active
  | abandoned => exact absurd duty here
  | returned stats time =>
      -- a coordinator that has returned has outlived the reconciler, which has no reason to end
      have reason := endsForReason_of_run run
      have ended := reason.returned stats time duty
      cases phase : s.reconciler.phase with
      | stopped => exact absurd (reason.stopped phase) (not_or.mpr ⟨active, here⟩)
      | crashed => exact absurd phase (not_crashed_of_run run whole)
      | _ => rw [phase] at ended; cases ended

/-! ### The clock -/

/-- What the coordinator knows of time: the hour, the interval, and when the next recheck is due. -/
def clock (s : Convergence) : Nat × Nat × Nat :=
  (s.now, s.interval, s.nextRecheck)

/-- A leadership change leaves the clock alone. -/
lemma clock_receive (s : Convergence) (leader : Bool) : (s.receive leader).clock = s.clock := by
  unfold receive
  dsimp only
  split <;> rfl

/-- The clock goes on by a recheck or as time passes; no other move touches it. -/
lemma clock_of_move {s t : Convergence} {m : Move} (h : s.move? m = some t) (idle : m ≠ .recheck)
    (timeless : ∀ millis, m ≠ .elapse millis) : t.clock = s.clock := by
  rcases move?_cases h with ⟨r, turn, rfl⟩ | aside
  · rfl
  · cases aside with
    | receive leader _ => exact clock_receive s leader
    | recheck _ _ => exact absurd rfl idle
    | elapse millis _ => exact absurd rfl (timeless millis)
    | _ => rfl

/-! ### Rechecks at multiples of the interval -/

/-- The moment of a move, if it is a recheck. -/
def recheckTime? (s : Convergence) : Move → Option Nat
  | .recheck => some s.now
  | _ => none

/-- The moments of the rechecks of a run, in order. -/
def recheckTimes (s : Convergence) (moves : List Move) : List Nat :=
  along move? recheckTime? s moves

/-- The first `n` multiples of a number, from the number itself on. -/
def multiples (every n : Nat) : List Nat :=
  (List.range n).map fun k => (k + 1) * every

/-- One more multiple comes last. -/
lemma multiples_succ (every n : Nat) :
    multiples every (n + 1) = multiples every n ++ [(n + 1) * every] := by
  simp [multiples, List.range_succ]

/-- Another move than a recheck has no moment among the rechecks. -/
lemma recheckTime?_of_ne {m : Move} (s : Convergence) (idle : m ≠ .recheck) :
    s.recheckTime? m = none := by
  cases m with
  | recheck => exact absurd rfl idle
  | _ => rfl

/-- The rechecks that were made, at the moments `made`, are on schedule: they were made at the
first multiples of the interval, the next multiple is due next, and it has not passed. -/
structure OnSchedule (every : Nat) (made : List Nat) (s : Convergence) : Prop where
  /-- The interval is kept. -/
  interval : s.interval = every
  /-- Rechecks were made at the first multiples of the interval. -/
  times : made = multiples every made.length
  /-- The next recheck is due at the next multiple. -/
  due : s.nextRecheck = (made.length + 1) * every
  /-- The last recheck is not to come. -/
  passed : made.length * every ≤ s.now
  /-- The next recheck is not overdue. -/
  inTime : s.now ≤ s.nextRecheck

/-- A recheck that is due is on schedule, and so is the next one. -/
lemma OnSchedule.of_recheck {every : Nat} {made : List Nat} {s t : Convergence}
    (on : OnSchedule every made s) (h : s.move? .recheck = some t) :
    OnSchedule every (made ++ [s.now]) t := by
  obtain ⟨⟨-, due⟩, rfl⟩ := of_guard h
  have now : s.now = (made.length + 1) * every := by
    rw [← on.due]
    exact Nat.le_antisymm on.inTime due
  constructor
  · exact on.interval
  · rw [List.length_append, List.length_singleton, multiples_succ, ← on.times, now]
  · show s.now + s.interval = _
    rw [List.length_append, List.length_singleton, on.interval, now, ← Nat.succ_mul]
  · show _ ≤ s.now
    rw [List.length_append, List.length_singleton]
    exact Nat.le_of_eq now.symm
  · exact Nat.le_add_right s.now s.interval

/-- As time passes for a coordinator that listens, no recheck is left out. -/
lemma OnSchedule.of_elapse {every millis : Nat} {made : List Nat} {s t : Convergence}
    (on : OnSchedule every made s) (listening : s.duty = .listening)
    (h : s.move? (.elapse millis) = some t) : OnSchedule every made t := by
  obtain ⟨early, rfl⟩ := of_bar h
  have inTime : s.now + millis ≤ s.nextRecheck :=
    Nat.le_of_not_lt fun late => early ⟨listening, late⟩
  exact ⟨on.interval, on.times, on.due, Nat.le_add_right_of_le on.passed, inTime⟩

/-- A move that does not touch the clock leaves the schedule as it is. -/
lemma OnSchedule.of_clock {every : Nat} {made : List Nat} {s t : Convergence}
    (on : OnSchedule every made s) (same : t.clock = s.clock) : OnSchedule every made t := by
  obtain ⟨now, same⟩ := Prod.mk.inj same
  obtain ⟨interval, due⟩ := Prod.mk.inj same
  exact ⟨interval ▸ on.interval, on.times, due ▸ on.due, now ▸ on.passed, now ▸ due ▸ on.inTime⟩

/-- Every move of a coordinator that listens keeps the schedule. -/
lemma OnSchedule.of_move {every : Nat} {made : List Nat} {s t : Convergence} {m : Move}
    (on : OnSchedule every made s) (listening : s.duty = .listening) (h : s.move? m = some t) :
    OnSchedule every (made ++ (s.recheckTime? m).toList) t := by
  by_cases recheck : m = .recheck
  · subst recheck
    exact on.of_recheck h
  · rw [recheckTime?_of_ne s recheck, Option.toList_none, List.append_nil]
    by_cases elapse : ∃ millis, m = .elapse millis
    · obtain ⟨millis, rfl⟩ := elapse
      exact on.of_elapse listening h
    · exact on.of_clock (clock_of_move h recheck (not_exists.mp elapse))

/-- Up to the moment in which the work is called off, every run keeps the schedule. -/
theorem onSchedule_of_run {recheck : Nat} {moves : List Move} {s : Convergence}
    (run : (Convergence.new recheck).run? moves = some s) (whole : .answer .broke ∉ moves)
    (kept : .abandon ∉ moves) (going : .cancel ∉ moves) :
    OnSchedule (max recheck 10) ((Convergence.new recheck).recheckTimes moves) s := by
  revert whole kept going
  refine run_induction (P := fun moves s => .answer .broke ∉ moves → .abandon ∉ moves →
    .cancel ∉ moves →
    OnSchedule (max recheck 10) ((Convergence.new recheck).recheckTimes moves) s) ?_ ?_ run
  · intro _ _ _
    exact ⟨rfl, rfl, (Nat.one_mul _).symm, Nat.le_of_eq (Nat.zero_mul _), Nat.zero_le _⟩
  · intro moves s m t run earlier h whole kept going
    simp only [List.mem_append, not_or] at whole kept going
    have on := earlier whole.1 kept.1 going.1
    have listening := listening_of_run run whole.1 kept.1 going.1
    rw [recheckTimes, along_concat run h]
    exact on.of_move listening h

/-- Where the schedule is kept and the coordinator listens, time can pass up to the next recheck,
and the recheck can be made. -/
lemma OnSchedule.exists_next {every : Nat} {made : List Nat} {s : Convergence}
    (on : OnSchedule every made s) (listening : s.duty = .listening) :
    ∃ t, s.run? [.elapse ((made.length + 1) * every - s.now), .recheck] = some t := by
  have wait : s.now + ((made.length + 1) * every - s.now) = s.nextRecheck := by
    rw [← on.due]
    exact Nat.add_sub_cancel' on.inTime
  have elapse : s.move? (.elapse ((made.length + 1) * every - s.now)) =
      some { s with now := s.nextRecheck } := by
    rw [move?, wait, if_neg fun late => Nat.lt_irrefl _ late.2]
  have recheck : ∃ t, ({ s with now := s.nextRecheck } : Convergence).move? .recheck = some t :=
    ⟨_, if_pos ⟨listening, Nat.le_refl _⟩⟩
  obtain ⟨t, recheck⟩ := recheck
  exact ⟨t, run_cons.mpr ⟨_, elapse, run_cons.mpr ⟨t, recheck, rfl⟩⟩⟩

/-! ### Every run has its rechecks on schedule -/

/-- The moves of a run up to the moment in which the work is called off. -/
def untilCancelled (moves : List Move) : List Move :=
  moves.takeWhile (· ≠ .cancel)

/-- A run can be followed up to the moment in which the work is called off. -/
lemma exists_run_untilCancelled {s t : Convergence} {moves : List Move}
    (run : s.run? moves = some t) : ∃ u, s.run? (untilCancelled moves) = some u := by
  rw [← List.takeWhile_append_dropWhile (p := (· ≠ .cancel)) (l := moves)] at run
  obtain ⟨u, early, -⟩ := run_append.mp run
  exact ⟨u, early⟩

/-- The work is not called off before it is. -/
lemma cancel_not_mem_untilCancelled (moves : List Move) : .cancel ∉ untilCancelled moves := by
  intro called
  simpa using List.mem_takeWhile_imp called

/-- **Rechecks are made on schedule.**  In every run in which no call breaks down and the
coordinator is not dropped, up to the moment in which the work is called off: the rechecks are made
at the multiples of the interval, each once, none at the beginning, and none that has passed is left
out.  The next one can always be reached, whatever the stream brings and whatever the reconciler
waits for.  And no recheck changes what is desired; it is a write all the same, which wakes the
reconciler. -/
theorem rechecks_on_schedule {recheck : Nat} {moves : List Move} {s : Convergence}
    (run : (Convergence.new recheck).run? moves = some s) (whole : .answer .broke ∉ moves)
    (kept : .abandon ∉ moves) :
    (∃ u n, (Convergence.new recheck).run? (untilCancelled moves) = some u ∧
      (Convergence.new recheck).recheckTimes (untilCancelled moves) =
        multiples (max recheck 10) n ∧
      n * max recheck 10 ≤ u.now ∧ u.now ≤ (n + 1) * max recheck 10 ∧
      ∃ v, u.run? [.elapse ((n + 1) * max recheck 10 - u.now), .recheck] = some v) ∧
    ∀ before u v, ComesTo move? (Convergence.new recheck) moves before u .recheck →
      u.move? .recheck = some v →
        v.cell.value = u.cell.value ∧ v.cell.writes = u.cell.writes + 1 := by
  constructor
  · obtain ⟨u, early⟩ := exists_run_untilCancelled run
    have among {m : Move} (other : m ∉ moves) : m ∉ untilCancelled moves :=
      fun mem => other ((List.takeWhile_sublist _).mem mem)
    have going := cancel_not_mem_untilCancelled moves
    have on := onSchedule_of_run early (among whole) (among kept) going
    have next := on.exists_next (listening_of_run early (among whole) (among kept) going)
    have inTime := on.inTime
    rw [on.due] at inTime
    exact ⟨u, _, early, on.times, on.passed, inTime, next⟩
  · intro before u v _ h
    obtain ⟨-, rfl⟩ := of_guard h
    exact ⟨rfl, rfl⟩

/-- A run in which the first question is never answered, leadership changes come between rechecks
and the stream ends, until the work is called off just before a recheck. -/
def hungWhileChanging : List Move :=
  [.begin, .elapse 4, .receive true, .elapse 6, .receive false, .recheck, .elapse 3, .hangUp,
    .elapse 7, .recheck, .elapse 9, .cancel, .elapse 1, .recheck, .drain]

/-- In this run rechecks asked for every 3 milliseconds are made at 10 and 20. -/
theorem rechecks_on_schedule_hungWhileChanging :
    ∃ s, (Convergence.new 3).run? hungWhileChanging = some s ∧
      .answer .broke ∉ hungWhileChanging ∧ .abandon ∉ hungWhileChanging ∧
      (Convergence.new 3).recheckTimes (untilCancelled hungWhileChanging) = [10, 20] ∧
      ∃ u n, (Convergence.new 3).run? (untilCancelled hungWhileChanging) = some u ∧
        (Convergence.new 3).recheckTimes (untilCancelled hungWhileChanging) =
          multiples (max 3 10) n ∧
        n * max 3 10 ≤ u.now ∧ u.now ≤ (n + 1) * max 3 10 ∧
        ∃ v, u.run? [.elapse ((n + 1) * max 3 10 - u.now), .recheck] = some v := by
  have schedule := @rechecks_on_schedule 3 hungWhileChanging _ rfl (by decide) (by decide)
  exact ⟨_, rfl, by decide, by decide, by decide, schedule.1⟩

end FloatingIp.Convergence
