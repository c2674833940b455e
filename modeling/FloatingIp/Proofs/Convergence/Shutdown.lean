import FloatingIp.Proofs.Convergence.Closing

/-!
# Shutting down

Once the work is called off, the pass in progress runs to its end, the address is released in one
more call, and nothing follows; then, and only then, the coordinator returns
(`shutdown_releases_once`).

What the calls are is the matter of `Closing`.  Here it is shown that nothing of this comes before
its time (`EndsForReason`), and that the end comes: every effort of the two parties lowers `rank`,
nothing raises it, and until the coordinator has returned there is an effort to make.
-/

namespace FloatingIp.Convergence

/-! ### Nothing of it before its time -/

/-- A reconciler that has not broken down does so only by an answer that breaks. -/
lemma not_crashed_of_move {s t : Convergence} {m : Move} (h : s.move? m = some t)
    (sound : s.reconciler.phase ≠ .crashed) (whole : m ≠ .answer .broke) :
    t.reconciler.phase ≠ .crashed := by
  rcases move?_cases h with ⟨r, turn, rfl⟩ | aside
  · show r.phase ≠ .crashed
    cases turn with
    | begin _ => exact Reconciler.phase_nextPass_ne nofun nofun
    | claimed _ _ => exact Reconciler.phase_nextPass_ne nofun nofun
    | withdrawn _ _ => exact Reconciler.phase_nextPass_ne nofun nofun
    | broke _ _ => exact absurd rfl whole
    | _ => nofun
  · rw [aside.reconciler]
    exact sound

/-- No reconciler breaks down in a run without an answer that breaks. -/
lemma not_crashed_of_run {recheck : Nat} {moves : List Move} {s : Convergence}
    (run : (Convergence.new recheck).run? moves = some s) (whole : .answer .broke ∉ moves) :
    s.reconciler.phase ≠ .crashed :=
  of_run_without (P := fun s => s.reconciler.phase ≠ .crashed)
    (fun sound whole h => not_crashed_of_move h sound whole) (fun start => by cases start) run
    whole

/-- The reconciler releases the address for good only where the work is called off or the
coordinator was dropped, and the coordinator returns only after the reconciler has ended. -/
structure EndsForReason (s : Convergence) : Prop where
  /-- Why the address is being released. -/
  releasing : s.reconciler.phase = .releasing → s.cancelled = true ∨ s.duty = .abandoned
  /-- Why the reconciler has ended. -/
  stopped : s.reconciler.phase = .stopped → s.cancelled = true ∨ s.duty = .abandoned
  /-- When the coordinator has returned. -/
  returned : ∀ stats time, s.duty = .returned stats time → s.reconciler.phase.isOver = true

/-- A coordinator that does not run any more has returned or was dropped. -/
lemma Duty.of_not_running {d : Duty} (idle : d.isRunning = false) :
    d = .abandoned ∨ ∃ stats time, d = .returned stats time := by
  cases d with
  | abandoned => exact .inl rfl
  | returned stats time => exact .inr ⟨stats, time, rfl⟩
  | _ => cases idle

/-- A turn into the release has its reason. -/
lemma Turn.reason_of_releasing {s : Convergence} {m : Move} {r : Reconciler} (turn : Turn s m r)
    (reason : s.EndsForReason) (releasing : r.phase = .releasing) :
    s.cancelled = true ∨ s.duty = .abandoned := by
  cases turn with
  | begin _ => exact .inl (Reconciler.over_of_releasing releasing)
  | again _ _ _ => cases releasing
  | claimed _ _ => exact .inl (Reconciler.over_of_releasing releasing)
  | withdrawn _ _ => exact .inl (Reconciler.over_of_releasing releasing)
  | release resting off =>
      rcases off with off | ⟨-, closed⟩
      · exact .inl off
      · -- a coordinator that has returned has outlived the reconciler
        rcases Duty.of_not_running (by simpa [isClosed] using closed) with dropped | ⟨st, ti, back⟩
        · exact .inr dropped
        · have ended := reason.returned st ti back
          rw [resting] at ended
          cases ended
  | _ => cases releasing

/-- A turn into the end has its reason. -/
lemma Turn.reason_of_stopped {s : Convergence} {m : Move} {r : Reconciler} (turn : Turn s m r)
    (reason : s.EndsForReason) (stopped : r.phase = .stopped) :
    s.cancelled = true ∨ s.duty = .abandoned := by
  cases turn with
  | begin _ => exact absurd stopped (Reconciler.phase_nextPass_ne nofun nofun)
  | claimed _ _ => exact absurd stopped (Reconciler.phase_nextPass_ne nofun nofun)
  | withdrawn _ _ => exact absurd stopped (Reconciler.phase_nextPass_ne nofun nofun)
  | released releasing _ => exact reason.releasing releasing
  | releaseFailed releasing _ => exact reason.releasing releasing
  | _ => cases stopped

/-- A reconciler that has ended takes no turn. -/
lemma Turn.not_over {s : Convergence} {m : Move} {r : Reconciler} (turn : Turn s m r) :
    s.reconciler.phase.isOver = false := by
  cases turn with
  | broke call busy =>
      cases phase : s.reconciler.phase <;> rw [phase] at busy <;> first | rfl | cases busy
  | _ => simp [*, Phase.isOver]

/-- A coordinator that has returned found the reconciler at its end. -/
lemma Aside.over_of_returned {s t : Convergence} {m : Move} (aside : Aside s m t)
    (reason : s.EndsForReason) {stats : Stats} {time : Nat}
    (returned : t.duty = .returned stats time) : s.reconciler.phase.isOver = true := by
  cases aside with
  | receive leader listening =>
      rw [duty_receive] at returned
      exact reason.returned stats time returned
  | drain _ _ => cases returned
  | join _ stopped => rw [stopped]; rfl
  | joinCrashed _ crashed => rw [crashed]; rfl
  | abandon _ => cases returned
  | _ => exact reason.returned stats time returned

/-- A coordinator that was dropped does not come back. -/
lemma Aside.abandoned {s t : Convergence} {m : Move} (aside : Aside s m t)
    (dropped : s.duty = .abandoned) : t.duty = .abandoned := by
  cases aside with
  | receive leader _ => rw [duty_receive, dropped]
  | drain listening _ => rw [dropped] at listening; cases listening
  | join running _ => rw [dropped] at running; cases running
  | joinCrashed running _ => rw [dropped] at running; cases running
  | abandon _ => rfl
  | _ => exact dropped

/-- Every move has its reasons. -/
lemma EndsForReason.of_move {s t : Convergence} {m : Move} (reason : s.EndsForReason)
    (h : s.move? m = some t) : t.EndsForReason := by
  rcases move?_cases h with ⟨r, turn, rfl⟩ | aside
  · refine ⟨turn.reason_of_releasing reason, turn.reason_of_stopped reason, ?_⟩
    intro stats time returned
    have ended := reason.returned stats time returned
    rw [turn.not_over] at ended
    cases ended
  · have still (because : s.cancelled = true ∨ s.duty = .abandoned) :
        t.cancelled = true ∨ t.duty = .abandoned := by
      rcases because with off | dropped
      · exact .inl ((cancelled_of_move h).mpr (.inl off))
      · exact .inr (aside.abandoned dropped)
    constructor
    · intro releasing
      rw [aside.reconciler] at releasing
      exact still (reason.releasing releasing)
    · intro stopped
      rw [aside.reconciler] at stopped
      exact still (reason.stopped stopped)
    · intro stats time returned
      rw [aside.reconciler]
      exact aside.over_of_returned reason returned

/-- In every run the release and the end have their reasons. -/
lemma endsForReason_of_run {recheck : Nat} {moves : List Move} {s : Convergence}
    (run : (Convergence.new recheck).run? moves = some s) : s.EndsForReason := by
  refine of_run (P := EndsForReason) EndsForReason.of_move ?_ run
  constructor
  · intro releasing
    cases releasing
  · intro stopped
    cases stopped
  · intro stats time returned
    cases returned


/-! ### The end comes -/

/-- How many turns the reconciler may still take, from a phase on, once the work is called off. -/
def Phase.rank : Phase → Nat
  | .querying => 5
  | .probing => 4
  | .claiming => 3
  | .withdrawing => 3
  | .starting => 2
  | .resting => 2
  | .releasing => 1
  | .stopped => 0
  | .crashed => 0

/-- How many steps to its return the coordinator may still take. -/
def Duty.rank : Duty → Nat
  | .listening => 2
  | .draining => 1
  | .returned _ _ => 0
  | .abandoned => 0

/-- How far it is to the end at most. -/
def rank (s : Convergence) : Nat :=
  s.reconciler.phase.rank + s.duty.rank

/-- Whether a move is an effort of one of the two parties towards the end: a turn of the
reconciler, or a step of the coordinator to its return. -/
def Move.isEffort : Move → Bool
  | .drain => true
  | .join => true
  | m => m.isTurn

/-- It is never far to the end. -/
lemma rank_le (s : Convergence) : s.rank ≤ 7 := by
  have phase : s.reconciler.phase.rank ≤ 5 := by
    cases s.reconciler.phase <;> decide
  have duty : s.duty.rank ≤ 2 := by
    cases s.duty <;> simp [Duty.rank]
  unfold rank
  omega

/-- A turn leads closer to the end, once the work is called off. -/
lemma Turn.rank_lt {s : Convergence} {m : Move} {r : Reconciler} (turn : Turn s m r)
    (off : s.cancelled = true) : r.phase.rank < s.reconciler.phase.rank := by
  have lower (p q : Phase) (before : s.reconciler.phase = p) (after : r.phase = q)
      (closer : q.rank < p.rank) : r.phase.rank < s.reconciler.phase.rank := by
    rw [before, after]
    exact closer
  have next (r : Reconciler) : (r.nextPass s.cancelled).phase = .releasing :=
    Reconciler.releasing_of_over off
  cases turn with
  | begin starting => exact lower .starting .releasing starting (next _) (by decide)
  | release resting _ => exact lower .resting .releasing resting rfl (by decide)
  | again _ active _ => rw [off] at active; cases active
  | agree querying _ _ => exact lower .querying .resting querying rfl (by decide)
  | probe querying _ => exact lower .querying .probing querying rfl (by decide)
  | withdraw querying _ => exact lower .querying .withdrawing querying rfl (by decide)
  | unknown querying _ => exact lower .querying .resting querying rfl (by decide)
  | defer probing => exact lower .probing .resting probing rfl (by decide)
  | claim probing => exact lower .probing .claiming probing rfl (by decide)
  | claimed claiming _ => exact lower .claiming .releasing claiming (next _) (by decide)
  | claimFailed claiming _ => exact lower .claiming .resting claiming rfl (by decide)
  | withdrawn withdrawing _ =>
      exact lower .withdrawing .releasing withdrawing (next _) (by decide)
  | withdrawFailed withdrawing _ =>
      exact lower .withdrawing .resting withdrawing rfl (by decide)
  | released releasing _ => exact lower .releasing .stopped releasing rfl (by decide)
  | releaseFailed releasing _ => exact lower .releasing .stopped releasing rfl (by decide)
  | broke call busy =>
      show 0 < s.reconciler.phase.rank
      cases phase : s.reconciler.phase <;> rw [phase] at busy <;> first | decide | cases busy

/-- A coordinator that runs has a step to take. -/
lemma Duty.rank_pos {d : Duty} (running : d.isRunning = true) : 0 < d.rank := by
  cases d with
  | listening => decide
  | draining => decide
  | _ => cases running

/-- What else happens leads nowhere but closer to the end, and a step of the coordinator does. -/
lemma Aside.rank_add_le {s t : Convergence} {m : Move} (aside : Aside s m t) :
    t.duty.rank + (if m.isEffort then 1 else 0) ≤ s.duty.rank := by
  cases aside with
  | receive leader _ =>
      rw [duty_receive]
      exact Nat.le_refl _
  | drain listening _ => rw [listening]; exact Nat.le_refl _
  | join running _ => exact Duty.rank_pos running
  | joinCrashed running _ => exact Duty.rank_pos running
  | abandon _ => exact Nat.zero_le _
  | _ => exact Nat.le_refl _

/-- Once the work is called off, no move leads away from the end, and an effort leads closer. -/
lemma rank_of_move {s t : Convergence} {m : Move} (h : s.move? m = some t)
    (off : s.cancelled = true) : t.rank + (if m.isEffort then 1 else 0) ≤ s.rank := by
  rcases move?_cases h with ⟨r, turn, rfl⟩ | aside
  · have closer := turn.rank_lt off
    have effort : (if m.isEffort then 1 else 0) ≤ 1 := by split <;> omega
    show r.phase.rank + s.duty.rank + _ ≤ s.reconciler.phase.rank + s.duty.rank
    omega
  · have closer := aside.rank_add_le
    unfold rank
    rw [aside.reconciler]
    omega

/-- **The parties come to the end**: once the work is called off they make no more efforts than
it was far. -/
theorem rank_of_run {s t : Convergence} {moves : List Move} (run : s.run? moves = some t)
    (off : s.cancelled = true) : t.rank + moves.countP Move.isEffort ≤ s.rank := by
  induction moves generalizing s with
  | nil =>
      cases run
      exact Nat.le_refl _
  | cons m moves ih =>
      obtain ⟨u, hu, hrun⟩ := run_cons.mp run
      have first := rank_of_move hu off
      have others := ih hrun ((cancelled_of_move hu).mpr (.inl off))
      rw [List.countP_cons]
      omega

/-- An answer that an honest host gives to a call, given whether the address is there. -/
def Call.honestAnswer (present : Bool) : Call → Answer
  | .query => .present present
  | .probe => .duplicate false
  | .configure => .changed .applied
  | .deconfigure => .changed .applied

/-- The call that the reconciler is in can be answered by an honest host. -/
lemma answer?_honestAnswer {s : Convergence} {call : Call}
    (busy : s.reconciler.phase.call? = some call) (present : Bool) :
    (s.answer? (call.honestAnswer present)).isSome = true := by
  have goesOn : (s.reconciler.answer? s.cancelled s.cell (call.honestAnswer present)).isSome =
      true := by
    cases phase : s.reconciler.phase <;> rw [phase] at busy <;> cases busy <;>
      simp [Reconciler.answer?, Call.honestAnswer, phase]
  obtain ⟨r, hr⟩ := Option.isSome_iff_exists.mp goesOn
  rw [answer?, busy, hr]
  rfl

/-- Every call can be answered, and not only by a breakdown. -/
lemma exists_answer {s : Convergence} {call : Call}
    (busy : s.reconciler.phase.call? = some call) :
    ∃ a, a ≠ .broke ∧ (s.answer? a).isSome = true := by
  refine ⟨call.honestAnswer true, ?_, answer?_honestAnswer busy true⟩
  cases call <;> nofun

/-- As long as the coordinator runs there is an effort to make: the reconciler can begin, wake, or
have its call answered, or else it has ended and the coordinator can return. -/
lemma exists_effort {s : Convergence} (off : s.cancelled = true)
    (running : s.duty.isRunning = true) (sound : s.reconciler.phase ≠ .crashed) :
    ∃ m, m.isEffort = true ∧ m ≠ .answer .broke ∧ (s.move? m).isSome = true := by
  cases busy : s.reconciler.phase.call? with
  | some call =>
      obtain ⟨a, whole, can⟩ := exists_answer busy
      exact ⟨.answer a, rfl, fun same => whole (Move.answer.inj same), can⟩
  | none =>
      cases phase : s.reconciler.phase with
      | starting =>
          refine ⟨.begin, rfl, by decide, ?_⟩
          rw [move?, if_pos phase]
          rfl
      | resting =>
          refine ⟨.wake, rfl, by decide, ?_⟩
          rw [move?, Reconciler.wake?, if_neg (not_not_intro phase), if_pos off]
          rfl
      | stopped =>
          refine ⟨.join, rfl, by decide, ?_⟩
          rw [move?, join?, if_pos running, phase]
          rfl
      | crashed => exact absurd phase sound
      | _ => rw [phase] at busy; cases busy

/-- Nothing is called any more once the reconciler has stopped. -/
lemma trace_of_stopped {s t : Convergence} {moves : List Move} (run : s.run? moves = some t)
    (stopped : s.reconciler.phase = .stopped) : s.trace moves = [] := by
  induction moves generalizing s with
  | nil => rfl
  | cons m moves ih =>
      obtain ⟨u, hu, hrun⟩ := run_cons.mp run
      rw [trace_cons hu]
      rcases move?_cases hu with ⟨r, turn, rfl⟩ | aside
      · have going := turn.not_over
        rw [stopped] at going
        cases going
      · rw [aside.events, ih hrun (by rw [aside.reconciler, stopped])]
        rfl

/-! ### The shutdown -/

/-- The coordinator is dropped by a move for it only. -/
lemma not_abandoned_of_move {s t : Convergence} {m : Move} (h : s.move? m = some t)
    (here : s.duty ≠ .abandoned) (kept : m ≠ .abandon) : t.duty ≠ .abandoned := by
  rcases move?_cases h with ⟨r, turn, rfl⟩ | aside
  · exact here
  · cases aside with
    | receive leader _ =>
        rw [duty_receive]
        exact here
    | drain _ _ => nofun
    | join _ _ => nofun
    | joinCrashed _ _ => nofun
    | abandon _ => exact absurd rfl kept
    | _ => exact here

/-- In a run in which the coordinator is not dropped it is there. -/
lemma not_abandoned_of_run {recheck : Nat} {moves : List Move} {s : Convergence}
    (run : (Convergence.new recheck).run? moves = some s) (kept : .abandon ∉ moves) :
    s.duty ≠ .abandoned :=
  of_run_without (P := fun s => s.duty ≠ .abandoned)
    (fun here kept h => not_abandoned_of_move h here kept) (fun start => by cases start) run
    kept

/-- When the work is called off, the release has not begun. -/
lemma unreleased_of_cancel {s t : Convergence} (reason : s.EndsForReason)
    (kept : s.duty ≠ .abandoned) (h : s.move? .cancel = some t) :
    t.reconciler.phase ≠ .releasing ∧ t.reconciler.phase ≠ .stopped := by
  rcases move?_cases h with ⟨r, turn, -⟩ | aside
  · cases turn
  · cases aside with
    | cancel active =>
        have early : ¬(s.cancelled = true ∨ s.duty = .abandoned) := by
          rintro (off | dropped)
          · rw [active] at off
            cases off
          · exact kept dropped
        exact ⟨fun releasing => early (reason.releasing releasing),
          fun stopped => early (reason.stopped stopped)⟩

/-- How the work goes on from a state `u` in which it has just been called off, by the moves
`after`, to the state `s`. -/
structure WindsDown (u : Convergence) (after : List Move) (s : Convergence) : Prop where
  /-- No pass is begun. -/
  noQuery : .began .query ∉ u.trace after
  /-- The calls are those of the pass in progress to its end and then the release, up to what is
  still to come, which is nothing once the reconciler has stopped. -/
  orderly : ∃ rest a later, Remainder u.reconciler.phase rest ∧ a.isOfChange = true ∧
    u.trace after ++ later = rest ++ releaseEvents a ∧
    (s.reconciler.phase = .stopped → later = [])
  /-- The end is near. -/
  bounded : after.countP Move.isEffort ≤ 7
  /-- As long as the coordinator has not returned there is a way on. -/
  live : s.duty.isRunning = true →
    ∃ m, m.isEffort = true ∧ m ≠ .answer .broke ∧ (s.move? m).isSome = true

/-- From where the work is called off it winds down. -/
lemma windsDown_of_run {u s : Convergence} {after : List Move} (run : u.run? after = some s)
    (off : u.cancelled = true) (whole : .answer .broke ∉ after)
    (sound : s.reconciler.phase ≠ .crashed) (unreleased : u.reconciler.phase ≠ .releasing)
    (unfinished : u.reconciler.phase ≠ .stopped) : u.WindsDown after s := by
  obtain ⟨later, closing⟩ := exists_closing sound
  have full := closing.of_run run off whole
  constructor
  · intro asked
    exact full.no_query (List.mem_append_left _ asked)
  · obtain ⟨rest, a, remainder, change, same⟩ := full.exists_remainder unreleased unfinished
    refine ⟨rest, a, later, remainder, change, same, ?_⟩
    intro stopped
    rw [stopped] at closing
    exact closing.of_stopped
  · have near := rank_of_run run off
    have close := u.rank_le
    omega
  · intro running
    exact exists_effort ((cancelled_of_run run).mpr (.inl off)) running sound

/-- **One release, and then nothing.**  In a run in which no call breaks down and the coordinator
is not dropped, calls never overlap.  From the moment in which the work is called off it winds
down, whatever the reconciler was in and whatever the coordinator still takes.  The coordinator
returns only when the work was called off and the release has been answered, and no call
follows. -/
theorem shutdown_releases_once {recheck : Nat} {moves : List Move} {s : Convergence}
    (run : (Convergence.new recheck).run? moves = some s) (whole : .answer .broke ∉ moves)
    (kept : .abandon ∉ moves) :
    (Convergence.new recheck).trace moves = inTurn s.calls s.reconciler.phase.call? ∧
      (∀ before after, moves = before ++ .cancel :: after →
        ∃ u, (Convergence.new recheck).run? (before ++ [.cancel]) = some u ∧
          u.WindsDown after s) ∧
      (∀ stats time, s.duty = .returned stats time →
        .cancel ∈ moves ∧ s.reconciler.phase = .stopped ∧
          ∀ more t, s.run? more = some t → s.trace more = []) := by
  have sound := not_crashed_of_run run whole
  refine ⟨trace_eq_inTurn run, ?_, ?_⟩
  · rintro before after rfl
    obtain ⟨v, hbefore, hrun⟩ := run_append.mp run
    obtain ⟨u, hcancel, hafter⟩ := run_cons.mp hrun
    have unreleased := unreleased_of_cancel (endsForReason_of_run hbefore)
      (not_abandoned_of_run hbefore fun h => kept (List.mem_append_left _ h)) hcancel
    refine ⟨u, run_concat.mpr ⟨v, hbefore, hcancel⟩, ?_⟩
    exact windsDown_of_run hafter ((cancelled_of_move hcancel).mpr (.inr rfl))
      (fun h => whole (List.mem_append_right _ (List.mem_cons_of_mem _ h))) sound
      unreleased.1 unreleased.2
  · intro stats time returned
    have reason := endsForReason_of_run run
    have stopped : s.reconciler.phase = .stopped := by
      have ended := reason.returned stats time returned
      cases phase : s.reconciler.phase with
      | stopped => rfl
      | crashed => exact absurd phase sound
      | _ => rw [phase] at ended; cases ended
    refine ⟨?_, stopped, fun more t run => trace_of_stopped run stopped⟩
    rcases reason.stopped stopped with off | dropped
    · rcases (cancelled_of_run run).mp off with early | cancelled
      · cases early
      · exact cancelled
    · exact absurd dropped (not_abandoned_of_run run kept)

/-- A run that is called off during a probe, while a leadership change is still to be taken. -/
def cancelledDuringProbe : List Move :=
  [.begin, .receive true, .answer (.present false), .cancel, .receive false,
    .answer (.duplicate false), .drain, .answer (.changed .applied), .answer (.changed .applied),
    .join]

/-- After this run the address has been released once and the coordinator has returned. -/
theorem shutdown_releases_once_cancelledDuringProbe :
    ∃ s stats time, (Convergence.new 10000).run? cancelledDuringProbe = some s ∧
      s.duty = .returned stats time ∧ s.reconciler.phase = .stopped ∧
      (∀ before after, cancelledDuringProbe = before ++ .cancel :: after →
        ∃ u, (Convergence.new 10000).run? (before ++ [.cancel]) = some u ∧
          u.WindsDown after s) ∧
      ∀ more t, s.run? more = some t → s.trace more = [] := by
  have down := @shutdown_releases_once 10000 cancelledDuringProbe _ rfl (by decide) (by decide)
  obtain ⟨-, stopped, none⟩ := down.2.2 _ _ rfl
  exact ⟨_, _, _, rfl, rfl, stopped, down.2.1, none⟩

end FloatingIp.Convergence
