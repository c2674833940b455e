import FloatingIp.Proofs.Convergence.Shutdown

/-!
# What the counters count

The reconciler counts what it does as it goes, in many places: some counters grow before a call and
some after an answer.  When the coordinator returns, the counters that it hands over are those of
the calls that the run really made, read off its trace, and there was one warning in the log for
each failure that they tell of (`returned_stats_eq_tally`).

That holds in every state of every run, also in the middle of a call (`stats_eq_tally`), because a
turn adds to the counters what it means for the calls (`Turn.stats`).  Warnings are counted apart:
a failure is told in the moment in which it is counted (`Reconciler.WarnsOfFailures`).
-/

namespace FloatingIp.Convergence

/-! ### What a trace amounts to -/

/-- Whether an event is a failure: a question that could not be answered, a change that was not
made, or a probe that found another host with the address. -/
def CallEvent.isFailure : CallEvent → Bool
  | .ended .query (.queryFailed _) => true
  | .ended .probe (.duplicate true) => true
  | .ended .configure (.changeFailed _) => true
  | .ended .deconfigure (.changeFailed _) => true
  | _ => false

/-- The counters that a trace amounts to: a pass for each question, the changes that were tried,
and the failures. -/
def tally (es : List CallEvent) : Stats where
  passes := es.count (.began .query)
  configures := es.count (.began .configure)
  deconfigures := es.count (.began .deconfigure)
  failures := es.countP CallEvent.isFailure

/-- Counters added to counters. -/
def Stats.plus (a b : Stats) : Stats where
  passes := a.passes + b.passes
  configures := a.configures + b.configures
  deconfigures := a.deconfigures + b.deconfigures
  failures := a.failures + b.failures

/-- A trace and then another amount to both together. -/
lemma tally_append (es fs : List CallEvent) : tally (es ++ fs) = (tally es).plus (tally fs) := by
  simp [tally, Stats.plus]

/-! ### Every turn is counted -/

/-- **A turn adds to the counters what it means for the calls.** -/
lemma Turn.stats {s : Convergence} {m : Move} {r : Reconciler} (turn : Turn s m r) :
    r.stats = s.reconciler.stats.plus (tally (s.events m (s.turned m r))) := by
  have answered {a : Answer} {p : Phase} {call : Call} (same : m = .answer a)
      (phase : s.reconciler.phase = p) (busy : p.call? = some call)
      (counted : r.stats = s.reconciler.stats.plus
        (tally (.ended call a :: r.phase.call?.toList.map .began))) :
      r.stats = s.reconciler.stats.plus (tally (s.events m (s.turned m r))) := by
    subst same
    rw [turn.events_answer (by rw [phase, busy])]
    exact counted
  cases turn with
  | begin starting => cases s.cancelled <;> rfl
  | release _ _ => rfl
  | again _ _ _ => rfl
  | agree querying _ _ => exact answered rfl querying rfl rfl
  | probe querying _ => exact answered rfl querying rfl rfl
  | withdraw querying _ => exact answered rfl querying rfl rfl
  | unknown querying _ => exact answered rfl querying rfl rfl
  | defer probing => exact answered rfl probing rfl rfl
  | claim probing => exact answered rfl probing rfl rfl
  | claimed claiming _ => exact answered rfl claiming rfl (by cases s.cancelled <;> rfl)
  | claimFailed claiming _ => exact answered rfl claiming rfl rfl
  | withdrawn withdrawing _ => exact answered rfl withdrawing rfl (by cases s.cancelled <;> rfl)
  | withdrawFailed withdrawing _ => exact answered rfl withdrawing rfl rfl
  | released releasing _ => exact answered rfl releasing rfl rfl
  | releaseFailed releasing _ => exact answered rfl releasing rfl rfl
  | broke call busy => exact answered rfl rfl busy (by cases call <;> rfl)

/-- **In every state of every run the counters are what the trace amounts to.** -/
theorem stats_eq_tally {recheck : Nat} {moves : List Move} {s : Convergence}
    (run : (Convergence.new recheck).run? moves = some s) :
    s.reconciler.stats = tally ((Convergence.new recheck).trace moves) := by
  refine run_induction (P := fun moves s =>
    s.reconciler.stats = tally ((Convergence.new recheck).trace moves)) rfl ?_ run
  intro moves s m t run counted h
  rw [trace_concat run h, tally_append, ← counted]
  rcases move?_cases h with ⟨r, turn, rfl⟩ | aside
  · exact turn.stats
  · rw [aside.events, aside.reconciler]
    rfl

/-! ### Every failure is told -/

/-- How many lines of the log of these notices are warnings. -/
def warnings (told : List Notice) : Nat :=
  (told.map Notice.line).countP (·.level = .warn)

namespace Reconciler

/-- A reconciler has told of each failure that it has counted, and has warned of nothing else. -/
def WarnsOfFailures (r : Reconciler) : Prop :=
  warnings r.told = r.stats.failures

variable {r : Reconciler}

/-- A notice that is no warning makes no difference. -/
lemma WarnsOfFailures.tell {n : Notice} (warns : r.WarnsOfFailures)
    (calm : n.line.level ≠ .warn) : (r.tell n).WarnsOfFailures := by
  have same : warnings (n :: r.told) = warnings r.told := by simp [warnings, calm]
  exact same.trans warns

/-- A failure is told with a warning. -/
lemma WarnsOfFailures.fail {n : Notice} (warns : r.WarnsOfFailures)
    (warning : n.line.level = .warn) : (r.fail n).WarnsOfFailures := by
  have more : warnings (n :: r.told) = warnings r.told + 1 := by simp [warnings, warning]
  exact more.trans (congrArg Nat.succ warns)

/-- To begin the release is no failure. -/
lemma WarnsOfFailures.release (warns : r.WarnsOfFailures) : r.release.WarnsOfFailures :=
  warns.tell (n := .releasing) nofun

/-- To go on to the next pass is no failure. -/
lemma WarnsOfFailures.nextPass (warns : r.WarnsOfFailures) (cancelled : Bool) :
    (r.nextPass cancelled).WarnsOfFailures := by
  cases cancelled with
  | false => exact warns
  | true => exact warns.release

/-- To end is no failure. -/
lemma WarnsOfFailures.stop (warns : r.WarnsOfFailures) : r.stop.WarnsOfFailures :=
  warns.tell (n := .stopped r.stats) nofun

end Reconciler

/-- A turn tells of its failure, if there is one. -/
lemma Turn.warnsOfFailures {s : Convergence} {m : Move} {r : Reconciler} (turn : Turn s m r)
    (warns : s.reconciler.WarnsOfFailures) : r.WarnsOfFailures := by
  have changed (configured : Bool) (outcome : Host.ChangeOutcome) :
      (Notice.changed configured outcome).line.level ≠ .warn := nofun
  cases turn with
  | begin _ => exact (warns.tell (n := .started) nofun).nextPass _
  | release _ _ => exact warns.release
  | again _ _ _ => exact warns
  | agree _ _ _ => exact warns.tell (n := .compared _ _) nofun
  | probe _ _ => exact warns.tell (n := .compared _ _) nofun
  | withdraw _ _ => exact warns.tell (n := .compared _ _) nofun
  | unknown _ fault => exact warns.fail (n := .queryFailed fault) rfl
  | defer _ => exact warns.fail (n := .deferred) rfl
  | claim _ => exact warns
  | claimed _ outcome => exact (warns.tell (changed true outcome)).nextPass _
  | claimFailed _ fault => exact warns.fail (n := .configureFailed fault) rfl
  | withdrawn _ outcome => exact (warns.tell (changed false outcome)).nextPass _
  | withdrawFailed _ fault => exact warns.fail (n := .deconfigureFailed fault) rfl
  | released _ outcome => exact (warns.tell (changed false outcome)).stop
  | releaseFailed _ fault => exact (warns.fail (n := .deconfigureFailed fault) rfl).stop
  | broke _ _ => exact warns

/-- In every run the reconciler has told of its failures. -/
theorem warnsOfFailures_of_run {recheck : Nat} {moves : List Move} {s : Convergence}
    (run : (Convergence.new recheck).run? moves = some s) : s.reconciler.WarnsOfFailures := by
  have start : (Convergence.new recheck).reconciler.WarnsOfFailures := rfl
  refine of_run (P := fun s : Convergence => s.reconciler.WarnsOfFailures) ?_ start run
  intro s t m warns h
  rcases move?_cases h with ⟨r, turn, rfl⟩ | aside
  · exact turn.warnsOfFailures warns
  · rw [aside.reconciler]
    exact warns

/-! ### What the coordinator returns -/

/-- The coordinator returns the counters of the reconciler, unless that has broken down. -/
theorem returned_stats {recheck : Nat} {moves : List Move} {s : Convergence}
    (run : (Convergence.new recheck).run? moves = some s) (sound : s.reconciler.phase ≠ .crashed)
    {stats : Stats} {time : Nat} (returned : s.duty = .returned stats time) :
    stats = s.reconciler.stats := by
  revert stats time sound
  refine run_induction (P := fun _ s => s.reconciler.phase ≠ .crashed → ∀ {stats time},
    s.duty = .returned stats time → stats = s.reconciler.stats) ?_ ?_ run
  · intro _ _ _ returned
    cases returned
  · intro moves s m t run earlier h sound stats time returned
    rcases move?_cases h with ⟨r, turn, rfl⟩ | aside
    · -- the reconciler takes no turn once the coordinator has returned
      have ended := (endsForReason_of_run run).returned stats time returned
      rw [turn.not_over] at ended
      cases ended
    · rw [aside.reconciler] at sound ⊢
      cases aside with
      | receive leader _ =>
          rw [duty_receive] at returned
          exact earlier sound returned
      | drain _ _ => cases returned
      | join _ _ => exact (Duty.returned.inj returned).1.symm
      | joinCrashed _ crashed => exact absurd crashed sound
      | abandon _ => cases returned
      | _ => exact earlier sound returned

/-- **The counters tell what was done.**  In every run in which no call breaks down, the counters
that the coordinator returns are what the calls of the run amount to: as many passes as questions
were asked, as many additions and removals as were tried, the final release among them, and as many
failures as there were failed questions, failed changes and claims put off.  The reconciler has
written as many warnings to the log. -/
theorem returned_stats_eq_tally {recheck : Nat} {moves : List Move} {s : Convergence}
    (run : (Convergence.new recheck).run? moves = some s) (whole : .answer .broke ∉ moves)
    {stats : Stats} {time : Nat} (returned : s.duty = .returned stats time) :
    stats = tally ((Convergence.new recheck).trace moves) ∧
      stats.failures = warnings s.reconciler.told := by
  have same := returned_stats run (not_crashed_of_run run whole) returned
  refine ⟨same.trans (stats_eq_tally run), ?_⟩
  rw [same]
  exact (warnsOfFailures_of_run run).symm

/-- A run in which a question and a claim fail, another claim is put off, and the release fails that
follows when the work is called off during a removal. -/
def failsInEveryWay : List Move :=
  [.begin, .answer (.queryFailed .injected), .receive true, .wake, .answer (.present false),
    .answer (.duplicate false), .answer (.changeFailed .injected), .elapse 10000, .recheck, .wake,
    .answer (.present false), .answer (.duplicate true), .receive false, .wake,
    .answer (.present true), .cancel, .answer (.changed .applied), .drain,
    .answer (.changeFailed .injected), .join]

/-- This run returns four passes, one addition, two removals and four failures. -/
theorem returned_stats_eq_tally_failsInEveryWay :
    ∃ s, (Convergence.new 10000).run? failsInEveryWay = some s ∧
      .answer .broke ∉ failsInEveryWay ∧ s.duty = .returned ⟨4, 1, 2, 4⟩ 10000 ∧
      ⟨4, 1, 2, 4⟩ = tally ((Convergence.new 10000).trace failsInEveryWay) ∧
      4 = warnings s.reconciler.told := by
  have counted := @returned_stats_eq_tally 10000 failsInEveryWay _ rfl (by decide) _ _ rfl
  exact ⟨_, rfl, by decide, rfl, counted.1, counted.2⟩

end FloatingIp.Convergence
