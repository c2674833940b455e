import FloatingIp.Proofs.Watch.Stream

/-!
# Delivery

What a watch has to say goes through a channel that may be full, to a receiver that may go, and the
work may be called off in the middle of it.  None of this loses, doubles or reorders anything: at
every moment of every run the channel has accepted the sayings of the results heard so far, but
perhaps for the newest one, which is being offered, or was when the watch ended
(`delivers_in_order`).

A watch ends for two reasons only, and each can be found in the run: the work was called off, or
the receiver had gone when something was offered.  What a read answers is no reason to end.
-/

namespace FloatingIp.Watch

/-! ### How a watch ends -/

/-- The reason for which a watch ends by a move that it makes after others: the phase that it ends
in.  A read that breaks down is no result. -/
inductive Ending (before : List Move) (w : Watch) : Move → Phase → Prop where
  /-- The work has been called off. -/
  | stopped (requested : .cancel ∈ before) : Ending before w .stop (.ended w.now .cancelled)
  /-- The receiver has gone, and something is offered to it. -/
  | refused (leader : Bool) (offering : w.phase = .offering leader) (left : .leave ∈ before) :
      Ending before w .refuse (.ended w.now (.other .receiverGone))
  /-- A read has broken down. -/
  | broken (reading : w.phase = .reading) : Ending before w .crash (.crashed w.now)

/-- A watch that ends does not run. -/
lemma Ending.not_running {before : List Move} {w : Watch} {m : Move} {p : Phase}
    (ending : Ending before w m p) : p.isRunning = false := by
  cases ending <;> rfl

/-- A watch that ends while it offers something is stopped or refused. -/
lemma Ending.of_offering {before : List Move} {w : Watch} {m : Move} {p : Phase} {leader : Bool}
    (ending : Ending before w m p) (offering : w.phase = .offering leader) :
    m = .stop ∨ m = .refuse := by
  cases ending with
  | stopped _ => exact .inl rfl
  | refused _ _ _ => exact .inr rfl
  | broken reading =>
      rw [reading] at offering
      cases offering

/-- A run in which the watch has ended: when, by which move, and that nothing was heard or accepted
since. -/
structure HasEnded (start : Watch) (moves before : List Move) (u : Watch) (m : Move) (w : Watch) :
    Prop where
  /-- The run came to the state, and the watch ended there by the move. -/
  comes : ComesTo move? start moves before u m
  /-- The watch had a reason. -/
  reason : Ending before u m w.phase
  /-- The watch was running before. -/
  running : u.phase.isRunning = true
  /-- Nothing has been heard since. -/
  silent : heard moves = heard before
  /-- Nothing has been accepted since. -/
  closed : w.channel.accepted = u.channel.accepted

/-- A watch that has ended stays so, hears nothing, and says nothing. -/
lemma Step.of_ended {w v : Watch} {m : Move} (step : Step w m v)
    (ended : w.phase.isRunning = false) :
    v.phase = w.phase ∧ m.result? = none ∧ v.channel.accepted = w.channel.accepted := by
  have running {p : Phase} (phase : w.phase = p) (runs : p.isRunning = true) {P : Prop} : P := by
    rw [phase, runs] at ended
    cases ended
  cases step with
  | absent reading => exact running reading rfl
  | failed reading _ => exact running reading rfl
  | known reading _ _ => exact running reading rfl
  | repeated reading _ _ _ => exact running reading rfl
  | news reading _ _ _ => exact running reading rfl
  | retry due => exact running due rfl
  | deliver _ offering _ _ => exact running offering rfl
  | refuse _ offering _ => exact running offering rfl
  | crash reading => exact running reading rfl
  | stop _ runs =>
      rw [runs] at ended
      cases ended
  | take _ _ taken => exact ⟨rfl, rfl, Channel.accepted_of_take? taken⟩
  | leave _ => exact ⟨rfl, rfl, rfl⟩
  | cancel _ => exact ⟨rfl, rfl, rfl⟩
  | elapse _ _ => exact ⟨rfl, rfl, rfl⟩

/-- A watch that ends has a reason, hears nothing by it, and says nothing. -/
lemma Step.ending {start w v : Watch} {before : List Move} {m : Move} (step : Step w m v)
    (run : start.run? before = some w) (active : start.cancelled = false)
    (here : start.channel.receiverHere = true) (running : w.phase.isRunning = true)
    (ends : v.phase.isRunning = false) :
    Ending before w m v.phase ∧ m.result? = none ∧ v.channel.accepted = w.channel.accepted := by
  have still (same : v.phase = w.phase) {P : Prop} : P := by
    rw [same, running] at ends
    cases ends
  cases step with
  | stop off _ =>
      have requested := (mark_of_run (P := fun w : Watch => w.cancelled = true)
        (fun h => (step_of_move? h).cancelled) run).mp off
      rw [active] at requested
      exact ⟨.stopped (requested.resolve_left nofun), rfl, rfl⟩
  | refuse leader offering gone =>
      have left := (mark_of_run (P := fun w : Watch => w.channel.receiverHere = false)
        (fun h => (step_of_move? h).gone) run).mp gone
      rw [here] at left
      exact ⟨.refused leader offering (left.resolve_left nofun), rfl, rfl⟩
  | crash reading => exact ⟨.broken reading, rfl, rfl⟩
  | take _ _ _ => exact still rfl
  | leave _ => exact still rfl
  | cancel _ => exact still rfl
  | elapse _ _ => exact still rfl
  | _ => cases ends

/-- In every run the watch is running, or it has ended for a reason. -/
lemma hasEnded_of_run {start w : Watch} {moves : List Move} (active : start.cancelled = false)
    (here : start.channel.receiverHere = true) (running : start.phase.isRunning = true)
    (run : start.run? moves = some w) :
    w.phase.isRunning = true ∨ ∃ before u m, HasEnded start moves before u m w := by
  refine run_induction (P := fun moves w => w.phase.isRunning = true ∨
    ∃ before u m, HasEnded start moves before u m w) (.inl running) ?_ run
  rintro moves w m v run (running | ⟨before, u, n, ended⟩) h
  · cases runs : v.phase.isRunning with
    | true => exact .inl rfl
    | false =>
        obtain ⟨reason, quiet, same⟩ := (step_of_move? h).ending run active here running runs
        refine .inr ⟨moves, w, m, comesTo_last run m, reason, running, ?_, same⟩
        rw [heard_concat, quiet, Option.toList_none, List.append_nil]
  · have silenced := ended.reason.not_running
    obtain ⟨phase, quiet, same⟩ := (step_of_move? h).of_ended silenced
    refine .inr ⟨before, u, n, ended.comes.further [m], ?_, ended.running, ?_, ?_⟩
    · rw [phase]
      exact ended.reason
    · rw [heard_concat, quiet, Option.toList_none, List.append_nil, ended.silent]
    · rw [same, ended.closed]

/-! ### What has been delivered -/

/-- In every run the channel keeps its capacity, and no more items wait in it than it can hold. -/
lemma fits_of_run {start w : Watch} {moves : List Move}
    (fits : start.channel.queue.length ≤ start.channel.capacity)
    (run : start.run? moves = some w) :
    w.channel.capacity = start.channel.capacity ∧
      w.channel.queue.length ≤ w.channel.capacity := by
  refine of_run (P := fun w : Watch => w.channel.capacity = start.channel.capacity ∧
    w.channel.queue.length ≤ w.channel.capacity) ?_ ⟨rfl, fits⟩ run
  intro u v m before h
  obtain ⟨same, fits⟩ := (step_of_move? h).fits before.2
  exact ⟨same.trans before.1, fits⟩

/-- What a run has delivered, and how the watch may have ended. -/
structure Delivers (plan : Plan) (channel : Channel Bool) (moves : List Move) (w : Watch) : Prop where
  /-- The channel has accepted the sayings in order, but perhaps for the newest one: that one is
  being offered, or was when the watch ended without having it accepted. -/
  accepted : ∃ unsaid : Option Bool,
    w.channel.accepted ++ unsaid.toList = sayings plan.node (heard moves) ∧
      ∀ newest ∈ unsaid, w.phase = .offering newest ∨ ∃ before u m,
        HasEnded (Watch.new plan channel) moves before u m w ∧ u.phase = .offering newest ∧
          (m = .stop ∨ m = .refuse)
  /-- Never do more items wait than the channel can hold. -/
  bounded : w.channel.queue.length ≤ channel.capacity
  /-- What is being offered is accepted once there is room. -/
  taken : ∀ newest, w.phase = .offering newest → w.channel.accepts = true →
    ∃ v, w.move? .deliver = some v ∧ v.channel.accepted = sayings plan.node (heard moves)
  /-- A read begins only where nothing is being offered, and then everything has been accepted. -/
  reads : ∀ m v, w.move? m = some v → v.reads ≠ w.reads →
    v.offered = none ∧ v.channel.accepted = sayings plan.node (heard (moves ++ [m]))
  /-- The watch runs, or has ended for a reason. -/
  ended : w.phase.isRunning = true ∨ ∃ before u m,
    HasEnded (Watch.new plan channel) moves before u m w

/-- **What there is to say is delivered in order.**  At every moment of every run, whenever items
are taken, the receiver goes or the work is called off, the channel has accepted the sayings of the
results heard so far, without loss, repetition or change of order, except perhaps the newest one.
While that one waits for room nothing is read; it is missing at the end only if the watch was
stopped or refused while offering it.  The watch ends only because the work was called off, or
because the receiver had gone when something was offered to it, unless a read breaks down. -/
theorem delivers_in_order {plan : Plan} {capacity : Nat} {channel : Channel Bool}
    {moves : List Move} {w : Watch} (opened : Channel.new? capacity = some channel)
    (run : (Watch.new plan channel).run? moves = some w) : Delivers plan channel moves w := by
  obtain ⟨-, rfl⟩ := Channel.eq_of_new? opened
  have tells := tells_of_run rfl run
  have ending := hasEnded_of_run rfl rfl rfl run
  refine ⟨?_, ?_, ?_, ?_, ending⟩
  · rcases ending with running | ⟨before, u, m, ended⟩
    · obtain ⟨unsaid, said, offers⟩ := tells.said
      rw [plan_of_run run] at said
      refine ⟨unsaid, said, fun newest mem => .inl (phase_of_offered ?_)⟩
      rw [← offers running]
      exact mem
    · -- what was offered at the end is what is missing
      obtain ⟨unsaid, said, offers⟩ := (tells_of_run rfl ended.comes.reached).said
      rw [offers ended.running, plan_of_run ended.comes.reached] at said
      refine ⟨u.offered, by rw [ended.closed, said, ended.silent]; rfl, fun newest mem => ?_⟩
      have offering := phase_of_offered mem
      exact .inr ⟨before, u, m, ended, offering, ended.reason.of_offering offering⟩
  · obtain ⟨same, fits⟩ := fits_of_run (Nat.zero_le _) run
    exact same ▸ fits
  · intro newest offering room
    obtain ⟨unsaid, said, offers⟩ := tells.said
    have offered : w.offered = some newest := by rw [offered, offering]
    rw [offers (by rw [offering]; rfl), offered, plan_of_run run] at said
    exact ⟨_, move?_deliver room offering,
      (Channel.accepted_of_put? (Channel.put?_eq_some.mpr ⟨room, rfl⟩)).trans said⟩
  · intro m v h begun
    have reading := (step_of_move? h).reading_of_reads begun
    have further : (Watch.new plan ⟨capacity, [], [], true, true⟩).run? (moves ++ [m]) = some v :=
      run_concat.mpr ⟨w, run, h⟩
    have quiet := offered_of_reading reading
    have accepted := (tells_of_run rfl further).accepted (by rw [reading]; rfl) quiet
    rw [plan_of_run further] at accepted
    exact ⟨quiet, accepted⟩

/-- A watch that is stopped while its second saying waits for room, and a receiver that takes the
first one only then. -/
def stoppedWhileFull : List Move :=
  [.hear (.marker ⟨"n1", 1⟩), .deliver, .hear (.failed (.store .injected)), .elapse 1000, .retry,
    .hear (.marker ⟨"n2", 2⟩), .elapse 5, .cancel, .elapse 1, .stop, .take]

/-- The second saying of this watch is missing. -/
theorem delivers_in_order_stoppedWhileFull :
    ∃ channel w, Channel.new? 1 = some channel ∧
      (Watch.new ⟨"memory", "leader", "n1", 1000⟩ channel).run? stoppedWhileFull = some w ∧
      w.channel.accepted = [true] ∧ sayings "n1" (heard stoppedWhileFull) = [true, false] ∧
      w.phase = .ended 1006 .cancelled ∧
      Delivers ⟨"memory", "leader", "n1", 1000⟩ channel stoppedWhileFull w :=
  ⟨_, _, rfl, rfl, rfl, by decide, rfl, @delivers_in_order _ 1 _ _ _ rfl rfl⟩

end FloatingIp.Watch
