import FloatingIp.Proofs.Watch.Sayings
import FloatingIp.Proofs.Watch.Step

/-!
# What a watch says

A watch says what there is to say of the results that it hears (`sayings`), and has only two
memories for it, the version of the last marker and the last thing said, with a channel in between
that may have no room.  `Tells` ties both memories to the sayings in every run, whatever happens:
what the channel has accepted, and then at most one thing that is still unsaid, are the sayings.

In a calm run, in which the receiver stays, nothing is called off and no read breaks down, only
what is being offered is unsaid, and the receiver makes room for it by taking.  So every list of
results is said in full (`says_every_change`).
-/

namespace FloatingIp.Watch

/-! ### Results that are heard -/

/-- The result of a read that a move brings, if it brings one. -/
def Move.result? : Move → Option ReadResult
  | .hear result => some result
  | _ => none

/-- The results of reads that moves bring, in order. -/
def heard (moves : List Move) : List ReadResult :=
  moves.filterMap Move.result?

/-- What is being offered to the channel. -/
def offered (w : Watch) : Option Bool :=
  match w.phase with
  | .offering leader => some leader
  | _ => none

/-- A watch that offers nothing has said all that it had to say. -/
lemma offered_eq_none {w : Watch} {p : Phase} (phase : w.phase = p)
    (quiet : ∀ leader, p ≠ .offering leader) : w.offered = none := by
  unfold offered
  split
  · rename_i leader offering
    exact absurd (phase.symm.trans offering) (quiet leader)
  · rfl

/-- A watch that reads offers nothing. -/
lemma offered_of_reading {w : Watch} (reading : w.phase = .reading) : w.offered = none :=
  offered_eq_none reading nofun

/-- A watch offers in one phase only. -/
lemma phase_of_offered {w : Watch} {leader : Bool} (offers : w.offered = some leader) :
    w.phase = .offering leader := by
  unfold offered at offers
  split at offers
  · rename_i item offering
    rw [offering, Option.some.inj offers]
  · cases offers

/-- What the channel has accepted, and what is being offered to it. -/
def voiced (w : Watch) : List Bool :=
  w.channel.accepted ++ w.offered.toList

/-- A watch that voices something more has heard a new marker. -/
lemma Step.voiced {w v : Watch} {m : Move} (step : Step w m v) :
    v.voiced <+: w.voiced ∨ ∃ marker, m = .hear (.marker marker) ∧
      w.remembered.version ≠ some marker.version ∧
      v.voiced = w.voiced ++ [marker.names w.plan.node] := by
  have still (same : v.voiced = w.voiced) : v.voiced <+: w.voiced := same ▸ List.prefix_refl _
  have quiet {p : Phase} (phase : w.phase = p) (silent : ∀ leader, p ≠ .offering leader)
      (channel : v.channel.accepted = w.channel.accepted) (offered : v.offered = none) :
      v.voiced <+: w.voiced :=
    still (by rw [Watch.voiced, Watch.voiced, channel, offered, offered_eq_none phase silent])
  have ended (channel : v.channel.accepted = w.channel.accepted) (offered : v.offered = none) :
      v.voiced <+: w.voiced := by
    rw [Watch.voiced, channel, offered, Option.toList_none, List.append_nil]
    exact List.prefix_append _ _
  cases step with
  | absent reading => exact .inl (quiet reading nofun rfl rfl)
  | failed reading _ => exact .inl (quiet reading nofun rfl rfl)
  | known reading _ _ => exact .inl (quiet reading nofun rfl rfl)
  | repeated reading m _ _ =>
      exact .inl (quiet reading nofun (congrArg Channel.accepted (w.channel_learn m)) rfl)
  | news reading m other _ =>
      refine .inr ⟨m, rfl, other, ?_⟩
      show (w.learn m).channel.accepted ++ [m.names w.plan.node] = _
      rw [channel_learn, Watch.voiced, offered_of_reading reading, Option.toList_none,
        List.append_nil]
  | retry due => exact .inl (quiet due nofun rfl rfl)
  | deliver leader offering channel put =>
      refine .inl (still ?_)
      show channel.accepted ++ [] = w.voiced
      rw [Channel.accepted_of_put? put, List.append_nil, Watch.voiced, offered, offering]
      rfl
  | refuse _ _ _ => exact .inl (ended rfl rfl)
  | stop _ _ => exact .inl (ended rfl rfl)
  | crash _ => exact .inl (ended rfl rfl)
  | take _ channel taken =>
      refine .inl (still ?_)
      show channel.accepted ++ w.offered.toList = w.voiced
      rw [Channel.accepted_of_take? taken, Watch.voiced]
  | leave _ => exact .inl (still rfl)
  | cancel _ => exact .inl (still rfl)
  | elapse _ _ => exact .inl (still rfl)

/-- A further move brings its result after the others. -/
lemma heard_concat (moves : List Move) (m : Move) :
    heard (moves ++ [m]) = heard moves ++ m.result?.toList := by
  unfold heard
  rw [List.filterMap_append]
  cases h : m.result? <;> simp [h]

/-! ### Both memories agree with what was heard -/

/-- What a watch remembers and has said agrees with the results that it has heard. -/
structure Tells (results : List ReadResult) (w : Watch) : Prop where
  /-- The version remembered is that of the last new marker. -/
  version : w.remembered.version = (newMarkers results).getLast?.map Marker.version
  /-- What the channel has accepted are the sayings but for the last, which may be unsaid: a watch
  that runs offers it. -/
  said : ∃ unsaid : Option Bool, w.channel.accepted ++ unsaid.toList = sayings w.plan.node results ∧
    (w.phase.isRunning = true → unsaid = w.offered)

/-- A watch that offers nothing has said everything. -/
lemma Tells.accepted {results : List ReadResult} {w : Watch} (tells : Tells results w)
    (running : w.phase.isRunning = true) (quiet : w.offered = none) :
    w.channel.accepted = sayings w.plan.node results := by
  obtain ⟨unsaid, said, offers⟩ := tells.said
  rw [offers running, quiet] at said
  simpa using said

/-- A watch that reads has said everything, and remembers the last of it. -/
lemma Tells.said_of_reading {results : List ReadResult} {w : Watch} (tells : Tells results w)
    (keeps : w.Keeps) (reading : w.phase = .reading) :
    w.channel.accepted = sayings w.plan.node results ∧
      w.remembered.said = (sayings w.plan.node results).getLast? := by
  have said := tells.accepted (by rw [reading]; rfl) (offered_of_reading reading)
  exact ⟨said, by rw [← said]; exact keeps.said⟩

/-- Every move keeps memories and results in agreement. -/
lemma Tells.of_step {results : List ReadResult} {w v : Watch} {m : Move}
    (tells : Tells results w) (keeps : w.Keeps) (step : Step w m v) :
    Tells (results ++ m.result?.toList) v := by
  -- a move that brings no new marker and leaves memory, plan and channel alone
  have idle (old : newMarkers (results ++ m.result?.toList) = newMarkers results)
      (plan : v.plan = w.plan) (version : v.remembered.version = w.remembered.version)
      (accepted : v.channel.accepted = w.channel.accepted)
      (offers : v.phase.isRunning = true → w.phase.isRunning = true ∧ v.offered = w.offered) :
      Tells (results ++ m.result?.toList) v := by
    obtain ⟨unsaid, said, offering⟩ := tells.said
    refine ⟨by rw [version, tells.version, old], unsaid, ?_, fun running => ?_⟩
    · rw [accepted, plan, said, sayings, sayings, old]
    · obtain ⟨before, same⟩ := offers running
      rw [offering before, same]
  have silent (quiet : m.result? = none) : results ++ m.result?.toList = results := by
    rw [quiet, Option.toList_none, List.append_nil]
  have unheard (quiet : m.result? = none) :
      newMarkers (results ++ m.result?.toList) = newMarkers results := by
    rw [silent quiet]
  cases step with
  | absent reading =>
      refine idle (newMarkers_concat_of_none rfl) rfl rfl rfl fun _ => ?_
      exact ⟨by rw [reading]; rfl, (offered_of_reading reading).symm⟩
  | failed reading fault =>
      refine idle (newMarkers_concat_of_none rfl) rfl rfl rfl fun _ => ?_
      exact ⟨by rw [reading]; rfl, (offered_of_reading reading).symm⟩
  | known reading m same =>
      rw [tells.version] at same
      refine idle (newMarkers_concat_of_known same) rfl rfl rfl fun _ => ?_
      exact ⟨by rw [reading]; rfl, (offered_of_reading reading).symm⟩
  | repeated reading m other still =>
      obtain ⟨said, last⟩ := tells.said_of_reading keeps reading
      rw [tells.version] at other
      rw [last] at still
      refine ⟨?_, none, ?_, fun _ => rfl⟩
      · show some m.version = (newMarkers (results ++ [.marker m])).getLast?.map Marker.version
        rw [newMarkers_concat_of_other other, List.getLast?_concat]
        rfl
      · show (w.learn m).channel.accepted ++ [] = sayings (w.learn m).plan.node _
        rw [channel_learn, plan_learn, said, List.append_nil]
        exact (sayings_concat_of_repeated other still).symm
  | news reading m other change =>
      obtain ⟨said, last⟩ := tells.said_of_reading keeps reading
      rw [tells.version] at other
      rw [last] at change
      refine ⟨?_, some (m.names w.plan.node), ?_, fun _ => rfl⟩
      · show some m.version = (newMarkers (results ++ [.marker m])).getLast?.map Marker.version
        rw [newMarkers_concat_of_other other, List.getLast?_concat]
        rfl
      · show (w.learn m).channel.accepted ++ [m.names w.plan.node] =
          sayings (w.learn m).plan.node _
        rw [channel_learn, plan_learn, said]
        exact (sayings_concat_of_news other change).symm
  | deliver leader offering channel put =>
      obtain ⟨unsaid, said, offers⟩ := tells.said
      have leading : unsaid = some leader := by
        rw [offers (by rw [offering]; rfl), offered, offering]
      rw [leading, Option.toList_some] at said
      rw [silent rfl]
      refine ⟨tells.version, none, ?_, fun _ => rfl⟩
      show channel.accepted ++ [] = sayings w.plan.node results
      rw [Channel.accepted_of_put? put, List.append_nil, said]
  | retry due =>
      refine idle (unheard rfl) rfl rfl rfl fun _ => ?_
      exact ⟨by rw [due]; rfl, (offered_eq_none due nofun).symm⟩
  | refuse leader offering gone => exact idle (unheard rfl) rfl rfl rfl nofun
  | stop off running => exact idle (unheard rfl) rfl rfl rfl nofun
  | crash reading => exact idle (unheard rfl) rfl rfl rfl nofun
  | take leader channel taken =>
      have accepted := Channel.accepted_of_take? taken
      exact idle (unheard rfl) rfl rfl accepted fun running => ⟨running, rfl⟩
  | leave present =>
      exact idle (unheard rfl) rfl rfl rfl fun running => ⟨running, rfl⟩
  | cancel active =>
      exact idle (unheard rfl) rfl rfl rfl fun running => ⟨running, rfl⟩
  | elapse millis early =>
      exact idle (unheard rfl) rfl rfl rfl fun running => ⟨running, rfl⟩

/-- **In every run memories and results agree.** -/
theorem tells_of_run {plan : Plan} {channel : Channel Bool} {moves : List Move} {w : Watch}
    (empty : channel.accepted = []) (run : (Watch.new plan channel).run? moves = some w) :
    Tells (heard moves) w := by
  refine run_induction (P := fun moves => Tells (heard moves)) ?_ ?_ run
  · exact ⟨rfl, none, by simp [Watch.new, read, empty, sayings, newMarkers, markers, heard],
      fun _ => rfl⟩
  · intro moves w m v run tells h
    rw [heard_concat]
    exact tells.of_step (keeps_of_run empty run) (step_of_move? h)

/-! ### Calm runs -/

/-- Whether a move takes the receiver away, calls the work off or breaks a read down. -/
def Move.disturbs : Move → Bool
  | .leave => true
  | .cancel => true
  | .crash => true
  | _ => false

/-- Moves none of which disturbs, and which bring these results, lead from one state to another. -/
structure Calmly (w : Watch) (moves : List Move) (results : List ReadResult) (v : Watch) : Prop where
  /-- The moves can be made. -/
  run : w.run? moves = some v
  /-- None of them disturbs. -/
  calm : ∀ m ∈ moves, m.disturbs = false
  /-- They bring these results. -/
  heard : Watch.heard moves = results

/-- Calm moves after calm moves are calm. -/
lemma Calmly.append {w v u : Watch} {moves more : List Move} {results further : List ReadResult}
    (first : Calmly w moves results v) (second : Calmly v more further u) :
    Calmly w (moves ++ more) (results ++ further) u := by
  refine ⟨run_append.mpr ⟨v, first.run, second.run⟩, ?_, ?_⟩
  · exact List.forall_mem_append.mpr ⟨first.calm, second.calm⟩
  · rw [← first.heard, ← second.heard]
    exact List.filterMap_append

/-- Nothing keeps a watch from being heard: it runs, and the receiver is there. -/
structure Undisturbed (w : Watch) : Prop where
  /-- The work is not called off. -/
  active : w.cancelled = false
  /-- The watch has not ended. -/
  running : w.phase.isRunning = true
  /-- The receiver is there. -/
  here : w.channel.receiverHere = true
  /-- The channel can hold an item. -/
  room : 1 ≤ w.channel.capacity
  /-- No more items wait than the channel can hold. -/
  fits : w.channel.queue.length ≤ w.channel.capacity

/-- A move that does not disturb leaves a watch undisturbed. -/
lemma Undisturbed.of_step {w v : Watch} {m : Move} (undisturbed : w.Undisturbed)
    (calm : m.disturbs = false) (step : Step w m v) : v.Undisturbed := by
  obtain ⟨same, fits⟩ := step.fits undisturbed.fits
  refine ⟨?_, ?_, ?_, same ▸ undisturbed.room, fits⟩
  · rw [Bool.eq_false_iff, ne_eq, step.cancelled, undisturbed.active]
    rintro (off | rfl) <;> contradiction
  · cases step with
    | refuse _ _ gone =>
        rw [undisturbed.here] at gone
        cases gone
    | stop off _ =>
        rw [undisturbed.active] at off
        cases off
    | crash _ => cases calm
    | take _ _ _ => exact undisturbed.running
    | leave _ => exact undisturbed.running
    | cancel _ => exact undisturbed.running
    | elapse _ _ => exact undisturbed.running
    | _ => rfl
  · rw [← Bool.not_eq_false, step.gone, undisturbed.here]
    rintro (off | rfl) <;> contradiction

/-- A calm run leaves a watch undisturbed. -/
lemma Calmly.undisturbed {w v : Watch} {moves : List Move} {results : List ReadResult}
    (calmly : Calmly w moves results v) (undisturbed : w.Undisturbed) : v.Undisturbed :=
  of_run_among (P := Undisturbed) (K := fun m => m.disturbs = false)
    (fun before calm h => before.of_step calm (step_of_move? h)) undisturbed calmly.run calmly.calm

/-- A single move that does not disturb is calm. -/
lemma Calmly.single {w v : Watch} {m : Move} (calm : m.disturbs = false)
    (h : w.move? m = some v) : Calmly w [m] m.result?.toList v :=
  ⟨run_cons.mpr ⟨v, h, rfl⟩, List.forall_mem_singleton.mpr calm, heard_concat [] m⟩

/-- An undisturbed watch has its channel accept items where there is room. -/
lemma Undisturbed.accepts {w : Watch} (undisturbed : w.Undisturbed)
    (room : w.channel.queue.length < w.channel.capacity) : w.channel.accepts = true := by
  simp [Channel.accepts, undisturbed.here, room]

/-- Where the channel accepts items, what is offered can be delivered. -/
lemma move?_deliver {w : Watch} {leader : Bool} (accepts : w.channel.accepts = true)
    (offering : w.phase = .offering leader) :
    w.move? .deliver = some (read { w with
      channel := { w.channel with queue := w.channel.queue ++ [leader] },
      remembered := w.remembered.say leader }) := by
  simp only [move?, deliver?, offering]
  rw [Channel.put?_eq_some.mpr ⟨accepts, rfl⟩]
  rfl

/-- What waits longest can be taken. -/
lemma move?_take {w : Watch} {leader : Bool} {rest : List Bool} (undisturbed : w.Undisturbed)
    (queue : w.channel.queue = leader :: rest) :
    w.move? .take = some { w with
      channel := { w.channel with taken := w.channel.taken ++ [leader], queue := rest } } := by
  simp only [move?]
  rw [Channel.take?_eq_some.mpr ⟨rest, queue, undisturbed.here, rfl⟩]
  rfl

/-- What is offered, if anything is, is delivered, after the receiver has made room for it if there
is none. -/
lemma exists_delivery {w : Watch} (undisturbed : w.Undisturbed) :
    ∃ more v, Calmly w more [] v ∧ v.offered = none := by
  have fits := undisturbed.fits
  cases offers : w.offered with
  | none => exact ⟨[], w, ⟨rfl, List.forall_mem_nil _, rfl⟩, offers⟩
  | some leader =>
  have offering : w.phase = .offering leader := phase_of_offered offers
  by_cases room : w.channel.queue.length < w.channel.capacity
  · exact ⟨_, _, .single rfl (move?_deliver (undisturbed.accepts room) offering), rfl⟩
  · cases queue : w.channel.queue with
    | nil =>
        have positive := undisturbed.room
        rw [queue] at room
        exact absurd positive room
    | cons first rest =>
        have take := Calmly.single rfl (move?_take undisturbed queue)
        have made : rest.length < w.channel.capacity := by
          rw [queue] at fits
          exact fits
        have deliver := move?_deliver ((take.undisturbed undisturbed).accepts made) offering
        exact ⟨_, _, take.append (.single rfl deliver), rfl⟩

/-- A watch that has heard a result reads again, pauses for the delay, or has something to offer,
and has left the channel alone. -/
lemma Step.of_hear {w v : Watch} {r : ReadResult} (step : Step w (.hear r) v) :
    v.channel = w.channel ∧
      (v.phase = .reading ∨ v.phase = .pausing (v.now + v.plan.retryDelay) ∨
        ∃ leader, v.phase = .offering leader) := by
  cases step with
  | absent _ => exact ⟨rfl, .inr (.inl rfl)⟩
  | failed _ _ => exact ⟨rfl, .inr (.inl rfl)⟩
  | known _ _ _ => exact ⟨rfl, .inl rfl⟩
  | repeated _ m _ _ => exact ⟨channel_learn w m, .inl rfl⟩
  | news _ m _ _ => exact ⟨channel_learn w m, .inr (.inr ⟨_, rfl⟩)⟩

/-- An undisturbed watch that reads hears whatever the store answers, and comes to read again with
nothing left in the channel. -/
lemma exists_round {w : Watch} (undisturbed : w.Undisturbed) (reading : w.phase = .reading)
    (empty : w.channel.queue = []) (r : ReadResult) :
    ∃ more v, Calmly w more [r] v ∧ v.phase = .reading ∧ v.channel.queue = [] := by
  have hears : w.move? (.hear r) = some (w.hear r) := if_pos reading
  have first : Calmly w [.hear r] [r] (w.hear r) := .single rfl hears
  have calm := first.undisturbed undisturbed
  obtain ⟨channel, phase⟩ := (step_of_move? hears).of_hear
  generalize w.hear r = v at first calm channel phase
  rw [← channel] at empty
  rcases phase with reads | pauses | ⟨leader, offers⟩
  · exact ⟨_, _, first, reads, empty⟩
  · -- the pause is slept out
    have sleep : v.move? (.elapse v.plan.retryDelay) =
        some { v with now := v.now + v.plan.retryDelay } := by
      simp [move?, mayElapse, pauses]
    have retry : { v with now := v.now + v.plan.retryDelay }.move? .retry =
        some { v with now := v.now + v.plan.retryDelay }.read := if_pos pauses
    exact ⟨_, _, first.append ((Calmly.single rfl sleep).append (.single rfl retry)), rfl, empty⟩
  · -- what is offered is delivered and taken
    have room : v.channel.queue.length < v.channel.capacity := by
      rw [empty]
      exact calm.room
    have deliver := Calmly.single rfl (move?_deliver (calm.accepts room) offers)
    rw [empty] at deliver
    have take := move?_take (deliver.undisturbed calm) rfl
    exact ⟨_, _, first.append (deliver.append (.single rfl take)), rfl, rfl⟩

/-- An undisturbed watch that reads hears any results. -/
lemma exists_calm_run {w : Watch} (undisturbed : w.Undisturbed) (reading : w.phase = .reading)
    (empty : w.channel.queue = []) (results : List ReadResult) :
    ∃ moves v, Calmly w moves results v ∧ v.phase = .reading ∧ v.channel.queue = [] := by
  induction results generalizing w with
  | nil => exact ⟨[], w, ⟨rfl, List.forall_mem_nil _, rfl⟩, reading, empty⟩
  | cons r results ih =>
      obtain ⟨moves, v, round, reads, left⟩ := exists_round undisturbed reading empty r
      obtain ⟨more, u, others, done⟩ := ih (round.undisturbed undisturbed) reads left
      exact ⟨moves ++ more, u, round.append others, done⟩

/-! ### Every change is said once -/

/-- A new watch on a new channel is undisturbed. -/
lemma undisturbed_new {capacity : Nat} {channel : Channel Bool} (plan : Plan)
    (opened : Channel.new? capacity = some channel) : (Watch.new plan channel).Undisturbed := by
  obtain ⟨room, rfl⟩ := Channel.eq_of_new? opened
  exact ⟨rfl, rfl, rfl, room, Nat.zero_le _⟩

/-- In every run the plan is what it was. -/
lemma plan_of_run {w v : Watch} {moves : List Move} (run : w.run? moves = some v) :
    v.plan = w.plan :=
  of_run (P := fun v => v.plan = w.plan) (fun same h => (step_of_move? h).plan.trans same) rfl run

/-- In a calm run only what is being offered is unsaid. -/
lemma accepted_of_calm_run {plan : Plan} {capacity : Nat} {channel : Channel Bool}
    {moves : List Move} {results : List ReadResult} {w : Watch}
    (opened : Channel.new? capacity = some channel)
    (calmly : Calmly (Watch.new plan channel) moves results w) :
    w.channel.accepted ++ w.offered.toList = sayings plan.node results := by
  have running := (calmly.undisturbed (undisturbed_new plan opened)).running
  obtain ⟨-, rfl⟩ := Channel.eq_of_new? opened
  obtain ⟨unsaid, said, offers⟩ := (tells_of_run rfl calmly.run).said
  rw [offers running, plan_of_run calmly.run, calmly.heard] at said
  exact said

/-- **Every change is said, once and in order.**  Whatever results the store gives, a receiver that
keeps taking lets the watch hear them all, and takes the sayings.  At every moment of every calm run
that has brought these results, the channel has accepted the sayings, but for the last one where
that is being offered; and it accepts that one too, once the receiver has made room.  Neighbours
among the sayings differ, and if markers of one version that follow each other have one value, the
sayings are the changes among the answers of all markers. -/
theorem says_every_change {plan : Plan} {capacity : Nat} {channel : Channel Bool}
    (opened : Channel.new? capacity = some channel) (results : List ReadResult) :
    (∃ moves w, Calmly (Watch.new plan channel) moves results w ∧
        w.channel.taken = sayings plan.node results ∧ w.channel.queue = []) ∧
      (∀ moves w, Calmly (Watch.new plan channel) moves results w →
        w.channel.accepted ++ w.offered.toList = sayings plan.node results ∧
        ∃ more v, Calmly w more [] v ∧ v.channel.accepted = sayings plan.node results) ∧
      (sayings plan.node results).IsChain (· ≠ ·) ∧
      (((markers results).IsChain fun a b => a.version = b.version → a.value = b.value) →
        sayings plan.node results =
          ((markers results).map (·.names plan.node)).destutter (· ≠ ·)) := by
  have undisturbed := undisturbed_new plan opened
  refine ⟨?_, ?_, isChain_sayings plan.node results, sayings_of_honest⟩
  · have empty : (Watch.new plan channel).channel.queue = [] := by
      obtain ⟨-, rfl⟩ := Channel.eq_of_new? opened
      rfl
    obtain ⟨moves, w, calmly, reading, left⟩ := exists_calm_run undisturbed rfl empty results
    refine ⟨moves, w, calmly, ?_, left⟩
    have said := accepted_of_calm_run opened calmly
    rw [offered_of_reading reading, Channel.accepted, left] at said
    simpa using said
  · intro moves w calmly
    obtain ⟨more, v, delivery, quiet⟩ := exists_delivery (calmly.undisturbed undisturbed)
    refine ⟨accepted_of_calm_run opened calmly, more, v, delivery, ?_⟩
    have said := accepted_of_calm_run opened (calmly.append delivery)
    rw [quiet, List.append_nil] at said
    simpa using said

/-- Reads of a marker that is written twice for one node, set back, and unreadable in between. -/
def setBack : List ReadResult :=
  [.absent, .marker ⟨"n2", 0⟩, .marker ⟨"n2", 0⟩, .failed (.store .injected), .marker ⟨"n1", 7⟩,
    .absent, .marker ⟨"n1", 7⟩, .marker ⟨"n1", 4⟩, .marker ⟨"n2", 9⟩]

/-- Of these reads the watch of `n1` says that it does not lead, that it leads, and that it does
not. -/
theorem says_every_change_setBack :
    ∃ channel, Channel.new? 1 = some channel ∧ sayings "n1" setBack = [false, true, false] ∧
      ∃ moves w, Calmly (Watch.new ⟨"memory", "leader", "n1", 1000⟩ channel) moves setBack w ∧
        w.channel.taken = [false, true, false] ∧
        ((markers setBack).map (·.names "n1")).destutter (· ≠ ·) = [false, true, false] := by
  have said := @says_every_change ⟨"memory", "leader", "n1", 1000⟩ 1 _ rfl setBack
  obtain ⟨⟨moves, w, calmly, taken, -⟩, -, -, honest⟩ := said
  have sayings : sayings "n1" setBack = [false, true, false] := by decide
  exact ⟨_, rfl, sayings, moves, w, calmly, taken.trans sayings,
    (honest (by decide)).symm.trans sayings⟩

end FloatingIp.Watch
