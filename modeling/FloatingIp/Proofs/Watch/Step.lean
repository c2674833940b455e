import FloatingIp.Proofs.Run
import FloatingIp.Watch

/-!
# What one move of a watch does

`step_of_move?` says all that a move of a watch can do, its guards included, with one constructor
of `Step` for each case: the result of a read alone has five, by what the watch remembers.

What a watch remembers is tied to what it has done in every run (`keeps_of_run`): the last thing
said is the last that the channel accepted, and both the wait index and the read that has begun
follow from the version of the last marker.
-/

namespace FloatingIp

/-- What is remembered once a new marker has been read. -/
def Recall.learn (c : Recall) (m : Marker) : Recall :=
  { c with version := some m.version, waitIndex := waitIndexAfter m.version }

namespace Watch

/-! ### The cases of a move -/

/-- A watch that has read a new marker. -/
def learn (w : Watch) (m : Marker) : Watch :=
  { w.tellBackwards m with remembered := w.remembered.learn m }

/-- A move that a watch can make in a state, and the state after it. -/
inductive Step (w : Watch) : Move → Watch → Prop where
  | absent (reading : w.phase = .reading) :
      Step w (.hear .absent) (w.tell (.noMarker w.plan.key)).pause
  | failed (reading : w.phase = .reading) (fault : Fault) :
      Step w (.hear (.failed fault)) (w.tell (.readFailed w.plan.store fault)).pause
  | known (reading : w.phase = .reading) (m : Marker)
      (same : w.remembered.version = some m.version) : Step w (.hear (.marker m)) w.read
  | repeated (reading : w.phase = .reading) (m : Marker)
      (other : w.remembered.version ≠ some m.version)
      (still : w.remembered.said = some (m.names w.plan.node)) :
      Step w (.hear (.marker m)) ((w.learn m).tell (.rewritten m)).read
  | news (reading : w.phase = .reading) (m : Marker)
      (other : w.remembered.version ≠ some m.version)
      (change : w.remembered.said ≠ some (m.names w.plan.node)) :
      Step w (.hear (.marker m))
        { (w.learn m).tell (.changed m (m.names w.plan.node)) with
          phase := .offering (m.names w.plan.node) }
  | retry (due : w.phase = .pausing w.now) : Step w .retry w.read
  | deliver (leader : Bool) (offering : w.phase = .offering leader) (channel : Channel Bool)
      (put : w.channel.put? leader = some channel) :
      Step w .deliver (read { w with channel, remembered := w.remembered.say leader })
  | refuse (leader : Bool) (offering : w.phase = .offering leader)
      (gone : w.channel.receiverHere = false) :
      Step w .refuse ((w.tell .receiverGone).finish (.ended w.now (.other .receiverGone)))
  | stop (off : w.cancelled = true) (running : w.phase.isRunning = true) :
      Step w .stop ((w.tell .stopped).finish (.ended w.now .cancelled))
  | crash (reading : w.phase = .reading) : Step w .crash (w.finish (.crashed w.now))
  | take (leader : Bool) (channel : Channel Bool)
      (taken : w.channel.take? = some (leader, channel)) : Step w .take { w with channel }
  | leave (present : w.channel.receiverHere = true) :
      Step w .leave { w with channel := w.channel.withoutReceiver }
  | cancel (active : w.cancelled = false) : Step w .cancel { w with cancelled := true }
  | elapse (millis : Nat) (early : w.mayElapse millis = true) :
      Step w (.elapse millis) { w with now := w.now + millis }

/-- A marker that is heard is known, repeats what was said, or is news. -/
lemma Step.of_marker {w : Watch} (reading : w.phase = .reading) (m : Marker) :
    Step w (.hear (.marker m)) (w.hear (.marker m)) := by
  by_cases same : w.remembered.version = some m.version
  · have heard : w.hear (.marker m) = w.read := by
      simp [hear, Recall.judge, same]
    rw [heard]
    exact .known reading m same
  · by_cases still : w.remembered.said = some (m.names w.plan.node)
    · have heard : w.hear (.marker m) = ((w.learn m).tell (.rewritten m)).read := by
        simp [hear, Recall.judge, same, still, learn, Recall.learn]
      rw [heard]
      exact .repeated reading m same still
    · have heard : w.hear (.marker m) =
          { (w.learn m).tell (.changed m (m.names w.plan.node)) with
            phase := .offering (m.names w.plan.node) } := by
        simp [hear, Recall.judge, same, still, learn, Recall.learn]
      rw [heard]
      exact .news reading m same still

/-- **Every move of a watch is one of the cases.** -/
theorem step_of_move? {w v : Watch} {m : Move} (h : w.move? m = some v) : Step w m v := by
  cases m with
  | hear result =>
      obtain ⟨reading, rfl⟩ := of_guard h
      cases result with
      | absent => exact .absent reading
      | failed fault => exact .failed reading fault
      | marker m => exact .of_marker reading m
  | retry =>
      obtain ⟨due, rfl⟩ := of_guard h
      exact .retry due
  | deliver =>
      simp only [move?, deliver?] at h
      split at h
      · rename_i leader offering
        obtain ⟨channel, put, rfl⟩ := Option.map_eq_some_iff.mp h
        exact .deliver leader offering channel put
      · cases h
  | refuse =>
      simp only [move?, refuse?] at h
      split at h
      · rename_i leader offering
        obtain ⟨gone, rfl⟩ := of_bar h
        exact .refuse leader offering (by simpa using gone)
      · cases h
  | stop =>
      obtain ⟨⟨off, running⟩, rfl⟩ := of_guard h
      exact .stop off running
  | crash =>
      obtain ⟨reading, rfl⟩ := of_guard h
      exact .crash reading
  | take =>
      obtain ⟨⟨leader, channel⟩, taken, rfl⟩ := Option.map_eq_some_iff.mp h
      exact .take leader channel taken
  | leave =>
      obtain ⟨present, rfl⟩ := of_guard h
      exact .leave present
  | cancel =>
      obtain ⟨active, rfl⟩ := of_bar h
      exact .cancel (by simpa using active)
  | elapse millis =>
      obtain ⟨early, rfl⟩ := of_guard h
      exact .elapse millis early

/-! ### What stays -/

/-- Telling of a lower version changes nothing else. -/
lemma tellBackwards_eq (w : Watch) (m : Marker) :
    ∃ told, w.tellBackwards m = { w with told } := by
  unfold tellBackwards
  split
  · split
    · exact ⟨_, rfl⟩
    · exact ⟨w.told, rfl⟩
  · exact ⟨w.told, rfl⟩

/-- Learning a marker changes nothing but what is told and remembered. -/
lemma learn_eq (w : Watch) (m : Marker) :
    ∃ told, w.learn m = { w with told, remembered := w.remembered.learn m } := by
  obtain ⟨told, same⟩ := w.tellBackwards_eq m
  exact ⟨told, by rw [learn, same]⟩

/-- Learning a marker leaves the plan. -/
@[simp] lemma plan_learn (w : Watch) (m : Marker) : (w.learn m).plan = w.plan := by
  obtain ⟨told, same⟩ := w.learn_eq m
  rw [same]

/-- Learning a marker leaves the channel. -/
@[simp] lemma channel_learn (w : Watch) (m : Marker) : (w.learn m).channel = w.channel := by
  obtain ⟨told, same⟩ := w.learn_eq m
  rw [same]

/-- Learning a marker does not call the work off. -/
@[simp] lemma cancelled_learn (w : Watch) (m : Marker) : (w.learn m).cancelled = w.cancelled := by
  obtain ⟨told, same⟩ := w.learn_eq m
  rw [same]

/-- Learning a marker begins no read. -/
@[simp] lemma reads_learn (w : Watch) (m : Marker) : (w.learn m).reads = w.reads := by
  obtain ⟨told, same⟩ := w.learn_eq m
  rw [same]

/-- Learning a marker tells of nothing, or of a version below the last one. -/
lemma told_learn (w : Watch) (m : Marker) :
    (w.learn m).told = w.told ∨
      ∃ last, w.remembered.version = some last ∧ m.version < last ∧
        (w.learn m).told = .wentBackwards last m.version :: w.told := by
  unfold learn tellBackwards
  split
  · rename_i last remembered
    split
    · rename_i below
      exact .inr ⟨last, remembered, below, rfl⟩
    · exact .inl rfl
  · exact .inl rfl

/-- What is watched stays. -/
lemma Step.plan {w v : Watch} {m : Move} (step : Step w m v) : v.plan = w.plan := by
  cases step with
  | repeated _ m _ _ => exact plan_learn w m
  | news _ m _ _ => exact plan_learn w m
  | _ => rfl

/-- Only a receiver takes from the channel. -/
lemma Step.taken {w v : Watch} {m : Move} (step : Step w m v) (other : m ≠ .take) :
    v.channel.taken = w.channel.taken := by
  cases step with
  | repeated _ m _ _ => exact congrArg Channel.taken (channel_learn w m)
  | news _ m _ _ => exact congrArg Channel.taken (channel_learn w m)
  | deliver leader _ channel put =>
      show channel.taken = w.channel.taken
      unfold Channel.put? at put
      split at put
      · cases put
        rfl
      · cases put
  | take _ _ _ => exact absurd rfl other
  | _ => rfl

/-- The work is called off by one kind of move only, for good. -/
lemma Step.cancelled {w v : Watch} {m : Move} (step : Step w m v) :
    v.cancelled = true ↔ w.cancelled = true ∨ m = .cancel := by
  cases step with
  | cancel _ => exact iff_of_true rfl (.inr rfl)
  | repeated _ m _ _ => simp [read, tell]
  | news _ m _ _ => simp [tell]
  | _ => exact (or_iff_left nofun).symm

/-- The receiver goes by one kind of move only, for good. -/
lemma Step.gone {w v : Watch} {m : Move} (step : Step w m v) :
    v.channel.receiverHere = false ↔ w.channel.receiverHere = false ∨ m = .leave := by
  cases step with
  | leave _ => exact iff_of_true rfl (.inr rfl)
  | repeated _ m _ _ => simp [read, tell]
  | news _ m _ _ => simp [tell]
  | deliver _ _ channel put =>
      obtain ⟨-, rfl⟩ := Channel.put?_eq_some.mp put
      exact (or_iff_left nofun).symm
  | take _ channel taken =>
      obtain ⟨_, -, -, rfl⟩ := Channel.take?_eq_some.mp taken
      exact (or_iff_left nofun).symm
  | _ => exact (or_iff_left nofun).symm

/-- The channel keeps its capacity, and no more items wait in it than it can hold. -/
lemma Step.fits {w v : Watch} {m : Move} (step : Step w m v)
    (fits : w.channel.queue.length ≤ w.channel.capacity) :
    v.channel.capacity = w.channel.capacity ∧
      v.channel.queue.length ≤ v.channel.capacity := by
  cases step with
  | repeated _ m _ _ => simpa [read, tell] using fits
  | news _ m _ _ => simpa [tell] using fits
  | deliver _ _ channel put =>
      obtain ⟨accepts, rfl⟩ := Channel.put?_eq_some.mp put
      simp only [Channel.accepts, Bool.and_eq_true, decide_eq_true_eq] at accepts
      exact ⟨rfl, by simpa [read] using Nat.succ_le_of_lt accepts.2⟩
  | take _ channel taken =>
      obtain ⟨rest, queue, -, rfl⟩ := Channel.take?_eq_some.mp taken
      rw [queue] at fits
      exact ⟨rfl, Nat.le_of_succ_le fits⟩
  | _ => exact ⟨rfl, fits⟩

/-- A read is begun by going over to reading. -/
lemma Step.reading_of_reads {w v : Watch} {m : Move} (step : Step w m v)
    (begun : v.reads ≠ w.reads) : v.phase = .reading := by
  cases step with
  | known _ _ _ => rfl
  | repeated _ _ _ _ => rfl
  | news _ m _ _ => exact absurd (reads_learn w m) begun
  | retry _ => rfl
  | deliver _ _ _ _ => rfl
  | _ => exact absurd rfl begun

/-- What a watch has to say: what it offers, or else what it said last. -/
def spoken (w : Watch) : Option Bool :=
  match w.phase with
  | .offering leader => some leader
  | _ => w.remembered.said

/-- A watch that reads or pauses has said all that it had to say. -/
lemma spoken_eq_said {w : Watch} (quiet : ∀ leader, w.phase ≠ .offering leader) :
    w.spoken = w.remembered.said := by
  unfold spoken
  split
  · rename_i leader offering
    exact absurd offering (quiet leader)
  · rfl

/-- The version remembered changes only to that of a marker that is heard. -/
lemma Step.version {w v : Watch} {m : Move} (step : Step w m v) :
    v.remembered.version = w.remembered.version ∨
      ∃ marker, m = .hear (.marker marker) ∧ v.remembered.version = some marker.version := by
  cases step with
  | repeated _ m _ _ => exact .inr ⟨m, rfl, rfl⟩
  | news _ m _ _ => exact .inr ⟨m, rfl, rfl⟩
  | _ => exact .inl rfl

/-- A marker that is heard is remembered by its version. -/
lemma Step.learns {w v : Watch} {m : Marker} (step : Step w (.hear (.marker m)) v) :
    v.remembered.version = some m.version := by
  cases step with
  | known _ _ same => exact same
  | repeated _ _ _ _ => rfl
  | news _ _ _ _ => rfl

/-- Going backwards is told of only where a marker of a version below the last one is heard. -/
lemma Step.wentBackwards {w v : Watch} {m : Move} (step : Step w m v) {last index : Nat}
    (told : .wentBackwards last index ∈ v.told) :
    .wentBackwards last index ∈ w.told ∨ ∃ marker, m = .hear (.marker marker) ∧
      w.remembered.version = some last ∧ marker.version < last := by
  have learned (m : Marker) (told : .wentBackwards last index ∈ (w.learn m).told) :
      .wentBackwards last index ∈ w.told ∨
        w.remembered.version = some last ∧ m.version < last := by
    rcases w.told_learn m with same | ⟨former, remembered, below, added⟩
    · exact .inl (same ▸ told)
    · rw [added, List.mem_cons] at told
      rcases told with same | before
      · cases same
        exact .inr ⟨remembered, below⟩
      · exact .inl before
  have aside {n : Notice} {rest : List Notice} (mem : .wentBackwards last index ∈ n :: rest)
      (other : .wentBackwards last index ≠ n) : .wentBackwards last index ∈ rest :=
    (List.mem_cons.mp mem).resolve_left other
  cases step with
  | absent _ => exact .inl (aside told nofun)
  | failed _ _ => exact .inl (aside told nofun)
  | repeated _ m _ _ =>
      exact (learned m (aside told nofun)).imp_right fun below => ⟨m, rfl, below⟩
  | news _ m _ _ =>
      exact (learned m (aside told nofun)).imp_right fun below => ⟨m, rfl, below⟩
  | refuse _ _ _ => exact .inl (aside told nofun)
  | stop _ _ => exact .inl (aside told nofun)
  | _ => exact .inl told

/-- A watch that runs on has to say what it had to say before, and remembers the same version, or
it has heard a new marker and has to say what that marker means. -/
lemma Step.spoken {w v : Watch} {m : Move} (step : Step w m v)
    (running : v.phase.isRunning = true) :
    (w.phase.isRunning = true ∧ v.remembered.version = w.remembered.version ∧
        v.spoken = w.spoken) ∨
      ∃ marker, m = .hear (.marker marker) ∧ v.remembered.version = some marker.version ∧
        v.spoken = some (marker.names w.plan.node) := by
  have quiet {p : Phase} (phase : w.phase = p) (runs : p.isRunning = true)
      (reads : ∀ leader, p ≠ .offering leader) (version : v.remembered = w.remembered)
      (said : v.spoken = w.remembered.said) :
      w.phase.isRunning = true ∧ v.remembered.version = w.remembered.version ∧
        v.spoken = w.spoken := by
    refine ⟨by rw [phase, runs], by rw [version], ?_⟩
    rw [said, spoken_eq_said fun leader => by rw [phase]; exact reads leader]
  cases step with
  | absent reading => exact .inl (quiet reading rfl nofun rfl rfl)
  | failed reading _ => exact .inl (quiet reading rfl nofun rfl rfl)
  | known reading _ _ => exact .inl (quiet reading rfl nofun rfl rfl)
  | retry due => exact .inl (quiet due rfl nofun rfl rfl)
  | repeated _ m _ still => exact .inr ⟨m, rfl, rfl, still⟩
  | news _ m _ _ => exact .inr ⟨m, rfl, rfl, rfl⟩
  | deliver leader offering _ _ =>
      refine .inl ⟨by rw [offering]; rfl, rfl, ?_⟩
      show some leader = w.spoken
      unfold Watch.spoken
      rw [offering]
  | refuse _ _ _ => cases running
  | stop _ _ => cases running
  | crash _ => cases running
  | take _ _ _ => exact .inl ⟨running, rfl, rfl⟩
  | leave _ => exact .inl ⟨running, rfl, rfl⟩
  | cancel _ => exact .inl ⟨running, rfl, rfl⟩
  | elapse _ _ => exact .inl ⟨running, rfl, rfl⟩

/-! ### What is remembered -/

/-- What a watch remembers agrees with what it has done. -/
structure Keeps (w : Watch) : Prop where
  /-- What was said last is what the channel accepted last. -/
  said : w.remembered.said = w.channel.accepted.getLast?
  /-- The wait index follows from the version of the last marker. -/
  index : w.remembered.waitIndex = (w.remembered.version.map waitIndexAfter).getD 0
  /-- The read that has begun was begun with this wait index. -/
  asked : w.phase = .reading →
    ∃ r rest, w.reads = r :: rest ∧ r.options.waitIndex = w.remembered.waitIndex

/-- A read begins with the wait index. -/
lemma asked_read (w : Watch) :
    ∃ r rest, w.read.reads = r :: rest ∧ r.options.waitIndex = w.read.remembered.waitIndex :=
  ⟨_, _, rfl, rfl⟩

/-- Every move keeps what is remembered in agreement. -/
lemma Keeps.of_step {w v : Watch} {m : Move} (keeps : w.Keeps) (step : Step w m v) : v.Keeps := by
  cases step with
  | absent _ => exact ⟨keeps.said, keeps.index, fun reading => by cases reading⟩
  | failed _ _ => exact ⟨keeps.said, keeps.index, fun reading => by cases reading⟩
  | known _ _ _ => exact ⟨keeps.said, keeps.index, fun _ => w.asked_read⟩
  | repeated _ m _ _ =>
      refine ⟨?_, rfl, fun _ => asked_read _⟩
      show w.remembered.said = (w.learn m).channel.accepted.getLast?
      rw [channel_learn]
      exact keeps.said
  | news _ m _ _ =>
      refine ⟨?_, rfl, fun reading => by cases reading⟩
      show w.remembered.said = (w.learn m).channel.accepted.getLast?
      rw [channel_learn]
      exact keeps.said
  | retry _ => exact ⟨keeps.said, keeps.index, fun _ => w.asked_read⟩
  | deliver leader _ channel put =>
      refine ⟨?_, keeps.index, fun _ => asked_read _⟩
      show some leader = channel.accepted.getLast?
      rw [Channel.accepted_of_put? put, List.getLast?_concat]
  | refuse _ _ _ => exact ⟨keeps.said, keeps.index, fun reading => by cases reading⟩
  | stop _ _ => exact ⟨keeps.said, keeps.index, fun reading => by cases reading⟩
  | crash _ => exact ⟨keeps.said, keeps.index, fun reading => by cases reading⟩
  | take leader channel taken =>
      refine ⟨?_, keeps.index, keeps.asked⟩
      show w.remembered.said = channel.accepted.getLast?
      rw [Channel.accepted_of_take? taken]
      exact keeps.said
  | leave _ => exact ⟨keeps.said, keeps.index, keeps.asked⟩
  | cancel _ => exact ⟨keeps.said, keeps.index, keeps.asked⟩
  | elapse _ _ => exact ⟨keeps.said, keeps.index, keeps.asked⟩

/-- **In every run what is remembered agrees with what was done.** -/
theorem keeps_of_run {plan : Plan} {channel : Channel Bool} {moves : List Move} {w : Watch}
    (empty : channel.accepted = []) (run : (Watch.new plan channel).run? moves = some w) :
    w.Keeps := by
  refine of_run (P := Keeps) (fun keeps h => keeps.of_step (step_of_move? h)) ?_ run
  refine ⟨?_, rfl, fun _ => asked_read _⟩
  show none = channel.accepted.getLast?
  rw [empty]
  rfl

end Watch
end FloatingIp
