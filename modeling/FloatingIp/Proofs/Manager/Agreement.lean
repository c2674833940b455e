import FloatingIp.Proofs.Convergence.Desire
import FloatingIp.Proofs.Manager.Parties

/-!
# Agreement of the desired state with the marker

Between the marker and the desired state lie three places in which news can be dropped: the watch
passes over markers of a known version and over those that repeat what was said, the channel holds
items back, and the coordinator writes only what differs.  None of them loses the last word.

* What the coordinator desires is the last item that it took from the channel (`ObeysLast`).
* What the watch has to say answers the record as it is, if the version that it remembers is the
  record's (`Tracks`).  A write makes the two versions differ until the watch has read again.

So in a `Settled` manager, where the watch waits at the record's version, nothing is in the channel
or offered to it, and the reconciler rests, the address is desired exactly if the marker names the
node (`desired_of_settled`).
-/

namespace FloatingIp.Manager

/-! ### The last item taken is obeyed -/

/-- Until the work is called off, the desired state is the last item taken from the channel. -/
def ObeysLast (s : Manager) : Prop :=
  s.convergence.cancelled = false →
    s.convergence.cell.value = s.watch.channel.taken.getLast?.getD false

/-- What is taken from the channel is the last that was taken. -/
lemma taken_of_take? {c d : Channel Bool} {leader : Bool} (h : c.take? = some (leader, d)) :
    d.taken = c.taken ++ [leader] := by
  unfold Channel.take? at h
  split at h
  · split at h
    · cases h
      rfl
    · cases h
  · cases h

/-- The watch takes from the channel only when the coordinator receives. -/
lemma watchMove?_ne_take {s : Manager} {m : Move} (other : m ≠ .receive) {n : Watch.Move}
    (h : s.watchMove? m = some n) : n ≠ .take := by
  rintro rfl
  cases m with
  | receive => exact other rfl
  | hear =>
      obtain ⟨result, -, same⟩ := Option.map_eq_some_iff.mp h
      cases same
  | _ => cases h

/-- The coordinator takes a leadership change only when it receives. -/
lemma convergenceMove?_desires {s : Manager} {m : Move} (other : m ≠ .receive)
    {n : Convergence.Move} (h : s.convergenceMove? m = some n) :
    n.desires? = none ∨ n = .drain := by
  cases m with
  | receive => exact absurd rfl other
  | drain => cases h; exact .inr rfl
  | _ => cases h <;> exact .inl rfl

/-- Moves of the manager in which the coordinator does not receive leave what was taken. -/
lemma Parts.taken {s t : Manager} {m : Move} (parts : Parts s m t) (other : m ≠ .receive) :
    t.watch.channel.taken = s.watch.channel.taken := by
  rcases parts.watch.cases with ⟨-, same⟩ | ⟨n, own, h⟩
  · rw [same]
  · exact (Watch.step_of_move? h).taken (watchMove?_ne_take other own)

/-- Moves of the manager in which the coordinator does not receive leave the desired state, until
the work is called off. -/
lemma Parts.desired {s t : Manager} {m : Move} (parts : Parts s m t) (other : m ≠ .receive)
    (active : s.convergence.cancelled = false) :
    t.convergence.cell.value = s.convergence.cell.value := by
  rcases parts.convergence.cases with ⟨-, same⟩ | ⟨n, own, h⟩
  · rw [same]
  · rcases convergenceMove?_desires other own with none | rfl
    · rw [Convergence.value_of_move h, none]
      rfl
    · rw [Convergence.over_of_drain h] at active
      cases active

/-- What is not called off after a move was not called off before. -/
lemma Parts.active {s t : Manager} {m : Move} (parts : Parts s m t)
    (active : t.convergence.cancelled = false) : s.convergence.cancelled = false := by
  rcases parts.convergence.cases with ⟨-, same⟩ | ⟨n, -, h⟩
  · rw [← same]
    exact active
  · cases off : s.convergence.cancelled with
    | false => rfl
    | true =>
        rw [(Convergence.cancelled_of_move h).mpr (.inl off)] at active
        cases active

/-- Every move keeps the last item obeyed. -/
lemma ObeysLast.of_move {s t : Manager} {m : Move} (obeys : s.ObeysLast)
    (h : s.move? m = some t) : t.ObeysLast := by
  intro active
  have parts := parts_of_move? h
  by_cases receive : m = .receive
  · subst receive
    have watch : s.watch.move? .take = some t.watch := parts.watch
    obtain ⟨⟨leader, channel⟩, taken, same⟩ := Option.map_eq_some_iff.mp watch
    have received : s.convergence.move? (.receive leader) = some t.convergence := by
      have convergence := parts.convergence
      rw [convergenceMove?, taken] at convergence
      exact convergence
    rw [Convergence.value_of_move received, ← same]
    show leader = channel.taken.getLast?.getD false
    rw [taken_of_take? taken, List.getLast?_concat]
    rfl
  · rw [parts.desired receive (parts.active active), parts.taken receive]
    exact obeys (parts.active active)

/-! ### The watch tracks the record -/

/-- What the watch remembers is the record at some time, and if it is the record as it is, the
watch has to say what the record means. -/
structure Tracks (s : Manager) : Prop where
  /-- A record with a value has been written. -/
  written : s.store.Written
  /-- The version remembered is one that the record has or had. -/
  past : ∀ v, s.watch.remembered.version = some v → 0 < v ∧ v ≤ s.store.version
  /-- At the version that the record has, the watch has to say what the record means. -/
  fresh : s.watch.phase.isRunning = true →
    s.watch.remembered.version = some s.store.version →
    ∃ value, s.store.value = some value ∧
      s.watch.spoken = some (value == s.watch.plan.node)

/-- What is watched stays. -/
lemma Parts.plan {s t : Manager} {m : Move} (parts : Parts s m t) :
    t.watch.plan = s.watch.plan := by
  rcases parts.watch.cases with ⟨-, same⟩ | ⟨n, -, h⟩
  · rw [same]
  · exact (Watch.step_of_move? h).plan

/-- **Every move keeps the watch on the track of the record.** -/
lemma Tracks.of_move {s t : Manager} {m : Move} (tracks : s.Tracks) (h : s.move? m = some t) :
    t.Tracks := by
  rcases vigil_step h with same | ⟨n, step⟩
  · have store : t.store = s.store := congrArg Vigil.store same
    have watch : t.watch = s.watch := congrArg Vigil.watch same
    exact ⟨store ▸ tracks.written, store ▸ watch ▸ tracks.past, store ▸ watch ▸ tracks.fresh⟩
  refine ⟨step.written tracks.written, ?_, ?_⟩
  · intro v remembered
    have grows : s.store.version ≤ t.store.version := by
      rcases step.record with ⟨raised, -⟩ | same
      · exact Nat.le_of_succ_le (Nat.le_of_eq raised.symm)
      · exact Nat.le_of_eq same.version.symm
    rcases step.version with same | ⟨current, there⟩
    · have before := tracks.past v (same ▸ remembered)
      exact ⟨before.1, before.2.trans grows⟩
    · cases current.symm.trans remembered
      exact ⟨tracks.written there, grows⟩
  · intro running remembered
    have plan : t.watch.plan = s.watch.plan := step.plan
    rw [plan]
    rcases step.record with ⟨raised, same⟩ | same
    · -- after a write the version remembered is below that of the record
      have raised : t.store.version = s.store.version + 1 := raised
      have same : t.watch = s.watch := same
      rw [same, raised] at remembered
      have before := tracks.past _ remembered
      omega
    · have version : t.store.version = s.store.version := same.version
      have value : t.store.value = s.store.value := same.value
      rw [version] at remembered
      rw [value]
      rcases step.spoken running with ⟨before, still, spoken⟩ | news
      · have spoken : t.watch.spoken = s.watch.spoken := spoken
        rw [spoken]
        exact tracks.fresh before (still.symm.trans remembered)
      · exact news

/-! ### Settled managers -/

/-- A manager in which nothing is to be done before the record or the host changes. -/
structure Settled (s : Manager) : Prop where
  /-- The work is not called off. -/
  active : s.convergence.cancelled = false
  /-- The watch is in a read. -/
  reading : s.watch.phase = .reading
  /-- The read waits for the record to be written again. -/
  waiting : ∃ r rest, s.watch.reads = r :: rest ∧ 0 < r.options.waitIndex ∧
    r.options.waitIndex = s.store.version
  /-- Nothing is in the channel. -/
  drained : s.watch.channel.queue = []
  /-- The reconciler rests. -/
  resting : s.convergence.reconciler.phase = .resting
  /-- The reconciler has seen every write of the desired state. -/
  seen : s.convergence.cell.changedSince s.convergence.reconciler.seen = false

/-- A watch that waits at the record's version remembers that version. -/
lemma Settled.version {s : Manager} (settled : s.Settled) (tracks : s.Tracks)
    (keeps : s.watch.Keeps) : s.watch.remembered.version = some s.store.version := by
  obtain ⟨r, rest, reads, positive, current⟩ := settled.waiting
  obtain ⟨r', rest', reads', index⟩ := keeps.asked settled.reading
  rw [reads] at reads'
  cases reads'
  rw [keeps.index] at index
  cases remembered : s.watch.remembered.version with
  | none =>
      rw [remembered] at index
      have none : r.options.waitIndex = 0 := index
      omega
  | some v =>
      rw [remembered] at index
      have index : r.options.waitIndex = max v 1 := index
      have past := tracks.past v remembered
      rw [← current, index]
      congr
      omega

/-- **In a settled manager the address is desired exactly if the marker names the node.** -/
theorem desired_of_settled {s : Manager} (settled : s.Settled) (tracks : s.Tracks)
    (obeys : s.ObeysLast) (keeps : s.watch.Keeps) :
    s.convergence.cell.value = true ↔ s.store.Names s.watch.plan.node := by
  have running : s.watch.phase.isRunning = true := by
    rw [settled.reading]
    rfl
  obtain ⟨value, there, spoken⟩ := tracks.fresh running (settled.version tracks keeps)
  have said : s.watch.channel.taken.getLast? = some (value == s.watch.plan.node) := by
    have quiet := Watch.spoken_eq_said (w := s.watch) fun leader => by
      rw [settled.reading]
      nofun
    rw [← spoken, quiet, keeps.said, Channel.accepted, settled.drained, List.append_nil]
  rw [obeys settled.active, said, MemoryStore.names_iff there]
  rfl

/-! ### Runs from the beginning -/

section

variable {capacity recheck : Nat} {store : MemoryStore} {plan : Watch.Plan}
  {channel : Channel Bool} {moves : List Move} {s : Manager}

/-- A channel that is new has accepted nothing. -/
lemma accepted_new (opened : Channel.new? capacity = some channel) :
    channel.taken = [] ∧ channel.accepted = [] := by
  obtain ⟨-, rfl⟩ := Channel.eq_of_new? opened
  exact ⟨rfl, rfl⟩

/-- In every run the watch is on the track of the record. -/
lemma tracks_of_run (written : store.Written)
    (run : (Manager.new store plan channel recheck).run? moves = some s) : s.Tracks := by
  refine of_run (P := Tracks) Tracks.of_move ⟨written, ?_, ?_⟩ run
  · intro v remembered
    cases remembered
  · intro _ remembered
    cases remembered

/-- In every run the last item taken is obeyed. -/
lemma obeysLast_of_run (opened : Channel.new? capacity = some channel)
    (run : (Manager.new store plan channel recheck).run? moves = some s) : s.ObeysLast := by
  refine of_run (P := ObeysLast) ObeysLast.of_move ?_ run
  intro _
  show false = channel.taken.getLast?.getD false
  rw [(accepted_new opened).1]
  rfl

/-- In every run the plan is what it was. -/
lemma plan_of_run (run : (Manager.new store plan channel recheck).run? moves = some s) :
    s.watch.plan = plan := by
  refine of_run (P := fun s => s.watch.plan = plan) ?_ rfl run
  intro s t m same h
  rw [(parts_of_move? h).plan, same]

/-- In every settled state of a run the address is desired exactly if the marker names the node. -/
theorem desired_of_run (written : store.Written) (opened : Channel.new? capacity = some channel)
    (run : (Manager.new store plan channel recheck).run? moves = some s) (settled : s.Settled) :
    s.convergence.cell.value = true ↔ s.store.Names plan.node := by
  obtain ⟨own, watching⟩ := exists_watch_run run
  have keeps := Watch.keeps_of_run (accepted_new opened).2 watching
  rw [← plan_of_run run]
  exact desired_of_settled settled (tracks_of_run written run) (obeysLast_of_run opened run) keeps

end

end FloatingIp.Manager
