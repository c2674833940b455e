import FloatingIp.Proofs.Rehearsal.Clockwork
import FloatingIp.Rehearsal.Manager
import FloatingIp.Rehearsal.MemoryStore
import FloatingIp.Rehearsal.Service
import FloatingIp.Rehearsal.Watch

/-!
# Rehearsals are runs

Each rehearsal plays a run of its system: coordinator and reconciler on an imagined host
(`ConvergencePlay.exists_run`), the whole manager (`ManagerPlay.exists_run`), the store in memory
(`StorePlay.exists_run`), a watch on a script (`WatchPlay.exists_run`) and a program without a store
(`ServicePlay.exists_run`).  What is proved of all runs of these systems holds of every rehearsal,
whatever its host, its script and its events from outside.
-/

namespace FloatingIp.Rehearsal

/-! ### Coordinator and reconciler -/

namespace ConvergencePlay

/-- A step of this play moves coordinator and reconciler. -/
abbrev Moves (s : State) (step : Option State) : Prop :=
  Plays Convergence.move? State.system s step

/-- A move of the system. -/
lemma moves_move (s : State) (m : Convergence.Move) : Moves s (move? s m) :=
  plays_move (fun s system => { s with system }) (fun _ _ => rfl) s m

/-- An answer of the host. -/
lemma moves_answer (s : State) : Moves s (answer? s) := by
  apply Plays.lookup
  intro call
  apply Plays.guarded
  intro due
  exact (moves_move s _).noting fun _ => rfl

/-- A leadership change from the channel. -/
lemma moves_receive (s : State) : Moves s (receive? s) := by
  apply Plays.lookup
  intro taken
  exact (moves_move s _).noting fun _ => rfl

/-- The end of the channel. -/
lemma moves_hangUp (s : State) : Moves s (hangUp? s) :=
  Plays.guarded fun _ => moves_move s _

/-- The receiver goes. -/
lemma moves_leave (s : State) : Moves s (leave? s) :=
  Plays.guarded fun _ => Plays.same rfl

/-- The clockwork drives coordinator and reconciler. -/
lemma drives : clockwork.Drives Convergence.move? State.system where
  next s := by
    apply (moves_move s _).orElse
    apply (moves_answer s).orElse
    apply (moves_move s _).orElse
    apply (moves_move s _).orElse
    apply (moves_receive s).orElse
    apply (moves_hangUp s).orElse
    apply (moves_leave s).orElse
    apply (moves_move s _).orElse
    exact moves_move s _
  wait s millis := (moves_move s _).leads

/-- An event from outside calls the work off, drops the coordinator, or leaves both alone. -/
lemma leads_happen (s : State) (e : Event) :
    Leads Convergence.move? s.system (happen s e).2.system := by
  cases e with
  | cancel =>
      have cancels := moves_move s .cancel
      unfold happen
      cases moved : move? s .cancel with
      | none => exact Leads.refl _
      | some t => exact cancels t moved
  | abort => exact (moves_move s _).leads
  | send leader =>
      simp only [happen]
      split
      · exact Leads.refl _
      · split <;> exact Leads.refl _
  | close => exact Leads.refl _
  | host e => exact Leads.refl _
  | look => exact Leads.refl _

/-- Events from outside are played as moves. -/
lemma leads_playEvents (s : State) (events : List (Nat × Event)) :
    Leads Convergence.move? s.system (playEvents s events).2.system := by
  induction events generalizing s with
  | nil => exact Leads.refl _
  | cons event rest ih =>
      obtain ⟨time, e⟩ := event
      have played := drives.playUpTo (fun _ => false) time Clockwork.bound s
      exact ((played.trans (leads_happen _ e)).trans (drives.settle _)).trans (ih _)

/-- **A rehearsal of coordinator and reconciler is a run of them.** -/
theorem exists_run (recheck : Nat) (channel : Channel Bool) (host : ImaginedHost)
    (events : List (Nat × Event)) (time : Nat) :
    ∃ moves, (Convergence.new recheck).run? moves =
      some (play (.new recheck channel host) events time).2.system :=
  (leads_playEvents (.new recheck channel host) events).trans (drives.playUpTo _ _ _ _)

end ConvergencePlay

/-! ### The manager -/

namespace ManagerPlay

/-- A step of this play moves the manager. -/
abbrev Moves (s : State) (step : Option State) : Prop :=
  Plays Manager.move? State.manager s step

/-- A move of the manager. -/
lemma moves_move (s : State) (m : Manager.Move) : Moves s (move? s m) :=
  plays_move (fun s manager => { s with manager }) (fun _ _ => rfl) s m

/-- A read that comes to the store, or breaks down. -/
lemma moves_arrive (s : State) : Moves s (arrive? s) := by
  apply Plays.lookup
  intro time
  exact Plays.guarded fun _ => moves_move s _

/-- The end of a read. -/
lemma moves_hear (s : State) : Moves s (hear? s) := by
  apply Plays.lookup
  intro ticket
  apply Plays.lookup
  intro finished
  exact (moves_move s _).noting fun _ => rfl

/-- An answer of the host. -/
lemma moves_answer (s : State) : Moves s (answer? s) := by
  apply Plays.lookup
  intro call
  apply Plays.guarded
  intro due
  exact (moves_move s _).noting fun _ => rfl

/-- The end of the manager's course is noted. -/
lemma moves_end (s : State) : Moves s (end? s) := by
  unfold end?
  split
  · exact Plays.guarded fun _ => Plays.same rfl
  · exact Plays.nothing s

/-- The clockwork drives the manager. -/
lemma drives : clockwork.Drives Manager.move? State.manager where
  next s := by
    apply (moves_move s _).orElse
    apply (moves_answer s).orElse
    apply (moves_move s _).orElse
    apply (moves_move s _).orElse
    apply (moves_arrive s).orElse
    apply (moves_hear s).orElse
    apply (moves_move s _).orElse
    apply (moves_move s _).orElse
    apply (moves_move s _).orElse
    apply (moves_move s _).orElse
    apply (moves_move s _).orElse
    apply (moves_move s _).orElse
    apply (moves_move s _).orElse
    apply (moves_move s _).orElse
    exact moves_end s
  wait s millis := (moves_move s _).leads

/-- An event from outside is a move of the manager, or leaves it alone. -/
lemma leads_happen (s : State) (e : Event) :
    Leads Manager.move? s.manager (happen s e).2.manager := by
  cases e with
  | set value => exact (moves_move s _).leads
  | clear => exact (moves_move s _).leads
  | failNext count => exact (moves_move s _).leads
  | cancel =>
      have cancels := moves_move s .cancel
      unfold happen
      cases moved : move? s .cancel with
      | none => exact Leads.refl _
      | some t => exact cancels t moved
  | abort =>
      simp only [happen]
      split
      · exact Leads.refl _
      · exact (moves_move s .abandon).leads
  | breakReads => exact Leads.refl _
  | send => exact Leads.refl _
  | host e => exact Leads.refl _
  | look => exact Leads.refl _

/-- Events from outside are played as moves. -/
lemma leads_playEvents (s : State) (events : List (Nat × Event)) :
    Leads Manager.move? s.manager (playEvents s events).2.manager := by
  induction events generalizing s with
  | nil => exact Leads.refl _
  | cons event rest ih =>
      obtain ⟨time, e⟩ := event
      have played := drives.playUpTo (fun _ => false) time Clockwork.bound s
      exact ((played.trans (leads_happen _ e)).trans (drives.settle _)).trans (ih _)

/-- **A rehearsal of a manager is a run of it.** -/
theorem exists_run (manager : Manager) (latency : Nat) (host : ImaginedHost)
    (events : List (Nat × Event)) (time : Nat) :
    ∃ moves, manager.run? moves =
      some (play (.new manager latency host) events time).2.manager :=
  (leads_playEvents (.new manager latency host) events).trans (drives.playUpTo _ _ _ _)

end ManagerPlay

/-! ### The store in memory -/

namespace StorePlay

/-- A step of this play moves the store. -/
abbrev Moves (s : State) (step : Option State) : Prop :=
  Plays MemoryStore.move? State.store s step

/-- A move of the store. -/
lemma moves_move (s : State) (m : MemoryStore.Move) :
    Moves s ((s.store.move? m).map fun store => { s with store }) :=
  plays_move (fun s store => { s with store }) (fun _ _ => rfl) s m

/-- The end of a read. -/
lemma moves_finishNext (s : State) : Moves s (finishNext? s) := by
  apply Plays.lookup
  intro p t made
  obtain ⟨⟨result, store⟩, finished, rest⟩ := Option.bind_eq_some_iff.mp made
  cases rest
  refine ⟨[.finish p.ticket], run_cons.mpr ⟨store, ?_, rfl⟩⟩
  rw [MemoryStore.move?, finished]
  rfl

/-- The clockwork drives the store. -/
lemma drives : clockwork.Drives MemoryStore.move? State.store where
  next := moves_finishNext
  wait s _ := (moves_move s _).leads

/-- A move with what follows from it is made of moves. -/
lemma leads_move (s : State) (m : MemoryStore.Move) :
    Leads MemoryStore.move? s.store (move s m).store :=
  drives.settle_getD (moves_move s m)

/-- A step is made of moves. -/
lemma leads_step (s : State) (step : Step) :
    Leads MemoryStore.move? s.store (StorePlay.step s step).2.store := by
  cases step with
  | set value => exact leads_move s _
  | clear => exact leads_move s _
  | failNext count => exact leads_move s _
  | sleep millis => exact drives.playUpTo _ _ _ s
  | name => exact Leads.refl _
  | get waitIndex =>
      have played := (leads_move s (.start waitIndex)).trans (drives.playUpTo
        (fun t => (endOf? t s.store.reads).isSome) (s.store.now + s.store.window) Clockwork.bound _)
      unfold StorePlay.step
      dsimp only
      split <;> exact played
  | start id waitIndex => exact leads_move s _
  | check id =>
      unfold StorePlay.step
      dsimp only
      split
      · exact Leads.refl _
      · split <;> exact Leads.refl _

/-- **A rehearsal of the store is a run of it.** -/
theorem exists_run (window : Nat) (steps : List Step) :
    ∃ moves, (MemoryStore.new window).run? moves =
      some (steps.foldl (fun s x => (step s x).2) (.new window)).store := by
  have leads : ∀ s : State,
      Leads MemoryStore.move? s.store (steps.foldl (fun s x => (step s x).2) s).store := by
    induction steps with
    | nil => exact fun s => Leads.refl _
    | cons x steps ih => exact fun s => (leads_step s x).trans (ih _)
  exact leads (.new window)

end StorePlay

/-! ### A watch -/

namespace WatchPlay

/-- A step of this play moves the watch. -/
abbrev Moves (s : State) (step : Option State) : Prop :=
  Plays Watch.move? State.watch s step

/-- A move of the watch. -/
lemma moves_move (s : State) (m : Watch.Move) : Moves s (move? s m) :=
  plays_move (fun s watch => { s with watch }) (fun _ _ => rfl) s m

/-- The receiver takes an item. -/
lemma moves_take (s : State) : Moves s (take? s) := by
  apply Plays.guarded
  intro due
  apply Plays.lookup
  intro taken
  apply (moves_move s .take).andThen
  intro t
  exact Plays.same rfl

/-- A read gets its entry of the script. -/
lemma moves_serve (s : State) : Moves s (serve? s) := by
  apply Plays.guarded
  intro waiting
  split
  · exact Plays.same rfl
  · exact Plays.nothing s

/-- The end of a read. -/
lemma moves_hear (s : State) : Moves s (hear? s) := by
  unfold hear?
  split
  · apply Plays.guarded
    intro due
    exact (moves_move s _).noting fun _ => rfl
  · exact Plays.nothing s

/-- The clockwork drives the watch. -/
lemma drives : clockwork.Drives Watch.move? State.watch where
  next s := by
    apply (Plays.guarded fun _ => moves_move s _).orElse
    apply (moves_take s).orElse
    apply (moves_serve s).orElse
    apply (moves_move s _).orElse
    apply (moves_hear s).orElse
    apply (moves_move s _).orElse
    apply (moves_move s _).orElse
    exact moves_move s _
  wait s millis := (moves_move s _).leads

/-- **A rehearsal of a watch is a run of it.** -/
theorem exists_run (plan : Watch.Plan) (channel : Channel Bool) (script : List ScriptedRead)
    (receiveDelay : Nat) (receiveLimit : Option Nat) (time : Nat) :
    ∃ moves, (Watch.new plan channel).run? moves =
      some (playAndCancel (.new plan channel script receiveDelay receiveLimit) time).watch := by
  have played := drives.playUpTo (fun _ => false) time Clockwork.bound
    (.new plan channel script receiveDelay receiveLimit)
  exact played.trans (drives.settle_getD (moves_move _ .cancel))

end WatchPlay

/-! ### A program without a store -/

namespace ServicePlay

/-- A step of this play moves coordinator and reconciler. -/
abbrev Moves (s : State) (step : Option State) : Prop :=
  Plays Convergence.move? State.system s step

/-- A move of the system. -/
lemma moves_move (s : State) (m : Convergence.Move) : Moves s (move? s m) :=
  plays_move (fun s system => { s with system }) (fun _ _ => rfl) s m

/-- A conversation with the machine. -/
lemma moves_answer (s : State) : Moves s (answer? s) := by
  apply Plays.lookup
  intro call
  apply (moves_move s _).andThen
  intro t
  exact Plays.same rfl

/-- The clockwork drives coordinator and reconciler. -/
lemma drives : clockwork.Drives Convergence.move? State.system where
  next s := by
    apply (moves_move s _).orElse
    apply (moves_answer s).orElse
    apply (moves_move s _).orElse
    apply (moves_move s _).orElse
    apply (moves_move s _).orElse
    exact moves_move s _
  wait s millis := (moves_move s _).leads

/-- **A rehearsal of a program is a run of what was set up.** -/
theorem exists_run {Client : Type} (m : Setup Client) (machine : Host.ScriptedMachine)
    (replies : List Host.Reply) (count : Nat) :
    ∃ moves, m.convergence.run? moves =
      some (playAndCancel (.new m machine replies) count).system := by
  have played := drives.playUpTo (fun s => count ≤ s.commands.length)
    ((count + 1) * m.convergence.interval) Clockwork.bound (.new m machine replies)
  exact played.trans (drives.settle_getD (moves_move _ .cancel))

end ServicePlay
end FloatingIp.Rehearsal
