import FloatingIp.Manager
import FloatingIp.Proofs.Convergence.Turn
import FloatingIp.Proofs.Vigil.Step

/-!
# The parties of the manager

Each move of the manager is a move of the store, of the watch, of coordinator and reconciler, or a
common move of some of them.  `storeMove?`, `watchMove?` and `convergenceMove?` say which move of a
party it is, if any, and `parts_of_move?` that the party then makes this move and is left alone
otherwise.  What holds in every run of a party holds of it in every run of the manager.  The same
goes for the store and the watch together, which are a vigil (`follows_vigil`).
-/

namespace FloatingIp.Manager

/-- The result of the read that has reached the store, if it can end. -/
def heard? (s : Manager) : Option ReadResult := do
  let (result, _) ← s.store.finish? (← s.reading)
  some result

/-- The move of the store in a move of the manager. -/
def storeMove? (s : Manager) : Move → Option MemoryStore.Move
  | .set value => some (.set value)
  | .clear => some .clear
  | .failNext count => some (.failNext count)
  | .arrive => some (.start s.watch.remembered.waitIndex)
  | .hear => s.reading.map .finish
  | .stop => s.reading.map .forget
  | .crash => s.reading.map .forget
  | .elapse millis => some (.elapse millis)
  | _ => none

/-- The move of the watch in a move of the manager. -/
def watchMove? (s : Manager) : Move → Option Watch.Move
  | .hear => s.heard?.map .hear
  | .retry => some .retry
  | .deliver => some .deliver
  | .refuse => some .refuse
  | .stop => some .stop
  | .crash => some .crash
  | .receive => some .take
  | .join => some .leave
  | .abandon => some .leave
  | .cancel => some .cancel
  | .elapse millis => some (.elapse millis)
  | _ => none

/-- The move of coordinator and reconciler in a move of the manager. -/
def convergenceMove? (s : Manager) : Move → Option Convergence.Move
  | .receive => s.watch.channel.take?.map fun (leader, _) => .receive leader
  | .hangUp => some .hangUp
  | .recheck => some .recheck
  | .drain => some .drain
  | .join => some .join
  | .begin => some .begin
  | .wake => some .wake
  | .answer a => some (.answer a)
  | .cancel => some .cancel
  | .abandon => some .abandon
  | .elapse millis => some (.elapse millis)
  | _ => none

/-- What the parties do in a move of the manager. -/
structure Parts (s : Manager) (m : Move) (t : Manager) : Prop where
  /-- The store makes its part of the move. -/
  store : Follows MemoryStore.move? (s.storeMove? m) s.store t.store
  /-- The watch makes its part of the move. -/
  watch : Follows Watch.move? (s.watchMove? m) s.watch t.watch
  /-- Coordinator and reconciler make their part of the move. -/
  convergence : Follows Convergence.move? (s.convergenceMove? m) s.convergence t.convergence

/-! ### Moves of one party -/

/-- A move of the store alone moves the store. -/
lemma onStore?_eq_some {s t : Manager} {m : MemoryStore.Move} :
    s.onStore? m = some t ↔ ∃ store, s.store.move? m = some store ∧ { s with store } = t :=
  Option.map_eq_some_iff

/-- A move of the watch alone moves the watch. -/
lemma onWatch?_eq_some {s t : Manager} {m : Watch.Move} :
    s.onWatch? m = some t ↔ ∃ watch, s.watch.move? m = some watch ∧ { s with watch } = t :=
  Option.map_eq_some_iff

/-- A move of coordinator and reconciler alone moves these. -/
lemma onConvergence?_eq_some {s t : Manager} {m : Convergence.Move} :
    s.onConvergence? m = some t ↔
      ∃ convergence, s.convergence.move? m = some convergence ∧ { s with convergence } = t :=
  Option.map_eq_some_iff

/-- The store moves alone. -/
lemma Parts.of_store {s t : Manager} {m : Move} {n : MemoryStore.Move}
    (store : s.storeMove? m = some n) (watch : s.watchMove? m = none)
    (convergence : s.convergenceMove? m = none) (h : s.onStore? n = some t) : Parts s m t := by
  obtain ⟨moved, hmoved, rfl⟩ := onStore?_eq_some.mp h
  refine ⟨?_, ?_, ?_⟩
  · rw [store]
    exact hmoved
  · rw [watch]
    rfl
  · rw [convergence]
    rfl

/-- The watch moves alone. -/
lemma Parts.of_watch {s t : Manager} {m : Move} {n : Watch.Move}
    (store : s.storeMove? m = none) (watch : s.watchMove? m = some n)
    (convergence : s.convergenceMove? m = none) (h : s.onWatch? n = some t) : Parts s m t := by
  obtain ⟨moved, hmoved, rfl⟩ := onWatch?_eq_some.mp h
  refine ⟨?_, ?_, ?_⟩
  · rw [store]
    rfl
  · rw [watch]
    exact hmoved
  · rw [convergence]
    rfl

/-- Coordinator and reconciler move alone. -/
lemma Parts.of_convergence {s t : Manager} {m : Move} {n : Convergence.Move}
    (store : s.storeMove? m = none) (watch : s.watchMove? m = none)
    (convergence : s.convergenceMove? m = some n) (h : s.onConvergence? n = some t) :
    Parts s m t := by
  obtain ⟨moved, hmoved, rfl⟩ := onConvergence?_eq_some.mp h
  refine ⟨?_, ?_, ?_⟩
  · rw [store]
    rfl
  · rw [watch]
    rfl
  · rw [convergence]
    exact hmoved

/-- Giving up a read is a matter of the store, if there is one. -/
lemma forgetRead_parts (s : Manager) :
    Follows MemoryStore.move? (s.reading.map .forget) s.store s.forgetRead.store ∧
      s.forgetRead.watch = s.watch ∧ s.forgetRead.convergence = s.convergence := by
  unfold forgetRead
  split
  · rename_i ticket reading
    rw [reading]
    exact ⟨rfl, rfl, rfl⟩
  · rename_i reading
    rw [reading]
    exact ⟨rfl, rfl, rfl⟩

/-- The watch gives up its read in a move of its own. -/
lemma Parts.of_giveUp {s t : Manager} {m : Move} {n : Watch.Move}
    (store : s.storeMove? m = s.reading.map .forget) (watch : s.watchMove? m = some n)
    (convergence : s.convergenceMove? m = none) (h : s.forgetRead.onWatch? n = some t) :
    Parts s m t := by
  obtain ⟨forgotten, sameWatch, sameConvergence⟩ := s.forgetRead_parts
  obtain ⟨w, hw, rfl⟩ := onWatch?_eq_some.mp h
  rw [sameWatch] at hw
  refine ⟨?_, ?_, ?_⟩
  · rw [store]
    exact forgotten
  · rw [watch]
    exact hw
  · rw [convergence]
    exact sameConvergence

/-- Coordinator and watch leave in a common move. -/
lemma Parts.of_leaving {s t : Manager} {m : Move} {n : Convergence.Move}
    (store : s.storeMove? m = none) (watch : s.watchMove? m = some .leave)
    (convergence : s.convergenceMove? m = some n) (h : s.leaving? n = some t) : Parts s m t := by
  obtain ⟨u, hu, ht⟩ := Option.bind_eq_some_iff.mp h
  obtain ⟨c, hc, rfl⟩ := onConvergence?_eq_some.mp hu
  obtain ⟨w, hw, rfl⟩ := onWatch?_eq_some.mp ht
  refine ⟨?_, ?_, ?_⟩
  · rw [store]
    rfl
  · rw [watch]
    exact hw
  · rw [convergence]
    exact hc

/-- **Each party makes its part of a move.** -/
theorem parts_of_move? {s t : Manager} {m : Move} (h : s.move? m = some t) : Parts s m t := by
  cases m with
  | set value => exact .of_store rfl rfl rfl h
  | clear => exact .of_store rfl rfl rfl h
  | failNext count => exact .of_store rfl rfl rfl h
  | arrive =>
      obtain ⟨-, rfl⟩ := of_guard h
      exact ⟨rfl, rfl, rfl⟩
  | hear =>
      obtain ⟨ticket, reading, h⟩ := Option.bind_eq_some_iff.mp h
      obtain ⟨⟨result, store⟩, finished, h⟩ := Option.bind_eq_some_iff.mp h
      obtain ⟨watch, hwatch, h⟩ := Option.bind_eq_some_iff.mp h
      cases h
      refine ⟨?_, ?_, rfl⟩
      · simp [storeMove?, reading, Follows, MemoryStore.move?, finished]
      · simpa [watchMove?, heard?, reading, finished, Follows] using hwatch
  | retry => exact .of_watch rfl rfl rfl h
  | deliver => exact .of_watch rfl rfl rfl h
  | refuse => exact .of_watch rfl rfl rfl h
  | stop => exact .of_giveUp rfl rfl rfl h
  | crash => exact .of_giveUp rfl rfl rfl h
  | receive =>
      obtain ⟨⟨leader, channel⟩, taken, h⟩ := Option.bind_eq_some_iff.mp h
      obtain ⟨u, hu, h⟩ := Option.bind_eq_some_iff.mp h
      obtain ⟨watch, hwatch, rfl⟩ := onWatch?_eq_some.mp hu
      obtain ⟨convergence, hconvergence, rfl⟩ := onConvergence?_eq_some.mp h
      refine ⟨rfl, hwatch, ?_⟩
      simpa [convergenceMove?, taken, Follows] using hconvergence
  | hangUp =>
      simp only [move?, Option.ite_none_right_eq_some] at h
      exact .of_convergence rfl rfl rfl h.2
  | recheck => exact .of_convergence rfl rfl rfl h
  | drain => exact .of_convergence rfl rfl rfl h
  | join => exact .of_leaving rfl rfl rfl h
  | begin => exact .of_convergence rfl rfl rfl h
  | wake => exact .of_convergence rfl rfl rfl h
  | answer a => exact .of_convergence rfl rfl rfl h
  | cancel =>
      obtain ⟨u, hu, h⟩ := Option.bind_eq_some_iff.mp h
      obtain ⟨watch, hwatch, rfl⟩ := onWatch?_eq_some.mp hu
      obtain ⟨convergence, hconvergence, rfl⟩ := onConvergence?_eq_some.mp h
      exact ⟨rfl, hwatch, hconvergence⟩
  | abandon => exact .of_leaving rfl rfl rfl h
  | elapse millis =>
      obtain ⟨u, hu, h⟩ := Option.bind_eq_some_iff.mp h
      obtain ⟨store, hstore, rfl⟩ := onStore?_eq_some.mp hu
      obtain ⟨v, hv, h⟩ := Option.bind_eq_some_iff.mp h
      obtain ⟨watch, hwatch, rfl⟩ := onWatch?_eq_some.mp hv
      obtain ⟨convergence, hconvergence, rfl⟩ := onConvergence?_eq_some.mp h
      exact ⟨hstore, hwatch, hconvergence⟩

/-! ### Store and watch together -/

/-- The store and the watch of the manager. -/
def vigil (s : Manager) : Vigil :=
  ⟨s.store, s.watch, s.reading⟩

/-- The move of store and watch together in a move of the manager. -/
def vigilMove? : Move → Option Vigil.Move
  | .set value => some (.set value)
  | .clear => some .clear
  | .failNext count => some (.failNext count)
  | .arrive => some .arrive
  | .hear => some .hear
  | .retry => some .retry
  | .deliver => some .deliver
  | .refuse => some .refuse
  | .stop => some .stop
  | .crash => some .crash
  | .receive => some .take
  | .join => some .leave
  | .abandon => some .leave
  | .cancel => some .cancel
  | .elapse millis => some (.elapse millis)
  | _ => none

/-- A move of the store alone is one of the vigil. -/
lemma vigil_onStore? {s t : Manager} {m : MemoryStore.Move} (h : s.onStore? m = some t) :
    s.vigil.onStore? m = some t.vigil := by
  obtain ⟨store, moved, rfl⟩ := onStore?_eq_some.mp h
  exact Option.map_eq_some_iff.mpr ⟨store, moved, rfl⟩

/-- A move of the watch alone is one of the vigil. -/
lemma vigil_onWatch? {s t : Manager} {m : Watch.Move} (h : s.onWatch? m = some t) :
    s.vigil.onWatch? m = some t.vigil := by
  obtain ⟨watch, moved, rfl⟩ := onWatch?_eq_some.mp h
  exact Option.map_eq_some_iff.mpr ⟨watch, moved, rfl⟩

/-- A move of coordinator and reconciler alone leaves the vigil. -/
lemma vigil_onConvergence? {s t : Manager} {m : Convergence.Move}
    (h : s.onConvergence? m = some t) : t.vigil = s.vigil := by
  obtain ⟨convergence, -, rfl⟩ := onConvergence?_eq_some.mp h
  rfl

/-- Giving up the watch's read is a matter of the vigil. -/
lemma vigil_forgetRead (s : Manager) : s.forgetRead.vigil = s.vigil.forgetRead := by
  cases reading : s.reading <;> simp [forgetRead, Vigil.forgetRead, vigil, reading]

/-- Where the coordinator goes, the receiver goes. -/
lemma vigil_leaving? {s t : Manager} {m : Convergence.Move} (h : s.leaving? m = some t) :
    s.vigil.onWatch? .leave = some t.vigil := by
  obtain ⟨u, hu, ht⟩ := Option.bind_eq_some_iff.mp h
  rw [← vigil_onConvergence? hu]
  exact vigil_onWatch? ht

/-- **Store and watch make their part of a move together.** -/
theorem follows_vigil {s t : Manager} {m : Move} (h : s.move? m = some t) :
    Follows Vigil.move? (vigilMove? m) s.vigil t.vigil := by
  cases m with
  | set value => exact vigil_onStore? h
  | clear => exact vigil_onStore? h
  | failNext count => exact vigil_onStore? h
  | arrive =>
      obtain ⟨ready, rfl⟩ := of_guard h
      exact if_pos ready
  | hear =>
      obtain ⟨ticket, reading, h⟩ := Option.bind_eq_some_iff.mp h
      obtain ⟨⟨result, store⟩, finished, h⟩ := Option.bind_eq_some_iff.mp h
      obtain ⟨watch, heard, h⟩ := Option.bind_eq_some_iff.mp h
      cases h
      simp [vigilMove?, Follows, Vigil.move?, Vigil.hear?, vigil, reading, finished, heard]
  | retry => exact vigil_onWatch? h
  | deliver => exact vigil_onWatch? h
  | refuse => exact vigil_onWatch? h
  | stop =>
      show s.vigil.forgetRead.onWatch? .stop = some t.vigil
      rw [← vigil_forgetRead]
      exact vigil_onWatch? h
  | crash =>
      show s.vigil.forgetRead.onWatch? .crash = some t.vigil
      rw [← vigil_forgetRead]
      exact vigil_onWatch? h
  | receive =>
      obtain ⟨_, -, h⟩ := Option.bind_eq_some_iff.mp h
      obtain ⟨u, hu, h⟩ := Option.bind_eq_some_iff.mp h
      rw [vigil_onConvergence? h]
      exact vigil_onWatch? hu
  | hangUp =>
      simp only [move?, Option.ite_none_right_eq_some] at h
      exact vigil_onConvergence? h.2
  | recheck => exact vigil_onConvergence? h
  | drain => exact vigil_onConvergence? h
  | join => exact vigil_leaving? h
  | begin => exact vigil_onConvergence? h
  | wake => exact vigil_onConvergence? h
  | answer a => exact vigil_onConvergence? h
  | cancel =>
      obtain ⟨u, hu, h⟩ := Option.bind_eq_some_iff.mp h
      rw [vigil_onConvergence? h]
      exact vigil_onWatch? hu
  | abandon => exact vigil_leaving? h
  | elapse millis =>
      obtain ⟨u, hu, h⟩ := Option.bind_eq_some_iff.mp h
      obtain ⟨v, hv, h⟩ := Option.bind_eq_some_iff.mp h
      rw [vigil_onConvergence? h]
      exact Option.bind_eq_some_iff.mpr ⟨u.vigil, vigil_onStore? hu, vigil_onWatch? hv⟩

/-- Store and watch stay in a move of the manager, or make a step. -/
lemma vigil_step {s t : Manager} {m : Move} (h : s.move? m = some t) :
    t.vigil = s.vigil ∨ ∃ n, Vigil.Step s.vigil n t.vigil := by
  rcases (follows_vigil h).cases with ⟨-, same⟩ | ⟨n, -, moved⟩
  · exact .inl same
  · exact .inr ⟨n, Vigil.step_of_move? moved⟩

/-! ### Runs of the parties -/

/-- A run of the manager shows a run of the watch. -/
theorem exists_watch_run {s t : Manager} {moves : List Move} (run : s.run? moves = some t) :
    ∃ own, s.watch.run? own = some t.watch :=
  ⟨_, run_of_follows watchMove? (fun h => (parts_of_move? h).watch) run⟩

/-- A run of the manager shows a run of coordinator and reconciler. -/
theorem exists_convergence_run {s t : Manager} {moves : List Move} (run : s.run? moves = some t) :
    ∃ own, s.convergence.run? own = some t.convergence :=
  ⟨_, run_of_follows convergenceMove? (fun h => (parts_of_move? h).convergence) run⟩

end FloatingIp.Manager
