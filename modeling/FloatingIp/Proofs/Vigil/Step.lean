import FloatingIp.Proofs.MemoryStore.Record
import FloatingIp.Proofs.Watch.Stream

/-!
# A watch on a store in memory

A `Vigil` joins a store in memory and a watch on its marker.  Writers of the store and the receiver
of the channel are left open: at any time the marker may be written or taken away, reads made to
fail, items taken, and the work called off.  A read of the watch is one move where it reaches the
store and another where it ends, and much may happen between the two.

`step_of_move?` says what a move means for the record and the watch: two moves write the record and
leave the watch alone, one lets the watch hear the record as it is or a failure, and all others
leave the record and bring the watch no result.
-/

namespace FloatingIp

namespace Vigil

/-- Something that may happen. -/
inductive Move where
  /-- The marker is written. -/
  | set (value : String)
  /-- The marker is taken away. -/
  | clear
  /-- The next reads to begin are made to fail. -/
  | failNext (count : Nat)
  /-- The read of the watch reaches the store. -/
  | arrive
  /-- The read of the watch ends. -/
  | hear
  /-- The watch's pause is over. -/
  | retry
  /-- The channel takes what the watch offers. -/
  | deliver
  /-- The watch learns that the receiver has gone. -/
  | refuse
  /-- The watch learns that the work is called off. -/
  | stop
  /-- The read brings the watch down. -/
  | crash
  /-- The receiver takes what waits longest. -/
  | take
  /-- The receiver goes. -/
  | leave
  /-- The work is called off. -/
  | cancel
  /-- Time passes. -/
  | elapse (millis : Nat)
  deriving DecidableEq

end Vigil

open Vigil (Move)

/-- A store in memory and a watch on it. -/
structure Vigil where
  /-- The store. -/
  store : MemoryStore
  /-- The watch with its channel. -/
  watch : Watch
  /-- The number of the watch's read, once it has reached the store. -/
  reading : Option Nat
  deriving DecidableEq

namespace Vigil

/-- The beginning: the first read is on its way. -/
def new (store : MemoryStore) (plan : Watch.Plan) (channel : Channel Bool) : Vigil :=
  ⟨store, Watch.new plan channel, none⟩

/-- Makes a move of the store alone. -/
def onStore? (s : Vigil) (m : MemoryStore.Move) : Option Vigil :=
  (s.store.move? m).map fun store => { s with store }

/-- Makes a move of the watch alone. -/
def onWatch? (s : Vigil) (m : Watch.Move) : Option Vigil :=
  (s.watch.move? m).map fun watch => { s with watch }

/-- Gives up the watch's read at the store. -/
def forgetRead (s : Vigil) : Vigil :=
  match s.reading with
  | some ticket => { s with store := s.store.without ticket, reading := none }
  | none => s

/-- Brings the watch's read to the store. -/
def arrive? (s : Vigil) : Option Vigil :=
  if s.watch.phase = .reading ∧ s.reading = none then
    some { s with
      store := s.store.start s.watch.remembered.waitIndex, reading := some s.store.reads }
  else none

/-- Ends the watch's read. -/
def hear? (s : Vigil) : Option Vigil := do
  let (result, store) ← s.store.finish? (← s.reading)
  let watch ← s.watch.move? (.hear result)
  some ⟨store, watch, none⟩

/-- Makes a move, if it can be made. -/
def move? (s : Vigil) : Move → Option Vigil
  | .set value => s.onStore? (.set value)
  | .clear => s.onStore? .clear
  | .failNext count => s.onStore? (.failNext count)
  | .arrive => s.arrive?
  | .hear => s.hear?
  | .retry => s.onWatch? .retry
  | .deliver => s.onWatch? .deliver
  | .refuse => s.onWatch? .refuse
  | .stop => s.forgetRead.onWatch? .stop
  | .crash => s.forgetRead.onWatch? .crash
  | .take => s.onWatch? .take
  | .leave => s.onWatch? .leave
  | .cancel => s.onWatch? .cancel
  | .elapse millis => do
    let s ← s.onStore? (.elapse millis)
    s.onWatch? (.elapse millis)

/-- Makes moves one after another, if they can all be made. -/
def run? (s : Vigil) (moves : List Move) : Option Vigil :=
  moves.foldlM move? s

/-! ### What a move means for the watch -/

/-- The result of the read that has reached the store, if it can end. -/
def heard? (s : Vigil) : Option ReadResult := do
  let (result, _) ← s.store.finish? (← s.reading)
  some result

/-- A marker that is heard is the record as it is. -/
lemma current_of_heard {s : Vigil} {m : Marker} (heard : s.heard? = some (.marker m)) :
    s.store.current = .marker m := by
  obtain ⟨ticket, -, h⟩ := Option.bind_eq_some_iff.mp heard
  obtain ⟨⟨result, store⟩, finished, h⟩ := Option.bind_eq_some_iff.mp h
  cases h
  rcases (MemoryStore.result_of_finish? finished).1 with current | ⟨fault, failed⟩
  · exact current.symm
  · cases failed

/-- The move of the watch in a move of both. -/
def watchMove? (s : Vigil) : Move → Option Watch.Move
  | .hear => s.heard?.map .hear
  | .retry => some .retry
  | .deliver => some .deliver
  | .refuse => some .refuse
  | .stop => some .stop
  | .crash => some .crash
  | .take => some .take
  | .leave => some .leave
  | .cancel => some .cancel
  | .elapse millis => some (.elapse millis)
  | _ => none

/-- A move of the watch alone moves the watch and leaves the store. -/
lemma parts_of_onWatch? {s t : Vigil} {m : Watch.Move} (h : s.onWatch? m = some t) :
    s.watch.move? m = some t.watch ∧ t.store = s.store := by
  obtain ⟨w, hw, rfl⟩ := Option.map_eq_some_iff.mp h
  exact ⟨hw, rfl⟩

/-- Giving up a read leaves record and watch. -/
lemma forgetRead_same (s : Vigil) :
    s.store.SameRecord s.forgetRead.store ∧ s.forgetRead.watch = s.watch := by
  unfold forgetRead
  split
  · exact ⟨⟨rfl, rfl⟩, rfl⟩
  · exact ⟨⟨rfl, rfl⟩, rfl⟩

/-- A watch that gives up its read in a move of its own leaves the record. -/
lemma parts_of_giveUp {s t : Vigil} {m : Watch.Move} (h : s.forgetRead.onWatch? m = some t) :
    s.watch.move? m = some t.watch ∧ s.store.SameRecord t.store := by
  obtain ⟨record, watch⟩ := s.forgetRead_same
  obtain ⟨moved, store⟩ := parts_of_onWatch? h
  rw [watch] at moved
  exact ⟨moved, by rw [store]; exact record⟩

/-- A read that ends is heard by the watch: the record as it is, or a failure. -/
lemma parts_of_hear? {s t : Vigil} (h : s.hear? = some t) :
    ∃ result, s.heard? = some result ∧ s.watch.move? (.hear result) = some t.watch ∧
      (result = s.store.current ∨ ∃ fault, result = .failed fault) ∧
      s.store.SameRecord t.store := by
  obtain ⟨ticket, reading, h⟩ := Option.bind_eq_some_iff.mp h
  obtain ⟨⟨result, store⟩, finished, h⟩ := Option.bind_eq_some_iff.mp h
  obtain ⟨watch, heard, h⟩ := Option.bind_eq_some_iff.mp h
  cases h
  obtain ⟨honest, same⟩ := MemoryStore.result_of_finish? finished
  exact ⟨result, by simp [heard?, reading, finished], heard, honest, same⟩

/-- The watch makes its part of a move. -/
lemma follows_of_move {s t : Vigil} {m : Move} (h : s.move? m = some t) :
    Follows Watch.move? (s.watchMove? m) s.watch t.watch := by
  cases m with
  | set value => cases h; rfl
  | clear => cases h; rfl
  | failNext count => cases h; rfl
  | arrive =>
      obtain ⟨-, rfl⟩ := of_guard h
      rfl
  | hear =>
      obtain ⟨result, heard, moved, -⟩ := parts_of_hear? h
      simpa [watchMove?, heard, Follows] using moved
  | retry => exact (parts_of_onWatch? h).1
  | deliver => exact (parts_of_onWatch? h).1
  | refuse => exact (parts_of_onWatch? h).1
  | stop => exact (parts_of_giveUp h).1
  | crash => exact (parts_of_giveUp h).1
  | take => exact (parts_of_onWatch? h).1
  | leave => exact (parts_of_onWatch? h).1
  | cancel => exact (parts_of_onWatch? h).1
  | elapse millis =>
      obtain ⟨u, hu, h⟩ := Option.bind_eq_some_iff.mp h
      obtain ⟨store, elapsed, rfl⟩ := Option.map_eq_some_iff.mp hu
      exact (parts_of_onWatch? h).1

/-- The moves of the watch in a run of both. -/
def watchMoves (s : Vigil) (moves : List Move) : List Watch.Move :=
  along move? watchMove? s moves

/-- A run of both shows a run of the watch. -/
theorem watch_run {s t : Vigil} {moves : List Move} (run : s.run? moves = some t) :
    s.watch.run? (s.watchMoves moves) = some t.watch :=
  run_of_follows watchMove? follows_of_move run

/-! ### What a move means for the record -/

/-- Whether a move writes the record. -/
def Move.isWrite : Move → Bool
  | .set _ => true
  | .clear => true
  | _ => false

/-- A move that is no write leaves the record. -/
lemma sameRecord_of_move {s t : Vigil} {m : Move} (h : s.move? m = some t)
    (read : m.isWrite = false) : s.store.SameRecord t.store := by
  have own {n : Watch.Move} (h : s.onWatch? n = some t) : s.store.SameRecord t.store := by
    rw [(parts_of_onWatch? h).2]
    exact ⟨rfl, rfl⟩
  cases m with
  | set value => cases read
  | clear => cases read
  | failNext count => cases h; exact ⟨rfl, rfl⟩
  | arrive =>
      obtain ⟨-, rfl⟩ := of_guard h
      exact ⟨rfl, rfl⟩
  | hear =>
      obtain ⟨_, _, _, _, same⟩ := parts_of_hear? h
      exact same
  | retry => exact own h
  | deliver => exact own h
  | refuse => exact own h
  | stop => exact (parts_of_giveUp h).2
  | crash => exact (parts_of_giveUp h).2
  | take => exact own h
  | leave => exact own h
  | cancel => exact own h
  | elapse millis =>
      obtain ⟨u, hu, h⟩ := Option.bind_eq_some_iff.mp h
      obtain ⟨store, elapsed, rfl⟩ := Option.map_eq_some_iff.mp hu
      rw [(parts_of_onWatch? h).2]
      exact MemoryStore.sameRecord_of_move elapsed rfl

/-- What a move means for record and watch. -/
inductive Step (s : Vigil) : Move → Vigil → Prop where
  /-- The record is written with a value. -/
  | set (value : String) : Step s (.set value) { s with store := s.store.write (some value) }
  /-- The record is written without a value. -/
  | clear : Step s .clear { s with store := s.store.write none }
  /-- The watch hears the record as it is, or a failure. -/
  | hear {t : Vigil} (result : ReadResult) (heard : s.heard? = some result)
      (honest : result = s.store.current ∨ ∃ fault, result = .failed fault)
      (same : s.store.SameRecord t.store) (step : Watch.Step s.watch (.hear result) t.watch) :
      Step s .hear t
  /-- The record stays, and the watch hears nothing. -/
  | aside {m : Move} {t : Vigil} (read : m.isWrite = false) (other : m ≠ .hear)
      (same : s.store.SameRecord t.store)
      (watch : t.watch = s.watch ∨ ∃ n, n.result? = none ∧ Watch.Step s.watch n t.watch) :
      Step s m t

/-- The watch hears a result in one kind of move only. -/
lemma result?_of_watchMove? {s : Vigil} {m : Move} {n : Watch.Move} (other : m ≠ .hear)
    (own : s.watchMove? m = some n) : n.result? = none := by
  cases m with
  | hear => exact absurd rfl other
  | _ => cases own <;> rfl

/-- **Every move is one of the cases.** -/
theorem step_of_move? {s t : Vigil} {m : Move} (h : s.move? m = some t) : Step s m t := by
  by_cases hears : m = .hear
  · subst hears
    obtain ⟨result, heard, moved, honest, same⟩ := parts_of_hear? h
    exact .hear result heard honest same (Watch.step_of_move? moved)
  cases kind : m.isWrite with
  | true =>
      cases m with
      | set value => cases h; exact .set value
      | clear => cases h; exact .clear
      | _ => cases kind
  | false =>
      refine .aside kind hears (sameRecord_of_move h kind) ?_
      rcases (follows_of_move h).cases with ⟨-, same⟩ | ⟨n, own, moved⟩
      · exact .inl same
      · exact .inr ⟨n, result?_of_watchMove? hears own, Watch.step_of_move? moved⟩

/-! ### What a step keeps -/

/-- A move writes the record and leaves the watch, or leaves the record. -/
lemma Step.record {s t : Vigil} {m : Move} (step : Step s m t) :
    (t.store.version = s.store.version + 1 ∧ t.watch = s.watch) ∨ s.store.SameRecord t.store := by
  cases step with
  | set _ => exact .inl ⟨rfl, rfl⟩
  | clear => exact .inl ⟨rfl, rfl⟩
  | hear _ _ _ same _ => exact .inr same
  | aside _ _ same _ => exact .inr same

/-- A record with a value stays written. -/
lemma Step.written {s t : Vigil} {m : Move} (step : Step s m t) (written : s.store.Written) :
    t.store.Written := by
  intro value
  rcases step.record with ⟨raised, -⟩ | same
  · omega
  · rw [same.value] at value
    rw [same.version]
    exact written value

/-- What is watched stays. -/
lemma Step.plan {s t : Vigil} {m : Move} (step : Step s m t) : t.watch.plan = s.watch.plan := by
  cases step with
  | set _ => rfl
  | clear => rfl
  | hear _ _ _ _ step => exact step.plan
  | aside _ _ _ watch =>
      rcases watch with idle | ⟨n, -, step⟩
      · rw [idle]
      · exact step.plan

/-- The version remembered stays, or becomes that of the record, which has a value. -/
lemma Step.version {s t : Vigil} {m : Move} (step : Step s m t) :
    t.watch.remembered.version = s.watch.remembered.version ∨
      t.watch.remembered.version = some s.store.version ∧ s.store.value ≠ none := by
  cases step with
  | set _ => exact .inl rfl
  | clear => exact .inl rfl
  | hear result heard honest same step =>
      rcases step.version with still | ⟨marker, hears, learned⟩
      · exact .inl still
      · cases hears
        obtain ⟨value, version⟩ := MemoryStore.record_of_current (current_of_heard heard)
        refine .inr ⟨by rw [learned, version], ?_⟩
        rw [value]
        nofun
  | aside _ _ _ watch =>
      rcases watch with idle | ⟨n, silent, step⟩
      · exact .inl (by rw [idle])
      · refine .inl (step.version.resolve_right ?_)
        rintro ⟨marker, rfl, -⟩
        cases silent

/-- What the watch has to say stays with the version remembered, or it is what the record means. -/
lemma Step.spoken {s t : Vigil} {m : Move} (step : Step s m t)
    (running : t.watch.phase.isRunning = true) :
    (s.watch.phase.isRunning = true ∧
        t.watch.remembered.version = s.watch.remembered.version ∧
        t.watch.spoken = s.watch.spoken) ∨
      ∃ value, s.store.value = some value ∧
        t.watch.spoken = some (value == s.watch.plan.node) := by
  cases step with
  | set _ => exact .inl ⟨running, rfl, rfl⟩
  | clear => exact .inl ⟨running, rfl, rfl⟩
  | hear result heard honest same step =>
      rcases step.spoken running with still | ⟨marker, hears, -, news⟩
      · exact .inl still
      · cases hears
        obtain ⟨value, -⟩ := MemoryStore.record_of_current (current_of_heard heard)
        exact .inr ⟨marker.value, value, news⟩
  | aside _ _ _ watch =>
      rcases watch with idle | ⟨n, silent, step⟩
      · rw [idle] at running ⊢
        exact .inl ⟨running, rfl, rfl⟩
      · refine .inl ((step.spoken running).resolve_right ?_)
        rintro ⟨marker, rfl, -⟩
        cases silent

end Vigil
end FloatingIp
