import FloatingIp.Convergence
import FloatingIp.MemoryStore

/-!
# The whole manager

The manager joins four parties: a store in memory, a watch on its marker, the channel between
watch and coordinator, and coordinator and reconciler around the desired state.  It is the product
of their systems, and each of its moves is a move of one of them or a common move of two: taking a
leadership change from the channel is receiving it, ending a read at the store is hearing its
result, calling the work off calls it off for all, and time passes for all.  So every run of the
manager shows a run of each party.
-/

namespace FloatingIp

namespace Manager

/-- Something that may happen. -/
inductive Move where
  /-- The marker is written. -/
  | set (value : String)
  /-- The marker is taken away. -/
  | clear
  /-- The next reads to begin are made to fail. -/
  | failNext (count : Nat)
  /-- The read of the watch reaches the store. -/
  | arrive
  /-- The read of the watch ends. -/
  | hear
  /-- The watch's pause is over. -/
  | retry
  /-- The channel takes what the watch offers. -/
  | deliver
  /-- The watch learns that the receiver has gone. -/
  | refuse
  /-- The watch learns that the work is called off. -/
  | stop
  /-- The read brings the watch down. -/
  | crash
  /-- The coordinator takes a leadership change. -/
  | receive
  /-- The coordinator learns that no leadership change will come any more. -/
  | hangUp
  /-- The coordinator rechecks. -/
  | recheck
  /-- The coordinator learns that the work is called off. -/
  | drain
  /-- The coordinator learns that the reconciler has ended, and returns. -/
  | join
  /-- The reconciler begins. -/
  | begin
  /-- The reconciler wakes. -/
  | wake
  /-- The call that the reconciler is in is answered. -/
  | answer (a : Convergence.Answer)
  /-- The work is called off. -/
  | cancel
  /-- The manager is dropped. -/
  | abandon
  /-- Time passes. -/
  | elapse (millis : Nat)
  deriving DecidableEq

end Manager

open Manager (Move)

/-- A store in memory, a watch on it, and coordinator and reconciler. -/
structure Manager where
  /-- The store. -/
  store : MemoryStore
  /-- The watch with its channel. -/
  watch : Watch
  /-- Coordinator and reconciler. -/
  convergence : Convergence
  /-- The number of the watch's read, once it has reached the store. -/
  reading : Option Nat
  deriving DecidableEq

namespace Manager

/-- The beginning: the first read is on its way. -/
def new (store : MemoryStore) (plan : Watch.Plan) (channel : Channel Bool) (recheck : Nat) :
    Manager :=
  ⟨store, Watch.new plan channel, Convergence.new recheck, none⟩

/-- Makes a move of the store alone. -/
def onStore? (s : Manager) (m : MemoryStore.Move) : Option Manager :=
  (s.store.move? m).map fun store => { s with store }

/-- Makes a move of the watch alone. -/
def onWatch? (s : Manager) (m : Watch.Move) : Option Manager :=
  (s.watch.move? m).map fun watch => { s with watch }

/-- Makes a move of coordinator and reconciler alone. -/
def onConvergence? (s : Manager) (m : Convergence.Move) : Option Manager :=
  (s.convergence.move? m).map fun convergence => { s with convergence }

/-- Gives up the watch's read at the store. -/
def forgetRead (s : Manager) : Manager :=
  match s.reading with
  | some ticket => { s with store := s.store.without ticket, reading := none }
  | none => s

/-- Brings the watch's read to the store. -/
def arrive? (s : Manager) : Option Manager :=
  if s.watch.phase = .reading ∧ s.reading = none then
    some { s with
      store := s.store.start s.watch.remembered.waitIndex, reading := some s.store.reads }
  else none

/-- Ends the watch's read. -/
def hear? (s : Manager) : Option Manager := do
  let (result, store) ← s.store.finish? (← s.reading)
  let watch ← s.watch.move? (.hear result)
  some { s with store, watch, reading := none }

/-- Has the coordinator take a leadership change from the channel. -/
def receive? (s : Manager) : Option Manager := do
  let (leader, _) ← s.watch.channel.take?
  let s ← s.onWatch? .take
  s.onConvergence? (.receive leader)

/-- Lets the coordinator go, in one way or another, and with it the receiver. -/
def leaving? (s : Manager) (m : Convergence.Move) : Option Manager := do
  let s ← s.onConvergence? m
  s.onWatch? .leave

/-- Makes a move, if it can be made. -/
def move? (s : Manager) : Move → Option Manager
  | .set value => s.onStore? (.set value)
  | .clear => s.onStore? .clear
  | .failNext count => s.onStore? (.failNext count)
  | .arrive => s.arrive?
  | .hear => s.hear?
  | .retry => s.onWatch? .retry
  | .deliver => s.onWatch? .deliver
  | .refuse => s.onWatch? .refuse
  | .stop => s.forgetRead.onWatch? .stop
  | .crash => s.forgetRead.onWatch? .crash
  | .receive => s.receive?
  | .hangUp => if s.watch.channel.isFinished then s.onConvergence? .hangUp else none
  | .recheck => s.onConvergence? .recheck
  | .drain => s.onConvergence? .drain
  | .join => s.leaving? .join
  | .begin => s.onConvergence? .begin
  | .wake => s.onConvergence? .wake
  | .answer a => s.onConvergence? (.answer a)
  | .cancel => do
    let s ← s.onWatch? .cancel
    s.onConvergence? .cancel
  | .abandon => s.leaving? .abandon
  | .elapse millis => do
    let s ← s.onStore? (.elapse millis)
    let s ← s.onWatch? (.elapse millis)
    s.onConvergence? (.elapse millis)

/-- Makes moves one after another, if they can all be made. -/
def run? (s : Manager) (moves : List Move) : Option Manager :=
  moves.foldlM move? s

end Manager
end FloatingIp
