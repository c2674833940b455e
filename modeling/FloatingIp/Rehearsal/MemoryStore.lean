import FloatingIp.MemoryStore
import FloatingIp.Rehearsal.Clockwork

/-!
# Rehearsing the store in memory

A list of steps is played on a store: writes, injected failures, the passing of time, reads that
are waited for, and reads under a name that go on in the background and are looked at later.
-/

namespace FloatingIp.Rehearsal.StorePlay

/-- A step. -/
inductive Step where
  /-- Writes the marker. -/
  | set (value : String)
  /-- Takes the marker away. -/
  | clear
  /-- Makes the next reads fail. -/
  | failNext (count : Nat)
  /-- Lets time pass. -/
  | sleep (millis : Nat)
  /-- Asks for the name of the store. -/
  | name
  /-- Reads and waits for the result. -/
  | get (waitIndex : Nat)
  /-- Begins a read under a name. -/
  | start (id : String) (waitIndex : Nat)
  /-- Looks at a read. -/
  | check (id : String)
  deriving DecidableEq, Repr

/-- What a step answers. -/
inductive Answer where
  /-- Nothing. -/
  | nothing
  /-- A name. -/
  | name (text : String)
  /-- The result of a read. -/
  | result (r : ReadResult)
  /-- The read has not ended. -/
  | pending
  /-- The read has ended, at this time and with this result. -/
  | done (time : Nat) (r : ReadResult)
  /-- There is no such read. -/
  | unknown
  deriving DecidableEq

/-- A read that has ended. -/
structure Ended where
  ticket : Nat
  time : Nat
  result : ReadResult
  deriving DecidableEq

/-- A store with what is known about its reads. -/
structure State where
  /-- The store. -/
  store : MemoryStore
  /-- The numbers of the reads that have a name. -/
  named : List (String × Nat)
  /-- The reads that have ended. -/
  ended : List Ended
  deriving DecidableEq

/-- A store without a marker. -/
def State.new (window : Nat) : State :=
  ⟨.new window, [], []⟩

/-- Ends the first of the reads that can end. -/
def finishNext? (s : State) : Option State := do
  let p ← s.store.pending.find? s.store.canFinish
  let (result, store) ← s.store.finish? p.ticket
  some { s with store, ended := ⟨p.ticket, s.store.now, result⟩ :: s.ended }

/-- How the store is driven. -/
def clockwork : Clockwork State where
  now s := s.store.now
  next? := finishNext?
  due? s := (s.store.pending.map (·.deadline)).min?
  wait s millis := ((s.store.move? (.elapse millis)).map fun store => { s with store }).getD s

/-- Makes a move of the store, and lets happen what can happen. -/
def move (s : State) (m : MemoryStore.Move) : State :=
  clockwork.settle (((s.store.move? m).map fun store => { s with store }).getD s)

/-- The end of a read, if it has ended. -/
def endOf? (s : State) (ticket : Nat) : Option Ended :=
  s.ended.find? fun e => e.ticket = ticket

/-- One step: its answer and the state after it. -/
def step (s : State) : Step → Answer × State
  | .set value => (.nothing, move s (.set value))
  | .clear => (.nothing, move s .clear)
  | .failNext count => (.nothing, move s (.failNext count))
  | .sleep millis => (.nothing, clockwork.playTo (s.store.now + millis) s)
  | .name => (.name MemoryStore.name, s)
  | .get waitIndex =>
    let ticket := s.store.reads
    let s := clockwork.playUntil (fun s => (endOf? s ticket).isSome) (s.store.now + s.store.window)
      (move s (.start waitIndex))
    match endOf? s ticket with
    | some e => (.result e.result, s)
    | none => (.nothing, s)
  | .start id waitIndex =>
    let named := (id, s.store.reads) :: s.named
    (.nothing, { move s (.start waitIndex) with named })
  | .check id =>
    match s.named.lookup id with
    | none => (.unknown, s)
    | some ticket =>
      match endOf? s ticket with
      | none => (.pending, s)
      | some e => (.done e.time e.result, { s with named := s.named.filter fun n => n.1 ≠ id })

end FloatingIp.Rehearsal.StorePlay
