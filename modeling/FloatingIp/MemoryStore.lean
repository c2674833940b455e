import FloatingIp.Watch

/-!
# A store in memory

A store that keeps the marker in memory.  Setting and clearing it are writes, and each write
raises the version.  A read that waits for a version above its index ends with the first write
that brings one, or when its window is over, and answers with the record as it is then; any other
read ends at once.  The next reads to begin can be made to fail.

The store is a system of moves like the others: reads begin and end in moves of their own, so any
number of them can wait at a time, and time does not pass while a read could end.
-/

namespace FloatingIp

namespace MemoryStore

/-- The name of this kind of store. -/
def name : String := "memory"

/-- The usual window of a read that waits, in milliseconds. -/
def standardWindow : Nat := 1000

/-- A read that has begun and not ended. -/
structure Pending where
  /-- The number of the read. -/
  ticket : Nat
  /-- The version that it waits to see exceeded; zero does not wait. -/
  waitIndex : Nat
  /-- When its window is over. -/
  deadline : Nat
  /-- Whether it was made to fail. -/
  fails : Bool
  deriving DecidableEq, Repr

/-- Something that may happen. -/
inductive Move where
  /-- The marker is written. -/
  | set (value : String)
  /-- The marker is taken away. -/
  | clear
  /-- The next reads to begin are made to fail. -/
  | failNext (count : Nat)
  /-- A read begins. -/
  | start (waitIndex : Nat)
  /-- A read ends. -/
  | finish (ticket : Nat)
  /-- A read is given up. -/
  | forget (ticket : Nat)
  /-- Time passes. -/
  | elapse (millis : Nat)
  deriving DecidableEq, Repr

end MemoryStore

open MemoryStore (Pending Move)

/-- A store in memory. -/
structure MemoryStore where
  /-- The time. -/
  now : Nat
  /-- How long a read waits, in milliseconds. -/
  window : Nat
  /-- How many writes there were. -/
  version : Nat
  /-- Who leads. -/
  value : Option String
  /-- How many of the next reads fail. -/
  failures : Nat
  /-- How many reads have begun. -/
  reads : Nat
  /-- Reads that have not ended, in the order in which they began. -/
  pending : List Pending
  deriving DecidableEq, Repr

namespace MemoryStore

/-- A store without a marker. -/
def new (window : Nat) : MemoryStore :=
  ⟨0, window, 0, none, 0, 0, []⟩

/-- The marker as it is. -/
def current (s : MemoryStore) : ReadResult :=
  match s.value with
  | some value => .marker ⟨value, s.version⟩
  | none => .absent

/-- Writes a value. -/
def write (s : MemoryStore) (value : Option String) : MemoryStore :=
  { s with version := s.version + 1, value }

/-- Begins a read. -/
def start (s : MemoryStore) (waitIndex : Nat) : MemoryStore :=
  { s with
    failures := s.failures - 1, reads := s.reads + 1,
    pending := s.pending ++ [⟨s.reads, waitIndex, s.now + s.window, decide (0 < s.failures)⟩] }

/-- Whether a read can end. -/
def canFinish (s : MemoryStore) (p : Pending) : Bool :=
  p.fails || p.waitIndex = 0 || p.waitIndex < s.version || p.deadline ≤ s.now

/-- The result of a read that ends now. -/
def resultOf (s : MemoryStore) (p : Pending) : ReadResult :=
  if p.fails then .failed (.store .injected) else s.current

/-- A read by its number. -/
def find? (s : MemoryStore) (ticket : Nat) : Option Pending :=
  s.pending.find? fun p => p.ticket = ticket

/-- The store without a read. -/
def without (s : MemoryStore) (ticket : Nat) : MemoryStore :=
  { s with pending := s.pending.filter fun p => p.ticket ≠ ticket }

/-- Ends a read, if it can end: its result and the store after it. -/
def finish? (s : MemoryStore) (ticket : Nat) : Option (ReadResult × MemoryStore) :=
  match s.find? ticket with
  | some p => if s.canFinish p then some (s.resultOf p, s.without ticket) else none
  | none => none

/-- Whether so much time may pass: no read ends late. -/
def mayElapse (s : MemoryStore) (millis : Nat) : Bool :=
  millis = 0 || s.pending.all fun p => !s.canFinish p && s.now + millis ≤ p.deadline

/-- Makes a move, if it can be made. -/
def move? (s : MemoryStore) : Move → Option MemoryStore
  | .set value => some (s.write (some value))
  | .clear => some (s.write none)
  | .failNext count => some { s with failures := count }
  | .start waitIndex => some (s.start waitIndex)
  | .finish ticket => (s.finish? ticket).map (·.2)
  | .forget ticket => some (s.without ticket)
  | .elapse millis => if s.mayElapse millis then some { s with now := s.now + millis } else none

/-- Makes moves one after another, if they can all be made. -/
def run? (s : MemoryStore) (moves : List Move) : Option MemoryStore :=
  moves.foldlM move? s

end MemoryStore
end FloatingIp
