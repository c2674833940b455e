import FloatingIp.Cell.Session
import FloatingIp.Convergence.Pass

/-!
# Convergence on the desired state

Two parties share the cell of the desired state.  The *coordinator* owns it: leadership changes
and periodic rechecks are its only writers, until it learns that the work is called off; then it
writes "not leader" and waits for the other one to end.  The *reconciler* reads the cell in its
passes and sleeps in between.

Who does what next is not fixed.  A state of the whole has *moves*, one for each thing that may
happen, and a run is any list of moves that can be made one after another: a statement about all
runs is one about every interleaving, about calls of any duration and any answer, and about a
cancellation at any point.  Time passes in moves of its own, `elapse`, which never go past the next
recheck while the coordinator listens.  A recheck may be made once it is due, and the next one is an
interval away from it; one that was made late would delay all that follow.
-/

namespace FloatingIp

open Convergence (Reconciler Stats Answer Call)

namespace Convergence

/-- What the coordinator is doing. -/
inductive Duty where
  /-- It takes leadership changes and rechecks. -/
  | listening
  /-- It waits for the reconciler to end. -/
  | draining
  /-- It has returned the reconciler's counters at this time. -/
  | returned (stats : Stats) (time : Nat)
  /-- It was dropped, and the reconciler goes on alone. -/
  | abandoned
  deriving DecidableEq, Repr

/-- Whether the coordinator still runs. -/
def Duty.isRunning : Duty → Bool
  | .listening => true
  | .draining => true
  | _ => false

/-- What the coordinator tells. -/
inductive CoordinatorNotice where
  | started (interval : Nat)
  | changed (leader : Bool)
  | streamClosed
  | recheck
  | cancelled
  | failed
  deriving DecidableEq, Repr

/-- The line of a notice, where `broken` is how a reconciler broke down that failed. -/
def CoordinatorNotice.line (broken : Breakdown) : CoordinatorNotice → Log.Line
  | started interval =>
    ⟨.info, "State coordinator started", [("recheck_interval_ms", Digits.decimal interval)]⟩
  | changed leader => ⟨.info, "Desired state changed", [("leader", Log.flag leader)]⟩
  | streamClosed =>
    ⟨.warn, "Leadership stream closed, continuing with periodic rechecks only", []⟩
  | recheck => ⟨.debug, "Periodic recheck", []⟩
  | cancelled => ⟨.info, "State coordinator cancelled, waiting for reconciler", []⟩
  | failed => ⟨.error, "Reconciler task failed", [("error", broken.text)]⟩

/-- A call that has ended. -/
structure CallRecord where
  /-- Which call. -/
  call : Call
  /-- When it began. -/
  start : Nat
  /-- When it ended. -/
  finish : Nat
  /-- Its answer. -/
  answer : Answer
  deriving DecidableEq

/-- Something that may happen. -/
inductive Move where
  /-- The coordinator takes a leadership change. -/
  | receive (leader : Bool)
  /-- The coordinator learns that no leadership change will come any more. -/
  | hangUp
  /-- The coordinator rechecks. -/
  | recheck
  /-- The coordinator learns that the work is called off. -/
  | drain
  /-- The coordinator learns that the reconciler has ended, and returns. -/
  | join
  /-- The reconciler begins. -/
  | begin
  /-- The reconciler wakes. -/
  | wake
  /-- The call that the reconciler is in is answered. -/
  | answer (a : Answer)
  /-- The work is called off. -/
  | cancel
  /-- The coordinator is dropped. -/
  | abandon
  /-- Time passes. -/
  | elapse (millis : Nat)
  deriving DecidableEq

end Convergence

open Convergence (Duty CoordinatorNotice CallRecord Move)

/-- Coordinator and reconciler with the cell between them. -/
structure Convergence where
  /-- The time. -/
  now : Nat
  /-- Whether the work is called off. -/
  cancelled : Bool
  /-- The desired state. -/
  cell : Cell Bool
  /-- What the coordinator is doing. -/
  duty : Duty
  /-- The time between rechecks. -/
  interval : Nat
  /-- When the next recheck is due. -/
  nextRecheck : Nat
  /-- Whether leadership changes may still come. -/
  streamOpen : Bool
  /-- The reconciler. -/
  reconciler : Reconciler
  /-- When the call that the reconciler is in began. -/
  callStart : Nat
  /-- The calls that have ended, newest first. -/
  calls : List CallRecord
  /-- What the coordinator has told, newest first. -/
  told : List CoordinatorNotice
  deriving DecidableEq

namespace Convergence

/-- The beginning, with a recheck wanted every `recheck` milliseconds: nobody leads, and the first
recheck is one interval away. -/
def new (recheck : Nat) : Convergence :=
  let interval := Cell.recheckInterval recheck
  let cell := Cell.new false
  { now := 0, cancelled := false, cell, duty := .listening, interval, nextRecheck := interval,
    streamOpen := true, reconciler := Reconciler.new cell, callStart := 0, calls := [],
    told := [.started interval] }

/-- Whether nobody is left to write the cell. -/
def isClosed (s : Convergence) : Bool :=
  !s.duty.isRunning

/-- Whether the reconciler has a reason to wake. -/
def canWake (s : Convergence) : Bool :=
  (s.reconciler.wake? s.cancelled s.cell s.isClosed).isSome

/-- Whether the coordinator still listens to the stream. -/
def isListening (s : Convergence) : Bool :=
  s.duty = .listening && s.streamOpen

/-- Tells a notice of the coordinator. -/
def tell (s : Convergence) (n : CoordinatorNotice) : Convergence :=
  { s with told := n :: s.told }

/-- Takes a leadership change: the cell is written only if it flips. -/
def receive (s : Convergence) (leader : Bool) : Convergence :=
  let (flipped, cell) := s.cell.publish leader
  let s := { s with cell }
  if flipped then s.tell (.changed leader) else s

/-- Writes "not leader" and waits for the reconciler. -/
def drain (s : Convergence) : Convergence :=
  { s with duty := .draining, cell := s.cell.write false }.tell .cancelled

/-- Returns the counters of a reconciler that has ended; one that was brought down leaves none. -/
def join? (s : Convergence) : Option Convergence :=
  if s.duty.isRunning then
    match s.reconciler.phase with
    | .stopped => some { s with duty := .returned s.reconciler.stats s.now }
    | .crashed => some ({ s with duty := .returned Stats.zero s.now }.tell .failed)
    | _ => none
  else none

/-- Lets the call that the reconciler is in be answered. -/
def answer? (s : Convergence) (a : Answer) : Option Convergence :=
  match s.reconciler.phase.call?, s.reconciler.answer? s.cancelled s.cell a with
  | some call, some reconciler =>
    some { s with
      reconciler, callStart := s.now, calls := ⟨call, s.callStart, s.now, a⟩ :: s.calls }
  | _, _ => none

/-- Makes a move, if it can be made. -/
def move? (s : Convergence) : Move → Option Convergence
  | .receive leader => if s.isListening then some (s.receive leader) else none
  | .hangUp =>
    if s.isListening then some ({ s with streamOpen := false }.tell .streamClosed) else none
  | .recheck =>
    if s.duty = .listening ∧ s.nextRecheck ≤ s.now then
      some ({ s with
        cell := s.cell.touch, nextRecheck := s.now + s.interval }.tell .recheck)
    else none
  | .drain => if s.duty = .listening ∧ s.cancelled then some s.drain else none
  | .join => s.join?
  | .begin =>
    if s.reconciler.phase = .starting then
      some { s with reconciler := s.reconciler.begin s.cancelled, callStart := s.now }
    else none
  | .wake =>
    (s.reconciler.wake? s.cancelled s.cell s.isClosed).map fun reconciler =>
      { s with reconciler, callStart := s.now }
  | .answer a => s.answer? a
  | .cancel => if s.cancelled then none else some { s with cancelled := true }
  | .abandon => if s.duty.isRunning then some { s with duty := .abandoned } else none
  | .elapse millis =>
    if s.duty = .listening ∧ s.nextRecheck < s.now + millis then none
    else some { s with now := s.now + millis }

/-- Makes moves one after another, if they can all be made. -/
def run? (s : Convergence) (moves : List Move) : Option Convergence :=
  moves.foldlM move? s

end Convergence
end FloatingIp
