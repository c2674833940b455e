import FloatingIp.Cell
import FloatingIp.Log

/-!
# A session on the desired state

The desired state is a cell of truth values that starts as "not leader".  A session is a history
of operations on it: leadership updates, rechecks, and subscribers who come, look without
marking, look and mark, or ask whether there is anything new.  After the owner has dropped the
cell nothing more is written, but its last value can still be looked at.
-/

namespace FloatingIp.Cell

/-- Shortest interval between rechecks, in milliseconds. -/
def minRecheckInterval : Nat := 10

/-- The interval that is used where `requested` milliseconds are asked for. -/
def recheckInterval (requested : Nat) : Nat :=
  max requested minRecheckInterval

/-- The line that warns of an interval that was raised. -/
def intervalNotice? (requested : Nat) : Option Log.Line :=
  if requested < minRecheckInterval then
    some ⟨.warn, "Recheck interval too short, using " ++ toString minRecheckInterval ++ "ms",
      [("requested_ms", toString requested)]⟩
  else none

/-- One step of a session. -/
inductive Step where
  /-- A leadership update. -/
  | publish (leader : Bool)
  /-- A wake-up without a change. -/
  | recheck
  /-- Looks at the value as the owner. -/
  | desired
  /-- Stores a subscriber, in place of an earlier one of that name. -/
  | subscribe (id : String)
  /-- Asks whether a subscriber is due to look again. -/
  | changed (id : String)
  /-- Looks at the value as a subscriber and leaves its mark. -/
  | peek (id : String)
  /-- Looks at the value as a subscriber and marks it seen. -/
  | take (id : String)
  /-- Drops the cell. -/
  | drop
  deriving DecidableEq, Repr

/-- What a step answers. -/
inductive Answer where
  /-- Nothing. -/
  | nothing
  /-- A truth value. -/
  | flag (value : Bool)
  /-- The cell has no owner any more. -/
  | closed
  /-- The step does not apply. -/
  | unknown
  deriving DecidableEq, Repr

/-- The cell, whether its owner still holds it, and how much each subscriber has seen. -/
structure Session where
  /-- The cell. -/
  cell : Cell Bool
  /-- Whether the owner still holds the cell. -/
  held : Bool
  /-- Writes seen by each subscriber; the first entry of a name counts. -/
  seen : List (String × Nat)
  deriving DecidableEq, Repr

namespace Session

/-- Nobody leads and nobody has subscribed. -/
def new : Session :=
  ⟨Cell.new false, true, []⟩

/-- The desired state, as long as the cell is held. -/
def desired? (s : Session) : Option Bool :=
  if s.held then some s.cell.value else none

/-- Whether `id` has subscribed. -/
def subscribed (s : Session) (id : String) : Bool :=
  (s.seen.lookup id).isSome

/-- Notes that `id` has seen all writes up to now. -/
def mark (s : Session) (id : String) : Session :=
  { s with seen := (id, s.cell.writes) :: s.seen }

/-- One step: the session after it and its answer. -/
def step (s : Session) : Step → Session × Answer
  | .publish leader =>
    if s.held then
      let (changed, cell) := s.cell.publish leader
      ({ s with cell }, .flag changed)
    else (s, .unknown)
  | .recheck => if s.held then ({ s with cell := s.cell.touch }, .nothing) else (s, .unknown)
  | .desired => if s.held then (s, .flag s.cell.value) else (s, .unknown)
  | .subscribe id => if s.held then (s.mark id, .nothing) else (s, .unknown)
  | .changed id =>
    match s.seen.lookup id with
    | none => (s, .unknown)
    | some seen => (s, if s.held then .flag (s.cell.changedSince seen) else .closed)
  | .peek id => (s, if s.subscribed id then .flag s.cell.value else .nothing)
  | .take id =>
    if s.subscribed id then (s.mark id, .flag s.cell.value) else (s, .nothing)
  | .drop => ({ s with held := false }, .nothing)

/-- Runs the steps in order and lists after each one its answer and the desired state. -/
def run (s : Session) : List Step → List (Answer × Option Bool)
  | [] => []
  | op :: ops =>
    let (s, answer) := s.step op
    (answer, s.desired?) :: s.run ops

end Session
end FloatingIp.Cell
