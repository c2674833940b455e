import FloatingIp.Channel
import FloatingIp.Convergence
import FloatingIp.Rehearsal.Clockwork
import FloatingIp.Rehearsal.Host

/-!
# Rehearsing convergence

Coordinator and reconciler are played on an imagined host, with leadership changes that come on a
channel.  Events from outside come at given times, and after each of them the state of things is
noted.
-/

namespace FloatingIp.Rehearsal.ConvergencePlay

open FloatingIp (Convergence)

/-- An event from outside. -/
inductive Event where
  /-- A leadership change is sent. -/
  | send (leader : Bool)
  /-- The sender goes. -/
  | close
  /-- The work is called off. -/
  | cancel
  /-- The coordinator is dropped. -/
  | abort
  /-- Something happens to the host. -/
  | host (e : HostEvent)
  /-- Nothing happens. -/
  | look
  deriving DecidableEq, Repr

/-- What an event answers. -/
inductive Reply where
  /-- Nothing. -/
  | nothing
  /-- Whether a leadership change was accepted. -/
  | sent (accepted : Bool)
  /-- The sender has gone before. -/
  | closed
  deriving DecidableEq, Repr

/-- Coordinator and reconciler with the channel and the host. -/
structure State where
  /-- Coordinator and reconciler. -/
  system : Convergence
  /-- The channel of leadership changes. -/
  channel : Channel Bool
  /-- The host. -/
  host : ImaginedHost
  /-- How much the coordinator had told when the work was called off. -/
  toldBeforeCancel : Option Nat

/-- The beginning. -/
def State.new (recheck : Nat) (channel : Channel Bool) (host : ImaginedHost) : State :=
  ⟨Convergence.new recheck, channel, host, none⟩

/-- Makes a move of coordinator and reconciler. -/
def move? (s : State) (m : Convergence.Move) : Option State :=
  (s.system.move? m).map fun system => { s with system }

/-- When the call ends that the reconciler is in. -/
def callEnd? (host : ImaginedHost) (c : Convergence) : Option Nat :=
  c.reconciler.phase.call?.map fun call => c.callStart + host.takes call

/-- The host answers the call that the reconciler is in. -/
def answer? (s : State) : Option State := do
  let call ← s.system.reconciler.phase.call?
  if s.system.callStart + s.host.takes call ≤ s.system.now then
    let (a, host) := s.host.answer call
    (move? s (.answer a)).map fun s => { s with host }
  else none

/-- The coordinator takes what comes on the channel. -/
def receive? (s : State) : Option State := do
  let (leader, channel) ← s.channel.take?
  (move? s (.receive leader)).map fun s => { s with channel }

/-- The coordinator learns that the channel is finished. -/
def hangUp? (s : State) : Option State :=
  if s.channel.isFinished then move? s .hangUp else none

/-- The receiver goes with the coordinator. -/
def leave? (s : State) : Option State :=
  if s.system.isClosed && s.channel.receiverHere then
    some { s with channel := s.channel.withoutReceiver }
  else none

/-- What happens next. -/
def next? (s : State) : Option State :=
  move? s .begin <|> answer? s <|> move? s .join <|> move? s .drain <|> receive? s <|> hangUp? s <|>
    leave? s <|> move? s .recheck <|> move? s .wake

/-- When the next recheck is due. -/
def recheckTime? (c : Convergence) : Option Nat :=
  if c.duty = .listening then some c.nextRecheck else none

/-- How coordinator and reconciler are driven. -/
def clockwork : Clockwork State where
  now s := s.system.now
  next? := next?
  due? s := Clockwork.earlier (callEnd? s.host s.system) (recheckTime? s.system)
  wait s millis := (move? s (.elapse millis)).getD s

/-- What an event does and answers. -/
def happen (s : State) : Event → Reply × State
  | .send leader =>
    if !s.channel.senderHere then (.closed, s)
    else match s.channel.put? leader with
      | some channel => (.sent true, { s with channel })
      | none => (.sent false, s)
  | .close => (.nothing, { s with channel := s.channel.withoutSender })
  | .cancel =>
    match move? s .cancel with
    | some s => (.nothing, { s with toldBeforeCancel := some s.system.told.length })
    | none => (.nothing, s)
  | .abort => (.nothing, (move? s .abandon).getD s)
  | .host e => (.nothing, { s with host := s.host.apply e })
  | .look => (.nothing, s)

/-- What is noted after an event. -/
structure Note where
  time : Nat
  reply : Reply
  /-- Whether the host has the address. -/
  present : Bool
  /-- How many calls have ended. -/
  calls : Nat
  /-- Whether the coordinator still runs. -/
  running : Bool
  deriving DecidableEq, Repr

/-- Plays up to an event and lets it happen. -/
def playEvent (s : State) (time : Nat) (e : Event) : Note × State :=
  let (reply, s) := happen (clockwork.playTo time s) e
  let s := clockwork.settle s
  (⟨s.system.now, reply, s.host.present, s.system.calls.length, s.system.duty.isRunning⟩, s)

/-- Plays up to events in order and lets them happen. -/
def playEvents (s : State) : List (Nat × Event) → List Note × State
  | [] => ([], s)
  | (time, e) :: rest =>
    let (note, s) := playEvent s time e
    let (notes, s) := playEvents s rest
    (note :: notes, s)

/-- Plays up to events in order and then up to a time. -/
def play (s : State) (events : List (Nat × Event)) (time : Nat) : List Note × State :=
  let (notes, s) := playEvents s events
  (notes, clockwork.playTo time s)

/-- What the coordinator told before the work was called off, in order. -/
def toldInTime (s : State) : List Convergence.CoordinatorNotice :=
  let told := s.system.told.reverse
  match s.toldBeforeCancel with
  | some n => told.take n
  | none => told

end FloatingIp.Rehearsal.ConvergencePlay
