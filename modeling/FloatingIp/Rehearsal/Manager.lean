import FloatingIp.Manager
import FloatingIp.Rehearsal.Convergence

/-!
# Rehearsing the manager

The whole manager is played on an imagined host and a store in memory that is some way off: a read
reaches it only after a delay.  Reads can be made to break down on their way, which brings down the
watch.  The manager has run its course when both the coordinator and the watch have ended.
-/

namespace FloatingIp.Rehearsal.ManagerPlay

open FloatingIp (Manager)
open ConvergencePlay (Reply Note callEnd? recheckTime?)

/-- An event from outside. -/
inductive Event where
  /-- The marker is written. -/
  | set (value : String)
  /-- The marker is taken away. -/
  | clear
  /-- The next reads are made to fail. -/
  | failNext (count : Nat)
  /-- Reads that are on their way from now on break down. -/
  | breakReads
  /-- A leadership change from outside, which nobody can send. -/
  | send
  /-- The work is called off. -/
  | cancel
  /-- The manager is dropped. -/
  | abort
  /-- Something happens to the host. -/
  | host (e : HostEvent)
  /-- Nothing happens. -/
  | look
  deriving DecidableEq, Repr

/-- A manager with its host and the way to its store. -/
structure State where
  /-- The manager. -/
  manager : Manager
  /-- The host. -/
  host : ImaginedHost
  /-- How long a read takes to reach the store. -/
  latency : Nat
  /-- Whether reads break down on their way. -/
  breaking : Bool
  /-- Results of reads with the times at which they ended, newest first. -/
  heard : List (Nat × ReadResult)
  /-- How much the coordinator had told when the work was called off. -/
  toldBeforeCancel : Option Nat
  /-- Whether the manager was dropped. -/
  dropped : Bool
  /-- When the manager had run its course. -/
  endTime : Option Nat

/-- A store with the marker that is there before, if there is one. -/
def storeWith (window : Nat) : (first : Option String) → MemoryStore
  | some value => (MemoryStore.new window).write (some value)
  | none => MemoryStore.new window

/-- The beginning. -/
def State.new (manager : Manager) (latency : Nat) (host : ImaginedHost) : State :=
  ⟨manager, host, latency, false, [], none, false, none⟩

/-- The time. -/
def State.now (s : State) : Nat :=
  s.manager.convergence.now

/-- Makes a move of the manager. -/
def move? (s : State) (m : Manager.Move) : Option State :=
  (s.manager.move? m).map fun manager => { s with manager }

/-- When the read that is on its way reaches the store. -/
def arrivalTime? (s : State) : Option Nat :=
  match s.manager.watch.phase, s.manager.reading, s.manager.watch.reads with
  | .reading, none, r :: _ => some (r.time + s.latency)
  | _, _, _ => none

/-- The read that is on its way reaches the store, or breaks down. -/
def arrive? (s : State) : Option State := do
  if (← arrivalTime? s) ≤ s.now then move? s (if s.breaking then .crash else .arrive) else none

/-- A read ends. -/
def hear? (s : State) : Option State := do
  let (result, _) ← s.manager.store.finish? (← s.manager.reading)
  (move? s .hear).map fun s => { s with heard := (s.now, result) :: s.heard }

/-- The host answers the call that the reconciler is in. -/
def answer? (s : State) : Option State := do
  let c := s.manager.convergence
  let call ← c.reconciler.phase.call?
  if c.callStart + s.host.takes call ≤ c.now then
    let (a, host) := s.host.answer call
    (move? s (.answer a)).map fun s => { s with host }
  else none

/-- The manager has run its course. -/
def end? (s : State) : Option State :=
  match s.manager.convergence.duty with
  | .returned _ _ =>
    if s.endTime.isNone && !s.manager.watch.phase.isRunning then
      some { s with endTime := some s.now }
    else none
  | _ => none

/-- What happens next. -/
def next? (s : State) : Option State :=
  move? s .begin <|> answer? s <|> move? s .join <|> move? s .stop <|> arrive? s <|> hear? s <|>
    move? s .retry <|> move? s .refuse <|> move? s .deliver <|> move? s .drain <|>
    move? s .receive <|> move? s .hangUp <|> move? s .recheck <|> move? s .wake <|> end? s

/-- When the watch's read at the store ends by itself. -/
def windowEnd? (s : State) : Option Nat :=
  (s.manager.store.pending.map (·.deadline)).min?

/-- When the watch's pause is over. -/
def pauseEnd? (s : State) : Option Nat :=
  match s.manager.watch.phase with
  | .pausing wakeAt => some wakeAt
  | _ => none

/-- How a manager is driven. -/
def clockwork : Clockwork State where
  now := State.now
  next? := next?
  due? s :=
    let c := s.manager.convergence
    Clockwork.earlier (Clockwork.earlier (callEnd? s.host c) (recheckTime? c))
      (Clockwork.earlier (arrivalTime? s) (Clockwork.earlier (windowEnd? s) (pauseEnd? s)))
  wait s millis := (move? s (.elapse millis)).getD s

/-- What an event does and answers. -/
def happen (s : State) : Event → Reply × State
  | .set value => (.nothing, (move? s (.set value)).getD s)
  | .clear => (.nothing, (move? s .clear).getD s)
  | .failNext count => (.nothing, (move? s (.failNext count)).getD s)
  | .breakReads => (.nothing, { s with breaking := true })
  | .send => (.closed, s)
  | .cancel =>
    match move? s .cancel with
    | some s => (.nothing, { s with toldBeforeCancel := some s.manager.convergence.told.length })
    | none => (.nothing, s)
  | .abort =>
    if s.endTime.isSome then (.nothing, s)
    else (.nothing, { (move? s .abandon).getD s with dropped := true })
  | .host e => (.nothing, { s with host := s.host.apply e })
  | .look => (.nothing, s)

/-- Whether the manager still runs. -/
def isRunning (s : State) : Bool :=
  !s.dropped && s.endTime.isNone

/-- Plays up to an event and lets it happen. -/
def playEvent (s : State) (time : Nat) (e : Event) : Note × State :=
  let (reply, s) := happen (clockwork.playTo time s) e
  let s := clockwork.settle s
  (⟨s.now, reply, s.host.present, s.manager.convergence.calls.length, isRunning s⟩, s)

/-- Plays up to events in order and lets them happen. -/
def playEvents (s : State) : List (Nat × Event) → List Note × State
  | [] => ([], s)
  | (time, e) :: rest =>
    let (note, s) := playEvent s time e
    let (notes, s) := playEvents s rest
    (note :: notes, s)

/-- Plays up to events in order and then up to a time. -/
def play (s : State) (events : List (Nat × Event)) (time : Nat) : List Note × State :=
  let (notes, s) := playEvents s events
  (notes, clockwork.playTo time s)

/-- A read of the watch. -/
structure ReadRecord where
  /-- When it began. -/
  start : Nat
  /-- How long a version it waited to see exceeded. -/
  waitIndex : Nat
  /-- When it ended and how, if it did. -/
  finish : Option (Nat × ReadResult)
  deriving DecidableEq

/-- Reads with their ends: the ends come in the order of the reads. -/
def pairEnds : List Watch.ReadStart → List (Nat × ReadResult) → List ReadRecord
  | [], _ => []
  | r :: rs, [] => ⟨r.time, r.options.waitIndex, none⟩ :: pairEnds rs []
  | r :: rs, e :: es => ⟨r.time, r.options.waitIndex, some e⟩ :: pairEnds rs es

/-- The reads of the watch, in order. -/
def reads (s : State) : List ReadRecord :=
  pairEnds s.manager.watch.reads.reverse s.heard.reverse

/-- What the coordinator told before the work was called off, in order. -/
def toldInTime (s : State) : List Convergence.CoordinatorNotice :=
  let told := s.manager.convergence.told.reverse
  match s.toldBeforeCancel with
  | some n => told.take n
  | none => told

/-- What the manager itself tells. -/
inductive Notice where
  | starting (vip : Vip) (store : String)
  | noInterface (interface : String)
  | watchCancelled
  | watchStopped (fault : Fault)
  | watchFailed (broken : Breakdown)
  | stopped (cidr : String)
  deriving DecidableEq

/-- The line of a notice. -/
def Notice.line : Notice → Log.Line
  | starting vip store =>
    ⟨.info, "Starting VIP manager",
      [("cidr", vip.cidr), ("interface", vip.interface), ("node", vip.node), ("key", vip.key),
        ("store", store)]⟩
  | noInterface interface =>
    ⟨.warn, "Interface does not exist yet, will keep retrying", [("interface", interface)]⟩
  | watchCancelled => ⟨.debug, "Leadership watcher cancelled", []⟩
  | watchStopped fault => ⟨.warn, "Leadership watcher stopped", [("error", fault.message)]⟩
  | watchFailed broken =>
    ⟨.error, "Leadership watcher task failed", [("error", broken.text)]⟩
  | stopped cidr => ⟨.info, "VIP manager stopped", [("cidr", cidr)]⟩

/-- What is told at the start; only the loopback interface is there. -/
def openingNotices (vip : Vip) : List Notice :=
  .starting vip MemoryStore.name ::
    if vip.interface = "lo" then [] else [.noInterface vip.interface]

/-- What is told at the end, where `broken` is how a watch broke down that crashed. -/
def closingNotices (vip : Vip) (broken : Breakdown) (s : State) : List Notice :=
  if s.endTime.isNone then []
  else
    (match s.manager.watch.phase with
      | .ended _ .cancelled => [.watchCancelled]
      | .ended _ fault => [.watchStopped fault]
      | _ => [.watchFailed broken]) ++ [.stopped vip.cidr]

end FloatingIp.Rehearsal.ManagerPlay
