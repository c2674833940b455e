import FloatingIp.Rehearsal.Clockwork
import FloatingIp.Watch

/-!
# Rehearsing a watch

A watch is played against a store that follows a script: each read takes the next entry, which
says how long the read takes and what it results in, and a read beyond the script never ends.  The
receiver pauses before each item that it takes, and may go after a number of them.  Where the
receiver takes its last item and goes, it is gone before the watch can offer the next one.
-/

namespace FloatingIp.Rehearsal.WatchPlay

open FloatingIp (Watch)

/-- An entry of the script. -/
structure ScriptedRead where
  /-- How long the read takes. -/
  takes : Nat
  /-- What it results in. -/
  result : ReadResult
  deriving DecidableEq

/-- A watch, its store and its receiver. -/
structure State where
  /-- The watch. -/
  watch : Watch
  /-- Entries for reads to come. -/
  script : List ScriptedRead
  /-- When the read that has begun ends, and how. -/
  due : Option (Nat × ReadResult)
  /-- How many reads have got their entry. -/
  served : Nat
  /-- The receiver's pause. -/
  receiveDelay : Nat
  /-- When the receiver's pause is over. -/
  receiveAt : Nat
  /-- How many items the receiver still takes, if it goes at all. -/
  receivesLeft : Option Nat
  /-- Items with the times at which they were taken, newest first. -/
  received : List (Nat × Bool)
  deriving DecidableEq

/-- The beginning. -/
def State.new (plan : Watch.Plan) (channel : Channel Bool) (script : List ScriptedRead)
    (receiveDelay : Nat) (receiveLimit : Option Nat) : State :=
  ⟨Watch.new plan channel, script, none, 0, receiveDelay, receiveDelay, receiveLimit, []⟩

/-- Makes a move of the watch. -/
def move? (s : State) (m : Watch.Move) : Option State :=
  (s.watch.move? m).map fun watch => { s with watch }

/-- The receiver goes once it has taken its last item. -/
def leave? (s : State) : Option State :=
  if s.receivesLeft = some 0 then move? s .leave else none

/-- The receiver takes an item after its pause. -/
def take? (s : State) : Option State :=
  if s.receiveAt ≤ s.watch.now then do
    let (item, _) ← s.watch.channel.take?
    let s ← move? s .take
    some { s with
      received := (s.watch.now, item) :: s.received
      receiveAt := s.watch.now + s.receiveDelay
      receivesLeft := s.receivesLeft.map (· - 1) }
  else none

/-- A read that has begun gets its entry. -/
def serve? (s : State) : Option State :=
  if s.served < s.watch.reads.length then
    match s.script with
    | r :: script =>
      some { s with script, due := some (s.watch.now + r.takes, r.result), served := s.served + 1 }
    | [] => none
  else none

/-- A read ends. -/
def hear? (s : State) : Option State :=
  match s.due with
  | some (time, result) =>
    if time ≤ s.watch.now then (move? s (.hear result)).map fun s => { s with due := none }
    else none
  | none => none

/-- What happens next. -/
def next? (s : State) : Option State :=
  leave? s <|> take? s <|> serve? s <|> move? s .stop <|> hear? s <|> move? s .retry <|>
    move? s .refuse <|> move? s .deliver

/-- When the pause of the watch is over. -/
def pauseEnd? (w : Watch) : Option Nat :=
  match w.phase with
  | .pausing wakeAt => some wakeAt
  | _ => none

/-- When the receiver takes what waits. -/
def takeTime? (s : State) : Option Nat :=
  if s.watch.channel.queue.isEmpty then none else some s.receiveAt

/-- How a watch is driven. -/
def clockwork : Clockwork State where
  now s := s.watch.now
  next? := next?
  due? s :=
    Clockwork.earlier (s.due.map (·.1)) (Clockwork.earlier (pauseEnd? s.watch) (takeTime? s))
  wait s millis := (move? s (.elapse millis)).getD s

/-- Plays up to a time, calls the work off then, and lets happen what can happen. -/
def playAndCancel (s : State) (time : Nat) : State :=
  let s := clockwork.playTo time s
  clockwork.settle ((move? s .cancel).getD s)

end FloatingIp.Rehearsal.WatchPlay
