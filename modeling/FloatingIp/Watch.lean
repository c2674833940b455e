import FloatingIp.Channel
import FloatingIp.Fault
import FloatingIp.Log

/-!
# Watching the leader marker

A watch reads the leader marker again and again and says on a channel, at every change, whether
this node leads.  It remembers the version of the last marker and the last thing that it said:
a marker of the same version is passed over, and so is one that would only repeat what was said.
A marker of a lower version counts as a new one, since a store can be set back.

After a marker the next read follows at once and waits at the store for a newer one; after no
marker, or a failed read, the watch pauses for a fixed delay.  While a change waits for room in
the channel nothing is read.

As for the other parts, what happens next is a `Move`, and a run is any list of moves that can be
made.  The store is not part of a watch: the result of a read comes with the move `hear`.
-/

namespace FloatingIp

/-- The result of a read. -/
inductive ReadResult where
  /-- There is a marker. -/
  | marker (m : Marker)
  /-- There is none. -/
  | absent
  /-- The read failed. -/
  | failed (fault : Fault)
  deriving DecidableEq

/-- What a watch remembers. -/
structure Recall where
  /-- The version of the last marker. -/
  version : Option Nat
  /-- What was said last. -/
  said : Option Bool
  /-- The wait index of the next read. -/
  waitIndex : Nat
  deriving DecidableEq, Repr

/-- What a marker means to a watch. -/
inductive Verdict where
  /-- It has the version of the last marker. -/
  | known
  /-- It is new and repeats what was said last. -/
  | repeated
  /-- It is new and there is something to say. -/
  | news (leader : Bool)
  deriving DecidableEq, Repr

namespace Recall

/-- Nothing has been read. -/
def nothing : Recall :=
  ⟨none, none, 0⟩

/-- What a marker means to the watch of `node`, and what is remembered of it. -/
def judge (c : Recall) (node : String) (m : Marker) : Verdict × Recall :=
  if c.version = some m.version then (.known, c)
  else
    let c := { c with version := some m.version, waitIndex := waitIndexAfter m.version }
    if c.said = some (m.names node) then (.repeated, c) else (.news (m.names node), c)

/-- Remembers that something was said. -/
def say (c : Recall) (leader : Bool) : Recall :=
  { c with said := some leader }

end Recall

namespace Watch

/-- Where a watch is. -/
inductive Phase where
  /-- It waits for the result of a read. -/
  | reading
  /-- It pauses until a time. -/
  | pausing (wakeAt : Nat)
  /-- It waits for room in the channel. -/
  | offering (leader : Bool)
  /-- It has ended at a time. -/
  | ended (time : Nat) (fault : Fault)
  /-- It was brought down by a read, at a time. -/
  | crashed (time : Nat)
  deriving DecidableEq

/-- Whether a watch still runs. -/
def Phase.isRunning : Phase → Bool
  | .ended _ _ => false
  | .crashed _ => false
  | _ => true

/-- What a watch tells. -/
inductive Notice where
  | started (store key node : String)
  | noMarker (key : String)
  | readFailed (store : String) (fault : Fault)
  | wentBackwards (last index : Nat)
  | rewritten (m : Marker)
  | changed (m : Marker) (leader : Bool)
  | receiverGone
  | stopped
  deriving DecidableEq

/-- The line of a notice. -/
def Notice.line : Notice → Log.Line
  | started store key node =>
    ⟨.info, "Leadership watcher started", [("store", store), ("key", key), ("node", node)]⟩
  | noMarker key => ⟨.warn, "Cannot get leader marker, will try again", [("key", key)]⟩
  | readFailed store fault =>
    ⟨.warn, "Coordination store error", [("store", store), ("error", fault.message)]⟩
  | wentBackwards last index =>
    ⟨.debug, "Leader marker index went backwards, resetting",
      [("last_index", Digits.decimal last), ("index", Digits.decimal index)]⟩
  | rewritten m =>
    ⟨.debug, "Leader marker rewritten, leadership unchanged",
      [("leader", m.value), ("index", Digits.decimal m.version)]⟩
  | changed m leader =>
    ⟨.debug, "Leadership changed",
      [("leader", m.value), ("index", Digits.decimal m.version), ("is_leader", Log.flag leader)]⟩
  | receiverGone => ⟨.warn, "Leadership receiver closed, stopping watcher", []⟩
  | stopped => ⟨.info, "Leadership watcher stopped", []⟩

/-- What is watched, for whom, and how long a pause is. -/
structure Plan where
  /-- The name of the store. -/
  store : String
  /-- The key of the marker. -/
  key : String
  /-- The node that asks whether it leads. -/
  node : String
  /-- The pause after a read without a marker, in milliseconds. -/
  retryDelay : Nat
  deriving DecidableEq, Repr

/-- The usual pause, in milliseconds. -/
def standardRetryDelay : Nat := 1000

/-- A read that has begun. -/
structure ReadStart where
  /-- When it began. -/
  time : Nat
  /-- How the marker is read. -/
  options : ReadOptions
  deriving DecidableEq, Repr

/-- Something that may happen. -/
inductive Move where
  /-- The read is over. -/
  | hear (result : ReadResult)
  /-- The pause is over. -/
  | retry
  /-- The channel takes what is offered. -/
  | deliver
  /-- The watch learns that the receiver has gone. -/
  | refuse
  /-- The watch learns that the work is called off. -/
  | stop
  /-- The read brings the watch down. -/
  | crash
  /-- The receiver takes what waits longest. -/
  | take
  /-- The receiver goes. -/
  | leave
  /-- The work is called off. -/
  | cancel
  /-- Time passes. -/
  | elapse (millis : Nat)
  deriving DecidableEq

end Watch

open Watch (Phase Notice Plan ReadStart Move)

/-- A watch with its channel. -/
structure Watch where
  /-- What is watched. -/
  plan : Plan
  /-- The time. -/
  now : Nat
  /-- Whether the work is called off. -/
  cancelled : Bool
  /-- Where the watch is. -/
  phase : Phase
  /-- What the watch remembers. -/
  remembered : Recall
  /-- The channel on which changes are said. -/
  channel : Channel Bool
  /-- The reads that have begun, newest first. -/
  reads : List ReadStart
  /-- What the watch has told, newest first. -/
  told : List Notice
  deriving DecidableEq

namespace Watch

/-- Begins a read. -/
def read (w : Watch) : Watch :=
  { w with
    phase := .reading, reads := ⟨w.now, ⟨true, w.remembered.waitIndex⟩⟩ :: w.reads }

/-- The beginning: the first read starts at once. -/
def new (plan : Plan) (channel : Channel Bool) : Watch :=
  read { plan, now := 0, cancelled := false, phase := .reading, remembered := Recall.nothing,
         channel, reads := [], told := [.started plan.store plan.key plan.node] }

/-- Tells a notice. -/
def tell (w : Watch) (n : Notice) : Watch :=
  { w with told := n :: w.told }

/-- Pauses. -/
def pause (w : Watch) : Watch :=
  { w with phase := .pausing (w.now + w.plan.retryDelay) }

/-- Ends, and lets the channel know. -/
def finish (w : Watch) (phase : Phase) : Watch :=
  { w with phase, channel := w.channel.withoutSender }

/-- Tells of a version below the last one. -/
def tellBackwards (w : Watch) (m : Marker) : Watch :=
  match w.remembered.version with
  | some last => if m.version < last then w.tell (.wentBackwards last m.version) else w
  | none => w

/-- Goes on from the result of a read. -/
def hear (w : Watch) : ReadResult → Watch
  | .absent => (w.tell (.noMarker w.plan.key)).pause
  | .failed fault => (w.tell (.readFailed w.plan.store fault)).pause
  | .marker m =>
    let (verdict, remembered) := w.remembered.judge w.plan.node m
    let told := { w.tellBackwards m with remembered }
    match verdict with
    | .known => w.read
    | .repeated => (told.tell (.rewritten m)).read
    | .news leader => { told.tell (.changed m leader) with phase := .offering leader }

/-- Has what is offered taken by the channel. -/
def deliver? (w : Watch) : Option Watch :=
  match w.phase with
  | .offering leader =>
    (w.channel.put? leader).map fun channel =>
      read { w with channel, remembered := w.remembered.say leader }
  | _ => none

/-- Ends since nobody takes what is offered. -/
def refuse? (w : Watch) : Option Watch :=
  match w.phase with
  | .offering _ =>
    if w.channel.receiverHere then none
    else some ((w.tell .receiverGone).finish (.ended w.now (.other .receiverGone)))
  | _ => none

/-- Whether so much time may pass: a pause is not overslept. -/
def mayElapse (w : Watch) (millis : Nat) : Bool :=
  match w.phase with
  | .pausing wakeAt => w.now + millis ≤ wakeAt
  | _ => true

/-- Makes a move, if it can be made. -/
def move? (w : Watch) : Move → Option Watch
  | .hear result => if w.phase = .reading then some (w.hear result) else none
  | .retry => if w.phase = .pausing w.now then some w.read else none
  | .deliver => w.deliver?
  | .refuse => w.refuse?
  | .stop =>
    if w.cancelled ∧ w.phase.isRunning then
      some ((w.tell .stopped).finish (.ended w.now .cancelled))
    else none
  | .crash => if w.phase = .reading then some (w.finish (.crashed w.now)) else none
  | .take => w.channel.take?.map fun (_, channel) => { w with channel }
  | .leave =>
    if w.channel.receiverHere then some { w with channel := w.channel.withoutReceiver } else none
  | .cancel => if w.cancelled then none else some { w with cancelled := true }
  | .elapse millis => if w.mayElapse millis then some { w with now := w.now + millis } else none

/-- Makes moves one after another, if they can all be made. -/
def run? (w : Watch) (moves : List Move) : Option Watch :=
  moves.foldlM move? w

end Watch
end FloatingIp
