import FloatingIp.Cell
import FloatingIp.Fault
import FloatingIp.Host.IpTool

/-!
# Passes of the reconciler

The reconciler makes the host agree with the desired state in passes.  A pass asks whether the
address is there, looks at the desired state only then, and if the two differ removes the address,
or adds it after a probe that found no other host with it.  A change that succeeds is followed by
another pass, everything else by a rest until the desired state is written again.  Once the work
is called off no pass begins any more; the address is released, and that is the end.

Between two calls to the host the reconciler does not wait, so its life is a walk through the
phases below, and a `Reconciler` steps from one to the next by the answer to the call that it is
in.  Every function here is total and takes what it needs from outside, the cell and whether the
work is called off, as arguments.
-/

namespace FloatingIp.Convergence

open Host (ChangeOutcome)

/-- The calls to the host. -/
inductive Call where
  /-- Asks whether the address is there. -/
  | query
  /-- Asks whether another host has the address. -/
  | probe
  /-- Adds the address. -/
  | configure
  /-- Removes the address. -/
  | deconfigure
  deriving DecidableEq, Repr

/-- The answers to calls. -/
inductive Answer where
  /-- Whether the address is there. -/
  | present (actual : Bool)
  /-- The question could not be answered. -/
  | queryFailed (fault : AddressFault)
  /-- Whether another host has the address. -/
  | duplicate (found : Bool)
  /-- The change was made, or there was nothing to change. -/
  | changed (outcome : ChangeOutcome)
  /-- The change was not made. -/
  | changeFailed (fault : AddressFault)
  /-- The call broke down and takes the reconciler with it. -/
  | broke
  deriving DecidableEq

/-- What a reconciler has done so far. -/
structure Stats where
  /-- Passes begun. -/
  passes : Nat
  /-- Attempts to add the address. -/
  configures : Nat
  /-- Attempts to remove the address, the final release included. -/
  deconfigures : Nat
  /-- Calls that failed, and claims put off because of a duplicate. -/
  failures : Nat
  deriving DecidableEq, Repr

/-- Nothing done. -/
def Stats.zero : Stats :=
  ⟨0, 0, 0, 0⟩

/-- Where a reconciler is. -/
inductive Phase where
  /-- It has not begun. -/
  | starting
  /-- In a pass, asking whether the address is there. -/
  | querying
  /-- In a pass, asking for a duplicate before the address is added. -/
  | probing
  /-- In a pass, adding the address. -/
  | claiming
  /-- In a pass, removing the address. -/
  | withdrawing
  /-- Between passes, until there is something new. -/
  | resting
  /-- Removing the address for the last time. -/
  | releasing
  /-- It has ended. -/
  | stopped
  /-- It was brought down by a call. -/
  | crashed
  deriving DecidableEq, Repr

/-- The call that a reconciler is in. -/
def Phase.call? : Phase → Option Call
  | .querying => some .query
  | .probing => some .probe
  | .claiming => some .configure
  | .withdrawing => some .deconfigure
  | .releasing => some .deconfigure
  | _ => none

/-- Whether a reconciler has ended, one way or the other. -/
def Phase.isOver : Phase → Bool
  | .stopped => true
  | .crashed => true
  | _ => false

/-- What a reconciler tells. -/
inductive Notice where
  | started
  | queryFailed (fault : AddressFault)
  | compared (actual desired : Bool)
  | changed (configured : Bool) (outcome : ChangeOutcome)
  | deferred
  | configureFailed (fault : AddressFault)
  | deconfigureFailed (fault : AddressFault)
  | releasing
  | stopped (stats : Stats)
  deriving DecidableEq

/-- The fields of counters. -/
def Stats.fields (s : Stats) : List (String × String) :=
  [("passes", Digits.decimal s.passes), ("configures", Digits.decimal s.configures),
    ("deconfigures", Digits.decimal s.deconfigures), ("failures", Digits.decimal s.failures)]

/-- The line of a notice. -/
def Notice.line : Notice → Log.Line
  | started => ⟨.info, "Reconciler started", []⟩
  | queryFailed fault =>
    ⟨.warn, "Failed to query address state", [("error", (Fault.address fault).message)]⟩
  | compared actual desired =>
    ⟨.debug, "Address state", [("actual", Log.flag actual), ("desired", Log.flag desired)]⟩
  | changed configured outcome =>
    ⟨.info, match outcome with
      | .applied => "Address change applied"
      | .already => "Address already in requested state",
      [("action", if configured then "configure" else "deconfigure")]⟩
  | deferred => ⟨.warn, "Address is in use by another host, deferring claim", []⟩
  | configureFailed fault =>
    ⟨.warn, "Failed to configure address, retrying on next wake",
      [("error", (Fault.address fault).message)]⟩
  | deconfigureFailed fault =>
    ⟨.warn, "Failed to remove address, retrying on next wake",
      [("error", (Fault.address fault).message)]⟩
  | releasing => ⟨.info, "Reconciler cancelled, releasing address", []⟩
  | stopped stats => ⟨.info, "Reconciler stopped", stats.fields⟩

/-- A reconciler. -/
structure Reconciler where
  /-- Where it is. -/
  phase : Phase
  /-- How many writes of the desired state it has seen. -/
  seen : Nat
  /-- The desired state as it was when it last looked. -/
  desired : Bool
  /-- What it has done. -/
  stats : Stats
  /-- What it has told, newest first. -/
  told : List Notice
  deriving DecidableEq

namespace Reconciler

/-- A reconciler that has not begun and knows the desired state as it is. -/
def new (cell : Cell Bool) : Reconciler :=
  ⟨.starting, cell.writes, cell.value, Stats.zero, []⟩

/-- Tells a notice. -/
def tell (r : Reconciler) (n : Notice) : Reconciler :=
  { r with told := n :: r.told }

/-- Counts a failure and tells of it. -/
def fail (r : Reconciler) (n : Notice) : Reconciler :=
  { r with stats.failures := r.stats.failures + 1, told := n :: r.told }

/-- Rests until there is something new. -/
def rest (r : Reconciler) : Reconciler :=
  { r with phase := .resting }

/-- Begins the final release. -/
def release (r : Reconciler) : Reconciler :=
  { r with
    phase := .releasing, stats.deconfigures := r.stats.deconfigures + 1,
    told := .releasing :: r.told }

/-- Begins a pass, or the final release once the work is called off. -/
def nextPass (r : Reconciler) (cancelled : Bool) : Reconciler :=
  if cancelled then r.release
  else { r with phase := .querying, stats.passes := r.stats.passes + 1 }

/-- Begins. -/
def begin (r : Reconciler) (cancelled : Bool) : Reconciler :=
  (r.tell .started).nextPass cancelled

/-- Begins to add the address. -/
def claim (r : Reconciler) : Reconciler :=
  { r with phase := .claiming, stats.configures := r.stats.configures + 1 }

/-- Begins to remove the address within a pass. -/
def withdraw (r : Reconciler) : Reconciler :=
  { r with phase := .withdrawing, stats.deconfigures := r.stats.deconfigures + 1 }

/-- Looks at the desired state; a pass does so once, when it knows whether the address is there or
that it cannot know. -/
def look (r : Reconciler) (cell : Cell Bool) : Reconciler :=
  { r with seen := cell.writes, desired := cell.value }

/-- Goes on from the answer whether the address is there and from the desired state that it has
just looked at. -/
def compare (r : Reconciler) (actual : Bool) : Reconciler :=
  let r := r.tell (.compared actual r.desired)
  if actual = r.desired then r.rest
  else if r.desired then { r with phase := .probing }
  else r.withdraw

/-- Ends. -/
def stop (r : Reconciler) : Reconciler :=
  { r with phase := .stopped, told := .stopped r.stats :: r.told }

/-- Goes on from the answer to the call that it is in; nothing for an answer to another call. -/
def answer? (r : Reconciler) (cancelled : Bool) (cell : Cell Bool) :
    Answer → Option Reconciler
  | .broke => if r.phase.call?.isSome then some { r with phase := .crashed } else none
  | .present actual => if r.phase = .querying then some ((r.look cell).compare actual) else none
  | .queryFailed fault =>
    if r.phase = .querying then some ((r.fail (.queryFailed fault)).look cell).rest else none
  | .duplicate found =>
    if r.phase = .probing then some (if found then (r.fail .deferred).rest else r.claim) else none
  | .changed outcome =>
    match r.phase with
    | .claiming => some ((r.tell (.changed true outcome)).nextPass cancelled)
    | .withdrawing => some ((r.tell (.changed false outcome)).nextPass cancelled)
    | .releasing => some (r.tell (.changed false outcome)).stop
    | _ => none
  | .changeFailed fault =>
    match r.phase with
    | .claiming => some (r.fail (.configureFailed fault)).rest
    | .withdrawing => some (r.fail (.deconfigureFailed fault)).rest
    | .releasing => some (r.fail (.deconfigureFailed fault)).stop
    | _ => none

/-- Wakes from its rest, if there is a reason to: the work is called off, the desired state has
been written, or nobody is left to write it. -/
def wake? (r : Reconciler) (cancelled : Bool) (cell : Cell Bool) (closed : Bool) :
    Option Reconciler :=
  if r.phase ≠ .resting then none
  else if cancelled then some r.release
  else if cell.changedSince r.seen then some ({ r with seen := cell.writes }.nextPass cancelled)
  else if closed then some r.release
  else none

end Reconciler
end FloatingIp.Convergence
