import FloatingIp.Convergence.Pass

/-!
# An imagined host

A host that has the address or not, and that can go wrong on demand.  A call takes a fixed time
and acts at its end.  What goes wrong is a list of mishaps with how often each is still to happen:
a call breaks down, or it fails, or a change is reported that was not made.  A change that was
already in place is told as such and uses up no unreal change.
-/

namespace FloatingIp.Rehearsal

open Convergence (Call Answer)

/-- What can go wrong. -/
inductive Mishap where
  /-- A call breaks down. -/
  | breaks (c : Call)
  /-- A call fails. -/
  | fails (c : Call)
  /-- The address is reported as added and is not. -/
  | unreal
  /-- The address is reported as removed and is not. -/
  | sticks
  deriving DecidableEq, Repr

/-- An imagined host. -/
structure ImaginedHost where
  /-- Whether it has the address. -/
  present : Bool
  /-- Whether another host has the address. -/
  duplicate : Bool
  /-- How long each call takes. -/
  takes : Call → Nat
  /-- How often each mishap is still to happen; the first entry of a mishap counts. -/
  left : List (Mishap × Nat)

namespace ImaginedHost

/-- How often a mishap is still to happen. -/
def remaining (h : ImaginedHost) (m : Mishap) : Nat :=
  (h.left.lookup m).getD 0

/-- Sets how often a mishap is to happen. -/
def setLeft (h : ImaginedHost) (m : Mishap) (n : Nat) : ImaginedHost :=
  { h with left := (m, n) :: h.left.filter fun e => e.1 ≠ m }

/-- The host after a mishap has happened, if it is to happen. -/
def use? (h : ImaginedHost) (m : Mishap) : Option ImaginedHost :=
  if 0 < h.remaining m then some (h.setLeft m (h.remaining m - 1)) else none

/-- A change to `target`: the answer, and the host after it. -/
def change (h : ImaginedHost) (target : Bool) (mishap : Mishap) : Answer × ImaginedHost :=
  if h.present = target then (.changed .already, h)
  else match h.use? mishap with
    | some h => (.changed .applied, h)
    | none => (.changed .applied, { h with present := target })

/-- What a call comes to if it does not go wrong. -/
def act (h : ImaginedHost) : Call → Answer × ImaginedHost
  | .query => (.present h.present, h)
  | .probe => (.duplicate h.duplicate, h)
  | .configure => h.change true .unreal
  | .deconfigure => h.change false .sticks

/-- How a call fails. -/
def failure : Call → Answer
  | .query => .queryFailed .injected
  | .probe => .duplicate false
  | .configure => .changeFailed .injected
  | .deconfigure => .changeFailed .injected

/-- What a call comes to at its end. -/
def answer (h : ImaginedHost) (c : Call) : Answer × ImaginedHost :=
  match h.use? (.breaks c) with
  | some h => (.broke, h)
  | none =>
    match if c = .probe then none else h.use? (.fails c) with
    | some h => (failure c, h)
    | none => h.act c

end ImaginedHost

/-- What is done to an imagined host from outside. -/
inductive HostEvent where
  /-- The address is added or removed. -/
  | present (on : Bool)
  /-- Another host takes or leaves the address. -/
  | duplicate (on : Bool)
  /-- Sets how often a mishap is to happen. -/
  | left (m : Mishap) (n : Nat)
  deriving DecidableEq, Repr

/-- The host after an event. -/
def ImaginedHost.apply (h : ImaginedHost) : HostEvent → ImaginedHost
  | .present on => { h with present := on }
  | .duplicate on => { h with duplicate := on }
  | .left m n => h.setLeft m n

end FloatingIp.Rehearsal
