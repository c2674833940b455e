/-!
# The leader marker

The coordination store holds one marker: the name of the current leader, with a version that
changes at every write.  A read asks for the marker as it is, or, with a wait index above zero,
for the first one that is newer.
-/

namespace FloatingIp

/-- Who leads, and which write of the store said so. -/
structure Marker where
  /-- Name of the leading node. -/
  value : String
  /-- Version of the record that was read. -/
  version : Nat
  deriving DecidableEq, Repr

/-- Whether the marker names `node`; names are equal character for character. -/
def Marker.names (m : Marker) (node : String) : Bool :=
  m.value == node

/-- How a marker is read. -/
structure ReadOptions where
  /-- Ask for a read that no former leader of the store can answer. -/
  consistent : Bool
  /-- Wait for a version above this one; zero does not wait. -/
  waitIndex : Nat
  deriving DecidableEq, Repr

/-- Without further wishes a read is consistent and does not wait. -/
def ReadOptions.standard : ReadOptions :=
  ⟨true, 0⟩

/-- The wait index after a marker of `version`: that version, but never zero, so that only reads
before the first marker return at once. -/
def waitIndexAfter (version : Nat) : Nat :=
  max version 1

end FloatingIp
